import FlagState.Toml.Quoted

/-!
Numbers. An underscore may stand between two digits. Integers have 64 bits with a sign; a positive number
with a fraction or an exponent has to be small enough for a double.
-/
namespace FlagState.Toml.Reader

/-- Digits with single underscores between them, which are left out. -/
def digits (isDigit : Char → Bool) : Reader Text := do
  let first ← takeWhile1 isDigit
  let rest ← many (char '_' *> takeWhile1 isDigit)
  return first ++ rest.flatten

/-- Whether a minus sign was taken. -/
def sign : Reader Bool :=
  (char '-' *> return true) <|> (char '+' *> return false) <|> return false

/-- A decimal number has no leading zeros. -/
def wholePart : Reader Text :=
  (char '0' *> return ['0']) <|> digits Char.isDigit

def decimalInteger : Reader Int := do
  let negative ← sign
  let n := valueIn 10 (← wholePart)
  return if negative then -n else n

def integerIn (base : Nat) (mark : Text) (isDigit : Char → Bool) : Reader Int := do
  literal mark
  return valueIn base (← digits isDigit)

def integer : Reader Int := do
  let n ← integerIn 16 "0x" isHexadecimal <|> integerIn 8 "0o" (fun c => '0' ≤ c && c ≤ '7') <|>
    integerIn 2 "0b" (fun c => c = '0' || c = '1') <|> decimalInteger
  if -0x8000000000000000 ≤ n && n ≤ 0x7FFFFFFFFFFFFFFF then return n else failure

/-- Halfway between the greatest double and the number that would follow it. -/
def doubleLimit : Nat := Nat.pow 2 1024 - Nat.pow 2 970

/-- Whether `m * 10 ^ e` reaches the limit. Only numbers of about its size are worked out. -/
def exceedsDouble (m : Nat) (e : Int) : Bool :=
  let magnitude := (Text.decimal m).length + e
  if m = 0 || magnitude < 300 then false
  else if magnitude > 320 then true
  else if 0 ≤ e then doubleLimit ≤ m * Nat.pow 10 e.toNat
  else doubleLimit * Nat.pow 10 (-e).toNat ≤ m

def fraction : Reader Text := char '.' *> digits Char.isDigit

def exponent : Reader Int := do
  discard (satisfy fun c => c = 'e' || c = 'E')
  let negative ← sign
  let n := valueIn 10 (← digits Char.isDigit)
  return if negative then -n else n

/-- A number with a fraction, an exponent or both. -/
def decimalFloat : Reader Unit := do
  let negative ← sign
  let whole ← wholePart
  let places ← optional fraction
  let power ← optional exponent
  if places.isNone && power.isNone then failure
  let places := places.getD []
  let e := power.getD 0 - places.length
  if !negative && exceedsDouble (valueIn 10 (whole ++ places)) e then failure

def float : Reader Unit :=
  decimalFloat <|> do
    discard sign
    literal "inf" <|> literal "nan"

end FlagState.Toml.Reader
