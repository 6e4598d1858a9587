import FlagState.Toml.Quoted

/-!
Dates and times of day, alone or together, then also with an offset. The day has to exist in its month; a
minute may have a leap second.
-/
namespace FlagState.Toml.Reader

def isLeapYear (year : Nat) : Bool := year % 4 = 0 && (year % 100 != 0 || year % 400 = 0)

def daysIn (year month : Nat) : Nat :=
  match month with
  | 2 => if isLeapYear year then 29 else 28
  | 4 | 6 | 9 | 11 => 30
  | _ => 31

/-- Exactly `n` digits that denote a number from `low` to `high`. -/
def bounded (n low high : Nat) : Reader Nat := do
  let v := valueIn 10 (← exactly Char.isDigit n)
  if low ≤ v && v ≤ high then return v else failure

def date : Reader Unit := do
  let year ← bounded 4 0 9999
  char '-'
  let month ← bounded 2 1 12
  char '-'
  discard (bounded 2 1 (daysIn year month))

def timeOfDay : Reader Unit := do
  discard (bounded 2 0 23)
  char ':'
  discard (bounded 2 0 59)
  char ':'
  discard (bounded 2 0 60)
  discard (optional (char '.' *> takeWhile1 Char.isDigit))

def offset : Reader Unit :=
  discard (satisfy fun c => c = 'Z' || c = 'z') <|> do
    discard (satisfy fun c => c = '+' || c = '-')
    discard (bounded 2 0 23)
    char ':'
    discard (bounded 2 0 59)

def moment : Reader Unit :=
  (do
    date
    discard (optional do
      discard (satisfy fun c => c = 'T' || c = 't' || c = ' ')
      timeOfDay
      optional offset)) <|>
  timeOfDay

end FlagState.Toml.Reader
