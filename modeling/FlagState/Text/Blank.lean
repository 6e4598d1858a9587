import FlagState.Text

/-!
The characters with the property White_Space of Unicode, 25 in 10 ranges.
-/
namespace FlagState.Text

/-- First and last code point of each run of blank characters, in order. -/
def blankRanges : List (Nat × Nat) :=
  [(0x0009, 0x000D), (0x0020, 0x0020), (0x0085, 0x0085), (0x00A0, 0x00A0), (0x1680, 0x1680),
   (0x2000, 0x200A), (0x2028, 0x2029), (0x202F, 0x202F), (0x205F, 0x205F), (0x3000, 0x3000)]

def isBlank (c : Char) : Bool :=
  blankRanges.any fun r => r.1 ≤ c.toNat && c.toNat ≤ r.2

example : blankRanges.length = 10 := rfl

example : (blankRanges.map fun r => r.2 + 1 - r.1).sum = 25 := rfl

example : blankRanges.Pairwise fun a b => a.2 < b.1 := by decide

theorem isBlank_of_isWhitespace {c : Char} (h : c.isWhitespace = true) : isBlank c = true := by
  simp only [Char.isWhitespace, Bool.or_eq_true, decide_eq_true_eq] at h
  obtain ((rfl | rfl) | rfl) | rfl := h <;> decide

/-- What follows the first character that is no blank, from that character on. -/
def skipBlanks (t : Text) : Text := t.dropWhile isBlank

/-- At least one blank must stand at the head; all that stand there are dropped. -/
def afterBlanks? : Text → Option Text
  | [] => none
  | c :: t => if isBlank c then some (skipBlanks t) else none

end FlagState.Text
