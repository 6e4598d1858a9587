import FlagState.Text

/-!
Dates and times of day in UTC from the microseconds since the beginning of 1970.
-/
namespace FlagState

structure Date where
  year : Nat
  month : Nat
  day : Nat
  deriving DecidableEq, Repr

namespace Date

/-- Years are counted from March, so that the leap day comes last; 146097 days are 400 years. -/
def ofDays (days : Nat) : Date :=
  let shifted := days + 719468
  let dayOfEra := shifted % 146097
  let yearOfEra := (dayOfEra - dayOfEra / 1460 + dayOfEra / 36524 - dayOfEra / 146096) / 365
  let dayOfYear := dayOfEra - (365 * yearOfEra + yearOfEra / 4 - yearOfEra / 100)
  let monthFromMarch := (5 * dayOfYear + 2) / 153
  let month := if monthFromMarch < 10 then monthFromMarch + 3 else monthFromMarch - 9
  let year := yearOfEra + shifted / 146097 * 400 + if month ≤ 2 then 1 else 0
  ⟨year, month, dayOfYear - (153 * monthFromMarch + 2) / 5 + 1⟩

example : ofDays 0 = ⟨1970, 1, 1⟩ := rfl

example : ofDays 19782 = ⟨2024, 2, 29⟩ := rfl

example : ofDays 47540 = ⟨2100, 2, 28⟩ ∧ ofDays 47541 = ⟨2100, 3, 1⟩ := ⟨rfl, rfl⟩

end Date

namespace Text

/-- At least `width` digits. -/
def padded (width n : Nat) : Text :=
  List.replicate (width - (decimal n).length) '0' ++ decimal n

def ofDate (d : Date) : Text :=
  padded 4 d.year ++ '-' :: padded 2 d.month ++ '-' :: padded 2 d.day

def dateAt (microseconds : Nat) : Text := ofDate (Date.ofDays (microseconds / 86400000000))

def timeAt (microseconds : Nat) : Text :=
  let seconds := microseconds / 1000000
  dateAt microseconds ++ 'T' :: padded 2 (seconds / 3600 % 24) ++ ':' ::
    padded 2 (seconds / 60 % 60) ++ ':' :: padded 2 (seconds % 60) ++ '.' ::
    padded 6 (microseconds % 1000000) ++ ['Z']

end Text
end FlagState
