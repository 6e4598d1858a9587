/-!
Texts as lists of characters, cut into lines, counted in UTF-8 bytes, and numbers in decimal. Cutting loses
nothing (`unlines_lines`) and respects a line feed between two texts (`lines_append`).
-/
namespace FlagState

/-- Texts are lists of characters, so that recognisers recurse on them. -/
abbrev Text := List Char

instance : Coe String Text := ⟨String.toList⟩

namespace Text

/-- The texts with a character between each two of them. -/
abbrev join (sep : Char) (ts : List Text) : Text := [sep].intercalate ts

/-- Only the line feed ends a line; a carriage return stays in it. -/
def lines (t : Text) : List Text := t.splitOn '\n'

def unlines (ts : List Text) : Text := join '\n' ts

theorem lines_ne_nil (t : Text) : lines t ≠ [] := List.splitOn_ne_nil '\n' t

theorem unlines_lines (t : Text) : unlines (lines t) = t := List.intercalate_splitOn '\n'

theorem lines_append (s t : Text) : lines (s ++ '\n' :: t) = lines s ++ lines t :=
  List.splitOn_append_cons_self s t

theorem lines_of_not_mem {t : Text} (h : '\n' ∉ t) : lines t = [t] := List.splitOn_eq_singleton h

theorem not_mem_of_mem_lines {t line : Text} (h : line ∈ lines t) : '\n' ∉ line := by
  induction t generalizing line with
  | nil =>
    obtain rfl := List.mem_singleton.mp h
    exact List.not_mem_nil
  | cons c t ih =>
    rw [lines, List.splitOn_cons_eq_if_modifyHead] at h
    split at h
    · obtain rfl | h := List.mem_cons.mp h
      · exact List.not_mem_nil
      · exact ih h
    next hc =>
      obtain ⟨u, us, hu⟩ := List.exists_cons_of_ne_nil (lines_ne_nil t)
      have hus (v : Text) (hv : v ∈ u :: us) : '\n' ∉ v := ih (hu ▸ hv)
      rw [← lines, hu, List.modifyHead_cons] at h
      obtain rfl | h := List.mem_cons.mp h
      · rw [List.mem_cons, not_or]
        exact ⟨fun he => hc (by simp [← he]), hus u List.mem_cons_self⟩
      · exact hus line (List.mem_cons_of_mem u h)

theorem unlines_singleton (t : Text) : unlines [t] = t := List.intercalate_singleton

theorem unlines_cons_cons (t u : Text) (ts : List Text) :
    unlines (t :: u :: ts) = t ++ '\n' :: unlines (u :: ts) := by
  rw [unlines, join, List.intercalate_cons_cons, List.append_assoc]
  rfl

theorem isInfix_unlines {ts : List Text} {line : Text} (h : line ∈ ts) : line <:+: unlines ts := by
  induction ts with
  | nil => cases h
  | cons t ts ih =>
    cases ts with
    | nil =>
      obtain rfl := List.mem_singleton.mp h
      exact (unlines_singleton line).symm ▸ List.infix_rfl
    | cons u ts =>
      rw [unlines_cons_cons]
      obtain rfl | h := List.mem_cons.mp h
      · exact (List.prefix_append line _).isInfix
      · exact (ih h).trans ((List.suffix_cons _ _).trans (List.suffix_append _ _)).isInfix

theorem isInfix_of_mem_lines {t line : Text} (h : line ∈ lines t) : line <:+: t :=
  unlines_lines t ▸ isInfix_unlines h

/-- What is left of a text that begins with `head`. -/
def after? : Text → Text → Option Text
  | [], t => some t
  | _ :: _, [] => none
  | c :: head, d :: t => if c = d then after? head t else none

def utf8 (t : Text) : List UInt8 := t.flatMap String.utf8EncodeChar

theorem utf8_append (s t : Text) : utf8 (s ++ t) = utf8 s ++ utf8 t := List.flatMap_append

/-- Refuses bytes that encode no text. -/
def ofUtf8? (bytes : List UInt8) : Option Text :=
  (String.fromUTF8? ⟨bytes.toArray⟩).map String.toList

def decimal (n : Nat) : Text := Nat.toDigits 10 n

end Text
end FlagState
