import FlagState.Proofs.Generation.WellFormedArms
import FlagState.Proofs.Text.Encoding

/-!
A listing can be read back: whatever the names of its countries hold, its lines tell the arms that were
written (`Arm.ofLine?_text`), and neither the header nor the footer is taken for an arm
(`decode?_listed`).
-/
namespace FlagState
namespace Text

theorem after?_append (head t : Text) : after? head (head ++ t) = some t := by
  induction head with
  | nil => rfl
  | cons c head ih => rw [List.cons_append, after?, if_pos rfl, ih]

end Text

namespace Arm

/-- Reads what follows the comment mark, where there is one. -/
def ofRow? (suppressed : Bool) (t : Text) : Option Arm := do
  let t ← Text.after? indent t
  let code ← Text.after? " => Some(\"" (t.drop 3)
  let country ← Text.after? "\"), // " (code.drop 2)
  return ⟨t.take 3, code.take 2, country, suppressed⟩

/-- Reads a line of a listing; nothing if it shows no arm. -/
def ofLine? (line : Text) : Option Arm :=
  match Text.after? "//" line with
  | some t => ofRow? true t
  | none => ofRow? false line

namespace WellFormed

variable {a : Arm} (h : a.WellFormed)

include h

theorem newline_not_mem_text : '\n' ∉ a.text := by
  have hm : '\n' ∉ a.mid := fun hn => absurd (List.all_eq_true.mp h.mid.2 _ hn) (by decide)
  have hc : '\n' ∉ a.alpha2 := fun hn => absurd (List.all_eq_true.mp h.alpha2.2 _ hn) (by decide)
  have hs : '\n' ∉ (if a.suppressed then "//" else "").toList := by
    split <;> decide
  simp only [text, List.mem_append, not_or]
  exact ⟨⟨⟨⟨⟨⟨hs, by decide⟩, hm⟩, by decide⟩, hc⟩, by decide⟩, h.country_line⟩

private theorem ofRow?_row (suppressed : Bool) :
    ofRow? suppressed
      (indent ++ (a.mid ++ (" => Some(\"" ++ (a.alpha2 ++ ("\"), // " ++ a.country))))) =
      some { a with suppressed } := by
  simp only [ofRow?, Text.after?_append, List.drop_left' h.mid.1, List.drop_left' h.alpha2.1,
    List.take_left' h.mid.1, List.take_left' h.alpha2.1, Option.bind_eq_bind, Option.bind_some,
    Option.pure_def]

/-- No entry begins with the comment mark, so that the mark tells the suppressed arms. -/
theorem ofLine?_text : ofLine? a.text = some a := by
  unfold ofLine?
  cases hs : a.suppressed with
  | true =>
    have ht : a.text = "//" ++ (indent ++ (a.mid ++ (" => Some(\"" ++ (a.alpha2 ++ ("\"), // " ++ a.country))))) := by
      simp only [text, hs, if_true, List.append_assoc]
    rw [ht, Text.after?_append]
    simp only [h.ofRow?_row, ← hs]
  | false =>
    have ht : a.text = indent ++ (a.mid ++ (" => Some(\"" ++ (a.alpha2 ++ ("\"), // " ++ a.country)))) := by
      simp [text, hs, List.append_assoc]
    have hn : Text.after? "//" a.text = none := by
      rw [ht]
      rfl
    rw [hn, ht]
    simp only [h.ofRow?_row, ← hs]

end WellFormed

theorem split_lines_append {as : List Arm} (h : ∀ a ∈ as, a.WellFormed) (t : Text) :
    Text.lines (lines as ++ t) = as.map text ++ Text.lines t := by
  induction as with
  | nil => rfl
  | cons a as ih =>
    have hn := (h a List.mem_cons_self).newline_not_mem_text
    have hi := ih fun b hb => h b (List.mem_cons_of_mem a hb)
    have ha : lines (a :: as) ++ t = a.text ++ '\n' :: (lines as ++ t) := by
      simp only [lines, List.map_cons, List.flatten_cons, List.append_assoc, List.cons_append,
        List.nil_append]
    rw [ha, Text.lines_append, Text.lines_of_not_mem hn, hi]
    rfl

end Arm

/-- Reads the arms of a listing of known layout and function name from its bytes. -/
def Listing.decode? (layout : Layout) (functionName : Text) (bytes : List UInt8) : Option (List Arm) :=
  (Text.ofUtf8? bytes).map fun t =>
    (Text.lines (t.drop (layout.header functionName).length)).filterMap Arm.ofLine?

namespace Generation

open Listing (decode?)

theorem decode?_listed (tables : Tables) (layout : Layout) (functionName : Text) :
    decode? layout functionName (listed tables layout functionName).utf8 = some (arms tables) := by
  have hw (arm : Arm) (h : arm ∈ arms tables) : arm.WellFormed := (wellFormed_of_mem_arms h).1
  have ha : ((arms tables).map Arm.text).filterMap Arm.ofLine? = arms tables := by
    rw [List.filterMap_map]
    exact (List.filterMap_congr fun arm h => (hw arm h).ofLine?_text).trans List.filterMap_some
  have hc : (Text.lines (closing tables layout)).filterMap Arm.ofLine? = [] := by
    unfold closing
    cases layout <;> split <;> decide
  rw [decode?, Text.ofUtf8?_utf8, Option.map_some, listed_eq_arms, List.append_assoc, List.drop_left,
    Arm.split_lines_append hw, List.filterMap_append, ha, hc, List.append_nil]

/-- One decoder recovers the arms from the output of every run of a layout and a function name. Two runs
with the same output have listed the same arms. -/
theorem output_tells_arms (s t : Tables) {l k : Listing} (hl : l.sink.capacity = none)
    (hk : k.sink.capacity = none) (hlayout : k.layout = l.layout) (hname : k.functionName = l.functionName)
    {d e : Sink} (hd : d.capacity = none) (he : e.capacity = none) :
    output s l d = (l.layout.header l.functionName ++ Arm.lines (arms s) ++ closing s l.layout).utf8 ∧
      decode? l.layout l.functionName (output s l d) = some (arms s) ∧
      (output s l d = output t k e → arms s = arms t) := by
  have hs : decode? l.layout l.functionName (output s l d) = some (arms s) := by
    rw [output_eq s hl hd, decode?_listed]
  have ht : decode? l.layout l.functionName (output t k e) = some (arms t) := by
    rw [output_eq t hk he, hlayout, hname, decode?_listed]
  refine ⟨?_, hs, fun h => ?_⟩
  · rw [output_eq s hl hd, listed_eq_arms]
  · rw [h, ht] at hs
    exact (Option.some.inj hs).symm

/-- A name that looks like a suppressed arm. -/
def entryName : Text := "//            306 => Some(\"AA\"), // A"

/-- One row of that name, and behind it whatever `rest` holds. -/
def entryTables (qualifier rest : Text) : Tables :=
  ⟨"306\t" ++ entryName ++ qualifier ++ rest, entryName ++ "  BB BBB 2"⟩

private theorem arms_entryTables {qualifier rest : Text} {a : Allocation}
    (h : (entryTables qualifier rest).linewiseAllocations = [⟨"306", entryName⟩, a])
    (hc : (entryTables qualifier rest).code? entryName = some ("BB" : Text))
    (ha : (entryTables qualifier rest).code? a.country = none) :
    arms (entryTables qualifier rest) = [⟨"306", "BB", entryName, false⟩] := by
  rw [← alpha2?_countriesOf] at hc ha
  rw [arms_eq_armsAfter, h, Matching.armsAfter_cons_of_known hc, Matching.armsAfter_cons_of_unknown ha]
  rfl

/-- Both runs end with an unknown country, but not with the same one. -/
theorem output_tells_arms_entry :
    output (entryTables "" "\n306\tD") (.into (Sink.ofCapacity none) .entries) (Sink.ofCapacity none) =
        output (entryTables " (x)" "\n-\n307\tE") (.into (Sink.ofCapacity none) .entries)
          (Sink.ofCapacity none) ∧
      arms (entryTables "" "\n306\tD") = arms (entryTables " (x)" "\n-\n307\tE") ∧
      decode? .entries Listing.defaultFunctionName (output (entryTables "" "\n306\tD")
        (.into (Sink.ofCapacity none) .entries) (Sink.ofCapacity none)) =
          some [⟨"306", "BB", entryName, false⟩] := by
  have hs : (entryTables "" "\n306\tD").linewiseAllocations = [⟨"306", entryName⟩, ⟨"306", "D"⟩] := by
    rw [Tables.linewiseAllocations_eq_evaluated]
    decide +kernel
  have ht : (entryTables " (x)" "\n-\n307\tE").linewiseAllocations =
      [⟨"306", entryName⟩, ⟨"307", "E"⟩] := by
    rw [Tables.linewiseAllocations_eq_evaluated]
    decide +kernel
  have has := arms_entryTables hs (by decide +kernel) (by decide +kernel)
  have hat := arms_entryTables ht (by decide +kernel) (by decide +kernel)
  have hl : (Listing.into (Sink.ofCapacity none) .entries).sink.capacity = none := rfl
  have hd : (Sink.ofCapacity none).capacity = none := rfl
  have hlayout : (Listing.into (Sink.ofCapacity none) .entries).layout = .entries := rfl
  have ho : output (entryTables "" "\n306\tD") (.into (Sink.ofCapacity none) .entries)
      (Sink.ofCapacity none) = output (entryTables " (x)" "\n-\n307\tE")
        (.into (Sink.ofCapacity none) .entries) (Sink.ofCapacity none) := by
    simp only [output_eq _ hl hd, listed_eq_arms, has, hat, hlayout, closing_entries]
  obtain ⟨-, hdec, htell⟩ := output_tells_arms (entryTables "" "\n306\tD")
    (entryTables " (x)" "\n-\n307\tE") hl hl rfl rfl hd hd
  exact ⟨ho, htell ho, hdec.trans (congrArg some has)⟩

end Generation
end FlagState
