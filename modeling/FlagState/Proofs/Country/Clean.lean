import FlagState.Proofs.Country.Grammar
import FlagState.Proofs.Country.Index

/-!
An index read from a table holds clean countries only, whatever was overwritten on the way
(`Index.clean_of_mem_ofTable`). Their names end in no blank, and no name that does is found
(`Index.find?_ofTable_of_endsInBlank`).
-/
namespace FlagState

/-- A blank stands last. -/
def Text.endsInBlank (t : Text) : Bool := t.getLast?.any isBlank

namespace Country

theorem Clean.endsInBlank_name {c : Country} (h : c.Clean) : c.name.endsInBlank = false := by
  have he := List.rdropWhile_eq_self_iff.mp h.name_end
  by_cases hne : c.name = []
  · rw [hne]
    rfl
  · rw [Text.endsInBlank, List.getLast?_eq_some_getLast hne, Option.any_some]
    simpa using he hne

theorem clean_of_mem_ofLines {lines : List Text} {c : Country} (h : c ∈ ofLines lines) : c.Clean := by
  obtain ⟨line, -, hl⟩ := mem_ofLines.mp h
  obtain ⟨r, rfl, -⟩ := exists_writtenRow (Row.ofLine_eq_country.mp hl)
  exact r.clean

namespace Index

variable {x : Index} {c d : Country}

theorem mem_insert (h : d ∈ (x.insert c).countries) : d = c ∨ d ∈ x.countries := by
  obtain rfl | h := List.mem_cons.mp h
  · exact .inl rfl
  · exact .inr (List.mem_filter.mp h).1

theorem mem_foldl_insert {cs : List Country} (h : d ∈ (cs.foldl insert x).countries) :
    d ∈ cs ∨ d ∈ x.countries := by
  induction cs generalizing x with
  | nil => exact .inr h
  | cons c cs ih =>
    obtain h | h := ih h
    · exact .inl (List.mem_cons_of_mem c h)
    · obtain rfl | h := mem_insert h
      · exact .inl List.mem_cons_self
      · exact .inr h

theorem clean_of_mem_ofTable {table : Text} (h : c ∈ (ofTable table).value.1.countries) : c.Clean := by
  simp only [ofTable, Noted.value_bind, Noted.value_pure, value_readLines] at h
  obtain h | h := mem_foldl_insert h
  · exact clean_of_mem_ofLines h
  · cases h

theorem find?_ofTable_of_endsInBlank {name : Text} (h : name.endsInBlank = true) (table : Text) :
    (ofTable table).value.1.find? name = none := by
  rw [Option.eq_none_iff_forall_ne_some]
  intro c hc
  have hclean := clean_of_mem_ofTable (List.mem_of_find?_eq_some hc)
  have hn := hclean.endsInBlank_name
  rw [name_of_find? hc, h] at hn
  cases hn

end Index
end Country
end FlagState
