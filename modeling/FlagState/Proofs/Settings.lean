import FlagState.Proofs.Settings.Fields

/-!
The settings of the output told by the document that is read: each is what its section says of it, or else
the default (`output_of_load`).
-/
namespace FlagState.Settings

open Toml (Items Value)

/-- The file that is read, if any is. -/
def source? (fs : FileSystem) : Option Text → Option Text
  | some path => some path
  | none => if fs.isFile defaultFile then some defaultFile else none

/-- The document that is read. -/
def document? (fs : FileSystem) (asked : Option Text) : Option Items := do
  Toml.Document.ofText? (← (fs.readText (← source? fs asked)).toOption)

/-- What a document says of an item of the output. -/
def outputItem? {α : Type} (name : Text) (read? : Value → Option α) (document : Items) : Option α :=
  (item? "output" (section? ["format", "function_name"]) document).bind (item? name read?)

variable {s : Settings} {fs : FileSystem} {asked : Option Text}

private theorem output_of_items {document : Items} (h : ofItems? document = some s) :
    s.output.layout = (outputItem? "format" layout? document).getD .entries ∧
      s.output.functionName =
        (outputItem? "function_name" text? document).getD Listing.defaultFunctionName := by
  have hs := ofItems?_eq_some_iff.mp h
  have hl := hs.layout.eq_getD layout?_eq_some_iff
  have hf := hs.functionName.eq_getD text?_eq_some_iff
  rw [Field.given?_bind] at hl hf
  exact ⟨hl, hf⟩

private theorem items_of_file {path : Text} (h : ofFile fs path = .ok s) :
    ∃ document, (fs.readText path).toOption.bind Toml.Document.ofText? = some document ∧
      ofItems? document = some s := by
  unfold ofFile at h
  split at h
  · cases h
  next t ht =>
    split at h
    · next s' hs =>
      obtain rfl := Except.ok.inj h
      rw [ht]
      exact Option.bind_eq_some_iff.mp hs
    · cases h

private theorem load_eq :
    load fs asked = match source? fs asked with
      | some path => ofFile fs path
      | none => .ok .default := by
  cases asked with
  | some path => rfl
  | none =>
    unfold load source?
    cases fs.isFile defaultFile <;> rfl

/-- Settings are those of the document that is read, if one is. -/
private theorem document_of_load (h : load fs asked = .ok s) :
    document? fs asked = none ∧ s = .default ∨
      ∃ document, document? fs asked = some document ∧ ofItems? document = some s := by
  rw [load_eq] at h
  unfold document?
  cases hp : source? fs asked with
  | none =>
    rw [hp] at h
    exact .inl ⟨rfl, (Except.ok.inj h).symm⟩
  | some path =>
    rw [hp] at h
    exact .inr (items_of_file h)

theorem output_of_load (h : load fs asked = .ok s) :
    s.output.layout = ((document? fs asked).bind (outputItem? "format" layout?)).getD .entries ∧
      s.output.functionName =
        ((document? fs asked).bind (outputItem? "function_name" text?)).getD Listing.defaultFunctionName := by
  obtain ⟨hd, rfl⟩ | ⟨document, hd, hi⟩ := document_of_load h
  · rw [hd]
    exact ⟨rfl, rfl⟩
  · rw [hd]
    exact output_of_items hi

end FlagState.Settings
