import FlagState.Text

/-!
Texts as bytes: every text is read back from its bytes, and no bytes are read but those of a text
(`ofUtf8?_eq_some_iff`).
-/
namespace FlagState.Text

theorem ofUtf8?_utf8 (t : Text) : ofUtf8? t.utf8 = some t := by
  have he : (⟨t.utf8.toArray⟩ : ByteArray) = t.utf8Encode := ByteArray.ext List.data_toByteArray.symm
  have hs : String.fromUTF8 t.utf8Encode ByteArray.isValidUTF8_utf8Encode = String.ofList t :=
    String.toByteArray_inj.mp String.toByteArray_ofList.symm
  rw [ofUtf8?, he, String.fromUTF8?, dif_pos ByteArray.isValidUTF8_utf8Encode, hs, Option.map_some,
    String.toList_ofList]

theorem ofUtf8?_eq_some_iff {bytes : List UInt8} {t : Text} : ofUtf8? bytes = some t ↔ t.utf8 = bytes := by
  constructor
  · intro h
    unfold ofUtf8? String.fromUTF8? at h
    split at h
    · next hv =>
      obtain rfl := Option.some.inj h
      have he : (String.fromUTF8 ⟨bytes.toArray⟩ hv).toList.utf8Encode = ⟨bytes.toArray⟩ := by
        rw [← String.toByteArray_ofList, String.ofList_toList]
        rfl
      have hd := congrArg ByteArray.data he
      rw [List.utf8Encode, List.data_toByteArray] at hd
      exact congrArg Array.toList hd
    · cases h
  · rintro rfl
    exact ofUtf8?_utf8 t

theorem ofUtf8?_eq_none_iff {bytes : List UInt8} : ofUtf8? bytes = none ↔ ∀ t : Text, t.utf8 ≠ bytes := by
  rw [Option.eq_none_iff_forall_ne_some]
  exact forall_congr' fun t => not_congr ofUtf8?_eq_some_iff

end FlagState.Text
