/-! # UTF-8

Texts as bytes and back. Reading refuses every sequence that is not the encoding of a text, so the
two directions are inverse to each other: `ofUtf8?_eq_some_iff`.
-/
namespace Accounts

abbrev Bytes := List UInt8

namespace Text

def utf8 (s : String) : Bytes :=
  s.toList.flatMap String.utf8EncodeChar

def ofUtf8? (bs : Bytes) : Option String :=
  String.fromUTF8? ⟨bs.toArray⟩

theorem toByteArray_eq (s : String) : s.toByteArray = ⟨(utf8 s).toArray⟩ := by
  rw [← String.utf8Encode_toList]
  exact ByteArray.ext (by simp [List.utf8Encode, utf8])

theorem ofUtf8?_utf8 (s : String) : ofUtf8? (utf8 s) = some s := by
  rw [ofUtf8?, ← toByteArray_eq, String.fromUTF8?, dif_pos s.isValidUTF8]
  rfl

/-- The bytes read as a text are exactly its encoding. -/
theorem ofUtf8?_eq_some_iff {bs : Bytes} {s : String} : ofUtf8? bs = some s ↔ bs = utf8 s := by
  refine ⟨fun h => ?_, fun h => h ▸ ofUtf8?_utf8 s⟩
  unfold ofUtf8? String.fromUTF8? at h
  split at h
  · next hv =>
    cases h
    have he : (⟨bs.toArray⟩ : ByteArray) = _ := toByteArray_eq (String.fromUTF8 ⟨bs.toArray⟩ hv)
    simpa using he
  · cases h

theorem length_le_utf8 (s : String) : s.length ≤ (utf8 s).length := by
  rw [utf8, ← String.length_toList]
  induction s.toList with
  | nil => exact Nat.le_refl 0
  | cons c cs ih =>
    have hc : 0 < (String.utf8EncodeChar c).length := by
      rw [String.length_utf8EncodeChar]
      exact c.utf8Size_pos
    rw [List.flatMap_cons, List.length_append, List.length_cons]
    omega

theorem utf8_injective {s t : String} (h : utf8 s = utf8 t) : s = t := by
  have h' := ofUtf8?_utf8 s
  rw [h, ofUtf8?_utf8] at h'
  exact (Option.some.inj h').symm

end Text

end Accounts
