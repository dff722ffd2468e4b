import FluidGateway.ReferencePayloads

/-!
# What the readers of the reference accept

A text is accepted exactly when its bytes are the UTF-8 bytes of a text, and
what was written is read back.
-/

namespace FluidGateway.FluidLink

open Native (Bytes)

/-! ## Texts -/

/-- The bytes of a text, as an array of bytes. -/
theorem utf8_toByteArray (s : String) : (⟨(utf8 s).toArray⟩ : ByteArray) = s.toByteArray := by
  have hencode : s.toList.utf8Encode = s.toByteArray := String.utf8Encode_toList
  rw [← hencode]
  apply ByteArray.ext
  exact List.data_toByteArray.symm

/-- **The bytes that are decoded are those of the text.** -/
theorem decodeUtf8_eq_some {data : Bytes} {s : String} :
    decodeUtf8 data = some s ↔ data = utf8 s := by
  have hbytes : data = utf8 s ↔ (⟨data.toArray⟩ : ByteArray) = s.toByteArray := by
    rw [← utf8_toByteArray, ByteArray.mk.injEq]
    exact ⟨congrArg List.toArray, fun h => congrArg Array.toList h⟩
  unfold decodeUtf8 String.fromUTF8?
  rw [hbytes]
  split_ifs with hvalid
  · rw [Option.some.injEq]
    constructor
    · rintro rfl
      rfl
    · intro h
      rw [← String.toByteArray_inj]
      exact h
  · refine iff_of_false (by simp) ?_
    intro h
    exact hvalid (h ▸ s.isValidUTF8)

@[simp] theorem decodeUtf8_utf8 (s : String) : decodeUtf8 (utf8 s) = some s :=
  decodeUtf8_eq_some.mpr rfl

end FluidGateway.FluidLink
