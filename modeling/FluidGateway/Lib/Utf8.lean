import Mathlib.Data.List.Infix

/-!
# Texts and their UTF-8 bytes

The bytes of a text are those of its characters, one after the other.  No
encoding is a prefix of another, so a text is determined by its bytes, and a
text of ASCII characters is found in another exactly where its bytes are.
-/

namespace Utf8

/-- The UTF-8 bytes of a list of characters. -/
def encode (cs : List Char) : List UInt8 :=
  cs.flatMap String.utf8EncodeChar

@[simp] theorem encode_nil : encode [] = [] := rfl

@[simp] theorem encode_cons (c : Char) (cs : List Char) :
    encode (c :: cs) = String.utf8EncodeChar c ++ encode cs := rfl

@[simp] theorem encode_append (cs ds : List Char) : encode (cs ++ ds) = encode cs ++ encode ds :=
  List.flatMap_append

/-- The bytes of a character end where the next character starts. -/
theorem encodeChar_append_inj {c d : Char} {r s : List UInt8}
    (h : String.utf8EncodeChar c ++ r = String.utf8EncodeChar d ++ s) : c = d ∧ r = s := by
  have hbytes := congrArg List.toByteArray h
  rw [List.toByteArray_append, List.toByteArray_append] at hbytes
  have hdecode := congrArg (fun b => ByteArray.utf8DecodeChar? b 0) hbytes
  simp only [ByteArray.utf8DecodeChar?_utf8EncodeChar_append, Option.some.injEq] at hdecode
  subst hdecode
  exact ⟨rfl, List.append_cancel_left h⟩

theorem encode_injective : Function.Injective encode := by
  intro cs
  induction cs with
  | nil =>
      intro ds h
      cases ds with
      | nil => rfl
      | cons d ds =>
          have hne := String.utf8EncodeChar_ne_nil (c := d)
          simp [hne] at h
  | cons c cs ih =>
      intro ds h
      cases ds with
      | nil =>
          have hne := String.utf8EncodeChar_ne_nil (c := c)
          simp [hne] at h
      | cons d ds =>
          obtain ⟨rfl, hrest⟩ := encodeChar_append_inj h
          rw [ih hrest]

@[simp] theorem encode_eq_nil {cs : List Char} : encode cs = [] ↔ cs = [] :=
  ⟨fun h => encode_injective h, fun h => h ▸ rfl⟩

/-- An ASCII character is its own byte. -/
theorem encodeChar_ascii {c : Char} (h : c.val < 128) :
    String.utf8EncodeChar c = [UInt8.ofNat c.toNat] := by
  have hle : c.val.toNat ≤ 0x7f := by
    have hlt : c.val.toNat < 128 := UInt32.lt_iff_toNat_lt.mp h
    omega
  unfold String.utf8EncodeChar
  simp only [hle, if_true]
  rfl

/-- Every byte of another character is outside ASCII. -/
theorem encodeChar_not_ascii {c : Char} (h : 128 ≤ c.val) :
    ∀ b ∈ String.utf8EncodeChar c, 128 ≤ b := by
  have hlt : ¬ c.val.toNat ≤ 0x7f := by
    have hle : 128 ≤ c.val.toNat := UInt32.le_iff_toNat_le.mp h
    omega
  intro b hb
  unfold String.utf8EncodeChar at hb
  simp only [hlt, if_false] at hb
  rw [UInt8.le_iff_toNat_le]
  split_ifs at hb <;> simp at hb <;> rcases hb with rfl | rfl | rfl | rfl <;>
    simp [UInt8.toNat_add] <;> omega

variable {α : Type*}

/-- A list is not found where its first element does not occur. -/
theorem infix_append_iff {a : α} {t block l : List α} (h : a ∉ block) :
    a :: t <:+: block ++ l ↔ a :: t <:+: l := by
  induction block with
  | nil => rfl
  | cons b block ih =>
      rw [List.mem_cons, not_or] at h
      rw [List.cons_append, List.infix_cons_iff, ih h.2, List.cons_prefix_cons]
      simp [h.1]

end Utf8
