import Mathlib.Algebra.Group.Nat.Defs

/-!
# Little-endian numbers

A number below `256 ^ n` and its `n` bytes, the low byte first, determine each
other (`decode_encode`, `encode_decode`).
-/

namespace LittleEndian

/-- The number that bytes stand for. -/
def decode : List UInt8 → Nat
  | [] => 0
  | b :: bytes => b.toNat + 256 * decode bytes

/-- The `n` low bytes of a number. -/
def encode : (value n : Nat) → List UInt8
  | _, 0 => []
  | value, n + 1 => UInt8.ofNat value :: encode (value >>> 8) n

@[simp] theorem encode_length (value n : Nat) : (encode value n).length = n := by
  induction n generalizing value with
  | zero => rfl
  | succ n ih =>
      unfold encode
      rw [List.length_cons, ih]

theorem decode_lt (bytes : List UInt8) : decode bytes < 256 ^ bytes.length := by
  induction bytes with
  | nil => decide
  | cons b bytes ih =>
      have hb := b.toNat_lt
      unfold decode
      rw [List.length_cons, Nat.pow_succ]
      omega

/-- What was written is read back. -/
theorem decode_encode {value n : Nat} (h : value < 256 ^ n) : decode (encode value n) = value := by
  induction n generalizing value with
  | zero =>
      rw [Nat.pow_zero] at h
      unfold encode decode
      omega
  | succ n ih =>
      have hrest : value >>> 8 < 256 ^ n := by
        rw [Nat.shiftRight_eq_div_pow]
        rw [Nat.pow_succ] at h
        omega
      unfold encode decode
      rw [ih hrest, Nat.shiftRight_eq_div_pow, UInt8.toNat_ofNat']
      omega

/-- What was read is what is written for it. -/
theorem encode_decode (bytes : List UInt8) : encode (decode bytes) bytes.length = bytes := by
  induction bytes with
  | nil => rfl
  | cons b bytes ih =>
      have hb := b.toNat_lt
      have hlow : UInt8.ofNat (b.toNat + 256 * decode bytes) = b := by
        rw [← UInt8.toNat_inj, UInt8.toNat_ofNat']
        omega
      have hhigh : (b.toNat + 256 * decode bytes) >>> 8 = decode bytes := by
        rw [Nat.shiftRight_eq_div_pow]
        omega
      unfold decode
      rw [List.length_cons]
      unfold encode
      rw [hlow, hhigh, ih]

/-- A front of `n` bytes holds a number exactly when it is that number's bytes. -/
theorem split_iff {value n : Nat} {data rest : List UInt8} :
    (∃ bytes, data = bytes ++ rest ∧ bytes.length = n ∧ value = decode bytes) ↔
      value < 256 ^ n ∧ data = encode value n ++ rest := by
  constructor
  · intro h
    obtain ⟨bytes, rfl, rfl, rfl⟩ := h
    exact ⟨decode_lt bytes, by rw [encode_decode]⟩
  · intro h
    obtain ⟨hlt, rfl⟩ := h
    exact ⟨_, rfl, encode_length value n, (decode_encode hlt).symm⟩

end LittleEndian
