import FluidGateway.Lib.Utf8

/-!
# The grammar of UTF-8

The byte sequences of RFC 3629 with the code points that they stand for, one
rule for each row of its table of well-formed sequences.  `Scalar.exists_char`
and `scalar_pieceOf` say that these are the encodings of characters, and
`spells_iff` that a text is spelled in at most one way.
-/

namespace Utf8Grammar

/-- A continuation byte. -/
def Tail (b : UInt8) : Prop :=
  0x80 ≤ b.toNat ∧ b.toNat ≤ 0xbf

/-- The bytes of one code point. -/
inductive Scalar : ℕ → List UInt8 → Prop
  | one {a : UInt8} (ha : a.toNat ≤ 0x7f) : Scalar a.toNat [a]
  | two {a b : UInt8} (ha : 0xc2 ≤ a.toNat ∧ a.toNat ≤ 0xdf) (hb : Tail b) :
      Scalar ((a.toNat - 0xc0) * 64 + (b.toNat - 0x80)) [a, b]
  /-- The second byte is such that the sequence is neither overlong nor a
  surrogate. -/
  | three {a b c : UInt8} (ha : 0xe0 ≤ a.toNat ∧ a.toNat ≤ 0xef) (hb : Tail b)
      (hlong : a.toNat = 0xe0 → 0xa0 ≤ b.toNat) (hsurrogate : a.toNat = 0xed → b.toNat ≤ 0x9f)
      (hc : Tail c) :
      Scalar ((a.toNat - 0xe0) * 4096 + (b.toNat - 0x80) * 64 + (c.toNat - 0x80)) [a, b, c]
  /-- The second byte is such that the sequence is neither overlong nor beyond
  the last code point. -/
  | four {a b c d : UInt8} (ha : 0xf0 ≤ a.toNat ∧ a.toNat ≤ 0xf4) (hb : Tail b)
      (hlong : a.toNat = 0xf0 → 0x90 ≤ b.toNat) (hlast : a.toNat = 0xf4 → b.toNat ≤ 0x8f)
      (hc : Tail c) (hd : Tail d) :
      Scalar ((a.toNat - 0xf0) * 262144 + (b.toNat - 0x80) * 4096 + (c.toNat - 0x80) * 64 +
        (d.toNat - 0x80)) [a, b, c, d]

/-- The code points of a text, each with its bytes. -/
structure Spells (pieces : List (ℕ × List UInt8)) (text : List UInt8) : Prop where
  scalars : ∀ piece ∈ pieces, Scalar piece.1 piece.2
  text_eq : text = (pieces.map Prod.snd).flatten

def WellFormed (text : List UInt8) : Prop :=
  ∃ pieces, Spells pieces text

/-- The piece of a character. -/
def pieceOf (c : Char) : ℕ × List UInt8 :=
  (c.toNat, String.utf8EncodeChar c)

/-- The bytes of a character of each size. -/
theorem encodeChar_eq (c : Char) : String.utf8EncodeChar c =
    if c.toNat ≤ 0x7f then [UInt8.ofNat c.toNat]
    else if c.toNat ≤ 0x7ff then
      [UInt8.ofNat (c.toNat / 64 % 32 + 0xc0), UInt8.ofNat (c.toNat % 64 + 0x80)]
    else if c.toNat ≤ 0xffff then
      [UInt8.ofNat (c.toNat / 4096 % 16 + 0xe0), UInt8.ofNat (c.toNat / 64 % 64 + 0x80),
        UInt8.ofNat (c.toNat % 64 + 0x80)]
    else
      [UInt8.ofNat (c.toNat / 262144 % 8 + 0xf0), UInt8.ofNat (c.toNat / 4096 % 64 + 0x80),
        UInt8.ofNat (c.toNat / 64 % 64 + 0x80), UInt8.ofNat (c.toNat % 64 + 0x80)] := rfl

/-- The numbers that are code points of characters. -/
theorem scalar_range (c : Char) : c.toNat ≤ 0x10ffff ∧ ¬ (c.toNat ≥ 0xd800 ∧ c.toNat ≤ 0xdfff) := by
  have hvalid : c.val.toNat < 0xd800 ∨ 0xdfff < c.val.toNat ∧ c.val.toNat < 0x110000 := c.valid
  have hval : c.val.toNat = c.toNat := rfl
  omega

theorem exists_char {n : Nat} (h : ¬ (n > 0x10ffff ∨ (n ≥ 0xd800 ∧ n ≤ 0xdfff))) :
    ∃ c : Char, c.toNat = n := by
  have hvalid : n.isValidChar := by
    unfold Nat.isValidChar
    omega
  refine ⟨Char.ofNat n, ?_⟩
  unfold Char.ofNat
  rw [dif_pos hvalid]
  rfl

theorem byte_eq {b : UInt8} {n : Nat} (h : b.toNat = n % 256) : b = UInt8.ofNat n := by
  rw [← UInt8.toNat_inj, UInt8.toNat_ofNat']
  exact h

/-- A sequence stands for a character, and is its encoding. -/
theorem Scalar.exists_char {cp : ℕ} {bytes : List UInt8} (h : Scalar cp bytes) :
    ∃ c : Char, pieceOf c = (cp, bytes) := by
  cases h with
  | @one a ha =>
      obtain ⟨ch, hch⟩ := Utf8Grammar.exists_char (n := a.toNat) (by omega)
      refine ⟨ch, ?_⟩
      rw [pieceOf, encodeChar_eq, hch, if_pos (by omega), byte_eq (b := a) (n := a.toNat) (by omega)]
      simp
  | @two a b ha hb =>
      unfold Tail at hb
      generalize hn : (a.toNat - 0xc0) * 64 + (b.toNat - 0x80) = n
      obtain ⟨ch, hch⟩ := Utf8Grammar.exists_char (n := n) (by omega)
      refine ⟨ch, ?_⟩
      rw [pieceOf, encodeChar_eq, hch, if_neg (by omega), if_pos (by omega),
        ← byte_eq (b := a) (n := n / 64 % 32 + 0xc0) (by omega),
        ← byte_eq (b := b) (n := n % 64 + 0x80) (by omega)]
  | @three a b c ha hb hlong hsurrogate hc =>
      unfold Tail at hb hc
      generalize hn : (a.toNat - 0xe0) * 4096 + (b.toNat - 0x80) * 64 + (c.toNat - 0x80) = n
      obtain ⟨ch, hch⟩ := Utf8Grammar.exists_char (n := n) (by omega)
      refine ⟨ch, ?_⟩
      rw [pieceOf, encodeChar_eq, hch, if_neg (by omega), if_neg (by omega), if_pos (by omega),
        ← byte_eq (b := a) (n := n / 4096 % 16 + 0xe0) (by omega),
        ← byte_eq (b := b) (n := n / 64 % 64 + 0x80) (by omega),
        ← byte_eq (b := c) (n := n % 64 + 0x80) (by omega)]
  | @four a b c d ha hb hlong hlast hc hd =>
      unfold Tail at hb hc hd
      generalize hn : (a.toNat - 0xf0) * 262144 + (b.toNat - 0x80) * 4096 +
        (c.toNat - 0x80) * 64 + (d.toNat - 0x80) = n
      obtain ⟨ch, hch⟩ := Utf8Grammar.exists_char (n := n) (by omega)
      refine ⟨ch, ?_⟩
      rw [pieceOf, encodeChar_eq, hch, if_neg (by omega), if_neg (by omega), if_neg (by omega),
        ← byte_eq (b := a) (n := n / 262144 % 8 + 0xf0) (by omega),
        ← byte_eq (b := b) (n := n / 4096 % 64 + 0x80) (by omega),
        ← byte_eq (b := c) (n := n / 64 % 64 + 0x80) (by omega),
        ← byte_eq (b := d) (n := n % 64 + 0x80) (by omega)]

/-- The encoding of a character is a sequence of the grammar. -/
theorem scalar_pieceOf (c : Char) : Scalar (pieceOf c).1 (pieceOf c).2 := by
  obtain ⟨hmax, hsurrogate⟩ := scalar_range c
  have hof : ∀ n, (UInt8.ofNat n).toNat = n % 256 := fun n => UInt8.toNat_ofNat'
  unfold pieceOf
  rw [encodeChar_eq]
  generalize c.toNat = n at hmax hsurrogate
  split_ifs with hone htwo hthree
  · have h := Scalar.one (a := UInt8.ofNat n) (by rw [hof]; omega)
    rwa [hof, Nat.mod_eq_of_lt (by omega)] at h
  · have h := Scalar.two (a := UInt8.ofNat (n / 64 % 32 + 0xc0))
      (b := UInt8.ofNat (n % 64 + 0x80)) (by rw [hof]; omega) (by unfold Tail; rw [hof]; omega)
    rw [hof, hof] at h
    convert h using 1
    omega
  · have h := Scalar.three (a := UInt8.ofNat (n / 4096 % 16 + 0xe0))
      (b := UInt8.ofNat (n / 64 % 64 + 0x80)) (c := UInt8.ofNat (n % 64 + 0x80))
      (by rw [hof]; omega) (by unfold Tail; rw [hof]; omega) (by rw [hof, hof]; omega)
      (by rw [hof, hof]; omega) (by unfold Tail; rw [hof]; omega)
    rw [hof, hof, hof] at h
    convert h using 1
    omega
  · have h := Scalar.four (a := UInt8.ofNat (n / 262144 % 8 + 0xf0))
      (b := UInt8.ofNat (n / 4096 % 64 + 0x80)) (c := UInt8.ofNat (n / 64 % 64 + 0x80))
      (d := UInt8.ofNat (n % 64 + 0x80)) (by rw [hof]; omega) (by unfold Tail; rw [hof]; omega)
      (by rw [hof, hof]; omega) (by rw [hof, hof]; omega) (by unfold Tail; rw [hof]; omega)
      (by unfold Tail; rw [hof]; omega)
    rw [hof, hof, hof, hof] at h
    convert h using 1
    omega

theorem flatten_pieces (cs : List Char) :
    ((cs.map pieceOf).map Prod.snd).flatten = Utf8.encode cs := by
  induction cs with
  | nil => rfl
  | cons c cs ih =>
      rw [List.map_cons, List.map_cons, List.flatten_cons, ih]
      rfl

/-- Pieces of the grammar are those of characters. -/
theorem exists_chars {pieces : List (ℕ × List UInt8)}
    (h : ∀ piece ∈ pieces, Scalar piece.1 piece.2) : ∃ cs : List Char, pieces = cs.map pieceOf := by
  induction pieces with
  | nil => exact ⟨[], rfl⟩
  | cons piece pieces ih =>
      obtain ⟨c, hc⟩ := (h piece List.mem_cons_self).exists_char
      obtain ⟨cs, rfl⟩ := ih fun p hp => h p (List.mem_cons_of_mem _ hp)
      exact ⟨c :: cs, by rw [List.map_cons, hc]⟩

/-- **A text is spelled by the pieces of its characters, and by no others.** -/
theorem spells_iff {pieces : List (ℕ × List UInt8)} {text : List UInt8} :
    Spells pieces text ↔ ∃ cs : List Char, pieces = cs.map pieceOf ∧ text = Utf8.encode cs := by
  constructor
  · intro h
    obtain ⟨cs, rfl⟩ := exists_chars h.scalars
    exact ⟨cs, rfl, by rw [h.text_eq, flatten_pieces]⟩
  · rintro ⟨cs, rfl, rfl⟩
    refine ⟨?_, (flatten_pieces cs).symm⟩
    intro piece hpiece
    obtain ⟨c, -, rfl⟩ := List.mem_map.mp hpiece
    exact scalar_pieceOf c

theorem Spells.unique {p q : List (ℕ × List UInt8)} {text : List UInt8} (hp : Spells p text)
    (hq : Spells q text) : p = q := by
  obtain ⟨cs, rfl, rfl⟩ := spells_iff.mp hp
  obtain ⟨ds, rfl, hds⟩ := spells_iff.mp hq
  rw [Utf8.encode_injective hds]

end Utf8Grammar
