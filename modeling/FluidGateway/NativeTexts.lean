import FluidGateway.WireFormat
import FluidGateway.Texts
import FluidGateway.Lib.Utf8Grammar

/-!
# The texts that the native reader accepts

`trimmed_utf8` decodes by hand.  It takes exactly the bytes of a text from the
front (`scalar_eq_ok`), so it accepts exactly the encoded texts and strips what
`str.strip` strips (`trimmedUtf8_eq_ok`).  In terms of the grammar of UTF-8, it
throws on every other byte string, and returns the text from the first to the
last code point that is not white space (`trimmedUtf8_exact`).
-/

namespace FluidGateway.Native

open Utf8Grammar (encodeChar_eq scalar_range exists_char)

/-- The blanks of the engine are those of the model. -/
theorem whitespace_toNat (c : Char) : whitespace c.toNat = isSpace c := rfl

/-! ## One code point -/

/-- The marker bits of a continuation byte. -/
theorem continuation_marker (b : UInt8) :
    b &&& 0xc0 = 0x80 ↔ 128 ≤ b.toNat ∧ b.toNat < 192 := by
  have hall : ∀ n : Fin 256, (UInt8.ofFin n) &&& 0xc0 = 0x80 ↔ 128 ≤ n.val ∧ n.val < 192 := by
    decide +kernel
  exact hall b.toFin

/-- Shifting in a continuation byte is multiplying by 64 and adding its low bits. -/
theorem continuation_bits (cp : Nat) (b : UInt8) :
    cp <<< 6 ||| (b &&& 63).toNat = 64 * cp + b.toNat % 64 := by
  have hmask : (b &&& 63).toNat = b.toNat % 64 := by
    rw [UInt8.toNat_and]
    exact Nat.and_two_pow_sub_one_eq_mod b.toNat 6
  have hlt : b.toNat % 64 < 2 ^ 6 := Nat.mod_lt _ (by decide)
  rw [hmask, ← Nat.shiftLeft_add_eq_or_of_lt hlt, Nat.shiftLeft_eq]
  omega

/-- A continuation byte has its marker, or the text is malformed. -/
theorem continuation_cons (count cp : Nat) (b : UInt8) (rest : Text) :
    continuation (count + 1) cp (b :: rest) =
      if b &&& 0xc0 ≠ 0x80 then .error (malformed "Invalid UTF-8 continuation.")
      else continuation count (cp <<< 6 ||| (b &&& 63).toNat) rest := rfl

/-- Continuation bytes are read one by one, each from 128 to 191. -/
theorem continuation_succ {count cp : Nat} {text : Text} {r : Nat × Text} :
    continuation (count + 1) cp text = .ok r ↔ ∃ b rest, text = b :: rest ∧ 128 ≤ b.toNat ∧
      b.toNat < 192 ∧ continuation count (64 * cp + b.toNat % 64) rest = .ok r := by
  cases text with
  | nil => simp [continuation]
  | cons b rest =>
      rw [continuation_cons, continuation_bits]
      by_cases hmarker : b &&& 0xc0 = 0x80
      · have hrange := (continuation_marker b).mp hmarker
        rw [if_neg (not_not.mpr hmarker)]
        simp [hrange]
      · rw [if_pos hmarker]
        constructor
        · intro h
          cases h
        · intro h
          obtain ⟨_, _, heq, hlow, hhigh, _⟩ := h
          cases heq
          exact absurd ((continuation_marker b).mpr ⟨hlow, hhigh⟩) hmarker

/-- What a lead byte of each kind says. -/
inductive Lead (n : Nat) : Nat × Nat × Nat → Prop
  | ascii (high : n ≤ 0x7f) : Lead n (n, 0, 0)
  | two (low : 0xc2 ≤ n) (high : n ≤ 0xdf) : Lead n (n % 32, 1, 0x80)
  | three (low : 0xe0 ≤ n) (high : n ≤ 0xef) : Lead n (n % 16, 2, 0x800)
  | four (low : 0xf0 ≤ n) (high : n ≤ 0xf4) : Lead n (n % 8, 3, 0x10000)

/-- A lead byte is accepted exactly where it is one of the four kinds. -/
theorem leadByte_eq_ok {lead : UInt8} {x : Nat × Nat × Nat} :
    leadByte lead = .ok x ↔ Lead lead.toNat x := by
  have h31 : lead.toNat &&& 31 = lead.toNat % 32 := Nat.and_two_pow_sub_one_eq_mod _ 5
  have h15 : lead.toNat &&& 15 = lead.toNat % 16 := Nat.and_two_pow_sub_one_eq_mod _ 4
  have h7 : lead.toNat &&& 7 = lead.toNat % 8 := Nat.and_two_pow_sub_one_eq_mod _ 3
  unfold leadByte
  rw [h31, h15, h7]
  simp only [UInt8.le_iff_toNat_le, UInt8.lt_iff_toNat_lt, UInt8.reduceToNat]
  split_ifs with htwo hthree hfour hbad
  · constructor
    · intro h
      cases h
      exact .two htwo.1 htwo.2
    · intro h
      cases h <;> first | rfl | omega
  · constructor
    · intro h
      cases h
      exact .three hthree.1 hthree.2
    · intro h
      cases h <;> first | rfl | omega
  · constructor
    · intro h
      cases h
      exact .four hfour.1 hfour.2
    · intro h
      cases h <;> first | rfl | omega
  · constructor
    · intro h
      cases h
    · intro h
      cases h <;> omega
  · constructor
    · intro h
      cases h
      exact .ascii (by omega)
    · intro h
      cases h <;> first | rfl | omega

/-- A code point is read exactly where a lead byte is followed by its continuation bytes and
the value is in range for its length. -/
theorem scalar_eq_ok_iff {lead : UInt8} {text rest : Text} {cp : Nat} :
    scalar lead text = .ok (cp, rest) ↔ ∃ bits count minimum,
      Lead lead.toNat (bits, count, minimum) ∧ continuation count bits text = .ok (cp, rest) ∧
        ¬ (cp < minimum ∨ cp > 0x10ffff ∨ (cp ≥ 0xd800 ∧ cp ≤ 0xdfff)) := by
  constructor
  · intro h
    unfold scalar at h
    cases hlead : leadByte lead with
    | error e =>
        rw [hlead] at h
        cases h
    | ok x =>
        obtain ⟨bits, count, minimum⟩ := x
        rw [hlead] at h
        cases hrest : continuation count bits text with
        | error e =>
            simp only [bind, Except.bind, hrest] at h
            cases h
        | ok y =>
            simp only [bind, Except.bind, hrest] at h
            split_ifs at h with hrange
            obtain ⟨rfl, rfl⟩ := Prod.mk.inj (Except.ok.inj h)
            exact ⟨bits, count, minimum, leadByte_eq_ok.mp hlead, hrest, hrange⟩
  · intro h
    obtain ⟨bits, count, minimum, hlead, hrest, hrange⟩ := h
    unfold scalar
    rw [leadByte_eq_ok.mpr hlead]
    simp only [bind, Except.bind, hrest]
    rw [if_neg hrange]

/-- The bits of a character of two bytes. -/
theorem bits_two {l b cp : Nat} (low : 0xc2 ≤ l) (high : l ≤ 0xdf) (hb : 128 ≤ b ∧ b < 192)
    (hcp : 64 * (l % 32) + b % 64 = cp) :
    cp ≤ 0x7ff ∧ l = cp / 64 % 32 + 0xc0 ∧ b = cp % 64 + 0x80 := by
  omega

/-- The three bytes of a code point, from its value. -/
theorem bits_three {l b d cp : Nat} (low : 0xe0 ≤ l) (high : l ≤ 0xef) (hb : 128 ≤ b ∧ b < 192)
    (hd : 128 ≤ d ∧ d < 192) (hcp : 64 * (64 * (l % 16) + b % 64) + d % 64 = cp) :
    cp ≤ 0xffff ∧ l = cp / 4096 % 16 + 0xe0 ∧ b = cp / 64 % 64 + 0x80 ∧ d = cp % 64 + 0x80 := by
  omega

/-- The four bytes of a code point, from its value. -/
theorem bits_four {l b d e cp : Nat} (low : 0xf0 ≤ l) (high : l ≤ 0xf4) (hb : 128 ≤ b ∧ b < 192)
    (hd : 128 ≤ d ∧ d < 192) (he : 128 ≤ e ∧ e < 192)
    (hcp : 64 * (64 * (64 * (l % 8) + b % 64) + d % 64) + e % 64 = cp) :
    l = cp / 262144 % 8 + 0xf0 ∧ b = cp / 4096 % 64 + 0x80 ∧ d = cp / 64 % 64 + 0x80 ∧
      e = cp % 64 + 0x80 := by
  omega

/-- A byte is determined by its value. -/
theorem eq_ofNat {b : UInt8} {n : Nat} (h : b.toNat = n) : b = UInt8.ofNat n := by
  rw [← h, UInt8.ofNat_toNat]

/-- What is read as a code point is the encoding of a character. The cases are the lengths
of the encoding. -/
theorem encodeChar_of_scalar {lead : UInt8} {text rest : Text} {cp : Nat}
    (h : scalar lead text = .ok (cp, rest)) :
    ∃ c : Char, c.toNat = cp ∧ lead :: text = String.utf8EncodeChar c ++ rest := by
  obtain ⟨bits, count, minimum, hkind, hrest, hrange⟩ := scalar_eq_ok_iff.mp h
  obtain ⟨c, hc⟩ := exists_char (n := cp) fun h => hrange (.inr h)
  refine ⟨c, hc, ?_⟩
  rw [encodeChar_eq, hc]
  have hleast : minimum ≤ cp := not_lt.mp fun h => hrange (.inl h)
  cases hkind with
  | ascii high =>
      simp only [continuation, Except.ok.injEq, Prod.mk.injEq] at hrest
      obtain ⟨hcp, rfl⟩ := hrest
      rw [if_pos (hcp ▸ high), eq_ofNat hcp]
      rfl
  | two low high =>
      obtain ⟨b, text, rfl, hlow, hhigh, hrest⟩ := continuation_succ.mp hrest
      simp only [continuation, Except.ok.injEq, Prod.mk.injEq] at hrest
      obtain ⟨hcp, rfl⟩ := hrest
      obtain ⟨hmost, hl, hb⟩ := bits_two low high ⟨hlow, hhigh⟩ hcp
      rw [if_neg (by omega), if_pos hmost, eq_ofNat hl, eq_ofNat hb]
      rfl
  | three low high =>
      obtain ⟨b, text, rfl, hlow, hhigh, hrest⟩ := continuation_succ.mp hrest
      obtain ⟨d, text, rfl, hlow', hhigh', hrest⟩ := continuation_succ.mp hrest
      simp only [continuation, Except.ok.injEq, Prod.mk.injEq] at hrest
      obtain ⟨hcp, rfl⟩ := hrest
      obtain ⟨hmost, hl, hb, hd⟩ := bits_three low high ⟨hlow, hhigh⟩ ⟨hlow', hhigh'⟩ hcp
      clear hcp
      rw [if_neg (by omega), if_neg (by omega), if_pos hmost, eq_ofNat hl, eq_ofNat hb, eq_ofNat hd]
      rfl
  | four low high =>
      obtain ⟨b, text, rfl, hlow, hhigh, hrest⟩ := continuation_succ.mp hrest
      obtain ⟨d, text, rfl, hlow', hhigh', hrest⟩ := continuation_succ.mp hrest
      obtain ⟨e, text, rfl, hlow'', hhigh'', hrest⟩ := continuation_succ.mp hrest
      simp only [continuation, Except.ok.injEq, Prod.mk.injEq] at hrest
      obtain ⟨hcp, rfl⟩ := hrest
      obtain ⟨hl, hb, hd, he⟩ :=
        bits_four low high ⟨hlow, hhigh⟩ ⟨hlow', hhigh'⟩ ⟨hlow'', hhigh''⟩ hcp
      rw [if_neg (not_le.mpr (lt_of_lt_of_le (by decide) hleast)),
        if_neg (not_le.mpr (lt_of_lt_of_le (by decide) hleast)),
        if_neg (not_le.mpr (lt_of_lt_of_le (by decide) hleast)),
        eq_ofNat hl, eq_ofNat hb, eq_ofNat hd, eq_ofNat he]
      rfl

/-- A byte made of a small number has that value. -/
theorem toNat_byte {n : Nat} (h : n < 256) : (UInt8.ofNat n).toNat = n := by
  rw [UInt8.toNat_ofNat', Nat.mod_eq_of_lt h]

/-- What one of the bytes after the first adds to a character. -/
theorem continuation_byte (n count bits : Nat) (text : Text) :
    continuation (count + 1) bits (UInt8.ofNat (n % 64 + 0x80) :: text) =
      continuation count (64 * bits + n % 64) text := by
  have hbyte : (UInt8.ofNat (n % 64 + 0x80)).toNat = n % 64 + 0x80 := toNat_byte (by omega)
  have hmarker : UInt8.ofNat (n % 64 + 0x80) &&& 0xc0 = 0x80 :=
    (continuation_marker _).mpr (by rw [hbyte]; omega)
  have hbits : (n % 64 + 0x80) % 64 = n % 64 := by omega
  rw [continuation_cons, if_neg (not_not.mpr hmarker), continuation_bits, hbyte, hbits]

/-- The encoding of a character is read as that character, length by length. -/
theorem scalar_of_encodeChar {lead : UInt8} {text rest : Text} {cp : Nat} {c : Char}
    (hc : c.toNat = cp) (hbytes : lead :: text = String.utf8EncodeChar c ++ rest) :
    scalar lead text = .ok (cp, rest) := by
  obtain ⟨hmax, hsurrogate⟩ := scalar_range c
  rw [scalar_eq_ok_iff]
  rw [encodeChar_eq, hc] at hbytes
  rw [hc] at hmax hsurrogate
  split_ifs at hbytes with hone htwo hthree
  · obtain ⟨rfl, rfl⟩ := List.cons.inj hbytes
    rw [toNat_byte (by omega)]
    exact ⟨cp, 0, 0, .ascii (by omega), rfl, by omega⟩
  · obtain ⟨rfl, rfl⟩ := List.cons.inj hbytes
    have hsum : 64 * ((cp / 64 % 32 + 0xc0) % 32) + cp % 64 = cp := by omega
    rw [toNat_byte (by omega)]
    refine ⟨_, 1, 0x80, .two (by omega) (by omega), ?_, by omega⟩
    change continuation (0 + 1) _ (UInt8.ofNat (cp % 64 + 0x80) :: rest) = _
    rw [continuation_byte, hsum]
    rfl
  · obtain ⟨rfl, rfl⟩ := List.cons.inj hbytes
    have hsum : 64 * (64 * ((cp / 4096 % 16 + 0xe0) % 16) + cp / 64 % 64) + cp % 64 = cp := by
      omega
    rw [toNat_byte (by omega)]
    refine ⟨_, 2, 0x800, .three (by omega) (by omega), ?_, by omega⟩
    change continuation (0 + 1 + 1) _ (UInt8.ofNat (cp / 64 % 64 + 0x80) ::
      UInt8.ofNat (cp % 64 + 0x80) :: rest) = _
    rw [continuation_byte, continuation_byte, hsum]
    rfl
  · obtain ⟨rfl, rfl⟩ := List.cons.inj hbytes
    have hsum : 64 * (64 * (64 * ((cp / 262144 % 8 + 0xf0) % 8) + cp / 4096 % 64) +
        cp / 64 % 64) + cp % 64 = cp := by
      omega
    rw [toNat_byte (by omega)]
    refine ⟨_, 3, 0x10000, .four (by omega) (by omega), ?_, by omega⟩
    change continuation (0 + 1 + 1 + 1) _ (UInt8.ofNat (cp / 4096 % 64 + 0x80) ::
      UInt8.ofNat (cp / 64 % 64 + 0x80) :: UInt8.ofNat (cp % 64 + 0x80) :: rest) = _
    rw [continuation_byte, continuation_byte, continuation_byte, hsum]
    rfl

/-- **The native decoder takes one character from the front of a text.** -/
theorem scalar_eq_ok {lead : UInt8} {text rest : Text} {cp : Nat} :
    scalar lead text = .ok (cp, rest) ↔
      ∃ c : Char, c.toNat = cp ∧ lead :: text = String.utf8EncodeChar c ++ rest :=
  ⟨encodeChar_of_scalar, fun ⟨_, hc, hbytes⟩ => scalar_of_encodeChar hc hbytes⟩

/-! ## The loop over a text -/

/-- Trimming at the end does not reach the first element, if some element stays. -/
theorem rdropWhile_cons_of_not_all {α : Type} {p : α → Bool} {a : α} {l : List α}
    (h : ¬ l.all p = true) : (a :: l).rdropWhile p = a :: l.rdropWhile p := by
  have hne : (l.reverse.dropWhile p).isEmpty = false := by
    rw [List.isEmpty_eq_false_iff, Ne, List.dropWhile_eq_nil_iff]
    simpa using h
  unfold List.rdropWhile
  rw [List.reverse_cons, List.dropWhile_append, hne]
  simp

/-- Trimming at the end stays within the last list, if some element of that stays. -/
theorem rdropWhile_append_of_not_all {α : Type} {p : α → Bool} {k l : List α}
    (h : ¬ l.all p = true) : (k ++ l).rdropWhile p = k ++ l.rdropWhile p := by
  induction k with
  | nil => rfl
  | cons a k ih =>
      have hall : ¬ (k ++ l).all p = true := by
        rw [List.all_append, Bool.and_eq_true]
        exact fun hk => h hk.2
      rw [List.cons_append, rdropWhile_cons_of_not_all hall, ih, List.cons_append]

/-- Trimming at the end reaches the first element, if nothing behind it stays. -/
theorem rdropWhile_cons_of_all {α : Type} {p : α → Bool} {a : α} {l : List α}
    (h : l.all p = true) (ha : p a = false) : (a :: l).rdropWhile p = [a] := by
  have hnil : l.reverse.dropWhile p = [] := by
    rw [List.dropWhile_eq_nil_iff]
    simpa using h
  unfold List.rdropWhile
  rw [List.reverse_cons, List.dropWhile_append, hnil]
  simp [ha]

/-- One turn of the walk over a text: the span grows to the end of every code point that is
no blank. -/
theorem trimLoop_cons {lead : UInt8} {text rest : Text} {cp : Nat} (fuel offset : Nat)
    (span : Nat × Nat) (h : scalar lead text = .ok (cp, rest)) :
    trimLoop (fuel + 1) offset span (lead :: text) =
      trimLoop fuel (offset + (1 + text.length - rest.length))
        (if whitespace cp then span
          else (min span.1 offset, offset + (1 + text.length - rest.length))) rest := by
  change (scalar lead text).bind _ = _
  rw [h]
  rfl

/-- The loop goes on behind a character. -/
theorem trimLoop_encodeChar (c : Char) (rest : Text) (fuel offset : Nat) (span : Nat × Nat) :
    trimLoop (fuel + 1) offset span (String.utf8EncodeChar c ++ rest) =
      trimLoop fuel (offset + (String.utf8EncodeChar c).length)
        (if isSpace c then span
          else (min span.1 offset, offset + (String.utf8EncodeChar c).length)) rest := by
  cases hbytes : String.utf8EncodeChar c with
  | nil => exact absurd hbytes String.utf8EncodeChar_ne_nil
  | cons lead tail =>
      have hscalar : scalar lead (tail ++ rest) = .ok (c.toNat, rest) := by
        refine scalar_eq_ok.mpr ⟨c, rfl, ?_⟩
        rw [hbytes]
        rfl
      have hlength : 1 + (tail ++ rest).length - rest.length = (lead :: tail).length := by
        rw [List.length_append, List.length_cons]
        omega
      rw [List.cons_append, trimLoop_cons _ _ _ hscalar, hlength, whitespace_toNat]

/-- The span of a text that is not blank runs from its first character that is
no space to its last. -/
theorem trimLoop_encode (cs : List Char) (fuel offset : Nat) (span : Nat × Nat)
    (h : (Utf8.encode cs).length ≤ fuel) :
    trimLoop fuel offset span (Utf8.encode cs) =
      .ok (if cs.all isSpace then span
        else (min span.1 (offset + (Utf8.encode (cs.takeWhile isSpace)).length),
          offset + (Utf8.encode (cs.rdropWhile isSpace)).length)) := by
  induction cs generalizing fuel offset span with
  | nil => cases fuel <;> rfl
  | cons c cs ih =>
      have hpos : 0 < (String.utf8EncodeChar c).length :=
        List.length_pos_iff.mpr String.utf8EncodeChar_ne_nil
      rw [Utf8.encode_cons, List.length_append] at h
      obtain ⟨fuel, rfl⟩ : ∃ k, fuel = k + 1 := ⟨fuel - 1, by omega⟩
      rw [Utf8.encode_cons, trimLoop_encodeChar, ih _ _ _ (by omega), List.all_cons]
      by_cases hspace : isSpace c = true
      · rw [if_pos hspace, hspace, Bool.true_and, List.takeWhile_cons_of_pos hspace]
        by_cases hall : cs.all isSpace = true
        · rw [if_pos hall, if_pos hall]
        · rw [if_neg hall, if_neg hall, rdropWhile_cons_of_not_all hall, Utf8.encode_cons,
            Utf8.encode_cons, List.length_append, List.length_append]
          simp only [Nat.add_assoc]
      · have hvisible : isSpace c = false := by simpa using hspace
        rw [if_neg hspace, List.takeWhile_cons_of_neg hspace, hvisible, Bool.false_and,
          if_neg Bool.false_ne_true, Utf8.encode_nil, List.length_nil, Nat.add_zero]
        by_cases hall : cs.all isSpace = true
        · rw [if_pos hall, rdropWhile_cons_of_all hall hvisible, Utf8.encode_cons,
            Utf8.encode_nil, List.append_nil]
        · rw [if_neg hall, rdropWhile_cons_of_not_all hall, Utf8.encode_cons, List.length_append]
          dsimp only
          rw [min_eq_left (by omega), Nat.add_assoc]

/-- Nothing but encoded texts gets through the loop. -/
theorem encode_of_trimLoop {fuel offset : Nat} {span r : Nat × Nat} {text : Text}
    (hfuel : text.length ≤ fuel) (h : trimLoop fuel offset span text = .ok r) :
    ∃ cs, text = Utf8.encode cs := by
  induction fuel generalizing offset span text with
  | zero => exact ⟨[], List.length_eq_zero_iff.mp (Nat.le_zero.mp hfuel)⟩
  | succ fuel ih =>
      cases text with
      | nil => exact ⟨[], rfl⟩
      | cons lead text =>
          cases hscalar : scalar lead text with
          | error e =>
              change (scalar lead text).bind _ = _ at h
              rw [hscalar] at h
              cases h
          | ok x =>
              obtain ⟨cp, rest⟩ := x
              rw [trimLoop_cons _ _ _ hscalar] at h
              obtain ⟨c, _, hbytes⟩ := scalar_eq_ok.mp hscalar
              have hpos : 0 < (String.utf8EncodeChar c).length :=
                List.length_pos_iff.mpr String.utf8EncodeChar_ne_nil
              have hlength := congrArg List.length hbytes
              rw [List.length_append] at hlength
              obtain ⟨cs, rfl⟩ := ih (by omega) h
              exact ⟨c :: cs, hbytes⟩

/-- **The native engine strips what `str.strip` strips.** -/
theorem trimmedUtf8_utf8 (s : String) : trimmedUtf8 (utf8 s) = .ok (utf8 (strip s)) := by
  have hloop := trimLoop_encode s.toList (utf8 s).length 0 ((utf8 s).length, 0) le_rfl
  have hstrip : utf8 (strip s) =
      Utf8.encode ((s.toList.dropWhile isSpace).rdropWhile isSpace) := by
    unfold utf8
    rw [strip_toList]
  unfold trimmedUtf8
  rw [show trimLoop (utf8 s).length 0 ((utf8 s).length, 0) (utf8 s) = _ from hloop]
  by_cases hall : s.toList.all isSpace = true
  · have hnil : s.toList.dropWhile isSpace = [] := by
      rw [List.dropWhile_eq_nil_iff]
      simpa using hall
    rw [if_pos hall, hstrip, hnil]
    rfl
  · -- the text is what is stripped in front, the stripped text, and what is stripped behind
    obtain ⟨front, rest, hsplit, hfront, hrest⟩ : ∃ front rest, s.toList = front ++ rest ∧
        s.toList.takeWhile isSpace = front ∧ s.toList.dropWhile isSpace = rest :=
      ⟨_, _, List.takeWhile_append_dropWhile.symm, rfl, rfl⟩
    have hvisible : ¬ rest.all isSpace = true := by
      intro hspaces
      apply hall
      rw [hsplit, List.all_append, hspaces, Bool.and_true, ← hfront]
      exact List.all_eq_true.mpr fun c hc => List.mem_takeWhile_imp hc
    obtain ⟨back, hback⟩ := List.rdropWhile_prefix isSpace rest
    have hkept : rest.rdropWhile isSpace ≠ [] := by
      rw [Ne, List.rdropWhile_eq_nil_iff]
      simpa using hvisible
    have hlast : s.toList.rdropWhile isSpace = front ++ rest.rdropWhile isSpace := by
      rw [hsplit]
      exact rdropWhile_append_of_not_all hvisible
    have hbytes : utf8 s = Utf8.encode front ++
        (Utf8.encode (rest.rdropWhile isSpace) ++ Utf8.encode back) := by
      rw [← Utf8.encode_append, hback, ← Utf8.encode_append, ← hsplit]
      rfl
    have hpos : 0 < (Utf8.encode (rest.rdropWhile isSpace)).length := by
      rw [List.length_pos_iff, Ne, Utf8.encode_eq_nil]
      exact hkept
    rw [if_neg hall, hstrip, hfront, hrest, hlast, Utf8.encode_append]
    simp only [bind, Except.bind, Nat.zero_add, List.length_append]
    rw [if_pos (by omega), hbytes]
    simp only [List.length_append]
    rw [min_eq_right (by omega), List.drop_left, Nat.add_sub_cancel_left, List.take_left]
    rfl

/-- **Only encoded texts are accepted.** -/
theorem trimmedUtf8_eq_ok {text r : Text} :
    trimmedUtf8 text = .ok r ↔ ∃ s : String, text = utf8 s ∧ r = utf8 (strip s) := by
  constructor
  · intro h
    unfold trimmedUtf8 at h
    cases hloop : trimLoop text.length 0 (text.length, 0) text with
    | error e =>
        rw [hloop] at h
        cases h
    | ok span =>
        obtain ⟨cs, hcs⟩ := encode_of_trimLoop le_rfl hloop
        have htext : text = utf8 (String.ofList cs) := by
          unfold utf8
          rw [String.toList_ofList]
          exact hcs
        have hok := trimmedUtf8_utf8 (String.ofList cs)
        rw [← htext] at hok
        refine ⟨String.ofList cs, htext, ?_⟩
        unfold trimmedUtf8 at hok
        rw [h] at hok
        exact Except.ok.inj hok
  · intro h
    obtain ⟨s, htext, hr⟩ := h
    rw [htext, hr]
    exact trimmedUtf8_utf8 s

/-! ## The grammar -/

/-- The pieces of a text from the first to the last that is not white space. -/
def trimmedPieces (pieces : List (ℕ × Text)) : List (ℕ × Text) :=
  (pieces.dropWhile fun piece => whitespace piece.1).rdropWhile fun piece => whitespace piece.1

/-- Trimming the encodings of characters is trimming the characters. -/
theorem trimmedPieces_map (cs : List Char) :
    trimmedPieces (cs.map Utf8Grammar.pieceOf) =
      ((cs.dropWhile isSpace).rdropWhile isSpace).map Utf8Grammar.pieceOf := by
  have hspace : (fun piece : ℕ × Text => whitespace piece.1) ∘ Utf8Grammar.pieceOf = isSpace :=
    funext whitespace_toNat
  unfold trimmedPieces List.rdropWhile
  rw [List.dropWhile_map, hspace, ← List.map_reverse, List.dropWhile_map, hspace,
    ← List.map_reverse]

/-- The well-formed byte strings are the encodings of texts. -/
theorem wellFormed_iff {text : Text} : Utf8Grammar.WellFormed text ↔ ∃ s : String, text = utf8 s := by
  constructor
  · rintro ⟨pieces, hpieces⟩
    obtain ⟨cs, -, rfl⟩ := Utf8Grammar.spells_iff.mp hpieces
    exact ⟨String.ofList cs, by rw [utf8, String.toList_ofList]⟩
  · rintro ⟨s, rfl⟩
    exact ⟨s.toList.map Utf8Grammar.pieceOf, Utf8Grammar.spells_iff.mpr ⟨s.toList, rfl, rfl⟩⟩

/-- **Exactly well-formed UTF-8 is accepted, and exactly white space goes.** -/
theorem trimmedUtf8_exact (text : Text) :
    ((∃ e, trimmedUtf8 text = .error e) ↔ ¬ Utf8Grammar.WellFormed text) ∧
      ∀ pieces, Utf8Grammar.Spells pieces text →
        trimmedUtf8 text = .ok ((trimmedPieces pieces).map Prod.snd).flatten := by
  constructor
  · rw [wellFormed_iff]
    cases h : trimmedUtf8 text with
    | error e =>
        refine iff_of_true ⟨e, rfl⟩ ?_
        rintro ⟨s, rfl⟩
        rw [trimmedUtf8_utf8] at h
        cases h
    | ok r =>
        obtain ⟨s, hs, -⟩ := trimmedUtf8_eq_ok.mp h
        refine iff_of_false ?_ (not_not_intro ⟨s, hs⟩)
        rintro ⟨e, he⟩
        cases he
  · intro pieces hpieces
    obtain ⟨cs, rfl, rfl⟩ := Utf8Grammar.spells_iff.mp hpieces
    refine trimmedUtf8_eq_ok.mpr ⟨String.ofList cs, by rw [utf8, String.toList_ofList], ?_⟩
    rw [trimmedPieces_map, Utf8Grammar.flatten_pieces, utf8, strip_toList, String.toList_ofList]

/-- An ideographic space before a letter of two bytes, and a space behind it. -/
theorem trimmedUtf8_exact_spaced :
    trimmedUtf8 [0xe3, 0x80, 0x80, 0xc3, 0xa9, 0x20] = .ok [0xc3, 0xa9] :=
  (trimmedUtf8_exact [0xe3, 0x80, 0x80, 0xc3, 0xa9, 0x20]).2
    [(0x3000, [0xe3, 0x80, 0x80]), (0xe9, [0xc3, 0xa9]), (0x20, [0x20])]
    (Utf8Grammar.spells_iff.mpr ⟨['\u3000', 'é', ' '], rfl, rfl⟩)

end FluidGateway.Native
