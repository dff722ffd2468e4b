import FluidGateway.EventPayloads
import FluidGateway.ReferenceFrames
import FluidGateway.Lib.Rounding
import Mathlib.Tactic.NormNum

/-!
# Numbers of the reference

A number of the wire is an integer of bytes or of microseconds.  The reference
divides it by the bytes of a megabyte or the microseconds of a millisecond,
keeps the quotient as a double, and writes it back through its shortest
decimal text (`_scaled_decimal`).  Costs survive (`scaledDecimal_cost`), and so
do sizes up to 2^53 bytes (`scaledDecimal_size`).

Doubles are the numbers of 53 binary digits.  Every double here is a quotient
of the wire or a sum of such, so neither the greatest nor the least exponent of
a double is ever reached.
-/

namespace FluidGateway.FluidLink

open Rounding
open FluidGateway.Adapter (PyFloat)

def mebibyte : ℕ := 1024 * 1024

/-- The double nearest to a number. -/
def toDouble (x : ℚ) : ℚ :=
  toDigits 2 53 x

/-- `numerator / denominator`. -/
def trueDivide (numerator denominator : ℕ) : ℚ :=
  toDouble (numerator / denominator)

/-! ## The shortest text of a double -/

/-- The two decimals of `p` digits around a number, the nearer one first. -/
def neighbours (x : ℚ) (p : ℕ) : List ℚ :=
  let digits := x / unit 10 p x
  [halfEven digits, ⌊digits⌋, ⌊digits⌋ + 1].map fun (m : ℤ) => m * unit 10 p x

/-- The number that `str` writes for a nonnegative double: of the decimals that
are read back as the double, a shortest one, and of these the nearest. -/
def shortest (x : ℚ) : ℚ :=
  (((List.range' 1 17).flatMap (neighbours x)).find? fun d => toDouble d = x).getD x

/-- Anything else than a `FluidLinkProtocolError` that is raised, by its text. -/
inductive PyException where
  | protocol (error : FluidLinkProtocolError)
  | other (message : String)
  deriving DecidableEq, Repr

/-- `str(exc)`. -/
def PyException.text : PyException → String
  | .protocol error => error.message
  | .other message => message

/-- The digits of a `Decimal` context. -/
def decimalDigits : ℕ := 28

/-- `_scaled_decimal` of a float.  The product is rounded to the digits of the
context, and an integer with more digits cannot be quantized. -/
def scaledDecimal (value : PyFloat) (scale maximum : ℕ) (name : String) :
    Except PyException ℕ :=
  match value with
  | .finite x =>
    if x < 0 then
      .error (.protocol ⟨"invalid_payload",
        "FluidLink v2 " ++ name ++ " must be finite and non-negative."⟩)
    else
      let scaled := (halfUp (toDigits 10 decimalDigits (shortest x * scale))).toNat
      if 10 ^ decimalDigits ≤ scaled then
        .error (.other "[<class 'decimal.InvalidOperation'>]")
      else if maximum < scaled then
        .error (.protocol ⟨"invalid_payload", "FluidLink v2 " ++ name ++ " exceeds its wire range."⟩)
      else .ok scaled
  | _ =>
    .error (.protocol ⟨"invalid_payload",
      "FluidLink v2 " ++ name ++ " must be finite and non-negative."⟩)

/-! ## What the shortest text keeps -/

/-- A double in the sense of this module. -/
def IsDouble (x : ℚ) : Prop :=
  toDouble x = x

theorem isDouble_toDouble {x : ℚ} (hx : 0 < x) : IsDouble (toDouble x) :=
  toDigits_toDigits (by decide) (by decide) hx

/-- The shortest text of a double is read back as the double. -/
theorem toDouble_shortest {x : ℚ} (hx : IsDouble x) : toDouble (shortest x) = x := by
  unfold shortest
  cases h : ((List.range' 1 17).flatMap (neighbours x)).find? fun d => toDouble d = x with
  | none => exact hx
  | some d => simpa using List.find?_some h

/-- A neighbour with `p` digits is a multiple of a power of ten. -/
theorem neighbours_form {x d : ℚ} {p : ℕ} (hx : 0 < x) (hd : d ∈ neighbours x p) :
    ∃ m : ℕ, m ≤ 10 ^ p ∧ d = m * unit 10 p x := by
  have hlt := div_unit_lt (b := 10) (by decide) p x
  have hfloor : 0 ≤ ⌊x / unit 10 p x⌋ :=
    Int.floor_nonneg.mpr (div_pos hx (unit_pos (by decide) p x)).le
  have hceil : ⌊x / unit 10 p x⌋ < ((10 ^ p : ℕ) : ℤ) := Int.floor_lt.mpr hlt
  have hform : ∀ z : ℤ, 0 ≤ z → z ≤ ((10 ^ p : ℕ) : ℤ) → d = z * unit 10 p x →
      ∃ m : ℕ, m ≤ 10 ^ p ∧ d = m * unit 10 p x := by
    intro z hnonneg hle hz
    obtain ⟨m, rfl⟩ := Int.eq_ofNat_of_zero_le hnonneg
    exact ⟨m, by exact_mod_cast hle, by rw [hz, Int.cast_natCast]⟩
  unfold neighbours at hd
  simp only [List.map_cons, List.map_nil, List.mem_cons, List.not_mem_nil, or_false] at hd
  rcases hd with hd | hd | hd
  · rcases halfEven_cases (x / unit 10 p x) with ⟨h, _⟩ | ⟨h, _⟩
    · exact hform _ (by omega) (by omega) hd
    · exact hform _ (by omega) (by omega) hd
  · exact hform _ hfloor (by omega) hd
  · exact hform _ (by omega) (by omega) hd

/-- The shortest text has at most 17 digits. -/
theorem shortest_form {x : ℚ} (hx : 0 < x) : shortest x = x ∨ ∃ p m : ℕ, p ≤ 17 ∧
    m ≤ 10 ^ 17 ∧ shortest x = m * unit 10 p x := by
  unfold shortest
  cases h : ((List.range' 1 17).flatMap (neighbours x)).find? fun d => toDouble d = x with
  | none => exact .inl rfl
  | some d =>
      obtain ⟨p, hp, hd⟩ := List.mem_flatMap.mp (List.mem_of_find?_eq_some h)
      obtain ⟨m, hm, hform⟩ := neighbours_form hx hd
      have hle : p ≤ 17 := by
        rw [List.mem_range'_1] at hp
        omega
      exact .inr ⟨p, m, hle, hm.trans (Nat.pow_le_pow_right (by decide) hle), hform⟩

theorem shortest_pos {x : ℚ} (hx : 0 < x) (hdouble : IsDouble x) : 0 < shortest x := by
  have hread := toDouble_shortest hdouble
  have hne : shortest x ≠ 0 := by
    intro h
    rw [h, toDouble, toDigits_zero] at hread
    exact hx.ne hread
  rcases shortest_form hx with h | ⟨p, m, _, _, h⟩
  · rw [h]
    exact hx
  · have hnonneg : 0 ≤ shortest x := by
      rw [h]
      exact mul_nonneg (Nat.cast_nonneg m) (unit_pos (by decide) p x).le
    exact lt_of_le_of_ne hnonneg hne.symm

/-- The shortest text is half a unit of the double away at most. -/
theorem abs_shortest_sub_le {x : ℚ} (hx : 0 < x) (hdouble : IsDouble x) :
    |shortest x - x| ≤ unit 2 53 x / 2 :=
  abs_sub_le_of_toDigits_eq (by decide) (by decide) (shortest_pos hx hdouble)
    (toDouble_shortest hdouble)

@[simp] theorem shortest_zero : shortest 0 = 0 := by
  unfold shortest
  have hhead : (0 : ℚ) ∈ ((List.range' 1 17).flatMap (neighbours 0)).find?
      fun d => toDouble d = 0 := by
    have hrange : List.range' 1 17 = 1 :: List.range' 2 16 := rfl
    rw [hrange, List.flatMap_cons]
    unfold neighbours
    simp [toDouble, halfEven]
  rw [hhead]
  rfl

/-- What is scaled to a number near an integer is written as the integer. -/
theorem scaledDecimal_eq {x : ℚ} {scale maximum n : ℕ} (name : String) (hx : 0 ≤ x)
    (hn : n ≤ maximum) (hmaximum : maximum < 10 ^ decimalDigits)
    (h : halfUp (toDigits 10 decimalDigits (shortest x * scale)) = n) :
    scaledDecimal (.finite x) scale maximum name = .ok n := by
  unfold scaledDecimal
  simp only [h, Int.toNat_natCast]
  rw [if_neg (not_lt.mpr hx), if_neg (by omega), if_neg (by omega)]

@[simp] theorem scaledDecimal_zero (scale maximum : ℕ) (name : String)
    (h : maximum < 10 ^ decimalDigits) :
    scaledDecimal (.finite 0) scale maximum name = .ok 0 := by
  refine scaledDecimal_eq name le_rfl (Nat.zero_le _) h ?_
  rw [shortest_zero, zero_mul, toDigits_zero]
  exact halfUp_eq (by norm_num) (by norm_num)

/-- A product near an integer is written as the integer. -/
theorem halfUp_toDigits {y : ℚ} {n : ℕ} (hpos : 0 < y) (hlt : y < 10 ^ (17 : ℤ))
    (hnear : |y - n| < 1 / 2 - 1 / 10 ^ 10) : halfUp (toDigits 10 decimalDigits y) = n := by
  have hunit : unit 10 decimalDigits y ≤ 10 ^ (17 - 28 : ℤ) :=
    unit_le (b := 10) (by decide) hpos hlt decimalDigits
  have hmove := abs_toDigits_sub_le (b := 10) (by decide) decimalDigits y
  norm_num at hunit
  rw [abs_lt] at hnear
  rw [abs_le] at hmove
  apply halfUp_eq
  · push_cast
    linarith [hnear.1, hmove.1]
  · push_cast
    linarith [hnear.2, hmove.2]

/-! ## Costs -/

/-- The milliseconds of a cost in microseconds. -/
theorem scaledDecimal_cost {cost maximum : ℕ} (name : String) (h : cost < 2 ^ 32)
    (hcost : cost ≤ maximum) (hmaximum : maximum < 10 ^ decimalDigits) :
    scaledDecimal (.finite (trueDivide cost 1000)) 1000 maximum name = .ok cost := by
  rcases Nat.eq_zero_or_pos cost with rfl | hpos
  · have hzero : trueDivide 0 1000 = 0 := by simp [trueDivide, toDouble]
    rw [hzero]
    exact scaledDecimal_zero _ _ _ hmaximum
  · have hone : (1 : ℚ) ≤ cost := by exact_mod_cast hpos
    have hcost32 : (cost : ℚ) < 2 ^ 32 := by exact_mod_cast h
    have hexact : (0 : ℚ) < cost / (1000 : ℕ) := by positivity
    -- the quotient is near the cost, and its text is near the quotient
    have hunit : unit 2 53 ((cost : ℚ) / (1000 : ℕ)) ≤ 2 ^ (23 - 53 : ℤ) := by
      refine unit_le (b := 2) (by decide) hexact ?_ 53
      norm_num
      linarith
    have hquotient : |trueDivide cost 1000 - cost / (1000 : ℕ)| ≤
        unit 2 53 ((cost : ℚ) / (1000 : ℕ)) / 2 :=
      abs_toDigits_sub_le (by decide) 53 _
    norm_num at hunit
    rw [abs_le] at hquotient
    push_cast at hquotient hunit
    have hx : 0 < trueDivide cost 1000 := by linarith [hquotient.1]
    have hunit' : unit 2 53 (trueDivide cost 1000) ≤ 2 ^ (23 - 53 : ℤ) := by
      refine unit_le (b := 2) (by decide) hx ?_ 53
      norm_num
      linarith [hquotient.2]
    have hdouble : IsDouble (trueDivide cost 1000) := isDouble_toDouble hexact
    have htext := abs_shortest_sub_le hx hdouble
    norm_num at hunit'
    rw [abs_le] at htext
    have hpositive := shortest_pos hx hdouble
    refine scaledDecimal_eq name hx.le hcost hmaximum (halfUp_toDigits ?_ ?_ ?_)
    · push_cast
      linarith
    · norm_num
      linarith [htext.2, hquotient.2]
    · rw [abs_lt]
      push_cast
      constructor <;> linarith [htext.1, htext.2, hquotient.1, hquotient.2]

/-! ## Sizes -/

/-- Up to 2^53 bytes the quotient is exact. -/
theorem trueDivide_mebibyte {size : ℕ} (h : size ≤ 2 ^ 53) :
    trueDivide size mebibyte = size / 2 ^ 20 := by
  unfold trueDivide toDouble mebibyte
  have hexact : ((size : ℚ) / (1024 * 1024 : ℕ)) = size / 2 ^ 20 := by norm_num
  rw [hexact]
  rcases lt_or_eq_of_le h with hlt | rfl
  · refine toDigits_of_exact (b := 2) (e := -20) (by decide) hlt ?_
    norm_num [div_eq_mul_inv]
  · refine toDigits_of_exact (b := 2) (m := 1) (e := 33) (by decide) (by decide) ?_
    norm_num

theorem isDouble_mebibyte {size : ℕ} (h : size ≤ 2 ^ 53) : IsDouble ((size : ℚ) / 2 ^ 20) := by
  rw [← trueDivide_mebibyte h]
  rcases Nat.eq_zero_or_pos size with rfl | hpos
  · simp [IsDouble, trueDivide, toDouble]
  · have hsize : (0 : ℚ) < size := by exact_mod_cast hpos
    exact isDouble_toDouble (div_pos hsize (by norm_num [mebibyte]))

/-- Different sizes up to 2^53 bytes are different doubles. -/
theorem trueDivide_mebibyte_inj {m n : ℕ} (hm : m ≤ 2 ^ 53) (hn : n ≤ 2 ^ 53)
    (h : trueDivide m mebibyte = trueDivide n mebibyte) : m = n := by
  rw [trueDivide_mebibyte hm, trueDivide_mebibyte hn, div_left_inj' (by norm_num)] at h
  exact_mod_cast h

/-- A decimal of 17 digits is no half of an odd number of bytes: its bytes
have too many factors of two. -/
theorem bytes_ne_half {x : ℚ} {size p m : ℕ} (hx : 1 ≤ x) (hp : p ≤ 17) :
    (m * unit 10 p x) * 2 ^ 20 ≠ size + 1 / 2 := by
  have hlog : 0 ≤ Int.log 10 x := by
    rw [← Int.zpow_le_iff_le_log (by decide) (by linarith)]
    simpa using hx
  obtain ⟨t, ht⟩ := Int.le.dest (show (-16 : ℤ) ≤ Int.log 10 x + 1 - p by omega)
  intro h
  unfold unit at h
  rw [← ht, zpow_add₀ (by norm_num), zpow_natCast] at h
  have hcleared : (m : ℚ) * 10 ^ t * (2 ^ 20 * 2) = (2 * size + 1) * 10 ^ 16 := by
    norm_num at h ⊢
    linarith
  have hnat : m * 10 ^ t * (2 ^ 20 * 2) = (2 * size + 1) * 10 ^ 16 := by exact_mod_cast hcleared
  generalize m * 10 ^ t = a at hnat
  omega

/-- The megabytes of a size below 2^53 bytes. -/
theorem halfUp_megabytes {size : ℕ} (hpos : 0 < size) (h : size < 2 ^ 53) :
    halfUp (toDigits 10 decimalDigits (shortest ((size : ℚ) / 2 ^ 20) * mebibyte)) = size := by
  have hsize : (0 : ℚ) < size := by exact_mod_cast hpos
  have hsize53 : (size : ℚ) < 2 ^ 53 := by exact_mod_cast h
  have hx : (0 : ℚ) < size / 2 ^ 20 := by positivity
  have hdouble := isDouble_mebibyte h.le
  have htext := abs_shortest_sub_le hx hdouble
  have hpositive := shortest_pos hx hdouble
  have hmebibyte : (mebibyte : ℚ) = 2 ^ 20 := by norm_num [mebibyte]
  rw [hmebibyte]
  rcases lt_or_ge size (2 ^ 52) with hsmall | hlarge
  · have hsize52 : (size : ℚ) < 2 ^ 52 := by exact_mod_cast hsmall
    have hunit : unit 2 53 ((size : ℚ) / 2 ^ 20) ≤ 2 ^ (32 - 53 : ℤ) := by
      refine unit_le (b := 2) (by decide) hx ?_ 53
      norm_num
      linarith
    norm_num at hunit
    rw [abs_le] at htext
    norm_num at htext
    refine halfUp_toDigits (by positivity) ?_ ?_
    · norm_num
      linarith [htext.2]
    · rw [abs_lt]
      constructor <;> linarith [htext.1, htext.2]
  · -- half a byte may be lost, but it is never half a byte exactly
    have hsize52 : (2 : ℚ) ^ 52 ≤ size := by exact_mod_cast hlarge
    have hunit : unit 2 53 ((size : ℚ) / 2 ^ 20) ≤ 2 ^ (33 - 53 : ℤ) := by
      refine unit_le (b := 2) (by decide) hx ?_ 53
      norm_num
      linarith
    norm_num at hunit
    rw [abs_le] at htext
    norm_num at htext
    rcases shortest_form hx with hform | ⟨p, m, hp, hm, hform⟩
    · rw [hform, div_mul_cancel₀ _ (by norm_num)]
      refine halfUp_toDigits hsize ?_ ?_
      · norm_num
        linarith
      · norm_num
    · have hexact : toDigits 10 decimalDigits (shortest ((size : ℚ) / 2 ^ 20) * 2 ^ 20) =
          shortest ((size : ℚ) / 2 ^ 20) * 2 ^ 20 := by
        refine toDigits_of_exact (b := 10) (m := m * 2 ^ 20)
          (e := Int.log 10 ((size : ℚ) / 2 ^ 20) + 1 - p) (by decide) ?_ ?_
        · unfold decimalDigits
          omega
        · rw [hform]
          unfold unit
          push_cast
          ring
      rw [hexact]
      have hone : (1 : ℚ) ≤ size / 2 ^ 20 := by
        norm_num
        linarith
      have hne : ((m : ℚ) * unit 10 p ((size : ℚ) / 2 ^ 20)) * 2 ^ 20 ≠ (size : ℚ) + 1 / 2 :=
        bytes_ne_half hone hp
      rw [← hform] at hne
      have hle : shortest ((size : ℚ) / 2 ^ 20) * 2 ^ 20 ≤ size + 1 / 2 := by linarith [htext.2]
      apply halfUp_eq
      · push_cast
        linarith [htext.1]
      · push_cast
        exact lt_of_le_of_ne hle hne

theorem unit_ten (p : ℕ) : unit 10 p ((2 : ℚ) ^ 33) = 10 ^ (10 - p : ℤ) := by
  have hlow : 9 ≤ Int.log 10 ((2 : ℚ) ^ 33) := by
    rw [← Int.zpow_le_iff_le_log (by decide) (by norm_num)]
    norm_num
  have hhigh : Int.log 10 ((2 : ℚ) ^ 33) < 10 := by
    rw [← Int.lt_zpow_iff_log_lt (by decide) (by norm_num)]
    norm_num
  have hlog : Int.log 10 ((2 : ℚ) ^ 33) = 9 := by omega
  unfold unit
  rw [hlog]
  rfl

/-- The bytes of 2^53 are a text of ten digits, and no shorter text will do. -/
theorem shortest_two_pow : shortest ((2 : ℚ) ^ 33) = 2 ^ 33 := by
  have hdouble : IsDouble ((2 : ℚ) ^ 33) :=
    toDigits_of_exact (b := 2) (m := 1) (e := 33) (by decide) (by decide) (by norm_num)
  have hshort : ∀ d ∈ (List.range' 1 9).flatMap (neighbours ((2 : ℚ) ^ 33)),
      ¬ toDouble d = 2 ^ 33 := by
    intro d hd hread
    obtain ⟨p, hp, hd⟩ := List.mem_flatMap.mp hd
    rw [List.mem_range'_1] at hp
    obtain ⟨m, _, hform⟩ := neighbours_form (by norm_num) hd
    obtain ⟨t, ht⟩ := Int.le.dest (show (1 : ℤ) ≤ 10 - p by omega)
    rw [unit_ten, ← ht, zpow_add₀ (by norm_num), zpow_natCast, zpow_one] at hform
    have hpos : 0 < d := by
      rw [hform]
      rcases Nat.eq_zero_or_pos m with rfl | hm
      · rw [hform, Nat.cast_zero, zero_mul, toDouble, toDigits_zero] at hread
        norm_num at hread
      · positivity
    have hnear := abs_sub_le_of_toDigits_eq (by decide) (by decide) hpos hread
    have hunit : unit 2 53 ((2 : ℚ) ^ 33) ≤ 2 ^ (34 - 53 : ℤ) :=
      unit_le (b := 2) (by decide) (by norm_num) (by norm_num) 53
    norm_num at hunit
    rw [abs_le, hform] at hnear
    -- a multiple of ten is not within a byte of 8589934592
    have hlow : ((m * 10 ^ t * 10 : ℕ) : ℚ) < (8589934593 : ℕ) := by
      push_cast
      linarith [hnear.2]
    have hhigh : ((8589934591 : ℕ) : ℚ) < (m * 10 ^ t * 10 : ℕ) := by
      push_cast
      linarith [hnear.1]
    rw [Nat.cast_lt] at hlow hhigh
    generalize m * 10 ^ t = a at hlow hhigh
    omega
  have hten : toDigits 10 10 ((2 : ℚ) ^ 33) = 2 ^ 33 :=
    toDigits_of_exact (b := 10) (m := 2 ^ 33) (e := 0) (by decide) (by decide) (by norm_num)
  have hrange : List.range' 1 17 = List.range' 1 9 ++ 10 :: List.range' 11 7 := rfl
  unfold shortest
  rw [hrange, List.flatMap_append, List.find?_append,
    List.find?_eq_none.mpr (by simpa using hshort), Option.none_or, List.flatMap_cons]
  change ((toDigits 10 10 ((2 : ℚ) ^ 33) :: _).find? _).getD _ = _
  have hread : toDouble ((2 : ℚ) ^ 33) = 2 ^ 33 := hdouble
  rw [hten, List.find?_cons]
  simp only [hread, decide_true]
  rfl

/-- The megabytes of a size in bytes. -/
theorem scaledDecimal_size {size : ℕ} (name : String) (h : size ≤ 2 ^ 53) :
    scaledDecimal (.finite (trueDivide size mebibyte)) mebibyte 0xFFFFFFFFFFFFFFFF name =
      .ok size := by
  have hmaximum : 0xFFFFFFFFFFFFFFFF < 10 ^ decimalDigits := by decide
  rw [trueDivide_mebibyte h]
  rcases Nat.eq_zero_or_pos size with rfl | hpos
  · rw [Nat.cast_zero, zero_div]
    exact scaledDecimal_zero _ _ _ hmaximum
  · refine scaledDecimal_eq name (by positivity) (by omega) hmaximum ?_
    rcases lt_or_eq_of_le h with hlt | rfl
    · exact halfUp_megabytes hpos hlt
    · have hexact : (((2 ^ 53 : ℕ) : ℚ) / 2 ^ 20) = 2 ^ 33 := by norm_num
      rw [hexact, shortest_two_pow]
      refine halfUp_toDigits (by norm_num [mebibyte]) (by norm_num [mebibyte]) ?_
      norm_num [mebibyte]

/-- The next size is the same double. -/
theorem trueDivide_collision :
    trueDivide (2 ^ 53 + 1) mebibyte = trueDivide (2 ^ 53) mebibyte := by
  rw [trueDivide_mebibyte le_rfl]
  have hlow : 33 ≤ Int.log 2 (((2 ^ 53 + 1 : ℕ) : ℚ) / mebibyte) := by
    rw [← Int.zpow_le_iff_le_log (by decide) (by norm_num [mebibyte])]
    norm_num [mebibyte]
  have hhigh : Int.log 2 (((2 ^ 53 + 1 : ℕ) : ℚ) / mebibyte) < 34 := by
    rw [← Int.lt_zpow_iff_log_lt (by decide) (by norm_num [mebibyte])]
    norm_num [mebibyte]
  have hunit : unit 2 53 (((2 ^ 53 + 1 : ℕ) : ℚ) / mebibyte) = 2 ^ (34 - 53 : ℤ) := by
    unfold unit
    congr 1
    omega
  have hquotient : ((2 ^ 53 + 1 : ℕ) : ℚ) / mebibyte / 2 ^ (34 - 53 : ℤ) = 2 ^ 52 + 1 / 2 := by
    norm_num [mebibyte]
  have heven : halfEven ((2 : ℚ) ^ 52 + 1 / 2) = 2 ^ 52 := by
    have hfloor : ⌊(2 : ℚ) ^ 52 + 1 / 2⌋ = 2 ^ 52 := by
      rw [Int.floor_eq_iff]
      norm_num
    have hfract : Int.fract ((2 : ℚ) ^ 52 + 1 / 2) = 1 / 2 := by
      rw [Int.fract, hfloor]
      norm_num
    unfold halfEven
    rw [hfloor, hfract, if_neg (lt_irrefl _), if_neg (lt_irrefl _), if_pos (by decide)]
  unfold trueDivide toDouble toDigits
  rw [hunit, hquotient, heven]
  norm_num [mebibyte]

end FluidGateway.FluidLink
