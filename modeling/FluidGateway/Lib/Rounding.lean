import Mathlib.Algebra.Order.Round
import Mathlib.Data.Int.Log
import Mathlib.Tactic.Linarith
import Mathlib.Tactic.Ring

/-!
# Rounding to a number of digits

A positive number is written with `p` digits in base `b` by rounding it to a
multiple of the unit of its last digit.  Numbers that need no more digits stay
as they are (`toDigits_of_exact`), every number moves by half a unit at most
(`abs_toDigits_sub_le`), and none falls below the power of the base that it
has reached (`zpow_log_le_toDigits`).
-/

namespace Rounding

variable {K : Type*} [Field K] [LinearOrder K] [IsStrictOrderedRing K] [FloorRing K]

/-! ## To an integer -/

/-- The nearest integer, the even one of two. -/
def halfEven (x : K) : ℤ :=
  if Int.fract x < 1 / 2 then ⌊x⌋
  else if 1 / 2 < Int.fract x then ⌊x⌋ + 1
  else if Even ⌊x⌋ then ⌊x⌋ else ⌊x⌋ + 1

/-- The nearest integer, the greater one of two. -/
def halfUp (x : K) : ℤ :=
  ⌊x + 1 / 2⌋

omit [IsStrictOrderedRing K] in
/-- The floor or the next integer, whichever is no farther away. -/
theorem halfEven_cases (x : K) :
    halfEven x = ⌊x⌋ ∧ Int.fract x ≤ 1 / 2 ∨ halfEven x = ⌊x⌋ + 1 ∧ 1 / 2 ≤ Int.fract x := by
  unfold halfEven
  split_ifs with hlow hhigh heven
  · exact .inl ⟨rfl, hlow.le⟩
  · exact .inr ⟨rfl, hhigh.le⟩
  · exact .inl ⟨rfl, not_lt.mp hhigh⟩
  · exact .inr ⟨rfl, not_lt.mp hlow⟩

/-- The nearest integer is at most a half away. -/
theorem abs_halfEven_sub_le (x : K) : |(halfEven x : K) - x| ≤ 1 / 2 := by
  have hsplit := Int.floor_add_fract x
  have hlt := Int.fract_lt_one x
  have hnonneg := Int.fract_nonneg x
  rw [abs_le]
  rcases halfEven_cases x with ⟨h, hfract⟩ | ⟨h, hfract⟩ <;> rw [h]
  · constructor <;> linarith
  · push_cast
    constructor <;> linarith

omit [IsStrictOrderedRing K] in
/-- No number is rounded beyond an integer above it. -/
theorem halfEven_le {m : ℤ} {x : K} (h : x < m) : halfEven x ≤ m := by
  have hfloor := Int.floor_lt.mpr h
  rcases halfEven_cases x with ⟨heq, _⟩ | ⟨heq, _⟩ <;> omega

/-- Integers stay as they are. -/
@[simp] theorem halfEven_intCast (m : ℤ) : halfEven (m : K) = m := by
  unfold halfEven
  rw [Int.fract_intCast, if_pos (by norm_num), Int.floor_intCast]

omit [IsStrictOrderedRing K] in
/-- No number is rounded below an integer under it. -/
theorem le_halfEven {m : ℤ} {x : K} (h : (m : K) ≤ x) : m ≤ halfEven x := by
  have hfloor := Int.le_floor.mpr h
  rcases halfEven_cases x with ⟨heq, _⟩ | ⟨heq, _⟩ <;> omega

/-- Rounding keeps the order. -/
theorem halfEven_mono {x y : K} (h : x ≤ y) : halfEven x ≤ halfEven y := by
  have hfloor := Int.floor_le_floor h
  rcases lt_or_eq_of_le hfloor with hlt | heq
  · have hstep : ((⌊x⌋ + 1 : ℤ) : K) ≤ y := Int.le_floor.mp hlt
    have hle := le_halfEven hstep
    rcases halfEven_cases x with ⟨hx, _⟩ | ⟨hx, _⟩ <;> omega
  · have hfract : Int.fract x ≤ Int.fract y := by
      unfold Int.fract
      rw [heq]
      linarith
    unfold halfEven
    rw [heq]
    split_ifs <;> first | omega | (exfalso; linarith)

/-- An even number is where everything goes that is no more than a half away. -/
theorem halfEven_eq_iff {m : ℤ} {x : K} (hm : Even m) : halfEven x = m ↔ |(m : K) - x| ≤ 1 / 2 := by
  constructor
  · rintro rfl
    exact abs_halfEven_sub_le x
  · intro h
    rw [abs_le] at h
    rcases le_or_gt (m : K) x with hle | hlt
    · have hfloor : ⌊x⌋ = m := by
        rw [Int.floor_eq_iff]
        constructor <;> linarith
      have hfract : Int.fract x ≤ 1 / 2 := by
        rw [Int.fract, hfloor]
        linarith
      unfold halfEven
      rw [hfloor, if_neg (not_lt.mpr hfract), if_pos hm, ite_self]
    · have hfloor : ⌊x⌋ = m - 1 := by
        rw [Int.floor_eq_iff]
        push_cast
        constructor <;> linarith
      have hfract : 1 / 2 ≤ Int.fract x := by
        rw [Int.fract, hfloor]
        push_cast
        linarith
      have hodd : ¬ Even (m - 1) := by
        rw [Int.even_sub_one]
        exact not_not_intro hm
      unfold halfEven
      rw [hfloor, if_neg (not_lt.mpr hfract), if_neg hodd, ite_self]
      omega

/-- What lies in the half-open interval around an integer goes to it. -/
theorem halfUp_eq {m : ℤ} {x : K} (hlow : (m : K) - 1 / 2 ≤ x) (hhigh : x < m + 1 / 2) :
    halfUp x = m := by
  unfold halfUp
  rw [Int.floor_eq_iff]
  constructor <;> linarith

/-! ## To a number of digits -/

/-- The unit of the last of `p` digits of a number. -/
def unit (b p : ℕ) (x : K) : K :=
  (b : K) ^ (Int.log b x + 1 - p)

/-- A number written with `p` digits in base `b`. -/
def toDigits (b p : ℕ) (x : K) : K :=
  halfEven (x / unit b p x) * unit b p x

variable {b p : ℕ} {x : K}

/-- The unit of the last digit is positive. -/
theorem unit_pos (hb : 1 < b) (p : ℕ) (x : K) : 0 < unit b p x :=
  zpow_pos (by exact_mod_cast (show 0 < b by omega)) _

/-- Every number moves by half a unit at most. -/
theorem abs_toDigits_sub_le (hb : 1 < b) (p : ℕ) (x : K) :
    |toDigits b p x - x| ≤ unit b p x / 2 := by
  have hpos := unit_pos hb p x
  have hsplit : toDigits b p x - x =
      (halfEven (x / unit b p x) - x / unit b p x) * unit b p x := by
    unfold toDigits
    rw [sub_mul, div_mul_cancel₀ _ hpos.ne']
  have hle := mul_le_mul_of_nonneg_right (abs_halfEven_sub_le (x / unit b p x)) hpos.le
  rw [hsplit, abs_mul, abs_of_pos hpos]
  linarith

/-- Zero has no digits to lose. -/
@[simp] theorem toDigits_zero : toDigits b p (0 : K) = 0 := by
  unfold toDigits
  rw [zero_div, ← Int.cast_zero, halfEven_intCast, Int.cast_zero, zero_mul]

/-- Multiples of the unit stay as they are. -/
theorem toDigits_of_multiple (hb : 1 < b) {m : ℤ} (h : x = m * unit b p x) :
    toDigits b p x = x := by
  have hdiv : x / unit b p x = m := div_eq_of_eq_mul (unit_pos hb p x).ne' h
  unfold toDigits
  rw [hdiv, halfEven_intCast, ← h]

/-- Numbers of at most `p` digits stay as they are. -/
theorem toDigits_of_exact (hb : 1 < b) {m : ℕ} {e : ℤ} (hm : m < b ^ p)
    (hx : x = m * (b : K) ^ e) : toDigits b p x = x := by
  have hb0 : (b : K) ≠ 0 := by exact_mod_cast (show b ≠ 0 by omega)
  rcases Nat.eq_zero_or_pos m with rfl | hpos
  · rw [hx]
    simp
  · have hxpos : 0 < x := by
      rw [hx]
      exact mul_pos (by exact_mod_cast hpos) (zpow_pos (by exact_mod_cast (show 0 < b by omega)) _)
    have hlt : x < (b : K) ^ (e + p) := by
      rw [hx, zpow_add₀ hb0, mul_comm, zpow_natCast]
      exact mul_lt_mul_of_pos_left (by exact_mod_cast hm)
        (zpow_pos (by exact_mod_cast (show 0 < b by omega)) _)
    have hlog : Int.log b x < e + p := (Int.lt_zpow_iff_log_lt hb hxpos).mp hlt
    obtain ⟨k, hk⟩ := Int.le.dest (show Int.log b x + 1 - p ≤ e by omega)
    refine toDigits_of_multiple (m := m * b ^ k) hb ?_
    calc x = m * (b : K) ^ (Int.log b x + 1 - p + k) := by rw [hk]; exact hx
      _ = ((m * b ^ k : ℕ) : ℤ) * unit b p x := by
        unfold unit
        rw [zpow_add₀ hb0, zpow_natCast]
        push_cast
        ring

/-- No positive number falls below the power of the base that it has reached. -/
theorem zpow_log_le_toDigits (hb : 1 < b) (hp : 0 < p) (hx : 0 < x) :
    (b : K) ^ Int.log b x ≤ toDigits b p x := by
  have hb0 : (b : K) ≠ 0 := by exact_mod_cast (show b ≠ 0 by omega)
  have hpos := unit_pos hb p x
  have hpower : (b : K) ^ Int.log b x = ((b ^ (p - 1) : ℕ) : ℤ) * unit b p x := by
    unfold unit
    push_cast
    rw [← zpow_natCast, ← zpow_add₀ hb0]
    congr 1
    omega
  rw [hpower]
  unfold toDigits
  refine mul_le_mul_of_nonneg_right (Int.cast_le.mpr (le_halfEven ?_)) hpos.le
  rw [le_div_iff₀ hpos, ← hpower]
  exact Int.zpow_log_le_self hb hx

/-- The digits of a number that is smaller than a power of the base. -/
theorem unit_le (hb : 1 < b) (hx : 0 < x) {k : ℤ} (h : x < (b : K) ^ k) (p : ℕ) :
    unit b p x ≤ (b : K) ^ (k - p) := by
  have hlog : Int.log b x < k := (Int.lt_zpow_iff_log_lt hb hx).mp h
  apply zpow_le_zpow_right₀ (by exact_mod_cast hb.le)
  omega

/-- In units of its last digit a number is below `b ^ p`. -/
theorem div_unit_lt (hb : 1 < b) (p : ℕ) (x : K) : x / unit b p x < ((b ^ p : ℕ) : ℤ) := by
  have hb0 : (b : K) ≠ 0 := by exact_mod_cast (show b ≠ 0 by omega)
  rw [div_lt_iff₀ (unit_pos hb p x)]
  calc x < (b : K) ^ (Int.log b x + 1) := Int.lt_zpow_succ_log_self hb x
    _ = ((b ^ p : ℕ) : ℤ) * unit b p x := by
      unfold unit
      push_cast
      rw [← zpow_natCast, ← zpow_add₀ hb0]
      congr 1
      omega

/-- A number with `p` digits is a multiple of a power of the base. -/
theorem toDigits_eq (hb : 1 < b) (hx : 0 < x) (p : ℕ) :
    ∃ m : ℕ, m ≤ b ^ p ∧ toDigits b p x = m * unit b p x := by
  have hle := halfEven_le (div_unit_lt hb p x)
  have hnonneg : 0 ≤ halfEven (x / unit b p x) := by
    apply le_halfEven
    rw [Int.cast_zero]
    exact (div_pos hx (unit_pos hb p x)).le
  obtain ⟨m, hm⟩ := Int.eq_ofNat_of_zero_le hnonneg
  refine ⟨m, by omega, ?_⟩
  unfold toDigits
  rw [hm, Int.cast_natCast]

/-- No positive number rises above the next power of the base. -/
theorem toDigits_le_zpow (hb : 1 < b) (hx : 0 < x) (p : ℕ) :
    toDigits b p x ≤ (b : K) ^ (Int.log b x + 1) := by
  have hb0 : (b : K) ≠ 0 := by exact_mod_cast (show b ≠ 0 by omega)
  obtain ⟨m, hm, h⟩ := toDigits_eq hb hx p
  rw [h]
  calc (m : K) * unit b p x ≤ ((b ^ p : ℕ) : K) * unit b p x :=
        mul_le_mul_of_nonneg_right (by exact_mod_cast hm) (unit_pos hb p x).le
    _ = (b : K) ^ (Int.log b x + 1) := by
      unfold unit
      push_cast
      rw [← zpow_natCast, ← zpow_add₀ hb0]
      congr 1
      omega

/-- **Rounding to digits keeps the order.** -/
theorem toDigits_mono (hb : 1 < b) (hp : 0 < p) {y : K} (hx : 0 ≤ x) (h : x ≤ y) :
    toDigits b p x ≤ toDigits b p y := by
  rcases eq_or_lt_of_le hx with rfl | hpos
  · rcases eq_or_lt_of_le h with rfl | hy
    · exact le_rfl
    · obtain ⟨m, -, hm⟩ := toDigits_eq hb hy p
      rw [toDigits_zero, hm]
      exact mul_nonneg (Nat.cast_nonneg m) (unit_pos hb p y).le
  · have hy : 0 < y := hpos.trans_le h
    rcases lt_or_eq_of_le (Int.log_mono_right (b := b) hpos h) with hlt | heq
    · calc toDigits b p x ≤ (b : K) ^ (Int.log b x + 1) := toDigits_le_zpow hb hpos p
        _ ≤ (b : K) ^ Int.log b y := zpow_le_zpow_right₀ (by exact_mod_cast hb.le) (by omega)
        _ ≤ toDigits b p y := zpow_log_le_toDigits hb hp hy
    · have hunit : unit b p x = unit b p y := by
        unfold unit
        rw [heq]
      have hstep := unit_pos (K := K) hb p y
      unfold toDigits
      rw [hunit]
      refine mul_le_mul_of_nonneg_right (Int.cast_le.mpr (halfEven_mono ?_)) hstep.le
      exact div_le_div_of_nonneg_right h hstep.le

/-- Rounding once is enough. -/
theorem toDigits_toDigits (hb : 1 < b) (hp : 0 < p) (hx : 0 < x) :
    toDigits b p (toDigits b p x) = toDigits b p x := by
  have hb0 : (b : K) ≠ 0 := by exact_mod_cast (show b ≠ 0 by omega)
  obtain ⟨m, hm, h⟩ := toDigits_eq hb hx p
  rcases lt_or_eq_of_le hm with hlt | rfl
  · exact toDigits_of_exact hb hlt h
  · refine toDigits_of_exact hb (m := 1) (e := Int.log b x + 1) ?_ ?_
    · exact Nat.one_lt_pow hp.ne' hb
    · rw [h]
      unfold unit
      push_cast
      rw [← zpow_natCast, ← zpow_add₀ hb0, one_mul]
      congr 1
      omega

/-- What is written as a number is no longer than it, and half a unit of the
number away at most. -/
theorem abs_sub_le_of_toDigits_eq (hb : 1 < b) (hp : 0 < p) {y : K} (hy : 0 < y)
    (h : toDigits b p y = x) : |y - x| ≤ unit b p x / 2 := by
  have hlog := zpow_log_le_toDigits hb hp hy
  have hnear := abs_toDigits_sub_le hb p y
  rw [h] at hlog hnear
  have hle : Int.log b y ≤ Int.log b x := by
    have hb0 : (0 : K) < b := by exact_mod_cast (show 0 < b by omega)
    exact (Int.zpow_le_iff_le_log hb ((zpow_pos hb0 _).trans_le hlog)).mp hlog
  have hunit : unit b p y ≤ unit b p x := by
    apply zpow_le_zpow_right₀ (by exact_mod_cast hb.le)
    omega
  rw [abs_sub_comm]
  linarith

end Rounding
