import FluidGateway.PythonValues

/-!
# Conversion to units of the wire

`_scaled_decimal` of `fluidgateway/fluidlink_v2.py` multiplies a decimal by a
scale and rounds the product to an integer.  The product is first rounded to the
28 digits of the decimal context.  So a product just below a half is rounded
twice, and one of more than 28 digits cannot be rounded to an integer at all
(`scaledDecimal_converts_iff`).
-/

namespace FluidGateway.FluidLink

open Rounding
open FluidGateway.Adapter (PyFloat)

/-- A quantity that is converted. -/
inductive Conversion where
  | eventTime | decisionTime | memory
  deriving DecidableEq, Repr

namespace Conversion

/-- The factor of a conversion: microseconds in a millisecond, or bytes in a mebibyte. -/
def scale : Conversion → ℕ
  | .eventTime | .decisionTime => 1000
  | .memory => mebibyte

/-- The largest value of the field that is converted to. -/
def maximum : Conversion → ℕ
  | .eventTime => 0xFFFFFFFF
  | .decisionTime | .memory => 0xFFFFFFFFFFFFFFFF

/-- Every maximum has at most 20 digits, far fewer than the decimal context. -/
theorem maximum_lt (c : Conversion) : c.maximum < 10 ^ 20 := by
  cases c <;> decide

end Conversion

/-- `InvalidOperation` and `Overflow`, by the text that they have. -/
def invalidOperation : PyException := .other "[<class 'decimal.InvalidOperation'>]"

/-- The exception of the decimal module, by which it refuses a result out of its range. -/
def decimalOverflow : PyException := .other "[<class 'decimal.Overflow'>]"

/-- The least number that no exponent of the context fits. -/
def overflowBound : ℚ := 10 ^ (1000000 : ℕ)

/-- `int((number * scale).quantize(Decimal("1"), rounding=ROUND_HALF_UP))` of a
number that is not negative.  What is too small for the context is rounded to
zero either way. -/
def quantized (number : ℚ) (scale : ℕ) : Except PyException ℕ :=
  let product := toDigits 10 decimalDigits (number * scale)
  if overflowBound ≤ product then .error decimalOverflow
  else
    let scaled := (halfUp product).toNat
    if 10 ^ decimalDigits ≤ scaled then .error invalidOperation else .ok scaled

namespace PyValue

variable (digitOf : PyDecimal.DigitOf)

/-- `_scaled_decimal`. -/
def scaledDecimal (value : PyValue) (scale maximum : ℕ) (name : String) : Except PyException ℕ :=
  let refused := fun (message : String) =>
    Except.error (PyException.protocol (invalidPayload ("FluidLink v2 " ++ name ++ message)))
  if value.isBool then refused " must be numeric."
  else
    match decimalOf digitOf value with
    | Option.none => refused " must be numeric."
    | some Option.none => refused " must be finite and non-negative."
    | some (some number) =>
      if number < 0 then refused " must be finite and non-negative."
      else do
        let scaled ← quantized number scale
        if maximum < scaled then refused " exceeds its wire range." else return scaled

/-- The number that a value stands for: that of a text by the grammar, that of
a float by its shortest text. -/
def numberOf : PyValue → Option ℚ
  | .int value => some value
  | .float (.finite x) => some (shortestOf x)
  | .decimal d => d.number
  | .text t => (PyDecimal.parse digitOf t).bind PyDecimal.number
  | _ => Option.none

/-- The finite decimal, not negative, that a value stands for. -/
def denoted (value : PyValue) : Option ℚ :=
  (numberOf digitOf value).filter fun x => 0 ≤ x

/-- What is promised of a finite decimal: the product, a half rounded up, or an
error of the protocol when it is beyond the maximum. -/
def Promised (c : Conversion) (x : ℚ) (result : Except PyException ℕ) : Prop :=
  if ⌊x * c.scale + 1 / 2⌋₊ ≤ c.maximum then result = .ok ⌊x * c.scale + 1 / 2⌋₊
  else ∃ e, result = .error (.protocol e)

/-- What a conversion promises. -/
def Converts (value : PyValue) (c : Conversion) (result : Except PyException ℕ) : Prop :=
  match denoted digitOf value with
  | some x => Promised c x result
  | Option.none => ∃ e, result = .error (.protocol e)

end PyValue

/-! ## Rounding twice -/

section

variable {y : ℚ}

/-- A number below a power of ten has fewer digits. -/
theorem log_lt_of_lt (hy : 0 ≤ y) {k : ℕ} (h : y < 10 ^ k) (hk : 0 < k) : Int.log 10 y < k := by
  rcases eq_or_lt_of_le hy with rfl | hpos
  · rw [Int.log_of_right_le_zero _ le_rfl]
    exact_mod_cast hk
  · refine (Int.lt_zpow_iff_log_lt (by decide) hpos).mp ?_
    exact_mod_cast h

/-- A half has few digits. -/
theorem toDigits_half {n : ℕ} (hn : n < 10 ^ 20) :
    toDigits 10 decimalDigits ((n : ℚ) + 1 / 2) = n + 1 / 2 := by
  refine toDigits_of_exact (b := 10) (by decide) (m := 10 * n + 5) (e := -1) ?_ ?_
  · unfold decimalDigits
    omega
  · push_cast
    rw [zpow_neg_one]
    ring

/-- What is not below a half is not rounded below it. -/
theorem half_le_toDigits {n : ℕ} (hn : n < 10 ^ 20) (h : (n : ℚ) + 1 / 2 ≤ y) :
    (n : ℚ) + 1 / 2 ≤ toDigits 10 decimalDigits y := by
  have hmono := toDigits_mono (b := 10) (p := decimalDigits) (by decide) (by decide)
    (by positivity) h
  rwa [toDigits_half hn] at hmono

/-- **What is below a half is rounded to it when it is no more than half a unit
below**; of two neighbours the half is the even one. -/
theorem toDigits_lt_half_iff {n : ℕ} (hn : n < 10 ^ 20) (hy : 0 ≤ y) (h : y < n + 1 / 2) :
    toDigits 10 decimalDigits y < n + 1 / 2 ↔ unit 10 decimalDigits y / 2 < n + 1 / 2 - y := by
  have hupper : y < 10 ^ 21 := by
    have hcast : (n : ℚ) < 10 ^ 20 := by exact_mod_cast hn
    linarith
  have hlog : Int.log 10 y < 21 := log_lt_of_lt hy hupper (by decide)
  obtain ⟨k, hk⟩ := Int.eq_ofNat_of_zero_le (show 0 ≤ 26 - Int.log 10 y by omega)
  have hunit : unit 10 decimalDigits y = ((10 : ℚ) ^ (k + 1))⁻¹ := by
    unfold unit decimalDigits
    rw [← zpow_natCast, ← zpow_neg]
    push_cast
    congr 1
    omega
  have hstep : (0 : ℚ) < 10 ^ (k + 1) := by positivity
  have hle : toDigits 10 decimalDigits y ≤ n + 1 / 2 := by
    have hmono := toDigits_mono (b := 10) (p := decimalDigits) (by decide) (by decide) hy h.le
    rwa [toDigits_half hn] at hmono
  have heven : Even (((2 * n + 1) * (5 * 10 ^ k) : ℕ) : ℤ) := by
    have hpos : 1 ≤ k := by omega
    obtain ⟨j, rfl⟩ := Nat.exists_eq_add_of_le hpos
    refine (Int.even_coe_nat _).mpr (even_iff_two_dvd.mpr ⟨(2 * n + 1) * (25 * 10 ^ j), ?_⟩)
    rw [pow_add]
    ring
  have hhalf : ((((2 * n + 1) * (5 * 10 ^ k) : ℕ) : ℤ) : ℚ) = (n + 1 / 2) * 10 ^ (k + 1) := by
    push_cast
    rw [pow_succ]
    ring
  have hreach : toDigits 10 decimalDigits y = n + 1 / 2 ↔
      n + 1 / 2 - y ≤ unit 10 decimalDigits y / 2 := by
    have hinteger : toDigits 10 decimalDigits y = n + 1 / 2 ↔
        halfEven (y / unit 10 decimalDigits y) = (((2 * n + 1) * (5 * 10 ^ k) : ℕ) : ℤ) := by
      rw [← Int.cast_inj (α := ℚ), hhalf]
      unfold toDigits
      rw [hunit, ← div_eq_mul_inv, div_eq_iff hstep.ne']
    rw [hinteger, halfEven_eq_iff heven, hhalf, hunit, div_inv_eq_mul, ← sub_mul,
      abs_of_pos (mul_pos (by linarith) hstep), ← le_div_iff₀ hstep, div_div, inv_eq_one_div,
      div_div, mul_comm (2 : ℚ)]
  rw [← not_le, ← not_le, not_iff_not, ← hreach]
  exact ⟨fun hge => le_antisymm hle hge, fun heq => heq.ge⟩

/-- The unit of a number with as many digits before the point as the context has. -/
theorem unit_eq_one (h : 10 ^ 27 ≤ y) (hlt : y < 10 ^ 28) : unit 10 decimalDigits y = 1 := by
  have hpos : 0 < y := lt_of_lt_of_le (by positivity) h
  have hhigh : Int.log 10 y < 28 := log_lt_of_lt hpos.le hlt (by decide)
  have hlow : 27 ≤ Int.log 10 y := by
    rw [← Int.zpow_le_iff_le_log (by decide) hpos]
    exact_mod_cast h
  have hlog : Int.log 10 y + 1 - decimalDigits = 0 := by
    unfold decimalDigits
    omega
  unfold unit
  rw [hlog, zpow_zero]

/-- A number within half a unit of 10 ^ 28 or above it is not rounded below. -/
theorem toDigits_large (h : 10 ^ 28 - 1 / 2 ≤ y) : 10 ^ 28 ≤ toDigits 10 decimalDigits y := by
  rcases lt_or_ge y (10 ^ 28) with hlt | hge
  · have hunit := unit_eq_one (by linarith) hlt
    have hceil : halfEven y = 10 ^ 28 := by
      rw [halfEven_eq_iff (by decide)]
      push_cast
      rw [abs_of_nonneg (by linarith)]
      linarith
    unfold toDigits
    rw [hunit, div_one, hceil]
    norm_num
  · have hexact : toDigits 10 decimalDigits ((10 : ℚ) ^ 28) = 10 ^ 28 :=
      toDigits_of_exact (b := 10) (by decide) (m := 1) (e := 28) (by decide) (by norm_num)
    have hmono := toDigits_mono (b := 10) (p := decimalDigits) (by decide) (by decide)
      (by positivity) hge
    rwa [hexact] at hmono

/-- A number further below 10 ^ 28 keeps 28 digits before the point. -/
theorem toDigits_small (hy : 0 ≤ y) (h : y < 10 ^ 28 - 1 / 2) :
    toDigits 10 decimalDigits y ≤ 10 ^ 28 - 1 := by
  rcases lt_or_ge y (10 ^ 27) with hlt | hge
  · have hexact : toDigits 10 decimalDigits ((10 : ℚ) ^ 27) = 10 ^ 27 :=
      toDigits_of_exact (b := 10) (by decide) (m := 1) (e := 27) (by decide) (by norm_num)
    have hmono := toDigits_mono (b := 10) (p := decimalDigits) (by decide) (by decide) hy hlt.le
    rw [hexact] at hmono
    linarith
  · have hunit := unit_eq_one hge (by linarith)
    have hnear := abs_le.mp (abs_halfEven_sub_le y)
    have hlt : halfEven y < 10 ^ 28 := by
      have hcast : (halfEven y : ℚ) < ((10 ^ 28 : ℤ) : ℚ) := by
        push_cast
        linarith [hnear.2]
      exact_mod_cast hcast
    have hle : (halfEven y : ℚ) + 1 ≤ ((10 ^ 28 : ℤ) : ℚ) := by exact_mod_cast hlt
    unfold toDigits
    rw [hunit, div_one, mul_one]
    push_cast at hle
    linarith

/-- Rounding to digits does not make a number negative. -/
theorem toDigits_nonneg (hy : 0 ≤ y) : 0 ≤ toDigits 10 decimalDigits y := by
  have hmono := toDigits_mono (b := 10) (p := decimalDigits) (by decide) (by decide) le_rfl hy
  rwa [toDigits_zero] at hmono

/-- **Rounding twice is rounding once, or is beyond the maximum as well, exactly
when the product is not just below a half.** -/
theorem floor_toDigits_iff {maximum : ℕ} (hmaximum : maximum < 10 ^ 20) (hy : 0 ≤ y) :
    (if ⌊y + 1 / 2⌋₊ ≤ maximum then
        ⌊toDigits 10 decimalDigits y + 1 / 2⌋₊ = ⌊y + 1 / 2⌋₊
      else maximum < ⌊toDigits 10 decimalDigits y + 1 / 2⌋₊) ↔
      ∀ n : ℕ, n ≤ maximum → y < n + 1 / 2 → unit 10 decimalDigits y / 2 < n + 1 / 2 - y := by
  have hdigits := toDigits_nonneg hy
  have hlow := Nat.floor_le (show (0 : ℚ) ≤ y + 1 / 2 by linarith)
  have hhigh := Nat.lt_floor_add_one (y + 1 / 2)
  generalize he : ⌊y + 1 / 2⌋₊ = e at hlow hhigh
  by_cases hle : e ≤ maximum
  · rw [if_pos hle]
    have hreach : ⌊toDigits 10 decimalDigits y + 1 / 2⌋₊ = e ↔
        toDigits 10 decimalDigits y < e + 1 / 2 := by
      rw [Nat.floor_eq_iff (by linarith)]
      constructor
      · intro h
        linarith [h.2]
      · intro h
        refine ⟨?_, by linarith⟩
        cases e with
        | zero =>
            rw [Nat.cast_zero]
            linarith
        | succ n =>
            push_cast at hlow ⊢
            have hhalf := half_le_toDigits (y := y) (n := n) (by omega) (by linarith)
            linarith
    rw [hreach, toDigits_lt_half_iff (by omega) hy (by linarith)]
    constructor
    · intro h n _ hn
      have hen : e ≤ n := by
        by_contra hlt
        rw [not_le] at hlt
        have hcast : (n : ℚ) + 1 ≤ e := by exact_mod_cast hlt
        linarith
      have hcast : (e : ℚ) ≤ n := by exact_mod_cast hen
      linarith
    · intro h
      exact h e hle (by linarith)
  · rw [if_neg hle]
    rw [not_le] at hle
    have hcast : (maximum : ℚ) + 1 ≤ e := by exact_mod_cast hle
    refine iff_of_true ?_ ?_
    · have hhalf := half_le_toDigits (y := y) (n := maximum) hmaximum (by linarith)
      exact Nat.lt_of_succ_le (Nat.le_floor (by push_cast; linarith))
    · intro n hn hlt
      have hcast' : (n : ℚ) ≤ maximum := by exact_mod_cast hn
      linarith

end

/-! ## What is converted -/

/-- Rounding half up is the floor of a half more. -/
theorem halfUp_toNat (x : ℚ) : (halfUp x).toNat = ⌊x + 1 / 2⌋₊ :=
  Int.floor_toNat _

/-- A product of more than 28 digits is not rounded to an integer. -/
theorem quantized_large {x : ℚ} {scale : ℕ} (h : 10 ^ 28 - 1 / 2 ≤ x * scale) :
    ∃ message, quantized x scale = .error (.other message) := by
  have hlarge := toDigits_large h
  have hscaled : 10 ^ decimalDigits ≤ (halfUp (toDigits 10 decimalDigits (x * scale))).toNat := by
    rw [halfUp_toNat]
    refine Nat.le_floor ?_
    unfold decimalDigits at hlarge ⊢
    push_cast
    linarith
  unfold quantized
  by_cases hoverflow : overflowBound ≤ toDigits 10 decimalDigits (x * scale)
  · exact ⟨_, if_pos hoverflow⟩
  · refine ⟨_, (if_neg hoverflow).trans (if_pos hscaled)⟩

/-- Below 10 ^ 28 a product is rounded to 28 digits and then half up to a whole number. -/
theorem quantized_small {x : ℚ} {scale : ℕ} (hx : 0 ≤ x * scale) (h : x * scale < 10 ^ 28 - 1 / 2) :
    quantized x scale = .ok ⌊toDigits 10 decimalDigits (x * scale) + 1 / 2⌋₊ := by
  have hsmall := toDigits_small hx h
  have hnonneg := toDigits_nonneg hx
  have hbound : (10 : ℚ) ^ 28 ≤ overflowBound :=
    pow_le_pow_right₀ (by norm_num) (by decide)
  unfold quantized
  rw [if_neg (by linarith), halfUp_toNat, if_neg]
  rw [not_le, Nat.floor_lt (by linarith)]
  unfold decimalDigits at hsmall ⊢
  push_cast
  linarith

namespace PyValue

variable {digitOf : PyDecimal.DigitOf} {value : PyValue}

/-- `Decimal(str(value))` raises, or is what the value stands for. -/
theorem decimalOf_eq (digitOf : PyDecimal.DigitOf) (value : PyValue) :
    decimalOf digitOf value = Option.none ∨
      decimalOf digitOf value = some (numberOf digitOf value) := by
  have hwithin : ∀ d : PyDecimal, (if d.within then some d.number else Option.none) = Option.none ∨
      (if d.within then some d.number else Option.none) = some d.number := by
    intro d
    by_cases h : d.within = true
    · exact .inr (if_pos h)
    · exact .inl (if_neg h)
  cases value with
  | int n =>
      by_cases h : writable n = true
      · exact .inr (if_pos h)
      · exact .inl (if_neg h)
  | float x => cases x <;> exact .inr rfl
  | decimal d => exact hwithin d
  | text t =>
      change (PyDecimal.parse digitOf t).bind _ = Option.none ∨
        (PyDecimal.parse digitOf t).bind _ = some ((PyDecimal.parse digitOf t).bind _)
      cases PyDecimal.parse digitOf t with
      | none => exact .inl rfl
      | some d => exact hwithin d
  | _ => exact .inl rfl

/-- A whole number that may be written out is itself. -/
theorem decimalOf_int {n : ℤ} (h : writable n = true) :
    decimalOf digitOf (.int n) = some (some (n : ℚ)) :=
  if_pos h

/-- What is no number, or a negative one, is refused with a protocol error. -/
theorem scaledDecimal_refused (scale maximum : ℕ) (name : String)
    (h : ∀ x, decimalOf digitOf value = some (some x) → x < 0) :
    ∃ e, scaledDecimal digitOf value scale maximum name = .error (.protocol e) := by
  unfold scaledDecimal
  by_cases hbool : value.isBool = true
  · exact ⟨_, if_pos hbool⟩
  · simp only [if_neg hbool]
    cases hdecimal : decimalOf digitOf value with
    | none => exact ⟨_, rfl⟩
    | some number =>
        cases number with
        | none => exact ⟨_, rfl⟩
        | some x => exact ⟨_, if_pos (h x hdecimal)⟩

/-- A number is scaled and rounded, and compared with the maximum. -/
theorem scaledDecimal_number {x : ℚ} (h : decimalOf digitOf value = some (some x)) (hx : 0 ≤ x)
    (scale maximum : ℕ) (name : String) :
    scaledDecimal digitOf value scale maximum name = (do
      let scaled ← quantized x scale
      if maximum < scaled then
        .error (.protocol (invalidPayload ("FluidLink v2 " ++ name ++ " exceeds its wire range.")))
      else return scaled) := by
  have hbool : ¬ value.isBool = true := by
    intro hbool
    cases value with
    | bool b => cases h
    | _ => cases hbool
  unfold scaledDecimal
  simp only [if_neg hbool, h]
  exact if_neg (not_lt.mpr hx)

/-- A product of more than 28 digits raises an exception of the decimal module. -/
theorem scaledDecimal_large {x : ℚ} {scale : ℕ} (h : decimalOf digitOf value = some (some x))
    (hlarge : 10 ^ 28 - 1 / 2 ≤ x * scale) (maximum : ℕ) (name : String) :
    ∃ message, scaledDecimal digitOf value scale maximum name = .error (.other message) := by
  have hx : 0 ≤ x := by
    by_contra hneg
    have hle := mul_nonpos_of_nonpos_of_nonneg (not_le.mp hneg).le (Nat.cast_nonneg (α := ℚ) scale)
    linarith
  obtain ⟨message, hmessage⟩ := quantized_large hlarge
  refine ⟨message, ?_⟩
  rw [scaledDecimal_number h hx, hmessage]
  rfl

/-- The inputs on which the conversion keeps its promise: the product has at
most 28 digits before the point, and is not within half a unit of its 28th digit
below a half; or the constructor refuses a number that is too large anyway. -/
def Convertible (digitOf : PyDecimal.DigitOf) (value : PyValue) (c : Conversion) : Prop :=
  ∀ x, denoted digitOf value = some x →
    if (decimalOf digitOf value).isSome then
      x * c.scale < 10 ^ 28 - 1 / 2 ∧ ∀ n : ℕ, n ≤ c.maximum → x * c.scale < n + 1 / 2 →
        unit 10 decimalDigits (x * c.scale) / 2 < n + 1 / 2 - x * c.scale
    else c.maximum + 1 / 2 ≤ x * c.scale

variable {c : Conversion} {x : ℚ}

/-- Refusing a number is promised exactly where it is rounded beyond the maximum. -/
theorem promised_refused (hx : 0 ≤ x) (e : FluidLinkProtocolError) :
    Promised c x (.error (.protocol e)) ↔ (c.maximum : ℚ) + 1 / 2 ≤ x * c.scale := by
  have hproduct : 0 ≤ x * c.scale := mul_nonneg hx (Nat.cast_nonneg _)
  have hlarge : c.maximum < ⌊x * c.scale + 1 / 2⌋₊ ↔ (c.maximum : ℚ) + 1 / 2 ≤ x * c.scale := by
    rw [← Nat.succ_le_iff, Nat.le_floor_iff (by linarith)]
    push_cast
    constructor <;> intro h <;> linarith
  unfold Promised
  rw [← hlarge]
  split_ifs with hle
  · exact iff_of_false (fun h => nomatch h) (not_lt.mpr hle)
  · exact iff_of_true ⟨e, rfl⟩ (not_le.mp hle)

/-- An exception of the decimal module is never promised. -/
theorem not_promised_other (message : String) : ¬ Promised c x (.error (.other message)) := by
  unfold Promised
  split_ifs
  · exact fun h => nomatch h
  · rintro ⟨e, he⟩
    cases he

/-- Returning a number, or refusing it by its size, is promised exactly where it is the
rounded one, or both are beyond the maximum. -/
theorem promised_scaled (scaled : ℕ) (e : FluidLinkProtocolError) :
    Promised c x (if c.maximum < scaled then .error (.protocol e) else .ok scaled) ↔
      if ⌊x * c.scale + 1 / 2⌋₊ ≤ c.maximum then scaled = ⌊x * c.scale + 1 / 2⌋₊
      else c.maximum < scaled := by
  unfold Promised
  by_cases hscaled : c.maximum < scaled
  · rw [if_pos hscaled]
    split_ifs with hle
    · refine iff_of_false (fun h => nomatch h) ?_
      omega
    · exact iff_of_true ⟨e, rfl⟩ hscaled
  · rw [if_neg hscaled]
    split_ifs
    · rw [Except.ok.injEq]
    · refine iff_of_false ?_ hscaled
      rintro ⟨e', he⟩
      cases he

/-- What is converted keeps the promise unless it is rounded twice, or not at all. -/
theorem promised_iff (h : decimalOf digitOf value = some (some x)) (hx : 0 ≤ x) (name : String) :
    Promised c x (scaledDecimal digitOf value c.scale c.maximum name) ↔
      x * c.scale < 10 ^ 28 - 1 / 2 ∧ ∀ n : ℕ, n ≤ c.maximum → x * c.scale < n + 1 / 2 →
        unit 10 decimalDigits (x * c.scale) / 2 < n + 1 / 2 - x * c.scale := by
  have hproduct : 0 ≤ x * c.scale := mul_nonneg hx (Nat.cast_nonneg _)
  rcases le_or_gt ((10 : ℚ) ^ 28 - 1 / 2) (x * c.scale) with hlarge | hsmall
  · obtain ⟨message, hmessage⟩ := scaledDecimal_large h hlarge c.maximum name
    rw [hmessage]
    exact iff_of_false (not_promised_other _) fun h => absurd h.1 (not_lt.mpr hlarge)
  · rw [and_iff_right hsmall, ← floor_toDigits_iff c.maximum_lt hproduct,
      scaledDecimal_number h hx, quantized_small hproduct hsmall]
    exact promised_scaled _ _

/-- A conversion that returns has read a number, and returns no more than the
maximum. -/
theorem scaledDecimal_ok {n : ℕ} {name : String}
    (h : scaledDecimal digitOf value c.scale c.maximum name = .ok n) :
    ∃ x, decimalOf digitOf value = some (some x) ∧ 0 ≤ x ∧ n ≤ c.maximum := by
  by_contra hnone
  push Not at hnone
  by_cases hnumber : ∃ x, decimalOf digitOf value = some (some x) ∧ 0 ≤ x
  · obtain ⟨x, hx, hnonneg⟩ := hnumber
    have hlarge := hnone x hx hnonneg
    rw [scaledDecimal_number hx hnonneg] at h
    cases hquantized : quantized x c.scale with
    | error e =>
        rw [hquantized] at h
        cases h
    | ok scaled =>
        rw [hquantized] at h
        change (if c.maximum < scaled then _ else _) = _ at h
        split_ifs at h with hle
        cases h
        exact hle hlarge
  · have hnegative : ∀ x, decimalOf digitOf value = some (some x) → x < 0 :=
      fun x hx => not_le.mp fun hnonneg => hnumber ⟨x, hx, hnonneg⟩
    obtain ⟨e, he⟩ := scaledDecimal_refused c.scale c.maximum name hnegative
    rw [he] at h
    cases h

/-- What is returned on these inputs is the product, a half rounded up. -/
theorem scaledDecimal_rounded {n : ℕ} {name : String}
    (h : scaledDecimal digitOf value c.scale c.maximum name = .ok n)
    (hconvertible : Convertible digitOf value c) :
    ∃ x, denoted digitOf value = some x ∧ n = ⌊x * c.scale + 1 / 2⌋₊ := by
  obtain ⟨x, hx, hnonneg, hn⟩ := scaledDecimal_ok h
  have hnumber : numberOf digitOf value = some x := by
    rcases decimalOf_eq digitOf value with hnone | hsome
    · rw [hnone] at hx
      cases hx
    · rw [hsome] at hx
      exact Option.some.inj hx
  have hdenoted : denoted digitOf value = some x :=
    Option.filter_eq_some_iff.mpr ⟨hnumber, by simpa using hnonneg⟩
  have hcondition := hconvertible x hdenoted
  rw [hx, Option.isSome_some, if_pos rfl, ← promised_iff hx hnonneg name, h] at hcondition
  refine ⟨x, hdenoted, ?_⟩
  unfold Promised at hcondition
  split_ifs at hcondition
  · exact Except.ok.inj hcondition
  · obtain ⟨e, he⟩ := hcondition
    cases he

/-- **A conversion keeps its promise exactly on these inputs.** -/
theorem scaledDecimal_converts_iff (digitOf : PyDecimal.DigitOf) (value : PyValue) (c : Conversion)
    (name : String) :
    Converts digitOf value c (scaledDecimal digitOf value c.scale c.maximum name) ↔
      Convertible digitOf value c := by
  unfold Converts Convertible
  cases hdenoted : denoted digitOf value with
  | none =>
      refine iff_of_true (scaledDecimal_refused _ _ _ fun x hx => ?_) fun x hx => nomatch hx
      rcases decimalOf_eq digitOf value with hnone | hsome
      · rw [hnone] at hx
        cases hx
      · by_contra hneg
        rw [hsome] at hx
        rw [denoted, Option.some.inj hx, Option.filter_some, if_pos (by simpa using hneg)]
          at hdenoted
        cases hdenoted
  | some x =>
      obtain ⟨hnumber, hx⟩ := Option.filter_eq_some_iff.mp hdenoted
      have hx : 0 ≤ x := by simpa using hx
      have hsingle : ∀ P : ℚ → Prop, (∀ z, some x = some z → P z) ↔ P x :=
        fun P => ⟨fun h => h x rfl, fun h z hz => Option.some.inj hz ▸ h⟩
      rw [hsingle]
      rcases decimalOf_eq digitOf value with hnone | hsome
      · -- the constructor refuses the number
        have hnegative : ∀ z, decimalOf digitOf value = some (some z) → z < 0 := by
          intro z hz
          rw [hnone] at hz
          cases hz
        obtain ⟨e, he⟩ := scaledDecimal_refused c.scale c.maximum name hnegative
        rw [he, hnone, Option.isSome_none, if_neg Bool.false_ne_true]
        exact promised_refused hx e
      · have hdecimal : decimalOf digitOf value = some (some x) := by rw [hsome, hnumber]
        rw [hdecimal, Option.isSome_some, if_pos rfl]
        exact promised_iff hdecimal hx name

/-- No double makes the context overflow. -/
theorem product_lt_overflow {x : ℚ} {scale k : ℕ} (hx : 0 < x) (hdouble : IsDouble x)
    (hlt : x < 10 ^ k) (hk : k ≤ 1000) (hscale : scale < 10 ^ 10) :
    toDigits 10 decimalDigits (shortest x * scale) < overflowBound := by
  have hshortest := shortest_pos hx hdouble
  rcases Nat.eq_zero_or_pos scale with rfl | hpos
  · rw [Nat.cast_zero, mul_zero, toDigits_zero]
    exact pow_pos (by norm_num) _
  · have hproduct : 0 < shortest x * scale := mul_pos hshortest (by exact_mod_cast hpos)
    have hunit : unit 2 53 x ≤ 2 * x := by
      have hlow := Int.zpow_log_le_self (b := 2) (by decide) hx
      calc unit 2 53 x ≤ ((2 : ℕ) : ℚ) ^ (Int.log 2 x + 1) :=
            zpow_le_zpow_right₀ (by norm_num) (by push_cast; omega)
        _ = 2 * ((2 : ℕ) : ℚ) ^ Int.log 2 x := by
          rw [zpow_add₀ (by norm_num), zpow_one]
          push_cast
          ring
        _ ≤ 2 * x := by linarith
    have hnear := abs_le.mp (abs_shortest_sub_le hx hdouble)
    have hcast : (scale : ℚ) ≤ 10 ^ 10 := by exact_mod_cast hscale.le
    have hbound : shortest x * scale < 10 ^ (k + 11) := by
      have hpower : (0 : ℚ) < 10 ^ k := by positivity
      calc shortest x * scale ≤ 2 * x * 10 ^ 10 :=
            mul_le_mul (by linarith [hnear.2]) hcast (by positivity) (by linarith)
        _ < 10 ^ (k + 11) := by
          rw [pow_add]
          linarith
    have hlog := log_lt_of_lt hproduct.le hbound (by omega)
    calc toDigits 10 decimalDigits (shortest x * scale)
        ≤ ((10 : ℕ) : ℚ) ^ (Int.log 10 (shortest x * scale) + 1) :=
          toDigits_le_zpow (by decide) hproduct _
      _ ≤ ((10 : ℕ) : ℚ) ^ ((k + 11 : ℕ) : ℤ) := zpow_le_zpow_right₀ (by norm_num) (by omega)
      _ = 10 ^ (k + 11) := by rw [zpow_natCast, Nat.cast_ofNat]
      _ < overflowBound := pow_lt_pow_right₀ (by norm_num) (by omega)

/-- **The conversion of a double is the one that the sessions make.** -/
theorem scaledDecimal_float {x : ℚ} {scale k : ℕ} (hx : 0 < x) (hdouble : IsDouble x)
    (hlt : x < 10 ^ k) (hk : k ≤ 1000) (hscale : scale < 10 ^ 10) (maximum : ℕ) (name : String) :
    scaledDecimal digitOf (.float (.finite x)) scale maximum name =
      FluidLink.scaledDecimal (.finite x) scale maximum name := by
  have hshortest : shortestOf x = shortest x := if_neg (not_lt.mpr hx.le)
  have hdecimal : decimalOf digitOf (.float (.finite x)) = some (some (shortest x)) := by
    rw [← hshortest]
    rfl
  have hfits := product_lt_overflow hx hdouble hlt hk hscale
  rw [scaledDecimal_number hdecimal (shortest_pos hx hdouble).le]
  unfold quantized FluidLink.scaledDecimal
  simp only [if_neg (not_le.mpr hfits), if_neg (not_lt.mpr hx.le)]
  by_cases hinvalid : 10 ^ decimalDigits ≤
      (halfUp (toDigits 10 decimalDigits (shortest x * scale))).toNat
  · rw [if_pos hinvalid, if_pos hinvalid]
    rfl
  · rw [if_neg hinvalid, if_neg hinvalid]
    rfl

/-- An integer of 29 digits makes the conversion raise something else than an
error of the protocol. -/
theorem octillions_not_converted :
    ¬ Converts (fun _ => Option.none) (.int (10 ^ 28)) .eventTime
      (scaledDecimal (fun _ => Option.none) (.int (10 ^ 28)) Conversion.eventTime.scale
        Conversion.eventTime.maximum "milliseconds") := by
  have hwritable : writable (10 ^ 28) = true := by
    unfold writable maxStrDigits
    rw [decide_eq_true_eq, show (10 ^ 28 : ℤ).natAbs = 10 ^ 28 from rfl, Nat.log_pow (by decide)]
    decide
  have hdecimal : decimalOf (fun _ => Option.none) (.int (10 ^ 28)) =
      some (some ((10 ^ 28 : ℤ) : ℚ)) := decimalOf_int hwritable
  have hdenoted : denoted (fun _ => Option.none) (.int (10 ^ 28)) = some ((10 ^ 28 : ℤ) : ℚ) :=
    Option.filter_eq_some_iff.mpr ⟨rfl, by norm_num⟩
  have hlarge : 10 ^ 28 - 1 / 2 ≤ ((10 ^ 28 : ℤ) : ℚ) * Conversion.eventTime.scale := by
    norm_num [Conversion.scale]
  obtain ⟨message, hmessage⟩ :=
    scaledDecimal_large hdecimal hlarge Conversion.eventTime.maximum "milliseconds"
  unfold Converts
  rw [hdenoted, hmessage]
  exact not_promised_other message

end PyValue

end FluidGateway.FluidLink
