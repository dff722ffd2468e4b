import Mathlib.Algebra.Order.Floor.Ring
import Mathlib.Data.Int.ConditionallyCompleteOrder
import Mathlib.Order.Interval.Set.Basic
import Mathlib.Order.Monotone.Defs
import Mathlib.Tactic.Linarith
import Mathlib.Tactic.Ring

/-!
# Linear interpolation between numbered values

The value between two whole positions lies on the line through their values.
Where the values increase, so does the interpolation: within one step because
the line does (`interpolate_le_of_floor_eq`), and over a whole position because
everything before it stays below the value there and everything after it above.
-/

namespace Interpolation

variable {K : Type*} [Field K] [LinearOrder K] [IsStrictOrderedRing K] [FloorRing K]

/-- The value at the position `t`, between the values at the positions around it. -/
def interpolate (f : ℤ → K) (t : K) : K :=
  f ⌊t⌋ * (1 - Int.fract t) + f ⌈t⌉ * Int.fract t

variable {f : ℤ → K} {a b : ℤ} {s t : K}

omit [IsStrictOrderedRing K] in
theorem interpolate_of_floor_eq_ceil (h : ⌊t⌋ = ⌈t⌉) : interpolate f t = f ⌊t⌋ := by
  unfold interpolate
  rw [← h]
  ring

@[simp] theorem interpolate_intCast (f : ℤ → K) (m : ℤ) : interpolate f (m : K) = f m := by
  rw [interpolate_of_floor_eq_ceil (by rw [Int.floor_intCast, Int.ceil_intCast]),
    Int.floor_intCast]

/-- A position and the ones around it, none beyond the bounds of the position. -/
theorem positions_mem (hs : (a : K) ≤ t) (ht : t ≤ b) :
    ⌊t⌋ ∈ Set.Icc a b ∧ ⌈t⌉ ∈ Set.Icc a b := by
  have hlow : a ≤ ⌊t⌋ := Int.le_floor.mpr hs
  have hhigh : ⌈t⌉ ≤ b := Int.ceil_le.mpr ht
  have hstep : ⌊t⌋ ≤ ⌈t⌉ := Int.floor_le_ceil t
  exact ⟨⟨hlow, hstep.trans hhigh⟩, ⟨hlow.trans hstep, hhigh⟩⟩

theorem le_interpolate (hf : MonotoneOn f (Set.Icc a b)) (hs : (a : K) ≤ t) (ht : t ≤ b) :
    f ⌊t⌋ ≤ interpolate f t := by
  obtain ⟨hfloor, hceil⟩ := positions_mem hs ht
  have hle := hf hfloor hceil (Int.floor_le_ceil t)
  have hgain := mul_nonneg (sub_nonneg.mpr hle) (Int.fract_nonneg t)
  unfold interpolate
  linarith

theorem interpolate_le (hf : MonotoneOn f (Set.Icc a b)) (hs : (a : K) ≤ t) (ht : t ≤ b) :
    interpolate f t ≤ f ⌈t⌉ := by
  obtain ⟨hfloor, hceil⟩ := positions_mem hs ht
  have hle := hf hfloor hceil (Int.floor_le_ceil t)
  have hloss := mul_nonneg (sub_nonneg.mpr hle) (sub_nonneg.mpr (Int.fract_lt_one t).le)
  unfold interpolate
  linarith

/-- Within one step the interpolation is a line that does not fall. -/
theorem interpolate_le_of_floor_eq (hf : MonotoneOn f (Set.Icc a b)) (hs : (a : K) ≤ s)
    (hst : s ≤ t) (ht : t ≤ b) (h : ⌊s⌋ = ⌊t⌋) : interpolate f s ≤ interpolate f t := by
  by_cases hwhole : ⌊s⌋ = ⌈s⌉
  · rw [interpolate_of_floor_eq_ceil hwhole, h]
    exact le_interpolate hf (hs.trans hst) ht
  · -- `s` is no whole position, so both have the next one above them
    have hceil : ⌈s⌉ = ⌈t⌉ := by
      have hs_le := Int.ceil_le_floor_add_one s
      have ht_le := Int.ceil_le_floor_add_one t
      have hmono := Int.ceil_mono hst
      have hstep := Int.floor_le_ceil s
      omega
    obtain ⟨hfloor, hmem⟩ := positions_mem (hs.trans hst) ht
    have hle := hf hfloor hmem (Int.floor_le_ceil t)
    have hfract : Int.fract s ≤ Int.fract t := by
      unfold Int.fract
      rw [h]
      linarith
    have hgain := mul_nonneg (sub_nonneg.mpr hle) (sub_nonneg.mpr hfract)
    unfold interpolate
    rw [hceil, h]
    linarith

theorem interpolate_mono (hf : MonotoneOn f (Set.Icc a b)) (hs : (a : K) ≤ s) (hst : s ≤ t)
    (ht : t ≤ b) : interpolate f s ≤ interpolate f t := by
  rcases (Int.floor_mono hst).eq_or_lt with h | h
  · exact interpolate_le_of_floor_eq hf hs hst ht h
  · -- a whole position lies between them
    have hbetween : ⌈s⌉ ≤ ⌊t⌋ := (Int.ceil_le_floor_add_one s).trans h
    have hceil := (positions_mem hs (hst.trans ht)).2
    have hfloor := (positions_mem (hs.trans hst) ht).1
    calc interpolate f s ≤ f ⌈s⌉ := interpolate_le hf hs (hst.trans ht)
      _ ≤ f ⌊t⌋ := hf hceil hfloor hbetween
      _ ≤ interpolate f t := le_interpolate hf (hs.trans hst) ht

end Interpolation
