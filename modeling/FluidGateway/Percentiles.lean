import FluidGateway.Lib.Interpolation
import FluidGateway.Lib.Sequencing
import Mathlib.Data.Int.ConditionallyCompleteOrder
import Mathlib.Data.List.GetD
import Mathlib.Data.Rat.Floor
import Mathlib.Tactic.NormNum

/-!
# Percentiles and summaries

`fluidgateway/stats.py` over exact numbers.  A percentile of a list is the
interpolation between the values of its sorted list at the position of the
percentile (`percentile_eq`), whatever branch computes it; what is said of
percentiles is said of that interpolation.
-/

namespace FluidGateway.Stats

open Interpolation Sequencing

/-- `IndexError`: an index outside of a list. -/
inductive Raised where
  | indexError
  deriving DecidableEq, Repr

/-- `xs[i]`; a negative index counts from the end. -/
def item (xs : List ℚ) (i : ℤ) : Except Raised ℚ :=
  let place := if i < 0 then xs.length + i else i
  if place < 0 then .error .indexError
  else
    match xs[place.toNat]? with
    | some x => .ok x
    | none => .error .indexError

/-- `int(x)`, towards zero. -/
def truncate (x : ℚ) : ℤ :=
  if 0 ≤ x then ⌊x⌋ else ⌈x⌉

/-- `average`. -/
def average (values : List ℚ) : Option ℚ :=
  if values = [] then none else some (values.sum / values.length)

/-- `percentile`: between two values it interpolates, on one it takes that value. -/
def percentile (values : List ℚ) (pct : ℚ) : Except Raised (Option ℚ) :=
  if values = [] then .ok none
  else do
    let ordered := sortBy id values
    if ordered.length = 1 then
      return some (← item ordered 0)
    let position := ((ordered.length : ℚ) - 1) * pct
    let lower := ⌊position⌋
    let upper := ⌈position⌉
    if lower = upper then
      return some (← item ordered (truncate position))
    let weight := position - lower
    return some ((← item ordered lower) * (1 - weight) + (← item ordered upper) * weight)

/-- `sqrt` stands for `math.sqrt`. -/
def stdev (sqrt : ℚ → ℚ) (values : List ℚ) : Option ℚ :=
  if values.length < 2 then none
  else
    let avg := values.sum / values.length
    let variance : ℚ := (values.map fun value => (value - avg) ^ 2).sum / values.length
    some (sqrt variance)

/-- `MetricSummary`. -/
structure MetricSummary where
  count : Nat
  average : Option ℚ := none
  p50 : Option ℚ := none
  p95 : Option ℚ := none
  p99 : Option ℚ := none
  maximum : Option ℚ := none
  stdev : Option ℚ := none
  deriving DecidableEq, Repr

/-- `summarize`; the square root is a parameter. -/
def summarize (sqrt : ℚ → ℚ) (values : List ℚ) : Except Raised MetricSummary :=
  if values = [] then .ok { count := 0 }
  else do
    let p50 ← percentile values 0.50
    let p95 ← percentile values 0.95
    let p99 ← percentile values 0.99
    return {
      count := values.length
      average := average values
      p50, p95, p99
      maximum := values.max?
      stdev := stdev sqrt values }

/-! ## The sorted list -/

/-- The value of a rank, 0 for no rank of the list. -/
def rank (values : List ℚ) (i : ℤ) : ℚ :=
  (sortBy id values).getD i.toNat 0

/-- The last rank, as a position. -/
def lastRank (values : List ℚ) : ℤ :=
  values.length - 1

/-- Sorting keeps the number of values. -/
theorem length_sortBy (values : List ℚ) : (sortBy id values).length = values.length :=
  (sortBy_perm id values).length_eq

/-- The items of the sorted list are the ranks. -/
theorem item_sortBy {values : List ℚ} {i : ℤ} (h : i ∈ Set.Icc 0 (lastRank values)) :
    item (sortBy id values) i = .ok (rank values i) := by
  obtain ⟨hlow, hhigh⟩ := h
  have hlt : i.toNat < (sortBy id values).length := by
    rw [length_sortBy]
    unfold lastRank at hhigh
    omega
  unfold item rank
  simp only [if_neg (not_lt.mpr hlow), List.getElem?_eq_getElem hlt, List.getD_eq_getElem?_getD,
    Option.getD_some]

/-- Every rank is one of the values. -/
theorem rank_mem {values : List ℚ} {i : ℤ} (h : i ∈ Set.Icc 0 (lastRank values)) :
    rank values i ∈ values := by
  obtain ⟨hlow, hhigh⟩ := h
  have hlt : i.toNat < (sortBy id values).length := by
    rw [length_sortBy]
    unfold lastRank at hhigh
    omega
  unfold rank
  rw [List.getD_eq_getElem _ _ hlt, ← (sortBy_perm id values).mem_iff]
  exact List.getElem_mem hlt

/-- Ranks increase along the sorted list. -/
theorem rank_monotoneOn (values : List ℚ) :
    MonotoneOn (rank values) (Set.Icc 0 (lastRank values)) := by
  rintro i ⟨hi, _⟩ j ⟨hj, hlast⟩ hij
  have hlt : j.toNat < (sortBy id values).length := by
    rw [length_sortBy]
    unfold lastRank at hlast
    omega
  have hle : i.toNat ≤ j.toNat := Int.toNat_le_toNat hij
  unfold rank
  rw [List.getD_eq_getElem _ _ hlt, List.getD_eq_getElem _ _ (hle.trans_lt hlt)]
  rcases hle.eq_or_lt with heq | hlt'
  · simp only [heq, le_refl]
  · exact List.pairwise_iff_getElem.mp (sortBy_ordered id values) _ _ _ _ hlt'

/-! ## The percentile as an interpolation -/

/-- The position of a percentile lies between the first rank and the last. -/
theorem position_mem {values : List ℚ} (hne : values ≠ []) {p : ℚ} (hlow : 0 ≤ p) (hhigh : p ≤ 1) :
    ((0 : ℤ) : ℚ) ≤ lastRank values * p ∧ lastRank values * p ≤ lastRank values := by
  have hlen : 1 ≤ values.length := List.length_pos_iff.mpr hne
  have hlast : (0 : ℚ) ≤ lastRank values := by
    unfold lastRank
    exact_mod_cast (by omega : (0 : ℤ) ≤ values.length - 1)
  constructor
  · push_cast
    exact mul_nonneg hlast hlow
  · exact mul_le_of_le_one_right hlast hhigh

/-- A whole number is not changed by truncation. -/
theorem truncate_of_whole {x : ℚ} (h : ⌊x⌋ = ⌈x⌉) : truncate x = ⌊x⌋ := by
  unfold truncate
  split
  · rfl
  · exact h.symm

/-- A percentile interpolates between the ranks, at its share of the last one. -/
theorem percentile_eq {values : List ℚ} (hne : values ≠ []) {p : ℚ} (hlow : 0 ≤ p) (hhigh : p ≤ 1) :
    percentile values p = .ok (some (interpolate (rank values) (lastRank values * p))) := by
  obtain ⟨hstart, hend⟩ := position_mem hne hlow hhigh
  obtain ⟨hfloor, hceil⟩ := positions_mem hstart hend
  have hposition : ((sortBy id values).length : ℚ) - 1 = lastRank values := by
    rw [length_sortBy, lastRank]
    push_cast
    rfl
  unfold percentile
  rw [if_neg hne]
  simp only [hposition]
  split
  · -- one value: the only position is its own
    rename_i hone
    have hlast : lastRank values = 0 := by
      rw [lastRank, ← length_sortBy, hone]
      rfl
    have hrank : item (sortBy id values) 0 = .ok (rank values 0) :=
      item_sortBy (by rw [hlast]; exact ⟨le_rfl, le_rfl⟩)
    have hzero : (lastRank values : ℚ) * p = ((0 : ℤ) : ℚ) := by rw [hlast]; simp
    rw [hrank, hzero, interpolate_intCast]
    rfl
  · split
    · rename_i hwhole
      rw [truncate_of_whole hwhole, item_sortBy hfloor, interpolate_of_floor_eq_ceil hwhole]
      rfl
    · rw [item_sortBy hfloor, item_sortBy hceil]
      rfl

/-- A percentile does not depend on the order of the values. -/
theorem percentile_perm {values values' : List ℚ} (h : values'.Perm values) (p : ℚ) :
    percentile values' p = percentile values p := by
  have hsorted : sortBy id values' = sortBy id values :=
    sortBy_eq_of_perm h fun _ _ _ _ heq => heq
  have hempty : values' = [] ↔ values = [] := by
    constructor
    · rintro rfl
      exact h.symm.eq_nil
    · rintro rfl
      exact h.eq_nil
  unfold percentile
  simp only [hsorted, hempty]

/-- The first rank is the smallest value. -/
theorem rank_zero {values : List ℚ} (hne : values ≠ []) : values.min? = some (rank values 0) := by
  have hlen : 1 ≤ values.length := List.length_pos_iff.mpr hne
  have hfirst : (0 : ℤ) ∈ Set.Icc 0 (lastRank values) := by
    unfold lastRank
    exact ⟨le_rfl, by omega⟩
  rw [List.min?_eq_some_iff]
  refine ⟨rank_mem hfirst, fun x hx => ?_⟩
  obtain ⟨i, hi, rfl⟩ := List.getElem_of_mem ((sortBy_perm id values).mem_iff.mpr hx)
  rw [length_sortBy] at hi
  have hmem : (i : ℤ) ∈ Set.Icc 0 (lastRank values) := by
    unfold lastRank
    exact ⟨by omega, by omega⟩
  have hle := rank_monotoneOn values hfirst hmem (by omega)
  simpa [rank, hi, length_sortBy] using hle

/-- The last rank is the largest value. -/
theorem rank_last {values : List ℚ} (hne : values ≠ []) :
    values.max? = some (rank values (lastRank values)) := by
  have hlen : 1 ≤ values.length := List.length_pos_iff.mpr hne
  have hlast : lastRank values ∈ Set.Icc 0 (lastRank values) := by
    unfold lastRank
    exact ⟨by omega, le_rfl⟩
  rw [List.max?_eq_some_iff]
  refine ⟨rank_mem hlast, fun x hx => ?_⟩
  obtain ⟨i, hi, rfl⟩ := List.getElem_of_mem ((sortBy_perm id values).mem_iff.mpr hx)
  rw [length_sortBy] at hi
  have hmem : (i : ℤ) ∈ Set.Icc 0 (lastRank values) := by
    unfold lastRank
    exact ⟨by omega, by omega⟩
  have hle := rank_monotoneOn values hmem hlast hmem.2
  simpa [rank, hi, length_sortBy] using hle

/-- Two percentiles of one list, between its least and its greatest value. -/
theorem percentile_mono {values : List ℚ} (hne : values ≠ []) {p q : ℚ} (hp : 0 ≤ p) (hpq : p ≤ q)
    (hq : q ≤ 1) :
    ∃ low x y high,
      values.min? = some low ∧ percentile values p = .ok (some x) ∧
      percentile values q = .ok (some y) ∧ values.max? = some high ∧
      low ≤ x ∧ x ≤ y ∧ y ≤ high := by
  have hmono := rank_monotoneOn values
  obtain ⟨hstart, hle⟩ := position_mem hne hp (hpq.trans hq)
  obtain ⟨hge, hend⟩ := position_mem hne (hp.trans hpq) hq
  have hlast : (0 : ℚ) ≤ lastRank values := by
    have := hstart.trans hle
    push_cast at this
    exact this
  have hposition : (lastRank values : ℚ) * p ≤ lastRank values * q :=
    mul_le_mul_of_nonneg_left hpq hlast
  obtain ⟨hfloor, _⟩ := positions_mem hstart hle
  obtain ⟨_, hceil⟩ := positions_mem hge hend
  refine ⟨_, _, _, _, rank_zero hne, percentile_eq hne hp (hpq.trans hq),
    percentile_eq hne (hp.trans hpq) hq, rank_last hne, ?_,
    interpolate_mono hmono hstart hposition hend, ?_⟩
  · calc rank values 0 ≤ rank values ⌊(lastRank values : ℚ) * p⌋ :=
          hmono ⟨le_rfl, hfloor.1.trans hfloor.2⟩ hfloor hfloor.1
      _ ≤ _ := le_interpolate hmono hstart hle
  · calc interpolate (rank values) (lastRank values * q)
        ≤ rank values ⌈(lastRank values : ℚ) * q⌉ := interpolate_le hmono hge hend
      _ ≤ rank values (lastRank values) := hmono hceil ⟨hceil.1.trans hceil.2, le_rfl⟩ hceil.2

/-- The percentile of 0 is the smallest value. -/
theorem percentile_zero {values : List ℚ} (hne : values ≠ []) :
    percentile values 0 = .ok values.min? := by
  have hposition : (lastRank values : ℚ) * 0 = ((0 : ℤ) : ℚ) := by simp
  rw [percentile_eq hne le_rfl zero_le_one, hposition, interpolate_intCast, rank_zero hne]

/-- The percentile of 1 is the largest value. -/
theorem percentile_one {values : List ℚ} (hne : values ≠ []) :
    percentile values 1 = .ok values.max? := by
  rw [percentile_eq hne zero_le_one le_rfl, mul_one, interpolate_intCast, rank_last hne]

/-- What a summary says of the order of its values. -/
structure MetricSummary.Ordered (summary : MetricSummary) (p50 p95 p99 maximum : ℚ) : Prop where
  p50_eq : summary.p50 = some p50
  p95_eq : summary.p95 = some p95
  p99_eq : summary.p99 = some p99
  maximum_eq : summary.maximum = some maximum
  p50_le : p50 ≤ p95
  p95_le : p95 ≤ p99
  p99_le : p99 ≤ maximum

/-- The percentiles of a summary are in order, up to the maximum. -/
theorem summarize_ordered (sqrt : ℚ → ℚ) {values : List ℚ} (hne : values ≠ []) :
    ∃ summary p50 p95 p99 maximum,
      summarize sqrt values = .ok summary ∧ summary.Ordered p50 p95 p99 maximum := by
  obtain ⟨_, a, b, _, _, ha, hb, _, _, hab, _⟩ :=
    percentile_mono hne (p := 0.50) (q := 0.95) (by norm_num) (by norm_num) (by norm_num)
  obtain ⟨_, b', c, high, _, hb', hc, hhigh, _, hbc, hch⟩ :=
    percentile_mono hne (p := 0.95) (q := 0.99) (by norm_num) (by norm_num) (by norm_num)
  obtain rfl : b' = b := by simpa [hb] using hb'.symm
  have hsummary : summarize sqrt values = .ok {
      count := values.length
      average := average values
      p50 := some a, p95 := some b', p99 := some c
      maximum := values.max?
      stdev := stdev sqrt values } := by
    unfold summarize
    rw [if_neg hne, ha, hb, hc]
    rfl
  exact ⟨_, a, b', c, high, hsummary, ⟨rfl, rfl, rfl, hhigh, hab, hbc, hch⟩⟩

/-- **Percentiles are ordered.**  They increase with the rank, from the least value of the
list to its greatest, and do not depend on the order of the list; so does a summary. -/
theorem percentiles_ordered {values : List ℚ} (hne : values ≠ []) :
    (∀ p q : ℚ, 0 ≤ p → p ≤ q → q ≤ 1 →
      ∃ low x y high,
        values.min? = some low ∧ percentile values p = .ok (some x) ∧
        percentile values q = .ok (some y) ∧ values.max? = some high ∧
        low ≤ x ∧ x ≤ y ∧ y ≤ high) ∧
    percentile values 0 = .ok values.min? ∧
    percentile values 1 = .ok values.max? ∧
    (∀ (values' : List ℚ) (p : ℚ), values'.Perm values →
      percentile values' p = percentile values p) ∧
    ∀ sqrt : ℚ → ℚ, ∃ summary p50 p95 p99 maximum,
      summarize sqrt values = .ok summary ∧ summary.Ordered p50 p95 p99 maximum :=
  ⟨fun _ _ hp hpq hq => percentile_mono hne hp hpq hq, percentile_zero hne, percentile_one hne,
    fun _ p hperm => percentile_perm hperm p, fun sqrt => summarize_ordered sqrt hne⟩

/-- The quartiles of three values that are not in order. -/
theorem percentiles_ordered_example :
    ∃ low x y high : ℚ,
      [3, 1, 2].min? = some low ∧ percentile [3, 1, 2] (1 / 4) = .ok (some x) ∧
      percentile [3, 1, 2] (3 / 4) = .ok (some y) ∧ [3, 1, 2].max? = some high ∧
      low ≤ x ∧ x ≤ y ∧ y ≤ high :=
  (percentiles_ordered (show ([3, 1, 2] : List ℚ) ≠ [] by decide)).1 (1 / 4) (3 / 4)
    (by norm_num) (by norm_num) (by norm_num)

end FluidGateway.Stats
