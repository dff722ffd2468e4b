import FluidGateway.AdaptiveLoop
import FluidGateway.ControlLoop
import FluidGateway.StateAccumulator
import Mathlib.Algebra.Order.Group.MinMax
import Mathlib.Tactic.Linarith
import Mathlib.Tactic.NormNum

/-!
# Transitions between runtime states

`fluidgateway/state_transition.py`: how the state of a cycle compares with the
state of the cycle before, by an index of pressure.

A state that was written and read between two cycles may have another index
than the original (`rounding_shift`): its memory relief is rounded, and a copy
budget that is rounded to zero counts as no budget.  The states of a run do not
depend on it; a transition does when the shift carries its pressure delta over
one of the four thresholds (`restart_iff`).
-/

namespace FluidGateway.ControlLoop

open FluidGateway.Runtime Adapter

/-- Where the pressure goes. -/
inductive Trend where
  | baseline | improving | worsening | stable
  deriving DecidableEq, Repr

/-- What a transition asks for. -/
inductive TransitionAction where
  | establishRuntimeBaseline | relaxAfterPressureRelief | holdRecoveryGuardband
  | tightenAfterPressureRegression | preserveRuntimeState | monitorRuntimeState
  deriving DecidableEq, Repr

/-- The confidence of a transition. -/
inductive TransitionConfidence where
  | low | medium | high
  deriving DecidableEq, Repr

/-- The transition from one state to the next. -/
structure RuntimeStateTransition where
  hasPreviousState : Bool
  previousCycleCount : Option ℤ
  currentCycleCount : ℤ
  cycleDelta : ℤ
  previousPressureIndex : ℚ
  currentPressureIndex : ℚ
  pressureDelta : ℚ
  profileTransition : String
  policyTransition : String
  convergenceTransition : String
  driftTransition : String
  activePolicyDelta : ℚ
  frameBudgetDeltaMs : ℚ
  hotPathBudgetDeltaMs : ℚ
  copyQueueBudgetDeltaMs : ℚ
  preFrameWindowDeltaMs : ℚ
  memoryReliefDeltaMb : ℚ
  memoryHeadroomDeltaMb : ℚ
  trend : Trend
  transitionAction : TransitionAction
  confidence : TransitionConfidence
  reason : String
  previousStateDigest : Option String
  currentStateDigest : String
  deriving DecidableEq, Repr

/-- `part in text`. -/
def textContains (text part : String) : Bool :=
  decide (part.toList <:+: text.toList)

/-- What the texts and counters of a state add to its index. -/
def namedPressure (state : RuntimeStateAccumulator) : ℚ :=
  (if state.profile = "aggressive" then 3 / 2 else 0) +
    (if textContains state.policyAction "pressure" || textContains state.policyAction "tighten"
      then 2
      else if textContains state.policyAction "preserve" then 1 / 2 else 0) +
    (if state.convergenceStatus = "diverging" then 3
      else if state.convergenceStatus ∉ ["stable", "unknown"] then 2 else 0) +
    (if state.driftRisk = "high" then 3 else if state.driftRisk = "medium" then 3 / 2 else 0) +
    min (state.activePolicyCount : ℚ) 4 * (3 / 4)

/-- `pressure_index`: what the named fields weigh, the relief up to a limit, and half a
point for a blocked copy queue. -/
def pressureIndex (state : RuntimeStateAccumulator) : ℚ :=
  namedPressure state + min (max state.memoryReliefTargetMb 0 / 20) 3 +
    if state.copyQueueBudgetMs = 0 ∧ 0 < state.activePolicyCount then 1 / 2 else 0

/-- `transition_trend`: two points either way make a trend. -/
def transitionTrend (previous : Option RuntimeStateAccumulator) (pressureDelta : ℚ) : Trend :=
  match previous with
  | none => .baseline
  | some _ =>
    if pressureDelta ≤ -2 then .improving
    else if 2 ≤ pressureDelta then .worsening
    else .stable

/-- `transition_action`, by the trend and then by the profile or the risk. -/
def transitionAction (current : RuntimeStateAccumulator) (trend : Trend) : TransitionAction :=
  match trend with
  | .baseline => .establishRuntimeBaseline
  | .improving =>
    if current.profile = "stable" then .relaxAfterPressureRelief else .holdRecoveryGuardband
  | .worsening => .tightenAfterPressureRegression
  | .stable => if current.driftRisk = "low" then .preserveRuntimeState else .monitorRuntimeState

/-- `transition_confidence`: high from four points on, low without a state before. -/
def transitionConfidence (previous : Option RuntimeStateAccumulator) (pressureDelta : ℚ) :
    TransitionConfidence :=
  match previous with
  | none => .low
  | some _ => if 4 ≤ |pressureDelta| then .high else .medium

/-- `transition_reason`: the text that goes with the trend. -/
def transitionReason (previous : Option RuntimeStateAccumulator) (trend : Trend) : String :=
  match previous, trend with
  | none, _ => "No prior runtime state was provided, so this cycle becomes the baseline."
  | some _, .improving => "The current cycle has a lower pressure index than the previous state."
  | some _, .worsening => "The current cycle has a higher pressure index than the previous state."
  | some _, _ => "The current cycle pressure index is close to the previous state."

/-- `state_transition_value`: the two values of a field, or `none` for the first. -/
def stateTransitionValue (previous : Option RuntimeStateAccumulator)
    (current : RuntimeStateAccumulator) (field : RuntimeStateAccumulator → String) : String :=
  (previous.map field).getD "none" ++ "->" ++ field current

/-- `numeric_delta`: how far a number has moved, 0 without a state before. -/
def numericDelta (previous : Option RuntimeStateAccumulator) (current : RuntimeStateAccumulator)
    (field : RuntimeStateAccumulator → ℚ) : ℚ :=
  match previous with
  | none => 0
  | some previous => field current - field previous

/-- `pressure_delta` of `build_runtime_state_transition`. -/
def pressureDelta (previous : Option RuntimeStateAccumulator) (current : RuntimeStateAccumulator) :
    ℚ :=
  numericDelta previous current pressureIndex

/-- `build_runtime_state_transition`: everything about the step from the one state to the
other. -/
def buildRuntimeStateTransition (previous : Option RuntimeStateAccumulator)
    (current : RuntimeStateAccumulator) : RuntimeStateTransition :=
  let delta := pressureDelta previous current
  let trend := transitionTrend previous delta
  { hasPreviousState := previous.isSome
    previousCycleCount := previous.map RuntimeStateAccumulator.cycleCount
    currentCycleCount := current.cycleCount
    cycleDelta := (previous.map fun previous => current.cycleCount - previous.cycleCount).getD 0
    previousPressureIndex := (previous.map pressureIndex).getD 0
    currentPressureIndex := pressureIndex current
    pressureDelta := delta
    profileTransition := stateTransitionValue previous current RuntimeStateAccumulator.profile
    policyTransition := stateTransitionValue previous current RuntimeStateAccumulator.policyAction
    convergenceTransition :=
      stateTransitionValue previous current RuntimeStateAccumulator.convergenceStatus
    driftTransition := stateTransitionValue previous current RuntimeStateAccumulator.driftRisk
    activePolicyDelta := numericDelta previous current fun state => state.activePolicyCount
    frameBudgetDeltaMs :=
      numericDelta previous current RuntimeStateAccumulator.nextFrameBudgetMs
    hotPathBudgetDeltaMs := numericDelta previous current RuntimeStateAccumulator.hotPathBudgetMs
    copyQueueBudgetDeltaMs :=
      numericDelta previous current RuntimeStateAccumulator.copyQueueBudgetMs
    preFrameWindowDeltaMs :=
      numericDelta previous current RuntimeStateAccumulator.preFrameWindowMs
    memoryReliefDeltaMb :=
      numericDelta previous current RuntimeStateAccumulator.memoryReliefTargetMb
    memoryHeadroomDeltaMb :=
      numericDelta previous current RuntimeStateAccumulator.memoryHeadroomTargetMb
    trend
    transitionAction := transitionAction current trend
    confidence := transitionConfidence previous delta
    reason := transitionReason previous trend
    previousStateDigest := previous.map RuntimeStateAccumulator.stateDigest
    currentStateDigest := current.stateDigest }

/-! ## Runs -/

/-- The states and transitions of a chain of policy updates.  `carry` brings a
state from one cycle to the next. -/
def runCycles (carry : RuntimeStateAccumulator → Except Raised RuntimeStateAccumulator) :
    Option RuntimeStateAccumulator → List RuntimePolicyUpdate →
      Except Raised (List (RuntimeStateAccumulator × RuntimeStateTransition))
  | _, [] => .ok []
  | previous, update :: updates => do
    let previous ← previous.mapM carry
    let state := buildRuntimeStateAccumulator update previous
    let rest ← runCycles carry (some state) updates
    return (state, buildRuntimeStateTransition previous state) :: rest

/-- Written with `to_dict` and read again. -/
def reload (builtins : Builtins) (state : RuntimeStateAccumulator) :
    Except Raised RuntimeStateAccumulator :=
  runtimeStateAccumulatorFromDict builtins (.dict state.toDict)

/-- The same states, with transitions from what is shown of the state before. -/
def cycles (shown : Option RuntimeStateAccumulator → Option RuntimeStateAccumulator) :
    Option RuntimeStateAccumulator → List RuntimePolicyUpdate →
      List (RuntimeStateAccumulator × RuntimeStateTransition)
  | _, [] => []
  | previous, update :: updates =>
    let state := buildRuntimeStateAccumulator update previous
    (state, buildRuntimeStateTransition (shown previous) state) ::
      cycles shown (some state) updates

/-- A run that keeps its states in memory, as a list of cycles. -/
theorem runCycles_kept (previous : Option RuntimeStateAccumulator)
    (updates : List RuntimePolicyUpdate) :
    runCycles .ok previous updates = .ok (cycles id previous updates) := by
  induction updates generalizing previous with
  | nil => rfl
  | cons update updates ih =>
    have hcarry : previous.mapM (Except.ok : _ → Except Raised _) = .ok previous := by
      cases previous <;> rfl
    rw [runCycles, hcarry]
    change (runCycles Except.ok _ updates).bind _ = _
    rw [ih]
    rfl

/-- **A restart before every cycle.**  The states are those of the run without
restarts; only what the transitions see of them is rounded. -/
theorem runCycles_reload (builtins : Builtins) (previous : Option RuntimeStateAccumulator)
    (hmode : ∀ state ∈ previous, state.mode ∈ supportedStateAccumulatorModes)
    (updates : List RuntimePolicyUpdate) :
    runCycles (reload builtins) previous updates =
      .ok (cycles (Option.map RuntimeStateAccumulator.rounded) previous updates) := by
  induction updates generalizing previous with
  | nil => rfl
  | cons update updates ih =>
    have hcarry : previous.mapM (reload builtins) =
        .ok (previous.map RuntimeStateAccumulator.rounded) := by
      cases previous with
      | none => rfl
      | some state =>
        have hread : reload builtins state = .ok state.rounded :=
          fromDict_toDict builtins (hmode state rfl)
        change (reload builtins state).map some = _
        rw [hread]
        rfl
    rw [runCycles, hcarry]
    change (runCycles (reload builtins) (some (buildRuntimeStateAccumulator update _)) updates).bind
      _ = _
    rw [build_rounded, ih _ fun state hstate => Option.some.inj hstate ▸ build_mode update previous]
    rfl

/-- A run from no state at all that is restarted before every cycle. -/
theorem runCycles_restarted (builtins : Builtins) (updates : List RuntimePolicyUpdate) :
    runCycles (reload builtins) none updates =
      .ok (cycles (Option.map RuntimeStateAccumulator.rounded) none updates) := by
  refine runCycles_reload builtins none ?_ updates
  intro state hstate
  cases hstate

/-! ## The shift of the index -/

/-- What rounding does to the pressure index of the state before a cycle. -/
def roundingShift (previous : Option RuntimeStateAccumulator) : ℚ :=
  (previous.map fun state => pressureIndex state.rounded - pressureIndex state).getD 0

/-- A copy budget that is there, but not after rounding, while policies are
active. -/
def CopyBudgetLost (state : RuntimeStateAccumulator) : Prop :=
  state.copyQueueBudgetMs ≠ 0 ∧ |state.copyQueueBudgetMs| ≤ 1 / 20000 ∧ 0 < state.activePolicyCount

instance (state : RuntimeStateAccumulator) : Decidable (CopyBudgetLost state) :=
  inferInstanceAs (Decidable (_ ∧ _))

/-- Rounding to four decimals moves a number by half of the last one at most. -/
theorem abs_round4_sub_le (q : ℚ) : |round4 q - q| ≤ 1 / 20000 := by
  have hunits := Rounding.abs_halfEven_sub_le (q * 10000)
  rw [← roundHalfEven_eq, abs_le] at hunits
  unfold round4
  rw [abs_le]
  constructor <;> linarith [hunits.1, hunits.2]

/-- A number is rounded away exactly where it is no larger than half of the fourth decimal. -/
theorem round4_eq_zero_iff (q : ℚ) : round4 q = 0 ↔ |q| ≤ 1 / 20000 := by
  have hzero := Rounding.halfEven_eq_iff (m := 0) (x := q * 10000) Even.zero
  rw [← roundHalfEven_eq, Int.cast_zero, zero_sub, abs_neg, abs_mul] at hzero
  have hunits : round4 q = 0 ↔ roundHalfEven (q * 10000) = 0 := by
    unfold round4
    rw [div_eq_zero_iff, Int.cast_eq_zero]
    norm_num
  rw [hunits, hzero, abs_of_pos (by norm_num : (0 : ℚ) < 10000)]
  constructor <;> intro h <;> linarith

/-- Clamping brings no two numbers further apart. -/
theorem abs_clamp_sub_le (x y : ℚ) :
    |min (max x 0 / 20) 3 - min (max y 0 / 20) 3| ≤ |x - y| / 20 := by
  have hmin := abs_min_sub_min_le_max (max x 0 / 20) 3 (max y 0 / 20) 3
  have hmax := abs_max_sub_max_le_max x 0 y 0
  rw [sub_self, abs_zero, max_eq_left (abs_nonneg (max x 0 / 20 - max y 0 / 20))] at hmin
  rw [sub_self, abs_zero, max_eq_left (abs_nonneg (x - y))] at hmax
  have hdiv : |max x 0 / 20 - max y 0 / 20| = |max x 0 - max y 0| / 20 := by
    rw [← sub_div, abs_div, abs_of_pos (by norm_num : (0 : ℚ) < 20)]
  rw [hdiv] at hmin
  linarith

/-- A budget counts as none after rounding if it did before, or if it is lost. -/
theorem copy_bonus (budget : ℚ) (active : ℤ) :
    (if round4 budget = 0 ∧ 0 < active then (1 / 2 : ℚ) else 0) =
      (if budget = 0 ∧ 0 < active then 1 / 2 else 0) +
        if budget ≠ 0 ∧ |budget| ≤ 1 / 20000 ∧ 0 < active then 1 / 2 else 0 := by
  simp only [round4_eq_zero_iff]
  by_cases hzero : budget = 0
  · simp [hzero]
  · simp [hzero]

/-- **The shift**: next to nothing from the memory relief, and a half when the
copy budget is lost. -/
theorem rounding_shift (state : RuntimeStateAccumulator) :
    |roundingShift (some state) - if CopyBudgetLost state then 1 / 2 else 0| ≤ 1 / 400000 := by
  have hrelief := (abs_clamp_sub_le (round4 state.memoryReliefTargetMb)
    state.memoryReliefTargetMb).trans
    (div_le_div_of_nonneg_right (abs_round4_sub_le state.memoryReliefTargetMb) (by norm_num))
  have hbonus := copy_bonus state.copyQueueBudgetMs state.activePolicyCount
  have hrounded : pressureIndex state.rounded =
      namedPressure state + min (max (round4 state.memoryReliefTargetMb) 0 / 20) 3 +
        if round4 state.copyQueueBudgetMs = 0 ∧ 0 < state.activePolicyCount then 1 / 2 else 0 := rfl
  have hindex : pressureIndex state =
      namedPressure state + min (max state.memoryReliefTargetMb 0 / 20) 3 +
        if state.copyQueueBudgetMs = 0 ∧ 0 < state.activePolicyCount then 1 / 2 else 0 := rfl
  have hshift : roundingShift (some state) =
      (min (max (round4 state.memoryReliefTargetMb) 0 / 20) 3 -
        min (max state.memoryReliefTargetMb 0 / 20) 3) +
          if CopyBudgetLost state then 1 / 2 else 0 := by
    change pressureIndex state.rounded - pressureIndex state = _
    have hlost : (if CopyBudgetLost state then (1 / 2 : ℚ) else 0) =
        if state.copyQueueBudgetMs ≠ 0 ∧ |state.copyQueueBudgetMs| ≤ 1 / 20000 ∧
          0 < state.activePolicyCount then 1 / 2 else 0 := if_congr Iff.rfl rfl rfl
    rw [hrounded, hindex, hbonus, hlost]
    ring
  rw [hshift, add_sub_cancel_right]
  linarith

/-! ## Thresholds -/

/-- No threshold of the trend or of the confidence lies between the two. -/
def SameSide (delta delta' : ℚ) : Prop :=
  (delta ≤ -4 ↔ delta' ≤ -4) ∧ (delta ≤ -2 ↔ delta' ≤ -2) ∧
    (2 ≤ delta ↔ 2 ≤ delta') ∧ (4 ≤ delta ↔ 4 ≤ delta')

/-- Two differences have the same trend exactly where they are on the same side of both
thresholds. -/
theorem trend_eq_iff {p p' : RuntimeStateAccumulator} {delta delta' : ℚ} :
    transitionTrend (some p') delta' = transitionTrend (some p) delta ↔
      (delta ≤ -2 ↔ delta' ≤ -2) ∧ (2 ≤ delta ↔ 2 ≤ delta') := by
  unfold transitionTrend
  dsimp only
  by_cases hlow : delta ≤ -2 <;> by_cases hlow' : delta' ≤ -2 <;>
    by_cases hhigh : 2 ≤ delta <;> by_cases hhigh' : 2 ≤ delta' <;>
    simp [hlow, hlow', hhigh, hhigh'] <;> linarith

/-- Two differences have the same confidence exactly where both or neither reach the
threshold. -/
theorem confidence_eq_iff {p p' : RuntimeStateAccumulator} {delta delta' : ℚ} :
    transitionConfidence (some p') delta' = transitionConfidence (some p) delta ↔
      (4 ≤ |delta| ↔ 4 ≤ |delta'|) := by
  unfold transitionConfidence
  dsimp only
  by_cases h : 4 ≤ |delta| <;> by_cases h' : 4 ≤ |delta'| <;> simp [h, h']

/-- Trend and confidence together tell on which side of every threshold the
delta is. -/
theorem sameSide_iff {p p' : RuntimeStateAccumulator} {delta delta' : ℚ} :
    SameSide delta delta' ↔
      transitionTrend (some p') delta' = transitionTrend (some p) delta ∧
        transitionConfidence (some p') delta' = transitionConfidence (some p) delta := by
  have hneg : ∀ x : ℚ, 4 ≤ -x ↔ x ≤ -4 := fun x => le_neg
  rw [trend_eq_iff, confidence_eq_iff, le_abs, le_abs, hneg, hneg]
  unfold SameSide
  constructor
  · rintro ⟨hlow, hdown, hup, hhigh⟩
    exact ⟨⟨hdown, hup⟩, or_congr hhigh hlow⟩
  · rintro ⟨⟨hdown, hup⟩, hfar⟩
    refine ⟨⟨fun h => ?_, fun h => ?_⟩, hdown, hup, ⟨fun h => ?_, fun h => ?_⟩⟩
    · have hbelow := hdown.mp (by linarith)
      exact (hfar.mp (.inr h)).resolve_left (by linarith)
    · have hbelow := hdown.mpr (by linarith)
      exact (hfar.mpr (.inr h)).resolve_left (by linarith)
    · have habove := hup.mp (by linarith)
      exact (hfar.mp (.inl h)).resolve_right (by linarith)
    · have habove := hup.mpr (by linarith)
      exact (hfar.mpr (.inl h)).resolve_right (by linarith)

/-! ## Restarts -/

/-- The states before the cycles of a run. -/
def before (run : List (RuntimeStateAccumulator × RuntimeStateTransition)) (i : ℕ) :
    Option RuntimeStateAccumulator :=
  ((run.map Prod.fst).take i).getLast?

section Cycles

variable (shown : Option RuntimeStateAccumulator → Option RuntimeStateAccumulator)

/-- There is one cycle for each update. -/
theorem length_cycles (previous : Option RuntimeStateAccumulator)
    (updates : List RuntimePolicyUpdate) : (cycles shown previous updates).length = updates.length := by
  induction updates generalizing previous with
  | nil => rfl
  | cons update updates ih => exact congrArg (· + 1) (ih _)

/-- The states of the cycles do not depend on what their transitions see. -/
theorem states_cycles (previous : Option RuntimeStateAccumulator)
    (updates : List RuntimePolicyUpdate) :
    (cycles shown previous updates).map Prod.fst = (cycles id previous updates).map Prod.fst := by
  induction updates generalizing previous with
  | nil => rfl
  | cons update updates ih => exact congrArg (_ :: ·) (ih _)

/-- The transition of a cycle goes from what is shown of the state before. -/
theorem transition_cycles (previous : Option RuntimeStateAccumulator)
    (updates : List RuntimePolicyUpdate) {i : ℕ} {state : RuntimeStateAccumulator}
    {transition : RuntimeStateTransition}
    (h : (cycles shown previous updates)[i]? = some (state, transition)) :
    transition = buildRuntimeStateTransition
      (shown ((before (cycles shown previous updates) i).or previous)) state := by
  induction updates generalizing previous i with
  | nil => cases h
  | cons update updates ih =>
    cases i with
    | zero =>
      obtain ⟨rfl, rfl⟩ := Prod.mk.inj (Option.some.inj h)
      rfl
    | succ i =>
      rw [ih _ h]
      congr 2
      unfold before
      rw [cycles, List.map_cons, List.take_succ_cons, List.getLast?_cons]
      cases ((cycles shown _ updates).map Prod.fst |>.take i).getLast? <;> rfl

end Cycles

/-- The same state, seen exactly and seen rounded. -/
theorem transition_rounded (previous : Option RuntimeStateAccumulator)
    (state : RuntimeStateAccumulator) :
    let kept := buildRuntimeStateTransition previous state
    let restarted :=
      buildRuntimeStateTransition (previous.map RuntimeStateAccumulator.rounded) state
    restarted.previousCycleCount = kept.previousCycleCount ∧
      restarted.cycleDelta = kept.cycleDelta ∧
      restarted.previousStateDigest = kept.previousStateDigest ∧
      restarted.pressureDelta = kept.pressureDelta - roundingShift previous ∧
      ((restarted.trend = kept.trend ∧ restarted.transitionAction = kept.transitionAction ∧
          restarted.confidence = kept.confidence) ↔
        SameSide kept.pressureDelta (kept.pressureDelta - roundingShift previous)) := by
  intro kept restarted
  cases previous with
  | none =>
    have hdelta : kept.pressureDelta - roundingShift none = kept.pressureDelta := sub_zero _
    rw [hdelta]
    exact ⟨rfl, rfl, rfl, rfl, iff_of_true ⟨rfl, rfl, rfl⟩ ⟨Iff.rfl, Iff.rfl, Iff.rfl, Iff.rfl⟩⟩
  | some previous =>
    have hdelta : restarted.pressureDelta = kept.pressureDelta - roundingShift (some previous) := by
      change pressureIndex state - pressureIndex previous.rounded =
        pressureIndex state - pressureIndex previous -
          (pressureIndex previous.rounded - pressureIndex previous)
      ring
    -- rounding keeps the counter and the digest
    have hcount : restarted.previousCycleCount = some previous.cycleCount := rfl
    have hcycles : restarted.cycleDelta = state.cycleCount - previous.cycleCount := rfl
    have hdigest : restarted.previousStateDigest = some previous.stateDigest := rfl
    refine ⟨hcount, hcycles, hdigest, hdelta, ?_⟩
    rw [← hdelta, @sameSide_iff previous previous.rounded]
    constructor
    · rintro ⟨htrend, -, hconfidence⟩
      exact ⟨htrend, hconfidence⟩
    · rintro ⟨htrend, hconfidence⟩
      exact ⟨htrend, congrArg (transitionAction state) htrend, hconfidence⟩

/-- **Restarting between cycles** changes no state, and it changes a transition
exactly when the shift of the index carries its delta over a threshold. -/
theorem restart_iff (builtins : Builtins) (updates : List RuntimePolicyUpdate) :
    ∃ kept restarted, runCycles .ok none updates = .ok kept ∧
      runCycles (reload builtins) none updates = .ok restarted ∧
      kept.length = updates.length ∧ restarted.map Prod.fst = kept.map Prod.fst ∧
      (∀ i state transition transition', kept[i]? = some (state, transition) →
        restarted[i]? = some (state, transition') →
        transition'.previousCycleCount = transition.previousCycleCount ∧
          transition'.cycleDelta = transition.cycleDelta ∧
          transition'.previousStateDigest = transition.previousStateDigest ∧
          transition'.pressureDelta =
            transition.pressureDelta - roundingShift (before kept i) ∧
          ((transition'.trend = transition.trend ∧
              transition'.transitionAction = transition.transitionAction ∧
              transition'.confidence = transition.confidence) ↔
            SameSide transition.pressureDelta
              (transition.pressureDelta - roundingShift (before kept i)))) ∧
      roundingShift none = 0 ∧
      ∀ state, |roundingShift (some state) - if CopyBudgetLost state then 1 / 2 else 0| ≤
        1 / 400000 := by
  refine ⟨cycles id none updates, cycles (Option.map RuntimeStateAccumulator.rounded) none updates,
    runCycles_kept none updates, runCycles_restarted builtins updates,
    length_cycles _ _ _, states_cycles _ _ _, ?_, rfl, rounding_shift⟩
  intro i state transition transition' hkept hrestarted
  have hbefore : before (cycles (Option.map RuntimeStateAccumulator.rounded) none updates) i =
      before (cycles id none updates) i := by
    unfold before
    rw [states_cycles]
  have htransition := transition_cycles id none updates hkept
  have htransition' := transition_cycles _ none updates hrestarted
  rw [hbefore] at htransition'
  rw [Option.or_none] at htransition htransition'
  rw [htransition, htransition']
  exact transition_rounded (before (cycles id none updates) i) state

/-! ## A budget that is rounded away -/

/-- Without snapshots and budgets, there are no memory layers. -/
theorem buildMemoryLayers_none : buildMemoryLayers none .empty = [] := by
  unfold buildMemoryLayers
  dsimp only
  rw [List.map_eq_nil_iff, List.filter_eq_nil_iff]
  intro memory _
  rw [decide_eq_true_iff, not_or]
  exact ⟨fun h => absurd h (lt_irrefl 0), fun h => by cases h⟩

/-- The update after a cycle that executes one operation in frame 1, out of the costs
that were planned and observed. -/
def cycleUpdate (targetMs plannedMs observedMs : ℚ) : RuntimePolicyUpdate :=
  let packet := [hotPathWork (some 1) plannedMs]
  let envelope := (packetEnvelope packet (OrderedDict.empty.set 1 targetMs) none
    .empty).toRuntimeBudgetEnvelope
  let frame : FrameStatistics :=
    { frame := some 1, targetFrameMs := some targetMs, estimatedTotalCostMs := some observedMs }
  buildRuntimePolicyUpdate (runFeedback (runDispatch packet envelope) [frame] envelope)

/-- A copy budget of 0.00003 ms is rounded away, and the delta of -1.5 becomes -2. -/
theorem budget_rounded_away :
    ∃ updates kept restarted,
      updates = [cycleUpdate (1 / 5000) (1 / 10000) (3 / 20000), cycleUpdate (1667 / 100) 5 6] ∧
      runCycles .ok none updates = .ok kept ∧
      (∀ builtins, runCycles (reload builtins) none updates = .ok restarted) ∧
      (kept.map fun cycle => cycle.2.trend) = [.baseline, .stable] ∧
      (restarted.map fun cycle => cycle.2.trend) = [.baseline, .improving] := by
  refine ⟨_, _, _, rfl, runCycles_kept none _, fun builtins => runCycles_restarted builtins _,
    ?_, ?_⟩
  all_goals
    unfold cycleUpdate packetEnvelope buildRuntimeBudgetEnvelope
    rw [buildMemoryLayers_none]
    decide +kernel

end FluidGateway.ControlLoop
