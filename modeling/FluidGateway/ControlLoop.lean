import FluidGateway.ArbitrationRuns
import FluidGateway.GatewayFeedback
import Mathlib.Algebra.Order.BigOperators.Group.List

/-!
# The control loop

The stages put together.  What a layer holds above its budget, rounded to four
decimals, is what both chains count as its relief: arbitration, dispatch and
execution on one side, manager, packet, state, tick and cycle on the other
(`relief_agrees`).  A frame's target makes the second journey as well, and comes
back rounded, to be compared with a cost that has not been.
-/

namespace FluidGateway.ControlLoop

open FluidGateway.Runtime (round4)

/-! ## The stages together -/

def runDispatch (packet : List ExecutionCommand) (envelope : RuntimeBudgetEnvelope) :
    DispatchExecutionReport :=
  executeDispatchPlan
    (buildRuntimeDispatchPlan (buildBudgetArbitration packet envelope) packet)

def runControl (calibration : RuntimeCalibrationReport) (envelope : RuntimeBudgetEnvelope) :
    RuntimeGatewayCycleReport :=
  executeRuntimeGatewayTick
    (buildRuntimeGatewayTick
      (applyRuntimeControlPacket
        (buildRuntimeControlPacket (buildRuntimeManagerDirective calibration envelope))))

def runFeedback (report : DispatchExecutionReport) (frames : List FrameStatistics)
    (envelope : RuntimeBudgetEnvelope) : RuntimeGatewayFeedbackDelta :=
  let calibration := buildRuntimeCalibration report frames
  buildRuntimeGatewayFeedback (runControl calibration envelope) calibration

/-! ## Memory relief -/

/-- The layer is as `build_memory_layer` makes it. -/
def MemoryBudgetEnvelope.Built (layer : MemoryBudgetEnvelope) : Prop :=
  layer = buildMemoryLayer layer.memory layer.activeMb layer.budgetMb

instance (layer : MemoryBudgetEnvelope) : Decidable layer.Built := by
  unfold MemoryBudgetEnvelope.Built
  infer_instance

theorem excess_nonneg (layer : MemoryBudgetEnvelope) : 0 ≤ layer.excess := by
  unfold MemoryBudgetEnvelope.excess
  cases layer.budgetMb with
  | none => exact le_refl 0
  | some budget => exact le_max_left 0 _

/-- A layer's status tells its excess: over budget by what it has above, and nothing
above in any other status. -/
theorem built_cases {layer : MemoryBudgetEnvelope} (h : layer.Built) :
    layer.status = .overBudget ∧ layer.pressureMb = layer.excess ∧ 0 < layer.excess ∨
      layer.status ≠ .overBudget ∧ layer.pressureMb = 0 ∧ layer.excess = 0 := by
  rw [h]
  cases hbudget : layer.budgetMb with
  | none => exact Or.inr ⟨nofun, rfl, rfl⟩
  | some budget =>
      by_cases hover : max 0 (layer.activeMb - budget) > 0
      · refine Or.inl ⟨?_, rfl, hover⟩
        simp only [buildMemoryLayer, if_pos hover]
      · have hzero : max 0 (layer.activeMb - budget) = 0 :=
          le_antisymm (not_lt.mp hover) (le_max_left 0 _)
        refine Or.inr ⟨?_, hzero, hzero⟩
        simp only [buildMemoryLayer, if_neg hover]
        split_ifs
        · exact nofun
        · exact nofun

/-- The relief that the dispatch path counts for a layer. -/
theorem relief_arbitrated {layer : MemoryBudgetEnvelope} (h : layer.Built) :
    ((arbitrateMemoryLayer layer).toList.map fun action => round4 action.pressureMb).sum =
      round4 layer.excess := by
  unfold arbitrateMemoryLayer
  obtain ⟨hstatus, hpressure, -⟩ | ⟨hstatus, hpressure, hexcess⟩ := built_cases h
  · simp [hstatus, hpressure]
  · cases hother : layer.status with
    | overBudget => exact absurd hother hstatus
    | nearBudget => simp [hpressure, hexcess]
    | unbounded => simp [hexcess]
    | withinBudget => simp [hexcess]

/-- The relief that the control path applies for a layer. -/
theorem relief_applied {layer : MemoryBudgetEnvelope} (h : layer.Built)
    (dispatchAction : DispatchAction) :
    memoryReliefMb (stepPayload 0 (memoryStep (memoryStateFromCommand
        (commandPayload 0 (memoryCommand (buildMemoryDirective layer) dispatchAction))))) =
      round4 layer.excess := by
  obtain ⟨hstatus, hpressure, hpos⟩ | ⟨hstatus, -, hexcess⟩ := built_cases h
  · have hdirective : buildMemoryDirective layer =
        memoryDirective layer .evictOrDeferResidency layer.pressureMb 0
          "Active residency exceeds the configured memory budget." := by
      unfold buildMemoryDirective
      rw [hstatus]
    have hbudget : memoryBudgetMb (memoryStateFromCommand (commandPayload 0
        (memoryCommand (buildMemoryDirective layer) dispatchAction))) = round4 layer.excess := by
      rw [hdirective]
      change max (round4 (if layer.pressureMb > 0 then layer.pressureMb else 0)) 0 = _
      rw [hpressure, if_pos hpos, max_eq_left (round4_nonneg hpos.le)]
    have haction : (stepPayload 0 (memoryStep (memoryStateFromCommand (commandPayload 0
        (memoryCommand (buildMemoryDirective layer) dispatchAction))))).action =
          .relieveMemoryResidency := by
      rw [hdirective]
      rfl
    calc _ = round4 (memoryBudgetMb (memoryStateFromCommand (commandPayload 0
              (memoryCommand (buildMemoryDirective layer) dispatchAction)))) := if_pos haction
      _ = round4 layer.excess := by rw [hbudget, round4_round4]
  · rw [hexcess, round4_zero]
    apply if_neg
    unfold buildMemoryDirective
    cases hother : layer.status with
    | overBudget => exact absurd hother hstatus
    | nearBudget => exact nofun
    | unbounded => exact nofun
    | withinBudget => exact nofun

/-- The relief that the dispatch path counts for all the layers. -/
theorem sum_arbitrated {layers : List MemoryBudgetEnvelope} (h : ∀ layer ∈ layers, layer.Built) :
    ((layers.filterMap arbitrateMemoryLayer).map fun action => round4 action.pressureMb).sum =
      (layers.map fun layer => round4 layer.excess).sum := by
  induction layers with
  | nil => rfl
  | cons layer layers ih =>
      obtain ⟨hlayer, hrest⟩ := List.forall_mem_cons.mp h
      have hhead : (layer :: layers).filterMap arbitrateMemoryLayer =
          (arbitrateMemoryLayer layer).toList ++ layers.filterMap arbitrateMemoryLayer := by
        cases haction : arbitrateMemoryLayer layer with
        | none => exact List.filterMap_cons_none haction
        | some action => exact List.filterMap_cons_some haction
      rw [hhead, List.map_append, List.sum_append, ih hrest, relief_arbitrated hlayer,
        List.map_cons, List.sum_cons]

section

variable {envelope : RuntimeBudgetEnvelope} (hlayers : ∀ layer ∈ envelope.memoryLayers, layer.Built)

include hlayers

theorem relief_dispatched (packet : List ExecutionCommand) :
    (runDispatch packet envelope).memoryReliefMb =
      (envelope.memoryLayers.map fun layer => round4 layer.excess).sum := by
  unfold runDispatch
  rw [memoryReliefMb_executeDispatchPlan]
  exact sum_arbitrated hlayers

theorem relief_controlled (calibration : RuntimeCalibrationReport) :
    (runControl calibration envelope).memoryReliefAppliedMb =
      (envelope.memoryLayers.map fun layer => round4 layer.excess).sum := by
  unfold runControl
  rw [memoryReliefAppliedMb_eq, memoryLayers_eq]
  change (((envelope.memoryLayers.map buildMemoryDirective).map _).map _).sum = _
  rw [List.map_map, List.map_map]
  congr 1
  apply List.map_congr_left
  intro layer hlayer
  exact relief_applied (hlayers layer hlayer) _

/-- **Both paths agree on memory relief.** For every packet, every list of frames and
every envelope whose layers were built from their amounts, the relief counted along the
dispatch path is the relief applied along the control path, and the next policy goes on
relieving memory exactly when the excess of some layer rounds to more than nothing. -/
theorem relief_agrees (packet : List ExecutionCommand) (frames : List FrameStatistics) :
    (buildRuntimeCalibration (runDispatch packet envelope) frames).totalMemoryReliefMb =
        (runControl (buildRuntimeCalibration (runDispatch packet envelope) frames)
          envelope).memoryReliefAppliedMb ∧
      (runFeedback (runDispatch packet envelope) frames envelope).memoryDeltaMb = 0 ∧
      ((∃ update ∈ (buildRuntimePolicyUpdate
          (runFeedback (runDispatch packet envelope) frames envelope)).memoryUpdates,
            update.action = .continueMemoryRelief) ↔
        ∃ layer ∈ envelope.memoryLayers, round4 layer.excess ≠ 0) := by
  have hcounted := relief_dispatched hlayers packet
  have happlied := relief_controlled hlayers
    (buildRuntimeCalibration (runDispatch packet envelope) frames)
  have hdelta : (runFeedback (runDispatch packet envelope) frames envelope).memoryDeltaMb = 0 :=
    sub_eq_zero.mpr (happlied.trans hcounted.symm)
  refine ⟨hcounted.trans happlied.symm, hdelta, ?_⟩
  have hamounts : ∀ amount ∈ envelope.memoryLayers.map fun layer => round4 layer.excess,
      0 ≤ amount := by
    intro amount hamount
    obtain ⟨layer, -, rfl⟩ := List.mem_map.mp hamount
    exact round4_nonneg (excess_nonneg layer)
  have hpositive : (runFeedback (runDispatch packet envelope) frames
      envelope).memoryReliefAppliedMb > 0 ↔
        ∃ layer ∈ envelope.memoryLayers, round4 layer.excess ≠ 0 := by
    change (runControl _ envelope).memoryReliefAppliedMb > 0 ↔ _
    rw [happlied, gt_iff_lt, (List.sum_nonneg hamounts).lt_iff_ne']
    constructor
    · intro hsum
      by_contra hnone
      push Not at hnone
      apply hsum
      apply List.sum_eq_zero
      intro amount hamount
      obtain ⟨layer, hlayer, rfl⟩ := List.mem_map.mp hamount
      exact hnone layer hlayer
    · intro hsome hsum
      obtain ⟨layer, hlayer, hne⟩ := hsome
      exact hne (List.all_zero_of_le_zero_le_of_sum_eq_zero hamounts hsum
        (List.mem_map_of_mem hlayer))
  rw [← hpositive]
  change (∃ update ∈ [buildMemoryPolicyUpdate _], _) ↔ _
  simp only [List.mem_singleton, exists_eq_left]
  unfold buildMemoryPolicyUpdate
  rw [hdelta]
  by_cases hrelief : (runFeedback (runDispatch packet envelope) frames
      envelope).memoryReliefAppliedMb > 0
  · simp [hrelief]
  · simp only [hrelief, lt_irrefl, or_self, if_false, iff_false]
    split_ifs <;> exact nofun

end

/-- Two layers above their budgets, one of them by less than can be seen. -/
def twoLayers : RuntimeBudgetEnvelope where
  profile := .stable
  nextFramePolicy := "maintain-current-envelope"
  frames := []
  memoryLayers :=
    [buildMemoryLayer "ram" (100004 / 1000) (some 100),
     buildMemoryLayer "vram" (10000001 / 100000) (some 100)]

/-- The excess that can be seen is relieved on both paths, and the next policy goes on. -/
theorem relief_agrees_two_layers :
    let report := runDispatch [hotPathWork (some 1) 4] twoLayers
    (∀ layer ∈ twoLayers.memoryLayers, layer.Built) ∧
      (buildRuntimeCalibration report [{}]).totalMemoryReliefMb = 1 / 250 ∧
      (runControl (buildRuntimeCalibration report [{}]) twoLayers).memoryReliefAppliedMb = 1 / 250 ∧
      (runFeedback report [{}] twoLayers).memoryDeltaMb = 0 ∧
      ∃ update ∈ (buildRuntimePolicyUpdate (runFeedback report [{}] twoLayers)).memoryUpdates,
        update.action = .continueMemoryRelief := by
  intro report
  have hlayers : ∀ layer ∈ twoLayers.memoryLayers, layer.Built := by decide +kernel
  have hcounted : (buildRuntimeCalibration report [{}]).totalMemoryReliefMb = 1 / 250 :=
    (relief_dispatched hlayers _).trans (by decide +kernel)
  have hexcess : ∃ layer ∈ twoLayers.memoryLayers, round4 layer.excess ≠ 0 := by decide +kernel
  obtain ⟨hsame, hdelta, hcontinue⟩ := relief_agrees hlayers [hotPathWork (some 1) 4] [{}]
  exact ⟨hlayers, hcounted, hsame.symm.trans hcounted, hdelta, hcontinue.mpr hexcess⟩

/-! ## Frames within budget -/

section

variable (report : DispatchExecutionReport) {frames : List FrameStatistics}
  (envelope : RuntimeBudgetEnvelope)

/-- The budget that comes back for a frame is the recommended one, rounded. -/
theorem frameStepBudget_recommended (hdistinct : (frames.map FrameStatistics.frameId).Nodup)
    {frame : FrameStatistics} (hmem : frame ∈ frames) :
    frameStepBudget frame.frameId
        (runControl (buildRuntimeCalibration report frames) envelope).stepResults
        .protectNextFrameBudget =
      round4 (calibrateFrame report frame).recommendedNextFrameBudgetMs := by
  let manager :=
    buildRuntimeManagerDirective (buildRuntimeCalibration report frames) envelope
  let directive := buildFrameDirective (calibrateFrame report frame)
    ((frameTable envelope.frames).get (calibrateFrame report frame).frame)
  have hdirective : directive ∈ manager.frames :=
    List.mem_map_of_mem (List.mem_map_of_mem hmem)
  have hframes : manager.frames.map FrameManagerDirective.frame =
      frames.map FrameStatistics.frameId := by
    rw [directives_frames]
    exact List.map_map
  have hstate := frameState_mem manager (hframes ▸ hdistinct) hdirective
  have honly := Sequencing.filter_key_eq
    (applyRuntimeControlPacket_nodup (buildRuntimeControlPacket manager)) hstate
  calc frameStepBudget frame.frameId
        (runControl (buildRuntimeCalibration report frames) envelope).stepResults
        .protectNextFrameBudget
      = (((applyRuntimeControlPacket (buildRuntimeControlPacket manager)).frames.filter
          fun state => state.frame = (frameState directive manager.dispatchAction).frame).map
            fun state => round4 state.nextFrameBudgetMs).sum := frameStepBudget_next _ _
    _ = round4 (frameState directive manager.dispatchAction).nextFrameBudgetMs := by
        rw [honly, List.map_singleton, List.sum_singleton]
    _ = round4 (calibrateFrame report frame).recommendedNextFrameBudgetMs := by
        rw [frameState_nextFrameBudgetMs, round4_round4]
        rfl

/-- The gap of a frame that was within its target is what it cost above the rounded
target. -/
theorem protectedGapMs_within (hdistinct : (frames.map FrameStatistics.frameId).Nodup)
    {frame : FrameStatistics} (hmem : frame ∈ frames) (htarget : 0 ≤ frame.target)
    (hobserved : (calibrateFrame report frame).observedPressureStatus = .withinBudget) :
    (frameFeedback (runControl (buildRuntimeCalibration report frames) envelope).stepResults
        (calibrateFrame report frame)).protectedGapMs =
      max 0 (frame.observed - round4 frame.target) := by
  have hbudget := frameStepBudget_recommended report envelope hdistinct hmem
  rw [recommended_of_within htarget hobserved] at hbudget
  exact congrArg (fun budget => max 0 (frame.observed - budget)) hbudget

/-- A frame within budget, observed and planned, is told of pressure exactly when its
gap is not nothing. -/
theorem feedbackAction_within (results : List RuntimeGatewayStepResult) (frame : FrameCalibration)
    (hobserved : frame.observedFrameCostMs ≤ frame.targetFrameMs)
    (hplanned : frame.plannedCurrentFrameCostMs ≤ frame.targetFrameMs) :
    (frameFeedback results frame).feedbackAction ≠ .tightenCycleGuardband ∧
      ((frameFeedback results frame).feedbackAction = .continuePressureManagement ↔
        0 < (frameFeedback results frame).protectedGapMs) := by
  have hobservedOver : max 0 (frame.observedFrameCostMs - frame.targetFrameMs) = 0 :=
    max_eq_left (sub_nonpos.mpr hobserved)
  have hplannedOver : max 0 (frame.plannedCurrentFrameCostMs - frame.targetFrameMs) = 0 :=
    max_eq_left (sub_nonpos.mpr hplanned)
  have haction : (frameFeedback results frame).feedbackAction =
      frameFeedbackAction 0 0 (frameFeedback results frame).protectedGapMs
        frame.plannedFrameReliefMs := by
    unfold frameFeedback
    simp only [hobservedOver, hplannedOver]
  rw [haction]
  unfold frameFeedbackAction
  simp only [gt_iff_lt, lt_irrefl, if_false, false_or]
  split_ifs with hgap hrelief
  · exact ⟨nofun, fun _ => hgap, fun _ => rfl⟩
  · exact ⟨nofun, nofun, fun h => absurd h hgap⟩
  · exact ⟨nofun, nofun, fun h => absurd h hgap⟩

/-- The feedback reports no pressure on a frame. -/
def Unpressed (feedback : RuntimeGatewayFrameFeedback) : Prop :=
  feedback.protectedGapMs = 0 ∧ feedback.feedbackAction ≠ .continuePressureManagement ∧
    feedback.feedbackAction ≠ .tightenCycleGuardband

instance (feedback : RuntimeGatewayFrameFeedback) : Decidable (Unpressed feedback) := by
  unfold Unpressed
  infer_instance

theorem unpressed_within (hdistinct : (frames.map FrameStatistics.frameId).Nodup)
    {frame : FrameStatistics} (hmem : frame ∈ frames) (htarget : 0 ≤ frame.target)
    (hobserved : (calibrateFrame report frame).observedPressureStatus = .withinBudget)
    (hplanned : (calibrateFrame report frame).plannedPressureStatus = .withinBudget) :
    Unpressed (frameFeedback
        (runControl (buildRuntimeCalibration report frames) envelope).stepResults
        (calibrateFrame report frame)) ↔ frame.observed ≤ round4 frame.target := by
  have hgap := protectedGapMs_within report envelope hdistinct hmem htarget hobserved
  obtain ⟨htighten, hcontinue⟩ := feedbackAction_within
    (runControl (buildRuntimeCalibration report frames) envelope).stepResults
    (calibrateFrame report frame) (pressureStatus_eq_withinBudget.mp hobserved)
    (pressureStatus_eq_withinBudget.mp hplanned)
  have hzero : max 0 (frame.observed - round4 frame.target) = 0 ↔
      frame.observed ≤ round4 frame.target := by
    rw [max_eq_left_iff, sub_nonpos]
  unfold Unpressed
  constructor
  · intro hunpressed
    exact hzero.mp (hgap ▸ hunpressed.1)
  · intro hfits
    have hnone := hgap.trans (hzero.mpr hfits)
    refine ⟨hnone, ?_, htighten⟩
    intro hpressure
    exact absurd (hcontinue.mp hpressure) (by rw [hnone]; exact lt_irrefl 0)

/-- **Pressure on frames within budget.** The feedback has one entry for each frame, and
for a frame whose observed and planned cost are within its target it reports no pressure
exactly when the observed cost is within the target as rounded to four decimals. -/
theorem runFeedback_within (hdistinct : (frames.map FrameStatistics.frameId).Nodup)
    (htargets : ∀ frame ∈ frames, 0 ≤ frame.target) :
    (runFeedback report frames envelope).frameFeedbacks.map RuntimeGatewayFrameFeedback.frame =
        frames.map FrameStatistics.frameId ∧
      ∀ frame ∈ frames,
        (calibrateFrame report frame).observedPressureStatus = .withinBudget →
        (calibrateFrame report frame).plannedPressureStatus = .withinBudget →
        ∀ feedback ∈ (runFeedback report frames envelope).frameFeedbacks,
          feedback.frame = frame.frameId →
            (Unpressed feedback ↔ frame.observed ≤ round4 frame.target) := by
  refine ⟨?_, ?_⟩
  · exact List.map_map.trans List.map_map
  · intro frame hmem hwithin hplanned feedback hfeedback hframe
    obtain ⟨calibration, hcalibration, rfl⟩ := List.mem_map.mp hfeedback
    obtain ⟨other, hother, rfl⟩ := List.mem_map.mp hcalibration
    obtain rfl : other = frame := List.inj_on_of_nodup_map hdistinct hother hmem hframe
    exact unpressed_within report envelope hdistinct hmem (htargets other hmem) hwithin hplanned

end

/-- A run in which nothing was dispatched. -/
def idleReport : DispatchExecutionReport where
  profile := .stable
  nextFramePolicy := "maintain-current-envelope"
  stepCount := 0
  appliedCount := 0
  scheduledCount := 0
  deferredCount := 0
  removedCount := 0
  memoryActionCount := 0
  currentFrameCostMs := 0
  preFrameCostMs := 0
  avoidedCostMs := 0
  deferredCostMs := 0
  memoryReliefMb := 0
  steps := []

/-- A frame that used all of a target with five decimals. -/
def finelyTimed : FrameStatistics where
  frame := some 1
  targetFrameMs := some (1666664 / 100000)
  estimatedTotalCostMs := some (1666664 / 100000)

theorem finelyTimed_distinct : ([finelyTimed].map FrameStatistics.frameId).Nodup :=
  List.nodup_singleton _

/-- A frame that used most of a target with two decimals. -/
def roundlyTimed : FrameStatistics where
  frame := some 2
  targetFrameMs := some (1667 / 100)
  estimatedTotalCostMs := some 12

/-- The first frame is told of pressure, and the second is not. -/
theorem runFeedback_within_finelyTimed :
    let feedbacks := (runFeedback idleReport [finelyTimed, roundlyTimed] twoLayers).frameFeedbacks
    feedbacks.map RuntimeGatewayFrameFeedback.frame = [1, 2] ∧
      ∀ feedback ∈ feedbacks,
        (feedback.frame = 1 → ¬ Unpressed feedback) ∧ (feedback.frame = 2 → Unpressed feedback) := by
  intro feedbacks
  have hfine : ¬ finelyTimed.observed ≤ round4 finelyTimed.target := by decide +kernel
  have hround : roundlyTimed.observed ≤ round4 roundlyTimed.target := by decide +kernel
  have hdistinct : ([finelyTimed, roundlyTimed].map FrameStatistics.frameId).Nodup := by decide
  obtain ⟨hframes, hwithin⟩ := runFeedback_within idleReport twoLayers hdistinct (by decide +kernel)
  have hfirst := hwithin finelyTimed List.mem_cons_self (by decide +kernel) (by decide +kernel)
  have hsecond := hwithin roundlyTimed (List.mem_cons_of_mem _ List.mem_cons_self)
    (by decide +kernel) (by decide +kernel)
  refine ⟨hframes, fun feedback hfeedback => ⟨fun hframe => ?_, fun hframe => ?_⟩⟩
  · exact fun h => hfine ((hfirst feedback hfeedback hframe).mp h)
  · exact (hsecond feedback hfeedback hframe).mpr hround

/-- A frame within budget whose target has a fifth decimal is told of pressure. -/
theorem pressure_within_budget :
    ¬ ∀ (report : DispatchExecutionReport) (frames : List FrameStatistics)
      (envelope : RuntimeBudgetEnvelope), (frames.map FrameStatistics.frameId).Nodup →
      (∀ frame ∈ frames, 0 ≤ frame.observed) → (∀ frame ∈ frames, 0 ≤ frame.target) →
      ∀ frame ∈ frames,
        (calibrateFrame report frame).observedPressureStatus = .withinBudget →
        (calibrateFrame report frame).plannedPressureStatus = .withinBudget →
        ∀ feedback ∈ (runFeedback report frames envelope).frameFeedbacks,
          feedback.frame = frame.frameId → Unpressed feedback := by
  intro h
  have hunpressed := h idleReport [finelyTimed] twoLayers finelyTimed_distinct (by decide +kernel)
    (by decide +kernel) finelyTimed (List.mem_singleton_self _) (by decide +kernel)
    (by decide +kernel) _ (List.mem_singleton_self _) rfl
  have hfits := (unpressed_within idleReport twoLayers finelyTimed_distinct
    (List.mem_singleton_self finelyTimed) (by decide +kernel) (by decide +kernel)
    (by decide +kernel)).mp hunpressed
  exact absurd hfits (by decide +kernel)

end FluidGateway.ControlLoop
