import FluidGateway.GatewayCycle

/-!
# Gateway feedback and the policy update

`fluidgateway/gateway_feedback.py` compares the simulated cycle with the
calibration it came from, frame by frame, and `fluidgateway/policy_update.py`
draws the policy of the next cycle from the differences.
-/

namespace FluidGateway.ControlLoop

/-! ## Feedback of a frame -/

/-- What the feedback asks for a frame. -/
inductive FrameFeedbackAction where
  | tightenCycleGuardband | continuePressureManagement | preserveCycleShape | monitorCycle
  deriving DecidableEq, Repr

/-- The feedback about a frame. -/
structure RuntimeGatewayFrameFeedback where
  frame : ℤ
  targetFrameMs : ℚ
  observedFrameCostMs : ℚ
  plannedCurrentFrameCostMs : ℚ
  nextFrameBudgetMs : ℚ
  hotPathBudgetMs : ℚ
  observedOverBudgetMs : ℚ
  plannedOverBudgetMs : ℚ
  protectedGapMs : ℚ
  plannedFrameReliefMs : ℚ
  feedbackAction : FrameFeedbackAction
  confidence : Confidence
  deriving DecidableEq, Repr

/-- `frame_step_budget`: what the results of an action protect for a frame. -/
def frameStepBudget (frame : ℤ) (stepResults : List RuntimeGatewayStepResult)
    (action : GatewayAction) : ℚ :=
  sumResults (stepResults.filter fun result => result.frame = some frame ∧ result.action = action)
    RuntimeGatewayStepResult.protectedBudgetMs

/-- `frame_feedback_action`: what is planned over the target comes before what was observed
over the target or the budget. -/
def frameFeedbackAction (observedOverBudgetMs plannedOverBudgetMs protectedGapMs
    plannedFrameReliefMs : ℚ) : FrameFeedbackAction :=
  if plannedOverBudgetMs > 0 then .tightenCycleGuardband
  else if observedOverBudgetMs > 0 ∨ protectedGapMs > 0 then .continuePressureManagement
  else if plannedFrameReliefMs > 0 then .preserveCycleShape
  else .monitorCycle

/-- `frame_feedback`: the calibration of a frame against the budget that the cycle protects
for it. -/
def frameFeedback (stepResults : List RuntimeGatewayStepResult) (frame : FrameCalibration) :
    RuntimeGatewayFrameFeedback :=
  let nextBudget := frameStepBudget frame.frame stepResults .protectNextFrameBudget
  let observedOver := max 0 (frame.observedFrameCostMs - frame.targetFrameMs)
  let plannedOver := max 0 (frame.plannedCurrentFrameCostMs - frame.targetFrameMs)
  let protectedGap := max 0 (frame.observedFrameCostMs - nextBudget)
  { frame := frame.frame
    targetFrameMs := frame.targetFrameMs
    observedFrameCostMs := frame.observedFrameCostMs
    plannedCurrentFrameCostMs := frame.plannedCurrentFrameCostMs
    nextFrameBudgetMs := nextBudget
    hotPathBudgetMs := frameStepBudget frame.frame stepResults .protectGpuHotPath
    observedOverBudgetMs := observedOver
    plannedOverBudgetMs := plannedOver
    protectedGapMs := protectedGap
    plannedFrameReliefMs := frame.plannedFrameReliefMs
    feedbackAction :=
      frameFeedbackAction observedOver plannedOver protectedGap frame.plannedFrameReliefMs
    confidence := frame.confidence }

/-! ## Feedback of a cycle -/

/-- What the feedback asks for as a whole. -/
inductive FeedbackAction where
  | tightenCycleGuardband | continuePressureManagement | monitorHeadroom | preserveCycleShape
  | maintainCycle
  deriving DecidableEq, Repr

/-- How far the cycle is from its target. -/
inductive ConvergenceStatus where
  | diverging | needsCorrection | watchingHeadroom | stable
  deriving DecidableEq, Repr

/-- The feedback of a cycle, with its sums. -/
structure RuntimeGatewayFeedbackDelta where
  profile : Profile
  feedbackAction : FeedbackAction
  convergenceStatus : ConvergenceStatus
  driftRisk : DriftRisk
  confidence : Confidence
  frameCount : Nat
  memoryLayerCount : Nat
  pressureFrameCount : Nat
  protectedGapFrameCount : Nat
  observedFrameCostMs : ℚ
  targetFrameBudgetMs : ℚ
  plannedCurrentFrameCostMs : ℚ
  nextFrameBudgetMs : ℚ
  hotPathBudgetMs : ℚ
  observedOverBudgetMs : ℚ
  plannedOverBudgetMs : ℚ
  protectedGapMs : ℚ
  plannedFrameReliefMs : ℚ
  memoryReliefExpectedMb : ℚ
  memoryReliefAppliedMb : ℚ
  memoryHeadroomReservedMb : ℚ
  memoryDeltaMb : ℚ
  nextCycleAction : CycleAction
  frameFeedbacks : List RuntimeGatewayFrameFeedback
  deriving DecidableEq, Repr

/-- `feedback_action`: the strongest action of any frame; headroom of memory comes before a
shape to preserve. -/
def feedbackAction (cycle : RuntimeGatewayCycleReport)
    (frameFeedbacks : List RuntimeGatewayFrameFeedback) : FeedbackAction :=
  let actions := frameFeedbacks.map RuntimeGatewayFrameFeedback.feedbackAction
  if .tightenCycleGuardband ∈ actions then .tightenCycleGuardband
  else if .continuePressureManagement ∈ actions then .continuePressureManagement
  else if cycle.nextCycleAction = .monitorHeadroom then .monitorHeadroom
  else if .preserveCycleShape ∈ actions then .preserveCycleShape
  else .maintainCycle

/-- `convergence_status`, by the risk, the frames and the headroom in turn. -/
def convergenceStatus (cycle : RuntimeGatewayCycleReport)
    (frameFeedbacks : List RuntimeGatewayFrameFeedback) : ConvergenceStatus :=
  if cycle.driftRisk = .high then .diverging
  else if frameFeedbacks.any fun feedback => feedback.protectedGapMs > 0 then .needsCorrection
  else if cycle.memoryHeadroomReservedMb > 0 then .watchingHeadroom
  else .stable

/-- `feedback_confidence`; the two last branches of the source return the same. -/
def feedbackConfidence (cycle : RuntimeGatewayCycleReport)
    (calibration : RuntimeCalibrationReport) : Confidence :=
  if cycle.stepCount = 0 ∨ calibration.frameCount = 0 then .low
  else if calibration.frames.any fun frame => frame.confidence = .low then .medium
  else .medium

/-- What the frames add up to in one of their values. -/
def sumFeedback (frameFeedbacks : List RuntimeGatewayFrameFeedback)
    (value : RuntimeGatewayFrameFeedback → ℚ) : ℚ :=
  (frameFeedbacks.map value).sum

/-- `build_runtime_gateway_feedback`: each calibrated frame against the steps of the cycle,
and memory against the relief that was asked for. -/
def buildRuntimeGatewayFeedback (cycle : RuntimeGatewayCycleReport)
    (calibration : RuntimeCalibrationReport) : RuntimeGatewayFeedbackDelta :=
  let feedbacks := calibration.frames.map (frameFeedback cycle.stepResults)
  { profile := cycle.profile
    feedbackAction := feedbackAction cycle feedbacks
    convergenceStatus := convergenceStatus cycle feedbacks
    driftRisk := cycle.driftRisk
    confidence := feedbackConfidence cycle calibration
    frameCount := calibration.frameCount
    memoryLayerCount := cycle.memoryLayerCount
    pressureFrameCount := feedbacks.countP fun feedback => feedback.observedOverBudgetMs > 0
    protectedGapFrameCount := feedbacks.countP fun feedback => feedback.protectedGapMs > 0
    observedFrameCostMs := calibration.totalObservedFrameCostMs
    targetFrameBudgetMs := sumFeedback feedbacks RuntimeGatewayFrameFeedback.targetFrameMs
    plannedCurrentFrameCostMs := calibration.totalPlannedCurrentFrameCostMs
    nextFrameBudgetMs := sumFeedback feedbacks RuntimeGatewayFrameFeedback.nextFrameBudgetMs
    hotPathBudgetMs := sumFeedback feedbacks RuntimeGatewayFrameFeedback.hotPathBudgetMs
    observedOverBudgetMs :=
      sumFeedback feedbacks RuntimeGatewayFrameFeedback.observedOverBudgetMs
    plannedOverBudgetMs := sumFeedback feedbacks RuntimeGatewayFrameFeedback.plannedOverBudgetMs
    protectedGapMs := sumFeedback feedbacks RuntimeGatewayFrameFeedback.protectedGapMs
    plannedFrameReliefMs := calibration.totalPlannedFrameReliefMs
    memoryReliefExpectedMb := calibration.totalMemoryReliefMb
    memoryReliefAppliedMb := cycle.memoryReliefAppliedMb
    memoryHeadroomReservedMb := cycle.memoryHeadroomReservedMb
    memoryDeltaMb := cycle.memoryReliefAppliedMb - calibration.totalMemoryReliefMb
    nextCycleAction := cycle.nextCycleAction
    frameFeedbacks := feedbacks }

/-! ## Policy update -/

/-- The actions of updates for a frame. -/
inductive FramePolicyAction where
  | tightenFrameGuardband | continueFramePressureManagement | preserveCycleShape | monitorCycle
  deriving DecidableEq, Repr

/-- The policies of admission. -/
inductive AdmissionPolicy where
  | blockNoncriticalHotPath | prestageAndDeferNoncritical | preserveBudgetedHotPath
  | observeAdmission
  deriving DecidableEq, Repr

/-- The update for a frame. -/
structure FramePolicyUpdate where
  frame : ℤ
  action : FramePolicyAction
  admissionPolicy : AdmissionPolicy
  schedulerPolicy : SchedulerMode
  nextFrameBudgetMs : ℚ
  hotPathBudgetMs : ℚ
  copyQueueBudgetMs : ℚ
  preFrameWindowMs : ℚ
  guardbandMs : ℚ
  reason : String
  deriving DecidableEq, Repr

/-- The actions of updates for memory. -/
inductive MemoryPolicyAction where
  | continueMemoryRelief | preserveMemoryHeadroom | holdMemoryResidency
  deriving DecidableEq, Repr

/-- The update for memory, one for all layers. -/
structure MemoryPolicyUpdate where
  action : MemoryPolicyAction
  residencyPolicy : ResidencyAction
  reliefTargetMb : ℚ
  headroomTargetMb : ℚ
  memoryDeltaMb : ℚ
  reason : String
  deriving DecidableEq, Repr

/-- `recommended_guardband`: half of what is planned over the target or a quarter of the
gap, at least half a millisecond and at most a quarter of the target. -/
def recommendedGuardband (feedback : RuntimeGatewayFrameFeedback) : ℚ :=
  if feedback.plannedOverBudgetMs > 0 then
    min (feedback.targetFrameMs * (25 / 100)) (max (1 / 2) (feedback.plannedOverBudgetMs * (1 / 2)))
  else if feedback.protectedGapMs > 0 then
    min (feedback.targetFrameMs * (25 / 100)) (max (1 / 2) (feedback.protectedGapMs * (25 / 100)))
  else 0

/-- `frame_reason`: the text that goes with the update of a frame. -/
def framePolicyReason (feedback : RuntimeGatewayFrameFeedback) : String :=
  if feedback.plannedOverBudgetMs > 0 then
    "Planned current-frame work still exceeds the target budget."
  else if feedback.protectedGapMs > 0 then
    "Observed frame cost still exceeds the protected next-frame budget."
  else if feedback.plannedFrameReliefMs > 0 then
    "Cycle shape produced useful relief and can be preserved."
  else "No stronger frame policy change is supported by current feedback."

/-- The fields that the four updates of a frame have in common. -/
def framePolicyUpdate (feedback : RuntimeGatewayFrameFeedback) (action : FramePolicyAction)
    (admission : AdmissionPolicy) (scheduler : SchedulerMode)
    (nextBudget copyBudget preFrame : ℚ) : FramePolicyUpdate where
  frame := feedback.frame
  action := action
  admissionPolicy := admission
  schedulerPolicy := scheduler
  nextFrameBudgetMs := nextBudget
  hotPathBudgetMs := min nextBudget feedback.targetFrameMs
  copyQueueBudgetMs := copyBudget
  preFrameWindowMs := preFrame
  guardbandMs := recommendedGuardband feedback
  reason := framePolicyReason feedback

/-- `build_frame_policy_update`, by what the feedback asks for the frame. -/
def buildFramePolicyUpdate (feedback : RuntimeGatewayFrameFeedback) : FramePolicyUpdate :=
  let guardband := recommendedGuardband feedback
  match feedback.feedbackAction with
  | .tightenCycleGuardband =>
    framePolicyUpdate feedback .tightenFrameGuardband .blockNoncriticalHotPath
      .guardbandTightening (max 0 (feedback.targetFrameMs - guardband)) 0
      (max (feedback.plannedFrameReliefMs * (1 / 2)) guardband)
  | .continuePressureManagement =>
    framePolicyUpdate feedback .continueFramePressureManagement .prestageAndDeferNoncritical
      .closedLoopAggressive feedback.nextFrameBudgetMs 0
      (max (feedback.plannedFrameReliefMs * (36 / 100)) guardband)
  | .preserveCycleShape =>
    framePolicyUpdate feedback .preserveCycleShape .preserveBudgetedHotPath .closedLoopStable
      feedback.targetFrameMs (feedback.targetFrameMs * (15 / 100)) feedback.plannedFrameReliefMs
  | .monitorCycle =>
    framePolicyUpdate feedback .monitorCycle .observeAdmission .observe
      feedback.targetFrameMs (feedback.targetFrameMs * (15 / 100)) 0

/-- `build_memory_policy_update`: relief goes on while there was any or the delta is
negative. -/
def buildMemoryPolicyUpdate (feedback : RuntimeGatewayFeedbackDelta) : MemoryPolicyUpdate :=
  if feedback.memoryReliefAppliedMb > 0 ∨ feedback.memoryDeltaMb < 0 then
    { action := .continueMemoryRelief
      residencyPolicy := .evictOrDeferResidency
      reliefTargetMb := max feedback.memoryReliefExpectedMb feedback.memoryReliefAppliedMb
      headroomTargetMb := 0
      memoryDeltaMb := feedback.memoryDeltaMb
      reason := "Memory pressure relief remains part of the next policy cycle." }
  else if feedback.memoryHeadroomReservedMb > 0 then
    { action := .preserveMemoryHeadroom
      residencyPolicy := .reserveHeadroom
      reliefTargetMb := 0
      headroomTargetMb := feedback.memoryHeadroomReservedMb
      memoryDeltaMb := feedback.memoryDeltaMb
      reason := "Memory headroom was reserved and should be watched next cycle." }
  else
    { action := .holdMemoryResidency
      residencyPolicy := .holdResidency
      reliefTargetMb := 0
      headroomTargetMb := 0
      memoryDeltaMb := feedback.memoryDeltaMb
      reason := "No memory pressure or headroom correction is required." }

/-- The actions of an update as a whole. -/
inductive PolicyAction where
  | tightenRuntimeGuardbandPolicy | continueRuntimePressurePolicy | preserveMemoryHeadroomPolicy
  | preserveRuntimeCyclePolicy | maintainRuntimePolicy
  deriving DecidableEq, Repr

/-- `policy_action`, by what the feedback asks for. -/
def policyAction (feedback : RuntimeGatewayFeedbackDelta) : PolicyAction :=
  match feedback.feedbackAction with
  | .tightenCycleGuardband => .tightenRuntimeGuardbandPolicy
  | .continuePressureManagement => .continueRuntimePressurePolicy
  | .monitorHeadroom => .preserveMemoryHeadroomPolicy
  | .preserveCycleShape => .preserveRuntimeCyclePolicy
  | .maintainCycle => .maintainRuntimePolicy

/-- `next_profile`: a cycle under pressure is followed by an aggressive one. -/
def nextProfile (feedback : RuntimeGatewayFeedbackDelta) : Profile :=
  if feedback.feedbackAction ∈
      [FeedbackAction.tightenCycleGuardband, .continuePressureManagement] then .aggressive
  else .stable

/-- The update: frames and memory, and what is counted of them. -/
structure RuntimePolicyUpdate where
  profile : Profile
  nextProfile : Profile
  sourceFeedbackAction : FeedbackAction
  policyAction : PolicyAction
  convergenceStatus : ConvergenceStatus
  driftRisk : DriftRisk
  updateCount : Nat
  frameUpdateCount : Nat
  memoryUpdateCount : Nat
  activeUpdateCount : Nat
  nextFrameBudgetMs : ℚ
  hotPathBudgetMs : ℚ
  copyQueueBudgetMs : ℚ
  preFrameWindowMs : ℚ
  memoryReliefTargetMb : ℚ
  memoryHeadroomTargetMb : ℚ
  frameUpdates : List FramePolicyUpdate
  memoryUpdates : List MemoryPolicyUpdate
  deriving DecidableEq, Repr

/-- `build_runtime_policy_update`: an update for each frame in its order, and the one for
memory. -/
def buildRuntimePolicyUpdate (feedback : RuntimeGatewayFeedbackDelta) : RuntimePolicyUpdate :=
  let frameUpdates := feedback.frameFeedbacks.map buildFramePolicyUpdate
  let memoryUpdates := [buildMemoryPolicyUpdate feedback]
  { profile := feedback.profile
    nextProfile := nextProfile feedback
    sourceFeedbackAction := feedback.feedbackAction
    policyAction := policyAction feedback
    convergenceStatus := feedback.convergenceStatus
    driftRisk := feedback.driftRisk
    updateCount := frameUpdates.length + memoryUpdates.length
    frameUpdateCount := frameUpdates.length
    memoryUpdateCount := memoryUpdates.length
    activeUpdateCount :=
      (frameUpdates.countP fun update => update.action ≠ .monitorCycle) +
        memoryUpdates.countP fun update => update.action ≠ .holdMemoryResidency
    nextFrameBudgetMs := minValue (frameUpdates.map FramePolicyUpdate.nextFrameBudgetMs)
    hotPathBudgetMs := minValue (frameUpdates.map FramePolicyUpdate.hotPathBudgetMs)
    copyQueueBudgetMs := minValue (frameUpdates.map FramePolicyUpdate.copyQueueBudgetMs)
    preFrameWindowMs := maxValue (frameUpdates.map FramePolicyUpdate.preFrameWindowMs)
    memoryReliefTargetMb := (memoryUpdates.map MemoryPolicyUpdate.reliefTargetMb).sum
    memoryHeadroomTargetMb := (memoryUpdates.map MemoryPolicyUpdate.headroomTargetMb).sum
    frameUpdates
    memoryUpdates }

/-! ## Budgets of a frame's steps -/

/-- **The budget of a frame.** The steps that protect a frame's next budget carry
what the states of the frame say. -/
theorem frameStepBudget_next (state : RuntimeControlState) (f : ℤ) :
    frameStepBudget f (executeRuntimeGatewayTick (buildRuntimeGatewayTick state)).stepResults
        .protectNextFrameBudget =
      ((state.frames.filter fun frame => frame.frame = f).map fun frame =>
        FluidGateway.Runtime.round4 frame.nextFrameBudgetMs).sum := by
  let value (result : RuntimeGatewayStepResult) : ℚ :=
    if result.frame = some f ∧ result.action = .protectNextFrameBudget then
      result.protectedBudgetMs else 0
  have hframe : ∀ frame : FrameControlState,
      sumResults ((frameSteps frame).map fun step => stepResult (stepPayload 0 step)) value =
        if frame.frame = f then FluidGateway.Runtime.round4 frame.nextFrameBudgetMs else 0 := by
    intro frame
    unfold sumResults frameSteps copyQueueAction
    split_ifs <;> simp_all [value, stepResult, stepPayload, frameStep, protectedBudgetMs]
  have hlayers : (state.memoryLayers.map fun layer =>
      value (stepResult (stepPayload 0 (memoryStep layer)))).sum = 0 := by
    apply List.sum_eq_zero
    intro amount hamount
    obtain ⟨layer, -, rfl⟩ := List.mem_map.mp hamount
    exact if_neg fun h => by cases h.1
  have htotal := sumResults_tick value (fun _ _ => rfl) state
  rw [hlayers, add_zero] at htotal
  calc frameStepBudget f
        (executeRuntimeGatewayTick (buildRuntimeGatewayTick state)).stepResults
        .protectNextFrameBudget
      = sumResults (executeRuntimeGatewayTick (buildRuntimeGatewayTick state)).stepResults value :=
        Sequencing.sum_filter _ _ _
    _ = _ := by
        rw [htotal, Sequencing.sum_filter]
        exact congrArg List.sum (List.map_congr_left fun frame _ => hframe frame)

end FluidGateway.ControlLoop
