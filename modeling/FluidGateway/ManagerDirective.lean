import FluidGateway.DispatchPlan

/-!
# Calibration and the manager directive

`fluidgateway/calibration.py` compares what each frame cost, and what the
dispatch plan would make it cost, with its target; `fluidgateway/manager.py`
turns this and the budget envelope into budgets for the next frame and actions
for the memory layers.
-/

namespace FluidGateway.ControlLoop

/-! ## Calibration -/

/-- `DEFAULT_FRAME_BUDGET_MS`. -/
def defaultFrameBudgetMs : ℚ := 1667 / 100

/-- What calibration reads of a frame; `none` is a field that is not there. -/
structure FrameStatistics where
  frame : Option ℤ := none
  targetFrameMs : Option ℚ := none
  estimatedTotalCostMs : Option ℚ := none
  deriving DecidableEq, Repr

namespace FrameStatistics

/-- The number of a frame, 0 where the dictionary has none. -/
def frameId (frame : FrameStatistics) : ℤ :=
  frame.frame.getD 0

/-- The target of a frame, the default one where the dictionary has none. -/
def target (frame : FrameStatistics) : ℚ :=
  frame.targetFrameMs.getD defaultFrameBudgetMs

/-- The cost that was observed in a frame, 0 where the dictionary has none. -/
def observed (frame : FrameStatistics) : ℚ :=
  frame.estimatedTotalCostMs.getD 0

end FrameStatistics

/-- Whether a cost is within a frame's target. -/
inductive PressureStatus where
  | overBudget | withinBudget
  deriving DecidableEq, Repr

/-- What the calibration asks for. -/
inductive CalibrationAction where
  | tightenDispatchGuardband | applyDispatchBeforeNextFrame | preserveDispatchShape | monitor
  deriving DecidableEq, Repr

/-- The confidence of a calibration. -/
inductive Confidence where
  | low | medium
  deriving DecidableEq, Repr

/-- The calibration of a frame. -/
structure FrameCalibration where
  frame : ℤ
  targetFrameMs : ℚ
  observedFrameCostMs : ℚ
  plannedCurrentFrameCostMs : ℚ
  plannedPreFrameCostMs : ℚ
  plannedDeferredCostMs : ℚ
  plannedAvoidedCostMs : ℚ
  plannedFrameReliefMs : ℚ
  guardbandMs : ℚ
  recommendedNextFrameBudgetMs : ℚ
  observedPressureStatus : PressureStatus
  plannedPressureStatus : PressureStatus
  action : CalibrationAction
  confidence : Confidence
  deriving DecidableEq, Repr

/-- `pressure_status`: a cost that meets the target exactly is within it. -/
def pressureStatus (costMs targetFrameMs : ℚ) : PressureStatus :=
  if costMs > targetFrameMs then .overBudget else .withinBudget

/-- `next_guardband`: a quarter of the planned relief, at least half a millisecond and at
most a quarter of the target, and only for a frame that was over it. -/
def nextGuardband (observedFrameCostMs targetFrameMs plannedFrameReliefMs : ℚ) : ℚ :=
  if observedFrameCostMs ≤ targetFrameMs then 0
  else min (targetFrameMs * (25 / 100)) (max (1 / 2) (plannedFrameReliefMs * (25 / 100)))

/-- `calibration_action`: what is planned over the target comes before what was observed
over it. -/
def calibrationAction (observedPressureStatus plannedPressureStatus : PressureStatus)
    (plannedFrameReliefMs : ℚ) : CalibrationAction :=
  if plannedPressureStatus = .overBudget then .tightenDispatchGuardband
  else if observedPressureStatus = .overBudget then .applyDispatchBeforeNextFrame
  else if plannedFrameReliefMs > 0 then .preserveDispatchShape
  else .monitor

/-- `calibrate_frame`: what the steps of the frame will cost in it, and how far that
relieves what was observed. -/
def calibrateFrame (dispatchExecution : DispatchExecutionReport) (frame : FrameStatistics) :
    FrameCalibration :=
  let frameSteps := dispatchExecution.steps.filter fun step => step.frame = some frame.frameId
  let plannedCurrentFrameCostMs := sumValue frameSteps DispatchExecutionStep.currentFrameCostMs
  let plannedFrameReliefMs := max 0 (frame.observed - plannedCurrentFrameCostMs)
  let observedPressureStatus := pressureStatus frame.observed frame.target
  let plannedPressureStatus := pressureStatus plannedCurrentFrameCostMs frame.target
  let guardbandMs := nextGuardband frame.observed frame.target plannedFrameReliefMs
  { frame := frame.frameId
    targetFrameMs := frame.target
    observedFrameCostMs := frame.observed
    plannedCurrentFrameCostMs
    plannedPreFrameCostMs := sumValue frameSteps DispatchExecutionStep.preFrameCostMs
    plannedDeferredCostMs := sumValue frameSteps DispatchExecutionStep.deferredCostMs
    plannedAvoidedCostMs := sumValue frameSteps DispatchExecutionStep.avoidedCostMs
    plannedFrameReliefMs
    guardbandMs
    recommendedNextFrameBudgetMs := max 0 (frame.target - guardbandMs)
    observedPressureStatus
    plannedPressureStatus
    action :=
      calibrationAction observedPressureStatus plannedPressureStatus plannedFrameReliefMs
    confidence := if frameSteps.isEmpty then .low else .medium }

/-- The calibrations, with their sums. -/
structure RuntimeCalibrationReport where
  frameCount : Nat
  overBudgetObservedCount : Nat
  overBudgetPlannedCount : Nat
  totalObservedFrameCostMs : ℚ
  totalPlannedCurrentFrameCostMs : ℚ
  totalPlannedFrameReliefMs : ℚ
  totalPreFrameCostMs : ℚ
  totalDeferredCostMs : ℚ
  totalAvoidedCostMs : ℚ
  totalMemoryReliefMb : ℚ
  maxGuardbandMs : ℚ
  recommendedNextFrameBudgetMs : ℚ
  actionCount : Nat
  frames : List FrameCalibration
  deriving DecidableEq, Repr

/-- `min(values, default=0.0)`. -/
def minValue (values : List ℚ) : ℚ :=
  values.min?.getD 0

/-- `max(values, default=0.0)`. -/
def maxValue (values : List ℚ) : ℚ :=
  values.max?.getD 0

/-- `build_runtime_calibration`: one calibration for each frame, in the order of the report. -/
def buildRuntimeCalibration (dispatchExecution : DispatchExecutionReport)
    (frames : List FrameStatistics) : RuntimeCalibrationReport :=
  let calibrations := frames.map (calibrateFrame dispatchExecution)
  { frameCount := calibrations.length
    overBudgetObservedCount :=
      calibrations.countP fun frame => frame.observedPressureStatus = .overBudget
    overBudgetPlannedCount :=
      calibrations.countP fun frame => frame.plannedPressureStatus = .overBudget
    totalObservedFrameCostMs := (calibrations.map FrameCalibration.observedFrameCostMs).sum
    totalPlannedCurrentFrameCostMs :=
      (calibrations.map FrameCalibration.plannedCurrentFrameCostMs).sum
    totalPlannedFrameReliefMs := (calibrations.map FrameCalibration.plannedFrameReliefMs).sum
    totalPreFrameCostMs := dispatchExecution.preFrameCostMs
    totalDeferredCostMs := dispatchExecution.deferredCostMs
    totalAvoidedCostMs := dispatchExecution.avoidedCostMs
    totalMemoryReliefMb := dispatchExecution.memoryReliefMb
    maxGuardbandMs := maxValue (calibrations.map FrameCalibration.guardbandMs)
    recommendedNextFrameBudgetMs :=
      minValue (calibrations.map FrameCalibration.recommendedNextFrameBudgetMs)
    actionCount := calibrations.countP fun frame => frame.action ≠ .monitor
    frames := calibrations }

/-! ## Frame directives -/

/-- The modes of admission. -/
inductive AdmissionMode where
  | tightenHotPathAdmission | prestageAndDeferNoncritical | preserveBudgetedHotPath
  | observeAdmission
  deriving DecidableEq, Repr

/-- The modes of the scheduler. -/
inductive SchedulerMode where
  | guardbandTightening | closedLoopAggressive | closedLoopStable | observe
  deriving DecidableEq, Repr

/-- The policies of the copy queue. -/
inductive QueuePolicy where
  | blockLateCopyQueue | budgetCopyQueue
  deriving DecidableEq, Repr

/-- What the directive asks of the dispatch. -/
inductive DispatchAction where
  | tightenDispatchGuardband | activateDispatchProfile | preserveDispatchProfile
  | monitorRuntime
  deriving DecidableEq, Repr

/-- The directive for a frame. -/
structure FrameManagerDirective where
  frame : ℤ
  targetFrameMs : ℚ
  observedFrameCostMs : ℚ
  plannedCurrentFrameCostMs : ℚ
  expectedFrameReliefMs : ℚ
  nextFrameBudgetMs : ℚ
  hotPathBudgetMs : ℚ
  copyQueueBudgetMs : ℚ
  preFrameWindowMs : ℚ
  guardbandMs : ℚ
  admissionMode : AdmissionMode
  schedulerMode : SchedulerMode
  queuePolicy : QueuePolicy
  calibrationAction : CalibrationAction
  reason : String
  deriving DecidableEq, Repr

/-- `admission_mode`, by what is planned and then by what was observed. -/
def admissionMode (calibration : FrameCalibration) : AdmissionMode :=
  if calibration.plannedPressureStatus = .overBudget then .tightenHotPathAdmission
  else if calibration.observedPressureStatus = .overBudget then .prestageAndDeferNoncritical
  else if calibration.action = .preserveDispatchShape then .preserveBudgetedHotPath
  else .observeAdmission

/-- `scheduler_mode`, by the action of the calibration. -/
def schedulerMode (calibration : FrameCalibration) : SchedulerMode :=
  match calibration.action with
  | .tightenDispatchGuardband => .guardbandTightening
  | .applyDispatchBeforeNextFrame => .closedLoopAggressive
  | .preserveDispatchShape => .closedLoopStable
  | .monitor => .observe

/-- `queue_policy`: a queue without a budget is blocked. -/
def queuePolicy (copyQueueBudgetMs : ℚ) : QueuePolicy :=
  if copyQueueBudgetMs ≤ 0 then .blockLateCopyQueue else .budgetCopyQueue

/-- `dispatch_action`: the strongest action that any frame asks for. -/
def dispatchAction (frames : List FrameCalibration) : DispatchAction :=
  let actions := frames.map FrameCalibration.action
  if .tightenDispatchGuardband ∈ actions then .tightenDispatchGuardband
  else if .applyDispatchBeforeNextFrame ∈ actions then .activateDispatchProfile
  else if .preserveDispatchShape ∈ actions then .preserveDispatchProfile
  else .monitorRuntime

/-- `frame_reason`: the text that goes with the action of the calibration. -/
def directiveReason (calibration : FrameCalibration) : String :=
  match calibration.action with
  | .applyDispatchBeforeNextFrame =>
    "Observed frame pressure can be relieved by the planned dispatch shape."
  | .tightenDispatchGuardband =>
    "Planned current-frame work still exceeds the target budget."
  | .preserveDispatchShape =>
    "Observed work fits the frame while dispatch keeps useful relief."
  | .monitor => "No stronger manager action is supported by the current evidence."

/-- `build_frame_directive`: a frame under pressure gives its copy queue no budget; a frame
without an envelope falls back on its target. -/
def buildFrameDirective (calibration : FrameCalibration)
    (envelope : Option FrameBudgetEnvelope) : FrameManagerDirective :=
  let nextBudget := calibration.recommendedNextFrameBudgetMs
  let maxHotPath :=
    (envelope.map FrameBudgetEnvelope.maxHotPathMs).getD calibration.targetFrameMs
  let copyBudget :=
    if calibration.action ∈
        [CalibrationAction.applyDispatchBeforeNextFrame, .tightenDispatchGuardband] then 0
    else (envelope.map FrameBudgetEnvelope.copyQueueBudgetMs).getD 0
  { frame := calibration.frame
    targetFrameMs := calibration.targetFrameMs
    observedFrameCostMs := calibration.observedFrameCostMs
    plannedCurrentFrameCostMs := calibration.plannedCurrentFrameCostMs
    expectedFrameReliefMs := calibration.plannedFrameReliefMs
    nextFrameBudgetMs := nextBudget
    hotPathBudgetMs := min maxHotPath nextBudget
    copyQueueBudgetMs := copyBudget
    preFrameWindowMs := max ((envelope.map FrameBudgetEnvelope.preFrameWindowMs).getD 0)
      calibration.plannedPreFrameCostMs
    guardbandMs := calibration.guardbandMs
    admissionMode := admissionMode calibration
    schedulerMode := schedulerMode calibration
    queuePolicy := queuePolicy copyBudget
    calibrationAction := calibration.action
    reason := directiveReason calibration }

/-! ## Memory directives -/

/-- The directive for a layer. -/
structure MemoryManagerDirective where
  memory : String
  activeMb : ℚ
  budgetMb : Option ℚ
  pressureMb : ℚ
  status : MemoryStatus
  action : ResidencyAction
  expectedReliefMb : ℚ
  reserveHeadroomMb : ℚ
  reason : String
  deriving DecidableEq, Repr

/-- The fields that the four directives about a layer have in common. -/
def memoryDirective (layer : MemoryBudgetEnvelope) (action : ResidencyAction)
    (expectedReliefMb reserveHeadroomMb : ℚ) (reason : String) : MemoryManagerDirective where
  memory := layer.memory
  activeMb := layer.activeMb
  budgetMb := layer.budgetMb
  pressureMb := layer.pressureMb
  status := layer.status
  action := action
  expectedReliefMb := expectedReliefMb
  reserveHeadroomMb := reserveHeadroomMb
  reason := reason

/-- `build_memory_directive`, by the status of the layer; relief is the excess, headroom is
15 % of the budget. -/
def buildMemoryDirective (layer : MemoryBudgetEnvelope) : MemoryManagerDirective :=
  match layer.status with
  | .overBudget =>
    memoryDirective layer .evictOrDeferResidency layer.pressureMb 0
      "Active residency exceeds the configured memory budget."
  | .nearBudget =>
    memoryDirective layer .reserveHeadroom 0 (max 0 (layer.budgetMb.getD 0 * (15 / 100)))
      "Active residency is close to the configured memory budget."
  | .unbounded =>
    memoryDirective layer .observeResidency 0 0
      "No configured budget exists for this memory layer."
  | .withinBudget =>
    memoryDirective layer .holdResidency 0 0
      "Active residency is inside the configured memory budget."

/-! ## The directive -/

/-- The directive: frames and layers, and what is counted and summed of them. -/
structure RuntimeManagerDirective where
  profile : Profile
  nextFramePolicy : String
  dispatchAction : DispatchAction
  frameCount : Nat
  memoryLayerCount : Nat
  memoryActionCount : Nat
  controlActionCount : Nat
  nextFrameBudgetMs : ℚ
  hotPathBudgetMs : ℚ
  copyQueueBudgetMs : ℚ
  preFrameWindowMs : ℚ
  totalExpectedMemoryReliefMb : ℚ
  frames : List FrameManagerDirective
  memoryDirectives : List MemoryManagerDirective
  deriving DecidableEq, Repr

/-- `build_runtime_manager_directive`: each frame with the envelope of its number, each
layer by itself. -/
def buildRuntimeManagerDirective (calibration : RuntimeCalibrationReport)
    (budgetEnvelope : RuntimeBudgetEnvelope) : RuntimeManagerDirective :=
  let frameEnvelopes := frameTable budgetEnvelope.frames
  let frames := calibration.frames.map fun frame =>
    buildFrameDirective frame (frameEnvelopes.get frame.frame)
  let memoryDirectives := budgetEnvelope.memoryLayers.map buildMemoryDirective
  let memoryActionCount := memoryDirectives.countP fun directive =>
    directive.action ∉ [ResidencyAction.holdResidency, .observeResidency]
  let frameActionCount := frames.countP fun frame => frame.calibrationAction ≠ .monitor
  { profile := budgetEnvelope.profile
    nextFramePolicy := budgetEnvelope.nextFramePolicy
    dispatchAction := dispatchAction calibration.frames
    frameCount := frames.length
    memoryLayerCount := memoryDirectives.length
    memoryActionCount
    controlActionCount := frameActionCount + memoryActionCount
    nextFrameBudgetMs := minValue (frames.map FrameManagerDirective.nextFrameBudgetMs)
    hotPathBudgetMs := minValue (frames.map FrameManagerDirective.hotPathBudgetMs)
    copyQueueBudgetMs := minValue (frames.map FrameManagerDirective.copyQueueBudgetMs)
    preFrameWindowMs := maxValue (frames.map FrameManagerDirective.preFrameWindowMs)
    totalExpectedMemoryReliefMb :=
      (memoryDirectives.map MemoryManagerDirective.expectedReliefMb).sum
    frames
    memoryDirectives }

/-! ## Frames within budget -/

/-- A frame is reported within its budget exactly where its cost does not exceed its target. -/
theorem pressureStatus_eq_withinBudget {costMs targetFrameMs : ℚ} :
    pressureStatus costMs targetFrameMs = .withinBudget ↔ costMs ≤ targetFrameMs := by
  unfold pressureStatus
  split_ifs with hover
  · simpa using hover
  · simpa using hover

/-- A frame that was within its target is offered all of it again. -/
theorem recommended_of_within {report : DispatchExecutionReport} {frame : FrameStatistics}
    (htarget : 0 ≤ frame.target)
    (h : (calibrateFrame report frame).observedPressureStatus = .withinBudget) :
    (calibrateFrame report frame).recommendedNextFrameBudgetMs = frame.target := by
  have hobserved : frame.observed ≤ frame.target := pressureStatus_eq_withinBudget.mp h
  have hguardband : (calibrateFrame report frame).guardbandMs = 0 := if_pos hobserved
  calc (calibrateFrame report frame).recommendedNextFrameBudgetMs
      = max 0 (frame.target - (calibrateFrame report frame).guardbandMs) := rfl
    _ = frame.target := by rw [hguardband, sub_zero, max_eq_right htarget]

/-- The manager has one directive for each calibrated frame, of the same name. -/
theorem directives_frames (calibration : RuntimeCalibrationReport)
    (envelope : RuntimeBudgetEnvelope) :
    (buildRuntimeManagerDirective calibration envelope).frames.map FrameManagerDirective.frame =
      calibration.frames.map FrameCalibration.frame :=
  List.map_map

/-! ## The excess of a layer -/

/-- What a layer holds above its budget. -/
def MemoryBudgetEnvelope.excess (layer : MemoryBudgetEnvelope) : ℚ :=
  match layer.budgetMb with
  | none => 0
  | some budget => max 0 (layer.activeMb - budget)

end FluidGateway.ControlLoop
