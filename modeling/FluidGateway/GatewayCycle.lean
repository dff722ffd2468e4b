import FluidGateway.ControlState

/-!
# The gateway tick and its simulated cycle

`fluidgateway/gateway.py` lays the control state out as numbered steps on
lanes, six for each frame and one for each memory layer, and
`fluidgateway/gateway_cycle.py` says what each step protects, reserves or
relieves.  A total of the cycle is a total over the states of the frames and
of the layers (`sum_results`).
-/

namespace FluidGateway.ControlLoop

open FluidGateway.Runtime (round4)
open Sequencing (numbered)

/-! ## Steps -/

/-- The lanes of steps; every memory layer has a lane of its own. -/
inductive Lane where
  | displayFrame | gpuHotPath | copyQueue | cpuPreFrame | cpuAdmission | scheduler
  | memory (layer : String)
  deriving DecidableEq, Repr

/-- The actions of steps. -/
inductive GatewayAction where
  | protectNextFrameBudget | protectGpuHotPath | blockLateCopyQueue | budgetCopyQueue
  | reservePreFrameWindow | applyAdmissionMode | applySchedulerMode
  | relieveMemoryResidency | reserveMemoryHeadroom | holdMemoryResidency
  | observeMemoryResidency
  deriving DecidableEq, Repr

/-- A step as the tick lists it. -/
structure RuntimeGatewayStep where
  sequence : Nat
  domain : Domain
  lane : Lane
  action : GatewayAction
  frame : Option ℤ
  memory : Option String
  budgetMs : ℚ
  budgetMb : ℚ
  setting : Option Setting
  active : Bool
  priority : Priority
  reason : String
  deriving DecidableEq, Repr

/-- `copy_queue_action`: late copies are blocked where the queue has no budget. -/
def copyQueueAction (frame : FrameControlState) : GatewayAction :=
  if frame.copyQueueBudgetMs ≤ 0 then .blockLateCopyQueue else .budgetCopyQueue

/-- The fields that the six steps of a frame share. -/
def frameStep (frame : FrameControlState) (domain : Domain) (lane : Lane)
    (action : GatewayAction) (budgetMs : ℚ) (setting : Option Setting) : RuntimeGatewayStep where
  sequence := 0
  domain := domain
  lane := lane
  action := action
  frame := some frame.frame
  memory := none
  budgetMs := budgetMs
  budgetMb := 0
  setting := setting
  active := true
  priority := frame.priority
  reason := "Apply consolidated frame control state in the next gateway tick."

/-- `frame_steps`: the six steps of a frame, in the order of the tick. -/
def frameSteps (frame : FrameControlState) : List RuntimeGatewayStep :=
  [ frameStep frame .frame .displayFrame .protectNextFrameBudget frame.nextFrameBudgetMs none,
    frameStep frame .frame .gpuHotPath .protectGpuHotPath frame.hotPathBudgetMs none,
    frameStep frame .queue .copyQueue (copyQueueAction frame) frame.copyQueueBudgetMs none,
    frameStep frame .queue .cpuPreFrame .reservePreFrameWindow frame.preFrameWindowMs none,
    frameStep frame .scheduler .cpuAdmission .applyAdmissionMode 0 frame.admissionMode,
    frameStep frame .scheduler .scheduler .applySchedulerMode 0 frame.schedulerMode ]

/-- `memory_action`: what is done about a layer, by the command that its state holds. -/
def memoryAction (layer : MemoryControlState) : GatewayAction :=
  match layer.command with
  | .evictOrDeferResidency => .relieveMemoryResidency
  | .reserveMemoryHeadroom => .reserveMemoryHeadroom
  | .holdResidency => .holdMemoryResidency
  | _ => .observeMemoryResidency

/-- `memory_budget_mb`: the relief or the headroom of a layer, whichever is larger. -/
def memoryBudgetMb (layer : MemoryControlState) : ℚ :=
  max layer.expectedReliefMb layer.reserveHeadroomMb

/-- `memory_step`: the one step of a layer. -/
def memoryStep (layer : MemoryControlState) : RuntimeGatewayStep where
  sequence := 0
  domain := .memory
  lane := .memory layer.memory
  action := memoryAction layer
  frame := none
  memory := some layer.memory
  budgetMs := 0
  budgetMb := memoryBudgetMb layer
  setting := layer.setting
  active := layer.active
  priority := layer.priority
  reason := layer.reason

/-- A step is rebuilt from its dictionary, whose amounts are rounded. -/
def stepPayload (sequence : Nat) (step : RuntimeGatewayStep) : RuntimeGatewayStep :=
  { step with sequence, budgetMs := round4 step.budgetMs, budgetMb := round4 step.budgetMb }

/-! ## The tick -/

/-- The policies of a tick. -/
inductive TickPolicy where
  | closedLoopPressureManagement | stableBudgetGuard | observeOnly
  deriving DecidableEq, Repr

/-- `tick_policy`: an aggressive profile or an action on memory manages pressure, a stable
profile guards. -/
def tickPolicy (state : RuntimeControlState) : TickPolicy :=
  if state.profile = .aggressive ∨ state.memoryActionCount > 0 then
    .closedLoopPressureManagement
  else if state.profile = .stable then .stableBudgetGuard
  else .observeOnly

/-- `lane.startswith("cpu-")`. -/
def Lane.isCpu : Lane → Bool
  | .cpuPreFrame | .cpuAdmission => true
  | _ => false

/-- `lane.startswith("memory:")`. -/
def Lane.isMemory : Lane → Bool
  | .memory _ => true
  | _ => false

/-- The tick: its steps, and how many there are in each lane. -/
structure RuntimeGatewayTick where
  profile : Profile
  tickPolicy : TickPolicy
  nextFramePolicy : String
  dispatchAction : DispatchAction
  stepCount : Nat
  activeStepCount : Nat
  frameCount : Nat
  memoryLayerCount : Nat
  displayLaneStepCount : Nat
  cpuLaneStepCount : Nat
  gpuLaneStepCount : Nat
  copyQueueStepCount : Nat
  schedulerStepCount : Nat
  memoryLaneStepCount : Nat
  memoryActiveStepCount : Nat
  nextFrameBudgetMs : ℚ
  hotPathBudgetMs : ℚ
  copyQueueBudgetMs : ℚ
  preFrameWindowMs : ℚ
  memoryReliefTargetMb : ℚ
  steps : List RuntimeGatewayStep
  deriving DecidableEq, Repr

/-- How many of the steps are in a lane. -/
def countLane (steps : List RuntimeGatewayStep) (lane : Lane) : Nat :=
  steps.countP fun step => step.lane = lane

/-- The steps of a state before they are numbered. -/
def stateSteps (state : RuntimeControlState) : List RuntimeGatewayStep :=
  state.frames.flatMap frameSteps ++ state.memoryLayers.map memoryStep

/-- `build_runtime_gateway_tick`: the steps of all frames and layers, numbered from 1, and
what is counted of them. -/
def buildRuntimeGatewayTick (state : RuntimeControlState) : RuntimeGatewayTick :=
  let steps := numbered stepPayload (stateSteps state)
  { profile := state.profile
    tickPolicy := tickPolicy state
    nextFramePolicy := state.nextFramePolicy
    dispatchAction := state.dispatchAction
    stepCount := steps.length
    activeStepCount := steps.countP RuntimeGatewayStep.active
    frameCount := state.frameCount
    memoryLayerCount := state.memoryLayerCount
    displayLaneStepCount := countLane steps .displayFrame
    cpuLaneStepCount := steps.countP fun step => step.lane.isCpu
    gpuLaneStepCount := countLane steps .gpuHotPath
    copyQueueStepCount := countLane steps .copyQueue
    schedulerStepCount := countLane steps .scheduler
    memoryLaneStepCount := steps.countP fun step => step.lane.isMemory
    memoryActiveStepCount := steps.countP fun step => step.lane.isMemory && step.active
    nextFrameBudgetMs := state.nextFrameBudgetMs
    hotPathBudgetMs := state.hotPathBudgetMs
    copyQueueBudgetMs := state.copyQueueBudgetMs
    preFrameWindowMs := state.preFrameWindowMs
    memoryReliefTargetMb := state.totalExpectedMemoryReliefMb
    steps }

/-! ## The cycle -/

/-- Whether a step was applied or only observed. -/
inductive StepStatus where
  | applied | observed
  deriving DecidableEq, Repr

/-- The risks of drift. -/
inductive DriftRisk where
  | low | medium | high
  deriving DecidableEq, Repr

/-- What a cycle asks of the next one. -/
inductive CycleAction where
  | continuePressureManagement | monitorHeadroom | maintainCycle
  deriving DecidableEq, Repr

/-- What the cycle reports of a step. -/
structure RuntimeGatewayStepResult where
  sequence : Nat
  domain : Domain
  lane : Lane
  action : GatewayAction
  frame : Option ℤ
  memory : Option String
  status : StepStatus
  active : Bool
  priority : Priority
  protectedBudgetMs : ℚ
  reservedWindowMs : ℚ
  copyQueueBudgetMs : ℚ
  memoryReliefMb : ℚ
  memoryHeadroomMb : ℚ
  driftRisk : DriftRisk
  feedback : String
  deriving DecidableEq, Repr

/-- The budget that a step protects. -/
def protectedBudgetMs (step : RuntimeGatewayStep) : ℚ :=
  if step.action ∈ [GatewayAction.protectNextFrameBudget, .protectGpuHotPath] then step.budgetMs
  else 0

/-- The window that a step reserves. -/
def reservedWindowMs (step : RuntimeGatewayStep) : ℚ :=
  if step.action = .reservePreFrameWindow then step.budgetMs else 0

/-- The budget that a step gives the copy queue, blocked or not. -/
def copyQueueBudgetMs (step : RuntimeGatewayStep) : ℚ :=
  if step.lane = .copyQueue then step.budgetMs else 0

/-- The relief that a step brings. -/
def memoryReliefMb (step : RuntimeGatewayStep) : ℚ :=
  if step.action = .relieveMemoryResidency then step.budgetMb else 0

/-- The headroom that a step reserves. -/
def memoryHeadroomMb (step : RuntimeGatewayStep) : ℚ :=
  if step.action = .reserveMemoryHeadroom then step.budgetMb else 0

/-- `step_drift_risk`: only an active step carries a risk, and never a high one. -/
def stepDriftRisk (step : RuntimeGatewayStep) : DriftRisk :=
  if !step.active then .low
  else if step.action ∈ [GatewayAction.blockLateCopyQueue, .relieveMemoryResidency] then .medium
  else if step.priority = .high then .medium
  else .low

/-- `step_feedback`: the text about a step, by whether it is active and then by its action. -/
def stepFeedback (step : RuntimeGatewayStep) : String :=
  if !step.active then "Observed lane only; no runtime mutation is simulated."
  else match step.action with
    | .blockLateCopyQueue => "Late copy queue work is blocked for this simulated cycle."
    | .budgetCopyQueue => "Copy queue work is admitted inside the simulated budget."
    | .relieveMemoryResidency => "Memory residency relief is applied in the simulated cycle."
    | .reserveMemoryHeadroom => "Memory headroom is reserved for the next simulated cycle."
    | .reservePreFrameWindow => "Pre-frame work window is reserved before the hot path."
    | .protectNextFrameBudget | .protectGpuHotPath =>
      "Critical frame budget is protected in the simulated cycle."
    | _ => "Runtime mode is applied in the simulated cycle."

/-- `step_result`: a step is applied if it is active; nothing is changed by it here. -/
def stepResult (step : RuntimeGatewayStep) : RuntimeGatewayStepResult where
  sequence := step.sequence
  domain := step.domain
  lane := step.lane
  action := step.action
  frame := step.frame
  memory := step.memory
  status := if step.active then .applied else .observed
  active := step.active
  priority := step.priority
  protectedBudgetMs := protectedBudgetMs step
  reservedWindowMs := reservedWindowMs step
  copyQueueBudgetMs := copyQueueBudgetMs step
  memoryReliefMb := memoryReliefMb step
  memoryHeadroomMb := memoryHeadroomMb step
  driftRisk := stepDriftRisk step
  feedback := stepFeedback step

/-- `next_cycle_action`: relief or a blocked copy queue goes on, headroom is watched. -/
def nextCycleAction (memoryReliefMb memoryHeadroomMb : ℚ) (blockedCopyQueueCount : Nat) :
    CycleAction :=
  if memoryReliefMb > 0 ∨ blockedCopyQueueCount > 0 then .continuePressureManagement
  else if memoryHeadroomMb > 0 then .monitorHeadroom
  else .maintainCycle

/-- `cycle_drift_risk`: high where an aggressive profile needs relief and blocks copies at
once. -/
def cycleDriftRisk (profile : Profile) (memoryReliefMb memoryHeadroomMb : ℚ)
    (blockedCopyQueueCount : Nat) : DriftRisk :=
  if profile = .aggressive ∧ memoryReliefMb > 0 ∧ blockedCopyQueueCount > 0 then .high
  else if memoryReliefMb > 0 ∨ memoryHeadroomMb > 0 ∨ blockedCopyQueueCount > 0 then .medium
  else .low

/-- The report of a cycle. -/
structure RuntimeGatewayCycleReport where
  profile : Profile
  tickPolicy : TickPolicy
  nextCycleAction : CycleAction
  driftRisk : DriftRisk
  stepCount : Nat
  appliedStepCount : Nat
  observedStepCount : Nat
  frameCount : Nat
  memoryLayerCount : Nat
  highPriorityStepCount : Nat
  protectedBudgetMs : ℚ
  reservedPreFrameMs : ℚ
  copyQueueBudgetMs : ℚ
  blockedCopyQueueCount : Nat
  admissionModeCount : Nat
  schedulerModeCount : Nat
  memoryReliefAppliedMb : ℚ
  memoryHeadroomReservedMb : ℚ
  memoryObservedCount : Nat
  stepResults : List RuntimeGatewayStepResult
  deriving DecidableEq, Repr

/-- How many of the results have an action. -/
def countAction (results : List RuntimeGatewayStepResult) (action : GatewayAction) : Nat :=
  results.countP fun result => result.action = action

/-- What the results add up to in one of their values. -/
def sumResults (results : List RuntimeGatewayStepResult) (value : RuntimeGatewayStepResult → ℚ) :
    ℚ :=
  (results.map value).sum

/-- `execute_runtime_gateway_tick`: a result for each step in its order, and what is summed
over them. -/
def executeRuntimeGatewayTick (tick : RuntimeGatewayTick) : RuntimeGatewayCycleReport :=
  let results := tick.steps.map stepResult
  let memoryRelief := sumResults results RuntimeGatewayStepResult.memoryReliefMb
  let memoryHeadroom := sumResults results RuntimeGatewayStepResult.memoryHeadroomMb
  let blockedCopyCount := countAction results .blockLateCopyQueue
  { profile := tick.profile
    tickPolicy := tick.tickPolicy
    nextCycleAction := nextCycleAction memoryRelief memoryHeadroom blockedCopyCount
    driftRisk := cycleDriftRisk tick.profile memoryRelief memoryHeadroom blockedCopyCount
    stepCount := results.length
    appliedStepCount := results.countP fun result => result.status = .applied
    observedStepCount := results.countP fun result => result.status = .observed
    frameCount := tick.frameCount
    memoryLayerCount := tick.memoryLayerCount
    highPriorityStepCount := results.countP fun result => result.priority = .high
    protectedBudgetMs := sumResults results RuntimeGatewayStepResult.protectedBudgetMs
    reservedPreFrameMs := sumResults results RuntimeGatewayStepResult.reservedWindowMs
    copyQueueBudgetMs := sumResults results RuntimeGatewayStepResult.copyQueueBudgetMs
    blockedCopyQueueCount := blockedCopyCount
    admissionModeCount := countAction results .applyAdmissionMode
    schedulerModeCount := countAction results .applySchedulerMode
    memoryReliefAppliedMb := memoryRelief
    memoryHeadroomReservedMb := memoryHeadroom
    memoryObservedCount :=
      results.countP fun result => result.domain = .memory ∧ result.status = .observed
    stepResults := results }

/-! ## Totals of a cycle -/

/-- A total over the results of a cycle that does not read their numbers. -/
theorem sumResults_tick (value : RuntimeGatewayStepResult → ℚ)
    (h : ∀ i step, value (stepResult (stepPayload i step)) =
      value (stepResult (stepPayload 0 step))) (state : RuntimeControlState) :
    sumResults (executeRuntimeGatewayTick (buildRuntimeGatewayTick state)).stepResults value =
      (state.frames.map fun frame =>
        sumResults ((frameSteps frame).map fun step => stepResult (stepPayload 0 step)) value).sum +
      (state.memoryLayers.map fun layer =>
        value (stepResult (stepPayload 0 (memoryStep layer)))).sum := by
  have hsteps : ((numbered stepPayload (stateSteps state)).map stepResult).map value =
      (stateSteps state).map fun step => value (stepResult (stepPayload 0 step)) := by
    rw [List.map_map]
    exact Sequencing.map_numbered (f := value ∘ stepResult) h (stateSteps state)
  have hframes : ∀ frames : List FrameControlState,
      ((frames.flatMap frameSteps).map fun step => value (stepResult (stepPayload 0 step))).sum =
        (frames.map fun frame =>
          sumResults ((frameSteps frame).map fun step =>
            stepResult (stepPayload 0 step)) value).sum := by
    intro frames
    induction frames with
    | nil => rfl
    | cons frame frames ih =>
        rw [List.flatMap_cons, List.map_append, List.sum_append, ih, List.map_cons, List.sum_cons]
        unfold sumResults
        rw [List.map_map]
        rfl
  calc sumResults (executeRuntimeGatewayTick (buildRuntimeGatewayTick state)).stepResults value
      = (((numbered stepPayload (stateSteps state)).map stepResult).map value).sum := rfl
    _ = _ := by
        rw [hsteps]
        unfold stateSteps
        rw [List.map_append, List.sum_append, hframes, List.map_map]
        rfl

/-- Steps of frames relieve no memory layer. -/
theorem memoryReliefAppliedMb_eq (state : RuntimeControlState) :
    (executeRuntimeGatewayTick (buildRuntimeGatewayTick state)).memoryReliefAppliedMb =
      (state.memoryLayers.map fun layer =>
        memoryReliefMb (stepPayload 0 (memoryStep layer))).sum := by
  have hframe : ∀ frame : FrameControlState,
      sumResults ((frameSteps frame).map fun step => stepResult (stepPayload 0 step))
        RuntimeGatewayStepResult.memoryReliefMb = 0 := by
    intro frame
    unfold sumResults frameSteps copyQueueAction
    split_ifs <;> simp [stepResult, stepPayload, frameStep, memoryReliefMb]
  have hframes : (state.frames.map fun frame =>
      sumResults ((frameSteps frame).map fun step => stepResult (stepPayload 0 step))
        RuntimeGatewayStepResult.memoryReliefMb).sum = 0 := by
    apply List.sum_eq_zero
    intro amount hamount
    obtain ⟨frame, -, rfl⟩ := List.mem_map.mp hamount
    exact hframe frame
  have htotal := sumResults_tick RuntimeGatewayStepResult.memoryReliefMb (fun _ _ => rfl) state
  rw [hframes, zero_add] at htotal
  exact htotal

end FluidGateway.ControlLoop
