import FluidGateway.LifetimePlanner

/-!
# The frame scheduler

`fluidgateway/scheduler.py`: the operations of each frame are laid out as the
transfers that the lifetime plan prefetches, the rest by type and name, and the
releases of the frame.  One counter numbers the steps of all frames.
-/

namespace FluidGateway.FramePlanning

open FluidGateway.Runtime (OperationType RuntimeOperation)
open Sequencing (groupBy sortBy)

/-! ## Steps -/

/-- What a step is made from. -/
inductive StepKind where
  | operation | lifetimeAction
  deriving DecidableEq, Repr

/-- The phases of a schedule. -/
inductive StepPhase where
  | prefetch | prepare | critical | sync | work | cleanup
  deriving DecidableEq, Repr

/-- `ScheduledStep`. -/
structure ScheduledStep where
  sequence : Nat
  kind : StepKind
  phase : StepPhase
  frame : Option ℤ
  queue : String
  operationId : Option String
  resourceId : Option String
  costMs : ℚ
  sizeMb : ℚ
  sourceAction : Option LifetimeAction
  rationale : String
  deriving DecidableEq, Repr

/-- Whether a frame is within its target. -/
inductive BudgetStatus where
  | withinBudget | overBudget
  deriving DecidableEq, Repr

/-- `FrameSchedule`. -/
structure FrameSchedule where
  frame : ℤ
  targetFrameMs : ℚ
  criticalPathBeforeMs : ℚ
  criticalPathAfterMs : ℚ
  movedTransferMs : ℚ
  movedTransferMb : ℚ
  budgetStatusBefore : BudgetStatus
  budgetStatusAfter : BudgetStatus
  stepCount : Nat
  deriving DecidableEq, Repr

/-- `SchedulerPlan`. -/
structure SchedulerPlan where
  scheduledStepCount : Nat
  estimatedCriticalPathBeforeMs : ℚ
  estimatedCriticalPathAfterMs : ℚ
  estimatedLatencyReductionMs : ℚ
  estimatedMovedTransferMb : ℚ
  frames : List FrameSchedule
  steps : List ScheduledStep
  deriving DecidableEq, Repr

/-- `order.get(operation.type, 5)`. -/
def typeOrder : OperationType → Nat
  | .sync => 0
  | .copy | .upload => 1
  | .compute => 2
  | .draw => 3
  | .present => 4
  | .allocate => 5

/-- `operation_sort_key`: by type, then by name. -/
def operationSortKey (operation : RuntimeOperation) : ℕ ×ₗ String :=
  toLex (typeOrder operation.type, operation.id)

/-- `operation_phase`, by the type of the operation. -/
def operationPhase (operation : RuntimeOperation) : StepPhase :=
  match operation.type with
  | .copy | .upload => .prepare
  | .draw | .compute | .present => .critical
  | .sync => .sync
  | .allocate => .work

/-- `budget_status`: a cost that meets the target exactly is within it. -/
def budgetStatus (costMs targetMs : ℚ) : BudgetStatus :=
  if costMs ≤ targetMs then .withinBudget else .overBudget

/-- A step gets its number when it is added to the schedule. -/
def prefetchStep (frame : ℤ) (operation : RuntimeOperation) (action : LifetimePlanAction) :
    ScheduledStep where
  sequence := 0
  kind := .operation
  phase := .prefetch
  frame := some frame
  queue := operation.queue
  operationId := some operation.id
  resourceId := operation.target
  costMs := operation.costMs
  sizeMb := operation.sizeMb
  sourceAction := some action.action
  rationale := action.rationale

/-- The step of an operation that stays in its frame. -/
def criticalStep (frame : ℤ) (operation : RuntimeOperation) : ScheduledStep where
  sequence := 0
  kind := .operation
  phase := operationPhase operation
  frame := some frame
  queue := operation.queue
  operationId := some operation.id
  resourceId := operation.target
  costMs := operation.costMs
  sizeMb := operation.sizeMb
  sourceAction := none
  rationale := "Keep operation on the frame-critical schedule."

/-- The step of a release, in the frame after which it is due. -/
def cleanupStep (frame : ℤ) (action : LifetimePlanAction) : ScheduledStep where
  sequence := 0
  kind := .lifetimeAction
  phase := .cleanup
  frame := some frame
  queue := "memory"
  operationId := action.sourceOperationId
  resourceId := some action.resourceId
  costMs := 0
  sizeMb := action.sizeMb
  sourceAction := some action.action
  rationale := action.rationale

/-! ## Tables -/

/-- What the loop over the frames looks things up in. -/
structure SchedulerTables where
  frameTargetsMs : OrderedDict ℤ ℚ
  frameCostsMs : OrderedDict ℤ ℚ
  prefetchActions : OrderedDict String LifetimePlanAction
  releaseActionsByFrame : OrderedDict ℤ (List LifetimePlanAction)
  operationsByFrame : OrderedDict ℤ (List RuntimeOperation)

/-- The operation that an action prefetches. -/
def prefetchedOperation (action : LifetimePlanAction) : Option String :=
  if action.action = .prefetchBeforeFrame then action.sourceOperationId.filter fun name => name ≠ ""
  else none

/-- The frame after which an action releases. -/
def releaseFrame (action : LifetimePlanAction) : Option ℤ :=
  if action.action = .releaseAfterFrame then action.targetFrame else none

/-- The first loop of `simulate_scheduler`: of two prefetches of one operation the later one
stays. -/
def prefetchTable (actions : List LifetimePlanAction) : OrderedDict String LifetimePlanAction :=
  actions.foldl
    (fun table action => match prefetchedOperation action with
      | some name => table.set name action
      | none => table)
    .empty

/-- The tables that `simulate_scheduler` looks things up in. -/
def schedulerTables (operations : List RuntimeOperation) (frameTargetsMs frameCostsMs :
    OrderedDict ℤ ℚ) (lifetimePlan : ResourceLifetimePlan) : SchedulerTables where
  frameTargetsMs := frameTargetsMs
  frameCostsMs := frameCostsMs
  prefetchActions := prefetchTable lifetimePlan.actions
  releaseActionsByFrame := groupBy releaseFrame lifetimePlan.actions
  operationsByFrame := groupBy RuntimeOperation.frame operations

/-- `sorted(set(frame_targets_ms) | set(frame_costs_ms) | set(operations_by_frame))`. -/
def SchedulerTables.frameIds (tables : SchedulerTables) : List ℤ :=
  sortBy id (tables.frameTargetsMs.keys ++ tables.frameCostsMs.keys ++
    tables.operationsByFrame.keys).dedup

/-! ## The loop over the frames -/

/-- What the loop over frames carries: frames and steps so far, and the next number. -/
structure SchedulerState where
  frames : List FrameSchedule
  steps : List ScheduledStep
  sequence : Nat

/-- A step is added under the next number. -/
def SchedulerState.addStep (state : SchedulerState) (step : ScheduledStep) : SchedulerState :=
  { state with
    steps := state.steps ++ [{ step with sequence := state.sequence }]
    sequence := state.sequence + 1 }

namespace SchedulerTables

variable (tables : SchedulerTables)

/-- The operations of a frame, in the order in which they came. -/
def frameOperations (frame : ℤ) : List RuntimeOperation :=
  (tables.operationsByFrame.get frame).getD []

/-- The operations of a frame that are prefetched. -/
def movedOperations (frame : ℤ) : List RuntimeOperation :=
  (tables.frameOperations frame).filter fun operation =>
    tables.prefetchActions.contains operation.id

/-- The operations of a frame that are not. -/
def criticalOperations (frame : ℤ) : List RuntimeOperation :=
  (tables.frameOperations frame).filter fun operation =>
    !tables.prefetchActions.contains operation.id

/-- The releases that are due after a frame. -/
def releaseActions (frame : ℤ) : List LifetimePlanAction :=
  (tables.releaseActionsByFrame.get frame).getD []

/-- A moved operation has its action. -/
def addPrefetch (frame : ℤ) (state : SchedulerState) (operation : RuntimeOperation) :
    SchedulerState :=
  match tables.prefetchActions.get operation.id with
  | some action => state.addStep (prefetchStep frame operation action)
  | none => state

/-- The three inner loops: prefetches by name, then the critical path, then releases with
the strongest first. -/
def addFrameSteps (frame : ℤ) (state : SchedulerState) : SchedulerState :=
  let state := (sortBy RuntimeOperation.id (tables.movedOperations frame)).foldl
    (tables.addPrefetch frame) state
  let state := (sortBy operationSortKey (tables.criticalOperations frame)).foldl
    (fun state operation => state.addStep (criticalStep frame operation)) state
  (sortBy (fun action => (toLex (-action.priority, action.resourceId) : ℤ ×ₗ String))
      (tables.releaseActions frame)).foldl
    (fun state action => state.addStep (cleanupStep frame action)) state

/-- What is reported of a frame: its cost before and after what is moved out of it. -/
def frameSchedule (frame : ℤ) (stepCount : Nat) : FrameSchedule :=
  let targetMs := (tables.frameTargetsMs.get frame).getD (1667 / 100)
  let beforeMs := (tables.frameCostsMs.get frame).getD
    ((tables.frameOperations frame).map RuntimeOperation.costMs).sum
  let movedTransferMs := ((tables.movedOperations frame).map RuntimeOperation.costMs).sum
  let afterMs := max 0 (beforeMs - movedTransferMs)
  { frame
    targetFrameMs := targetMs
    criticalPathBeforeMs := beforeMs
    criticalPathAfterMs := afterMs
    movedTransferMs
    movedTransferMb := ((tables.movedOperations frame).map RuntimeOperation.sizeMb).sum
    budgetStatusBefore := budgetStatus beforeMs targetMs
    budgetStatusAfter := budgetStatus afterMs targetMs
    stepCount }

/-- One turn of the loop over frames. -/
def scheduleFrame (state : SchedulerState) (frame : ℤ) : SchedulerState :=
  let state := tables.addFrameSteps frame state
  let stepCount := state.steps.countP fun step => step.frame = some frame
  { state with frames := state.frames ++ [tables.frameSchedule frame stepCount] }

/-- The loop over frames, in increasing order. -/
def run : SchedulerState :=
  tables.frameIds.foldl tables.scheduleFrame { frames := [], steps := [], sequence := 1 }

end SchedulerTables

/-- `simulate_scheduler`: the steps and frames of the loop, with the totals over its frames. -/
def simulateScheduler (operations : List RuntimeOperation) (frameTargetsMs frameCostsMs :
    OrderedDict ℤ ℚ) (lifetimePlan : ResourceLifetimePlan) : SchedulerPlan :=
  let state := (schedulerTables operations frameTargetsMs frameCostsMs lifetimePlan).run
  let beforeTotal := (state.frames.map FrameSchedule.criticalPathBeforeMs).sum
  let afterTotal := (state.frames.map FrameSchedule.criticalPathAfterMs).sum
  { scheduledStepCount := state.steps.length
    estimatedCriticalPathBeforeMs := beforeTotal
    estimatedCriticalPathAfterMs := afterTotal
    estimatedLatencyReductionMs := max 0 (beforeTotal - afterTotal)
    estimatedMovedTransferMb := (state.frames.map FrameSchedule.movedTransferMb).sum
    frames := state.frames
    steps := state.steps }

end FluidGateway.FramePlanning
