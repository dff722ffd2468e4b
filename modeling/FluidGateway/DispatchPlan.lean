import FluidGateway.BudgetArbitration
import FluidGateway.Lib.Sequencing
import Mathlib.Data.Prod.Lex
import Mathlib.Data.String.Basic

/-!
# The dispatch plan and its execution

`fluidgateway/dispatch.py` turns an arbitration into commands for the runtime,
sorted and numbered; `fluidgateway/applier.py` says what each of them costs.
Numbering rebuilds a command from its printed form, so that its amounts come
back with four decimals (`dispatchPayload`).
-/

namespace FluidGateway.ControlLoop

open FluidGateway.Runtime (round4)
open Sequencing (sortBy numbered)

/-! ## Commands -/

/-- The phases of a dispatch. -/
inductive Phase where
  | control | memory | setup | preFrame | hotPath | nextFrame
  deriving DecidableEq, Repr

/-- `PHASE_ORDER`. -/
def Phase.order : Phase → Nat
  | .control => 0
  | .memory => 1
  | .setup => 2
  | .preFrame => 3
  | .hotPath => 4
  | .nextFrame => 5

/-- The commands of a dispatch. -/
inductive DispatchName where
  | dropOperation | prestageOperation | prepareOperation | executeOperation
  | deferOrSplitOperation | evictOrDeferResidency | reserveMemoryHeadroom | ignore
  deriving DecidableEq, Repr

/-- The text of a command; the sort of the dispatch compares it last. -/
def DispatchName.text : DispatchName → String
  | .dropOperation => "drop_operation"
  | .prestageOperation => "prestage_operation"
  | .prepareOperation => "prepare_operation"
  | .executeOperation => "execute_operation"
  | .deferOrSplitOperation => "defer_or_split_operation"
  | .evictOrDeferResidency => "evict_or_defer_residency"
  | .reserveMemoryHeadroom => "reserve_memory_headroom"
  | .ignore => "ignore"

/-- The statuses of commands. -/
inductive DispatchStatus where
  | dropped | scheduled | deferred | ignored
  deriving DecidableEq, Repr

/-- What a command comes from: the arbitration of work, or of a layer. -/
inductive SourceDecision where
  | command (decision : Decision)
  | memory (decision : MemoryDecision)
  deriving DecidableEq, Repr

/-- A command as the plan lists it. -/
@[ext]
structure DispatchCommand where
  sequence : Nat
  phaseOrder : Nat
  phase : Phase
  command : DispatchName
  status : DispatchStatus
  sourceDecision : SourceDecision
  operationId : Option String
  memory : Option String
  frame : Option ℤ
  targetResourceId : Option String
  path : Option String
  costMs : ℚ
  valueMb : ℚ
  reason : String
  expectedEffect : String
  deriving DecidableEq, Repr

/-- The branches of `dispatch_from_arbitration`: phase, command and status, by the decision. -/
def dispatchShape (arbitration : CommandArbitration) :
    Option Phase × DispatchName × DispatchStatus :=
  match arbitration.decision with
  | .dropWaste => (some .control, .dropOperation, .dropped)
  | .prestageBeforeFrame => (some .preFrame, .prestageOperation, .scheduled)
  | .prepareBeforeHotPath => (some .setup, .prepareOperation, .scheduled)
  | .admitHotPath => (some .hotPath, .executeOperation, .scheduled)
  | .splitOrDeferHotPath | .deferPreFrameOverflow =>
    (some .nextFrame, .deferOrSplitOperation, .deferred)
  | .admitCurrentPath => (some .hotPath, .executeOperation, .scheduled)
  | .other _ => (none, .ignore, .ignored)

/-- `{command.operation_id: command for command in packet.commands}`. -/
def packetByOperation (packet : List ExecutionCommand) : OrderedDict String ExecutionCommand :=
  packet.foldl (fun table command => table.set command.operationId command) .empty

/-- `dispatch_from_arbitration`: what is known of the operation is looked up in the packet
by its name. -/
def dispatchFromArbitration (packetByOperation : OrderedDict String ExecutionCommand)
    (arbitration : CommandArbitration) : Option DispatchCommand :=
  let packetCommand := packetByOperation.get arbitration.operationId
  let (phase, command, status) := dispatchShape arbitration
  phase.map fun phase =>
    { sequence := 0
      phaseOrder := phase.order
      phase
      command
      status
      sourceDecision := .command arbitration.decision
      operationId := some arbitration.operationId
      memory := none
      frame := arbitration.frame
      targetResourceId := packetCommand.bind ExecutionCommand.targetResourceId
      path := packetCommand.map ExecutionCommand.path
      costMs := arbitration.costMs
      valueMb := (packetCommand.map ExecutionCommand.valueMb).getD 0
      reason := arbitration.reason
      expectedEffect := arbitration.expectedEffect }

/-- `dispatch_from_memory`: the command for a layer, whatever frame is running. -/
def dispatchFromMemory (action : MemoryArbitration) : DispatchCommand where
  sequence := 0
  phaseOrder := Phase.memory.order
  phase := .memory
  command :=
    if action.decision = .evictOrDeferResidency then .evictOrDeferResidency
    else .reserveMemoryHeadroom
  status := .scheduled
  sourceDecision := .memory action.decision
  operationId := none
  memory := some action.memory
  frame := none
  targetResourceId := none
  path := none
  costMs := 0
  valueMb := action.pressureMb
  reason := action.reason
  expectedEffect := action.expectedEffect

/-! ## The plan -/

/-- `operation_id or memory or ""`. -/
def DispatchCommand.subject (command : DispatchCommand) : String :=
  match command.operationId with
  | some operation => if operation = "" then command.memory.getD "" else operation
  | none => command.memory.getD ""

/-- The key of the sort: by phase, then by frame, then by what the command is about. -/
def dispatchKey (command : DispatchCommand) : ℕ ×ₗ ℤ ×ₗ String ×ₗ String :=
  toLex (command.phaseOrder,
    toLex (command.frame.getD (-1), toLex (command.subject, command.command.text)))

/-- `sort_dispatch`. -/
def sortDispatch (commands : List DispatchCommand) : List DispatchCommand :=
  sortBy dispatchKey commands

/-- A command is rebuilt from its dictionary, whose amounts are rounded. -/
def dispatchPayload (sequence : Nat) (command : DispatchCommand) : DispatchCommand :=
  { command with
    sequence, costMs := round4 command.costMs, valueMb := round4 command.valueMb }

/-- The plan: its commands, and how many there are of each phase and status. -/
structure RuntimeDispatchPlan where
  profile : Profile
  nextFramePolicy : String
  commandCount : Nat
  controlCount : Nat
  memoryCount : Nat
  setupCount : Nat
  preFrameCount : Nat
  hotPathCount : Nat
  nextFrameCount : Nat
  droppedCount : Nat
  deferredCount : Nat
  totalCostMs : ℚ
  totalMemoryPressureMb : ℚ
  commands : List DispatchCommand
  deriving DecidableEq, Repr

/-- How many of the commands are in a phase. -/
def countPhase (commands : List DispatchCommand) (phase : Phase) : Nat :=
  commands.countP fun command => command.phase = phase

/-- How many of the commands have a status. -/
def countDispatchStatus (commands : List DispatchCommand) (status : DispatchStatus) : Nat :=
  commands.countP fun command => command.status = status

/-- The commands of a plan before they are sorted. -/
def dispatchCommands (arbitration : BudgetArbitrationPlan) (packet : List ExecutionCommand) :
    List DispatchCommand :=
  arbitration.commands.filterMap (dispatchFromArbitration (packetByOperation packet)) ++
    arbitration.memoryActions.map dispatchFromMemory

/-- `build_runtime_dispatch_plan`: work and layers together, sorted and numbered from 1. -/
def buildRuntimeDispatchPlan (arbitration : BudgetArbitrationPlan)
    (packet : List ExecutionCommand) : RuntimeDispatchPlan :=
  let commands := numbered dispatchPayload (sortDispatch (dispatchCommands arbitration packet))
  { profile := arbitration.profile
    nextFramePolicy := arbitration.nextFramePolicy
    commandCount := commands.length
    controlCount := countPhase commands .control
    memoryCount := countPhase commands .memory
    setupCount := countPhase commands .setup
    preFrameCount := countPhase commands .preFrame
    hotPathCount := countPhase commands .hotPath
    nextFrameCount := countPhase commands .nextFrame
    droppedCount := countDispatchStatus commands .dropped
    deferredCount := countDispatchStatus commands .deferred
    totalCostMs := (commands.map DispatchCommand.costMs).sum
    totalMemoryPressureMb :=
      ((commands.filter fun command => command.phase = .memory).map DispatchCommand.valueMb).sum
    commands }

/-! ## Execution -/

/-- What becomes of a command in the dry run. -/
inductive Outcome where
  | applied | scheduled | deferred | ignored
  deriving DecidableEq, Repr

/-- A step of the dry run. -/
structure DispatchExecutionStep where
  sequence : Nat
  phase : Phase
  command : DispatchName
  outcome : Outcome
  operationId : Option String
  memory : Option String
  frame : Option ℤ
  currentFrameCostMs : ℚ := 0
  preFrameCostMs : ℚ := 0
  avoidedCostMs : ℚ := 0
  deferredCostMs : ℚ := 0
  memoryReliefMb : ℚ := 0
  reason : String
  expectedEffect : String
  deriving DecidableEq, Repr

/-- `step`, with no cost yet. -/
def dispatchStep (command : DispatchCommand) (outcome : Outcome) : DispatchExecutionStep where
  sequence := command.sequence
  phase := command.phase
  command := command.command
  outcome := outcome
  operationId := command.operationId
  memory := command.memory
  frame := command.frame
  reason := command.reason
  expectedEffect := command.expectedEffect

/-- `execution_step`: what a command costs is booked by its name; prepared work is ignored. -/
def executionStep (command : DispatchCommand) : DispatchExecutionStep :=
  match command.command with
  | .dropOperation => { dispatchStep command .applied with avoidedCostMs := command.costMs }
  | .prestageOperation =>
    { dispatchStep command .scheduled with preFrameCostMs := command.costMs }
  | .executeOperation =>
    { dispatchStep command .applied with currentFrameCostMs := command.costMs }
  | .deferOrSplitOperation =>
    { dispatchStep command .deferred with deferredCostMs := command.costMs }
  | .evictOrDeferResidency | .reserveMemoryHeadroom =>
    { dispatchStep command .scheduled with memoryReliefMb := command.valueMb }
  | .prepareOperation | .ignore => dispatchStep command .ignored

/-- The report of the dry run, with its sums. -/
structure DispatchExecutionReport where
  profile : Profile
  nextFramePolicy : String
  stepCount : Nat
  appliedCount : Nat
  scheduledCount : Nat
  deferredCount : Nat
  removedCount : Nat
  memoryActionCount : Nat
  currentFrameCostMs : ℚ
  preFrameCostMs : ℚ
  avoidedCostMs : ℚ
  deferredCostMs : ℚ
  memoryReliefMb : ℚ
  steps : List DispatchExecutionStep
  deriving DecidableEq, Repr

/-- How many of the steps have an outcome. -/
def countOutcome (steps : List DispatchExecutionStep) (outcome : Outcome) : Nat :=
  steps.countP fun step => step.outcome = outcome

/-- How many of the steps carry out a command. -/
def countCommand (steps : List DispatchExecutionStep) (command : DispatchName) : Nat :=
  steps.countP fun step => step.command = command

/-- What the steps add up to in one of their values. -/
def sumValue (steps : List DispatchExecutionStep) (value : DispatchExecutionStep → ℚ) : ℚ :=
  (steps.map value).sum

/-- `execute_dispatch_plan`: a step for each command in its order, and what is summed over
them. -/
def executeDispatchPlan (plan : RuntimeDispatchPlan) : DispatchExecutionReport :=
  let steps := plan.commands.map executionStep
  { profile := plan.profile
    nextFramePolicy := plan.nextFramePolicy
    stepCount := steps.length
    appliedCount := countOutcome steps .applied
    scheduledCount := countOutcome steps .scheduled
    deferredCount := countOutcome steps .deferred
    removedCount := countCommand steps .dropOperation
    memoryActionCount := steps.countP fun step => step.memory.isSome
    currentFrameCostMs := sumValue steps DispatchExecutionStep.currentFrameCostMs
    preFrameCostMs := sumValue steps DispatchExecutionStep.preFrameCostMs
    avoidedCostMs := sumValue steps DispatchExecutionStep.avoidedCostMs
    deferredCostMs := sumValue steps DispatchExecutionStep.deferredCostMs
    memoryReliefMb := sumValue steps DispatchExecutionStep.memoryReliefMb
    steps }

/-! ## Relief along the plan -/

/-- What is summed over a plan is summed over its commands as they are rebuilt. -/
theorem sumValue_plan (value : DispatchExecutionStep → ℚ) (amount : DispatchCommand → ℚ)
    (h : ∀ i command, value (executionStep (dispatchPayload i command)) = amount command)
    (arbitration : BudgetArbitrationPlan) (packet : List ExecutionCommand) :
    sumValue ((buildRuntimeDispatchPlan arbitration packet).commands.map executionStep) value =
      ((dispatchCommands arbitration packet).map amount).sum := by
  unfold sumValue
  rw [List.map_map]
  have hsame := Sequencing.map_numbered (f := value ∘ executionStep) h
    (sortDispatch (dispatchCommands arbitration packet))
  exact (congrArg List.sum hsame).trans (Sequencing.sum_map_sortBy dispatchKey amount _)

/-- What a command takes off the memory layers. -/
def commandRelief (command : DispatchCommand) : ℚ :=
  match command.command with
  | .evictOrDeferResidency | .reserveMemoryHeadroom => round4 command.valueMb
  | _ => 0

/-- The relief of a step is that of its command, whatever its number. -/
theorem memoryReliefMb_executionStep (i : Nat) (command : DispatchCommand) :
    (executionStep (dispatchPayload i command)).memoryReliefMb = commandRelief command := by
  unfold executionStep commandRelief dispatchPayload
  cases command.command <;> rfl

/-- No command for an operation relieves a memory layer. -/
theorem relief_dispatchFromArbitration {table : OrderedDict String ExecutionCommand}
    {arbitration : CommandArbitration} {command : DispatchCommand}
    (h : dispatchFromArbitration table arbitration = some command) : commandRelief command = 0 := by
  unfold dispatchFromArbitration dispatchShape at h
  cases hdecision : arbitration.decision <;> simp only [hdecision, Option.map_some,
    Option.map_none, Option.some.injEq, reduceCtorEq] at h <;> subst h <;> rfl

/-- A command for a layer relieves the layer's pressure, rounded once. -/
theorem relief_dispatchFromMemory (action : MemoryArbitration) :
    commandRelief (dispatchFromMemory action) = round4 action.pressureMb := by
  unfold commandRelief dispatchFromMemory
  cases action.decision <;> rfl

/-- **Relief of an executed plan.** The relief counted along the plan is the
rounded pressure of the layers that were arbitrated, whatever the packet. -/
theorem memoryReliefMb_executeDispatchPlan (arbitration : BudgetArbitrationPlan)
    (packet : List ExecutionCommand) :
    (executeDispatchPlan (buildRuntimeDispatchPlan arbitration packet)).memoryReliefMb =
      (arbitration.memoryActions.map fun action => round4 action.pressureMb).sum := by
  have hcommands : ((arbitration.commands.filterMap
      (dispatchFromArbitration (packetByOperation packet))).map commandRelief).sum = 0 := by
    apply List.sum_eq_zero
    intro amount hamount
    obtain ⟨command, hcommand, rfl⟩ := List.mem_map.mp hamount
    obtain ⟨arbitrated, -, hdispatch⟩ := List.mem_filterMap.mp hcommand
    exact relief_dispatchFromArbitration hdispatch
  have hactions : (arbitration.memoryActions.map dispatchFromMemory).map commandRelief =
      arbitration.memoryActions.map fun action => round4 action.pressureMb := by
    rw [List.map_map]
    exact List.map_congr_left fun action _ => relief_dispatchFromMemory action
  calc (executeDispatchPlan (buildRuntimeDispatchPlan arbitration packet)).memoryReliefMb
      = ((dispatchCommands arbitration packet).map commandRelief).sum :=
        sumValue_plan _ commandRelief memoryReliefMb_executionStep arbitration packet
    _ = (arbitration.memoryActions.map fun action => round4 action.pressureMb).sum := by
        unfold dispatchCommands
        rw [List.map_append, List.sum_append, hcommands, hactions, zero_add]

end FluidGateway.ControlLoop
