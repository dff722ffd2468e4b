import FluidGateway.RuntimeOptimizer
import FluidGateway.Lib.OrderedDict
import FluidGateway.Lib.Rounding

/-!
# Budget envelopes and their arbitration

The envelopes of `fluidgateway/budget.py` and the arbitration of
`fluidgateway/arbiter.py`, with exact rationals for the amounts.  Every command
of a packet is admitted, prestaged, deferred or dropped, against what its frame
has used before it; every memory layer at or near its budget gets an action.
-/

namespace FluidGateway.ControlLoop

open FluidGateway.Runtime (round4 roundHalfEven)

/-! ## Four decimals -/

/-- Rounding to a whole number is rounding half to even. -/
theorem roundHalfEven_eq (q : ℚ) : roundHalfEven q = Rounding.halfEven q := by
  unfold roundHalfEven Rounding.halfEven
  simp only [Int.even_iff]
  rfl

/-- A number that is rounded to four decimals is not changed by rounding it again. -/
theorem round4_round4 (q : ℚ) : round4 (round4 q) = round4 q := by
  have hinteger : round4 q * 10000 = roundHalfEven (q * 10000) := by
    unfold round4
    ring
  have hsame : roundHalfEven (round4 q * 10000) = roundHalfEven (q * 10000) := by
    rw [hinteger, roundHalfEven_eq (roundHalfEven (q * 10000) : ℚ), Rounding.halfEven_intCast]
  calc round4 (round4 q) = roundHalfEven (round4 q * 10000) / 10000 := rfl
    _ = round4 q := by rw [hsame]; rfl

/-- Rounding does not make a number negative. -/
theorem round4_nonneg {q : ℚ} (h : 0 ≤ q) : 0 ≤ round4 q := by
  have hscaled : ((0 : ℤ) : ℚ) ≤ q * 10000 := by
    rw [Int.cast_zero]
    positivity
  have hrounded := Rounding.le_halfEven hscaled
  rw [← roundHalfEven_eq] at hrounded
  unfold round4
  positivity

/-- Zero is rounded to zero. -/
@[simp] theorem round4_zero : round4 0 = 0 := by
  decide +kernel

/-! ## Envelopes -/

/-- The profiles that are told apart; any other keeps its name. -/
inductive Profile where
  | aggressive | stable
  | other (name : String)
  deriving DecidableEq, Repr

/-- The statuses of a layer against its budget. -/
inductive MemoryStatus where
  | unbounded | overBudget | nearBudget | withinBudget
  deriving DecidableEq, Repr

/-- What is recommended about a layer. -/
inductive ResidencyAction where
  | evictOrDeferResidency | reserveHeadroom | holdResidency | observeResidency
  deriving DecidableEq, Repr

/-- The envelope of a layer. -/
structure MemoryBudgetEnvelope where
  memory : String
  activeMb : ℚ
  budgetMb : Option ℚ
  headroomMb : Option ℚ
  pressureMb : ℚ
  status : MemoryStatus
  recommendation : ResidencyAction
  deriving DecidableEq, Repr

/-- The fields of a frame's envelope that arbitration and the directive read. -/
structure FrameBudgetEnvelope where
  frame : ℤ
  maxHotPathMs : ℚ
  copyQueueBudgetMs : ℚ
  preFrameWindowMs : ℚ
  deriving DecidableEq, Repr

/-- The envelopes of frames and layers under one profile. -/
structure RuntimeBudgetEnvelope where
  profile : Profile
  nextFramePolicy : String
  frames : List FrameBudgetEnvelope
  memoryLayers : List MemoryBudgetEnvelope
  deriving DecidableEq, Repr

/-- `build_memory_layer`: a layer without a budget is unbounded; otherwise by its excess,
and by the headroom that is left. -/
def buildMemoryLayer (memory : String) (activeMb : ℚ) (budgetMb : Option ℚ) :
    MemoryBudgetEnvelope :=
  match budgetMb with
  | none =>
    { memory, activeMb, budgetMb := none, headroomMb := none, pressureMb := 0,
      status := .unbounded, recommendation := .observeResidency }
  | some budget =>
    let headroom := budget - activeMb
    let pressure := max 0 (activeMb - budget)
    let (status, recommendation) :=
      if pressure > 0 then (MemoryStatus.overBudget, ResidencyAction.evictOrDeferResidency)
      else if activeMb ≥ budget * (85 / 100) then (.nearBudget, .reserveHeadroom)
      else (.withinBudget, .holdResidency)
    { memory, activeMb, budgetMb := some budget, headroomMb := some headroom,
      pressureMb := pressure, status, recommendation }

/-- `{frame.frame: frame for frame in frames}`. -/
def frameTable (frames : List FrameBudgetEnvelope) : OrderedDict ℤ FrameBudgetEnvelope :=
  frames.foldl (fun table frame => table.set frame.frame frame) .empty

/-! ## Commands of a packet -/

/-- The windows in which commands run. -/
inductive Window where
  | never | preFrame | setup | hotPath
  | other (name : String)
  deriving DecidableEq, Repr

/-- The actions of commands. -/
inductive CommandAction where
  | skipTransfer | reuseAllocation | dropSyncWait | prestageTransfer | poolAllocation
  | executeProtected | execute
  | other (name : String)
  deriving DecidableEq, Repr

/-- The phases of slots. -/
inductive SlotPhase where
  | suppress | reuse | removeSync | prefetch | pool | present | unknown
  | other (name : String)
  deriving DecidableEq, Repr

/-- The directives of routes that name what to do. -/
inductive RouteDirective where
  | suppressRedundantHop | reuseTransientAllocation | removeSyncWait
  | prestageCrossMemoryTransfer | poolTransientAllocation | protectPresentationRoute
  | other (name : String)
  deriving DecidableEq, Repr

/-- The fields of a packet's command that the later stages read. -/
structure ExecutionCommand where
  sequence : Nat
  action : CommandAction
  window : Window
  phase : SlotPhase
  operationId : String
  frame : Option ℤ
  path : String
  targetResourceId : Option String
  valueMb : ℚ
  costMs : ℚ
  expectedSavedMs : ℚ
  expectedSavedMb : ℚ
  sourceDirective : RouteDirective
  reason : String
  deriving DecidableEq, Repr

/-- The decisions of the arbiter. -/
inductive Decision where
  | dropWaste | prestageBeforeFrame | deferPreFrameOverflow | prepareBeforeHotPath
  | admitHotPath | splitOrDeferHotPath | admitCurrentPath
  | other (name : String)
  deriving DecidableEq, Repr

/-- What becomes of a command. -/
inductive CommandStatus where
  | admitted | deferred | dropped | prestaged
  deriving DecidableEq, Repr

/-- The arbitration of one command. -/
structure CommandArbitration where
  sequence : Nat
  operationId : String
  frame : Option ℤ
  window : Window
  action : CommandAction
  decision : Decision
  status : CommandStatus
  costMs : ℚ
  budgetUsedMs : ℚ
  budgetLimitMs : ℚ
  reason : String
  expectedEffect : String
  deriving DecidableEq, Repr

/-- The fields that all arbitrations take from their command. -/
def commandArbitration (command : ExecutionCommand) (decision : Decision)
    (status : CommandStatus) (used limit : ℚ) (reason expectedEffect : String) :
    CommandArbitration where
  sequence := command.sequence
  operationId := command.operationId
  frame := command.frame
  window := command.window
  action := command.action
  decision := decision
  status := status
  costMs := command.costMs
  budgetUsedMs := used
  budgetLimitMs := limit
  reason := reason
  expectedEffect := expectedEffect

/-- What the frames have used so far. -/
structure Used where
  hotPath : OrderedDict ℤ ℚ := .empty
  preFrame : OrderedDict ℤ ℚ := .empty
  deriving DecidableEq, Repr

/-- `frame or -1`: frame 0 is as good as none. -/
def frameKey (frame : Option ℤ) : ℤ :=
  match frame with
  | none => -1
  | some n => if n = 0 then -1 else n

/-- `arbitrate_command`: the window decides which of the two totals of the frame is charged;
the charge stays where the command is deferred. -/
def arbitrateCommand (command : ExecutionCommand) (envelope : Option FrameBudgetEnvelope)
    (total : Used) : CommandArbitration × Used :=
  match command.window with
  | .never =>
    (commandArbitration command .dropWaste .dropped 0 0
      "The packet already classified this work as removable."
      "Keep redundant copies, allocations, and sync waits out of the runtime path.", total)
  | .preFrame =>
    let limit := (envelope.map FrameBudgetEnvelope.preFrameWindowMs).getD command.costMs
    let used := (total.preFrame.get (frameKey command.frame)).getD 0 + command.costMs
    let total := { total with preFrame := total.preFrame.set (frameKey command.frame) used }
    if used ≤ limit then
      (commandArbitration command .prestageBeforeFrame .prestaged used limit
        "The command fits in the pre-frame window."
        "Move predictable RAM/VRAM traffic before draw-critical work.", total)
    else
      (commandArbitration command .deferPreFrameOverflow .deferred used limit
        "Pre-frame work exceeds the reserved budget window."
        "Keep the pre-frame queue from becoming the next source of stutter.", total)
  | .setup =>
    (commandArbitration command .prepareBeforeHotPath .admitted command.costMs
      ((envelope.map FrameBudgetEnvelope.maxHotPathMs).getD command.costMs)
      "Setup work should happen before protected hot-path execution."
      "Reduce allocator and preparation pressure during the frame.", total)
  | .hotPath =>
    let limit := (envelope.map FrameBudgetEnvelope.maxHotPathMs).getD command.costMs
    let used := (total.hotPath.get (frameKey command.frame)).getD 0 + command.costMs
    let total := { total with hotPath := total.hotPath.set (frameKey command.frame) used }
    if used ≤ limit then
      (commandArbitration command .admitHotPath .admitted used limit
        "Protected work still fits inside the frame budget envelope."
        "Allow required draw/present work while earlier layers suppress waste.", total)
    else
      (commandArbitration command .splitOrDeferHotPath .deferred used limit
        "Protected hot-path work exceeds the frame budget envelope."
        "Force the next runtime layer to split, simplify, cache, or move work earlier.", total)
  | .other _ =>
    (commandArbitration command .admitCurrentPath .admitted command.costMs
      ((envelope.map FrameBudgetEnvelope.maxHotPathMs).getD command.costMs)
      "No specific budget rule matched this command window."
      "Preserve work while upstream policies improve precision.", total)

/-- The loop of `build_budget_arbitration`, with the totals handed from command to command. -/
def arbitrateCommands (frames : OrderedDict ℤ FrameBudgetEnvelope) :
    Used → List ExecutionCommand → List CommandArbitration
  | _, [] => []
  | total, command :: commands =>
    let (arbitration, total) := arbitrateCommand command (command.frame.bind frames.get) total
    arbitration :: arbitrateCommands frames total commands

/-! ## Memory layers -/

/-- The decisions about layers. -/
inductive MemoryDecision where
  | evictOrDeferResidency | reserveMemoryHeadroom
  deriving DecidableEq, Repr

/-- The arbitration of one layer. -/
structure MemoryArbitration where
  memory : String
  decision : MemoryDecision
  status : MemoryStatus
  activeMb : ℚ
  budgetMb : Option ℚ
  pressureMb : ℚ
  reason : String
  expectedEffect : String
  deriving DecidableEq, Repr

/-- `arbitrate_memory_layer`: only a layer over or near its budget is given one. -/
def arbitrateMemoryLayer (layer : MemoryBudgetEnvelope) : Option MemoryArbitration :=
  match layer.status with
  | .overBudget =>
    some
      { memory := layer.memory
        decision := .evictOrDeferResidency
        status := layer.status
        activeMb := layer.activeMb
        budgetMb := layer.budgetMb
        pressureMb := layer.pressureMb
        reason := "Active residency exceeds the configured memory budget."
        expectedEffect :=
          "Reduce RAM/VRAM pressure by evicting transient resources or deferring uploads." }
  | .nearBudget =>
    some
      { memory := layer.memory
        decision := .reserveMemoryHeadroom
        status := layer.status
        activeMb := layer.activeMb
        budgetMb := layer.budgetMb
        pressureMb := layer.pressureMb
        reason := "Active residency is close to the configured budget."
        expectedEffect :=
          "Avoid late eviction pressure when the next frame allocates or uploads." }
  | .unbounded | .withinBudget => none

/-! ## The plan -/

/-- The plan: all arbitrations, with their counts and sums. -/
structure BudgetArbitrationPlan where
  profile : Profile
  nextFramePolicy : String
  commandCount : Nat
  admittedCount : Nat
  deferredCount : Nat
  droppedCount : Nat
  prestagedCount : Nat
  memoryActionCount : Nat
  admittedHotPathCostMs : ℚ
  deferredHotPathCostMs : ℚ
  prestagedCostMs : ℚ
  droppedCostMs : ℚ
  totalMemoryPressureMb : ℚ
  commands : List CommandArbitration
  memoryActions : List MemoryArbitration
  deriving DecidableEq, Repr

/-- How many of the commands have a status. -/
def countStatus (commands : List CommandArbitration) (status : CommandStatus) : Nat :=
  commands.countP fun command => command.status = status

/-- What the commands of a status cost in a window. -/
def sumCost (commands : List CommandArbitration) (status : CommandStatus) (window : Window) : ℚ :=
  ((commands.filter fun command => command.status = status ∧ command.window = window).map
    CommandArbitration.costMs).sum

/-- `build_budget_arbitration`: the commands of the packet in their order against the
envelopes of their frames, and then the layers. -/
def buildBudgetArbitration (packet : List ExecutionCommand) (envelope : RuntimeBudgetEnvelope) :
    BudgetArbitrationPlan :=
  let commands := arbitrateCommands (frameTable envelope.frames) {} packet
  let memoryActions := envelope.memoryLayers.filterMap arbitrateMemoryLayer
  { profile := envelope.profile
    nextFramePolicy := envelope.nextFramePolicy
    commandCount := commands.length
    admittedCount := countStatus commands .admitted
    deferredCount := countStatus commands .deferred
    droppedCount := countStatus commands .dropped
    prestagedCount := countStatus commands .prestaged
    memoryActionCount := memoryActions.length
    admittedHotPathCostMs := sumCost commands .admitted .hotPath
    deferredHotPathCostMs := sumCost commands .deferred .hotPath
    prestagedCostMs := sumCost commands .prestaged .preFrame
    droppedCostMs := sumCost commands .dropped .never
    totalMemoryPressureMb := (memoryActions.map MemoryArbitration.pressureMb).sum
    commands
    memoryActions }

end FluidGateway.ControlLoop
