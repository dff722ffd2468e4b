import FluidGateway.EventPayloads
import FluidGateway.Lib.OrderedDict

/-!
# The advisory parts of a session

The policy engine of `fluidgateway/policy.py`, the lifetime planner of
`lifetime.py`, the live commands of `live.py`, the snapshot of `state.py` and
the governor of `governor.py`.  Actions and directives are kept with what tells
them apart; the titles, rationales and formatted evidence that go with them are
only reported.
-/

namespace FluidGateway.Adapter

open FluidGateway.Runtime

/-- `DEFAULT_FRAME_BUDGET_MS`, 16.67. -/
def defaultFrameBudgetMs : ℚ := 1667 / 100

/-! ## Policy -/

/-- The identifiers of policy actions; the budget of a layer carries its layer in the name. -/
inductive PolicyActionId where
  | lateUploadPressure
  | frameBudgetPressure
  | queueImbalancePressure
  | budgetPressure (memory : MemoryLayer)
  deriving DecidableEq, Repr

/-- The severities of policy actions that this engine emits. -/
inductive Severity where
  | medium | high
  deriving DecidableEq, Repr

/-- What a session keeps of a `RuntimePolicyAction`; the texts that explain it are read by
nothing here. -/
structure RuntimePolicyAction where
  id : PolicyActionId
  severity : Severity
  frame : Option ℤ
  deriving DecidableEq, Repr

/-- What an action is about, next to its frame: a layer, a queue, an operation
or the budget of a frame. -/
inductive PolicyKey where
  | memory (memory : MemoryLayer)
  | queue (queue : String)
  | operation (id : String)
  | frameBudget
  deriving DecidableEq, Repr

/-- `RuntimePolicyEngine`: the budgets, the active resources with their totals, and what has
been emitted. -/
structure RuntimePolicyEngine where
  targetFrameMs : ℚ := defaultFrameBudgetMs
  memoryBudgetsMb : OrderedDict MemoryLayer ℚ := .empty
  activeResources : OrderedDict String RuntimeResource := .empty
  memoryTotalsMb : OrderedDict MemoryLayer ℚ := .empty
  actions : List RuntimePolicyAction := []
  emitted : List (PolicyActionId × Option ℤ × PolicyKey) := []
  deriving DecidableEq, Repr

/-- The layers that a payload may give a budget, by their names. -/
def budgetLayers : List (String × MemoryLayer) :=
  [("ram", .ram), ("vram", .vram), ("shared", .shared), ("staging", .staging),
    ("swapchain", .swapchain)]

/-- The keys under which a payload may give the budget of a frame, the first one that holds
a number wins. -/
def budgetKeys : List String := ["target_frame_ms", "frame_budget_ms", "budget_ms"]

/-- `first or second` of optional numbers. -/
def numberOr (first second : Option ℚ) : Option ℚ :=
  if first.getD 0 = 0 then second else first

namespace RuntimePolicyEngine

/-- Set the budgets that a reading of each layer's name yields. -/
def setBudgets (engine : RuntimePolicyEngine) (read : String → Option ℚ) : RuntimePolicyEngine :=
  { engine with
    memoryBudgetsMb := budgetLayers.foldl (fun budgets layer =>
      match read layer.1 with
      | some value => budgets.set layer.2 value
      | none => budgets) engine.memoryBudgetsMb }

/-- `configure`: the entries of `budgets` are read first, the keys of the payload itself
after them. -/
def configure (builtins : Builtins) (engine : RuntimePolicyEngine) (payload : Payload) :
    RuntimePolicyEngine :=
  let target := firstNumber builtins payload budgetKeys
  let (target, engine) := match get payload "budgets" with
    | .dict budgets =>
      (numberOr target (numberValue builtins (get budgets "frame_ms")),
        engine.setBudgets fun layer => numberValue builtins (get budgets (layer ++ "_mb")))
    | _ => (target, engine)
  let engine := { engine with targetFrameMs := target.getD engine.targetFrameMs }
  engine.setBudgets fun layer =>
    firstNumber builtins payload [layer ++ "_budget_mb", layer ++ "_mb"]

/-- `frame_budget_from`: the budget that a payload gives, or else the engine's own. -/
def frameBudgetFrom (builtins : Builtins) (engine : RuntimePolicyEngine) (payload : Payload) : ℚ :=
  (numberOr (firstNumber builtins payload budgetKeys) (some engine.targetFrameMs)).getD 0

/-- `_recalculate_memory_totals`, from the active resources. -/
def recalculateMemoryTotals (engine : RuntimePolicyEngine) : RuntimePolicyEngine :=
  { engine with
    memoryTotalsMb := engine.activeResources.values.foldl (fun totals resource =>
      totals.set resource.memory ((totals.get resource.memory).getD 0 + resource.sizeMb)) .empty }

/-- `_emit_once`. -/
def emitOnce (engine : RuntimePolicyEngine) (action : RuntimePolicyAction) (key : PolicyKey) :
    List RuntimePolicyAction × RuntimePolicyEngine :=
  let dedupeKey := (action.id, action.frame, key)
  if dedupeKey ∈ engine.emitted then ([], engine)
  else
    ([action], { engine with
      emitted := dedupeKey :: engine.emitted
      actions := engine.actions ++ [action] })

/-- `_check_memory_budget`: an action once a layer is over its budget, of high severity from
a quarter more. -/
def checkMemoryBudget (engine : RuntimePolicyEngine) (memory : MemoryLayer) (frame : Option ℤ) :
    List RuntimePolicyAction × RuntimePolicyEngine :=
  let total := (engine.memoryTotalsMb.get memory).getD 0
  match engine.memoryBudgetsMb.get memory with
  | none => ([], engine)
  | some budget =>
    if total ≤ budget then ([], engine)
    else
      let severity := if total ≥ budget * (5 / 4) then Severity.high else .medium
      engine.emitOnce { id := .budgetPressure memory, severity, frame } (.memory memory)

/-- `register_resource`: the total of the resource's layer is checked at once. -/
def registerResource (engine : RuntimePolicyEngine) (resource : RuntimeResource)
    (frame : Option ℤ) : List RuntimePolicyAction × RuntimePolicyEngine :=
  let engine := { engine with activeResources := engine.activeResources.set resource.id resource }
  engine.recalculateMemoryTotals.checkMemoryBudget resource.memory frame

/-- `release_resource`: nothing is checked, since a release only lowers a total. -/
def releaseResource (engine : RuntimePolicyEngine) (resourceId : String) : RuntimePolicyEngine :=
  { engine with
    activeResources := engine.activeResources.pop resourceId }.recalculateMemoryTotals

/-- `record_operation`: an executed transfer that takes a fifth of the frame, or a
millisecond, is a late upload. -/
def recordOperation (engine : RuntimePolicyEngine) (result : ControllerResult)
    (frame : Option ℤ) (targetFrameMs : ℚ) : List RuntimePolicyAction × RuntimePolicyEngine :=
  let operation := result.operation
  if result.executed = false ∨ operation.type.transfers = false then ([], engine)
  else if operation.costMs < max 1 (targetFrameMs * (1 / 5)) then ([], engine)
  else
    let severity := if operation.costMs ≥ targetFrameMs * (1 / 2) then Severity.high else .medium
    engine.emitOnce { id := .lateUploadPressure, severity, frame } (.operation operation.id)

/-- The first of the queues with the highest cost. -/
def busiestQueue (queueCosts : OrderedDict String ℚ) : Option (String × ℚ) :=
  queueCosts.items.foldl (fun busiest item =>
    match busiest with
    | some found => if item.2 > found.2 then some item else some found
    | none => some item) none

/-- `finish_frame`: first the budget of the frame, then the balance of its queues. -/
def finishFrame (engine : RuntimePolicyEngine) (frame : ℤ) (targetFrameMs totalCostMs : ℚ)
    (queueCosts : OrderedDict String ℚ) : List RuntimePolicyAction × RuntimePolicyEngine :=
  let (budgetActions, engine) :=
    if totalCostMs > targetFrameMs then
      let severity := if totalCostMs ≥ targetFrameMs * (3 / 2) then Severity.high else .medium
      engine.emitOnce { id := .frameBudgetPressure, severity, frame := some frame } .frameBudget
    else ([], engine)
  match busiestQueue queueCosts with
  | none => (budgetActions, engine)
  | some (queue, cost) =>
    if cost > targetFrameMs * (3 / 4) ∧ queueCosts.size > 1 then
      let (queueActions, engine) := engine.emitOnce
        { id := .queueImbalancePressure, severity := .medium, frame := some frame } (.queue queue)
      (budgetActions ++ queueActions, engine)
    else (budgetActions, engine)

end RuntimePolicyEngine

/-! ## Lifetimes -/

/-- The actions of a lifetime plan. -/
inductive LifetimeActionKind where
  | keepResident | releaseAfterFrame | prefetchBeforeFrame | deferUpload
  deriving DecidableEq, Repr

/-- What a session keeps of a `LifetimePlanAction`. -/
structure LifetimePlanAction where
  action : LifetimeActionKind
  resourceId : String
  targetFrame : Option ℤ
  /-- `none` stands for `"unknown"`. -/
  memory : Option MemoryLayer
  sizeMb : ℚ
  priority : Nat
  sourceOperationId : Option String := none
  deriving DecidableEq, Repr

/-- `ResourceLifetimePlanner`, as far as a session reads it. -/
structure ResourceLifetimePlanner where
  resources : OrderedDict String RuntimeResource := .empty
  firstUseFrame : OrderedDict String ℤ := .empty
  lastUseFrame : OrderedDict String ℤ := .empty
  releasedResources : OrderedDict String RuntimeResource := .empty
  transferOperations : List RuntimeOperation := []
  actions : List LifetimePlanAction := []
  deriving DecidableEq, Repr

namespace ResourceLifetimePlanner

/-- `_record_use`: the first call sets the first frame, every call sets the last. -/
def recordUse (planner : ResourceLifetimePlanner) (resourceId : String) (frame : ℤ) :
    ResourceLifetimePlanner :=
  { planner with
    firstUseFrame := if planner.firstUseFrame.contains resourceId then planner.firstUseFrame
      else planner.firstUseFrame.set resourceId frame
    lastUseFrame := planner.lastUseFrame.set resourceId frame }

/-- `register_resource`: a resource that is registered within a frame is used in that frame. -/
def registerResource (planner : ResourceLifetimePlanner) (resource : RuntimeResource)
    (frame : Option ℤ) : ResourceLifetimePlanner :=
  let planner := { planner with resources := planner.resources.set resource.id resource }
  match frame with
  | some frame => planner.recordUse resource.id frame
  | none => planner

/-- `release_resource`, of a resource that was known. -/
def releaseResource (planner : ResourceLifetimePlanner) (resource : RuntimeResource)
    (resourceId : String) : ResourceLifetimePlanner :=
  { planner with releasedResources := planner.releasedResources.set resourceId resource }

/-- `record_operation`: the source and the target of an executed operation are used in its
frame, and a transfer is kept for the plan. -/
def recordOperation (planner : ResourceLifetimePlanner) (operation : RuntimeOperation)
    (executed : Bool) : ResourceLifetimePlanner :=
  if executed = false then planner
  else
    let planner := match operation.frame with
      | some frame => (operation.source.toList ++ operation.target.toList).foldl
        (fun planner id => if id = "" then planner else planner.recordUse id frame) planner
      | none => planner
    if operation.type.transfers then
      { planner with transferOperations := planner.transferOperations ++ [operation] }
    else planner

/-- `_add_action`: once for its kind, resource and operation. -/
def addAction (actions : List LifetimePlanAction) (action : LifetimePlanAction) :
    List LifetimePlanAction :=
  if actions.any fun other => other.action = action.action ∧
      other.resourceId = action.resourceId ∧
      other.sourceOperationId = action.sourceOperationId then actions
  else actions ++ [action]

/-- The actions that `finalize` makes for a resource. -/
def resourceActions (planner : ResourceLifetimePlanner) (resource : RuntimeResource) :
    List LifetimePlanAction :=
  let firstFrame := planner.firstUseFrame.get resource.id
  let resident :=
    if resource.memory = .vram ∧ (resource.kind = .texture ∨ resource.kind = .buffer) ∧
        (resource.lifetime = "frame" ∨ resource.lifetime = "transient") ∧ firstFrame ≠ none then
      [{ action := .keepResident
         resourceId := resource.id
         targetFrame := firstFrame
         memory := some resource.memory
         sizeMb := resource.sizeMb
         priority := if resource.kind = .texture then 85 else 70 }]
    else []
  let released :=
    if resource.lifetime = "transient" then
      [{ action := .releaseAfterFrame
         resourceId := resource.id
         targetFrame := planner.lastUseFrame.get resource.id
         memory := some resource.memory
         sizeMb := resource.sizeMb
         priority := 80 }]
    else []
  resident ++ released

/-- The actions that `finalize` makes for a transfer. -/
def transferActions (planner : ResourceLifetimePlanner) (operation : RuntimeOperation) :
    List LifetimePlanAction :=
  if operation.frame ≠ none ∧ (operation.costMs ≥ 1 ∨ operation.sizeMb ≥ 16) then
    let action : LifetimePlanAction := {
      action := .prefetchBeforeFrame
      resourceId := operation.id
      targetFrame := operation.frame
      memory := (planner.resources.get (operation.target.getD "")).map RuntimeResource.memory
      sizeMb := operation.sizeMb
      priority := if operation.costMs ≥ 4 then 90 else 75
      sourceOperationId := some operation.id }
    [action, { action with action := .deferUpload, priority := 65 }]
  else []

/-- `finalize`; the plan it returns lists the actions by priority. -/
def finalize (planner : ResourceLifetimePlanner) : ResourceLifetimePlanner :=
  let fromResources := planner.resources.values.flatMap planner.resourceActions
  let fromTransfers := planner.transferOperations.flatMap planner.transferActions
  { planner with actions := (fromResources ++ fromTransfers).foldl addAction planner.actions }

end ResourceLifetimePlanner

/-! ## Live commands -/

/-- What a live command asks for. -/
inductive LiveAction where
  | reuse | defer | prefetchNow | executeNow
  deriving DecidableEq, Repr

/-- What a session keeps of a live command. -/
structure LiveCommand where
  action : LiveAction
  operationId : String
  frame : Option ℤ
  queue : String
  resourceId : Option String
  deriving DecidableEq, Repr

/-- `is_heavy_transfer`: a fifth of the frame, at least a millisecond, or 16 megabytes. -/
def isHeavyTransfer (costMs sizeMb targetFrameMs : ℚ) : Bool :=
  costMs ≥ max 1 (targetFrameMs * (1 / 5)) || sizeMb ≥ 16

/-- `build_live_command`: a decision of the optimizer comes first, then whether the transfer
is heavy. -/
def buildLiveCommand (result : ControllerResult) (targetFrameMs : ℚ) : LiveCommand :=
  let operation := result.operation
  let action := match result.decision with
    | some decision => match decision.action with
      | .reuse => .reuse
      | .remove => .defer
    | none =>
      if operation.type.transfers &&
          isHeavyTransfer operation.costMs operation.sizeMb targetFrameMs then .prefetchNow
      else .executeNow
  { action
    operationId := operation.id
    frame := operation.frame
    queue := operation.queue
    resourceId := operation.target }

/-! ## Frames and snapshots -/

/-- `AdapterFrameStats`: what a session counts for a frame. -/
structure AdapterFrameStats where
  frame : ℤ
  targetFrameMs : ℚ := defaultFrameBudgetMs
  beginEventIndex : Option Nat := none
  endEventIndex : Option Nat := none
  operationCount : Nat := 0
  decisionCount : Nat := 0
  policyActionCount : Nat := 0
  policyActionIds : List PolicyActionId := []
  estimatedTotalCostMs : ℚ := 0
  estimatedSavedMs : ℚ := 0
  estimatedSavedMb : ℚ := 0
  transferMb : ℚ := 0
  queueCosts : OrderedDict String ℚ := .empty
  deriving DecidableEq, Repr

/-- What the governor reads of a snapshot. -/
structure LiveStateSnapshot where
  sessionId : String
  currentFrame : Option ℤ
  openFrame : Bool
  framesObserved : Nat
  eventsProcessed : Nat
  operationEvents : Nat
  resourceEvents : Nat
  activeResourceCount : Nat
  memoryTotalsMb : OrderedDict MemoryLayer ℚ
  memoryBudgetsMb : OrderedDict MemoryLayer ℚ
  queueCostsMs : OrderedDict String ℚ
  decisionsCount : Nat
  policyActionCount : Nat
  liveCommandCount : Nat
  estimatedTotalCostMsCurrentFrame : ℚ
  transferMbCurrentFrame : ℚ
  deriving DecidableEq, Repr

/-! ## The governor -/

/-- What a directive of the governor asks for. -/
inductive DirectiveAction where
  | prefetchBeforeCriticalPath | drainCopyQueueBeforeDraw | protectFrameBudget
  | reduceMemoryResidency
  deriving DecidableEq, Repr

/-- The resource of a directive: one of an operation, or a memory layer. -/
inductive DirectiveResource where
  | resource (id : Option String)
  | memory (memory : MemoryLayer)
  deriving DecidableEq, Repr

/-- What a session keeps of a directive. -/
structure GovernorDirective where
  action : DirectiveAction
  priority : Nat
  frame : Option ℤ
  queue : String
  operationId : Option String
  resourceId : DirectiveResource
  deriving DecidableEq, Repr

/-- What a directive is about, besides its action and frame. -/
inductive DirectiveKey where
  | text (name : String)
  | memory (memory : MemoryLayer)
  deriving DecidableEq, Repr

/-- The third part of a directive's key: what the directive is about, next to its action and
its frame. -/
def GovernorDirective.identity (directive : GovernorDirective) : DirectiveKey :=
  match directive.action, directive.resourceId with
  | .prefetchBeforeCriticalPath, .resource id =>
    .text (orElse (orElse (directive.operationId.getD "") (id.getD "")) directive.queue)
  | .reduceMemoryResidency, .memory memory => .memory memory
  | _, _ => .text directive.queue

/-- `LivePolicyGovernor`: the keys of the directives that it has given. -/
structure LivePolicyGovernor where
  emitted : List (DirectiveAction × Option ℤ × DirectiveKey) := []
  deriving DecidableEq, Repr

namespace LivePolicyGovernor

/-- `_mark_emitted`: whether the directive is new, and the governor that remembers it. -/
def markEmitted (governor : LivePolicyGovernor) (directive : GovernorDirective) :
    Bool × LivePolicyGovernor :=
  let key := (directive.action, directive.frame, directive.identity)
  if key ∈ governor.emitted then (false, governor)
  else (true, { emitted := key :: governor.emitted })

/-- The directives that the snapshot calls for. -/
def directives (snapshot : LiveStateSnapshot) (targetFrameMs : ℚ)
    (memoryBudgetsMb : OrderedDict MemoryLayer ℚ) (liveCommand : Option LiveCommand) :
    List GovernorDirective :=
  let targetMs := if targetFrameMs = 0 then defaultFrameBudgetMs else targetFrameMs
  let operationId := liveCommand.map LiveCommand.operationId
  let resourceId := DirectiveResource.resource (liveCommand.bind LiveCommand.resourceId)
  let prefetch := match liveCommand with
    | some command =>
      if snapshot.openFrame ∧ command.action = .prefetchNow then
        [{ action := .prefetchBeforeCriticalPath
           priority := 90
           frame := command.frame
           queue := command.queue
           operationId, resourceId }]
      else []
    | none => []
  let drain :=
    if snapshot.openFrame ∧
        (snapshot.queueCostsMs.get "copy").getD 0 ≥ max 1 (targetMs * (1 / 4)) then
      [{ action := .drainCopyQueueBeforeDraw
         priority := 85
         frame := snapshot.currentFrame
         queue := "copy"
         operationId, resourceId }]
    else []
  let protect :=
    if snapshot.openFrame ∧
        snapshot.estimatedTotalCostMsCurrentFrame ≥ targetMs * (9 / 10) then
      [{ action := .protectFrameBudget
         priority := 80
         frame := snapshot.currentFrame
         queue := "frame"
         operationId, resourceId }]
    else []
  let reduce := snapshot.memoryTotalsMb.items.flatMap fun item =>
    match memoryBudgetsMb.get item.1 with
    | some budget =>
      if item.2 ≤ budget then []
      else
        [{ action := .reduceMemoryResidency
           priority := 88
           frame := snapshot.currentFrame
           queue := "memory"
           operationId := none
           resourceId := .memory item.1 }]
    | none => []
  prefetch ++ drain ++ protect ++ reduce

/-- `evaluate`: the directives that were not given before. -/
def evaluate (governor : LivePolicyGovernor) (snapshot : LiveStateSnapshot) (targetFrameMs : ℚ)
    (memoryBudgetsMb : OrderedDict MemoryLayer ℚ) (liveCommand : Option LiveCommand) :
    List GovernorDirective × LivePolicyGovernor :=
  (directives snapshot targetFrameMs memoryBudgetsMb liveCommand).foldl
    (fun (given, governor) directive =>
      let (fresh, governor) := governor.markEmitted directive
      (if fresh then given ++ [directive] else given, governor))
    ([], governor)

end LivePolicyGovernor

end FluidGateway.Adapter
