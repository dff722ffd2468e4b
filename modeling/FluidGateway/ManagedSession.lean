import FluidGateway.SessionPolicy

/-!
# The managed session

The session of `fluidgateway/adapter.py` with everything it keeps: the
controller, the statistics of its frames, the policy engine, the lifetime
planner, the governor, and what it has issued so far.  The gate, the admission
and the efficiency of an operation are those of `gate.py`, `admission.py` and
`efficiency.py`.

The plans that an ended session reports are left out; they are computed from
what is kept here.
-/

namespace FluidGateway.Adapter

open FluidGateway.Runtime (Casing FluidGatewayController ControllerResult RuntimeResource
  RuntimeOperation RuntimeDecision OperationType LifecycleAction orElse)

/-! ## The gate of an operation -/

/-- What the gate says of an operation. -/
inductive GateAction where
  | reuseExistingResource | deferRedundantWork | holdNoncriticalWork | prestageBeforeDraw
  | executeNow
  deriving DecidableEq, Repr

/-- What a session keeps of a gate's decision. -/
structure ExecutionGateDecision where
  action : GateAction
  operationId : String
  frame : Option ℤ
  queue : String
  resourceId : Option String
  shouldExecute : Bool
  preferredPhase : String
  sourceDirectives : List DirectiveAction
  deriving DecidableEq, Repr

/-- The operations that are never held back. -/
def critical : OperationType → Bool
  | .draw | .compute | .present => true
  | _ => false

/-- `should_hold_noncritical_work`: in an open frame, from nine tenths of its target on. -/
def shouldHoldNoncriticalWork (operationType : OperationType) (snapshot : LiveStateSnapshot)
    (targetFrameMs : ℚ) : Bool :=
  !critical operationType && snapshot.openFrame &&
    decide (snapshot.estimatedTotalCostMsCurrentFrame ≥ targetFrameMs * (9 / 10))

/-- `build_execution_gate`: the live command decides first, then the pressure on the frame,
then the directives. -/
def buildExecutionGate (result : ControllerResult) (liveCommand : LiveCommand)
    (directives : List GovernorDirective) (snapshot : LiveStateSnapshot) (targetFrameMs : ℚ) :
    ExecutionGateDecision :=
  let operation := result.operation
  let actions := directives.map GovernorDirective.action
  let gate (action : GateAction) (shouldExecute : Bool) (preferredPhase : String) :
      ExecutionGateDecision := {
    action
    operationId := operation.id
    frame := operation.frame
    queue := operation.queue
    resourceId := operation.target
    shouldExecute, preferredPhase
    sourceDirectives := actions }
  if liveCommand.action = .reuse then gate .reuseExistingResource false "reuse"
  else if liveCommand.action = .defer then gate .deferRedundantWork false "deferred"
  else if shouldHoldNoncriticalWork operation.type snapshot targetFrameMs then
    gate .holdNoncriticalWork false "next-frame"
  else if liveCommand.action = .prefetchNow ∨ .prefetchBeforeCriticalPath ∈ actions then
    gate .prestageBeforeDraw true "prefetch"
  else gate .executeNow true (if critical operation.type then "critical" else "current-frame")

/-! ## Admission and efficiency -/

/-- What admission says of an operation. -/
inductive AdmissionAction where
  | admitPrefetch | rejectRedundant | reuseExisting | holdNextFrame | admitNow
  deriving DecidableEq, Repr

/-- What an operation contributes to its frame. -/
inductive Contribution where
  | prestaged | avoided | reused | held | hotPath
  deriving DecidableEq, Repr

/-- What a session keeps of an admission. -/
structure AdmissionDecision where
  action : AdmissionAction
  operationId : String
  frame : Option ℤ
  queue : String
  resourceId : Option String
  phase : String
  admitted : Bool
  contribution : Contribution
  costMs : ℚ
  sizeMb : ℚ
  deriving DecidableEq, Repr

/-- `transfer_size`: the size counts for operations that move or take memory. -/
def transferSize (operationType : OperationType) (sizeMb : ℚ) : ℚ :=
  match operationType with
  | .copy | .upload | .allocate => sizeMb
  | _ => 0

/-- `build_admission_decision`, by the action of the gate. -/
def buildAdmissionDecision (operation : RuntimeOperation) (gate : ExecutionGateDecision) :
    AdmissionDecision :=
  let decision (action : AdmissionAction) (phase : String) (admitted : Bool)
      (contribution : Contribution) (sizeMb : ℚ) : AdmissionDecision := {
    action
    operationId := operation.id
    frame := operation.frame
    queue := operation.queue
    resourceId := operation.target
    phase, admitted, contribution
    costMs := operation.costMs
    sizeMb }
  let moved := transferSize operation.type operation.sizeMb
  match gate.action with
  | .prestageBeforeDraw => decision .admitPrefetch "prefetch" true .prestaged moved
  | .deferRedundantWork => decision .rejectRedundant "deferred" false .avoided operation.sizeMb
  | .reuseExistingResource => decision .reuseExisting "reuse" false .reused operation.sizeMb
  | .holdNoncriticalWork => decision .holdNextFrame "next-frame" false .held moved
  | .executeNow => decision .admitNow gate.preferredPhase true .hotPath 0

/-- The impacts on efficiency. -/
inductive Impact where
  | shiftedOffHotPath | avoidedWaste | heldOutOfHotFrame | hotPathWork
  deriving DecidableEq, Repr

/-- What a session keeps of an impact. -/
structure EfficiencyImpact where
  operationId : String
  frame : Option ℤ
  impact : Impact
  reliefCostMs : ℚ
  reliefTransferMb : ℚ
  hotPathCostMs : ℚ
  deriving DecidableEq, Repr

/-- `build_efficiency_impact`: only what runs in the hot path costs there, everything else
is relief. -/
def buildEfficiencyImpact (decision : AdmissionDecision) : EfficiencyImpact :=
  let relief (impact : Impact) : EfficiencyImpact := {
    operationId := decision.operationId
    frame := decision.frame
    impact
    reliefCostMs := decision.costMs
    reliefTransferMb := decision.sizeMb
    hotPathCostMs := 0 }
  match decision.contribution with
  | .prestaged => relief .shiftedOffHotPath
  | .avoided | .reused => relief .avoidedWaste
  | .held => relief .heldOutOfHotFrame
  | .hotPath => {
      operationId := decision.operationId
      frame := decision.frame
      impact := .hotPathWork
      reliefCostMs := 0
      reliefTransferMb := 0
      hotPathCostMs := decision.costMs }

/-! ## The session -/

/-- An entry of `results`. -/
structure OperationReport where
  eventIndex : Option Nat
  result : ControllerResult
  liveCommand : LiveCommand
  executionGate : ExecutionGateDecision
  admissionDecision : AdmissionDecision
  efficiencyImpact : EfficiencyImpact
  deriving DecidableEq, Repr

/-- What an operation adds to the statistics of its frame. -/
def AdapterFrameStats.record (stats : AdapterFrameStats) (result : ControllerResult) :
    AdapterFrameStats :=
  let operation := result.operation
  let stats := { stats with operationCount := stats.operationCount + 1 }
  let stats :=
    if result.executed then
      { stats with
        estimatedTotalCostMs := stats.estimatedTotalCostMs + operation.costMs
        queueCosts := stats.queueCosts.set operation.queue
          ((stats.queueCosts.get operation.queue).getD 0 + operation.costMs)
        transferMb := if operation.type.transfers then stats.transferMb + operation.sizeMb
          else stats.transferMb }
    else stats
  match result.decision with
  | some decision =>
    { stats with
      decisionCount := stats.decisionCount + 1
      estimatedSavedMs := stats.estimatedSavedMs + decision.estimatedSavedMs
      estimatedSavedMb := stats.estimatedSavedMb + decision.estimatedSavedMb }
  | none => stats

/-- `RuntimeAdapterSession`: the state of a session, with its defaults. -/
structure RuntimeAdapterSession where
  sessionId : String := "default"
  controller : FluidGatewayController := {}
  policyEngine : RuntimePolicyEngine := {}
  lifetimePlanner : ResourceLifetimePlanner := {}
  policyGovernor : LivePolicyGovernor := {}
  currentFrame : Option ℤ := none
  eventsProcessed : Nat := 0
  lifecycleEvents : Nat := 0
  resourceEvents : Nat := 0
  operationEvents : Nat := 0
  releasedResources : List String := []
  frames : OrderedDict ℤ AdapterFrameStats := .empty
  liveCommands : List LiveCommand := []
  policyLoopDirectives : List GovernorDirective := []
  executionGates : List ExecutionGateDecision := []
  results : List OperationReport := []
  closed : Bool := false

/-- The response to an event, with what each kind of it shows. -/
inductive Response where
  | session (action : LifecycleAction) (sessionId : String) (closed : Bool)
  | frame (action : LifecycleAction) (frame : ℤ) (frameState : AdapterFrameStats)
      (policyActions : List RuntimePolicyAction)
  | released (resourceId : String) (released : Bool)
  | registered (resource : RuntimeResource) (policyActions : List RuntimePolicyAction)
  | operation (report : OperationReport) (policyActions : List RuntimePolicyAction)
  | state (sessionId : String)

/-- What is returned for an event. -/
structure Answer where
  eventIndex : Option Nat
  response : Response
  stateSnapshot : LiveStateSnapshot
  policyLoopDirectives : List GovernorDirective

namespace RuntimeAdapterSession

/-- The statistics of a frame, created when the frame is first named. -/
def frameStats (s : RuntimeAdapterSession) (frame : ℤ) :
    AdapterFrameStats × RuntimeAdapterSession :=
  match s.frames.get frame with
  | some stats => (stats, s)
  | none => ({ frame }, { s with frames := s.frames.set frame { frame } })

/-- The statistics of a frame are written back. -/
def setFrame (s : RuntimeAdapterSession) (frame : ℤ) (stats : AdapterFrameStats) :
    RuntimeAdapterSession :=
  { s with frames := s.frames.set frame stats }

/-- `_record_policy_actions`: only actions of a known frame are counted for one. -/
def recordPolicyActions (s : RuntimeAdapterSession) (actions : List RuntimePolicyAction)
    (frame : Option ℤ) : RuntimeAdapterSession :=
  match frame with
  | none => s
  | some frame =>
    let (stats, s) := s.frameStats frame
    s.setFrame frame { stats with
      policyActionCount := stats.policyActionCount + actions.length
      policyActionIds := stats.policyActionIds ++ actions.map RuntimePolicyAction.id }

/-- `_build_state_snapshot`: the frames' costs by queue are added up, the rest is read off. -/
def buildStateSnapshot (s : RuntimeAdapterSession) : LiveStateSnapshot :=
  let queueCosts := s.frames.values.foldl (fun costs stats =>
    stats.queueCosts.items.foldl (fun costs item =>
      costs.set item.1 ((costs.get item.1).getD 0 + item.2)) costs) OrderedDict.empty
  let current := s.currentFrame.bind s.frames.get
  { sessionId := s.sessionId
    currentFrame := s.currentFrame
    openFrame := s.currentFrame.isSome
    framesObserved := s.frames.size
    eventsProcessed := s.eventsProcessed
    operationEvents := s.operationEvents
    resourceEvents := s.resourceEvents
    activeResourceCount := s.controller.optimization.resources.values.length
    memoryTotalsMb := s.policyEngine.memoryTotalsMb
    memoryBudgetsMb := s.policyEngine.memoryBudgetsMb
    queueCostsMs := queueCosts
    decisionsCount := s.controller.decisions.length
    policyActionCount := s.policyEngine.actions.length
    liveCommandCount := s.liveCommands.length
    estimatedTotalCostMsCurrentFrame :=
      (current.map AdapterFrameStats.estimatedTotalCostMs).getD 0
    transferMbCurrentFrame := (current.map AdapterFrameStats.transferMb).getD 0 }

/-- The target of a frame, or of the session where there is none. -/
def frameTarget (s : RuntimeAdapterSession) (frame : Option ℤ) : ℚ × RuntimeAdapterSession :=
  match frame with
  | some frame =>
    let (stats, s) := s.frameStats frame
    (stats.targetFrameMs, s)
  | none => (s.policyEngine.targetFrameMs, s)

/-- `_target_frame_ms`. -/
def targetFrameMs (s : RuntimeAdapterSession) (liveCommand : Option LiveCommand) :
    ℚ × RuntimeAdapterSession :=
  s.frameTarget (s.currentFrame <|> liveCommand.bind LiveCommand.frame)

/-- The first half of `_with_state_snapshot`: the governor looks at the
session. -/
def govern (s : RuntimeAdapterSession) (liveCommand : Option LiveCommand) :
    (LiveStateSnapshot × ℚ × List GovernorDirective) × RuntimeAdapterSession :=
  let snapshot := s.buildStateSnapshot
  let (target, s) := s.targetFrameMs liveCommand
  let (directives, governor) := s.policyGovernor.evaluate snapshot target
    s.policyEngine.memoryBudgetsMb liveCommand
  ((snapshot, target, directives),
    { s with
      policyGovernor := governor
      policyLoopDirectives := s.policyLoopDirectives ++ directives })

/-- `_with_state_snapshot` of a response without an operation. -/
def withStateSnapshot (s : RuntimeAdapterSession) (response : Response)
    (eventIndex : Option Nat) : Answer × RuntimeAdapterSession :=
  let ((stateSnapshot, _, policyLoopDirectives), s) := s.govern none
  ({ eventIndex, response, stateSnapshot, policyLoopDirectives }, s)

/-- `_with_state_snapshot` of an operation: it is gated, admitted and kept. -/
def withOperation (s : RuntimeAdapterSession) (result : ControllerResult)
    (liveCommand : LiveCommand) (policyActions : List RuntimePolicyAction)
    (eventIndex : Option Nat) : Answer × RuntimeAdapterSession :=
  let ((stateSnapshot, target, policyLoopDirectives), s) := s.govern (some liveCommand)
  let executionGate := buildExecutionGate result liveCommand policyLoopDirectives stateSnapshot
    target
  let admissionDecision := buildAdmissionDecision result.operation executionGate
  let efficiencyImpact := buildEfficiencyImpact admissionDecision
  let report := { eventIndex, result, liveCommand, executionGate, admissionDecision,
                  efficiencyImpact }
  ({ eventIndex, response := .operation report policyActions, stateSnapshot,
     policyLoopDirectives },
    { s with
      executionGates := s.executionGates ++ [executionGate]
      results := s.results ++ [report] })

variable (casing : Casing) (builtins : Builtins)

/-! ## Events -/

/-- `_process_session_event`: the event is counted before its action is read. -/
def processSessionEvent (s : RuntimeAdapterSession) (payload : Payload)
    (eventIndex : Option Nat) : Except Raised Answer × RuntimeAdapterSession :=
  let s := { s with lifecycleEvents := s.lifecycleEvents + 1 }
  match normalizedAction casing builtins (get payload "action") lifecycleActions "begin" with
  | .error e => (.error e, s)
  | .ok .begin =>
    let s := { s with
      sessionId := textOr builtins ((get payload "id").either (get payload "session_id"))
        s.sessionId
      policyEngine := s.policyEngine.configure builtins payload
      closed := false }
    let (answer, s) := s.withStateSnapshot (.session .begin s.sessionId s.closed) eventIndex
    (.ok answer, s)
  | .ok .finish =>
    match s.currentFrame with
    | some frame =>
      (.error (.value ("Cannot end session while frame " ++ toString frame ++ " is open.")), s)
    | none =>
      let s := { s with closed := true, lifetimePlanner := s.lifetimePlanner.finalize }
      let (answer, s) := s.withStateSnapshot (.session .finish s.sessionId s.closed) eventIndex
      (.ok answer, s)

/-- The begin of a frame whose statistics are at hand. -/
def beginFrame (s : RuntimeAdapterSession) (frame : ℤ) (stats : AdapterFrameStats)
    (payload : Payload) (eventIndex : Option Nat) :
    Except Raised Answer × RuntimeAdapterSession :=
  match s.currentFrame with
  | some opened => (.error (.value ("Frame " ++ toString opened ++ " is already open.")), s)
  | none =>
    if stats.beginEventIndex ≠ none ∧ stats.endEventIndex = none then
      (.error (.value ("Frame " ++ toString frame ++ " is already open.")), s)
    else
      let stats := { stats with
        beginEventIndex := eventIndex
        targetFrameMs := s.policyEngine.frameBudgetFrom builtins payload }
      let s := { s with currentFrame := some frame }.setFrame frame stats
      let (answer, s) := s.withStateSnapshot (.frame .begin frame stats []) eventIndex
      (.ok answer, s)

/-- The end of a frame whose statistics are at hand. -/
def endFrame (s : RuntimeAdapterSession) (frame : ℤ) (stats : AdapterFrameStats)
    (eventIndex : Option Nat) : Except Raised Answer × RuntimeAdapterSession :=
  if s.currentFrame ≠ some frame then
    (.error (.value ("Cannot end frame " ++ toString frame ++ "; current open frame is " ++
      (s.currentFrame.map toString).getD "None" ++ ".")), s)
  else
    let (policyActions, policyEngine) := s.policyEngine.finishFrame frame stats.targetFrameMs
      stats.estimatedTotalCostMs stats.queueCosts
    let s := { s with policyEngine }.recordPolicyActions policyActions (some frame)
    let (stats, s) := s.frameStats frame
    let stats := { stats with endEventIndex := eventIndex }
    let s := { s with currentFrame := none }.setFrame frame stats
    let (answer, s) := s.withStateSnapshot (.frame .finish frame stats policyActions) eventIndex
    (.ok answer, s)

/-- The two actions of `_process_frame_event`. -/
def runFrameAction (s : RuntimeAdapterSession) (action : LifecycleAction) (frame : ℤ)
    (stats : AdapterFrameStats) (payload : Payload) (eventIndex : Option Nat) :
    Except Raised Answer × RuntimeAdapterSession :=
  match action with
  | .begin => s.beginFrame builtins frame stats payload eventIndex
  | .finish => s.endFrame frame stats eventIndex

/-- The statistics of a frame are created before the event is checked. -/
def processFrameEvent (s : RuntimeAdapterSession) (payload : Payload)
    (eventIndex : Option Nat) : Except Raised Answer × RuntimeAdapterSession :=
  let s := { s with lifecycleEvents := s.lifecycleEvents + 1 }
  match parseFrame builtins payload with
  | .error e => (.error e, s)
  | .ok frame =>
    match normalizedAction casing builtins (get payload "action") lifecycleActions "begin" with
    | .error e => (.error e, s)
    | .ok action =>
      let (stats, s) := s.frameStats frame
      s.runFrameAction builtins action frame stats payload eventIndex

/-- `_process_resource_event`: a release is named by either of two keys; anything else
registers. -/
def processResourceEvent (s : RuntimeAdapterSession) (payload : Payload)
    (eventIndex : Option Nat) : Except Raised Answer × RuntimeAdapterSession :=
  let s := { s with resourceEvents := s.resourceEvents + 1 }
  match normalizedAction casing builtins (get payload "action") resourceActions "register" with
  | .error e => (.error e, s)
  | .ok .release =>
    let resourceId := strip (textOr builtins
      ((get payload "id").either (get payload "resource_id")) "")
    if resourceId = "" then
      (.error (.value "Resource release event requires 'id' or 'resource_id'."), s)
    else
      let (released, controller) := s.controller.releaseResource resourceId
      let s := { s with controller }
      let s := match released with
        | some resource => { s with
            releasedResources := s.releasedResources ++ [resourceId]
            policyEngine := s.policyEngine.releaseResource resourceId
            lifetimePlanner := s.lifetimePlanner.releaseResource resource resourceId }
        | none => s
      let (answer, s) := s.withStateSnapshot (.released resourceId released.isSome) eventIndex
      (.ok answer, s)
  | .ok .register =>
    match readResource casing builtins payload with
    | .error e => (.error e, s)
    | .ok resource =>
      match s.controller.registerResource resource with
      | (.error e, controller) => (.error (.value e), { s with controller })
      | (.ok resource, controller) =>
        let (policyActions, policyEngine) :=
          s.policyEngine.registerResource resource s.currentFrame
        let s := { s with
          controller, policyEngine
          lifetimePlanner := s.lifetimePlanner.registerResource resource s.currentFrame }
        let s := s.recordPolicyActions policyActions s.currentFrame
        let (answer, s) := s.withStateSnapshot (.registered resource policyActions) eventIndex
        (.ok answer, s)

/-- An operation is recorded in the statistics of its frame, if it has one. -/
def recordOperation (s : RuntimeAdapterSession) (frame : Option ℤ) (result : ControllerResult) :
    RuntimeAdapterSession :=
  match frame with
  | some frame =>
    let (stats, s) := s.frameStats frame
    s.setFrame frame (stats.record result)
  | none => s

/-- The live command of an operation is kept. -/
def issue (s : RuntimeAdapterSession) (liveCommand : LiveCommand) : RuntimeAdapterSession :=
  { s with liveCommands := s.liveCommands ++ [liveCommand] }

/-- The planner and the policy engine record an operation. -/
def advise (s : RuntimeAdapterSession) (result : ControllerResult) (targetFrameMs : ℚ) :
    List RuntimePolicyAction × RuntimeAdapterSession :=
  let (policyActions, policyEngine) :=
    s.policyEngine.recordOperation result result.operation.frame targetFrameMs
  (policyActions, { s with
    policyEngine
    lifetimePlanner := s.lifetimePlanner.recordOperation result.operation result.executed })

/-- What follows on an operation that the controller has accepted. -/
def acceptOperation (s : RuntimeAdapterSession) (result : ControllerResult)
    (eventIndex : Option Nat) : Answer × RuntimeAdapterSession :=
  let operationFrame := result.operation.frame
  let (target, s) := s.frameTarget operationFrame
  let liveCommand := buildLiveCommand result target
  let s := (s.issue liveCommand).recordOperation operationFrame result
  let (policyActions, s) := s.advise result target
  let s := s.recordPolicyActions policyActions operationFrame
  s.withOperation result liveCommand policyActions eventIndex

/-- `_process_operation_event`: what cannot be read does not reach the controller, what the
controller refuses changes no statistics. -/
def processOperationEvent (s : RuntimeAdapterSession) (payload : Payload)
    (eventIndex : Option Nat) : Except Raised Answer × RuntimeAdapterSession :=
  let s := { s with operationEvents := s.operationEvents + 1 }
  match readOperation casing builtins payload s.currentFrame with
  | .error e => (.error e, s)
  | .ok operation =>
    match s.controller.submitOperation casing operation with
    | (.error e, controller) => (.error (.value e), { s with controller })
    | (.ok result, controller) =>
      let (answer, s) := { s with controller }.acceptOperation result eventIndex
      (.ok answer, s)

/-- `_process_state_event`: a snapshot and nothing else. -/
def processStateEvent (s : RuntimeAdapterSession) (payload : Payload)
    (eventIndex : Option Nat) : Except Raised Answer × RuntimeAdapterSession :=
  match normalizedAction casing builtins (get payload "action") [("snapshot", ())] "snapshot" with
  | .error e => (.error e, s)
  | .ok () =>
    let (answer, s) := s.withStateSnapshot (.state s.sessionId) eventIndex
    (.ok answer, s)

/-- The part of `process_event` behind the type of the event. -/
def dispatch (s : RuntimeAdapterSession) (type : EventType) (payload : Payload)
    (eventIndex : Option Nat) : Except Raised Answer × RuntimeAdapterSession :=
  match type with
  | .session => s.processSessionEvent casing builtins payload eventIndex
  | .frame => s.processFrameEvent casing builtins payload eventIndex
  | .resource => s.processResourceEvent casing builtins payload eventIndex
  | .operation => s.processOperationEvent casing builtins payload eventIndex
  | .state => s.processStateEvent casing builtins payload eventIndex

/-- `process_event`: every object is counted, also where its type or its content is refused. -/
def processEvent (s : RuntimeAdapterSession) (payload : Json) (eventIndex : Option Nat) :
    Except Raised Answer × RuntimeAdapterSession :=
  match payload with
  | .dict payload =>
    let s := { s with eventsProcessed := s.eventsProcessed + 1 }
    match eventType casing builtins payload with
    | .error e => (.error e, s)
    | .ok type => s.dispatch casing builtins type payload eventIndex
  | _ => (.error (.value "Adapter event must be a JSON object."), s)

end RuntimeAdapterSession

end FluidGateway.Adapter
