import FluidGateway.OptimizerRuns
import FluidGateway.Texts

/-!
# The adapter session

The lifecycle-aware session of `fluidgateway/adapter.py` over the controller of
`fluidgateway/control.py`: which runtime events it accepts, and what it answers.

An event payload has the fields that the protocol decoder and the encoders of
the clients write.  The plans, budgets, live commands and counters that the
session derives from its events are left out: they are reported, but never
decide whether an event is accepted or what becomes of an operation.
-/

namespace FluidGateway.Runtime

open KeyedMap

/-- The actions of sessions and frames. -/
inductive LifecycleAction where
  | begin | finish
  deriving DecidableEq, Repr

/-- What a session event carries. -/
structure SessionPayload where
  action : LifecycleAction
  id : Option String := none
  budgets : List (String × ℚ) := []
  deriving DecidableEq, Repr

/-- What a frame event carries. -/
structure FramePayload where
  action : LifecycleAction
  frame : ℤ
  targetFrameMs : Option ℚ := none
  deriving DecidableEq, Repr

/-- What a resource event carries. -/
inductive ResourcePayload where
  | register (id : String) (kind : ResourceType) (memory : MemoryLayer) (lifetime : String)
      (sizeMb : ℚ) (aliases : List String)
  | release (id : String)
  deriving DecidableEq, Repr

/-- What an operation event carries. -/
structure OperationPayload where
  id : String
  operationType : OperationType
  queue : String
  source : Option String := none
  target : Option String := none
  reason : Option String := none
  costMs : ℚ := 0
  sizeMb : ℚ := 0
  frame : Option ℤ := none
  dependsOn : List String := []
  deriving DecidableEq, Repr

/-- An event, with its type told. -/
inductive EventPayload where
  | session (payload : SessionPayload)
  | frame (payload : FramePayload)
  | resource (payload : ResourcePayload)
  | operation (payload : OperationPayload)
  | state
  deriving DecidableEq, Repr

/-! ## Parsing -/

/-- `text or default`. -/
def orElse (text default : String) : String :=
  if text = "" then default else text

/-- `optional_text`: a blank text is none. -/
def optionalText (value : Option String) : Option String :=
  value.bind fun text => if strip text = "" then none else some (strip text)

/-- `nonnegative_number`, of a finite number. -/
def nonnegativeNumber (value : ℚ) (name : String) : Except String ℚ :=
  if value < 0 then .error (name ++ " must be a finite nonnegative number.") else .ok value

/-- `parse_resource`, of fields that have their types. -/
def parseResource (id : String) (kind : ResourceType) (memory : MemoryLayer) (lifetime : String)
    (sizeMb : ℚ) (aliases : List String) : Except String RuntimeResource :=
  if strip id = "" then .error "Resource id is required."
  else
    match nonnegativeNumber sizeMb "size_mb" with
    | .error e => .error e
    | .ok sizeMb =>
      .ok { id := strip id, kind, memory, sizeMb, lifetime := orElse lifetime "unknown", aliases }

/-- Optional texts are stripped when the event is read and once more here. -/
def parseOperation (payload : OperationPayload) : Except String RuntimeOperation :=
  if strip payload.id = "" then .error "Operation id is required."
  else
    match nonnegativeNumber payload.costMs "cost_ms",
      nonnegativeNumber payload.sizeMb "size_mb" with
    | .error e, _ => .error e
    | _, .error e => .error e
    | .ok costMs, .ok sizeMb =>
      .ok { id := strip payload.id
            type := payload.operationType
            source := optionalText (optionalText payload.source)
            target := optionalText (optionalText payload.target)
            queue := orElse payload.queue "unknown"
            reason := payload.reason.getD ""
            costMs, sizeMb
            frame := payload.frame
            dependsOn := payload.dependsOn }

/-! ## The controller -/

/-- `ControllerResult`. -/
structure ControllerResult where
  operation : RuntimeOperation
  decision : Option RuntimeDecision
  executed : Bool
  deriving DecidableEq, Repr

/-- The registered resources are those of the optimization state. -/
structure FluidGatewayController where
  executedOperations : List RuntimeOperation := []
  decisions : List RuntimeDecision := []
  optimization : RuntimeOptimizationState := { resources := .empty }

variable (casing : Casing)

namespace FluidGatewayController

/-- `register_resource`: a resource that is refused leaves the controller as it was. -/
def registerResource (c : FluidGatewayController) (resource : RuntimeResource) :
    Except String RuntimeResource × FluidGatewayController :=
  match c.optimization.register resource with
  | (.error e, _) => (.error e, c)
  | (.ok _, optimization) => (.ok resource, { c with optimization })

/-- `register_resource_event`. -/
def registerResourceEvent (c : FluidGatewayController) (id : String) (kind : ResourceType)
    (memory : MemoryLayer) (lifetime : String) (sizeMb : ℚ) (aliases : List String) :
    Except String RuntimeResource × FluidGatewayController :=
  if id = "" then (.error "Resource event requires 'id' or 'resource_id'.", c)
  else
    match parseResource id kind memory (orElse lifetime "unknown") sizeMb aliases with
    | .error e => (.error e, c)
    | .ok resource => c.registerResource resource

/-- `submit_operation`: an operation is counted among the executed ones or its decision
among the decisions. -/
def submitOperation (c : FluidGatewayController) (operation : RuntimeOperation) :
    Except String ControllerResult × FluidGatewayController :=
  match c.optimization.process casing operation with
  | (.error e, _) => (.error e, c)
  | (.ok (operation, some decision), optimization) =>
    (.ok { operation, decision := some decision, executed := false },
      { c with optimization, decisions := c.decisions ++ [decision] })
  | (.ok (operation, none), optimization) =>
    (.ok { operation, decision := none, executed := true },
      { c with optimization, executedOperations := c.executedOperations ++ [operation] })

/-- `submit_operation_event`. -/
def submitOperationEvent (c : FluidGatewayController) (payload : OperationPayload) :
    Except String ControllerResult × FluidGatewayController :=
  if payload.id = "" then (.error "Operation event requires 'id' or 'operation_id'.", c)
  else
    match parseOperation payload with
    | .error e => (.error e, c)
    | .ok operation => c.submitOperation casing operation

/-- `release_resource`. -/
def releaseResource (c : FluidGatewayController) (id : String) :
    Option RuntimeResource × FluidGatewayController :=
  let (released, optimization) := c.optimization.releaseResource id
  (released, { c with optimization })

end FluidGatewayController

/-! ## The session -/

/-- What this session keeps of a frame: the events that began and ended it. -/
structure AdapterFrameStats where
  frame : ℤ
  beginEventIndex : Option Nat := none
  endEventIndex : Option Nat := none
  deriving DecidableEq, Repr

/-- `RuntimeAdapterSession`, as far as its answers to the server depend on it. -/
structure RuntimeAdapterSession where
  sessionId : String := "default"
  controller : FluidGatewayController := {}
  currentFrame : Option ℤ := none
  frames : Map ℤ AdapterFrameStats := ∅
  closed : Bool := false

/-- The response to an event, as far as the server reads it. -/
inductive Response where
  | session (action : LifecycleAction) (sessionId : String) (closed : Bool)
  | frame (action : LifecycleAction) (frame : ℤ) (frameState : AdapterFrameStats)
  | registered (resource : RuntimeResource)
  | released (resourceId : String) (released : Bool)
  | operation (result : ControllerResult)
  | state (action sessionId : String)
  deriving DecidableEq, Repr

namespace RuntimeAdapterSession

/-- The statistics of a frame, created when the frame is first named. -/
def frameStats (s : RuntimeAdapterSession) (frame : ℤ) :
    AdapterFrameStats × RuntimeAdapterSession :=
  match s.frames.lookup frame with
  | some stats => (stats, s)
  | none => ({ frame }, { s with frames := s.frames.insert frame { frame } })

/-- `_process_session_event`: a session is not ended while a frame is open. -/
def processSessionEvent (s : RuntimeAdapterSession) (payload : SessionPayload) :
    Except String Response × RuntimeAdapterSession :=
  match payload.action with
  | .begin =>
    let sessionId := orElse (payload.id.getD "") s.sessionId
    (.ok (.session .begin sessionId false), { s with sessionId, closed := false })
  | .finish =>
    match s.currentFrame with
    | some frame =>
      (.error ("Cannot end session while frame " ++ toString frame ++ " is open."), s)
    | none => (.ok (.session .finish s.sessionId true), { s with closed := true })

/-- A frame that fails to open or close has its statistics created all the
same. -/
def processFrameEvent (s : RuntimeAdapterSession) (payload : FramePayload)
    (eventIndex : Option Nat) : Except String Response × RuntimeAdapterSession :=
  let frame := payload.frame
  let (stats, s) := s.frameStats frame
  match payload.action with
  | .begin =>
    match s.currentFrame with
    | some opened => (.error ("Frame " ++ toString opened ++ " is already open."), s)
    | none =>
      if stats.beginEventIndex ≠ none ∧ stats.endEventIndex = none then
        (.error ("Frame " ++ toString frame ++ " is already open."), s)
      else
        let stats := { stats with beginEventIndex := eventIndex }
        (.ok (.frame .begin frame stats),
          { s with currentFrame := some frame, frames := s.frames.insert frame stats })
  | .finish =>
    if s.currentFrame ≠ some frame then
      (.error ("Cannot end frame " ++ toString frame ++ "; current open frame is " ++
        (s.currentFrame.map toString).getD "None" ++ "."), s)
    else
      let stats := { stats with endEventIndex := eventIndex }
      (.ok (.frame .finish frame stats),
        { s with currentFrame := none, frames := s.frames.insert frame stats })

/-- `_process_resource_event`. -/
def processResourceEvent (s : RuntimeAdapterSession) :
    ResourcePayload → Except String Response × RuntimeAdapterSession
  | .release id =>
    let resourceId := strip id
    if resourceId = "" then
      (.error "Resource release event requires 'id' or 'resource_id'.", s)
    else
      let (released, controller) := s.controller.releaseResource resourceId
      (.ok (.released resourceId released.isSome), { s with controller })
  | .register id kind memory lifetime sizeMb aliases =>
    match s.controller.registerResourceEvent id kind memory lifetime sizeMb aliases with
    | (.error e, controller) => (.error e, { s with controller })
    | (.ok resource, controller) => (.ok (.registered resource), { s with controller })

/-- An operation without a frame of its own belongs to the open frame. -/
def framed (s : RuntimeAdapterSession) (payload : OperationPayload) : OperationPayload :=
  { payload with frame := payload.frame <|> s.currentFrame }

/-- `_process_operation_event`: the frame of an accepted operation is given statistics. -/
def processOperationEvent (s : RuntimeAdapterSession) (payload : OperationPayload) :
    Except String Response × RuntimeAdapterSession :=
  match s.controller.submitOperationEvent casing (s.framed payload) with
  | (.error e, controller) => (.error e, { s with controller })
  | (.ok result, controller) =>
    let s := { s with controller }
    match result.operation.frame with
    | some frame => (.ok (.operation result), (s.frameStats frame).2)
    | none => (.ok (.operation result), s)

/-- `process_event`, of an event whose type is told. -/
def processEvent (s : RuntimeAdapterSession) (payload : EventPayload) (eventIndex : Option Nat) :
    Except String Response × RuntimeAdapterSession :=
  match payload with
  | .session payload => s.processSessionEvent payload
  | .frame payload => s.processFrameEvent payload eventIndex
  | .resource payload => s.processResourceEvent payload
  | .operation payload => s.processOperationEvent casing payload
  | .state => (.ok (.state "snapshot" s.sessionId), s)

end RuntimeAdapterSession

/-! ## Stripped texts -/

/-- Blanks that were trimmed are not trimmed again. -/
theorem strip_strip (s : String) : strip (strip s) = strip s := by
  have hhead : ((s.toList.dropWhile isSpace).rdropWhile isSpace).dropWhile isSpace =
      (s.toList.dropWhile isSpace).rdropWhile isSpace := by
    rw [List.dropWhile_eq_self_iff]
    intro hlength hspace
    -- the first character left is the first one that is no space
    have hlead := List.rdropWhile_prefix isSpace (s.toList.dropWhile isSpace)
    have hlong := Nat.lt_of_lt_of_le hlength hlead.length_le
    have hsame := hlead.getElem hlength
    have hnot := List.dropWhile_get_zero_not isSpace s.toList hlong
    rw [hsame] at hspace
    exact hnot hspace
  have hlist : (strip (strip s)).toList = (strip s).toList := by
    rw [strip_toList, strip_toList, hhead, List.rdropWhile_idempotent]
  exact String.toList_injective hlist

/-- An optional text that was read once is read again as it is. -/
theorem optionalText_idem (value : Option String) :
    optionalText (optionalText value) = optionalText value := by
  cases value with
  | none => rfl
  | some text =>
      unfold optionalText
      by_cases hblank : strip text = "" <;> simp [hblank, strip_strip]

end FluidGateway.Runtime
