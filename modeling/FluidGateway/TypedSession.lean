import FluidGateway.SessionPlanner

/-!
# The session read as typed events

`adapter.py` is modelled twice: the session of `AdapterSession` is given typed events
and keeps what decides about them, the one of `ManagedSession` is given JSON and keeps
everything.  The second is the first behind a reader: an event that cannot be read
changes nothing that the first keeps (`processEvent_unread`), one that can is answered
alike by both (`processEvent_read`), and so over every stream of events (`run_core`).
-/

namespace FluidGateway.Adapter

open FluidGateway.Runtime (Casing FluidGatewayController ControllerResult RuntimeResource
  RuntimeOperation LifecycleAction EventPayload OperationPayload orElse optionalText)

/-- `str` makes no empty text of a value that is true, as in Python. -/
def Builtins.Shows (builtins : Builtins) : Prop :=
  ∀ value : Json, value.truthy = true → builtins.str value ≠ ""

/-! ## Reading an event -/

/-- The registration that a resource was read from, with every field as it was read. -/
def resourcePayload (resource : RuntimeResource) : Runtime.ResourcePayload :=
  .register resource.id resource.kind resource.memory resource.lifetime resource.sizeMb
    resource.aliases

/-- The submission that an operation was read from; its frame is already the open one
where the event names none. -/
def operationPayload (operation : RuntimeOperation) : OperationPayload where
  id := operation.id
  operationType := operation.type
  queue := operation.queue
  source := operation.source
  target := operation.target
  reason := some operation.reason
  costMs := operation.costMs
  sizeMb := operation.sizeMb
  frame := operation.frame
  dependsOn := operation.dependsOn

/-- What the typed session answers in place of a response. -/
def typedResponse : Response → Runtime.Response
  | .session action sessionId closed => .session action sessionId closed
  | .frame action frame frameState _ => .frame action frame frameState.marks
  | .released resourceId released => .released resourceId released
  | .registered resource _ => .registered resource
  | .operation report _ => .operation report.result
  | .state sessionId => .state "snapshot" sessionId

/-- Both answer, or both refuse with the same message. -/
inductive Alike : Except Raised Answer → Except String Runtime.Response → Prop
  | answered (answer : Answer) : Alike (.ok answer) (.ok (typedResponse answer.response))
  | refused (message : String) : Alike (.error (.value message)) (.error message)

/-- What the typed session keeps. -/
def typedCore (r : Runtime.RuntimeAdapterSession) : SessionCore where
  sessionId := r.sessionId
  controller := r.controller
  currentFrame := r.currentFrame
  frames := fun frame => (r.frames.lookup frame).getD { frame }
  closed := r.closed

/-- An event has been answered alike, and the sessions keep the same. -/
structure Follows (outcome : Except Raised Answer × RuntimeAdapterSession)
    (typed : Except String Runtime.Response × Runtime.RuntimeAdapterSession) : Prop where
  alike : Alike outcome.1 typed.1
  core : outcome.2.core = typedCore typed.2

/-- New statistics of a frame, as a function of the frame. -/
theorem typedCore_insert (r : Runtime.RuntimeAdapterSession) (frame : ℤ)
    (stats : Runtime.AdapterFrameStats) :
    typedCore { r with frames := r.frames.insert frame stats } =
      { typedCore r with frames := Function.update (typedCore r).frames frame stats } := by
  unfold typedCore
  congr 1
  funext other
  obtain rfl | hother := eq_or_ne other frame
  · rw [AList.lookup_insert, Function.update_self, Option.getD_some]
  · rw [AList.lookup_insert_ne hother, Function.update_of_ne hother]

/-- What is known of a frame is read off what the typed session keeps. -/
theorem typed_frameStats_fst (r : Runtime.RuntimeAdapterSession) (frame : ℤ) :
    (r.frameStats frame).1 = (typedCore r).frames frame := by
  unfold typedCore Runtime.RuntimeAdapterSession.frameStats
  dsimp only
  cases r.frames.lookup frame <;> rfl

/-- Creating the statistics of a frame changes nothing that is kept. -/
theorem typedCore_frameStats (r : Runtime.RuntimeAdapterSession) (frame : ℤ) :
    typedCore (r.frameStats frame).2 = typedCore r := by
  have hfst := typed_frameStats_fst r frame
  unfold Runtime.RuntimeAdapterSession.frameStats at hfst ⊢
  cases hframe : r.frames.lookup frame with
  | some stats => rfl
  | none =>
      rw [hframe] at hfst
      dsimp only at hfst ⊢
      rw [typedCore_insert, hfst, Function.update_eq_self]

/-- What looking up the statistics of a frame returns, and in which session it ends. -/
theorem typed_frameStats (r : Runtime.RuntimeAdapterSession) (frame : ℤ) :
    ∃ r', r.frameStats frame = ((typedCore r).frames frame, r') ∧ typedCore r' = typedCore r :=
  ⟨_, Prod.ext (typed_frameStats_fst r frame) rfl, typedCore_frameStats r frame⟩

namespace RuntimeAdapterSession

variable (casing : Casing) (builtins : Builtins)

/-- What a session reads in an event. -/
def readEvent (s : RuntimeAdapterSession) : Json → Except Raised EventPayload
  | .dict payload => do
    match ← eventType casing builtins payload with
    | .session =>
      let action ←
        normalizedAction casing builtins (get payload "action") lifecycleActions "begin"
      let id := textOr builtins ((get payload "id").either (get payload "session_id")) s.sessionId
      return .session { action, id := some id }
    | .frame =>
      let frame ← parseFrame builtins payload
      let action ←
        normalizedAction casing builtins (get payload "action") lifecycleActions "begin"
      return .frame { action, frame }
    | .resource =>
      let action ←
        normalizedAction casing builtins (get payload "action") resourceActions "register"
      match action with
      | .release =>
        return .resource (.release (textOr builtins
          ((get payload "id").either (get payload "resource_id")) ""))
      | .register =>
        let resource ← readResource casing builtins payload
        return .resource (resourcePayload resource)
    | .operation =>
      let operation ← readOperation casing builtins payload s.currentFrame
      return .operation (operationPayload operation)
    | .state =>
      normalizedAction casing builtins (get payload "action") [("snapshot", ())] "snapshot"
      return .state
  | _ => .error (.value "Adapter event must be a JSON object.")

variable {s : RuntimeAdapterSession} {r : Runtime.RuntimeAdapterSession} {casing : Casing}
  {builtins : Builtins} {payload : Payload} {eventIndex : Option Nat}

/-- New statistics of a frame, as a function of the frame: only their marks are kept. -/
theorem core_setFrame (frame : ℤ) (stats : AdapterFrameStats) :
    (s.setFrame frame stats).core =
      { s.core with frames := Function.update s.core.frames frame stats.marks } := by
  unfold core
  congr 1
  funext other
  unfold statsOf setFrame
  rw [OrderedDict.get_set]
  obtain rfl | hother := eq_or_ne frame other
  · rw [if_pos rfl, Function.update_self]
    rfl
  · rw [if_neg hother, Function.update_of_ne hother.symm]

/-- Looking at the session for a response changes nothing that is kept. -/
theorem core_withStateSnapshot (s : RuntimeAdapterSession) (response : Response)
    (eventIndex : Option Nat) : (s.withStateSnapshot response eventIndex).2.core = s.core :=
  congrArg Prod.fst (s.kept_govern none)

/-- A response without an operation is answered alike where the cores are the same. -/
theorem answered_follows {response : Response} {typed : Runtime.Response}
    (hresponse : typedResponse response = typed) (h : s.core = typedCore r) :
    Follows (.ok (s.withStateSnapshot response eventIndex).1,
      (s.withStateSnapshot response eventIndex).2) (.ok typed, r) := by
  subst hresponse
  exact ⟨.answered _, (s.core_withStateSnapshot response eventIndex).trans h⟩

/-- The name of a session is the same in both: an empty text is never read for one. -/
theorem orElse_textOr (hstr : builtins.Shows) (value : Json) (default : String) :
    orElse (textOr builtins value default) default = textOr builtins value default := by
  unfold orElse textOr
  cases htrue : value.truthy with
  | false => exact ite_self _
  | true => exact if_neg (hstr value htrue)

/-- A session begins and ends alike in both, under the same name, or neither ends while
a frame is open. -/
theorem processSessionEvent_follows (h : s.core = typedCore r) (hstr : builtins.Shows)
    {action : LifecycleAction}
    (hread : normalizedAction casing builtins (get payload "action") lifecycleActions "begin" =
      .ok action) :
    Follows (s.processSessionEvent casing builtins payload eventIndex)
      (r.processSessionEvent { action, id := some (textOr builtins
        ((get payload "id").either (get payload "session_id")) s.sessionId) }) := by
  have hsession : s.sessionId = r.sessionId := congrArg SessionCore.sessionId h
  have hcurrent : s.currentFrame = r.currentFrame := congrArg SessionCore.currentFrame h
  unfold processSessionEvent Runtime.RuntimeAdapterSession.processSessionEvent
  dsimp only
  rw [hread]
  cases action with
  | begin =>
      have hid : orElse ((some (textOr builtins ((get payload "id").either
          (get payload "session_id")) s.sessionId)).getD "") r.sessionId =
            textOr builtins ((get payload "id").either (get payload "session_id")) s.sessionId := by
        rw [← hsession]
        exact orElse_textOr hstr _ _
      dsimp only
      rw [hid]
      exact answered_follows rfl (congrArg (fun c : SessionCore => { c with
        sessionId := textOr builtins ((get payload "id").either (get payload "session_id"))
          s.sessionId
        closed := false }) h)
  | finish =>
      dsimp only
      split
      · next frame hopen =>
          split
          · next other hother =>
              obtain rfl := Option.some.inj (hopen.symm.trans (hcurrent.trans hother))
              exact ⟨.refused _, h⟩
          · next hother => cases hopen.symm.trans (hcurrent.trans hother)
      · next hnone =>
          split
          · next other hother => cases hnone.symm.trans (hcurrent.trans hother)
          · exact answered_follows (congrArg (Runtime.Response.session .finish · true) hsession)
              (congrArg (fun c : SessionCore => { c with closed := true }) h)

/-- The statistics of a frame are rewritten in both. -/
theorem core_rewritten (h : s.core = typedCore r) (currentFrame : Option ℤ) (frame : ℤ)
    (stats : AdapterFrameStats) :
    (setFrame { s with currentFrame } frame stats).core =
      typedCore { r with currentFrame, frames := r.frames.insert frame stats.marks } := by
  have hinsert := typedCore_insert { r with currentFrame } frame stats.marks
  rw [core_setFrame, hinsert]
  exact congrArg (fun c : SessionCore =>
    { c with currentFrame, frames := Function.update c.frames frame stats.marks }) h

section

variable {frame : ℤ} {stats : AdapterFrameStats}

/-- A frame is opened alike in both, from statistics that say the same. -/
theorem beginFrame_follows (h : s.core = typedCore r)
    (hstats : (typedCore r).frames frame = stats.marks) :
    Follows (s.beginFrame builtins frame stats payload eventIndex)
      (r.processFrameEvent { action := .begin, frame } eventIndex) := by
  obtain ⟨r', hnamed, hsame⟩ := typed_frameStats r frame
  have hcore : s.core = typedCore r' := h.trans hsame.symm
  have hcurrent : s.currentFrame = r'.currentFrame := congrArg SessionCore.currentFrame hcore
  unfold Runtime.RuntimeAdapterSession.processFrameEvent beginFrame
  dsimp only
  rw [hnamed, hstats, ← hcurrent]
  cases s.currentFrame with
  | some opened => exact ⟨.refused _, hcore⟩
  | none =>
      have hmarks : stats.marks.beginEventIndex ≠ none ∧ stats.marks.endEventIndex = none ↔
          stats.beginEventIndex ≠ none ∧ stats.endEventIndex = none := Iff.rfl
      dsimp only
      by_cases hbegun : stats.beginEventIndex ≠ none ∧ stats.endEventIndex = none
      · rw [if_pos hbegun, if_pos (hmarks.mpr hbegun)]
        exact ⟨.refused _, hcore⟩
      · rw [if_neg hbegun, if_neg (hmarks.not.mpr hbegun)]
        exact answered_follows rfl (core_rewritten hcore (some frame) frame { stats with
          beginEventIndex := eventIndex
          targetFrameMs := s.policyEngine.frameBudgetFrom builtins payload })

/-- The end of a frame reads the statistics of the frame again. -/
theorem endFrame_follows (h : s.core = typedCore r) :
    Follows (s.endFrame frame stats eventIndex)
      (r.processFrameEvent { action := .finish, frame } eventIndex) := by
  obtain ⟨r', hnamed, hsame⟩ := typed_frameStats r frame
  have hcore : s.core = typedCore r' := h.trans hsame.symm
  have hcurrent : s.currentFrame = r'.currentFrame := congrArg SessionCore.currentFrame hcore
  have hstats : (typedCore r).frames frame = (s.statsOf frame).marks :=
    (congrFun (congrArg SessionCore.frames h) frame).symm
  unfold Runtime.RuntimeAdapterSession.processFrameEvent endFrame
  dsimp only
  rw [hnamed, hstats, ← hcurrent]
  by_cases hopen : s.currentFrame ≠ some frame
  · rw [if_pos hopen, if_pos hopen]
    exact ⟨.refused _, hcore⟩
  · rw [if_neg hopen, if_neg hopen]
    let finished := s.policyEngine.finishFrame frame stats.targetFrameMs
      stats.estimatedTotalCostMs stats.queueCosts
    let recorded :=
      recordPolicyActions { s with policyEngine := finished.2 } finished.1 (some frame)
    have hrecorded : recorded.core = s.core :=
      congrArg Prod.fst (kept_recordPolicyActions { s with policyEngine := finished.2 } _ _)
    have hread : (recorded.frameStats frame).1.marks = (s.statsOf frame).marks := by
      rw [frameStats_fst]
      exact congrFun (congrArg SessionCore.frames hrecorded) frame
    have hmarks : AdapterFrameStats.marks
        { (recorded.frameStats frame).1 with endEventIndex := eventIndex } =
          { (s.statsOf frame).marks with endEventIndex := eventIndex } := by
      rw [← hread]
      rfl
    have hlast : (recorded.frameStats frame).2.core = typedCore r' :=
      (congrArg Prod.fst (recorded.kept_frameStats frame)).trans (hrecorded.trans hcore)
    have hrewritten := core_rewritten hlast none frame
      { (recorded.frameStats frame).1 with endEventIndex := eventIndex }
    rw [hmarks] at hrewritten
    exact answered_follows (congrArg (Runtime.Response.frame .finish frame) hmarks) hrewritten

/-- A frame event creates the statistics of its frame in both, whatever becomes of it. -/
theorem processFrameEvent_follows (h : s.core = typedCore r) {action : LifecycleAction}
    (hframe : parseFrame builtins payload = .ok frame)
    (hread : normalizedAction casing builtins (get payload "action") lifecycleActions "begin" =
      .ok action) :
    Follows (s.processFrameEvent casing builtins payload eventIndex)
      (r.processFrameEvent { action, frame } eventIndex) := by
  let counted := { s with lifecycleEvents := s.lifecycleEvents + 1 }
  have hcore : (counted.frameStats frame).2.core = typedCore r :=
    (congrArg Prod.fst (counted.kept_frameStats frame)).trans h
  have hstats : (typedCore r).frames frame = (counted.frameStats frame).1.marks := by
    rw [frameStats_fst, ← h]
    rfl
  unfold processFrameEvent
  dsimp only
  rw [hframe, hread]
  cases action with
  | begin => exact beginFrame_follows hcore hstats
  | finish => exact endFrame_follows hcore

end

/-- A resource is released alike in both: the controllers are the same. -/
theorem processResourceEvent_release_follows (h : s.core = typedCore r)
    (hread : normalizedAction casing builtins (get payload "action") resourceActions "register" =
      .ok .release) :
    Follows (s.processResourceEvent casing builtins payload eventIndex)
      (r.processResourceEvent (.release (textOr builtins
        ((get payload "id").either (get payload "resource_id")) ""))) := by
  have hcontroller : s.controller = r.controller := congrArg SessionCore.controller h
  unfold processResourceEvent Runtime.RuntimeAdapterSession.processResourceEvent
  dsimp only
  rw [hread]
  dsimp only
  split_ifs with hblank
  · exact ⟨.refused _, h⟩
  · rw [← hcontroller]
    generalize s.controller.releaseResource _ = answer
    obtain ⟨released, controller⟩ := answer
    have hreleased := congrArg (fun c : SessionCore => { c with controller }) h
    cases released with
    | none => exact answered_follows rfl hreleased
    | some resource => exact answered_follows rfl hreleased

/-- A default that was taken is taken once. -/
theorem orElse_unknown (text : String) :
    orElse (orElse text "unknown") "unknown" = orElse text "unknown" := by
  unfold orElse
  split_ifs <;> rfl

/-- A number that was read passes the same check again. -/
theorem typed_nonnegativeNumber {number : ℚ} (h : 0 ≤ number) (name : String) :
    Runtime.nonnegativeNumber number name = .ok number :=
  if_neg (not_lt.mpr h)

/-- A resource that was read passes the checks of the typed session as it is. -/
theorem parseResource_read {resource : RuntimeResource}
    (h : readResource casing builtins payload = .ok resource) :
    resource.id ≠ "" ∧ Runtime.parseResource resource.id resource.kind resource.memory
      (orElse resource.lifetime "unknown") resource.sizeMb resource.aliases = .ok resource := by
  unfold readResource at h
  dsimp only at h
  split at h
  · cases h
  · obtain ⟨aliases, -, h⟩ := bind_ok h
    split at h
    · cases h
    · next hid =>
        obtain ⟨sizeMb, hsize, h⟩ := bind_ok h
        cases h
        refine ⟨hid, ?_⟩
        unfold Runtime.parseResource
        dsimp only
        rw [Runtime.strip_strip, if_neg hid,
          typed_nonnegativeNumber (nonnegativeNumber_nonneg hsize)]
        dsimp only
        rw [orElse_unknown, orElse_unknown]

/-- A resource that was read is registered, or refused, alike in both. -/
theorem processResourceEvent_register_follows (h : s.core = typedCore r)
    (hread : normalizedAction casing builtins (get payload "action") resourceActions "register" =
      .ok .register) {resource : RuntimeResource}
    (hresource : readResource casing builtins payload = .ok resource) :
    Follows (s.processResourceEvent casing builtins payload eventIndex)
      (r.processResourceEvent (resourcePayload resource)) := by
  have hcontroller : s.controller = r.controller := congrArg SessionCore.controller h
  obtain ⟨hid, hparse⟩ := parseResource_read hresource
  have hevent : r.controller.registerResourceEvent resource.id resource.kind resource.memory
      resource.lifetime resource.sizeMb resource.aliases =
        s.controller.registerResource resource := by
    unfold FluidGatewayController.registerResourceEvent
    rw [if_neg hid, hparse, hcontroller]
  unfold processResourceEvent Runtime.RuntimeAdapterSession.processResourceEvent resourcePayload
  dsimp only
  rw [hread, hresource, hevent]
  dsimp only
  cases hregister : s.controller.registerResource resource with
  | mk answer controller =>
    have hcore := congrArg (fun c : SessionCore => { c with controller }) h
    cases answer with
    | error e => exact ⟨.refused e, hcore⟩
    | ok given =>
        refine answered_follows rfl ?_
        exact (congrArg Prod.fst (kept_recordPolicyActions _ _ _)).trans hcore

/-- An operation without a frame was read while none was open. -/
theorem frame_read {value : Json} {currentFrame frame : Option ℤ}
    (h : optionalInt builtins value = .ok frame)
    (hvalue : ∀ opened : ℤ, value = .null → currentFrame = some opened → False) :
    (frame <|> currentFrame) = frame := by
  cases currentFrame with
  | none => cases frame <;> rfl
  | some opened =>
      unfold optionalInt at h
      split at h
      · exact absurd rfl (hvalue opened rfl)
      · cases hint : asInt builtins value with
        | error e =>
            rw [hint] at h
            cases h
        | ok number =>
            rw [hint] at h
            cases h
            rfl

/-- An operation that was read passes the checks of the typed session as it is, in the
frame that is open where it names none. -/
theorem parseOperation_read {operation : RuntimeOperation}
    (h : readOperation casing builtins payload s.currentFrame = .ok operation)
    (hcurrent : s.currentFrame = r.currentFrame) :
    operation.id ≠ "" ∧
      Runtime.parseOperation (r.framed (operationPayload operation)) = .ok operation := by
  have hnonneg := readOperation_nonneg h
  unfold readOperation at h
  dsimp only at h
  split at h
  · cases h
  · split at h
    · cases h
    · split at h
      all_goals
        obtain ⟨frame, hframe, h⟩ := bind_ok h
        have hopen : (frame <|> s.currentFrame) = frame := by
          first
            | exact frame_read hframe (by assumption)
            | (cases hframe; rfl)
        obtain ⟨dependsOn, -, h⟩ := bind_ok h
        split at h
        · cases h
        · next hid =>
            obtain ⟨costMs, -, h⟩ := bind_ok h
            obtain ⟨sizeMb, -, h⟩ := bind_ok h
            cases h
            refine ⟨hid, ?_⟩
            unfold Runtime.parseOperation Runtime.RuntimeAdapterSession.framed operationPayload
            dsimp only at hnonneg ⊢
            rw [Runtime.strip_strip, if_neg hid, typed_nonnegativeNumber hnonneg.1,
              typed_nonnegativeNumber hnonneg.2, ← hcurrent, hopen]
            dsimp only
            rw [orElse_unknown, Runtime.optionalText_idem, Runtime.optionalText_idem,
              Runtime.optionalText_idem, Runtime.optionalText_idem]
            rfl

/-- Submitting what was read submits the operation that it was read as. -/
theorem submitOperationEvent_eq {c : FluidGatewayController} {given : OperationPayload}
    {operation : RuntimeOperation} (hid : given.id ≠ "")
    (hparse : Runtime.parseOperation given = .ok operation) :
    c.submitOperationEvent casing given = c.submitOperation casing operation := by
  unfold FluidGatewayController.submitOperationEvent
  rw [if_neg hid, hparse]

/-- An accepted operation is answered by what the controller has made of it. -/
theorem acceptOperation_response (s : RuntimeAdapterSession) (result : ControllerResult)
    (eventIndex : Option Nat) :
    typedResponse (s.acceptOperation result eventIndex).1.response = .operation result :=
  rfl

/-- An operation that was read is accepted, or refused, alike in both. -/
theorem processOperationEvent_follows (h : s.core = typedCore r) {operation : RuntimeOperation}
    (hread : readOperation casing builtins payload s.currentFrame = .ok operation) :
    Follows (s.processOperationEvent casing builtins payload eventIndex)
      (r.processOperationEvent casing (operationPayload operation)) := by
  have hcontroller : s.controller = r.controller := congrArg SessionCore.controller h
  have hcurrent : s.currentFrame = r.currentFrame := congrArg SessionCore.currentFrame h
  obtain ⟨hid, hparse⟩ := parseOperation_read hread hcurrent
  have hevent : r.controller.submitOperationEvent casing (r.framed (operationPayload operation)) =
      s.controller.submitOperation casing operation := by
    rw [hcontroller]
    exact submitOperationEvent_eq hid hparse
  unfold processOperationEvent Runtime.RuntimeAdapterSession.processOperationEvent
  dsimp only
  rw [hread, hevent]
  dsimp only
  cases hsubmit : s.controller.submitOperation casing operation with
  | mk answer controller =>
    have hcore := congrArg (fun c : SessionCore => { c with controller }) h
    cases answer with
    | error e => exact ⟨.refused e, hcore⟩
    | ok result =>
        dsimp only
        let accepted := acceptOperation { s with
          operationEvents := s.operationEvents + 1, controller } result eventIndex
        have halike : Alike (.ok accepted.1) (.ok (.operation result)) := .answered accepted.1
        have hkept : accepted.2.core = typedCore { r with controller } :=
          (congrArg Prod.fst (kept_acceptOperation _ _ _)).trans hcore
        cases result.operation.frame with
        | none => exact ⟨halike, hkept⟩
        | some frame => exact ⟨halike, hkept.trans (typedCore_frameStats _ frame).symm⟩

/-- A question for the state is answered alike in both. -/
theorem processStateEvent_follows (h : s.core = typedCore r)
    (hread : normalizedAction casing builtins (get payload "action") [("snapshot", ())]
      "snapshot" = .ok ()) :
    Follows (s.processStateEvent casing builtins payload eventIndex)
      (.ok (.state "snapshot" r.sessionId), r) := by
  have hsession : s.sessionId = r.sessionId := congrArg SessionCore.sessionId h
  unfold processStateEvent
  rw [hread]
  exact answered_follows (congrArg (Runtime.Response.state "snapshot") hsession) h

/-! ## Events and runs -/

section

variable {payload : Json}

/-- A reading that raises has raised in its first part or in the rest. -/
theorem bind_error {α β : Type} {x : Except Raised α} {f : α → Except Raised β} {e : Raised}
    (h : (x >>= f) = .error e) : x = .error e ∨ ∃ a, x = .ok a ∧ f a = .error e := by
  cases x with
  | error e' =>
      cases h
      exact .inl rfl
  | ok a => exact .inr ⟨a, rfl, h⟩

/-- An event that cannot be read raises, and changes nothing that is kept. -/
theorem processEvent_unread {e : Raised} (h : s.readEvent casing builtins payload = .error e) :
    (s.processEvent casing builtins payload eventIndex).1 = .error e ∧
      (s.processEvent casing builtins payload eventIndex).2.core = s.core := by
  cases payload with
  | null | bool | int | float | text | list =>
      cases h
      exact ⟨rfl, rfl⟩
  | dict fields =>
      unfold readEvent at h
      unfold processEvent
      dsimp only
      obtain htype | ⟨type, htype, h⟩ := bind_error h
      · rw [htype]
        exact ⟨rfl, rfl⟩
      · rw [htype]
        dsimp only [dispatch]
        cases type with
        | session =>
            obtain hread | ⟨action, -, h⟩ := bind_error h
            · unfold processSessionEvent
              rw [hread]
              exact ⟨rfl, rfl⟩
            · cases h
        | frame =>
            unfold processFrameEvent
            obtain hread | ⟨frame, hframe, h⟩ := bind_error h
            · rw [hread]
              exact ⟨rfl, rfl⟩
            · obtain hread | ⟨action, -, h⟩ := bind_error h
              · rw [hframe, hread]
                exact ⟨rfl, rfl⟩
              · cases h
        | resource =>
            unfold processResourceEvent
            obtain hread | ⟨action, haction, h⟩ := bind_error h
            · rw [hread]
              exact ⟨rfl, rfl⟩
            · cases action with
              | release => cases h
              | register =>
                  obtain hread | ⟨resource, -, h⟩ := bind_error h
                  · rw [haction, hread]
                    exact ⟨rfl, rfl⟩
                  · cases h
        | operation =>
            unfold processOperationEvent
            obtain hread | ⟨operation, -, h⟩ := bind_error h
            · dsimp only
              rw [hread]
              exact ⟨rfl, rfl⟩
            · cases h
        | state =>
            unfold processStateEvent
            obtain hread | ⟨_, -, h⟩ := bind_error h
            · rw [hread]
              exact ⟨rfl, rfl⟩
            · cases h

/-- **The session behind its reader.** An event that can be read is answered as the
typed session answers what was read, with the same messages, and both sessions keep
the same. -/
theorem processEvent_read (h : s.core = typedCore r) (hstr : builtins.Shows)
    {event : EventPayload}
    (hread : s.readEvent casing builtins payload = .ok event) :
    Follows (s.processEvent casing builtins payload eventIndex)
      (r.processEvent casing event eventIndex) := by
  cases payload with
  | null | bool | int | float | text | list => cases hread
  | dict fields =>
      let counted := { s with eventsProcessed := s.eventsProcessed + 1 }
      have hcounted : counted.core = typedCore r := h
      unfold readEvent at hread
      obtain ⟨type, htype, hread⟩ := bind_ok hread
      unfold processEvent
      dsimp only
      rw [htype]
      cases type with
      | session =>
          obtain ⟨action, haction, hread⟩ := bind_ok hread
          cases hread
          exact processSessionEvent_follows hcounted hstr haction
      | frame =>
          obtain ⟨frame, hframe, hread⟩ := bind_ok hread
          obtain ⟨action, haction, hread⟩ := bind_ok hread
          cases hread
          exact processFrameEvent_follows hcounted hframe haction
      | resource =>
          obtain ⟨action, haction, hread⟩ := bind_ok hread
          cases action with
          | release =>
              cases hread
              exact processResourceEvent_release_follows hcounted haction
          | register =>
              obtain ⟨resource, hresource, hread⟩ := bind_ok hread
              cases hread
              exact processResourceEvent_register_follows hcounted haction hresource
      | operation =>
          obtain ⟨operation, hoperation, hread⟩ := bind_ok hread
          cases hread
          exact processOperationEvent_follows hcounted hoperation
      | state =>
          obtain ⟨_, haction, hread⟩ := bind_ok hread
          cases hread
          exact processStateEvent_follows hcounted haction

end

/-- What a session reads of a stream of events, in the order of the stream. -/
def readEvents (casing : Casing) (builtins : Builtins) :
    RuntimeAdapterSession → List (Json × Option Nat) → List (EventPayload × Option Nat)
  | _, [] => []
  | s, event :: events =>
    let rest := readEvents casing builtins (s.processEvent casing builtins event.1 event.2).2 events
    match s.readEvent casing builtins event.1 with
    | .ok read => (read, event.2) :: rest
    | .error _ => rest

/-- **Two sessions, one run.** After every stream of events, whatever raises, the
session keeps what the typed session keeps after the events that were read. -/
theorem run_core (casing : Casing) (hstr : builtins.Shows) (events : List (Json × Option Nat)) :
    (run casing builtins events).core =
      typedCore ((readEvents casing builtins {} events).foldl
        (fun r event => (r.processEvent casing event.1 event.2).2) {}) := by
  have hevents : ∀ (s : RuntimeAdapterSession) (r : Runtime.RuntimeAdapterSession),
      s.core = typedCore r →
        (events.foldl (fun s event => (s.processEvent casing builtins event.1 event.2).2) s).core =
          typedCore ((readEvents casing builtins s events).foldl
            (fun r event => (r.processEvent casing event.1 event.2).2) r) := by
    induction events with
    | nil => exact fun _ _ h => h
    | cons event events ih =>
        intro s r h
        rw [List.foldl_cons]
        unfold readEvents
        cases hread : s.readEvent casing builtins event.1 with
        | error e =>
            refine ih _ r ?_
            rw [(processEvent_unread hread).2]
            exact h
        | ok read =>
            rw [List.foldl_cons]
            exact ih _ _ (processEvent_read h hstr hread).core
  exact hevents {} {} rfl

end RuntimeAdapterSession

end FluidGateway.Adapter
