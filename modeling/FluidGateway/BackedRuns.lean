import FluidGateway.BackedOperations
import FluidGateway.Lib.Lockstep

/-!
# Runs of the reference server

What one request does to the session and to the runtime behind it
(`process_handled`), and what a run has accepted: the operations of the wire
that were answered with a decision.
-/

namespace FluidGateway.FluidLink

open FluidGateway.Adapter (EventType Payload)
open Native (Bytes)

/-! ## One request -/

/-- A response that is no decision. -/
def Undecided (response : Except PyException FluidLinkV2Frame) : Prop :=
  ∀ frame, response = .ok frame → frame.opcode ≠ 11

/-- An answer with an opcode other than 11 holds no decision, whether it can be written or
not. -/
theorem undecided_written (opcode : ℕ) (hopcode : opcode ≠ 11) (payload : Except PyException Bytes)
    (response : Bytes → FluidLinkV2Frame) (hresponse : ∀ bytes, (response bytes).opcode = opcode) :
    Undecided (do
      let payload ← payload
      return response payload) := by
  intro frame h
  cases payload with
  | error e => cases h
  | ok payload =>
      cases h
      rw [hresponse]
      exact hopcode

namespace FluidLinkV2ServerSession

variable {σ : Type} {s t : FluidLinkV2ServerSession} {request : FluidLinkV2Frame}
  {handler : EventHandler σ} {runtime : σ}

/-- An error holds no decision. -/
theorem error_undecided (s : FluidLinkV2ServerSession) (request : FluidLinkV2Frame)
    (code : FluidLinkV2ErrorCode) (message : String) : Undecided (s.error request code message) :=
  undecided_written 255 (by decide) _ _ fun _ => rfl

/-- Everything that a request can do. -/
inductive Handled (handler : EventHandler σ) (s : FluidLinkV2ServerSession)
    (request : FluidLinkV2Frame) (runtime : σ) :
    Except PyException FluidLinkV2Frame × FluidLinkV2ServerSession × σ → Prop
  | aside {response : Except PyException FluidLinkV2Frame} {t : FluidLinkV2ServerSession}
      (undecided : Undecided response) (closed : s.closed = true → t.closed = true) :
      Handled handler s request runtime (response, t, runtime)
  | event {type : EventType} {payload : Payload} {t : FluidLinkV2ServerSession}
      (opened : s.closed = false) (subject : eventOfOpcode request.subjectOpcode = some type)
      (decoded : decodeRuntimeEventPayload type request.payload = .ok payload) :
      Handled handler s request runtime
        (t.runtimeDecision request type (handler payload runtime).1, t,
          (handler payload runtime).2)
  | batch {batch : WireBatch} {decisions : List (ℕ × CompactResponse)} {payload : Bytes}
      {after : σ} {t : FluidLinkV2ServerSession} (opened : s.closed = false)
      (subject : request.subjectOpcode = 105)
      (decoded : decodeOperationBatchEventPayload request.payload = .ok batch)
      (decided : batchDecisions handler batch batch.operationCount 0 [] runtime =
        (.ok decisions, after)) :
      Handled handler s request runtime
        (.ok (fluidlinkV2Response request 11 t.sessionId payload 105 7), t, after)
  | broken {response : Except PyException FluidLinkV2Frame} {after : σ}
      {t : FluidLinkV2ServerSession} (subject : request.subjectOpcode = 105)
      (undecided : Undecided response) (closed : t.closed = true) :
      Handled handler s request runtime (response, t, after)

/-- A hello is answered without a decision and does not close the session. -/
theorem handleHello_aside (uuid : Bytes) :
    Undecided (s.handleHello uuid request).1 ∧
      (s.handleHello uuid request).2.closed = s.closed := by
  unfold handleHello
  dsimp only
  split_ifs
  · exact ⟨error_undecided _ _ _ _, rfl⟩
  · split
    · exact ⟨error_undecided _ _ _ _, rfl⟩
    · split
      · exact ⟨error_undecided _ _ _ _, rfl⟩
      · split_ifs
        · exact ⟨error_undecided _ _ _ _, rfl⟩
        · exact ⟨error_undecided _ _ _ _, rfl⟩
        · exact ⟨undecided_written 2 (by decide) _ _ fun _ => rfl, rfl⟩

/-- A ping is answered without a decision. -/
theorem handlePing_undecided : Undecided (s.handlePing request) := by
  unfold handlePing
  split_ifs
  · exact error_undecided _ _ _ _
  · split
    · exact error_undecided _ _ _ _
    · exact undecided_written 21 (by decide) _ _ fun _ => rfl

/-- A goodbye leaves the runtime alone. -/
theorem handleGoodbye_handled :
    Handled handler s request runtime
      ((s.handleGoodbye request).1, (s.handleGoodbye request).2, runtime) := by
  unfold handleGoodbye
  split_ifs
  · refine .aside (error_undecided _ _ _ _) id
  · refine .aside ?_ fun _ => rfl
    rintro frame ⟨⟩
    exact (by decide : 30 ≠ 11)

/-- A batch is handled by its items, one after the other. -/
theorem handleOperationBatch_handled (h : s.closed = false)
    (hsubject : request.subjectOpcode = 105) :
    Handled handler s request runtime (s.handleOperationBatch handler request runtime) := by
  unfold handleOperationBatch
  split_ifs
  · exact .aside (error_undecided _ _ _ _) id
  · split
    · exact .aside (error_undecided _ _ _ _) id
    · next batch hdecoded =>
        cases hdecisions : batchDecisions handler batch batch.operationCount 0 [] runtime with
        | mk decisions after =>
            dsimp only
            split
            · exact .broken hsubject (error_undecided _ _ _ _) rfl
            · next payload hpayload =>
                cases decisions with
                | error e => cases hpayload
                | ok decisions => exact .batch h hsubject hdecoded hdecisions

/-- An event is handled by the runtime, or refused before it. -/
theorem handleRuntimeEvent_handled (h : s.closed = false) :
    Handled handler s request runtime (s.handleRuntimeEvent handler request runtime) := by
  unfold handleRuntimeEvent
  split_ifs with hcapable hbatch
  · exact .aside (error_undecided _ _ _ _) id
  · exact handleOperationBatch_handled h hbatch
  · split
    · exact .aside (error_undecided _ _ _ _) id
    · next type hsubject =>
        split
        · exact .aside (error_undecided _ _ _ _) id
        · next payload hdecoded => exact .event h hsubject hdecoded

/-- A request of an open session is handled by what its opcode asks for. -/
theorem dispatch_handled (h : s.closed = false) :
    Handled handler s request runtime (s.dispatch handler request runtime) := by
  unfold dispatch
  split_ifs
  · exact .aside (error_undecided _ _ _ _) id
  · exact handleRuntimeEvent_handled h
  · exact .aside (error_undecided _ _ _ _) id
  · exact .aside handlePing_undecided id
  · exact handleGoodbye_handled
  · exact .aside (error_undecided _ _ _ _) id

/-- The sequence number makes no difference to what a request does. -/
theorem Handled.sequenced {sequence : ℕ}
    {out : Except PyException FluidLinkV2Frame × FluidLinkV2ServerSession × σ}
    (h : Handled handler { s with expectedSequence := sequence } request runtime out) :
    Handled handler s request runtime out := by
  cases h with
  | aside undecided closed => exact .aside undecided closed
  | event opened subject decoded => exact .event opened subject decoded
  | batch opened subject decoded decided => exact .batch opened subject decoded decided
  | broken subject undecided closed => exact .broken subject undecided closed

/-- Every request is handled so, by the checks in their order. -/
theorem process_handled (uuid : Bytes) :
    Handled handler s request runtime (s.process uuid handler request runtime) := by
  unfold process
  split_ifs with hkind hsequence hsession hhello hidentity hclosed
  · exact .aside (error_undecided _ _ _ _) id
  · exact .aside (error_undecided _ _ _ _) id
  · exact .aside (error_undecided _ _ _ _) id
  · dsimp only
    have haside := @handleHello_aside { s with expectedSequence := s.expectedSequence + 1 }
      request uuid
    generalize handleHello { s with expectedSequence := s.expectedSequence + 1 } uuid request =
      out at haside
    exact .aside haside.1 fun hclosed => haside.2.trans hclosed
  · exact .aside (error_undecided _ _ _ _) id
  · exact .aside (error_undecided _ _ _ _) id
  · exact Handled.sequenced (dispatch_handled (Bool.eq_false_iff.mpr hclosed))

end FluidLinkV2ServerSession

/-! ## What is read of an operation -/

namespace PayloadReader

/-- An integer that was read fits its width. -/
theorem integer_lt {width value : ℕ} {data rest : Bytes}
    (h : integer width data = .ok (value, rest)) : value < 256 ^ width := by
  obtain ⟨bytes, _, htake, hvalue⟩ := Reading.bind_eq_ok.mp h
  cases Reading.pure_eq_ok.mp hvalue
  unfold take at htake
  split_ifs at htake with hshort
  cases htake
  have hlength : (data.take width).length = width := by
    rw [List.length_take]
    omega
  have hlt := LittleEndian.decode_lt (data.take width)
  rwa [hlength] at hlt

/-- An enumeration that was read is in its table. -/
theorem enum_mem {values : List (String × ℕ)} {name value : String} {data rest : Bytes}
    (h : enum values name data = .ok (value, rest)) : value ∈ values.map Prod.fst := by
  obtain ⟨opcode, data', _, hfound⟩ := Reading.bind_eq_ok.mp h
  cases hfind : values.find? fun item => item.2 = opcode with
  | none =>
      rw [hfind] at hfound
      cases hfound
  | some item =>
      rw [hfind] at hfound
      cases Reading.pure_eq_ok.mp hfound
      exact List.mem_map_of_mem (List.mem_of_find?_eq_some hfind)

/-- A text that was read is not blank, where it may not be empty. -/
theorem text_visible {width maximumBytes : ℕ} {value : String} {data rest : Bytes}
    (h : text width maximumBytes false data = .ok (value, rest)) : strip value ≠ "" := by
  obtain ⟨size, _, _, h⟩ := Reading.bind_eq_ok.mp h
  obtain ⟨_, _, _, h⟩ := Reading.bind_eq_ok.mp h
  obtain ⟨bytes, _, _, h⟩ := Reading.bind_eq_ok.mp h
  cases hdecode : decodeUtf8 bytes with
  | none =>
      rw [hdecode] at h
      cases h
  | some text =>
      rw [hdecode] at h
      obtain ⟨_, _, hvisible, h⟩ := Reading.bind_eq_ok.mp h
      cases Reading.pure_eq_ok.mp h
      obtain ⟨hvisible, -⟩ := Reading.require_eq_ok.mp hvisible
      simpa using hvisible

/-- A payload that was read was read by its reader, to the end. -/
theorem run_eq_ok {α : Type} {p : PayloadReader α} {payload : Bytes} {a : α}
    (h : p.run payload = .ok a) : ∃ rest, p payload = .ok (a, rest) := by
  unfold run at h
  change ((do let a ← p; finish; return a : PayloadReader α) payload).map Prod.fst = .ok a at h
  cases hread : (do let a ← p; finish; return a : PayloadReader α) payload with
  | error e =>
      rw [hread] at h
      cases h
  | ok x =>
      rw [hread] at h
      cases h
      obtain ⟨a, rest, hp, hfinish⟩ := Reading.bind_eq_ok.mp hread
      obtain ⟨_, _, _, hreturn⟩ := Reading.bind_eq_ok.mp hfinish
      cases Reading.pure_eq_ok.mp hreturn
      exact ⟨rest, hp⟩

end PayloadReader

/-- The fields of an operation that a reader lets through. -/
structure WireOperation.Read (o : WireOperation) : Prop where
  typed : o.Typed
  cost : o.costUs < 2 ^ 32

/-- The rest of an operation that was read has fields within their limits. -/
theorem operationTail_read {head : String × String × ℕ} {o : WireOperation} {data rest : Bytes}
    (htyped : head.1 ∈ operationTypes.map Prod.fst)
    (h : operationTail head data = .ok (o, rest)) : o.Read := by
  obtain ⟨source, _, _, h⟩ := Reading.bind_eq_ok.mp h
  obtain ⟨target, _, _, h⟩ := Reading.bind_eq_ok.mp h
  obtain ⟨reason, _, _, h⟩ := Reading.bind_eq_ok.mp h
  obtain ⟨cost, _, hcost, h⟩ := Reading.bind_eq_ok.mp h
  obtain ⟨size, _, _, h⟩ := Reading.bind_eq_ok.mp h
  obtain ⟨frame, _, _, h⟩ := Reading.bind_eq_ok.mp h
  obtain ⟨dependsOn, _, _, h⟩ := Reading.bind_eq_ok.mp h
  cases Reading.pure_eq_ok.mp h
  exact ⟨htyped, PayloadReader.integer_lt hcost⟩

/-- The head of an operation that was read has a known type. -/
theorem operationHead_typed {name : String} {head : String × String × ℕ} {data rest : Bytes}
    (h : operationHead name data = .ok (head, rest)) :
    head.1 ∈ operationTypes.map Prod.fst := by
  obtain ⟨operationType, _, htype, h⟩ := Reading.bind_eq_ok.mp h
  obtain ⟨queue, _, _, h⟩ := Reading.bind_eq_ok.mp h
  obtain ⟨presence, _, _, h⟩ := Reading.bind_eq_ok.mp h
  cases Reading.pure_eq_ok.mp h
  exact PayloadReader.enum_mem htype

/-- The operation of an event, with its id. -/
def operationOf (payload : Bytes) : Option (String × WireOperation) :=
  match (readEvent .operation).run payload with
  | .ok (.operation id operation) => some (id, operation)
  | _ => none

/-- The dictionary of an operation event holds what has been read. -/
theorem operationOf_decoded {payload : Bytes} {fields : Payload}
    (h : decodeRuntimeEventPayload .operation payload = .ok fields) :
    ∃ id o, operationOf payload = some (id, o) ∧ strip id ≠ "" ∧ o.Read ∧ Holds fields id o := by
  unfold decodeRuntimeEventPayload at h
  cases hrun : (readEvent .operation).run payload with
  | error e =>
      rw [hrun] at h
      cases h
  | ok wire =>
      rw [hrun] at h
      cases h
      obtain ⟨rest, hread⟩ := PayloadReader.run_eq_ok hrun
      obtain ⟨head, _, hhead, hread⟩ := Reading.bind_eq_ok.mp hread
      obtain ⟨id, _, hid, hread⟩ := Reading.bind_eq_ok.mp hread
      obtain ⟨o, _, htail, hread⟩ := Reading.bind_eq_ok.mp hread
      cases Reading.pure_eq_ok.mp hread
      refine ⟨id, o, ?_, PayloadReader.text_visible hid,
        operationTail_read (operationHead_typed hhead) htail, holds_operation id o⟩
      unfold operationOf
      rw [hrun]

/-- The template of a batch is read like an operation. -/
theorem decodedBatch_read {payload : Bytes} {batch : WireBatch}
    (h : decodeOperationBatchEventPayload payload = .ok batch) :
    batch.operation.Read ∧ 0 < batch.operationCount := by
  obtain ⟨rest, hread⟩ := PayloadReader.run_eq_ok h
  obtain ⟨batchId, _, _, hread⟩ := Reading.bind_eq_ok.mp hread
  obtain ⟨_, _, _, hread⟩ := Reading.bind_eq_ok.mp hread
  obtain ⟨count, _, _, hread⟩ := Reading.bind_eq_ok.mp hread
  obtain ⟨_, _, hcount, hread⟩ := Reading.bind_eq_ok.mp hread
  obtain ⟨head, _, hhead, hread⟩ := Reading.bind_eq_ok.mp hread
  obtain ⟨o, _, htail, hread⟩ := Reading.bind_eq_ok.mp hread
  cases Reading.pure_eq_ok.mp hread
  exact ⟨operationTail_read (operationHead_typed hhead) htail,
    (Reading.require_eq_ok.mp hcount).1.1⟩

/-- The id of an item is not blank. -/
theorem itemId_visible (batch : WireBatch) (ordinal : ℕ) : strip (batch.itemId ordinal) ≠ "" := by
  have hlist : (batch.itemId ordinal).toList =
      'b' :: ("atch-" ++ hexText batch.batchId ++ "-" ++ ordinalText ordinal).toList := by
    simp [WireBatch.itemId, String.toList_append]
  have hb : isSpace 'b' = false := by decide
  intro hblank
  have hempty := congrArg String.toList hblank
  rw [strip_toList, hlist, List.dropWhile_cons_of_neg (by simp [hb]), String.toList_empty,
    List.rdropWhile_eq_nil_iff] at hempty
  have hspace := hempty 'b' List.mem_cons_self
  rw [hb] at hspace
  cases hspace

/-! ## What has been accepted -/

/-- The operations that a request submits, by the ids that the runtime keeps. -/
def submissions (request : FluidLinkV2Frame) : List (String × WireOperation) :=
  if request.subjectOpcode = 103 then
    (operationOf request.payload).toList.map fun item => (strip item.1, item.2)
  else if request.subjectOpcode = 105 then
    match decodeOperationBatchEventPayload request.payload with
    | .ok batch =>
      (List.range batch.operationCount).map fun ordinal =>
        (strip (batch.itemId ordinal), batch.operation)
    | .error _ => []
  else []

/-- The operations that a request had accepted. -/
def accepted (request : FluidLinkV2Frame) (response : Except PyException FluidLinkV2Frame) :
    List (String × WireOperation) :=
  match response with
  | .ok frame => if frame.opcode = 11 then submissions request else []
  | .error _ => []

/-- An answer without a decision accepts nothing. -/
theorem accepted_of_undecided {request : FluidLinkV2Frame}
    {response : Except PyException FluidLinkV2Frame} (h : Undecided response) :
    accepted request response = [] := by
  unfold accepted
  split
  · exact if_neg (h _ rfl)
  · rfl

/-! ## Runs -/

section

open FluidGateway.Adapter (Builtins RuntimeAdapterSession)

variable (casing : Runtime.Casing) (builtins : Builtins) (conversionText : String)

/-- Serve a request, with the identity that a session would be given. -/
def serve (s : FluidLinkV2ServerSession × RuntimeAdapterSession)
    (request : Bytes × FluidLinkV2Frame) :
    Except PyException FluidLinkV2Frame × FluidLinkV2ServerSession × RuntimeAdapterSession :=
  s.1.process request.1 (RuntimeAdapterSession.handler casing builtins conversionText) request.2 s.2

/-- A connection that has been accepted. -/
def fresh (serverName serverVersion : String) :
    FluidLinkV2ServerSession × RuntimeAdapterSession :=
  ({ serverName, serverVersion }, {})

/-- What a run has accepted, in order. -/
def acceptedBy (s : FluidLinkV2ServerSession × RuntimeAdapterSession) :
    List (Bytes × FluidLinkV2Frame) → List (String × WireOperation)
  | [] => []
  | request :: requests =>
    accepted request.2 (serve casing builtins conversionText s request).1 ++
      acceptedBy (serve casing builtins conversionText s request).2 requests

/-- **What every request keeps of the session and of what was accepted holds
after every run.** -/
theorem run_invariant (good : Bytes × FluidLinkV2Frame → Prop)
    (inv : List (String × WireOperation) → FluidLinkV2ServerSession × RuntimeAdapterSession → Prop)
    (hstep : ∀ log s request, good request → inv log s →
      inv (log ++ accepted request.2 (serve casing builtins conversionText s request).1)
        (serve casing builtins conversionText s request).2)
    {requests : List (Bytes × FluidLinkV2Frame)} (hgood : ∀ request ∈ requests, good request)
    {log : List (String × WireOperation)} {s : FluidLinkV2ServerSession × RuntimeAdapterSession}
    (h : inv log s) :
    inv (log ++ acceptedBy casing builtins conversionText s requests)
      (Lockstep.final (serve casing builtins conversionText) s requests) := by
  induction requests generalizing log s with
  | nil => simpa [acceptedBy] using h
  | cons request requests ih =>
      have hfirst := hstep log s request (hgood request List.mem_cons_self) h
      have hrest := ih (fun r hr => hgood r (List.mem_cons_of_mem _ hr)) hfirst
      rwa [List.append_assoc] at hrest

end

end FluidGateway.FluidLink
