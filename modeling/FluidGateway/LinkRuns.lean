import FluidGateway.BackedSession
import FluidGateway.Lib.Sequenced
import FluidGateway.LinkSession

/-!
# Runs of a FluidLink v1 session

What one request can do is said once (`Processed`).  From this: a session takes its
requests in sequence, so that repeating them does nothing (`link_redelivered`); the
runtime behind it has seen the events of the requests that were decided, each once
and in order (`link_events`); and every answer is a valid frame that names its
request (`link_answers`).
-/

namespace FluidGateway.FluidLink

open Native (Bytes)
open FluidGateway.Adapter (Json Payload EventType PyFloat get)
open Lockstep

/-! ## One request -/

namespace FluidLinkServerSession

variable {σ : Type} {handler : EventHandler σ}

/-- The session has taken the request of its number. -/
def advanced (s : FluidLinkServerSession) : FluidLinkServerSession :=
  { s with expectedSequence := s.expectedSequence + 1 }

/-- A request of the negotiated session that is still open. -/
structure Admitted (s : FluidLinkServerSession) (request : FluidLinkFrame) : Prop where
  sequence : request.sequence = s.expectedSequence
  negotiated : s.sessionId.isSome
  session : request.sessionId = s.sessionId
  standing : s.closed = false

/-- The requests whose event is handed to the runtime. -/
structure Decides (s : FluidLinkServerSession) (request : FluidLinkFrame) (event : EventType) :
    Prop extends Admitted s request where
  opcode : request.opcode = 10
  capabilities : runtimeCapabilities ⊆ s.acceptedCapabilities
  event : eventOfOpcode request.subjectOpcode = some event

/-- What a request can do. -/
inductive Processed (s : FluidLinkServerSession) (uuid : Bytes) (handler : EventHandler σ)
    (request : FluidLinkFrame) (runtime : σ) : FluidLinkFrame × FluidLinkServerSession × σ → Prop
  | ignored (code message : String) :
      Processed s uuid handler request runtime
        (fluidlinkErrorResponse request code message s.sessionId, s, runtime)
  | refused (sequence : request.sequence = s.expectedSequence) (code message : String) :
      Processed s uuid handler request runtime
        (fluidlinkErrorResponse request code message s.sessionId, s.advanced, runtime)
  | welcomed (sequence : request.sequence = s.expectedSequence) (fresh : s.sessionId = none)
      {payload : Payload} (valid : validateJsonValue (.dict payload) 1 = .ok ())
      (requested : Finset String) {required : Finset String}
      (available : required ⊆ linkCapabilities) :
      Processed s uuid handler request runtime
        (fluidlinkResponse request 2 (some uuid) payload,
          { s.advanced with
            sessionId := some uuid
            acceptedCapabilities := (requested ∪ required) ∩ linkCapabilities }, runtime)
  | decided {event : EventType} (decides : s.Decides request event) :
      Processed s uuid handler request runtime
        (s.runtimeDecision request event (handler (eventOf request event) runtime).1, s.advanced,
          (handler (eventOf request event) runtime).2)
  | ponged (admitted : s.Admitted request) {nonce : String} :
      Processed s uuid handler request runtime
        (fluidlinkResponse request 21 s.sessionId [("nonce", .text nonce)], s.advanced, runtime)
  | closing (admitted : s.Admitted request) :
      Processed s uuid handler request runtime
        (fluidlinkResponse request 30 s.sessionId [("closed", .bool true)],
          { s.advanced with closed := true }, runtime)

/-- A list of texts is valid JSON, at any depth. -/
theorem validateItems_text (texts : List String) (depth : Nat) :
    validateItems (texts.map Json.text) depth = .ok () := by
  induction texts with
  | nil => rfl
  | cons text texts ih =>
      rw [List.map_cons, validateItems, ih]
      rfl

/-- The texts of a difference: none is left where none is listed. -/
theorem subset_of_sortedTexts {texts available : Finset String}
    (h : sortedTexts (texts \ available) = []) : texts ⊆ available := by
  intro text htext
  by_contra hmissing
  have hmem : text ∈ sortedTexts (texts \ available) :=
    (Finset.mem_sort _).mpr (Finset.mem_sdiff.mpr ⟨htext, hmissing⟩)
  rw [h] at hmem
  cases hmem

/-- A hello that is in turn opens the session or is refused; the runtime is not asked. -/
theorem handleHello_processed {s : FluidLinkServerSession} {request : FluidLinkFrame}
    (hsequence : request.sequence = s.expectedSequence) (hfresh : s.sessionId = none)
    (uuid : Bytes) (handler : EventHandler σ) (runtime : σ) :
    Processed s uuid handler request runtime
      ((s.advanced.handleHello uuid request).1, (s.advanced.handleHello uuid request).2,
        runtime) := by
  have herror : ∀ code message : String, Processed s uuid handler request runtime
      (fluidlinkErrorResponse request code message, s.advanced, runtime) := by
    intro code message
    have hrefused : Processed s uuid handler request runtime
      (fluidlinkErrorResponse request code message s.sessionId, s.advanced, runtime) :=
        .refused hsequence code message
    rwa [hfresh] at hrefused
  unfold handleHello
  split
  · exact herror _ _
  · split
    · split
      · exact herror _ _
      · split
        · exact herror _ _
        · split
          · exact herror _ _
          · split
            · exact herror _ _
            · next requested required _ =>
                dsimp only
                split
                · exact herror _ _
                · next hall =>
                    refine .welcomed hsequence hfresh ?_ requested (subset_of_sortedTexts ?_)
                    · simp only [validateJsonValue, validateFields, validateItems_text]
                      rfl
                    · exact not_not.mp hall
    · exact herror _ _

/-- A request that was admitted is answered by what its opcode asks for; only an event
reaches the runtime. -/
theorem dispatch_processed {s : FluidLinkServerSession} {request : FluidLinkFrame}
    (hadmitted : s.Admitted request) (uuid : Bytes) (handler : EventHandler σ) (runtime : σ) :
    Processed s uuid handler request runtime (s.advanced.dispatch handler request runtime) := by
  have herror : ∀ code message : String, Processed s uuid handler request runtime
      (fluidlinkErrorResponse request code message s.sessionId, s.advanced, runtime) :=
    fun code message => .refused hadmitted.sequence code message
  unfold dispatch
  split
  · exact herror _ _
  · split
    · next hopcode =>
        change Processed s uuid handler request runtime
          ((s.advanced.handleRuntimeEvent handler request runtime).1, s.advanced,
            (s.advanced.handleRuntimeEvent handler request runtime).2)
        unfold handleRuntimeEvent
        split
        · exact herror _ _
        · next hcapabilities =>
            cases hevent : eventOfOpcode request.subjectOpcode with
            | none => exact herror _ _
            | some event => exact .decided ⟨hadmitted, hopcode, not_not.mp hcapabilities, hevent⟩
    · split
      · exact herror _ _
      · split
        · unfold handlePing
          split
          · exact herror _ _
          · dsimp only
            split
            · exact herror _ _
            · next hnonce =>
                cases hget : get request.payload "nonce" with
                | text nonce => exact .ponged hadmitted
                | null | bool | int | float | list | dict =>
                    rw [hget] at hnonce
                    exact absurd rfl hnonce
        · split
          · exact .closing hadmitted
          · exact herror _ _

/-- Every request is processed in one of the listed ways, by the checks in their order. -/
theorem process_processed (s : FluidLinkServerSession) (uuid : Bytes) (handler : EventHandler σ)
    (request : FluidLinkFrame) (runtime : σ) :
    Processed s uuid handler request runtime (s.process uuid handler request runtime) := by
  unfold process
  split
  · exact .ignored _ _
  · split
    · exact .ignored _ _
    · next hsequence =>
        have hsequence := not_not.mp hsequence
        split
        · next hfresh =>
            dsimp only
            split
            · have hrefused : Processed s uuid handler request runtime
                  (fluidlinkErrorResponse request "handshake_required"
                    "A FluidLink hello request is required first." s.sessionId, s.advanced,
                    runtime) := .refused hsequence _ _
              rwa [hfresh] at hrefused
            · exact handleHello_processed hsequence hfresh uuid handler runtime
        · next hnegotiated =>
            split
            · exact .ignored _ _
            · next hsession =>
                split
                · exact .ignored _ _
                · next hopen =>
                    exact dispatch_processed ⟨hsequence,
                      Option.isSome_iff_ne_none.mpr hnegotiated, not_not.mp hsession,
                      Bool.eq_false_of_not_eq_true hopen⟩ uuid handler runtime

end FluidLinkServerSession

/-! ## Redelivery -/

section

variable {σ : Type} (handler : EventHandler σ)

/-- A session and its runtime, given requests with the identities that `uuid4`
returns for them. -/
def link (s : FluidLinkServerSession × σ) (input : Bytes × FluidLinkFrame) :
    FluidLinkFrame × FluidLinkServerSession × σ :=
  s.1.process input.1 handler input.2 s.2

/-- The number of the request that is awaited. -/
def awaited (s : FluidLinkServerSession × σ) : Nat :=
  s.1.expectedSequence

/-- The number of a request. -/
def inputSequence (input : Bytes × FluidLinkFrame) : Nat :=
  input.2.sequence

/-- A request out of turn changes neither session nor runtime, and one in turn raises the
awaited number by one. -/
theorem link_sequenced : Sequenced (link handler) awaited inputSequence := by
  intro s input
  have hprocessed := s.1.process_processed input.1 handler input.2 s.2
  unfold link
  generalize s.1.process input.1 handler input.2 s.2 = answer at hprocessed ⊢
  cases hprocessed with
  | ignored => exact .inl rfl
  | refused sequence => exact .inr ⟨sequence, rfl⟩
  | welcomed sequence => exact .inr ⟨sequence, rfl⟩
  | decided decides => exact .inr ⟨decides.sequence, rfl⟩
  | ponged admitted => exact .inr ⟨admitted.sequence, rfl⟩
  | closing admitted => exact .inr ⟨admitted.sequence, rfl⟩

/-- **Redelivery is harmless.** Let a session take all of some requests.  However
often they are repeated, and whatever else comes that is not awaited, the session
and its runtime end as if each request had come once, in order, and the requests
have been given the same answers. -/
theorem link_redelivered {s : FluidLinkServerSession × σ}
    {requests arrivals : List (Bytes × FluidLinkFrame)}
    (htaken : Taken (link handler) awaited s requests)
    (h : Delivered inputSequence (awaited s) requests arrivals) :
    final (link handler) s arrivals = final (link handler) s requests ∧
      effects (link handler) awaited s arrivals = effects (link handler) awaited s requests :=
  h.effects (link_sequenced handler) htaken

end

/-- A runtime that counts its events. -/
def countEvents : EventHandler ℕ := fun _ count => (.ok [("ok", .bool true)], count + 1)

/-- A session whose fifth request is awaited. -/
def fifthAwaited : FluidLinkServerSession where
  serverName := "fluidgateway"
  serverVersion := "1.0"
  sessionId := some (List.replicate 16 2)
  expectedSequence := 5
  acceptedCapabilities := linkCapabilities

/-- A request that comes twice is one event. -/
theorem link_redelivered_twice :
    (final (link countEvents) (fifthAwaited, 0) [([], beginFrame), ([], beginFrame)]).2 = 1 := by
  have hdelivered : Delivered inputSequence (awaited (fifthAwaited, 0)) [([], beginFrame)]
      [([], beginFrame), ([], beginFrame)] :=
    .awaited rfl (.unawaited (by decide) (.nil 6))
  have htaken : Taken (link countEvents) awaited (fifthAwaited, 0) [([], beginFrame)] := by
    unfold Taken
    decide +kernel
  rw [(link_redelivered countEvents htaken hdelivered).1]
  decide +kernel

/-! ## The events of a session -/

section

variable {σ : Type} {handler : EventHandler σ} {runtime : σ}

/-- A request with the event that it stands for. -/
abbrev Applied := FluidLinkFrame × EventType

/-- What the runtime has come to by the events of some requests. -/
def applyEvents (handler : EventHandler σ) (runtime : σ) (applied : List Applied) : σ :=
  applied.foldl (fun runtime item => (handler (eventOf item.1 item.2) runtime).2) runtime

/-- The events that a runtime has seen are those of these requests. -/
structure Served (handler : EventHandler σ) (runtime : σ) (s : FluidLinkServerSession × σ)
    (inputs : List (Bytes × FluidLinkFrame)) (applied : List Applied) : Prop where
  runtime : s.2 = applyEvents handler runtime applied
  requests : (applied.map Prod.fst).Sublist (inputs.map Prod.snd)
  increasing : (applied.map fun item => item.1.sequence).Pairwise (· < ·)
  counted : ∀ item ∈ applied, item.1.sequence < s.1.expectedSequence
  decided : ∀ item ∈ applied, item.1.opcode = 10 ∧ item.1.sessionId = s.1.sessionId ∧
    s.1.sessionId.isSome ∧ runtimeCapabilities ⊆ s.1.acceptedCapabilities ∧
    eventOfOpcode item.1.subjectOpcode = some item.2
  closing : s.1.closed = true → s.1.sessionId.isSome

variable {s : FluidLinkServerSession × σ} {inputs : List (Bytes × FluidLinkFrame)}
  {applied : List Applied}

/-- A request that hands no event to the runtime. -/
theorem Served.skip {t : FluidLinkServerSession} (h : Served handler runtime s inputs applied)
    (input : Bytes × FluidLinkFrame) (hsequence : s.1.expectedSequence ≤ t.expectedSequence)
    (hsession : applied ≠ [] → t.sessionId = s.1.sessionId ∧
      t.acceptedCapabilities = s.1.acceptedCapabilities)
    (hclosing : t.closed = true → t.sessionId.isSome) :
    Served handler runtime (t, s.2) (inputs ++ [input]) applied := by
  refine ⟨h.runtime, ?_, h.increasing, fun item hitem => ?_, fun item hitem => ?_, hclosing⟩
  · rw [List.map_append]
    exact h.requests.trans (List.sublist_append_left _ _)
  · exact lt_of_lt_of_le (h.counted item hitem) hsequence
  · obtain ⟨hid, hcapabilities⟩ := hsession (List.ne_nil_of_mem hitem)
    rw [hid, hcapabilities]
    exact h.decided item hitem

/-- A request whose event is handed to the runtime. -/
theorem Served.apply (h : Served handler runtime s inputs applied)
    {input : Bytes × FluidLinkFrame} {event : EventType} (hdecides : s.1.Decides input.2 event) :
    Served handler runtime (s.1.advanced, (handler (eventOf input.2 event) s.2).2)
      (inputs ++ [input]) (applied ++ [(input.2, event)]) := by
  refine ⟨?_, ?_, ?_, ?_, ?_, h.closing⟩
  · unfold applyEvents
    rw [List.foldl_append, h.runtime]
    rfl
  · rw [List.map_append, List.map_append]
    exact h.requests.append (List.Sublist.refl _)
  · rw [List.map_append, List.pairwise_append]
    refine ⟨h.increasing, List.pairwise_singleton _ _, fun number hnumber last hlast => ?_⟩
    obtain ⟨item, hitem, rfl⟩ := List.mem_map.mp hnumber
    rw [List.map_singleton, List.mem_singleton] at hlast
    rw [hlast, hdecides.sequence]
    exact h.counted item hitem
  · intro item hitem
    obtain hold | hnew := List.mem_append.mp hitem
    · exact Nat.lt_succ_of_lt (h.counted item hold)
    · rw [List.mem_singleton.mp hnew]
      exact Nat.lt_succ_of_le hdecides.sequence.le
  · intro item hitem
    obtain hold | hnew := List.mem_append.mp hitem
    · exact h.decided item hold
    · rw [List.mem_singleton.mp hnew]
      exact ⟨hdecides.opcode, hdecides.session, hdecides.negotiated, hdecides.capabilities,
        hdecides.event⟩

/-- One request more is skipped or hands one event to the runtime. -/
theorem Served.step (h : Served handler runtime s inputs applied)
    (input : Bytes × FluidLinkFrame) :
    ∃ applied, Served handler runtime (link handler s input).2 (inputs ++ [input]) applied := by
  have hprocessed := s.1.process_processed input.1 handler input.2 s.2
  unfold link
  generalize s.1.process input.1 handler input.2 s.2 = answer at hprocessed ⊢
  cases hprocessed with
  | ignored => exact ⟨applied, h.skip input (le_refl _) (fun _ => ⟨rfl, rfl⟩) h.closing⟩
  | refused => exact ⟨applied, h.skip input (Nat.le_succ _) (fun _ => ⟨rfl, rfl⟩) h.closing⟩
  | welcomed _ fresh =>
      refine ⟨applied, h.skip input (Nat.le_succ _) (fun hne => ?_) fun _ => rfl⟩
      obtain ⟨item, hitem⟩ := List.exists_mem_of_ne_nil applied hne
      obtain ⟨-, -, hsome, -, -⟩ := h.decided item hitem
      rw [fresh] at hsome
      cases hsome
  | decided decides => exact ⟨_, h.apply decides⟩
  | ponged => exact ⟨applied, h.skip input (Nat.le_succ _) (fun _ => ⟨rfl, rfl⟩) h.closing⟩
  | closing admitted =>
      exact ⟨applied, h.skip input (Nat.le_succ _) (fun _ => ⟨rfl, rfl⟩)
        fun _ => admitted.negotiated⟩

/-- After all requests the runtime has been given the events of a selection of them, in
order, by induction on the requests. -/
theorem served (serverName serverVersion : String) (inputs : List (Bytes × FluidLinkFrame)) :
    ∃ applied, Served handler runtime
      (final (link handler) ({ serverName, serverVersion }, runtime) inputs) inputs applied := by
  induction inputs using List.reverseRecOn with
  | nil =>
      refine ⟨[], rfl, .slnil, .nil, ?_, ?_, fun h => absurd h Bool.false_ne_true⟩ <;>
        (intro item hitem; cases hitem)
  | append_singleton inputs input ih =>
      obtain ⟨applied, h⟩ := ih
      rw [final_append]
      exact h.step input

/-- Nothing moves a session that has been closed. -/
theorem Served.closed (h : Served handler runtime s inputs applied) (hclosed : s.1.closed = true)
    (more : List (Bytes × FluidLinkFrame)) : final (link handler) s more = s := by
  have hstep : ∀ input, (link handler s input).2 = s := by
    intro input
    have hsome := Option.isSome_iff_ne_none.mp (h.closing hclosed)
    unfold link FluidLinkServerSession.process
    simp only [hsome, hclosed, if_true, if_false]
    split_ifs <;> rfl
  induction more with
  | nil => rfl
  | cons input more ih => rw [final_cons, hstep input, ih]

end

section

variable (casing : Runtime.Casing) (builtins : Adapter.Builtins) (conversionText : String)

open FluidGateway.Adapter (RuntimeAdapterSession)

/-- The runtime behind the link is a run of the events that it was handed. -/
theorem applyEvents_handler (applied : List Applied) :
    applyEvents (RuntimeAdapterSession.handler casing builtins conversionText) {} applied =
      RuntimeAdapterSession.run casing builtins
        (applied.map fun item => (.dict (eventOf item.1 item.2), none)) := by
  have hstep : ∀ (payload : Payload) (s : RuntimeAdapterSession),
      (RuntimeAdapterSession.handler casing builtins conversionText payload s).2 =
        (s.processEvent casing builtins (.dict payload) none).2 := by
    intro payload s
    unfold RuntimeAdapterSession.handler
    obtain ⟨answer, t⟩ := s.processEvent casing builtins (.dict payload) none
    cases answer <;> rfl
  unfold applyEvents RuntimeAdapterSession.run
  rw [List.foldl_map]
  exact congrArg (fun step => applied.foldl step {})
    (funext fun s => funext fun item => hstep (eventOf item.1 item.2) s)

/-- **The events behind a link.** Whatever requests a session is given, its runtime
is a run of the events of some of them, each handed on once and in the order of the
sequence numbers, by open requests of the negotiated session only; and once the
session is closed nothing that comes changes it or its runtime. -/
theorem link_events (serverName serverVersion : String)
    (inputs : List (Bytes × FluidLinkFrame)) :
    let handler := RuntimeAdapterSession.handler casing builtins conversionText
    let s := final (link handler) ({ serverName, serverVersion }, {}) inputs
    (∃ applied, Served handler {} s inputs applied ∧
      s.2 = RuntimeAdapterSession.run casing builtins
        (applied.map fun item => (.dict (eventOf item.1 item.2), none))) ∧
      (s.1.closed = false ∨ ∀ more, final (link handler) s more = s) := by
  intro handler s
  obtain ⟨applied, h⟩ : ∃ applied, Served handler {} s inputs applied :=
    served serverName serverVersion inputs
  refine ⟨⟨applied, h, ?_⟩, ?_⟩
  · rw [h.runtime]
    exact applyEvents_handler casing builtins conversionText applied
  · cases hclosed : s.1.closed with
    | false => exact .inl rfl
    | true => exact .inr (h.closed hclosed)

end

/-! ## Answers -/

/-- Sixteen bytes that are not all zero. -/
def Uuid (id : Bytes) : Prop :=
  id.length = 16 ∧ anyByte id = true

/-- An answer that can be encoded, and that names its request. -/
structure Answers (request response : FluidLinkFrame) : Prop where
  valid : response.Valid
  kind : response.kind = .response
  sequence : response.sequence = request.sequence
  message : response.messageId = request.messageId

/-- The flags of a response are known, and agree with its session. -/
theorem response_flags (session ok : Bool) :
    let flags := 4 ||| (if session then 2 else 0) ||| (if ok then 1 else 0)
    (flags ≤ 255 ∧ flags - (flags &&& 7) = 0 ∧ flags &&& 4 ≠ 0) ∧
      (flags &&& 2 ≠ 0 ↔ session = true) := by
  cases session <;> cases ok <;> decide

/-- A response with a valid payload answers its request with a valid frame. -/
theorem fluidlinkResponse_answers {request : FluidLinkFrame} (hrequest : request.Valid)
    {opcode subjectOpcode decisionOpcode : Nat} {sessionId : Option Bytes} {payload : Payload}
    (ok : Bool) (hopcode : opcode ≤ 255) (hsubject : subjectOpcode ≤ 255)
    (hdecision : decisionOpcode ≤ 255) (hsession : ∀ id ∈ sessionId, Uuid id)
    (hpayload : validateJsonValue (.dict payload) 1 = .ok ()) :
    Answers request
      (fluidlinkResponse request opcode sessionId payload subjectOpcode decisionOpcode ok) := by
  obtain ⟨hflags, hflag⟩ := response_flags sessionId.isSome ok
  exact ⟨⟨hpayload, hrequest.message, hrequest.sequence, hopcode, hsubject, hdecision, hflags,
    ⟨hflag, hsession⟩, fun h => by cases h⟩, rfl, rfl, rfl⟩

/-- An error answers its request with a valid frame, whatever its text. -/
theorem fluidlinkErrorResponse_answers {request : FluidLinkFrame} (hrequest : request.Valid)
    (code message : String) {sessionId : Option Bytes} (hsession : ∀ id ∈ sessionId, Uuid id) :
    Answers request (fluidlinkErrorResponse request code message sessionId) :=
  fluidlinkResponse_answers hrequest false (le_refl _) hrequest.subject (le_refl _) hsession rfl

/-- A numeric value is finite. -/
theorem finite_of_numericValue {value : Json} {name : String} {x : PyFloat}
    (h : numericValue value name = .ok x) : ∃ q, x = .finite q := by
  unfold numericValue at h
  dsimp only at h
  split at h
  · exact ⟨0, (Except.ok.inj h).symm⟩
  · split_ifs at h
    exact ⟨_, (Except.ok.inj h).symm⟩
  · split_ifs at h
    exact ⟨_, (Except.ok.inj h).symm⟩
  · cases h
  · cases h

/-- The opcode of a decision fits its field. -/
theorem decisionOpcode_le {policy : Json} {opcode : ℕ} (h : decisionOpcode policy = .ok opcode) :
    opcode ≤ 255 := by
  unfold decisionOpcode at h
  split at h
  · next name =>
      obtain rfl := Except.ok.inj h
      cases hfound : decisionOpcodeByPolicy.lookup name with
      | none => exact le_refl _
      | some opcode =>
          have hall : ∀ item ∈ decisionOpcodeByPolicy, item.2 ≤ 255 := by decide
          obtain ⟨before, after, hlist, -⟩ := List.lookup_eq_some_iff.mp hfound
          refine hall (name, opcode) ?_
          rw [hlist]
          exact List.mem_append_right before List.mem_cons_self
  · cases h
  · cases h
  · obtain rfl := Except.ok.inj h
    exact le_refl _

/-- Two steps in a row succeed only where the first does and then the second on what it
gave. -/
theorem except_bind_eq_ok {α β : Type} {first : Except PyException α}
    {rest : α → Except PyException β} {b : β} (h : (first >>= rest) = .ok b) :
    ∃ a, first = .ok a ∧ rest a = .ok b := by
  cases first with
  | error e => cases h
  | ok a => exact ⟨a, rfl, h⟩

/-- What is kept of the runtime's answer is valid JSON, with an opcode that fits. -/
theorem compactRuntimeResponse_valid {event : EventType} {response : Payload} {opcode : ℕ}
    {compact : CompactResponse}
    (h : compactRuntimeResponse event response = .ok (opcode, compact)) :
    opcode ≤ 255 ∧ validateJsonValue (.dict compact.dict) 1 = .ok () := by
  unfold compactRuntimeResponse at h
  dsimp only at h
  split at h
  · cases h
    exact ⟨Nat.zero_le _, rfl⟩
  · cases hresult : get response "result" with
    | dict result =>
        rw [hresult] at h
        dsimp only at h
        cases hdecision : get result "decision" with
        | dict decision =>
            rw [hdecision] at h
            obtain ⟨found, hfound, h⟩ := except_bind_eq_ok h
            obtain ⟨savedMs, hms, h⟩ := except_bind_eq_ok h
            obtain ⟨savedMb, hmb, h⟩ := except_bind_eq_ok h
            obtain ⟨ms, rfl⟩ := finite_of_numericValue hms
            obtain ⟨mb, rfl⟩ := finite_of_numericValue hmb
            cases h
            exact ⟨decisionOpcode_le hfound, rfl⟩
        | null | bool | int | float | text | list =>
            rw [hdecision] at h
            cases h
            exact ⟨Nat.zero_le _, rfl⟩
    | null | bool | int | float | text | list =>
        rw [hresult] at h
        cases h

/-- The answer of the runtime, or the error that it raised, is a valid frame. -/
theorem runtimeDecision_answers {s : FluidLinkServerSession} {request : FluidLinkFrame}
    (hrequest : request.Valid) (hsession : ∀ id ∈ s.sessionId, Uuid id) (event : EventType)
    (result : Except PyException Payload) :
    Answers request (s.runtimeDecision request event result) := by
  unfold FluidLinkServerSession.runtimeDecision
  cases hcompact : result >>= compactRuntimeResponse event with
  | error e => exact fluidlinkErrorResponse_answers hrequest _ _ hsession
  | ok decision =>
      obtain ⟨opcode, compact⟩ := decision
      obtain ⟨response, -, hresponse⟩ := except_bind_eq_ok hcompact
      obtain ⟨hopcode, hvalid⟩ := compactRuntimeResponse_valid hresponse
      exact fluidlinkResponse_answers hrequest true (by decide) hrequest.subject hopcode hsession
        hvalid

section

variable {σ : Type} {handler : EventHandler σ} {s : FluidLinkServerSession × σ}

/-- One request is answered by a valid frame, and the session keeps an identity that is one.
The cases are the ways of processing. -/
theorem link_answers_step {input : Bytes × FluidLinkFrame} (hinput : input.2.Valid)
    (huuid : Uuid input.1) (hsession : ∀ id ∈ s.1.sessionId, Uuid id) :
    Answers input.2 (link handler s input).1 ∧
      ∀ id ∈ (link handler s input).2.1.sessionId, Uuid id := by
  have hprocessed := s.1.process_processed input.1 handler input.2 s.2
  unfold link
  generalize s.1.process input.1 handler input.2 s.2 = answer at hprocessed ⊢
  cases hprocessed with
  | ignored => exact ⟨fluidlinkErrorResponse_answers hinput _ _ hsession, hsession⟩
  | refused => exact ⟨fluidlinkErrorResponse_answers hinput _ _ hsession, hsession⟩
  | welcomed _ _ valid =>
      have hidentity : ∀ id ∈ some input.1, Uuid id := by
        intro id hid
        exact Option.some.inj hid ▸ huuid
      exact ⟨fluidlinkResponse_answers hinput true (by decide) (by decide) (by decide) hidentity
        valid, hidentity⟩
  | decided => exact ⟨runtimeDecision_answers hinput hsession _ _, hsession⟩
  | ponged =>
      exact ⟨fluidlinkResponse_answers hinput true (by decide) (by decide) (by decide) hsession rfl,
        hsession⟩
  | closing =>
      exact ⟨fluidlinkResponse_answers hinput true (by decide) (by decide) (by decide) hsession rfl,
        hsession⟩

/-- **Every request is answered by a valid frame.** Whatever valid requests a session
is given and whatever its runtime returns or raises, each answer passes the checks
that are made before it is encoded, and carries the sequence number and the message
of its request.  The names of the server and the texts of the runtime are taken to
be texts with UTF-8 bytes, as all texts of `Json` are. -/
theorem link_answers (serverName serverVersion : String) (runtime : σ)
    {inputs : List (Bytes × FluidLinkFrame)}
    (h : ∀ input ∈ inputs, input.2.Valid ∧ Uuid input.1) :
    List.Forall₂ (fun input response => Answers input.2 response) inputs
      (outputs (link handler) ({ serverName, serverVersion }, runtime) inputs) := by
  have hsession : ∀ id ∈ ({ serverName, serverVersion } : FluidLinkServerSession).sessionId,
      Uuid id := by
    intro id hid
    cases hid
  generalize ({ serverName, serverVersion } : FluidLinkServerSession) = start at hsession
  have hrun : ∀ s : FluidLinkServerSession × σ, (∀ id ∈ s.1.sessionId, Uuid id) →
      List.Forall₂ (fun input response => Answers input.2 response) inputs
        (outputs (link handler) s inputs) := by
    induction inputs with
    | nil => exact fun _ _ => .nil
    | cons input inputs ih =>
        intro s hs
        obtain ⟨hvalid, huuid⟩ := h input List.mem_cons_self
        obtain ⟨hanswer, hnext⟩ := link_answers_step hvalid huuid hs
        exact .cons hanswer (ih (fun other hother => h other (List.mem_cons_of_mem _ hother)) _ hnext)
  exact hrun (start, runtime) hsession

end

/-- The hello of a client that wants all capabilities. -/
def linkHello : FluidLinkFrame where
  kind := .request
  opcode := 1
  subjectOpcode := 0
  decisionOpcode := 0
  flags := 4
  sequence := 1
  messageId := List.replicate 16 1
  sessionId := none
  payload := [("client", .dict [("name", .text "texture-cache"), ("version", .text "2.1")]),
    ("contract_sha256", .text contractSha256),
    ("capabilities", .list [.text "binary.framing.v1", .text "compact.decisions.v1",
      .text "runtime.decisions.v1", .text "runtime.events.v1"])]

/-- A hello, an event out of turn, and the event in its turn. -/
def helloThenBegin : List (Bytes × FluidLinkFrame) :=
  [(List.replicate 16 2, linkHello), (List.replicate 16 3, beginFrame),
    (List.replicate 16 4, { beginFrame with sequence := 2 })]

/-- The hello is welcomed, the event out of turn is refused, and the event in its turn
is the one that reaches the runtime. -/
theorem link_answers_hello :
    let start : FluidLinkServerSession × ℕ :=
      ({ serverName := "fluidgateway", serverVersion := "1.0" }, 0)
    let responses := outputs (link countEvents) start helloThenBegin
    List.Forall₂ (fun (input : Bytes × FluidLinkFrame) response => Answers input.2 response)
      helloThenBegin responses ∧
      responses.map FluidLinkFrame.opcode = [2, 255, 11] ∧
      (final (link countEvents) start helloThenBegin).2 = 1 := by
  have hvalid : ∀ input ∈ helloThenBegin, input.2.Valid ∧ Uuid input.1 := by
    intro input hinput
    simp only [helloThenBegin, List.mem_cons, List.not_mem_nil, or_false] at hinput
    obtain rfl | rfl | rfl := hinput
    all_goals exact ⟨validateFrame_eq_ok.mp rfl, rfl, rfl⟩
  refine ⟨link_answers "fluidgateway" "1.0" 0 hvalid, ?_, ?_⟩
  · decide +kernel
  · decide +kernel

end FluidGateway.FluidLink
