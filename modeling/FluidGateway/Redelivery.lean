import FluidGateway.Lib.Sequenced
import FluidGateway.ReferenceSession

/-!
# Redelivered FluidLink v2 requests

A FluidLink v2 session, too, takes its requests in sequence: batches, events that
the runtime rejects and payloads that cannot be read take their number like any
other request, and what is refused for its kind, number or session changes nothing.
So repeated requests have one effect (`reference_redelivered`).  A session is closed by
a goodbye or by a batch that fails, by nothing else, and then stays as it is
(`reference_closed`).
-/

namespace FluidGateway.FluidLink

open Native (Bytes)
open FluidGateway.Adapter (Json Payload EventType get)
open Lockstep

variable {σ : Type} (handler : EventHandler σ)

/-! ## One request -/

namespace FluidLinkV2ServerSession

variable (s : FluidLinkV2ServerSession) (request : FluidLinkV2Frame) (runtime : σ)

/-- What the handlers of a request leave alone: the sequence number that has been
taken, and the identity of the session. -/
structure Holds (s t : FluidLinkV2ServerSession) : Prop where
  sequence : t.expectedSequence = s.expectedSequence
  session : t.sessionId = s.sessionId

/-- `_handle_hello` takes no sequence number of its own and closes nothing; it may name the
session. -/
theorem handleHello_holds (uuid : Bytes) :
    (s.handleHello uuid request).2.expectedSequence = s.expectedSequence ∧
      (s.handleHello uuid request).2.closed = s.closed := by
  unfold handleHello
  split
  · exact ⟨rfl, rfl⟩
  · split
    · exact ⟨rfl, rfl⟩
    · split
      · exact ⟨rfl, rfl⟩
      · split
        · exact ⟨rfl, rfl⟩
        · dsimp only
          split <;> exact ⟨rfl, rfl⟩

/-- A batch may close the session; its number and its identity stay. -/
theorem handleOperationBatch_holds :
    Holds s (s.handleOperationBatch handler request runtime).2.1 := by
  unfold handleOperationBatch
  split
  · exact ⟨rfl, rfl⟩
  · split
    · exact ⟨rfl, rfl⟩
    · dsimp only
      split <;> exact ⟨rfl, rfl⟩

/-- `_handle_runtime_event` leaves both alone, on each of its ways out. -/
theorem handleRuntimeEvent_holds :
    Holds s (s.handleRuntimeEvent handler request runtime).2.1 := by
  unfold handleRuntimeEvent
  split
  · exact ⟨rfl, rfl⟩
  · split
    · exact s.handleOperationBatch_holds handler request runtime
    · split
      · exact ⟨rfl, rfl⟩
      · split <;> exact ⟨rfl, rfl⟩

/-- `_handle_goodbye` may close the session; its number and its identity stay. -/
theorem handleGoodbye_holds : Holds s (s.handleGoodbye request).2 := by
  unfold handleGoodbye
  split <;> exact ⟨rfl, rfl⟩

/-- So does every handler of an established session. -/
theorem dispatch_holds : Holds s (s.dispatch handler request runtime).2.1 := by
  unfold dispatch
  split
  · exact ⟨rfl, rfl⟩
  · split
    · exact s.handleRuntimeEvent_holds handler request runtime
    · split
      · exact ⟨rfl, rfl⟩
      · split
        · exact ⟨rfl, rfl⟩
        · split
          · exact s.handleGoodbye_holds request
          · exact ⟨rfl, rfl⟩

end FluidLinkV2ServerSession

/-! ## Runs -/

/-- A session and its runtime, given requests with the identities that `uuid4`
returns for them. -/
def linkV2 (s : FluidLinkV2ServerSession × σ) (input : Bytes × FluidLinkV2Frame) :
    Except PyException FluidLinkV2Frame × FluidLinkV2ServerSession × σ :=
  s.1.process input.1 handler input.2 s.2

/-- The sequence number that the session waits for. -/
def awaitedV2 (s : FluidLinkV2ServerSession × σ) : ℕ :=
  s.1.expectedSequence

/-- The sequence number of a request. -/
def inputSequenceV2 (input : Bytes × FluidLinkV2Frame) : ℕ :=
  input.2.sequence

/-- A request changes nothing, or it is the awaited one and is counted once. -/
theorem linkV2_sequenced : Sequenced (linkV2 handler) awaitedV2 inputSequenceV2 := by
  intro s input
  unfold linkV2 FluidLinkV2ServerSession.process
  split
  · exact .inl rfl
  · split
    · exact .inl rfl
    · next hsequence =>
        have hsequence := not_not.mp hsequence
        split
        · dsimp only
          split
          · exact .inr ⟨hsequence, rfl⟩
          · exact .inr ⟨hsequence,
              (FluidLinkV2ServerSession.handleHello_holds _ input.2 input.1).1⟩
        · split
          · exact .inl rfl
          · split
            · exact .inl rfl
            · exact .inr ⟨hsequence,
                (FluidLinkV2ServerSession.dispatch_holds handler _ input.2 s.2).sequence⟩

/-- **Redelivery is harmless.** Let a session take all of some requests, batches and
events that are rejected among them.  However often they are repeated, and whatever
else comes that is not awaited, the session and its runtime end as if each request
had come once, in order, and the requests have been given the same answers. -/
theorem reference_redelivered {s : FluidLinkV2ServerSession × σ}
    {requests arrivals : List (Bytes × FluidLinkV2Frame)}
    (htaken : Taken (linkV2 handler) awaitedV2 s requests)
    (h : Delivered inputSequenceV2 (awaitedV2 s) requests arrivals) :
    final (linkV2 handler) s arrivals = final (linkV2 handler) s requests ∧
      effects (linkV2 handler) awaitedV2 s arrivals =
        effects (linkV2 handler) awaitedV2 s requests :=
  h.effects (linkV2_sequenced handler) htaken

/-! ### A batch that comes twice -/

/-- A runtime that counts its events, takes operations and rejects all else. -/
def pickyRuntime : EventHandler ℕ := fun event count =>
  match get event "event" with
  | .text "operation" =>
    (.ok [("ok", .bool true), ("result", .dict [("executed", .bool true), ("decision", .null)])],
      count + 1)
  | _ => (.error (.other "Only operations are taken."), count + 1)

/-- An identity, for the session and for its batch. -/
def batchIdentity : Bytes :=
  List.replicate 16 7

/-- A request of the client `c`, with the identity that the session is given. -/
def pickyRequest (opcode subjectOpcode sequence : ℕ) (sessionId : Option Bytes) (payload : Bytes) :
    Bytes × FluidLinkV2Frame :=
  (batchIdentity,
    { kind := .request
      opcode := opcode
      subjectOpcode := subjectOpcode
      decisionOpcode := 0
      flags := if sessionId.isSome then 2 else 0
      sequence := sequence
      messageId := List.replicate 16 1
      sessionId := sessionId
      payload := payload })

/-- A hello for the batch contract and all its capabilities. -/
def pickyHello : Bytes × FluidLinkV2Frame :=
  pickyRequest 1 0 1 none
    ([0xbf, 0x87, 0x27, 0xc2, 0x2a, 0xc8, 0x78, 0xce, 0xff, 0x6d, 0xd0, 0xf4, 0x62, 0xd6, 0xdb, 0x5e,
      0x81, 0x17, 0x47, 0x37, 0xe8, 0x39, 0xec, 0xdf, 0x2e, 0x26, 0x3a, 0x6f, 0x55, 0x26, 0x85, 0x42] ++
      [255, 0, 0, 0, 0, 0, 0, 0, 155, 0, 0, 0, 0, 0, 0, 0, 1, 0x63, 1, 0x31])

/-- The begin of frame 5, which the runtime rejects. -/
def pickyFrame : Bytes × FluidLinkV2Frame :=
  pickyRequest 10 101 2 (some batchIdentity) [1, 0, 5, 0, 0, 0, 0, 0, 0, 0]

/-- Two uploads of four bytes each. -/
def pickyBatch : Bytes × FluidLinkV2Frame :=
  pickyRequest 10 105 3 (some batchIdentity)
    (batchIdentity ++ [2, 0, 4, 2, 3, 3, 0, 0x72, 0x61, 0x6d, 4, 0, 0x76, 0x72, 0x61, 0x6d,
      9, 0, 0, 0, 4, 0, 0, 0, 0, 0, 0, 0, 0])

/-- A session that has received nothing. -/
def newSession : FluidLinkV2ServerSession where
  serverName := "fluidgateway"
  serverVersion := "1.0"

/-- Each request comes twice, and the batch once more before its turn. -/
def pickyArrivals : List (Bytes × FluidLinkV2Frame) :=
  [pickyHello, pickyBatch, pickyHello, pickyFrame, pickyFrame, pickyBatch, pickyBatch]

/-- The runtime is given the rejected event once, and each item of the batch once. -/
theorem reference_redelivered_batch :
    final (linkV2 pickyRuntime) (newSession, 0) pickyArrivals =
        final (linkV2 pickyRuntime) (newSession, 0) [pickyHello, pickyFrame, pickyBatch] ∧
      (final (linkV2 pickyRuntime) (newSession, 0) pickyArrivals).2 = 3 ∧
      (effects (linkV2 pickyRuntime) awaitedV2 (newSession, 0) pickyArrivals).map Prod.fst =
        [pickyHello, pickyFrame, pickyBatch] := by
  have hdelivered : Delivered inputSequenceV2 (awaitedV2 (newSession, 0))
      [pickyHello, pickyFrame, pickyBatch] pickyArrivals :=
    .awaited rfl (.unawaited (by decide) (.unawaited (by decide) (.awaited rfl
      (.unawaited (by decide) (.awaited rfl (.unawaited (by decide) (.nil 4)))))))
  have htaken : Taken (linkV2 pickyRuntime) awaitedV2 (newSession, 0)
      [pickyHello, pickyFrame, pickyBatch] := by
    unfold Taken
    decide +kernel
  obtain ⟨hfinal, heffects⟩ := reference_redelivered pickyRuntime htaken hdelivered
  refine ⟨hfinal, ?_, ?_⟩
  · rw [hfinal]
    decide +kernel
  · rw [heffects]
    decide +kernel

/-! ## Closed sessions -/

/-- A request that reaches the handlers: the awaited one of an open session that has been
negotiated, with decision opcode zero. -/
structure Admitted (s : FluidLinkV2ServerSession) (request : FluidLinkV2Frame) : Prop where
  kind : request.kind = .request
  sequence : request.sequence = s.expectedSequence
  negotiated : s.sessionId ≠ none
  session : request.sessionId = s.sessionId
  opened : s.closed = false
  decision : request.decisionOpcode = 0

/-- A goodbye that is accepted. -/
structure SaysGoodbye (s : FluidLinkV2ServerSession) (request : FluidLinkV2Frame) : Prop where
  admitted : Admitted s request
  opcode : request.opcode = 30
  subject : request.subjectOpcode = 0
  payload : request.payload = []

/-- A batch that is taken up and fails: the runtime raises for one of its operations, or
what it returns cannot be sent. -/
structure FailsBatch (s : FluidLinkV2ServerSession) (request : FluidLinkV2Frame) (runtime : σ) :
    Prop where
  admitted : Admitted s request
  opcode : request.opcode = 10
  subject : request.subjectOpcode = 105
  capabilities : s.acceptedCapabilities &&& FluidLinkV2ServerSession.requiredCapabilities =
    FluidLinkV2ServerSession.requiredCapabilities
  profile : ∃ digest ∈ s.contractDigest, contractDigestOf Native.batchHash digest
  batches : s.acceptedCapabilities &&& 0x80 ≠ 0
  failed : ∃ batch e, decodeOperationBatchEventPayload request.payload = .ok batch ∧
    (batchDecisions handler batch batch.operationCount 0 [] runtime).1 >>=
      encodeOperationBatchDecisionPayload batch.batchId = .error e

/-- What closes a session. -/
def Closes (s : FluidLinkV2ServerSession × σ) (request : FluidLinkV2Frame) : Prop :=
  SaysGoodbye s.1 request ∨ FailsBatch handler s.1 request s.2

namespace FluidLinkV2ServerSession

variable (s : FluidLinkV2ServerSession) (request : FluidLinkV2Frame) (runtime : σ)

/-- A goodbye closes the session when it carries no payload. -/
theorem handleGoodbye_closed :
    (s.handleGoodbye request).2.closed = true ↔ s.closed = true ∨ request.payload = [] := by
  unfold handleGoodbye
  split
  · next hpayload => exact (or_iff_left hpayload).symm
  · next hpayload => exact iff_of_true rfl (Or.inr (not_not.mp hpayload))

/-- A batch closes an open session exactly when it is taken up and fails. -/
theorem handleOperationBatch_closed (hopen : s.closed = false) :
    (s.handleOperationBatch handler request runtime).2.1.closed = true ↔
      (∃ digest ∈ s.contractDigest, contractDigestOf Native.batchHash digest) ∧
        s.acceptedCapabilities &&& 0x80 ≠ 0 ∧
        ∃ batch e, decodeOperationBatchEventPayload request.payload = .ok batch ∧
          (batchDecisions handler batch batch.operationCount 0 [] runtime).1 >>=
            encodeOperationBatchDecisionPayload batch.batchId = .error e := by
  have hstill : ¬ s.closed = true := by rw [hopen]; decide
  unfold handleOperationBatch
  split
  · next hrefused =>
      refine iff_of_false hstill fun h => ?_
      exact hrefused.elim (fun hprofile => hprofile h.1) h.2.1
  · next htaken =>
      rw [not_or, not_not] at htaken
      rw [and_iff_right htaken.1, and_iff_right htaken.2]
      cases hdecoded : decodeOperationBatchEventPayload request.payload with
      | error e =>
          refine iff_of_false hstill fun h => ?_
          obtain ⟨batch, e', hbatch, -⟩ := h
          cases hbatch
      | ok batch =>
          dsimp only
          cases hresult : (batchDecisions handler batch batch.operationCount 0 [] runtime).1 >>=
              encodeOperationBatchDecisionPayload batch.batchId with
          | error e => exact iff_of_true rfl ⟨batch, e, rfl, hresult⟩
          | ok payload =>
              refine iff_of_false hstill fun h => ?_
              obtain ⟨batch', e', hbatch, hfailed⟩ := h
              obtain rfl := Except.ok.inj hbatch
              rw [hresult] at hfailed
              cases hfailed

/-- Of the runtime events, only batches close a session. -/
theorem handleRuntimeEvent_closed (hopen : s.closed = false) :
    (s.handleRuntimeEvent handler request runtime).2.1.closed = true ↔
      s.acceptedCapabilities &&& requiredCapabilities = requiredCapabilities ∧
        request.subjectOpcode = 105 ∧
        (s.handleOperationBatch handler request runtime).2.1.closed = true := by
  have hstill : ¬ s.closed = true := by rw [hopen]; decide
  unfold handleRuntimeEvent
  split
  · next hrefused => exact iff_of_false hstill fun h => hrefused h.1
  · next hcapable =>
      rw [and_iff_right (not_not.mp hcapable)]
      split
      · next hbatch => exact (and_iff_right hbatch).symm
      · next hsingle =>
          have hnever : ¬ (request.subjectOpcode = 105 ∧
              (s.handleOperationBatch handler request runtime).2.1.closed = true) :=
            fun h => hsingle h.1
          split
          · exact iff_of_false hstill hnever
          · split <;> exact iff_of_false hstill hnever

/-- A request of an open session closes it when it is an accepted goodbye or a batch that
fails. -/
theorem dispatch_closed (hopen : s.closed = false) :
    (s.dispatch handler request runtime).2.1.closed = true ↔
      request.decisionOpcode = 0 ∧
        (request.opcode = 30 ∧ request.subjectOpcode = 0 ∧ request.payload = [] ∨
          request.opcode = 10 ∧
            s.acceptedCapabilities &&& requiredCapabilities = requiredCapabilities ∧
            request.subjectOpcode = 105 ∧
            (s.handleOperationBatch handler request runtime).2.1.closed = true) := by
  have hstill : ¬ s.closed = true := by rw [hopen]; decide
  unfold dispatch
  split
  · next hdecision => exact iff_of_false hstill fun h => hdecision h.1
  · next hdecision =>
      rw [and_iff_right (not_not.mp hdecision)]
      split
      · next hevent =>
          rw [s.handleRuntimeEvent_closed handler request runtime hopen, hevent]
          simp
      · next hother =>
          rw [or_iff_left fun h => hother h.1]
          split
          · next hsubject => exact iff_of_false hstill fun h => hsubject h.2.1
          · next hsubject =>
              rw [and_iff_right (not_not.mp hsubject)]
              split
              · next hping => exact iff_of_false hstill fun h => by rw [hping] at h; cases h.1
              · split
                · next hgoodbye =>
                    rw [and_iff_right hgoodbye]
                    exact (s.handleGoodbye_closed request).trans (or_iff_right hstill)
                · next hunknown => exact iff_of_false hstill fun h => hunknown h.1

end FluidLinkV2ServerSession

/-- Only a session that has been negotiated is closed. -/
def ClosedNegotiated (s : FluidLinkV2ServerSession) : Prop :=
  s.closed = true → s.sessionId.isSome

/-- Nothing closes a session before its hello. -/
theorem process_closedNegotiated {s : FluidLinkV2ServerSession} (h : ClosedNegotiated s)
    (input : Bytes × FluidLinkV2Frame) (runtime : σ) :
    ClosedNegotiated (linkV2 handler (s, runtime) input).2.1 := by
  unfold linkV2 FluidLinkV2ServerSession.process
  split
  · exact h
  · split
    · exact h
    · split
      · next hfresh =>
          have hopen : s.closed = true → False := by
            intro hclosed
            have hsome := h hclosed
            rw [hfresh] at hsome
            cases hsome
          dsimp only
          split
          · exact h
          · intro hclosed
            have hkept := (FluidLinkV2ServerSession.handleHello_holds
              { s with expectedSequence := s.expectedSequence + 1 } input.2 input.1).2
            exact (hopen (hkept.symm.trans hclosed)).elim
      · next hnegotiated =>
          split
          · exact h
          · split
            · exact h
            · intro _
              rw [(FluidLinkV2ServerSession.dispatch_holds handler _ input.2 runtime).session]
              exact Option.isSome_iff_ne_none.mpr hnegotiated

/-- An open session is closed by a request exactly when that is an accepted goodbye or a
batch that fails. -/
theorem process_closed_iff {s : FluidLinkV2ServerSession} (hopen : s.closed = false)
    (input : Bytes × FluidLinkV2Frame) (runtime : σ) :
    (linkV2 handler (s, runtime) input).2.1.closed = true ↔
      Closes handler (s, runtime) input.2 := by
  have hstill : ¬ s.closed = true := by rw [hopen]; decide
  have hneeds : Closes handler (s, runtime) input.2 → Admitted s input.2 := by
    intro h
    obtain hgoodbye | hbatch := h
    · exact hgoodbye.admitted
    · exact hbatch.admitted
  unfold linkV2 FluidLinkV2ServerSession.process
  split
  · next hkind => exact iff_of_false hstill fun h => hkind (hneeds h).kind
  · next hkind =>
      split
      · next hsequence => exact iff_of_false hstill fun h => hsequence (hneeds h).sequence
      · next hsequence =>
          split
          · next hfresh =>
              refine iff_of_false ?_ fun h => (hneeds h).negotiated hfresh
              dsimp only
              split
              · exact hstill
              · rw [(FluidLinkV2ServerSession.handleHello_holds _ input.2 input.1).2]
                exact hstill
          · next hnegotiated =>
              split
              · next hsession => exact iff_of_false hstill fun h => hsession (hneeds h).session
              · next hsession =>
                  let taken := { s with expectedSequence := s.expectedSequence + 1 }
                  refine (taken.dispatch_closed handler input.2 runtime hopen).trans ?_
                  rw [taken.handleOperationBatch_closed handler input.2 runtime hopen]
                  have hadmitted : ∀ _ : input.2.decisionOpcode = 0, Admitted s input.2 :=
                    fun hdecision => ⟨not_not.mp hkind, not_not.mp hsequence, hnegotiated,
                      not_not.mp hsession, hopen, hdecision⟩
                  constructor
                  · intro h
                    have hadmits := hadmitted h.1
                    obtain ⟨hopcode, hsubject, hpayload⟩ | ⟨hopcode, hcapable, hsubject, hfailed⟩ := h.2
                    · exact .inl ⟨hadmits, hopcode, hsubject, hpayload⟩
                    · exact .inr ⟨hadmits, hopcode, hsubject, hcapable, hfailed.1, hfailed.2.1,
                        hfailed.2.2⟩
                  · intro h
                    refine ⟨(hneeds h).decision, ?_⟩
                    obtain hgoodbye | hbatch := h
                    · exact .inl ⟨hgoodbye.opcode, hgoodbye.subject, hgoodbye.payload⟩
                    · exact .inr ⟨hbatch.opcode, hbatch.capabilities, hbatch.subject,
                        hbatch.profile, hbatch.batches, hbatch.failed⟩

/-- A closed session and its runtime stay as they are. -/
theorem process_of_closed {s : FluidLinkV2ServerSession} (hnegotiated : ClosedNegotiated s)
    (hclosed : s.closed = true) (input : Bytes × FluidLinkV2Frame) (runtime : σ) :
    (linkV2 handler (s, runtime) input).2 = (s, runtime) := by
  have hsome := Option.isSome_iff_ne_none.mp (hnegotiated hclosed)
  unfold linkV2 FluidLinkV2ServerSession.process
  simp only [hsome, hclosed, if_true, if_false]
  split_ifs <;> rfl

/-- **Closed for good.** A session has been closed by a run exactly when one of the
requests was an accepted goodbye, or a batch that failed; and nothing that comes after
that changes the session or its runtime. -/
theorem reference_closed (serverName serverVersion : String) (runtime : σ)
    (inputs : List (Bytes × FluidLinkV2Frame)) :
    let start : FluidLinkV2ServerSession × σ := ({ serverName, serverVersion }, runtime)
    let s := final (linkV2 handler) start inputs
    (s.1.closed = true ↔ ∃ earlier input later, inputs = earlier ++ input :: later ∧
        Closes handler (final (linkV2 handler) start earlier) input.2) ∧
      (s.1.closed = true → ∀ more, final (linkV2 handler) s more = s) := by
  intro start s
  have hinvariant : ∀ inputs, ClosedNegotiated (final (linkV2 handler) start inputs).1 := by
    intro inputs
    have hstart : ClosedNegotiated start.1 := fun h => by cases h
    exact @Lockstep.invariant _ _ _ (linkV2 handler) _ (fun t _ => ClosedNegotiated t.1) hstart
      (fun t _ input ht => process_closedNegotiated handler ht input t.2) inputs
  have hstays : ∀ earlier input, (final (linkV2 handler) start earlier).1.closed = true →
      (linkV2 handler (final (linkV2 handler) start earlier) input).2.1.closed = true := by
    intro earlier input hclosed
    have hsame := process_of_closed handler (hinvariant earlier) hclosed input
      (final (linkV2 handler) start earlier).2
    exact (congrArg (fun t => t.1.closed) hsame).trans hclosed
  refine ⟨?_, fun hclosed more => ?_⟩
  · rw [@Lockstep.flag_final_iff _ _ _ (linkV2 handler) (fun t => t.1.closed) start rfl inputs hstays]
    refine exists_congr fun earlier => exists_congr fun input => exists_congr fun later =>
      and_congr_right fun _ => ?_
    constructor
    · intro h
      exact (process_closed_iff handler h.1 input _).mp h.2
    · intro h
      have hopen : (final (linkV2 handler) start earlier).1.closed = false := by
        obtain hgoodbye | hbatch := h
        · exact hgoodbye.admitted.opened
        · exact hbatch.admitted.opened
      exact ⟨hopen, (process_closed_iff handler hopen input _).mpr h⟩
  · induction more with
    | nil => rfl
    | cons input more ih =>
        rw [final_cons, process_of_closed handler (hinvariant inputs) hclosed input s.2]
        exact ih

end FluidGateway.FluidLink
