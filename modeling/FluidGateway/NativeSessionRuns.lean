import FluidGateway.NativeRuns
import FluidGateway.NativeSession
import FluidGateway.WireReading
import FluidGateway.Lib.Lockstep

/-!
# Runs of the native session

`Outcome` lists what a session can do with a request that it does not refuse
to look at, once; every result about runs is a case analysis of it.  Here:
an error leaves the session as it was or closes it (`errors_atomic`).
-/

namespace FluidGateway.Native

open Reading KeyedMap Lockstep

/-! ## Calls of the state -/

namespace State

/-- A call that fails without closing the session has changed nothing. -/
theorem call_error {s s' : State} {g : Grant} {c : Call} {e : Thrown}
    (h : s.call g c = (.error e, s')) : e.fatal = true ∨ s' = s := by
  cases c with
  | process op =>
      have hspec := s.process_spec g op
      rw [show s.process g op = (.error e, s') from h] at hspec
      cases hspec with
      | duplicate => exact .inr rfl
      | full _ fatal => exact .inl fatal
      | refused _ fatal => exact .inl fatal
  | release id => cases h
  | _ =>
      simp only [State.call, Native.plain] at h
      split at h
      · cases h
      · cases h
        exact .inr rfl

/-- The choice for an operation is one of the seven opcodes, whichever branch makes it. -/
theorem choose_opcode (s : State) (op : Operation) : (s.choose op).1 ≤ 6 := by
  have hle : ∀ {a b : UInt8} {p : Option Text}, a ≤ b → ((a, p) : UInt8 × Option Text).1 ≤ b :=
    fun h => h
  unfold choose
  repeat' split
  all_goals exact hle (by decide)

/-- A decision of the state is one of the seven of the protocol. -/
theorem call_opcode {s s' : State} {g : Grant} {c : Call} {d : Decision}
    (h : s.call g c = (.ok d, s')) : d.opcode ≤ 6 := by
  cases c with
  | process op =>
      have hspec := s.process_spec g op
      rw [show s.process g op = (.ok d, s') from h] at hspec
      cases hspec with
      | executed => exact UInt8.zero_le
      | eliminated => exact s.choose_opcode _
  | release id =>
      cases h
      exact UInt8.zero_le
  | _ =>
      simp only [State.call, Native.plain] at h
      split at h
      · cases h
        exact UInt8.zero_le
      · cases h

/-- An answer that fails either closes the session or has changed nothing. -/
theorem answer_error {s s' : State} {g : Grant} {c : Option Call} {e : Thrown}
    (h : s.answer g c = (.error e, s')) : e.fatal = true ∨ s' = s := by
  cases c with
  | none => cases h
  | some call => exact call_error h

/-- A decision about a call, or about none, is one of the seven of the protocol. -/
theorem answer_opcode {s s' : State} {g : Grant} {c : Option Call} {d : Decision}
    (h : s.answer g c = (.ok d, s')) : d.opcode ≤ 6 := by
  cases c with
  | none =>
      cases h
      exact UInt8.zero_le
  | some call => exact call_opcode h

end State

/-! ## What a session can do -/

/-- The texts that the state throws. -/
def stateTexts : List String :=
  ["Session state exceeds 8 MiB; reconnect.", "Allocation counter exhausted; reconnect.",
    "A frame is already open.", "Frame does not match the open frame.",
    "Cannot end session with an open frame.", "Duplicate resource id.",
    "Resource limit reached; reconnect.", "Duplicate operation id.",
    "Operation limit reached; reconnect."]

/-- The texts that the session throws itself. -/
def sessionTexts : List String :=
  ["Handshake required.", "Invalid hello header.", "Contract mismatch.",
    "Batch capability must be required.", "Required capability unavailable.",
    "Unsupported event opcode.", "Batch not negotiated.", "Runtime capabilities not negotiated.",
    "Heartbeat not negotiated.", "Request decision must be zero.", "Invalid subject opcode.",
    "Unsupported opcode.", "Requests only.", "Sequence mismatch.", "Session mismatch.",
    "Session closed.", "Sequence exhausted."]

/-- What is thrown has one of the known texts. -/
def Thrown.Known : Thrown → Prop
  | .error e => e.message ∈ readerTexts ++ stateTexts ++ sessionTexts
  | .badAlloc => True

/-- A text of the state is known. -/
theorem known_of_state {code : Nat} {message : String} {fatal : Bool} (h : message ∈ stateTexts) :
    (Thrown.error ⟨code, message, fatal⟩).Known :=
  List.mem_append_left _ (List.mem_append_right _ h)

/-- A text of the session is known. -/
theorem known_of_session {code : Nat} {message : String} {fatal : Bool}
    (h : message ∈ sessionTexts) : (Thrown.error ⟨code, message, fatal⟩).Known :=
  List.mem_append_right _ h

/-- What a reader throws has a known text. -/
theorem Malformed.thrown {e : Error} (h : Malformed e) : (Thrown.error e).Known :=
  List.mem_append_left _ (List.mem_append_left _ h.text)

/-- A literal has no more bytes than its text takes in UTF-8. -/
theorem literal_length_le (s : String) : (literal s).length ≤ s.utf8ByteSize := by
  have hbytes : s.utf8ByteSize = (s.toList.flatMap String.utf8EncodeChar).length := by
    rw [← String.size_toByteArray, ← String.utf8Encode_toList]
    simp [List.utf8Encode]
  unfold literal
  rw [hbytes, List.length_map]
  induction s.toList with
  | nil => rfl
  | cons c cs ih =>
      have hpos := String.length_utf8EncodeChar c ▸ Char.utf8Size_pos c
      rw [List.flatMap_cons, List.length_append, List.length_cons]
      omega

/-- Every known text fits in an answer. -/
theorem Thrown.Known.length_le {e : Error} (h : (Thrown.error e).Known) :
    (literal e.message).length ≤ 256 := by
  have hall : ∀ message ∈ readerTexts ++ stateTexts ++ sessionTexts,
      message.utf8ByteSize ≤ 256 := by
    decide
  exact Nat.le_trans (literal_length_le e.message) (hall e.message h)

/-- A refusal has a known text, whatever is refused. -/
theorem Refusal.known (r : Refusal) : r.thrown.Known := by
  cases r with
  | budget => exact known_of_state (by simp [stateTexts])
  | counter => exact known_of_state (by simp [stateTexts])
  | heap => trivial

/-- The state never throws a long text. -/
theorem State.call_known {s s' : State} {g : Grant} {c : Call} {e : Thrown}
    (h : s.call g c = (.error e, s')) : e.Known := by
  cases c with
  | beginFrame frame =>
      simp only [State.call, State.beginFrame] at h
      split_ifs at h
      all_goals cases h
      exact known_of_state (by simp [stateTexts])
  | endFrame frame =>
      simp only [State.call, State.endFrame] at h
      split_ifs at h
      all_goals cases h
      exact known_of_state (by simp [stateTexts])
  | endSession =>
      simp only [State.call, State.endSession] at h
      split_ifs at h
      all_goals cases h
      exact known_of_state (by simp [stateTexts])
  | register id memory aliases =>
      simp only [State.call, State.registerResource] at h
      split_ifs at h
      all_goals cases h
      · exact known_of_state (by simp [stateTexts])
      · exact known_of_state (by simp [stateTexts])
      · exact g.refusal.known
  | release id => cases h
  | process op =>
      simp only [State.call, State.process] at h
      split_ifs at h
      all_goals cases h
      · exact known_of_state (by simp [stateTexts])
      · exact known_of_state (by simp [stateTexts])
      · exact g.refusal.known
      · exact g.refusal.known

/-- What is thrown about a call has a known text. -/
theorem State.answer_known {s s' : State} {g : Grant} {c : Option Call} {e : Thrown}
    (h : s.answer g c = (.error e, s')) : e.Known := by
  cases c with
  | none => cases h
  | some call => exact State.call_known h

/-- What is read within the memory granted is what the reader gives without a limit on it. -/
theorem Memory.read_eq_ok {α : Type} {m : Memory} {p : Reader α} {payload : Bytes} {a : α}
    (h : m.read p payload = .ok a) : p.run payload = .ok a := by
  unfold Memory.read at h
  split_ifs at h
  cases hrun : p.run payload with
  | error e =>
      rw [hrun] at h
      cases h
  | ok b =>
      rw [hrun] at h
      cases h
      rfl

/-- Reading throws what the reader throws, or that memory is out. -/
theorem Memory.read_known {α : Type} {m : Memory} {p : Reader α} {payload : Bytes} {e : Thrown}
    (hp : Fails Malformed p) (h : m.read p payload = .error e) : e.Known := by
  unfold Memory.read at h
  split_ifs at h
  · cases hrun : p.run payload with
    | error e' =>
        rw [hrun] at h
        cases h
        exact (Reader.run_malformed hp hrun).thrown
    | ok b =>
        rw [hrun] at h
        cases h
  · cases h
    trivial

/-- An entry of an answer to a batch takes 18 bytes. -/
theorem itemEntry_length (result : Decision) : (itemEntry result).length = 18 := by
  unfold itemEntry Writer.decision Writer.integer
  simp only [List.length_append, LittleEndian.encode_length]

/-- Every item adds an entry of 18 bytes. -/
theorem batchItems_length {m : Memory} {request : BatchRequest} {remaining i : Nat}
    {written : Bytes} {s s' : State} {payload : Bytes}
    (h : batchItems m request remaining i written s = (.ok payload, s')) :
    payload.length = written.length + 18 * remaining := by
  induction remaining generalizing i written s with
  | zero =>
      cases h
      rfl
  | succ remaining ih =>
      unfold batchItems at h
      split at h
      · cases h
      · rw [ih h, List.length_append, itemEntry_length]
        omega

/-- What is thrown at an item of a batch has a known text, by induction on the items that
remain. -/
theorem batchItems_known {m : Memory} {request : BatchRequest} {remaining i : Nat}
    {written : Bytes} {s s' : State} {e : Thrown}
    (h : batchItems m request remaining i written s = (.error e, s')) : e.Known := by
  induction remaining generalizing i written s with
  | zero => cases h
  | succ remaining ih =>
      unfold batchItems at h
      split at h
      · next hitem =>
          cases h
          exact State.call_known (c := .process _) hitem
      · exact ih h

namespace ProtocolSession

/-- The session that has accepted a hello. -/
def accept (s : ProtocolSession) (hello : Hello) : ProtocolSession :=
  let batch : Bool := hex hello.digest = batchHash
  { s with
    batch
    capabilities := (hello.requested ||| hello.required) &&& available batch
    negotiated := true }

/-- The payload of a welcome, from the session that has accepted the hello. -/
def welcomePayload (s : ProtocolSession) (hello : Hello) : Bytes :=
  hello.digest ++ Writer.integer (available s.batch) 8 ++ Writer.integer s.capabilities 8 ++
    Writer.integer maxPayload 4 ++ Writer.text (literal "fluidgateway") 1 ++
    Writer.text nativeVersion 1

/-- What becomes of a request that the session `s` has counted. -/
inductive Outcome (s : ProtocolSession) (request : Frame) : Handled → Prop
  | rejected (e : Thrown) (known : e.Known) : Outcome s request (.error e, s)
  | forgotten (e : Thrown) (batch : Bool) (fresh : s.negotiated = false) (known : e.Known) :
      Outcome s request (.error e, { s with batch })
  | unanswered (e : Thrown) (t : ProtocolSession) (fatal : e.fatal = true ∨ t.closed = true)
      (sequence : t.sequence = s.sequence)
      (terms : s.negotiated = true →
        t.negotiated = true ∧ t.capabilities = s.capabilities ∧ t.batch = s.batch)
      (identity : t.identity = s.identity) (known : e.Known) :
      Outcome s request (.error e, t)
  | welcome (hello : Hello) (fresh : s.negotiated = false)
      (read : readHello.run request.payload = .ok hello) :
      Outcome s request
        (.ok ((s.accept hello).respond request 2 ((s.accept hello).welcomePayload hello)),
          s.accept hello)
  | decided (payload : Bytes) (d : UInt8) (state : State) (negotiated : s.negotiated = true)
      (runtime : s.capabilities &&& 27 = 27)
      (vector : d = 7 → s.batch = true ∧ s.capabilities &&& 128 ≠ 0)
      (fits : payload.length ≤ maxPayload) :
      Outcome s request (.ok (s.respond request 11 payload d), { s with state })
  | pong (payload : Bytes) (negotiated : s.negotiated = true)
      (fits : payload.length ≤ maxPayload) :
      Outcome s request (.ok (s.respond request 21 payload), s)
  | farewell (negotiated : s.negotiated = true) :
      Outcome s request (.ok (s.respond request 30 []), { s with closed := true })

variable {s : ProtocolSession} {m : Memory} {request : Frame}

/-- A session that raises one of its own texts has rejected the request. -/
theorem raise_outcome {code : Nat} {message : String} (h : message ∈ sessionTexts) :
    Outcome s request (raise code message s) :=
  .rejected _ (known_of_session h)

/-- A hello is rejected, forgotten but for its contract, or accepted. The cases follow the
checks of `core.cpp` in their order. -/
theorem hello_outcome (hs : s.negotiated = false) : Outcome s request (s.hello m request) := by
  unfold hello
  split_ifs with hopcode hheader
  · exact raise_outcome (by simp [sessionTexts])
  · exact raise_outcome (by simp [sessionTexts])
  cases hread : m.read readHello request.payload with
  | error e => exact .rejected e (Memory.read_known readHello_malformed hread)
  | ok hello =>
      dsimp only
      split_ifs with hcontract hbatch hrequired
      · exact raise_outcome (by simp [sessionTexts])
      · exact .forgotten _ _ hs (known_of_session (by simp [sessionTexts]))
      · exact .forgotten _ _ hs (known_of_session (by simp [sessionTexts]))
      unfold reply
      by_cases hwriting : m.writing = true
      · rw [if_pos hwriting]
        exact .welcome hello hs (Memory.read_eq_ok hread)
      · rw [if_neg hwriting]
        refine .unanswered _ _ (.inl rfl) rfl ?_ rfl trivial
        intro hmet
        rw [hs] at hmet
        cases hmet

/-- An event is answered by the state or rejected with what the state throws. -/
theorem event_outcome (hs : s.negotiated = true) (hruntime : s.capabilities &&& 27 = 27) :
    Outcome s request
      (match s.event m request.subject request.payload with
        | (.error e, state) => (.error e, { s with state })
        | (.ok result, state) =>
          { s with state }.reply m request 11 (Writer.decision result) result.opcode) := by
  unfold event
  split_ifs with hreading
  · cases hevent : readEvent request.subject request.payload with
    | error e =>
        refine .rejected _ ?_
        rcases readEvent_error hevent with hmalformed | rfl
        · exact hmalformed.thrown
        · exact known_of_session (by simp [sessionTexts])
    | ok call =>
        dsimp only
        rcases hanswer : s.state.answer (m.grants 0) call with ⟨e | result, state⟩
        · have hknown := State.answer_known hanswer
          rcases State.answer_error hanswer with hfatal | rfl
          · exact .unanswered _ _ (.inl hfatal) rfl (fun h => ⟨h, rfl, rfl⟩) rfl hknown
          · exact .rejected _ hknown
        · have hopcode := State.answer_opcode hanswer
          dsimp only
          unfold reply
          by_cases hwriting : m.writing = true
          · rw [if_pos hwriting]
            refine .decided _ _ _ hs hruntime ?_ ?_
            · intro hseven
              rw [hseven] at hopcode
              exact absurd hopcode (by decide)
            · unfold Writer.decision Writer.integer
              simp only [List.length_append, LittleEndian.encode_length]
              decide
          · rw [if_neg hwriting]
            exact .unanswered _ _ (.inl rfl) rfl (fun h => ⟨h, rfl, rfl⟩) rfl trivial
  · exact .rejected _ trivial

/-- A batch is rejected before its first item, answered, or stopped at an item. -/
theorem runBatch_outcome (hs : s.negotiated = true) (hruntime : s.capabilities &&& 27 = 27) :
    Outcome s request (s.runBatch m request) := by
  unfold runBatch
  split_ifs with hcontract
  · exact raise_outcome (by simp [sessionTexts])
  rw [not_or] at hcontract
  cases hread : m.read readBatch request.payload with
  | error e => exact .rejected e (Memory.read_known readBatch_malformed hread)
  | ok batch =>
      dsimp only
      rcases hitems : batchItems m batch batch.count 0
        (batch.id ++ Writer.integer batch.count 2) s.state with ⟨e | payload, state⟩
      · exact .unanswered _ _ (.inr rfl) rfl (fun h => ⟨h, rfl, rfl⟩) rfl (batchItems_known hitems)
      · dsimp only
        unfold reply
        by_cases hwriting : m.writing = true
        · rw [if_pos hwriting]
          refine .decided _ _ _ hs hruntime (fun _ => ⟨by simpa using hcontract.1, hcontract.2⟩) ?_
          obtain ⟨_, hid, _, _, hcount, _⟩ := readBatch_spec (Memory.read_eq_ok hread)
          rw [batchItems_length hitems, List.length_append, hid]
          unfold Writer.integer maxPayload
          rw [LittleEndian.encode_length]
          omega
        · rw [if_neg hwriting]
          exact .unanswered _ _ (.inl rfl) rfl (fun h => ⟨h, rfl, rfl⟩) rfl trivial

/-- A request of a negotiated session has the outcome of what its opcode asks for. -/
theorem dispatch_outcome (hs : s.negotiated = true) : Outcome s request (s.dispatch m request) := by
  unfold dispatch
  split_ifs with hdecision hevent hsubject hping hgoodbye
  · exact raise_outcome (by simp [sessionTexts])
  · unfold runtimeEvent
    split_ifs with hruntime hbatch
    · exact raise_outcome (by simp [sessionTexts])
    · exact runBatch_outcome hs (not_not.mp hruntime)
    · exact event_outcome hs (not_not.mp hruntime)
  · exact raise_outcome (by simp [sessionTexts])
  · unfold ping
    split_ifs with hheartbeat
    · exact raise_outcome (by simp [sessionTexts])
    cases hread : m.read readNonce request.payload with
    | error e => exact .rejected e (Memory.read_known readNonce_malformed hread)
    | ok nonce =>
        have hlength := readNonce_length (Memory.read_eq_ok hread)
        dsimp only
        unfold reply
        by_cases hwriting : m.writing = true
        · rw [if_pos hwriting]
          refine .pong _ hs ?_
          unfold Writer.text Writer.integer maxPayload
          rw [List.length_append, LittleEndian.encode_length]
          omega
        · rw [if_neg hwriting]
          exact .rejected _ trivial
  · unfold goodbye
    cases hread : m.read Reader.finish request.payload with
    | error e => exact .rejected e (Memory.read_known Reader.finish_malformed hread)
    | ok =>
        dsimp only
        unfold reply
        by_cases hwriting : m.writing = true
        · rw [if_pos hwriting]
          exact .farewell hs
        · rw [if_neg hwriting]
          exact .unanswered _ _ (.inl rfl) rfl (fun h => ⟨h, rfl, rfl⟩) rfl trivial
  · exact raise_outcome (by simp [sessionTexts])

/-- **A request that the session looks at has one of the listed outcomes.** -/
theorem handle_outcome (h : s.refusal request = none) :
    Outcome { s with sequence := s.sequence + 1 } request (s.handle m request) := by
  unfold handle
  rw [h]
  dsimp only
  split_ifs with hnegotiated
  · exact dispatch_outcome hnegotiated
  · exact hello_outcome (by simpa using hnegotiated)

/-- What is sent for an outcome, and the session afterwards. -/
def conclude (request : Frame) : Handled → Frame × ProtocolSession
  | (.ok response, s) => (response, s)
  | (.error e, s) =>
    let s := { s with closed := s.closed || e.fatal }
    (s.respond request errorOpcode (errorPayload e) 255 false, s)

/-- A request that is refused is answered with the refusal by the session as it is. -/
theorem process_refused {e : Error} (h : s.refusal request = some e) :
    s.process m request = conclude request (.error (.error e), s) := by
  unfold process handle
  rw [h]
  rfl

/-- A request that is not refused is counted and handled. -/
theorem process_handled : s.process m request = conclude request (s.handle m request) := by
  unfold process conclude
  rcases s.handle m request with ⟨e | response, t⟩ <;> rfl

/-- A request is looked at exactly where kind, sequence and session fit, the session is open
and its counter not exhausted. -/
theorem refusal_eq_none : s.refusal request = none ↔
    request.kind = 1 ∧ request.sequence = s.sequence ∧
      (s.negotiated = true → request.session = s.identity) ∧ s.closed = false ∧
      s.sequence ≠ sequenceLimit := by
  unfold refusal
  split_ifs with hkind hsequence hsession hclosed hlimit
  · simp [hkind]
  · simp [hsequence]
  · simp [hsession]
  · simp [hclosed]
  · simp [hlimit]
  · simp_all

/-- A closed session refuses every request. -/
theorem refusal_of_closed (h : s.closed = true) : ∃ e, s.refusal request = some e := by
  rw [← Option.ne_none_iff_exists', Ne, refusal_eq_none, h]
  rintro ⟨-, -, -, hopen, -⟩
  cases hopen

/-- A closed session answers with errors and stays as it is. -/
theorem process_of_closed (h : s.closed = true) :
    (s.process m request).1.opcode = errorOpcode ∧ (s.process m request).2 = s := by
  obtain ⟨e, hrefusal⟩ : ∃ e, s.refusal request = some e := refusal_of_closed h
  rw [process_refused hrefusal]
  refine ⟨rfl, ?_⟩
  simp only [conclude, h, Bool.true_or]
  exact congrArg (fun c => { s with closed := c }) h.symm

/-- A frame out of sequence changes nothing. -/
theorem process_out_of_sequence (h : request.sequence ≠ s.sequence) :
    (s.process m request).1.opcode = errorOpcode ∧ (s.process m request).2 = s := by
  have hrefusal : ∃ e, s.refusal request = some e ∧ e.fatal = false := by
    unfold refusal
    split_ifs <;> exact ⟨_, rfl, rfl⟩
  obtain ⟨e, hrefusal, hfatal⟩ := hrefusal
  rw [process_refused hrefusal]
  refine ⟨rfl, ?_⟩
  simp only [conclude, Thrown.fatal, hfatal, Bool.or_false]

/-! ## Errors -/

/-- A session that has just been created. -/
def fresh (identity : Identity) : ProtocolSession := { identity }

/-- One frame of a run, with the memory granted to it. -/
def step (s : ProtocolSession) (input : Memory × Frame) : Frame × ProtocolSession :=
  s.process input.1 input.2

/-- The same session, up to the contract of a hello that was turned down. -/
def Alike (s t : ProtocolSession) : Prop :=
  t = s ∨ (s.negotiated = false ∧ ∃ batch, t = { s with batch })

variable {t : ProtocolSession}

/-- A hello does not depend on the contract of an earlier one that was turned down, since it
sets its own. -/
theorem hello_alike (m : Memory) (request : Frame) (batch : Bool) (hs : s.negotiated = false) :
    ({ s with batch }.hello m request).1 = (s.hello m request).1 ∧
      Alike (s.hello m request).2 ({ s with batch }.hello m request).2 := by
  have hkeep : Alike s { s with batch } := .inr ⟨hs, batch, rfl⟩
  unfold hello
  split_ifs
  · exact ⟨rfl, hkeep⟩
  · exact ⟨rfl, hkeep⟩
  cases m.read readHello request.payload with
  | error e => exact ⟨rfl, hkeep⟩
  | ok hello =>
      dsimp only
      split_ifs
      · exact ⟨rfl, hkeep⟩
      · exact ⟨rfl, .inl rfl⟩
      · exact ⟨rfl, .inl rfl⟩
      · exact ⟨rfl, .inl rfl⟩

/-- What is sent does not depend on the contract that was turned down. -/
theorem conclude_alike {h k : Handled} (hanswer : k.1 = h.1) (hstate : Alike h.2 k.2) :
    (conclude request k).1 = (conclude request h).1 ∧
      Alike (conclude request h).2 (conclude request k).2 := by
  obtain ⟨answer, s⟩ := h
  obtain ⟨answer', t⟩ := k
  dsimp only at hanswer hstate
  subst hanswer
  rcases hstate with rfl | ⟨hs, batch, rfl⟩
  · exact ⟨rfl, .inl rfl⟩
  · cases answer' with
    | ok response => exact ⟨rfl, .inr ⟨hs, batch, rfl⟩⟩
    | error e => exact ⟨rfl, .inr ⟨hs, batch, rfl⟩⟩

/-- Sessions that are alike answer a frame alike and stay alike. -/
theorem step_alike (h : Alike s t) (input : Memory × Frame) :
    (t.step input).1 = (s.step input).1 ∧ Alike (s.step input).2 (t.step input).2 := by
  obtain ⟨m, request⟩ := input
  rcases h with rfl | ⟨hs, batch, rfl⟩
  · exact ⟨rfl, .inl rfl⟩
  unfold step
  rw [process_handled, process_handled]
  apply conclude_alike
  all_goals
    unfold handle
    rw [show refusal { s with batch } request = s.refusal request from rfl]
    cases s.refusal request with
    | some e => first | rfl | exact .inr ⟨hs, batch, rfl⟩
    | none =>
        dsimp only
        rw [if_neg (by rw [hs]; decide), if_neg (by rw [hs]; decide)]
        have hhello := hello_alike (s := { s with sequence := s.sequence + 1 }) m request batch hs
        first | exact hhello.1 | exact hhello.2

/-- Sessions that are alike answer alike from then on. -/
theorem Alike.outputs (h : Alike s t) (inputs : List (Memory × Frame)) :
    outputs step t inputs = outputs step s inputs := by
  induction inputs generalizing s t with
  | nil => rfl
  | cons input inputs ih =>
      obtain ⟨hanswer, hstate⟩ := step_alike h input
      rw [outputs_cons, outputs_cons, hanswer, ih hstate]

/-- What an error leaves of a session that stays open.  The last field says
that no later request can tell the difference but for the sequence. -/
structure Unchanged (s t : ProtocolSession) : Prop where
  identity : t.identity = s.identity
  closed : t.closed = s.closed
  state : t.state = s.state
  negotiated : t.negotiated = s.negotiated
  capabilities : t.capabilities = s.capabilities
  sequence : t.sequence = s.sequence ∨ t.sequence = s.sequence + 1
  later : ∀ inputs, outputs step t inputs = outputs step { s with sequence := t.sequence } inputs

/-- A session is unchanged by nothing. -/
theorem Unchanged.refl (s : ProtocolSession) : Unchanged s s where
  identity := rfl
  closed := rfl
  state := rfl
  negotiated := rfl
  capabilities := rfl
  sequence := .inl rfl
  later _ := rfl

/-- Counting a request changes the sequence only. -/
theorem Unchanged.counted (s : ProtocolSession) :
    Unchanged s { s with sequence := s.sequence + 1 } where
  identity := rfl
  closed := rfl
  state := rfl
  negotiated := rfl
  capabilities := rfl
  sequence := .inr rfl
  later _ := rfl

/-- Turning down a hello changes the sequence and the contract, and the contract is not read
before the next hello. -/
theorem Unchanged.forgotten (batch : Bool) (hs : s.negotiated = false) :
    Unchanged s { s with sequence := s.sequence + 1, batch } where
  identity := rfl
  closed := rfl
  state := rfl
  negotiated := rfl
  capabilities := rfl
  sequence := .inr rfl
  later := Alike.outputs (s := { s with sequence := s.sequence + 1 }) (.inr ⟨hs, batch, rfl⟩)

/-- The request that makes a session run the items of a batch. -/
structure StartsBatch (s : ProtocolSession) (m : Memory) (request : Frame) (batch : BatchRequest) :
    Prop where
  counted : s.refusal request = none
  negotiated : s.negotiated = true
  decision : request.decision = 0
  opcode : request.opcode = 10
  subject : request.subject = 105
  runtime : s.capabilities &&& 27 = 27
  contract : s.batch = true
  batched : s.capabilities &&& 128 ≠ 0
  read : m.read readBatch request.payload = .ok batch

/-- What the items of a batch come to. -/
def items (s : ProtocolSession) (m : Memory) (batch : BatchRequest) : Except Thrown Bytes × State :=
  batchItems m batch batch.count 0 (batch.id ++ Writer.integer batch.count 2) s.state

/-- The items of a batch decide how it is handled: answered with their entries, or with the
error of the one that failed. -/
theorem StartsBatch.handle {batch : BatchRequest} (h : StartsBatch s m request batch) :
    s.handle m request =
      match s.items m batch with
      | (.error e, state) =>
        (.error e, { s with sequence := s.sequence + 1, state, closed := true })
      | (.ok payload, state) =>
        { s with sequence := s.sequence + 1, state }.reply m request 11 payload 7 := by
  have hcontract : ¬ (s.batch = false ∨ s.capabilities &&& 128 = 0) := by
    rw [not_or, h.contract]
    exact ⟨by decide, h.batched⟩
  unfold ProtocolSession.handle
  rw [h.counted]
  dsimp only
  rw [if_pos h.negotiated]
  unfold dispatch runtimeEvent runBatch
  rw [if_neg (not_not.mpr h.decision), if_pos h.opcode, if_neg (not_not.mpr h.runtime),
    if_pos h.subject, if_neg hcontract, h.read]
  rfl

/-- A batch with an item that fails closes the session. -/
theorem StartsBatch.failed {batch : BatchRequest} (h : StartsBatch s m request batch) {e : Thrown}
    (hitems : (s.items m batch).1 = .error e) :
    (s.process m request).1.opcode = errorOpcode ∧ (s.process m request).2.closed = true := by
  rw [process_handled, h.handle]
  rcases hrun : s.items m batch with ⟨answer, state⟩
  rw [hrun] at hitems
  dsimp only at hitems
  subst hitems
  exact ⟨rfl, rfl⟩

/-- An outcome that is answered with an error leaves the session as it was, or
closes it. -/
theorem Outcome.atomic {h : Handled}
    (houtcome : Outcome { s with sequence := s.sequence + 1 } request h)
    (herror : (conclude request h).1.opcode = errorOpcode) :
    (conclude request h).2.closed = true ∨ Unchanged s (conclude request h).2 := by
  have hfatal : ∀ {e : Thrown} {t : ProtocolSession}, e.fatal = true →
      (conclude request (.error e, t)).2.closed = true := by
    intro e t he
    simp [conclude, he]
  have hmild : ∀ {e : Thrown} {t : ProtocolSession}, ¬ e.fatal = true →
      (conclude request (.error e, t)).2 = t := by
    intro e t he
    simp [conclude, he]
  cases houtcome with
  | rejected e =>
      by_cases he : e.fatal = true
      · exact .inl (hfatal he)
      · rw [hmild he]
        exact .inr (.counted s)
  | forgotten e batch hs =>
      by_cases he : e.fatal = true
      · exact .inl (hfatal he)
      · rw [hmild he]
        exact .inr (.forgotten batch hs)
  | unanswered e t hclosing =>
      left
      rcases hclosing with he | ht
      · exact hfatal he
      · simp [conclude, ht]
  | welcome => exact absurd (show (2 : UInt8) = 255 from herror) (by decide)
  | decided => exact absurd (show (11 : UInt8) = 255 from herror) (by decide)
  | pong => exact absurd (show (21 : UInt8) = 255 from herror) (by decide)
  | farewell => exact absurd (show (30 : UInt8) = 255 from herror) (by decide)

/-- **Errors are atomic or fatal.**  After an error the session is closed, or
it is as before but for the sequence.  A closed session answers with errors
only and stays as it is.  A batch that fails at an item is answered with an
error and closes the session. -/
theorem errors_atomic (identity : Identity) (history : List (Memory × Frame)) (m : Memory)
    (request : Frame) :
    let s := final step (fresh identity) history
    let response := (s.process m request).1
    let t := (s.process m request).2
    (response.opcode = errorOpcode → t.closed = true ∨ Unchanged s t) ∧
      (s.closed = true → response.opcode = errorOpcode ∧ t = s) ∧
      ∀ batch e, StartsBatch s m request batch → (s.items m batch).1 = .error e →
        response.opcode = errorOpcode ∧ t.closed = true := by
  intro s response t
  refine ⟨?_, process_of_closed, fun batch e hstarts hitems => hstarts.failed hitems⟩
  intro herror
  rcases hrefusal : s.refusal request with _ | e
  · have houtcome := handle_outcome (m := m) hrefusal
    have hprocess : s.process m request = conclude request (s.handle m request) := process_handled
    change (s.process m request).2.closed = true ∨ Unchanged s (s.process m request).2
    change (s.process m request).1.opcode = errorOpcode at herror
    rw [hprocess] at herror ⊢
    exact houtcome.atomic herror
  · change (s.process m request).2.closed = true ∨ Unchanged s (s.process m request).2
    rw [process_refused hrefusal]
    by_cases he : e.fatal = true
    · left
      simp [conclude, Thrown.fatal, he]
    · right
      have hsame : (conclude request (.error (.error e), s)).2 = s := by
        simp [conclude, Thrown.fatal, he]
      rw [hsame]
      exact .refl s

end ProtocolSession

end FluidGateway.Native
