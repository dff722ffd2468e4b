import FluidGateway.PayloadParity
import FluidGateway.NativeResponses
import FluidGateway.BackedRuns
import FluidGateway.ErrorPayloads

/-!
# The two sessions

`ProtocolSession` of `native/src/protocol.cpp` and `FluidLinkV2ServerSession` of
`fluidgateway/fluidlink_v2.py`, each around its own runtime.  As long as the
runtimes decide alike, every frame is answered alike: with the same header, and
the same code where it is an error.

`Mirrors` is the relation between the sessions that every frame keeps.  The
native side sets more fields before it has checked a hello, and checks for a
closed session before there is one; neither can be told from its answers.
-/

namespace FluidGateway.FluidLink

open Reading
open Native (Bytes Frame Identity Memory ProtocolSession Thrown)
open FluidGateway.Adapter (EventType Payload)

/-! ## What is asked of the runtimes -/

/-- What is sent of a decision of the reference is what the native engine has
decided. -/
structure SameDecision (decision : Native.Decision) (compact : CompactResponse) : Prop where
  accepted : compact.accepted = true
  executed : compact.executed =
    if decision.operation then some (decide (decision.opcode = 0)) else none
  savedMs : scaledDecimal compact.savedMs 1000 maximumU64 "milliseconds" = .ok decision.savedUs
  savedMb : scaledDecimal compact.savedMb mebibyte maximumU64 "saved_mb" =
    .ok decision.savedBytes

/-- Both runtimes decide alike, or both reject the event, and the native one
has run into no limit. -/
inductive SameAnswer (type : EventType) :
    Except Thrown Native.Decision → Except PyException Payload → Prop
  | decided {decision : Native.Decision} {response : Payload} {compact : CompactResponse}
      (sent : compactRuntimeResponse type response = .ok (decision.opcode.toNat, compact))
      (same : SameDecision decision compact) : SameAnswer type (.ok decision) (.ok response)
  | rejected {e : Thrown} {exception : PyException} (within : e.fatal = false) :
      SameAnswer type (.error e) (.error exception)

/-- The dictionary of an event that is handed to the runtime. -/
def WireEvent.dict (wire : WireEvent) (type : EventType) : Payload :=
  wire.fields ++ [("event", .text (eventName type))]

/-- An item of a batch, as the native session hands it to its runtime. -/
def item (request : Native.BatchRequest) (i : ℕ) : Native.Operation :=
  { request.template with id := Native.itemId request.id i }

variable {σ : Type}

/-- The runtimes decide alike on the items of a batch, up to the first that is
rejected. -/
def SameItems (handler : EventHandler σ) (m : Memory) (request : Native.BatchRequest)
    (batch : WireBatch) : (remaining i : ℕ) → Native.State → σ → Prop
  | 0, _, _, _ => True
  | remaining + 1, i, s, runtime =>
    (Native.itemId request.id i = utf8 (batch.itemId i) →
      SameOperation (item request i) batch.operation →
      SameAnswer .operation (s.process (m.grants i) (item request i)).1
        (handler (batch.event i) runtime).1) ∧
    ((s.process (m.grants i) (item request i)).1.isOk = true →
      SameItems handler m request batch remaining (i + 1)
        (s.process (m.grants i) (item request i)).2 (handler (batch.event i) runtime).2)

/-- The request gets as far as the runtime. -/
structure Reaches (s : ProtocolSession) (request : Frame) : Prop where
  looked : s.refusal request = none
  negotiated : s.negotiated = true
  decision : request.decision = 0
  opcode : request.opcode = 10
  capable : s.capabilities &&& 27 = 27

/-- The runtimes decide alike on what a request hands them, if that is the same
event on both sides. -/
structure AnsweredAlike (handler : EventHandler σ) (s : ProtocolSession) (runtime : σ)
    (m : Memory) (request : Frame) : Prop where
  event : ∀ {type call wire}, Native.readEvent request.subject request.payload = .ok call →
    eventOfOpcode request.subject.toNat = some type →
    (readEvent type).run request.payload = .ok wire → SameEvent call wire →
    SameAnswer type (s.state.answer (m.grants 0) call).1 (handler (wire.dict type) runtime).1
  batch : request.subject = 105 → s.batch = true → s.capabilities &&& 128 ≠ 0 →
    ∀ {native batch}, Native.readBatch.run request.payload = .ok native →
    decodeOperationBatchEventPayload request.payload = .ok batch →
    SameItems handler m native batch native.count 0 s.state runtime

/-! ## What is compared -/

/-- The code of an error response. -/
def errorCode (payload : Bytes) : ℕ :=
  LittleEndian.decode (payload.take 2)

/-- Two responses with the same header, and the same code where they are errors. -/
structure SameResponse (f : Frame) (p : FluidLinkV2Frame) : Prop where
  header : p = { reference f with payload := p.payload }
  code : f.opcode = 255 → errorCode f.payload = errorCode p.payload

/-- The sessions after the same frames. -/
structure Mirrors (s : ProtocolSession) (t : FluidLinkV2ServerSession) : Prop where
  identity : Native.nonzero s.identity.toList = true
  sequence : s.sequence = t.expectedSequence
  closed : s.closed = t.closed
  opened : s.negotiated = false → s.closed = false
  session : t.sessionId = if s.negotiated then some s.identity.toList else none
  capabilities : s.negotiated = true → t.acceptedCapabilities = s.capabilities
  batch : s.negotiated = true →
    (s.batch = true ↔ ∃ digest ∈ t.contractDigest, contractDigestOf Native.batchHash digest)
  name : PayloadWriter.boundedText t.serverName 128 = .ok (utf8 t.serverName)
  version : PayloadWriter.boundedText t.serverVersion 64 = .ok (utf8 t.serverVersion)

variable {s : ProtocolSession} {t : FluidLinkV2ServerSession} {request : Frame} {m : Memory}

/-! ## Responses -/

/-- The sessions fill in the header in the same way. -/
theorem respond_alike (h : Mirrors s t) (opcode decision : UInt8) (ok : Bool)
    (native payload : Bytes) {subject : ℕ}
    (hsubject : subject = if opcode = 11 ∨ opcode = 255 then request.subject.toNat else 0) :
    fluidlinkV2Response (reference request) opcode.toNat t.sessionId payload subject
        decision.toNat ok =
      { reference (s.respond request opcode native decision ok) with payload } := by
  have hsession := h.session
  change FluidLinkV2Frame.mk _ _ _ _ _ _ _ _ _ = FluidLinkV2Frame.mk _ _ _ _ _ _ _ _ _
  rw [FluidLinkV2Frame.mk.injEq]
  refine ⟨rfl, rfl, ?_, rfl, ?_, rfl, rfl, ?_, rfl⟩
  · rw [hsubject]
    change _ = (if opcode = 11 ∨ opcode = 255 then request.subject else 0).toNat
    split_ifs
    · rfl
    · rfl
  · have hsome : t.sessionId.isSome = s.negotiated := by
      rw [hsession]
      cases s.negotiated <;> rfl
    change _ = ((if ok then 1 else 0) ||| (if s.negotiated then 2 else 0) : UInt8).toNat
    rw [hsome]
    cases s.negotiated <;> cases ok <;> decide
  · rw [hsession]
    change _ = if ((if ok then 1 else 0) ||| (if s.negotiated then 2 else 0) : UInt8) &&& 2 ≠ 0
      then some (if s.negotiated then s.identity else Vector.replicate 16 0).toList else none
    cases s.negotiated <;> cases ok <;> rfl

theorem errorCode_encode {code : ℕ} (h : code < 256 ^ 2) (rest : Bytes) :
    errorCode (LittleEndian.encode code 2 ++ rest) = code := by
  unfold errorCode
  rw [List.take_left' (LittleEndian.encode_length code 2), LittleEndian.decode_encode h]

/-- An error of the reference is always written, and begins with its code. -/
theorem encodeErrorPayload_starts (code : FluidLinkV2ErrorCode) (message : String) :
    ∃ payload, encodeErrorPayload code.value message = .ok payload ∧
      errorCode payload = code.value := by
  have hreports : Reports code (PyText.ofString message) := by
    rw [reports_iff]
    refine .inl ?_
    exact PyText.exists_string.mp ⟨message, rfl⟩
  obtain ⟨payload, hpayload, text, hread, -⟩ := hreports
  rw [PyText.encodeErrorPayload_ofString] at hpayload
  refine ⟨payload, hpayload, ?_⟩
  unfold encodeErrorPayload PayloadWriter.u16 at hpayload
  rw [integer_ok _ code.value_lt] at hpayload
  cases htext : PayloadWriter.text16 (truncateUtf8 message 512) 512 with
  | error e =>
      rw [htext] at hpayload
      cases hpayload
  | ok text =>
      rw [htext] at hpayload
      change (if Native.maxPayload < _ then _ else _) = _ at hpayload
      split_ifs at hpayload
      obtain rfl := Except.ok.inj hpayload
      exact errorCode_encode code.value_lt _

/-- An error response says the session, the request and the code. -/
theorem error_alike (h : Mirrors s t) {e : Native.Error} {code : FluidLinkV2ErrorCode}
    (hcode : e.code = code.value) (message : String) :
    ∃ p, t.error (reference request) code message = .ok p ∧
      SameResponse (s.respond request Native.errorOpcode (ProtocolSession.errorPayload (.error e))
        255 false) p := by
  obtain ⟨payload, hpayload, hstarts⟩ := encodeErrorPayload_starts code message
  refine ⟨_, ?_, ⟨respond_alike h Native.errorOpcode 255 false
    (ProtocolSession.errorPayload (.error e)) payload rfl, ?_⟩⟩
  · unfold FluidLinkV2ServerSession.error
    rw [hpayload]
    rfl
  · intro _
    have hlt : e.code < 256 ^ 2 := by
      rw [hcode]
      exact code.value_lt
    exact (errorCode_encode hlt _).trans (hcode.trans hstarts.symm)

/-- Any other response is one of the session, whatever it says. -/
theorem reply_alike (h : Mirrors s t) {opcode : UInt8} (hopcode : opcode ≠ 255)
    (decision : UInt8) (native payload : Bytes) {subject : ℕ}
    (hsubject : subject = if opcode = 11 then request.subject.toNat else 0) :
    SameResponse (s.respond request opcode native decision)
      (fluidlinkV2Response (reference request) opcode.toNat t.sessionId payload subject
        decision.toNat) := by
  refine ⟨respond_alike h opcode decision true native payload ?_, fun herror =>
    absurd herror hopcode⟩
  rw [hsubject]
  simp only [hopcode, or_false]

/-! ## What becomes of a request -/

/-- A request is answered alike on both sides, or refused with the same code. -/
inductive SameHandled (request : Frame) : Native.Handled →
    Except PyException FluidLinkV2Frame → FluidLinkV2ServerSession → Prop
  | answered {f : Frame} {p : FluidLinkV2Frame} {s : ProtocolSession}
      {t : FluidLinkV2ServerSession} (same : SameResponse f p) (mirrors : Mirrors s t) :
      SameHandled request (.ok f, s) (.ok p) t
  | refused {e : Native.Error} {response : Except PyException FluidLinkV2Frame}
      {s : ProtocolSession} {t : FluidLinkV2ServerSession} {code : FluidLinkV2ErrorCode}
      {message : String} (reported : response = t.error (reference request) code message)
      (same : e.code = code.value) (within : e.fatal = false) (mirrors : Mirrors s t) :
      SameHandled request (.error (.error e), s) response t

theorem SameHandled.conclude {out : Native.Handled}
    {response : Except PyException FluidLinkV2Frame} (h : SameHandled request out response t) :
    (∃ p, response = .ok p ∧ SameResponse (ProtocolSession.conclude request out).1 p) ∧
      Mirrors (ProtocolSession.conclude request out).2 t := by
  cases h with
  | answered same mirrors => exact ⟨⟨_, rfl, same⟩, mirrors⟩
  | @refused e response s t code message reported same within mirrors =>
      have hopen : (ProtocolSession.conclude request (.error (.error e), s)).2 = s := by
        unfold ProtocolSession.conclude Thrown.fatal
        dsimp only
        rw [within, Bool.or_false]
      have hresponse : (ProtocolSession.conclude request (.error (.error e), s)).1 =
          s.respond request Native.errorOpcode (ProtocolSession.errorPayload (.error e)) 255
            false := by
        rw [← hopen]
        rfl
      rw [hopen, hresponse, reported]
      exact ⟨error_alike mirrors same message, mirrors⟩

/-- A payload is read alike, when the heap serves it. -/
theorem read_alike {α β : Type} {value : α → β → Prop} {p : Native.Reader α}
    {q : PayloadReader β} (h : Ends value p q) (hp : Fails Native.Malformed p)
    (hreading : m.reading = true) (payload : Bytes) :
    (∃ a b, m.read p payload = .ok a ∧ q.run payload = .ok b ∧ value a b) ∨
      ∃ e d, m.read p payload = .error (.error e) ∧ q.run payload = .error d ∧
        e.code = 10 ∧ e.fatal = false := by
  have hboth := h.run hp payload
  unfold Memory.read
  rw [if_pos hreading]
  cases hread : Native.Reader.run p payload with
  | ok a =>
      obtain ⟨b, hrun, hvalue⟩ := hboth.of_ok hread
      exact .inl ⟨a, b, rfl, hrun, hvalue⟩
  | error e =>
      obtain ⟨d, hrun, hmalformed⟩ := hboth.of_error hread
      exact .inr ⟨e, d, rfl, hrun, hmalformed.code, hmalformed.fatal⟩

/-! ## The session keeps mirroring -/

namespace Mirrors

theorem withState (h : Mirrors s t) (state : Native.State) : Mirrors { s with state } t :=
  ⟨h.identity, h.sequence, h.closed, h.opened, h.session, h.capabilities, h.batch, h.name,
    h.version⟩

theorem counted (h : Mirrors s t) :
    Mirrors { s with sequence := s.sequence + 1 }
      { t with expectedSequence := t.expectedSequence + 1 } :=
  ⟨h.identity, congrArg (· + 1) h.sequence, h.closed, h.opened, h.session, h.capabilities,
    h.batch, h.name, h.version⟩

/-- A session is closed once it has been negotiated. -/
theorem close (h : Mirrors s t) (hs : s.negotiated = true) :
    Mirrors { s with closed := true } { t with closed := true } := by
  refine ⟨h.identity, h.sequence, rfl, ?_, h.session, h.capabilities, h.batch, h.name, h.version⟩
  intro hfresh
  exact absurd (hs.symm.trans hfresh) (by decide)

/-- A contract that was turned down is remembered on the native side only. -/
theorem forgotten (h : Mirrors s t) (hs : s.negotiated = false) (batch : Bool) :
    Mirrors { s with batch } t := by
  refine ⟨h.identity, h.sequence, h.closed, h.opened, h.session, h.capabilities, ?_, h.name,
    h.version⟩
  intro hmet
  exact absurd (hmet.symm.trans hs) (by decide)

end Mirrors

/-! ## Hello -/

theorem boundedText_length {text : String} {maximumBytes : ℕ} {data : Bytes}
    (h : PayloadWriter.boundedText text maximumBytes = .ok data) :
    (utf8 text).length ≤ maximumBytes := by
  unfold PayloadWriter.boundedText at h
  split_ifs at h with hbad
  exact not_lt.mp fun hlong => hbad (.inl hlong)

/-- A text that has been checked is written behind one byte. -/
theorem text8_ok {text : String} {maximumBytes : ℕ} (hmaximum : maximumBytes ≤ 255)
    (h : PayloadWriter.boundedText text maximumBytes = .ok (utf8 text)) :
    PayloadWriter.text8 text maximumBytes =
      .ok (LittleEndian.encode (utf8 text).length 1 ++ utf8 text) := by
  have hlength := boundedText_length h
  have hfits : ¬ 0xFF < (utf8 text).length := by omega
  have hsize : (utf8 text).length < 256 ^ 1 := by omega
  unfold PayloadWriter.text8 PayloadWriter.u8
  rw [h]
  change (if 0xFF < (utf8 text).length then _ else _) = _
  rw [if_neg hfits, integer_ok _ hsize]
  rfl

/-- A welcome of a server with a checked name is always written. -/
theorem welcome_written {available accepted : ℕ} {name version : String} {digest : Bytes}
    (hdigest : digest.length = 32) (havailable : available < 256)
    (haccepted : accepted &&& available = accepted)
    (hname : PayloadWriter.boundedText name 128 = .ok (utf8 name))
    (hversion : PayloadWriter.boundedText version 64 = .ok (utf8 version)) :
    ∃ payload, encodeWelcomePayload available accepted name version digest = .ok payload := by
  have hlength := boundedText_length hname
  have hlength' := boundedText_length hversion
  have hle : accepted ≤ available := by
    rw [← haccepted]
    exact Nat.and_le_right
  have hraw : PayloadWriter.raw digest 32 = .ok digest := if_pos hdigest
  unfold encodeWelcomePayload PayloadWriter.u64 PayloadWriter.u32
  rw [if_neg (not_not.mpr haccepted), hraw, integer_ok _ (by omega), integer_ok _ (by omega),
    integer_ok _ (by decide), text8_ok (by decide) hname, text8_ok (by decide) hversion]
  refine ⟨_, @finish_ok [digest, LittleEndian.encode available 8, LittleEndian.encode accepted 8,
    LittleEndian.encode Native.maxPayload 4,
    LittleEndian.encode (utf8 name).length 1 ++ utf8 name,
    LittleEndian.encode (utf8 version).length 1 ++ utf8 version] ?_⟩
  simp only [List.flatten_cons, List.flatten_nil, List.length_append, LittleEndian.encode_length,
    List.length_nil, hdigest, Native.maxPayload]
  omega

/-- The session that a hello leads to. -/
theorem Mirrors.accept (h : Mirrors s t) {hello : Native.Hello} {digest : Bytes} {available : ℕ}
    (havailable : available =
      ProtocolSession.available (decide (Native.hex hello.digest = Native.batchHash)))
    (hdigest : hello.digest = digest) :
    Mirrors (s.accept hello) { t with
      sessionId := some s.identity.toList
      contractDigest := some digest
      acceptedCapabilities := (hello.requested ||| hello.required) &&& available } where
  identity := h.identity
  sequence := h.sequence
  closed := h.closed
  opened := fun hfresh => absurd hfresh (by decide : ¬ true = false)
  session := rfl
  capabilities := by
    intro _
    rw [havailable]
    rfl
  batch := by
    intro _
    change decide (Native.hex hello.digest = Native.batchHash) = true ↔ _
    rw [decide_eq_true_eq, hdigest]
    constructor
    · intro hbatch
      exact ⟨digest, rfl, hbatch⟩
    · rintro ⟨other, hother, hbatch⟩
      cases hother
      exact hbatch
  name := h.name
  version := h.version

/-- The contracts of the two sides offer the same capabilities. -/
theorem availableCapabilities_eq (digest : Bytes) :
    FluidLinkV2ServerSession.availableCapabilities digest =
      if Native.hex digest ≠ Native.baseHash ∧ Native.hex digest ≠ Native.batchHash then none
      else some (ProtocolSession.available (decide (Native.hex digest = Native.batchHash))) := by
  have hdistinct : Native.baseHash ≠ Native.batchHash := by decide
  unfold FluidLinkV2ServerSession.availableCapabilities
  by_cases hbase : contractDigestOf Native.baseHash digest
  · have hother : ¬ Native.hex digest = Native.batchHash := fun hbatch =>
      hdistinct (hbase.symm.trans hbatch)
    rw [if_pos hbase, if_neg fun h => h.1 hbase, decide_eq_false hother]
    rfl
  · rw [if_neg hbase]
    by_cases hbatch : contractDigestOf Native.batchHash digest
    · have hsame : Native.hex digest = Native.batchHash := hbatch
      rw [if_pos hbatch, if_neg fun h => h.2 hbatch, decide_eq_true hsame]
      rfl
    · rw [if_neg hbatch, if_pos ⟨hbase, hbatch⟩]

theorem hello_mirrors (h : Mirrors s t) (hs : s.negotiated = false)
    (hreading : m.reading = true) (hwriting : m.writing = true) (hopcode : request.opcode = 1) :
    SameHandled request (s.hello m request)
      (t.handleHello s.identity.toList (reference request)).1
      (t.handleHello s.identity.toList (reference request)).2 := by
  have hheader : (request.flags &&& 2 ≠ 0 ∨ request.subject ≠ 0 ∨ request.decision ≠ 0) ↔
      ((reference request).sessionId.isSome = true ∨ (reference request).subjectOpcode ≠ 0 ∨
        (reference request).decisionOpcode ≠ 0) := by
    have hflag : (reference request).sessionId.isSome = true ↔ request.flags &&& 2 ≠ 0 := by
      change (if request.flags &&& 2 ≠ 0 then some request.session.toList else none).isSome =
        true ↔ _
      by_cases hset : request.flags &&& 2 ≠ 0
      · rw [if_pos hset]
        exact iff_of_true rfl hset
      · rw [if_neg hset]
        exact iff_of_false Bool.false_ne_true hset
    rw [hflag]
    exact or_congr Iff.rfl (or_congr (not_congr UInt8.toNat_inj.symm)
      (not_congr UInt8.toNat_inj.symm))
  unfold ProtocolSession.hello FluidLinkV2ServerSession.handleHello
  rw [if_neg (not_not.mpr hopcode)]
  by_cases hbad : request.flags &&& 2 ≠ 0 ∨ request.subject ≠ 0 ∨ request.decision ≠ 0
  · rw [if_pos hbad, if_pos (hheader.mp hbad)]
    exact .refused rfl rfl rfl h
  rw [if_neg hbad, if_neg fun hreference => hbad (hheader.mpr hreference)]
  have hpayload : (reference request).payload = request.payload := rfl
  unfold decodeHelloPayload
  rw [hpayload]
  obtain ⟨hello, hello', hread, hrun, hsame⟩ | ⟨e, d, hread, hrun, hcode, hfatal⟩ :=
    read_alike readHello_alike Native.readHello_malformed hreading request.payload
  · obtain ⟨hdigest, hrequested, hrequired, hlength, hknown⟩ := hsame
    rw [hread, hrun]
    dsimp only
    rw [← hdigest, ← hrequested, ← hrequired, availableCapabilities_eq]
    by_cases hcontract : Native.hex hello.digest ≠ Native.baseHash ∧
        Native.hex hello.digest ≠ Native.batchHash
    · rw [if_pos hcontract, if_pos hcontract]
      exact .refused rfl rfl rfl h
    rw [if_neg hcontract, if_neg hcontract]
    have haccept := @Mirrors.accept s t h hello hello.digest _ rfl rfl
    unfold ProtocolSession.accept at haccept
    generalize hbatch : decide (Native.hex hello.digest = Native.batchHash) = batch
      at haccept ⊢
    have hcontractOf : contractDigestOf Native.batchHash hello.digest ↔ batch = true := by
      rw [← hbatch, decide_eq_true_eq]
      rfl
    dsimp only
    simp only [hcontractOf]
    by_cases hrequiredBatch : batch = true ∧ hello.required &&& 128 = 0
    · rw [if_pos hrequiredBatch, if_pos hrequiredBatch]
      exact .refused rfl rfl rfl (h.forgotten hs batch)
    rw [if_neg hrequiredBatch, if_neg hrequiredBatch]
    by_cases hunavailable : hello.required &&& (255 - ProtocolSession.available batch) ≠ 0
    · rw [if_pos hunavailable, if_pos hunavailable]
      exact .refused rfl rfl rfl (h.forgotten hs batch)
    rw [if_neg hunavailable, if_neg hunavailable]
    have hhalf : ProtocolSession.available batch < 256 := by
      cases batch <;> decide
    have hsubset : (hello.requested ||| hello.required) &&& ProtocolSession.available batch &&&
        ProtocolSession.available batch =
          (hello.requested ||| hello.required) &&& ProtocolSession.available batch := by
      rw [Nat.and_assoc, Nat.and_self]
    obtain ⟨payload, hwritten⟩ := welcome_written hlength hhalf hsubset h.name h.version
    unfold ProtocolSession.reply
    rw [hwritten, if_pos hwriting]
    exact .answered (reply_alike haccept (by decide) 0 _ payload rfl) haccept
  · rw [hread, hrun]
    exact .refused rfl hcode hfatal h

/-! ## Requests of a negotiated session -/

/-- A nonce that was read is always written. -/
theorem nonce_written {value : String} {payload : Bytes}
    (h : (PayloadReader.text8 128).run payload = .ok value) :
    ∃ written, encodeNoncePayload value = .ok written := by
  obtain ⟨hfits, -⟩ := (PayloadReader.run_exact (PayloadReader.text_exact 1 128 false)).mp h
  have hsize := hfits.size
  have hvisible : strip value ≠ "" := hfits.visible.resolve_left Bool.false_ne_true
  have hbounded : PayloadWriter.boundedText value 128 = .ok (utf8 value) := by
    refine if_neg ?_
    rintro (hlong | hblank)
    · omega
    · exact hvisible hblank
  unfold encodeNoncePayload
  rw [text8_ok (by decide) hbounded]
  refine ⟨_, @finish_ok [LittleEndian.encode (utf8 value).length 1 ++ utf8 value] ?_⟩
  simp only [List.flatten_cons, List.flatten_nil, List.length_append, LittleEndian.encode_length,
    List.length_nil, Native.maxPayload]
  omega

theorem ping_mirrors (h : Mirrors s t) (hs : s.negotiated = true)
    (hreading : m.reading = true) (hwriting : m.writing = true) :
    SameHandled request (s.ping m request) (t.handlePing (reference request)) t := by
  unfold ProtocolSession.ping FluidLinkV2ServerSession.handlePing decodeNoncePayload
  rw [h.capabilities hs]
  by_cases hcapable : s.capabilities &&& 4 = 0
  · rw [if_pos hcapable, if_pos hcapable]
    exact .refused rfl rfl rfl h
  rw [if_neg hcapable, if_neg hcapable]
  have hpayload : (reference request).payload = request.payload := rfl
  rw [hpayload]
  obtain ⟨nonce, value, hread, hrun, hsame⟩ | ⟨e, d, hread, hrun, hcode, hfatal⟩ :=
    read_alike readNonce_alike Native.readNonce_malformed hreading request.payload
  · obtain ⟨payload, hwritten⟩ := nonce_written hrun
    rw [hread, hrun]
    dsimp only
    rw [hwritten]
    unfold ProtocolSession.reply
    rw [if_pos hwriting]
    exact .answered (reply_alike h (by decide) 0 _ payload rfl) h
  · rw [hread, hrun]
    exact .refused rfl hcode hfatal h

theorem goodbye_mirrors (h : Mirrors s t) (hs : s.negotiated = true)
    (hreading : m.reading = true) (hwriting : m.writing = true) :
    SameHandled request (s.goodbye m request) (t.handleGoodbye (reference request)).1
      (t.handleGoodbye (reference request)).2 := by
  have hpayload : (reference request).payload = request.payload := rfl
  unfold ProtocolSession.goodbye FluidLinkV2ServerSession.handleGoodbye Memory.read
  rw [if_pos hreading, hpayload]
  unfold Native.Reader.run Native.Reader.finish
  by_cases hempty : request.payload = []
  · have hclosed := h.close hs
    rw [if_pos hempty, if_neg (not_not.mpr hempty)]
    unfold ProtocolSession.reply
    dsimp only [Except.map, Except.mapError]
    rw [if_pos hwriting]
    exact .answered (reply_alike hclosed (by decide) 0 _ [] rfl) hclosed
  · rw [if_neg hempty, if_pos hempty]
    exact .refused rfl rfl rfl h

end FluidGateway.FluidLink
