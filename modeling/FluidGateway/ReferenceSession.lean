import FluidGateway.ReferencePayloads

/-!
# The reference session

`FluidLinkV2ServerSession` of `fluidgateway/fluidlink_v2.py`, around a runtime
that is given the dictionary of an event and returns a dictionary, or raises.
The runtime keeps what it has done when it raises, and so does the session.

Where the writing of a response raises, the exception leaves `process`.
-/

namespace FluidGateway.FluidLink

open Native (Bytes)
open FluidGateway.Adapter (Json Payload EventType PyFloat get)

/-! ## Decisions -/

/-- `DECISION_OPCODE_BY_POLICY`. -/
def decisionOpcodeByPolicy : List (String × ℕ) :=
  [("eliminate-self-copy", 1), ("deduplicate-identical-transfer", 2),
    ("collapse-aliased-resource-copy", 3), ("remove-orphan-sync", 4), ("remove-empty-sync", 5),
    ("reuse-transient-buffer", 6)]

/-- The opcode of an unknown decision. -/
def unknownDecision : ℕ := 255

/-- What is sent of a response of the runtime. -/
structure CompactResponse where
  accepted : Bool
  executed : Option Bool := none
  savedMs : PyFloat := .finite 0
  savedMb : PyFloat := .finite 0
  deriving DecidableEq, Repr

/-- `value is True`. -/
def isTrue : Json → Bool
  | .bool value => value
  | _ => false

/-- `numeric_value`. -/
def numericValue (value : Json) (name : String) : Except PyException PyFloat :=
  let negative := Except.error (.other s!"Runtime decision {name} must be finite and non-negative.")
  match value with
  | .null => .ok (.finite 0)
  | .int n =>
    if 2 ^ 1024 ≤ toDouble |n| then
      .error (.other s!"Runtime decision {name} must fit in a finite floating-point value.")
    else if n < 0 then negative
    else .ok (.finite (toDouble n))
  | .float (.finite x) => if x < 0 then negative else .ok (.finite x)
  | .float _ => negative
  | _ => .error (.other s!"Runtime decision {name} must be numeric.")

/-- `DECISION_OPCODE_BY_POLICY.get(policy, UNKNOWN)`. -/
def decisionOpcode (policy : Json) : Except PyException ℕ :=
  match policy with
  | .text policy => .ok ((decisionOpcodeByPolicy.lookup policy).getD unknownDecision)
  | .list _ => .error (.other "unhashable type: 'list'")
  | .dict _ => .error (.other "unhashable type: 'dict'")
  | _ => .ok unknownDecision

/-- `compact_runtime_response` of `fluidgateway/fluidlink.py`. -/
def compactRuntimeResponse (event : EventType) (response : Payload) :
    Except PyException (ℕ × CompactResponse) := do
  let accepted := isTrue (get response "ok")
  if event ≠ .operation then return (0, { accepted })
  else
    match get response "result" with
    | .dict result =>
      let executed := some (isTrue (get result "executed"))
      match get result "decision" with
      | .dict decision =>
        let opcode ← decisionOpcode (get decision "policy")
        let savedMs ← numericValue (get decision "estimated_saved_ms") "estimated_saved_ms"
        let savedMb ← numericValue (get decision "estimated_saved_mb") "estimated_saved_mb"
        return (opcode, { accepted, executed, savedMs, savedMb })
      | _ => return (0, { accepted, executed })
    | _ => throw (.other "Runtime operation response is missing its result object.")

def maximumU64 : ℕ := 0xFFFFFFFFFFFFFFFF

/-- `encode_runtime_decision_payload`. -/
def encodeRuntimeDecisionPayload (compact : CompactResponse) : Except PyException Bytes := do
  let flags := (if compact.accepted then 1 else 0) ||| (if compact.executed.isSome then 2 else 0) |||
    (if compact.executed = some true then 4 else 0)
  let savedUs ← scaledDecimal compact.savedMs 1000 maximumU64 "milliseconds"
  let savedBytes ← scaledDecimal compact.savedMb mebibyte maximumU64 "saved_mb"
  (PayloadWriter.finish [PayloadWriter.u8 flags, PayloadWriter.u64 savedUs,
    PayloadWriter.u64 savedBytes]).mapError .protocol

/-- An entry of a batch decision: `_batch_decision` and what is written of it. -/
def batchEntry (opcode : ℕ) (compact : CompactResponse) : Except PyException Bytes := do
  if 6 < opcode then
    throw (.protocol (invalidPayload
      "FluidLink v2 operation batch contains an invalid decision opcode."))
  else if compact.executed ≠ some (decide (opcode = 0)) then
    throw (.protocol (invalidPayload
      "FluidLink v2 operation batch decision execution state and opcode disagree."))
  else
    let decision ← encodeRuntimeDecisionPayload compact
    (PayloadWriter.finish [PayloadWriter.u8 opcode, PayloadWriter.raw decision 17]).mapError .protocol

/-- `encode_operation_batch_decision_payload`. -/
def encodeOperationBatchDecisionPayload (batchId : Bytes)
    (decisions : List (ℕ × CompactResponse)) : Except PyException Bytes := do
  if ¬ (1 ≤ decisions.length ∧ decisions.length ≤ 256) then
    throw (.protocol (invalidPayload
      "FluidLink v2 operation batch count must be between 1 and 256."))
  else
    let entries ← decisions.mapM fun decision => batchEntry decision.1 decision.2
    (PayloadWriter.finish ([PayloadWriter.raw batchId 16, PayloadWriter.u16 decisions.length] ++
      entries.map .ok)).mapError .protocol

/-! ## The session -/

inductive FluidLinkV2ErrorCode where
  | invalidFrame | handshakeRequired | contractMismatch | requiredCapabilityUnavailable
  | capabilityNotNegotiated | sequenceMismatch | sessionMismatch | unsupportedOpcode
  | unsupportedEventOpcode | invalidPayload | runtimeEventRejected | sessionClosed
  deriving DecidableEq, Repr

def FluidLinkV2ErrorCode.value : FluidLinkV2ErrorCode → ℕ
  | .invalidFrame => 1
  | .handshakeRequired => 2
  | .contractMismatch => 3
  | .requiredCapabilityUnavailable => 4
  | .capabilityNotNegotiated => 5
  | .sequenceMismatch => 6
  | .sessionMismatch => 7
  | .unsupportedOpcode => 8
  | .unsupportedEventOpcode => 9
  | .invalidPayload => 10
  | .runtimeEventRejected => 11
  | .sessionClosed => 12

/-- `fluidlink_v2_response`. -/
def fluidlinkV2Response (request : FluidLinkV2Frame) (opcode : ℕ) (sessionId : Option Bytes)
    (payload : Bytes) (subjectOpcode : ℕ := 0) (decisionOpcode : ℕ := 0) (ok : Bool := true) :
    FluidLinkV2Frame where
  kind := .response
  opcode := opcode
  subjectOpcode := subjectOpcode
  decisionOpcode := decisionOpcode
  flags := (if sessionId.isSome then 2 else 0) ||| (if ok then 1 else 0)
  sequence := request.sequence
  messageId := request.messageId
  sessionId := sessionId
  payload := payload

/-- The bytes of a digest in hexadecimal. -/
def contractDigestOf (hash : Native.Text) (digest : Bytes) : Prop :=
  Native.hex digest = hash

instance (hash : Native.Text) (digest : Bytes) : Decidable (contractDigestOf hash digest) :=
  inferInstanceAs (Decidable (Native.hex digest = hash))

structure FluidLinkV2ServerSession where
  serverName : String
  serverVersion : String
  sessionId : Option Bytes := none
  contractDigest : Option Bytes := none
  expectedSequence : ℕ := 1
  acceptedCapabilities : ℕ := 0
  closed : Bool := false

/-- A runtime behind the session: what it returns for an event, and its state
afterwards. -/
abbrev EventHandler (σ : Type) := Payload → σ → Except PyException Payload × σ

/-- What is left of the items of a batch, behind the decisions so far. -/
def batchDecisions {σ : Type} (handler : EventHandler σ) (batch : WireBatch) :
    (remaining ordinal : ℕ) → List (ℕ × CompactResponse) → σ →
      Except PyException (List (ℕ × CompactResponse)) × σ
  | 0, _, decisions, runtime => (.ok decisions, runtime)
  | remaining + 1, ordinal, decisions, runtime =>
    match handler (batch.event ordinal) runtime with
    | (.error e, runtime) => (.error e, runtime)
    | (.ok response, runtime) =>
      match compactRuntimeResponse .operation response with
      | .error e => (.error e, runtime)
      | .ok decision =>
        batchDecisions handler batch remaining (ordinal + 1) (decisions ++ [decision]) runtime

namespace FluidLinkV2ServerSession

/-- `_error`. -/
def error (s : FluidLinkV2ServerSession) (request : FluidLinkV2Frame)
    (code : FluidLinkV2ErrorCode) (message : String) : Except PyException FluidLinkV2Frame := do
  let payload ← (encodeErrorPayload code.value message).mapError .protocol
  return fluidlinkV2Response request 255 s.sessionId payload request.subjectOpcode
    unknownDecision false

/-- The capabilities that a contract offers. -/
def availableCapabilities (digest : Bytes) : Option ℕ :=
  if contractDigestOf Native.baseHash digest then some 0x7F
  else if contractDigestOf Native.batchHash digest then some 0xFF
  else none

/-- `_handle_hello`, with the identity that `uuid4` returns. -/
def handleHello (s : FluidLinkV2ServerSession) (uuid : Bytes) (request : FluidLinkV2Frame) :
    Except PyException FluidLinkV2Frame × FluidLinkV2ServerSession :=
  if request.sessionId.isSome ∨ request.subjectOpcode ≠ 0 ∨ request.decisionOpcode ≠ 0 then
    (s.error request .invalidFrame "FluidLink v2 hello header is invalid.", s)
  else
    match decodeHelloPayload request.payload with
    | .error e => (s.error request .invalidPayload e.message, s)
    | .ok hello =>
      match availableCapabilities hello.contractDigest with
      | none =>
        (s.error request .contractMismatch "FluidLink peers do not share the same v2 contract.", s)
      | some available =>
        if contractDigestOf Native.batchHash hello.contractDigest ∧
            hello.requiredCapabilities &&& 0x80 = 0 then
          (s.error request .invalidPayload
            "The FluidLink v2 batch profile requires its batch capability.", s)
        else
          -- the mask has no bits above the eight known ones
          let unavailable := hello.requiredCapabilities &&& (0xFF - available)
          if unavailable ≠ 0 then
            (s.error request .requiredCapabilityUnavailable
              s!"Required capability mask {hexNumber unavailable} is unavailable.", s)
          else
            let s := { s with
              sessionId := some uuid
              contractDigest := some hello.contractDigest
              acceptedCapabilities :=
                (hello.requestedCapabilities ||| hello.requiredCapabilities) &&& available }
            (do
              let payload ← (encodeWelcomePayload available s.acceptedCapabilities s.serverName
                s.serverVersion hello.contractDigest).mapError .protocol
              return fluidlinkV2Response request 2 s.sessionId payload, s)

variable {σ : Type}

/-- The runtime capabilities: payloads, units, events and decisions. -/
def requiredCapabilities : ℕ := 27

/-- `_handle_operation_batch`. -/
def handleOperationBatch (s : FluidLinkV2ServerSession) (handler : EventHandler σ)
    (request : FluidLinkV2Frame) (runtime : σ) :
    Except PyException FluidLinkV2Frame × FluidLinkV2ServerSession × σ :=
  if ¬ (∃ digest ∈ s.contractDigest, contractDigestOf Native.batchHash digest) ∨
      s.acceptedCapabilities &&& 0x80 = 0 then
    (s.error request .capabilityNotNegotiated
      "FluidLink v2 batched runtime events were not negotiated.", s, runtime)
  else
    match decodeOperationBatchEventPayload request.payload with
    | .error e => (s.error request .invalidPayload e.message, s, runtime)
    | .ok batch =>
      let (decisions, runtime) := batchDecisions handler batch batch.operationCount 0 [] runtime
      match decisions >>= encodeOperationBatchDecisionPayload batch.batchId with
      | .error e =>
        let s := { s with closed := true }
        (s.error request .runtimeEventRejected e.text, s, runtime)
      | .ok payload => (.ok (fluidlinkV2Response request 11 s.sessionId payload 105 7), s, runtime)

/-- The response to an event that the runtime has returned from. -/
def runtimeDecision (s : FluidLinkV2ServerSession) (request : FluidLinkV2Frame)
    (event : EventType) (result : Except PyException Payload) :
    Except PyException FluidLinkV2Frame :=
  let decided : Except PyException (ℕ × Bytes) := do
    let response ← result
    let (decisionOpcode, compact) ← compactRuntimeResponse event response
    let payload ← encodeRuntimeDecisionPayload compact
    return (decisionOpcode, payload)
  match decided with
  | .error e => s.error request .runtimeEventRejected e.text
  | .ok (decisionOpcode, payload) =>
    .ok (fluidlinkV2Response request 11 s.sessionId payload request.subjectOpcode decisionOpcode)

/-- `_handle_runtime_event`. -/
def handleRuntimeEvent (s : FluidLinkV2ServerSession) (handler : EventHandler σ)
    (request : FluidLinkV2Frame) (runtime : σ) :
    Except PyException FluidLinkV2Frame × FluidLinkV2ServerSession × σ :=
  if s.acceptedCapabilities &&& requiredCapabilities ≠ requiredCapabilities then
    (s.error request .capabilityNotNegotiated
      "FluidLink v2 runtime capabilities were not negotiated.", s, runtime)
  else if request.subjectOpcode = 105 then s.handleOperationBatch handler request runtime
  else
    match eventOfOpcode request.subjectOpcode with
    | none =>
      (s.error request .unsupportedEventOpcode
        s!"Unsupported FluidLink event opcode {request.subjectOpcode}.", s, runtime)
    | some event =>
      match decodeRuntimeEventPayload event request.payload with
      | .error e => (s.error request .invalidPayload e.message, s, runtime)
      | .ok payload =>
        let (result, runtime) := handler payload runtime
        (s.runtimeDecision request event result, s, runtime)

/-- `_handle_ping`. -/
def handlePing (s : FluidLinkV2ServerSession) (request : FluidLinkV2Frame) :
    Except PyException FluidLinkV2Frame :=
  if s.acceptedCapabilities &&& 4 = 0 then
    s.error request .capabilityNotNegotiated
      "FluidLink v2 heartbeat capability was not negotiated."
  else
    match decodeNoncePayload request.payload with
    | .error e => s.error request .invalidPayload e.message
    | .ok nonce => do
      let payload ← (encodeNoncePayload nonce).mapError .protocol
      return fluidlinkV2Response request 21 s.sessionId payload

/-- `_handle_goodbye`. -/
def handleGoodbye (s : FluidLinkV2ServerSession) (request : FluidLinkV2Frame) :
    Except PyException FluidLinkV2Frame × FluidLinkV2ServerSession :=
  if request.payload ≠ [] then
    (s.error request .invalidPayload "FluidLink v2 goodbye payload must be empty.", s)
  else
    let s := { s with closed := true }
    (.ok (fluidlinkV2Response request 30 s.sessionId []), s)

/-- A request of a negotiated session, whose sequence number has been taken. -/
def dispatch (s : FluidLinkV2ServerSession) (handler : EventHandler σ)
    (request : FluidLinkV2Frame) (runtime : σ) :
    Except PyException FluidLinkV2Frame × FluidLinkV2ServerSession × σ :=
  if request.decisionOpcode ≠ 0 then
    (s.error request .invalidFrame "FluidLink v2 requests must use decision opcode zero.", s,
      runtime)
  else if request.opcode = 10 then s.handleRuntimeEvent handler request runtime
  else if request.subjectOpcode ≠ 0 then
    (s.error request .invalidFrame "Only runtime event requests may use a subject opcode.", s,
      runtime)
  else if request.opcode = 20 then (s.handlePing request, s, runtime)
  else if request.opcode = 30 then
    let (response, s) := s.handleGoodbye request
    (response, s, runtime)
  else
    (s.error request .unsupportedOpcode s!"Unsupported FluidLink opcode {request.opcode}.", s,
      runtime)

/-- `process`. -/
def process (s : FluidLinkV2ServerSession) (uuid : Bytes) (handler : EventHandler σ)
    (request : FluidLinkV2Frame) (runtime : σ) :
    Except PyException FluidLinkV2Frame × FluidLinkV2ServerSession × σ :=
  if request.kind ≠ .request then
    (s.error request .invalidFrame "FluidLink v2 server accepts request frames only.", s, runtime)
  else if request.sequence ≠ s.expectedSequence then
    (s.error request .sequenceMismatch
      s!"Expected sequence {s.expectedSequence}, received {request.sequence}.", s, runtime)
  else if s.sessionId = none then
    let s := { s with expectedSequence := s.expectedSequence + 1 }
    if request.opcode ≠ 1 then
      (s.error request .handshakeRequired "A FluidLink v2 hello request is required first.", s,
        runtime)
    else
      let (response, s) := s.handleHello uuid request
      (response, s, runtime)
  else if request.sessionId ≠ s.sessionId then
    (s.error request .sessionMismatch
      "FluidLink v2 session_id does not match the negotiated session.", s, runtime)
  else if s.closed then
    (s.error request .sessionClosed "The FluidLink v2 session is already closed.", s, runtime)
  else
    { s with expectedSequence := s.expectedSequence + 1 }.dispatch handler request runtime

end FluidLinkV2ServerSession

end FluidGateway.FluidLink
