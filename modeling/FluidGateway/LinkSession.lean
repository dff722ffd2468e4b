import FluidGateway.LinkFrames
import FluidGateway.ReferenceSession
import FluidGateway.Lib.OrderedDict
import Mathlib.Data.Finset.Sort
import Mathlib.Data.String.Basic

/-!
# The FluidLink v1 session

`FluidLinkServerSession` of `fluidgateway/fluidlink.py`, around a runtime as in
`ReferenceSession`.  Whatever the runtime raises is answered; no request makes
`process` raise.
-/

namespace FluidGateway.FluidLink

open Native (Bytes)
open FluidGateway.Adapter (Json Payload EventType PyFloat get)

/-! ## Responses -/

/-- `fluidlink_response`. -/
def fluidlinkResponse (request : FluidLinkFrame) (opcode : Nat) (sessionId : Option Bytes)
    (payload : Payload) (subjectOpcode : Nat := 0) (decisionOpcode : Nat := 0)
    (ok : Bool := true) : FluidLinkFrame where
  kind := .response
  opcode := opcode
  subjectOpcode := subjectOpcode
  decisionOpcode := decisionOpcode
  flags := 4 ||| (if sessionId.isSome then 2 else 0) ||| (if ok then 1 else 0)
  sequence := request.sequence
  messageId := request.messageId
  sessionId := sessionId
  payload := payload

/-- `fluidlink_error_response`. -/
def fluidlinkErrorResponse (request : FluidLinkFrame) (code message : String)
    (sessionId : Option Bytes := none) : FluidLinkFrame :=
  fluidlinkResponse request 255 sessionId [("code", .text code), ("message", .text message)]
    request.subjectOpcode unknownDecision false

/-! ## Fields of a hello -/

/-- `FLUIDLINK_CONTRACT_SHA256`. -/
def contractSha256 : String :=
  "10b46685472d13d2d49cc81aa1f7df2d654c1ec53fdc666e086e0d062ad114fa"

/-- `FLUIDLINK_CAPABILITIES`. -/
def linkCapabilities : Finset String :=
  {"binary.framing.v1", "compact.decisions.v1", "heartbeat.v1", "memory.transit.v1",
    "runtime.decisions.v1", "runtime.events.v1", "session.lifecycle.v1"}

/-- `valid_text`. -/
def validText (value : Json) (maximum : Nat) : Bool :=
  match value with
  | .text text => strip text ≠ "" && (strip text).utf8ByteSize ≤ maximum
  | _ => false

def invalidCapabilities : FluidLinkProtocolError :=
  ⟨"invalid_capabilities", "FluidLink capabilities must be a list of non-empty strings."⟩

/-- An item of a list of capabilities. -/
def capabilityName (item : Json) : Option String :=
  match item with
  | .text text => if validText item 128 then some (strip text) else none
  | _ => none

/-- `string_set`. -/
def stringSet (value : Json) : Except FluidLinkProtocolError (Finset String) :=
  match value with
  | .list items =>
    if 64 < items.length then .error invalidCapabilities
    else
      match items.mapM capabilityName with
      | some names => .ok names.toFinset
      | none => .error invalidCapabilities
  | _ => .error invalidCapabilities

/-- `value == text`. -/
def isText (value : Json) (expected : String) : Bool :=
  match value with
  | .text text => text = expected
  | _ => false

/-- `request.payload.get(key, [])`. -/
def getList (payload : Payload) (key : String) : Json :=
  (payload.lookup key).getD (.list [])

def sortedTexts (texts : Finset String) : List String :=
  texts.sort (· ≤ ·)

/-! ## The session -/

structure FluidLinkServerSession where
  serverName : String
  serverVersion : String
  sessionId : Option Bytes := none
  expectedSequence : Nat := 1
  acceptedCapabilities : Finset String := ∅
  closed : Bool := false

/-- What is sent of a response of the runtime. -/
def CompactResponse.dict (compact : CompactResponse) : Payload :=
  ("accepted", .bool compact.accepted) ::
    match compact.executed with
    | none => []
    | some executed =>
      [("executed", .bool executed), ("saved_ms", .float compact.savedMs),
        ("saved_mb", .float compact.savedMb)]

/-- The capabilities that `_handle_runtime_event` requires. -/
def runtimeCapabilities : Finset String :=
  {"binary.framing.v1", "compact.decisions.v1", "runtime.events.v1", "runtime.decisions.v1"}

/-- The event of a request: its payload under the name of the event. -/
def eventOf (request : FluidLinkFrame) (event : EventType) : Payload :=
  OrderedDict.setItem "event" (.text (eventName event)) request.payload

namespace FluidLinkServerSession

/-- `_handle_hello`, with the identity that `uuid4` returns. -/
def handleHello (s : FluidLinkServerSession) (uuid : Bytes) (request : FluidLinkFrame) :
    FluidLinkFrame × FluidLinkServerSession :=
  if request.sessionId.isSome ∨ request.subjectOpcode ≠ 0 ∨ request.decisionOpcode ≠ 0 then
    (fluidlinkErrorResponse request "invalid_hello"
      "FluidLink hello must use an empty session and zero sub-opcodes.", s)
  else
    match get request.payload "client" with
    | .dict client =>
      if validText (get client "name") 128 = false then
        (fluidlinkErrorResponse request "invalid_hello"
          "FluidLink client.name must contain 1 to 128 UTF-8 bytes.", s)
      else if validText (get client "version") 64 = false then
        (fluidlinkErrorResponse request "invalid_hello"
          "FluidLink client.version must contain 1 to 64 UTF-8 bytes.", s)
      else if isText (get request.payload "contract_sha256") contractSha256 = false then
        (fluidlinkErrorResponse request "contract_mismatch"
          "FluidLink peers do not share the same v1 contract.", s)
      else
        match (do
          let requested ← stringSet (getList request.payload "capabilities")
          let required ← stringSet (getList request.payload "required_capabilities")
          return (requested, required)) with
        | .error e => (fluidlinkErrorResponse request e.code e.message, s)
        | .ok (requested, required) =>
          let unsupported := sortedTexts (required \ linkCapabilities)
          if unsupported ≠ [] then
            (fluidlinkErrorResponse request "required_capability_unavailable"
              ("Required capabilities are unavailable: " ++ ", ".intercalate unsupported), s)
          else
            let accepted := (requested ∪ required) ∩ linkCapabilities
            (fluidlinkResponse request 2 (some uuid)
              [("contract_sha256", .text contractSha256),
                ("server", .dict [("name", .text s.serverName),
                  ("version", .text s.serverVersion)]),
                ("available_capabilities", .list ((sortedTexts linkCapabilities).map .text)),
                ("accepted_capabilities", .list ((sortedTexts accepted).map .text)),
                ("limits", .dict [("max_payload_bytes", .int maxPayloadBytes),
                  ("max_json_depth", .int maxJsonDepth)])],
              { s with sessionId := some uuid, acceptedCapabilities := accepted })
    | _ =>
      (fluidlinkErrorResponse request "invalid_hello"
        "FluidLink hello requires a client object.", s)

variable {σ : Type}

/-- The response to an event that the runtime has returned from. -/
def runtimeDecision (s : FluidLinkServerSession) (request : FluidLinkFrame) (event : EventType)
    (result : Except PyException Payload) : FluidLinkFrame :=
  match result >>= compactRuntimeResponse event with
  | .error e => fluidlinkErrorResponse request "runtime_event_rejected" e.text s.sessionId
  | .ok (decisionOpcode, compact) =>
    fluidlinkResponse request 11 s.sessionId compact.dict request.subjectOpcode decisionOpcode

/-- `_handle_runtime_event`. -/
def handleRuntimeEvent (s : FluidLinkServerSession) (handler : EventHandler σ)
    (request : FluidLinkFrame) (runtime : σ) : FluidLinkFrame × σ :=
  if ¬ runtimeCapabilities ⊆ s.acceptedCapabilities then
    (fluidlinkErrorResponse request "capability_not_negotiated"
      "FluidLink binary runtime capabilities were not negotiated." s.sessionId, runtime)
  else
    match eventOfOpcode request.subjectOpcode with
    | none =>
      (fluidlinkErrorResponse request "unsupported_event_opcode"
        s!"Unsupported FluidLink event opcode {request.subjectOpcode}." s.sessionId, runtime)
    | some event =>
      let (result, runtime) := handler (eventOf request event) runtime
      (s.runtimeDecision request event result, runtime)

/-- `_handle_ping`. -/
def handlePing (s : FluidLinkServerSession) (request : FluidLinkFrame) : FluidLinkFrame :=
  if "heartbeat.v1" ∉ s.acceptedCapabilities then
    fluidlinkErrorResponse request "capability_not_negotiated" "heartbeat.v1 was not negotiated."
      s.sessionId
  else
    let nonce := get request.payload "nonce"
    if validText nonce 128 = false then
      fluidlinkErrorResponse request "invalid_ping"
        "FluidLink ping nonce must contain 1 to 128 UTF-8 bytes." s.sessionId
    else fluidlinkResponse request 21 s.sessionId [("nonce", nonce)]

/-- A request of a negotiated session, whose sequence number has been taken. -/
def dispatch (s : FluidLinkServerSession) (handler : EventHandler σ) (request : FluidLinkFrame)
    (runtime : σ) : FluidLinkFrame × FluidLinkServerSession × σ :=
  if request.decisionOpcode ≠ 0 then
    (fluidlinkErrorResponse request "invalid_request_header"
      "FluidLink requests must use decision opcode zero." s.sessionId, s, runtime)
  else if request.opcode = 10 then
    let (response, runtime) := s.handleRuntimeEvent handler request runtime
    (response, s, runtime)
  else if request.subjectOpcode ≠ 0 then
    (fluidlinkErrorResponse request "invalid_request_header"
      "Only runtime event requests may use a subject opcode." s.sessionId, s, runtime)
  else if request.opcode = 20 then (s.handlePing request, s, runtime)
  else if request.opcode = 30 then
    (fluidlinkResponse request 30 s.sessionId [("closed", .bool true)], { s with closed := true },
      runtime)
  else
    (fluidlinkErrorResponse request "unsupported_opcode"
      s!"Unsupported FluidLink opcode {request.opcode}." s.sessionId, s, runtime)

/-- `process`. -/
def process (s : FluidLinkServerSession) (uuid : Bytes) (handler : EventHandler σ)
    (request : FluidLinkFrame) (runtime : σ) : FluidLinkFrame × FluidLinkServerSession × σ :=
  if request.kind ≠ .request then
    (fluidlinkErrorResponse request "invalid_kind"
      "FluidLink server accepts request frames only." s.sessionId, s, runtime)
  else if request.sequence ≠ s.expectedSequence then
    (fluidlinkErrorResponse request "sequence_mismatch"
      s!"Expected sequence {s.expectedSequence}, received {request.sequence}." s.sessionId, s,
      runtime)
  else if s.sessionId = none then
    let s := { s with expectedSequence := s.expectedSequence + 1 }
    if request.opcode ≠ 1 then
      (fluidlinkErrorResponse request "handshake_required"
        "A FluidLink hello request is required first.", s, runtime)
    else
      let (response, s) := s.handleHello uuid request
      (response, s, runtime)
  else if request.sessionId ≠ s.sessionId then
    (fluidlinkErrorResponse request "session_mismatch"
      "FluidLink session_id does not match the negotiated session." s.sessionId, s, runtime)
  else if s.closed then
    (fluidlinkErrorResponse request "session_closed"
      "The FluidLink session is already closed." s.sessionId, s, runtime)
  else
    { s with expectedSequence := s.expectedSequence + 1 }.dispatch handler request runtime

end FluidLinkServerSession

end FluidGateway.FluidLink
