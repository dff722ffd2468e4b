import FluidGateway.ReferenceNumbers
import FluidGateway.NativeTexts

/-!
# The payloads of the reference

How `fluidgateway/fluidlink_v2.py` reads the payload of a request and writes
the payload of a response.  An event is read into the fields that are on the
wire (`WireEvent`), and from these the dictionary is built that the runtime is
given (`WireEvent.payload`).
-/

namespace FluidGateway.FluidLink

open Reading
open Native (Bytes)
open FluidGateway.Adapter (Json Payload EventType)

/-- A payload is refused with the code `invalid_payload` and a message. -/
def invalidPayload (message : String) : FluidLinkProtocolError :=
  ⟨"invalid_payload", message⟩

/-- `data.decode("utf-8", errors="strict")`. -/
def decodeUtf8 (data : Bytes) : Option String :=
  String.fromUTF8? ⟨data.toArray⟩

/-! ## Reading -/

/-- A `_PayloadReader`: a reader of what is left of a payload. -/
abbrev PayloadReader (α : Type) := Reader FluidLinkProtocolError Bytes α

namespace PayloadReader

/-- `take`: the next bytes, refused where the payload ends before them. -/
def take (size : ℕ) : PayloadReader Bytes := fun data =>
  if data.length < size then .error (invalidPayload "FluidLink v2 payload is truncated.")
  else .ok (data.take size, data.drop size)

/-- A little-endian integer. -/
def integer (width : ℕ) : PayloadReader ℕ := do
  let bytes ← take width
  return LittleEndian.decode bytes

/-- Unsigned integers of one to eight bytes, little-endian. -/
def u8 : PayloadReader ℕ := integer 1
def u16 : PayloadReader ℕ := integer 2
def u32 : PayloadReader ℕ := integer 4
def u64 : PayloadReader ℕ := integer 8

/-- `_text`, with the width of its length. -/
def text (width maximumBytes : ℕ) (allowEmpty : Bool := false) : PayloadReader String := do
  let size ← integer width
  require (¬ (maximumBytes < size ∨ size = 0 ∧ allowEmpty = false))
    (invalidPayload "FluidLink v2 text field violates its size limit.")
  let bytes ← take size
  match decodeUtf8 bytes with
  | none => throw (invalidPayload "FluidLink v2 text field is not valid UTF-8.")
  | some value => do
    require (allowEmpty = true ∨ strip value ≠ "")
      (invalidPayload "FluidLink v2 text field cannot be blank.")
    return value

/-- A text behind one byte that counts its bytes. -/
def text8 (maximumBytes : ℕ) : PayloadReader String := text 1 maximumBytes

/-- A text behind two bytes that count its bytes; some may be empty. -/
def text16 (maximumBytes : ℕ) (allowEmpty : Bool := false) : PayloadReader String :=
  text 2 maximumBytes allowEmpty

/-- An identifier. -/
def identifier : PayloadReader String := text16 256

/-- Nothing is left of the payload. -/
def finish : PayloadReader Unit := fun data =>
  if data = [] then .ok ((), data)
  else .error (invalidPayload "FluidLink v2 payload has trailing bytes.")

/-- `_enum_name` of the next byte. -/
def enum (values : List (String × ℕ)) (name : String) : PayloadReader String := do
  let value ← u8
  match values.find? fun item => item.2 = value with
  | some item => return item.1
  | none => throw (invalidPayload s!"Unsupported FluidLink v2 {name} opcode {value}.")

/-- A byte with no bits but those of the mask. -/
def presence (mask : ℕ) (name : String) : PayloadReader ℕ := do
  let value ← u8
  require (value &&& (255 - mask) = 0)
    (invalidPayload s!"FluidLink v2 {name} presence mask is invalid.")
  return value

/-- A field that is on the wire only when its presence bit is set. -/
def optional {α : Type} (presence bit : ℕ) (p : PayloadReader α) : PayloadReader (Option α) :=
  if presence &&& bit ≠ 0 then some <$> p else pure none

/-- A list of identifiers behind its length. -/
def identifiers (name : String) : PayloadReader (List String) := do
  let count ← u8
  require (count ≤ 32) (invalidPayload s!"FluidLink v2 {name} count exceeds its limit.")
  each (fun _ => identifier) (List.range count)

/-- Read a whole payload. -/
def run {α : Type} (p : PayloadReader α) (payload : Bytes) : Except FluidLinkProtocolError α :=
  (do let a ← p; finish; return a : PayloadReader α).run' payload

end PayloadReader

open PayloadReader

/-! ## Events -/

/-- The actions of session and frame events on the wire. -/
def lifecycleOpcodes : List (String × ℕ) := [("begin", 1), ("end", 2)]

/-- The actions of resource events on the wire. -/
def resourceOpcodes : List (String × ℕ) := [("register", 1), ("release", 2)]

/-- The actions of state events on the wire. -/
def stateOpcodes : List (String × ℕ) := [("snapshot", 1)]

/-- The kinds of resources on the wire. -/
def resourceKinds : List (String × ℕ) :=
  [("unknown", 0), ("buffer", 1), ("texture", 2), ("framebuffer", 3), ("command", 4)]

/-- The memory layers on the wire. -/
def memoryLayers : List (String × ℕ) :=
  [("ram", 1), ("vram", 2), ("shared", 3), ("staging", 4), ("swapchain", 5), ("display", 6)]

/-- The lifetimes of resources on the wire. -/
def lifetimes : List (String × ℕ) :=
  [("unknown", 0), ("asset", 1), ("frame", 2), ("transient", 3), ("session", 4)]

/-- The operation types on the wire. -/
def operationTypes : List (String × ℕ) :=
  [("copy", 1), ("sync", 2), ("allocate", 3), ("upload", 4), ("present", 5), ("compute", 6),
    ("draw", 7)]

/-- The queues on the wire. -/
def queues : List (String × ℕ) :=
  [("unknown", 0), ("cpu", 1), ("copy", 2), ("graphics", 3), ("compute", 4), ("present", 5)]

/-- The bits of the budgets of a session. -/
def budgetBits : List (String × ℕ) :=
  [("ram", 1), ("vram", 2), ("shared", 3), ("staging", 4), ("swapchain", 5)]

/-- The fields of an operation, in the units of the wire. -/
structure WireOperation where
  operationType : String
  queue : String
  source : Option String
  target : Option String
  reason : Option String
  costUs : ℕ
  sizeBytes : ℕ
  frame : Option ℕ
  dependsOn : List String
  deriving DecidableEq, Repr

/-- What is read of an event, before it is written as the dictionary that the runtime is
given. -/
inductive WireEvent where
  | session (action id : String) (frameUs : Option ℕ) (budgets : List (String × Option ℕ))
  | frame (action : String) (frame : ℕ) (targetUs : Option ℕ)
  | release (id : String)
  | register (id kind memory lifetime : String) (sizeBytes : ℕ) (aliases : List String)
  | operation (id : String) (operation : WireOperation)
  | state (action : String)
  deriving DecidableEq, Repr

/-- `_decode_session_event`. -/
def readSessionEvent : PayloadReader WireEvent := do
  let action ← enum lifecycleOpcodes "session action"
  let presence ← presence 0x3F "session"
  require (¬ (action = "end" ∧ presence ≠ 0))
    (invalidPayload "FluidLink v2 session end cannot carry budget fields.")
  let id ← text16 256 (action = "end")
  let frameUs ← optional presence 1 u32
  let budgets ← each (fun item => do
    let bytes ← optional presence (1 <<< item.2) u64
    return (item.1, bytes)) budgetBits
  return .session action id frameUs budgets

/-- `_decode_frame_event`. -/
def readFrameEvent : PayloadReader WireEvent := do
  let action ← enum lifecycleOpcodes "frame action"
  let presence ← presence 1 "frame"
  require (¬ (action = "end" ∧ presence ≠ 0))
    (invalidPayload "FluidLink v2 frame end cannot carry a target budget.")
  let frame ← u64
  let targetUs ← optional presence 1 u32
  return .frame action frame targetUs

/-- `_decode_resource_event`. -/
def readResourceEvent : PayloadReader WireEvent := do
  let action ← enum resourceOpcodes "resource action"
  let id ← identifier
  if action = "release" then return .release id
  else do
    let kind ← enum resourceKinds "resource kind"
    let memory ← enum memoryLayers "memory layer"
    let lifetime ← enum lifetimes "lifetime"
    let sizeBytes ← u64
    let aliases ← identifiers "alias"
    return .register id kind memory lifetime sizeBytes aliases

/-- The type, the queue and the presence mask that an operation begins with. -/
def operationHead (name : String) : PayloadReader (String × String × ℕ) := do
  let operationType ← enum operationTypes "operation type"
  let queue ← enum queues "queue"
  let presence ← presence 0x0F name
  return (operationType, queue, presence)

/-- The fields of an operation behind its head and its id. -/
def operationTail (head : String × String × ℕ) : PayloadReader WireOperation := do
  let (operationType, queue, presence) := head
  let source ← optional presence 1 identifier
  let target ← optional presence 2 identifier
  let reason ← optional presence 4 (text16 512)
  let costUs ← u32
  let sizeBytes ← u64
  let frame ← optional presence 8 u64
  let dependsOn ← identifiers "dependency"
  return { operationType, queue, source, target, reason, costUs, sizeBytes, frame, dependsOn }

/-- `_decode_operation_event`. -/
def readOperationEvent : PayloadReader WireEvent := do
  let head ← operationHead "operation"
  let id ← identifier
  let operation ← operationTail head
  return .operation id operation

/-- `_decode_state_event`. -/
def readStateEvent : PayloadReader WireEvent := do
  let action ← enum stateOpcodes "state action"
  return .state action

/-- `FluidLinkEventOpcode(value)`. -/
def eventOfOpcode : ℕ → Option EventType
  | 100 => some .session
  | 101 => some .frame
  | 102 => some .resource
  | 103 => some .operation
  | 104 => some .state
  | _ => none

/-- The reader for the events of a type; the action is the first byte of each. -/
def readEvent : EventType → PayloadReader WireEvent
  | .session => readSessionEvent
  | .frame => readFrameEvent
  | .resource => readResourceEvent
  | .operation => readOperationEvent
  | .state => readStateEvent

/-! ### The dictionary of an event -/

/-- A field that is in a dictionary only when it has a value. -/
def entry {α : Type} (key : String) (json : α → Json) : Option α → Payload
  | some value => [(key, json value)]
  | none => []

/-- Microseconds of the wire as milliseconds, divided in doubles as the runtime is given
them. -/
def milliseconds (us : ℕ) : Json :=
  .float (.finite (trueDivide us 1000))

/-- Bytes of the wire as mebibytes, divided in doubles as the runtime is given them. -/
def megabytes (bytes : ℕ) : Json :=
  .float (.finite (trueDivide bytes mebibyte))

/-- A whole number of the wire as a number of JSON. -/
def number (n : ℕ) : Json :=
  .int n

/-- A list of texts of the wire as a list of JSON. -/
def texts (items : List String) : Json :=
  .list (items.map .text)

/-- The fields of an operation; `wire` are those of its cost and its size. -/
def WireOperation.payload (o : WireOperation) (ids units : Payload) : Payload :=
  [("operation_type", .text o.operationType), ("queue", .text o.queue)] ++ ids ++
    entry "source" .text o.source ++ entry "target" .text o.target ++
    entry "reason" .text o.reason ++ units ++ entry "frame" number o.frame ++
    [("depends_on", texts o.dependsOn)]

/-- The cost and the size of an operation. -/
def WireOperation.units (o : WireOperation) : Payload :=
  [("cost_ms", milliseconds o.costUs), ("size_mb", megabytes o.sizeBytes)]

/-- What `decode_runtime_event_payload` returns, without the name of the event. -/
def WireEvent.fields : WireEvent → Payload
  | .session action id frameUs budgets =>
    let budgets := entry "frame_ms" milliseconds frameUs ++
      budgets.flatMap fun item => entry (item.1 ++ "_mb") megabytes item.2
    [("action", .text action)] ++ (if id = "" then [] else [("id", .text id)]) ++
      (if budgets = [] then [] else [("budgets", .dict budgets)])
  | .frame action index targetUs =>
    [("action", .text action), ("frame", number index)] ++
      entry "target_frame_ms" milliseconds targetUs
  | .release id => [("action", .text "release"), ("id", .text id)]
  | .register id kind memory lifetime sizeBytes aliases =>
    [("action", .text "register"), ("id", .text id), ("kind", .text kind),
      ("memory", .text memory), ("lifetime", .text lifetime), ("size_mb", megabytes sizeBytes),
      ("aliases", texts aliases)]
  | .operation id fields => fields.payload [("id", .text id)] fields.units
  | .state action => [("action", .text action)]

/-- `EVENT_NAME_BY_OPCODE`. -/
def eventName : EventType → String
  | .session => "session"
  | .frame => "frame"
  | .resource => "resource"
  | .operation => "operation"
  | .state => "state"

/-- `decode_runtime_event_payload`, of an opcode that is one of an event. -/
def decodeRuntimeEventPayload (event : EventType) (payload : Bytes) :
    Except FluidLinkProtocolError Payload := do
  let wire ← (readEvent event).run payload
  return wire.fields ++ [("event", .text (eventName event))]

/-! ## Other requests -/

/-- `f"0x{n:x}"`. -/
def hexNumber (n : ℕ) : String :=
  "0x" ++ String.ofList (Nat.toDigits 16 n)

/-- `_decode_capability_mask` of the next eight bytes. -/
def capabilityMask : PayloadReader ℕ := do
  let value ← u64
  let unknown := value / 256 * 256
  require (unknown = 0)
    (invalidPayload s!"FluidLink v2 capability mask has unknown bits {hexNumber unknown}.")
  return value

/-- What a hello offers and asks for. -/
structure FluidLinkV2Hello where
  contractDigest : Bytes
  requestedCapabilities : ℕ
  requiredCapabilities : ℕ
  clientName : String
  clientVersion : String
  deriving DecidableEq, Repr

/-- The fields of a hello in their order on the wire. -/
def readHello : PayloadReader FluidLinkV2Hello := do
  let contractDigest ← take 32
  let requestedCapabilities ← capabilityMask
  let requiredCapabilities ← capabilityMask
  let clientName ← text8 128
  let clientVersion ← text8 64
  return {
    contractDigest, requestedCapabilities, requiredCapabilities, clientName, clientVersion }

/-- `decode_hello_payload`; what follows the last field is refused. -/
def decodeHelloPayload (payload : Bytes) : Except FluidLinkProtocolError FluidLinkV2Hello :=
  readHello.run payload

/-- `decode_nonce_payload`, of pings and pongs alike. -/
def decodeNoncePayload (payload : Bytes) : Except FluidLinkProtocolError String :=
  (text8 128).run payload

/-- A batch of operations that differ in their ids only. -/
structure WireBatch where
  batchId : Bytes
  operationCount : ℕ
  operation : WireOperation
  deriving DecidableEq, Repr

/-- A batch: its id, how often the operation is repeated, and the operation. -/
def readBatch : PayloadReader WireBatch := do
  let batchId ← take 16
  require (anyByte batchId = true)
    (invalidPayload "FluidLink v2 batch_id must contain 16 nonzero-identity bytes.")
  let operationCount ← u16
  require (1 ≤ operationCount ∧ operationCount ≤ 256)
    (invalidPayload "FluidLink v2 operation batch count must be between 1 and 256.")
  let head ← operationHead "operation batch"
  let operation ← operationTail head
  return { batchId, operationCount, operation }

/-- `decode_operation_batch_event_payload`; a batch is read to its end. -/
def decodeOperationBatchEventPayload (payload : Bytes) :
    Except FluidLinkProtocolError WireBatch :=
  readBatch.run payload

/-- The cost and the size of an item of a batch. -/
def WireOperation.batchUnits (o : WireOperation) : Payload :=
  [("cost_us", number o.costUs), ("cost_ms", milliseconds o.costUs),
    ("size_bytes", number o.sizeBytes), ("size_mb", megabytes o.sizeBytes)]

/-- `bytes.hex`. -/
def hexText (data : Bytes) : String :=
  String.join (data.map fun byte =>
    let digits := (Nat.toDigits 16 byte.toNat)
    String.ofList (List.replicate (2 - digits.length) '0' ++ digits))

/-- `f"{ordinal:03d}"`. -/
def ordinalText (ordinal : ℕ) : String :=
  let digits := Nat.toDigits 10 ordinal
  String.ofList (List.replicate (3 - digits.length) '0' ++ digits)

/-- The id of an item of a batch. -/
def WireBatch.itemId (batch : WireBatch) (ordinal : ℕ) : String :=
  "batch-" ++ hexText batch.batchId ++ "-" ++ ordinalText ordinal

/-- The event of an item of a batch. -/
def WireBatch.event (batch : WireBatch) (ordinal : ℕ) : Payload :=
  batch.operation.payload [] batch.operation.batchUnits ++
    [("event", .text "operation"), ("id", .text (batch.itemId ordinal))]

/-! ## Writing -/

namespace PayloadWriter

/-- An integer of `width` bytes. -/
def integer (kind : String) (width value : ℕ) : Except FluidLinkProtocolError Bytes :=
  if value < 256 ^ width then .ok (LittleEndian.encode value width)
  else .error (invalidPayload s!"FluidLink v2 {kind} field is out of range.")

/-- Unsigned integers of one to eight bytes, refused where the value does not fit. -/
def u8 : ℕ → Except FluidLinkProtocolError Bytes := integer "u8" 1
def u16 : ℕ → Except FluidLinkProtocolError Bytes := integer "u16" 2
def u32 : ℕ → Except FluidLinkProtocolError Bytes := integer "u32" 4
def u64 : ℕ → Except FluidLinkProtocolError Bytes := integer "u64" 8

/-- Bytes of a size that the format fixes. -/
def raw (value : Bytes) (expectedSize : ℕ) : Except FluidLinkProtocolError Bytes :=
  if value.length = expectedSize then .ok value
  else .error (invalidPayload s!"FluidLink v2 binary field must contain {expectedSize} bytes.")

/-- `encode_bounded_text` of a text that may not be empty. -/
def boundedText (value : String) (maximumBytes : ℕ) : Except FluidLinkProtocolError Bytes :=
  if maximumBytes < (utf8 value).length ∨ strip value = "" then
    .error (invalidPayload "FluidLink v2 text field violates its size limit.")
  else .ok (utf8 value)

/-- A text behind one byte that counts its bytes, refused where it is longer than it may be. -/
def text8 (value : String) (maximumBytes : ℕ) : Except FluidLinkProtocolError Bytes := do
  let encoded ← boundedText value maximumBytes
  if 0xFF < encoded.length then
    .error (invalidPayload "FluidLink v2 text8 field is too large.")
  else
    let length ← u8 encoded.length
    return length ++ encoded

/-- A text behind two bytes that count its bytes, refused where it is longer than it may be. -/
def text16 (value : String) (maximumBytes : ℕ) : Except FluidLinkProtocolError Bytes := do
  let encoded ← boundedText value maximumBytes
  let length ← u16 encoded.length
  return length ++ encoded

/-- The fields of a payload, one behind the other. -/
def finish (fields : List (Except FluidLinkProtocolError Bytes)) :
    Except FluidLinkProtocolError Bytes := do
  let fields ← fields.mapM id
  let payload := fields.flatten
  if Native.maxPayload < payload.length then
    .error ⟨"payload_too_large", "FluidLink v2 payload exceeds the 65,535-byte limit."⟩
  else return payload

end PayloadWriter

open PayloadWriter (finish)

/-- `encode_welcome_payload`. -/
def encodeWelcomePayload (availableCapabilities acceptedCapabilities : ℕ)
    (serverName serverVersion : String) (contractDigest : Bytes) :
    Except FluidLinkProtocolError Bytes := do
  if acceptedCapabilities &&& availableCapabilities ≠ acceptedCapabilities then
    .error (invalidPayload
      "FluidLink v2 accepted capabilities must be a subset of available capabilities.")
  else
    finish [PayloadWriter.raw contractDigest 32, PayloadWriter.u64 availableCapabilities,
      PayloadWriter.u64 acceptedCapabilities, PayloadWriter.u32 Native.maxPayload,
      PayloadWriter.text8 serverName 128, PayloadWriter.text8 serverVersion 64]

/-- `encode_nonce_payload`, of pings and pongs alike. -/
def encodeNoncePayload (nonce : String) : Except FluidLinkProtocolError Bytes :=
  finish [PayloadWriter.text8 nonce 128]

/-- The characters of a text whose bytes come first, as far as they fit. -/
def fitting : List Char → ℕ → List Char
  | [], _ => []
  | c :: cs, room =>
    let size := (String.utf8EncodeChar c).length
    if size ≤ room then c :: fitting cs (room - size) else []

/-- `text or default`. -/
def textOr (text default : String) : String :=
  if text = "" then default else text

/-- `_truncate_utf8`: bytes that end within a character are ignored. -/
def truncateUtf8 (value : String) (maximumBytes : ℕ) : String :=
  let text := textOr (strip value) "FluidLink v2 request failed."
  if (utf8 text).length ≤ maximumBytes then text
  else textOr (String.ofList (fitting text.toList maximumBytes)) "FluidLink v2 error."

/-- `encode_error_payload`: the code of the error and its message, cut to what fits. -/
def encodeErrorPayload (code : ℕ) (message : String) : Except FluidLinkProtocolError Bytes :=
  finish [PayloadWriter.u16 code, PayloadWriter.text16 (truncateUtf8 message 512) 512]

end FluidGateway.FluidLink
