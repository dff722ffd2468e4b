import FluidGateway.NativeCore
import FluidGateway.Lib.Reading
import FluidGateway.Lib.LittleEndian

/-!
# The native wire format

The frames and payloads of `native/src/protocol.cpp`: how a request is read
and how an answer is written.  Every reader runs to the end of its payload
before the session is touched, so readers know nothing of the session.
-/

namespace FluidGateway.Native

open Reading

/-- What is on the wire. -/
abbrev Bytes := List UInt8

/-- The identity of a session or of a batch. -/
abbrev Identity := Vector UInt8 16

/-- The size of the header that every frame begins with. -/
def headerSize : Nat := 56
/-- The most bytes of a payload. -/
def maxPayload : Nat := 65535
/-- The version that the native server welcomes with. -/
def nativeVersion : Text := literal "0.69.0"

/-- The hash of the contract without batches. -/
def baseHash : Text :=
  literal "0d24d96aec32d74e123f9e198e51adde74ddf190e8c40b0ac18bddf5c4108b2f"

/-- The hash of the contract with batches. -/
def batchHash : Text :=
  literal "bf8727c22ac878ceff6dd0f462d6db5e81174737e839ecdf2e263a6f55268542"

/-- The fields of a frame behind its magic and version. -/
structure Frame where
  kind : UInt8 := 1
  opcode : UInt8 := 0
  subject : UInt8 := 0
  decision : UInt8 := 0
  flags : UInt8 := 0
  sequence : Nat := 1
  message : Identity := Vector.replicate 16 0
  session : Identity := Vector.replicate 16 0
  payload : Bytes := []
  deriving DecidableEq, Repr

/-- The error of a malformed payload. -/
def malformed (message : String) : Error := ⟨10, message, false⟩

/-- The error of a malformed frame. -/
def malformedFrame (message : String) : Error := ⟨1, message, false⟩

/-! ## Texts -/

/-- `whitespace`: the code points that are trimmed from a text. -/
def whitespace (c : Nat) : Bool :=
  (c ≥ 9 && c ≤ 13) || (c ≥ 28 && c ≤ 32) || c == 0x85 || c == 0xa0 || c == 0x1680 ||
    (c ≥ 0x2000 && c ≤ 0x200a) || c == 0x2028 || c == 0x2029 || c == 0x202f || c == 0x205f ||
    c == 0x3000

/-- What the lead byte of a code point says: its own bits, how many bytes
continue it, and the least code point that needs so many. -/
def leadByte (lead : UInt8) : Except Error (Nat × Nat × Nat) :=
  if 0xc2 ≤ lead ∧ lead ≤ 0xdf then .ok (lead.toNat &&& 31, 1, 0x80)
  else if 0xe0 ≤ lead ∧ lead ≤ 0xef then .ok (lead.toNat &&& 15, 2, 0x800)
  else if 0xf0 ≤ lead ∧ lead ≤ 0xf4 then .ok (lead.toNat &&& 7, 3, 0x10000)
  else if 0x7f < lead then .error (malformed "Invalid UTF-8.")
  else .ok (lead.toNat, 0, 0)

/-- The `while (count--)` loop of `trimmed_utf8`. -/
def continuation : (count cp : Nat) → Text → Except Error (Nat × Text)
  | 0, cp, text => .ok (cp, text)
  | _ + 1, _, [] => .error (malformed "Truncated UTF-8.")
  | count + 1, cp, next :: text =>
    if next &&& 0xc0 ≠ 0x80 then .error (malformed "Invalid UTF-8 continuation.")
    else continuation count (cp <<< 6 ||| (next &&& 63).toNat) text

/-- One code point from the front of a text. -/
def scalar (lead : UInt8) (text : Text) : Except Error (Nat × Text) := do
  let (bits, count, minimum) ← leadByte lead
  let (cp, rest) ← continuation count bits text
  if cp < minimum ∨ cp > 0x10ffff ∨ (cp ≥ 0xd800 ∧ cp ≤ 0xdfff) then
    .error (malformed "Invalid UTF-8 scalar.")
  else .ok (cp, rest)

/-- The loop of `trimmed_utf8`: `text` is what is left behind `offset`, the
span runs from the first to the last code point so far that is not white
space.  Every code point takes a byte at least, so the fuel is the length. -/
def trimLoop : (fuel offset : Nat) → (span : Nat × Nat) → Text → Except Error (Nat × Nat)
  | 0, _, span, _ => .ok span
  | _ + 1, _, span, [] => .ok span
  | fuel + 1, offset, span, lead :: text => do
    let (cp, rest) ← scalar lead text
    let next := offset + (1 + text.length - rest.length)
    let span := if whitespace cp then span else (min span.1 offset, next)
    trimLoop fuel next span rest

/-- `trimmed_utf8`: a text is checked as it is walked, and given back without the space
around it. -/
def trimmedUtf8 (text : Text) : Except Error Text := do
  let (first, last) ← trimLoop text.length 0 (text.length, 0) text
  return if last ≠ 0 then (text.drop first).take (last - first) else []

/-! ## Reading -/

/-- A reader of the rest of a payload. -/
abbrev Reader (α : Type) := Reading.Reader Error Bytes α

namespace Reader

/-- The next bytes, refused where the payload ends before them. -/
def take (n : Nat) : Reader Bytes := fun data =>
  if data.length < n then .error (malformed "Truncated payload.")
  else .ok (data.take n, data.drop n)

/-- An unsigned integer in little-endian order. -/
def integer (n : Nat) : Reader Nat := do
  let bytes ← take n
  return LittleEndian.decode bytes

/-- One byte. -/
def u8 : Reader UInt8 := do
  let value ← integer 1
  return UInt8.ofNat value

/-- Unsigned integers of two, four and eight bytes. -/
def u16 : Reader Nat := integer 2
def u32 : Reader Nat := integer 4
def u64 : Reader Nat := integer 8

/-- A byte of a range. -/
def choice (low high : UInt8) : Reader UInt8 := do
  let value ← u8
  require (low ≤ value ∧ value ≤ high) (malformed "Invalid enum.")
  return value

/-- A byte with no other bits than these. -/
def mask (allowed : UInt8) : Reader UInt8 := do
  let value ← u8
  require (value &&& ~~~allowed = 0) (malformed "Invalid presence mask.")
  return value

/-- A text behind the count of its bytes; it has to be UTF-8, and may have to be more than
space. -/
def text (lengthBytes maximum : Nat) (empty : Bool := false) (trim : Bool := false) :
    Reader Text := do
  let n ← integer lengthBytes
  require (n ≤ maximum) (malformed "Text exceeds its limit.")
  let value ← take n
  let stripped ← trimmedUtf8 value
  require (empty ∨ stripped ≠ []) (malformed "Blank text.")
  return if trim then stripped else value

/-- Nothing is left of the payload. -/
def finish : Reader Unit := fun data =>
  if data = [] then .ok ((), data) else .error (malformed "Trailing payload bytes.")

/-- The 16 bytes of a message id or a session id. -/
def identity : Reader Identity := fun data =>
  if h : data.length < 16 then .error (malformed "Truncated payload.")
  else .ok (⟨(data.take 16).toArray, by simp; omega⟩, data.drop 16)

/-- Run a reader on a payload. -/
def run {α : Type} (p : Reader α) (data : Bytes) : Except Error α :=
  (p data).map Prod.fst

end Reader

/-! ## Writing -/

namespace Writer

/-- The `n` low bytes of a value. -/
def integer (value n : Nat) : Bytes :=
  LittleEndian.encode value n

/-- A text behind the count of its bytes. -/
def text (value : Text) (n : Nat) : Bytes :=
  integer value.length n ++ value

/-- The payload of a decision. -/
def decision (result : Decision) : Bytes :=
  integer (if result.operation then (if result.opcode ≠ 0 then 3 else 7) else 1) 1 ++
    integer result.savedUs 8 ++ integer result.savedBytes 8

end Writer

/-- Some byte is not zero. -/
def nonzero (data : Bytes) : Bool :=
  data.any fun c => c != 0

/-- One digit, in lower case. -/
def hexDigit (n : Nat) : UInt8 :=
  (literal "0123456789abcdef").getD n 0

/-- `hex`: two digits for each byte. -/
def hex (bytes : Bytes) : Text :=
  bytes.flatMap fun (c : UInt8) => [hexDigit (c >>> 4).toNat, hexDigit (c &&& 15).toNat]

/-! ## Frames -/

/-- `payload_size`: the size that a header declares, refused where it exceeds the limit. -/
def payloadSize (header : Bytes) : Except Error Nat := do
  if header.length ≠ headerSize then .error (malformedFrame "Invalid header length.")
  else
    let size ← Reader.u32.run (header.drop 52)
    if maxPayload < size then .error (malformedFrame "Payload limit exceeded.") else .ok size

/-- The fields of a frame whose length has been checked. -/
def frameFields (size : Nat) : Reader Frame := do
  let magic ← Reader.take 4
  require (magic = literal "FLNK") (malformedFrame "Only FluidLink v2 is supported.")
  let version ← Reader.u8
  require (version = 2) (malformedFrame "Only FluidLink v2 is supported.")
  let kind ← Reader.choice 1 2
  let opcode ← Reader.u8
  let subject ← Reader.u8
  let decision ← Reader.u8
  let flags ← Reader.mask 3
  let reserved ← Reader.u16
  require (reserved = 0) (malformedFrame "Reserved bits are set.")
  let sequence ← Reader.u64
  let message ← Reader.identity
  let session ← Reader.identity
  let _ ← Reader.u32
  require (sequence ≠ 0 ∧ nonzero message.toList ∧
      (flags &&& 2 ≠ 0 ↔ nonzero session.toList) ∧ ¬ (kind = 1 ∧ flags &&& 1 ≠ 0))
    (malformedFrame "Invalid frame identity or flags.")
  let payload ← Reader.take size
  return { kind, opcode, subject, decision, flags, sequence, message, session, payload }

/-- `decode_frame`: the length first, and then the fields. -/
def decodeFrame (bytes : Bytes) : Except Error Frame := do
  if bytes.length < headerSize then .error (malformedFrame "Truncated header.")
  else
    let size ← payloadSize (bytes.take headerSize)
    if bytes.length ≠ headerSize + size then .error (malformedFrame "Invalid frame length.")
    else (frameFields size).run bytes

/-- The bytes of a frame. -/
def frameBytes (f : Frame) : Bytes :=
  literal "FLNK" ++ [2, f.kind, f.opcode, f.subject, f.decision, f.flags, 0, 0] ++
    Writer.integer f.sequence 8 ++ f.message.toList ++ f.session.toList ++
    Writer.integer f.payload.length 4 ++ f.payload

/-- Write a frame into a buffer of the given capacity. -/
def encodeFrameInto (f : Frame) (capacity : Nat) : Except Error Bytes :=
  if maxPayload < f.payload.length then .error (malformedFrame "Payload limit exceeded.")
  else if capacity < headerSize + f.payload.length then
    .error (malformedFrame "Response buffer too small.")
  else .ok (frameBytes f)

/-- `encode_frame`: into a buffer of just the size that the frame needs. -/
def encodeFrame (f : Frame) : Except Error Bytes :=
  if maxPayload < f.payload.length then .error (malformedFrame "Payload limit exceeded.")
  else encodeFrameInto f (headerSize + f.payload.length)

/-! ## Payloads -/

/-- A field that is on the wire only when its presence bit is set. -/
def present {α : Type} (presence bit : UInt8) (p : Reader α) (default : α) : Reader α :=
  if presence &&& bit ≠ 0 then p else pure default

/-- The type, queue and presence mask that an operation begins with. -/
def operationHead : Reader (UInt8 × UInt8 × UInt8) := do
  let type ← Reader.choice 1 7
  let queue ← Reader.choice 0 5
  let presence ← Reader.mask 15
  return (type, queue, presence)

/-- The rest of an operation, behind its id. -/
def operationTail (type queue presence : UInt8) (id : Text) : Reader Operation := do
  let source ← present presence 1 (Reader.text 2 256 false true) []
  let target ← present presence 2 (Reader.text 2 256 false true) []
  let reason ← present presence 4 (Reader.text 2 512) []
  let microseconds ← Reader.u32
  let bytes ← Reader.u64
  let frame ← present presence 8 (some <$> Reader.u64) none
  let count ← Reader.choice 0 32
  let dependencies ← each (fun _ => Reader.text 2 256) (List.range count.toNat)
  Reader.finish
  return { id, source, target, reason, dependencies, frame, bytes, microseconds, type, queue }

/-- The items of a batch have no id of their own on the wire. -/
def operationId (batch : Bool) : Reader Text :=
  if batch then pure [] else Reader.text 2 256 false true

/-- The fields of an operation; in a batch it has no id of its own. -/
def operation (batch : Bool := false) : Reader Operation := do
  let (type, queue, presence) ← operationHead
  let id ← operationId batch
  operationTail type queue presence id

/-- A session event; its budgets are read and dropped. -/
def sessionEvent : Reader (Option Call) := do
  let action ← Reader.choice 1 2
  let presence ← Reader.mask 63
  require (¬ (action = 2 ∧ presence ≠ 0)) (malformed "End cannot carry budgets.")
  let _ ← Reader.text 2 256 (action == 2)
  let _ ← present presence 1 Reader.u32 0
  let _ ← each (fun (bit : UInt8) => present presence (1 <<< bit) Reader.u64 0) [1, 2, 3, 4, 5]
  Reader.finish
  return if action = 2 then some .endSession else none

/-- The event of a frame: its action, its number, and a target that only a begin may have. -/
def frameEvent : Reader (Option Call) := do
  let action ← Reader.choice 1 2
  let presence ← Reader.mask 1
  require (¬ (action = 2 ∧ presence ≠ 0)) (malformed "End cannot carry frame budget.")
  let frame ← Reader.u64
  let _ ← present presence 1 Reader.u32 0
  Reader.finish
  return some (if action = 1 then .beginFrame frame else .endFrame frame)

/-- The event of a resource. -/
def resourceEvent : Reader (Option Call) := do
  let action ← Reader.choice 1 2
  let id ← Reader.text 2 256 false true
  if action = 2 then do
    Reader.finish
    return some (.release id)
  else do
    let _ ← Reader.choice 0 4
    let layer ← Reader.choice 1 6
    let _ ← Reader.choice 0 4
    let _ ← Reader.u64
    let count ← Reader.choice 0 32
    let aliases ← each (fun _ => Reader.text 2 256) (List.range count.toNat)
    Reader.finish
    return some (.register id layer aliases)

/-- The event of an operation. -/
def operationEvent : Reader (Option Call) := do
  let op ← operation
  return some (.process op)

/-- The event that asks for the state; it calls nothing. -/
def stateEvent : Reader (Option Call) := do
  let _ ← Reader.choice 1 1
  Reader.finish
  return none

/-- The reading half of `ProtocolSession::event`: the call of the state that
the event asks for, if any. -/
def readEvent (subject : UInt8) (payload : Bytes) : Except Error (Option Call) :=
  if subject = 100 then sessionEvent.run payload
  else if subject = 101 then frameEvent.run payload
  else if subject = 102 then resourceEvent.run payload
  else if subject = 103 then operationEvent.run payload
  else if subject = 104 then stateEvent.run payload
  else .error ⟨9, "Unsupported event opcode.", false⟩

/-- What a hello offers and asks for. -/
structure Hello where
  digest : Bytes
  requested : Nat
  required : Nat
  deriving DecidableEq, Repr

/-- The payload of a hello; the peer's name and version are read and dropped. -/
def readHello : Reader Hello := do
  let digest ← Reader.take 32
  let requested ← Reader.u64
  let required ← Reader.u64
  require ((requested ||| required) < 256) (malformed "Unknown capabilities.")
  let _ ← Reader.text 1 128
  let _ ← Reader.text 1 64
  Reader.finish
  return { digest, requested, required }

/-- A batch: its id, how often the operation is repeated, and the operation. -/
structure BatchRequest where
  id : Bytes
  count : Nat
  template : Operation
  deriving DecidableEq, Repr

/-- The fields of a batch in their order on the wire. -/
def readBatch : Reader BatchRequest := do
  let id ← Reader.take 16
  require (nonzero id) (malformed "Zero batch identity.")
  let count ← Reader.u16
  require (count ≠ 0 ∧ count ≤ 256) (malformed "Invalid batch count.")
  let template ← operation true
  return { id, count, template }

/-- The nonce of a ping, of at most 128 bytes. -/
def readNonce : Reader Text := do
  let nonce ← Reader.text 1 128
  Reader.finish
  return nonce

end FluidGateway.Native
