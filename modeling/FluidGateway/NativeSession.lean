import FluidGateway.WireFormat

/-!
# The native protocol session

The session of `native/src/protocol.cpp`: it checks the header of a request,
negotiates a contract, and hands runtime events to the native state.  An
exception leaves behind what was assigned before it was thrown; a fatal one
closes the session.

Besides the state, the session allocates the texts of a request and the bytes
of an answer, and the heap may refuse either.  `Memory` says what is granted
while one request is handled.
-/

namespace FluidGateway.Native

def errorOpcode : UInt8 := 255
def sequenceLimit : Nat := 2 ^ 64 - 1

/-- The memory granted to one request: what each call of the state is granted,
and whether the heap serves the request that is read and the answer that is
written. -/
structure Memory where
  grants : Nat → Grant
  reading : Bool := true
  writing : Bool := true

/-- Memory without end. -/
def Memory.ample : Memory where
  grants _ := { room := operationLimit * operationLimit }

structure ProtocolSession where
  identity : Identity
  closed : Bool := false
  state : State := {}
  negotiated : Bool := false
  batch : Bool := false
  sequence : Nat := 1
  capabilities : Nat := 0

/-- What a request comes to: an answer or what is thrown, and the session
afterwards. -/
abbrev Handled := Except Thrown Frame × ProtocolSession

def raise (code : Nat) (message : String) (s : ProtocolSession) : Handled :=
  (.error (.error ⟨code, message, false⟩), s)

/-- Read a payload, as far as the heap serves its texts. -/
def Memory.read {α : Type} (m : Memory) (p : Reader α) (payload : Bytes) : Except Thrown α :=
  if m.reading then (p.run payload).mapError .error else .error .badAlloc

namespace State

/-- The call of the state that an event asks for; an event without one is
answered with the default decision. -/
def answer (g : Grant) (s : State) : Option Call → Except Thrown Decision × State
  | some call => s.call g call
  | none => (.ok {}, s)

end State

/-- The decimal digits of a number, as bytes. -/
theorem literal_toString (i : Nat) :
    literal (toString i) = (Nat.toDigits 10 i).map fun c => UInt8.ofNat c.toNat := by
  have hdigits : (toString i).toList = Nat.toDigits 10 i := String.toList_ofList
  unfold literal
  rw [hdigits]

/-- `std::to_string` of a number below a thousand, padded to three digits. -/
def ordinal (i : Nat) : Text :=
  let number := literal (toString i)
  List.replicate (3 - number.length) (UInt8.ofNat '0'.toNat) ++ number

/-- The id of an item of a batch. -/
def itemId (id : Bytes) (i : Nat) : Text :=
  literal "batch-" ++ hex id ++ literal "-" ++ ordinal i

/-- What the answer to a batch says about one item. -/
def itemEntry (result : Decision) : Bytes :=
  Writer.integer result.opcode.toNat 1 ++ Writer.decision result

/-- The items of a batch from the `i`-th on, behind those `written` so far. -/
def batchItems (m : Memory) (request : BatchRequest) :
    (remaining i : Nat) → (written : Bytes) → State → Except Thrown Bytes × State
  | 0, _, written, s => (.ok written, s)
  | remaining + 1, i, written, s =>
    match s.process (m.grants i) { request.template with id := itemId request.id i } with
    | (.error e, s) => (.error e, s)
    | (.ok result, s) => batchItems m request remaining (i + 1) (written ++ itemEntry result) s

namespace ProtocolSession

def respond (s : ProtocolSession) (request : Frame) (opcode : UInt8) (payload : Bytes)
    (decision : UInt8 := 0) (ok : Bool := true) : Frame where
  kind := 2
  opcode := opcode
  subject := if opcode = 11 ∨ opcode = 255 then request.subject else 0
  decision := decision
  sequence := request.sequence
  message := request.message
  flags := (if ok then 1 else 0) ||| (if s.negotiated then 2 else 0)
  session := if s.negotiated then s.identity else Vector.replicate 16 0
  payload := payload

/-- Answer a request, if the heap serves the answer. -/
def reply (s : ProtocolSession) (m : Memory) (request : Frame) (opcode : UInt8) (payload : Bytes)
    (decision : UInt8 := 0) : Handled :=
  (if m.writing then .ok (s.respond request opcode payload decision) else .error .badAlloc, s)

/-- The capabilities that a contract offers. -/
def available (batch : Bool) : Nat :=
  if batch then 255 else 127

/-- A first request.  The contract is remembered before the capabilities are
checked. -/
def hello (s : ProtocolSession) (m : Memory) (request : Frame) : Handled :=
  if request.opcode ≠ 1 then raise 2 "Handshake required." s
  else if request.flags &&& 2 ≠ 0 ∨ request.subject ≠ 0 ∨ request.decision ≠ 0 then
    raise 1 "Invalid hello header." s
  else
    match m.read readHello request.payload with
    | .error e => (.error e, s)
    | .ok hello =>
      let digestHex := hex hello.digest
      if digestHex ≠ baseHash ∧ digestHex ≠ batchHash then raise 3 "Contract mismatch." s
      else
        let s := { s with batch := digestHex = batchHash }
        if s.batch ∧ hello.required &&& 128 = 0 then
          raise 10 "Batch capability must be required." s
        else
          let available := available s.batch
          -- no bit of `required` is above the eight known ones
          if hello.required &&& (255 - available) ≠ 0 then
            raise 4 "Required capability unavailable." s
          else
            let s := { s with
              capabilities := (hello.requested ||| hello.required) &&& available
              negotiated := true }
            s.reply m request 2
              (hello.digest ++ Writer.integer available 8 ++ Writer.integer s.capabilities 8 ++
                Writer.integer maxPayload 4 ++ Writer.text (literal "fluidgateway") 1 ++
                Writer.text nativeVersion 1)

/-- `event`: read a runtime event and run it. -/
def event (s : ProtocolSession) (m : Memory) (subject : UInt8) (payload : Bytes) :
    Except Thrown Decision × State :=
  if m.reading then
    match readEvent subject payload with
    | .error e => (.error (.error e), s.state)
    | .ok call => s.state.answer (m.grants 0) call
  else (.error .badAlloc, s.state)

/-- A batch of operations.  Whatever an item throws closes the session. -/
def runBatch (s : ProtocolSession) (m : Memory) (request : Frame) : Handled :=
  if s.batch = false ∨ s.capabilities &&& 128 = 0 then raise 5 "Batch not negotiated." s
  else
    match m.read readBatch request.payload with
    | .error e => (.error e, s)
    | .ok batch =>
      match batchItems m batch batch.count 0 (batch.id ++ Writer.integer batch.count 2) s.state with
      | (.error e, state) => (.error e, { s with state, closed := true })
      | (.ok payload, state) => { s with state }.reply m request 11 payload 7

def runtimeEvent (s : ProtocolSession) (m : Memory) (request : Frame) : Handled :=
  if s.capabilities &&& 27 ≠ 27 then raise 5 "Runtime capabilities not negotiated." s
  else if request.subject = 105 then s.runBatch m request
  else
    match s.event m request.subject request.payload with
    | (.error e, state) => (.error e, { s with state })
    | (.ok result, state) =>
      { s with state }.reply m request 11 (Writer.decision result) result.opcode

def ping (s : ProtocolSession) (m : Memory) (request : Frame) : Handled :=
  if s.capabilities &&& 4 = 0 then raise 5 "Heartbeat not negotiated." s
  else
    match m.read readNonce request.payload with
    | .error e => (.error e, s)
    | .ok nonce => s.reply m request 21 (Writer.text nonce 1)

def goodbye (s : ProtocolSession) (m : Memory) (request : Frame) : Handled :=
  match m.read Reader.finish request.payload with
  | .error e => (.error e, s)
  | .ok () => { s with closed := true }.reply m request 30 []

/-- A request of a negotiated session. -/
def dispatch (s : ProtocolSession) (m : Memory) (request : Frame) : Handled :=
  if request.decision ≠ 0 then raise 1 "Request decision must be zero." s
  else if request.opcode = 10 then s.runtimeEvent m request
  else if request.subject ≠ 0 then raise 1 "Invalid subject opcode." s
  else if request.opcode = 20 then s.ping m request
  else if request.opcode = 30 then s.goodbye m request
  else raise 8 "Unsupported opcode." s

/-- What a session refuses to look at; the sequence does not advance. -/
def refusal (s : ProtocolSession) (request : Frame) : Option Error :=
  if request.kind ≠ 1 then some ⟨1, "Requests only.", false⟩
  else if request.sequence ≠ s.sequence then some ⟨6, "Sequence mismatch.", false⟩
  else if s.negotiated ∧ request.session ≠ s.identity then some ⟨7, "Session mismatch.", false⟩
  else if s.closed then some ⟨12, "Session closed.", false⟩
  else if s.sequence = sequenceLimit then some ⟨6, "Sequence exhausted.", true⟩
  else none

def handle (s : ProtocolSession) (m : Memory) (request : Frame) : Handled :=
  match s.refusal request with
  | some e => (.error (.error e), s)
  | none =>
    let s := { s with sequence := s.sequence + 1 }
    if s.negotiated then s.dispatch m request else s.hello m request

/-- The code and text of an error response. -/
def errorPayload : Thrown → Bytes
  | .error e => Writer.integer e.code 2 ++ Writer.text (literal e.message) 2
  | .badAlloc => Writer.integer 11 2 ++ Writer.text (literal "Allocation failed; reconnect.") 2

def process (s : ProtocolSession) (m : Memory) (request : Frame) : Frame × ProtocolSession :=
  match s.handle m request with
  | (.ok response, s) => (response, s)
  | (.error e, s) =>
    let s := { s with closed := s.closed || e.fatal }
    (s.respond request errorOpcode (errorPayload e) 255 false, s)

end ProtocolSession

end FluidGateway.Native
