import FluidGateway.NativeResponses

/-!
# The sessions behind the C interface

One exchange of `native/src/abi.cpp`: the checks of the arguments, which do not
look at any session, and what an exchange does to the session that its handle
stands for.  Which session that is, among concurrent calls, is the matter of
the slot table.
-/

namespace FluidGateway.Native

/-! ## Arguments -/

inductive Status where
  | ok | invalidArgument | abiMismatch | invalidHandle | limitReached | bufferTooSmall
  | sessionClosed | invalidFrame | outOfMemory | internalError | busy
  deriving DecidableEq, Repr

/-- The numbers of the status codes. -/
def Status.code : Status → Nat
  | .ok => 0
  | .invalidArgument => 1
  | .abiMismatch => 2
  | .invalidHandle => 3
  | .limitReached => 4
  | .bufferTooSmall => 5
  | .sessionClosed => 6
  | .invalidFrame => 7
  | .outOfMemory => 8
  | .internalError => 9
  | .busy => 10

def maxSessions : Nat := 8
def uintptrMax : Nat := 2 ^ 64 - 1

/-- A range of the caller's memory; the address of a null pointer is 0. -/
structure Buffer where
  address : Nat
  size : Nat
  deriving DecidableEq, Repr

def overlaps (first second : Buffer) : Bool :=
  if uintptrMax - first.address < first.size ∨ uintptrMax - second.address < second.size then true
  else first.address < second.address + second.size && second.address < first.address + first.size

/-- What may go wrong besides the protocol: `std::bad_alloc`, or anything else
that is thrown. -/
inductive Fault where
  | badAlloc | other
  deriving DecidableEq, Repr

/-- The memory granted to one exchange, and what fails in it beyond: the copy
of the payload of the request, or the answer to an error. -/
structure Surroundings where
  memory : Memory
  decoding : Option Fault := none
  answering : Option Fault := none

/-- The arguments of `fgn_session_exchange`, with the bytes that the request
buffer holds. -/
structure ExchangeCall where
  handle : Nat
  request : Buffer
  bytes : Bytes
  output : Buffer
  outputSize : Nat
  surroundings : Surroundings
  bytes_length : bytes.length = request.size

/-- The result of an exchange: what is stored through `output_size`, if
anything, and what is written to the output buffer. -/
structure Exchanged where
  status : Status
  outputSize : Option Nat := some 0
  output : Option Bytes := none
  deriving DecidableEq, Repr

/-- The checks before any session is looked up. -/
def ExchangeCall.refusal (call : ExchangeCall) : Option Exchanged :=
  let size : Buffer := ⟨call.outputSize, 4⟩
  if call.outputSize = 0 ∨ overlaps call.request size ∨ overlaps call.output size then
    some { status := .invalidArgument, outputSize := none }
  else if call.request.address = 0 ∨ call.request.size = 0 ∨ overlaps call.request call.output then
    some { status := .invalidArgument }
  else if call.output.size < maxFrameBytes then
    some { status := .bufferTooSmall, outputSize := some maxFrameBytes }
  else if call.output.address = 0 then some { status := .invalidArgument }
  else none

/-! ## Metrics -/

structure Metrics where
  exchanges : Nat := 0
  requestBytes : Nat := 0
  responseBytes : Nat := 0
  wirePayloadCopyBytes : Nat := 0
  wirePayloadCopyCount : Nat := 0
  deriving DecidableEq, Repr

def counterMax : Nat := 2 ^ 64 - 1

/-- Add to a counter; what was added to others before stays. -/
def Metrics.add (counter : Metrics → Nat) (store : Metrics → Nat → Metrics) (value : Nat)
    (next : Metrics → Option Error × Metrics) (metrics : Metrics) : Option Error × Metrics :=
  if counterMax - counter metrics < value then
    (some ⟨11, "Metric capacity exhausted.", true⟩, metrics)
  else next (store metrics (counter metrics + value))

/-- Count one exchange. -/
def Metrics.count (requestSize : Nat) (frame response : Frame) : Metrics → Option Error × Metrics :=
  add (·.exchanges) (fun m n => { m with exchanges := n }) 1 <|
  add (·.requestBytes) (fun m n => { m with requestBytes := n }) requestSize <|
  add (·.responseBytes) (fun m n => { m with responseBytes := n })
    (headerSize + response.payload.length) <|
  add (·.wirePayloadCopyBytes) (fun m n => { m with wirePayloadCopyBytes := n })
    (frame.payload.length + response.payload.length) <|
  add (·.wirePayloadCopyCount) (fun m n => { m with wirePayloadCopyCount := n })
    ((if frame.payload = [] then 0 else 1) + (if response.payload = [] then 0 else 1)) <|
  fun m => (none, m)

/-! ## Sessions -/

structure Session where
  protocol : ProtocolSession
  metrics : Metrics := {}

/-- `process`, with what may escape from its handlers. -/
def ProtocolSession.processOrThrow (s : ProtocolSession) (surroundings : Surroundings)
    (request : Frame) : Except Fault Frame × ProtocolSession :=
  match surroundings.answering, s.handle surroundings.memory request with
  | some fault, (.error e, t) => (.error fault, { t with closed := t.closed || e.fatal })
  | _, _ =>
    let (response, t) := s.process surroundings.memory request
    (.ok response, t)

namespace Session

/-- A session that a failed exchange has retired. -/
def retire (s : Session) : Session :=
  { s with protocol := { s.protocol with closed := true } }

def Fault.status : Fault → Status
  | .badAlloc => .outOfMemory
  | .other => .internalError

/-- What an exchange does to its session, behind a mutex. -/
def exchange (call : ExchangeCall) (s : Session) : Exchanged × Session :=
  if s.protocol.closed then ({ status := .sessionClosed }, s)
  else
    match decodeFrame call.bytes, call.surroundings.decoding with
    | .error _, _ => ({ status := .invalidFrame }, s.retire)
    | .ok _, some fault => ({ status := Fault.status fault }, s.retire)
    | .ok frame, none =>
      match s.protocol.processOrThrow call.surroundings frame with
      | (.error fault, protocol) =>
        ({ status := Fault.status fault }, { s with protocol }.retire)
      | (.ok response, protocol) =>
        match s.metrics.count call.request.size frame response with
        | (some _, metrics) =>
          ({ status := .invalidFrame }, { s with protocol, metrics }.retire)
        | (none, metrics) =>
          match encodeFrameInto response call.output.size with
          | .error _ => ({ status := .invalidFrame }, { s with protocol, metrics }.retire)
          | .ok data =>
            ({ status := .ok, outputSize := some data.length, output := some data },
              { s with protocol, metrics })

end Session

/-! ## Identities and handles -/

/-- The identity of a session: random bytes with the version and variant of a
random UUID. -/
def versioned (random : Identity) : Identity :=
  let identity := random.set 6 ((random[6] &&& 15) ||| 64)
  identity.set 8 ((identity[8] &&& 63) ||| 128)

def generationLimit : Nat := 2 ^ 56 - 1

/-- The handle of the session of a generation in a slot. -/
def slotHandle (generation : Nat) (i : Fin maxSessions) : Nat :=
  (generation <<< 8) % 2 ^ 64 ||| (i.val + 1)

/-- `find_slot`. -/
def findSlot (handle : Nat) : Option (Fin maxSessions) :=
  let index := handle &&& 255
  if h : handle = 0 ∨ index = 0 ∨ index > maxSessions then none
  else some ⟨index - 1, by omega⟩

theorem slotHandle_eq {generation : Nat} (h : generation ≤ generationLimit)
    (i : Fin maxSessions) : slotHandle generation i = generation * 256 + (i.val + 1) := by
  have hi : i.val + 1 < 2 ^ 8 := by
    have hlt := i.isLt
    unfold maxSessions at hlt
    omega
  unfold generationLimit at h
  unfold slotHandle
  rw [Nat.mod_eq_of_lt (by rw [Nat.shiftLeft_eq]; omega), ← Nat.shiftLeft_add_eq_or_of_lt hi,
    Nat.shiftLeft_eq]

/-- **A handle determines its generation and its slot.** -/
theorem slotHandle_inj {g g' : Nat} (hg : g ≤ generationLimit) (hg' : g' ≤ generationLimit)
    {i j : Fin maxSessions} (h : slotHandle g i = slotHandle g' j) : g = g' ∧ i = j := by
  have hi := i.isLt
  have hj := j.isLt
  unfold maxSessions at hi hj
  rw [slotHandle_eq hg, slotHandle_eq hg'] at h
  refine ⟨by omega, Fin.ext (by omega)⟩

theorem findSlot_slotHandle {g : Nat} (hg : g ≤ generationLimit) (i : Fin maxSessions) :
    findSlot (slotHandle g i) = some i := by
  have hi := i.isLt
  unfold maxSessions at hi
  have hindex : slotHandle g i &&& 255 = i.val + 1 := by
    rw [slotHandle_eq hg, show 255 = 2 ^ 8 - 1 from rfl, Nat.and_two_pow_sub_one_eq_mod]
    omega
  have hpos : slotHandle g i ≠ 0 := by
    rw [slotHandle_eq hg]
    omega
  unfold findSlot maxSessions
  rw [dif_neg (by rw [hindex]; omega)]
  simp only [hindex, Nat.add_sub_cancel]
  rfl

theorem versioned_nonzero (random : Identity) : nonzero (versioned random).toList = true := by
  have hbit : ∀ b : UInt8, (b &&& 63) ||| 128 ≠ 0 := by
    intro b hzero
    have hall : ∀ n : Fin 256, (UInt8.ofNat n.val &&& 63) ||| 128 ≠ 0 := by decide +kernel
    have hb := hall ⟨b.toNat, b.toNat_lt⟩
    rw [UInt8.ofNat_toNat] at hb
    exact hb hzero
  unfold nonzero
  rw [List.any_eq_true]
  refine ⟨(versioned random)[8], ?_, ?_⟩
  · rw [Vector.mem_toList_iff]
    exact Vector.getElem_mem _
  · unfold versioned
    rw [Vector.getElem_set_self]
    exact bne_iff_ne.mpr (hbit _)

end FluidGateway.Native
