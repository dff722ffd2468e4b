import FluidGateway.Lib.KeyedMap
import FluidGateway.Lib.Worklist
import Mathlib.Data.List.Infix

/-!
# The native session state

The in-memory engine of `native/src/core.cpp`: registered resources, recorded
operations, the open frame, and the decision taken for each submitted
operation.

Texts are the bytes of a `std::string`.  A pointer to a recorded operation is
the key under which the node-based operation map holds it: operations are never
erased, so such a pointer is followed by a lookup.  The maps are unordered in
the source; nothing below depends on the order in which their entries are
listed.

The memory resource of a session may refuse a request at any time.  The number
of requests that a container makes is not fixed by the source, so each call is
given a `Grant`: how many of its allocating statements are served, and what the
next one throws.
-/

namespace FluidGateway.Native

open KeyedMap

/-- The bytes of a `std::string`. -/
abbrev Text := List UInt8

/-- The bytes of an ASCII literal. -/
def literal (s : String) : Text :=
  s.toList.map fun c => UInt8.ofNat c.toNat

/-- `TextMap`, without the order of its buckets, which nothing depends on. -/
abbrev TextMap (τ : Type) := Map Text τ

/-- The limits of a session: bytes of its state, resources and operations. -/
def stateLimit : Nat := 8 * 1024 * 1024
def resourceLimit : Nat := 4096
def operationLimit : Nat := 16384

/-- `Error`: its code and text, and whether it closes the session. -/
structure Error where
  code : Nat
  message : String
  fatal : Bool := false
  deriving DecidableEq, Repr

/-- What a call can throw: an `Error`, or `std::bad_alloc` from the heap. -/
inductive Thrown where
  | error (e : Error)
  | badAlloc
  deriving DecidableEq, Repr

/-- The owner of a session closes it on every fatal error and on
`std::bad_alloc`. -/
def Thrown.fatal : Thrown → Bool
  | .error e => e.fatal
  | .badAlloc => true

/-- Why `BudgetResource::do_allocate` refuses: the 8 MiB budget, an exhausted
counter, or the heap below it. -/
inductive Refusal where
  | budget
  | counter
  | heap
  deriving DecidableEq, Repr

/-- What is thrown for a refusal. -/
def Refusal.thrown : Refusal → Thrown
  | .budget => .error ⟨11, "Session state exceeds 8 MiB; reconnect.", true⟩
  | .counter => .error ⟨11, "Allocation counter exhausted; reconnect.", true⟩
  | .heap => .badAlloc

/-- The memory granted to one call: `room` allocating statements are served,
the next one throws. -/
structure Grant where
  room : Nat
  refusal : Refusal := .budget
  deriving DecidableEq, Repr

/-- `Operation`, with the defaults of its fields. -/
structure Operation where
  id : Text := []
  source : Text := []
  target : Text := []
  reason : Text := []
  dependencies : List Text := []
  frame : Option Nat := none
  bytes : Nat := 0
  microseconds : Nat := 0
  type : UInt8 := 0
  queue : UInt8 := 0
  deriving DecidableEq, Repr

/-- `Decision`, with the defaults of its fields. -/
structure Decision where
  opcode : UInt8 := 0
  operation : Bool := false
  savedUs : Nat := 0
  savedBytes : Nat := 0
  deriving DecidableEq, Repr

/-- What is kept of an operation. -/
structure StoredOperation where
  id : Text
  source : Text
  target : Text
  replacements : List Text
  frame : Option Nat
  bytes : Nat
  queue : UInt8
  removed : Bool := false
  eliminated : Bool := false
  deriving DecidableEq, Repr

/-- What is kept of a resource: its storage, and the operations that its pointers name. -/
structure Resource where
  aliases : List Text
  memory : UInt8
  copy : Option Text := none
  allocation : Option Text := none
  deriving DecidableEq, Repr

/-- `State`: resources, operations and the open frame. -/
structure State where
  resources : TextMap Resource := ∅
  operations : TextMap StoredOperation := ∅
  currentFrame : Option Nat := none

namespace State

/-- Follow a pointer to a recorded operation. -/
def deref (s : State) (p : Option Text) : Option StoredOperation :=
  p.bind fun id => s.operations.lookup id

/-- `begin_frame`: one frame at a time. -/
def beginFrame (frame : Nat) (s : State) : Except Thrown State :=
  if s.currentFrame.isSome then .error (.error ⟨11, "A frame is already open.", false⟩)
  else .ok { s with currentFrame := some frame }

/-- `end_frame`: the frame that is open and no other. -/
def endFrame (frame : Nat) (s : State) : Except Thrown State :=
  if s.currentFrame ≠ some frame then
    .error (.error ⟨11, "Frame does not match the open frame.", false⟩)
  else .ok { s with currentFrame := none }

/-- `end_session`: not while a frame is open. -/
def endSession (s : State) : Except Thrown State :=
  if s.currentFrame.isSome then
    .error (.error ⟨11, "Cannot end session with an open frame.", false⟩)
  else .ok s

end State

/-- `aliases_intersect`: a common name in the same layer of memory. -/
def aliasesIntersect (a b : Resource) : Bool :=
  a.memory == b.memory && a.aliases.any fun name => b.aliases.contains name

namespace State

/-- A failed `try_emplace` leaves the map as it was. -/
def registerResource (g : Grant) (id : Text) (memory : UInt8) (aliases : List Text)
    (s : State) : Except Thrown State :=
  if s.resources.lookup id ≠ none then
    .error (.error ⟨11, "Duplicate resource id.", false⟩)
  else if s.resources.entries.length = resourceLimit then
    .error (.error ⟨11, "Resource limit reached; reconnect.", true⟩)
  else if g.room = 0 then .error g.refusal.thrown
  else .ok { s with resources := s.resources.insert id { aliases, memory } }

/-- The `affected` array of `invalidate`: the resources that alias `first`,
directly or through others. -/
def affected (s : State) (id : Text) (first : Resource) : List (Σ _ : Text, Resource) :=
  let others := s.resources.entries.filter fun entry => entry.1 ≠ id
  (Worklist.grow (fun a b => aliasesIntersect a.2 b.2) (others.length + 1) 0
    [⟨id, first⟩] others).1

/-- Retire the transfers that a write to `id` makes obsolete. -/
def invalidate (id : Text) (s : State) : State :=
  match s.resources.lookup id with
  | none => { s with resources := mapVal (fun _ r => { r with copy := none }) s.resources }
  | some first =>
    let hit := (s.affected id first).map Sigma.fst
    { s with
      resources := mapVal (fun name r =>
        match s.deref r.copy with
        | none => r
        | some op =>
          if name ∈ hit ∨ (s.resources.lookup op.source ≠ none ∧ op.source ∈ hit) then
            { r with copy := none }
          else r) s.resources }

/-- `release_resource`: what others remember of the resource is forgotten first; an unknown
one is no error. -/
def releaseResource (id : Text) (s : State) : State :=
  let s := s.invalidate id
  { s with resources := s.resources.erase id }

/-- `std::tolower` in the C locale. -/
def toLower (c : UInt8) : UInt8 :=
  if 65 ≤ c ∧ c ≤ 90 then c + 32 else c

/-- The reason of an allocation marks it as reusable. -/
def transient (reason : Text) : Bool :=
  let reason := reason.map toLower
  [literal "transient", literal "scratch", literal "temporary", literal "staging"].any
    fun token => decide (token <:+: reason)

/-- The operation recorded for a pointer is the same transfer as `op`. -/
def sameTransfer (op : Operation) (previous : StoredOperation) : Bool :=
  previous.source == op.source && previous.bytes == op.bytes &&
    previous.frame == op.frame && previous.queue == op.queue

/-- The operation recorded for a pointer is an allocation that `op` can reuse. -/
def sameAllocation (op : Operation) (previous : StoredOperation) : Bool :=
  previous.bytes == op.bytes && previous.frame == op.frame && transient op.reason

/-- Every dependency of a wait is recorded and removed. -/
def allRemoved (s : State) (dependencies : List Text) : Bool :=
  !dependencies.isEmpty && dependencies.all fun id =>
    (s.operations.lookup id).any fun found => found.removed

/-- The decision opcode of `process` and the operation retained in place of an
eliminated one. -/
def choose (s : State) (op : Operation) : UInt8 × Option Text :=
  if op.type = 1 ∨ op.type = 4 then
    match s.resources.lookup op.source, s.resources.lookup op.target with
    | some source, some target =>
      if op.source = op.target then (1, none)
      else if aliasesIntersect source target then (3, source.copy)
      else if (s.deref target.copy).any (sameTransfer op) then (2, target.copy)
      else (0, none)
    | _, _ => (0, none)
  else if op.type = 2 then
    if s.allRemoved op.dependencies then (4, none)
    else if op.microseconds = 0 ∧ op.dependencies = [] then (5, none)
    else (0, none)
  else if op.type = 3 then
    match s.resources.lookup op.target with
    | some target =>
      if (s.deref target.allocation).any (sameAllocation op) then (6, target.allocation)
      else (0, none)
    | none => (0, none)
  else (0, none)

/-- What a dependency stands for: the replacements of an eliminated operation,
anything else stands for itself.  The operation being recorded is not found
yet, so a dependency on itself is kept as it is. -/
def expand (s : State) (dependency : Text) : List Text :=
  match s.operations.lookup dependency with
  | some found => if found.eliminated then found.replacements else [dependency]
  | none => [dependency]

/-- The replacement list of an eliminated operation. -/
def replacements (s : State) (retained : Option Text) (dependencies : List Text) : List Text :=
  firsts (retained.toList ++ dependencies.flatMap s.expand)

/-- The node that `try_emplace` creates, with the fields `process` sets after. -/
def stored (op : Operation) (eliminated : Bool) (replacements : List Text)
    (removed : Bool) : StoredOperation :=
  { id := op.id, source := op.source, target := op.target, replacements,
    frame := op.frame, bytes := op.bytes, queue := op.queue, removed, eliminated }

/-- An operation is kept under its identity. -/
def record (s : State) (op : StoredOperation) : State :=
  { s with operations := s.operations.insert op.id op }

/-- Copy, allocate, upload, compute and draw write their target. -/
def writes (type : UInt8) : Bool :=
  type == 1 || type == 3 || type == 4 || type == 6 || type == 7

/-- The effects of an executed operation on the provenance of its target. -/
def settle (s : State) (op : Operation) : State :=
  let s := if writes op.type then s.invalidate op.target else s
  { s with
    resources := mapVal (fun name r =>
      if name = op.target then
        { r with
          copy := if op.type = 1 ∨ op.type = 4 then some op.id else r.copy
          allocation := if op.type = 3 then some op.id else r.allocation }
      else r) s.resources }

/-- The submitted operation with its effective frame. -/
def framed (s : State) (op : Operation) : Operation :=
  { op with frame := op.frame <|> s.currentFrame }

/-- Submit one operation.  When memory is refused in the middle of an
elimination the operation stays recorded with the replacements appended so
far: the list is only ever extended, so these are its first entries. -/
def process (g : Grant) (op : Operation) (s : State) : Except Thrown Decision × State :=
  if s.operations.lookup op.id ≠ none then
    (.error (.error ⟨11, "Duplicate operation id.", false⟩), s)
  else if s.operations.entries.length = operationLimit then
    (.error (.error ⟨11, "Operation limit reached; reconnect.", true⟩), s)
  else if g.room = 0 then (.error g.refusal.thrown, s)
  else
    let op := s.framed op
    let (opcode, retained) := s.choose op
    if opcode = 0 then
      (.ok { opcode := 0, operation := true }, (s.record (stored op false [] false)).settle op)
    else
      let names := s.replacements retained op.dependencies
      if g.room - 1 < names.length then
        (.error g.refusal.thrown, s.record (stored op true (names.take (g.room - 1)) false))
      else
        (.ok { opcode, operation := true, savedUs := op.microseconds,
               savedBytes := if op.type ≠ 2 then op.bytes else 0 },
          s.record (stored op true names names.isEmpty))

end State

/-- The public operations of `State` that change it or can fail. -/
inductive Call where
  | beginFrame (frame : Nat)
  | endFrame (frame : Nat)
  | endSession
  | register (id : Text) (memory : UInt8) (aliases : List Text)
  | release (id : Text)
  | process (op : Operation)
  deriving DecidableEq, Repr

/-- A call that returns no decision of its own answers with the default one. -/
def plain (s : State) : Except Thrown State → Except Thrown Decision × State
  | .ok s' => (.ok {}, s')
  | .error e => (.error e, s)

/-- Run one call: what it returns or throws, and the state afterwards. -/
def State.call (g : Grant) (s : State) : Call → Except Thrown Decision × State
  | .beginFrame frame => plain s (s.beginFrame frame)
  | .endFrame frame => plain s (s.endFrame frame)
  | .endSession => plain s s.endSession
  | .register id memory aliases => plain s (s.registerResource g id memory aliases)
  | .release id => (.ok {}, s.releaseResource id)
  | .process op => s.process g op

/-- One call of a run, with the state it was made in and its outcome. -/
structure Step where
  pre : State
  grant : Grant
  call : Call

/-- What the call of a step returns or throws. -/
def Step.outcome (e : Step) : Except Thrown Decision :=
  (e.pre.call e.grant e.call).1

/-- The state after a step. -/
def Step.post (e : Step) : State :=
  (e.pre.call e.grant e.call).2

/-- A run of calls on a fresh state, the latest first.  Calls may throw; after
a fatal error the owner of the state closes the session, so no call follows
one. -/
inductive Run : State → List Step → Prop
  | start : Run {} []
  | call {s : State} {trail : List Step} (run : Run s trail) (g : Grant) (c : Call)
      (alive : ∀ e, (s.call g c).1 = .error e → e.fatal = false) :
      Run (s.call g c).2 (⟨s, g, c⟩ :: trail)

end FluidGateway.Native
