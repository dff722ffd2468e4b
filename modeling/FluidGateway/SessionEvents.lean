import FluidGateway.NativeCore
import FluidGateway.AdapterSession

/-!
# The events of a session

One event, as both engines receive it: a call of the native state, and a
payload for the adapter session.  Ids are not blank, as the wire protocol lets
no blank one through.  The native state is given stripped names in UTF-8,
bytes and microseconds, and an empty text where an operation has no source or
target; the adapter strips the names itself and is given megabytes and
milliseconds.
-/

namespace FluidGateway

namespace Runtime

/-! ## The codes of the wire -/

/-- The number of a memory layer in the native interface. -/
def MemoryLayer.code : MemoryLayer → UInt8
  | .ram => 1
  | .vram => 2
  | .shared => 3
  | .staging => 4
  | .swapchain => 5
  | .display => 6

/-- The number of a kind of operation in the native interface. -/
def OperationType.code : OperationType → UInt8
  | .copy => 1
  | .sync => 2
  | .allocate => 3
  | .upload => 4
  | .present => 5
  | .compute => 6
  | .draw => 7

/-- The queues that the native interface has a number for. -/
inductive Queue where
  | unknown | cpu | copy | graphics | compute | present
  deriving DecidableEq, Repr

/-- The number of a queue in the native interface. -/
def Queue.code : Queue → UInt8
  | .unknown => 0
  | .cpu => 1
  | .copy => 2
  | .graphics => 3
  | .compute => 4
  | .present => 5

/-- The name of a queue in a Python event. -/
def Queue.name : Queue → String
  | .unknown => "unknown"
  | .cpu => "cpu"
  | .copy => "copy"
  | .graphics => "graphics"
  | .compute => "compute"
  | .present => "present"

/-- `DECISION_OPCODE_BY_POLICY`. -/
def Policy.code : Policy → UInt8
  | .eliminateSelfCopy => 1
  | .deduplicateIdenticalTransfer => 2
  | .collapseAliasedResourceCopy => 3
  | .removeOrphanSync => 4
  | .removeEmptySync => 5
  | .reuseTransientBuffer => 6

/-- Two memory layers with one number are the same. -/
theorem MemoryLayer.code_inj {a b : MemoryLayer} (h : a.code = b.code) : a = b := by
  cases a <;> cases b <;> first | rfl | cases h

/-- Queues are compared by number in one engine and by name in the other. -/
theorem Queue.code_eq_iff {a b : Queue} : a.code = b.code ↔ a.name = b.name := by
  cases a <;> cases b <;> decide

/-- The name of a queue is not empty. -/
theorem Queue.name_ne (q : Queue) : q.name ≠ "" := by
  cases q <;> decide

end Runtime

open FluidGateway.Runtime

/-- A text that is not blank. -/
structure Name where
  text : String
  visible : strip text ≠ ""
  deriving DecidableEq

/-- The bytes of a megabyte, as the reports count them. -/
def mebibyte : ℚ := 1024 * 1024

/-- An operation as it is submitted to either engine. -/
structure OperationEvent where
  id : Name
  type : OperationType
  queue : Queue := .unknown
  source : Option String := none
  target : Option String := none
  reason : Option String := none
  microseconds : Nat := 0
  bytes : Nat := 0
  frame : Option Nat := none
  dependsOn : List String := []

/-- An event as it is submitted to either session. -/
inductive SessionEvent where
  | beginSession (id : String)
  | endSession
  | beginFrame (frame : Nat)
  | endFrame (frame : Nat)
  | register (id : Name) (kind : ResourceType) (memory : MemoryLayer) (lifetime : String)
      (bytes : Nat) (aliases : List String)
  | release (id : Name)
  | process (operation : OperationEvent)

/-- The name that the native state is given in place of an optional text. -/
def nativeName (value : Option String) : Native.Text :=
  utf8 ((optionalText value).getD "")

/-- The operation that the native session is given. -/
def OperationEvent.native (e : OperationEvent) : Native.Operation where
  id := utf8 (strip e.id.text)
  source := nativeName e.source
  target := nativeName e.target
  reason := utf8 (e.reason.getD "")
  dependencies := e.dependsOn.map utf8
  frame := e.frame
  bytes := e.bytes
  microseconds := e.microseconds
  type := e.type.code
  queue := e.queue.code

/-- The payload that the Python session is given. -/
def OperationEvent.payload (e : OperationEvent) : OperationPayload where
  id := e.id.text
  operationType := e.type
  queue := e.queue.name
  source := e.source
  target := e.target
  reason := e.reason
  costMs := e.microseconds / 1000
  sizeMb := e.bytes / mebibyte
  frame := e.frame.map Int.ofNat
  dependsOn := e.dependsOn

/-- The call that the event makes; a session that begins makes none. -/
def SessionEvent.call : SessionEvent → Option Native.Call
  | .beginSession _ => none
  | .endSession => some .endSession
  | .beginFrame frame => some (.beginFrame frame)
  | .endFrame frame => some (.endFrame frame)
  | .register id _ memory _ _ aliases =>
    some (.register (utf8 (strip id.text)) memory.code (aliases.map utf8))
  | .release id => some (.release (utf8 (strip id.text)))
  | .process operation => some (.process operation.native)

/-- The event in the Python session's own form. -/
def SessionEvent.payload : SessionEvent → EventPayload
  | .beginSession id => .session { action := .begin, id := some id }
  | .endSession => .session { action := .finish }
  | .beginFrame frame => .frame { action := .begin, frame }
  | .endFrame frame => .frame { action := .finish, frame }
  | .register id kind memory lifetime bytes aliases =>
    .resource (.register id.text kind memory lifetime (bytes / mebibyte) aliases)
  | .release id => .resource (.release id.text)
  | .process operation => .operation operation.payload

/-- Feed one event to the native state. -/
def Native.State.feed (s : Native.State) (e : Native.Grant × SessionEvent) :
    Except Native.Thrown Native.Decision × Native.State :=
  match e.2.call with
  | some call => s.call e.1 call
  | none => (.ok {}, s)

/-- Feed one event to the adapter session. -/
def Runtime.RuntimeAdapterSession.feed (casing : Casing) (s : RuntimeAdapterSession)
    (e : Option Nat × SessionEvent) : Except String Response × RuntimeAdapterSession :=
  s.processEvent casing e.2.payload e.1

end FluidGateway
