import FluidGateway.AdapterSession

/-!
# Event payloads

What `fluidgateway/adapter.py`, `events.py`, `runtime.py` and `policy.py` read
from the JSON object of a runtime event.  Reading looks at no session: it
returns what the fields say, or what Python raises.

How Python writes a value as a text, and which numbers it makes of a value, is
left to `Builtins`; nothing proved about the sessions depends on it.
-/

namespace FluidGateway.Adapter

open FluidGateway.Runtime

/-! ## Values -/

inductive PyFloat where
  | finite (value : ℚ) | infinite (negative : Bool) | nan
  deriving DecidableEq, Repr

inductive Json where
  | null
  | bool (value : Bool)
  | int (value : ℤ)
  | float (value : PyFloat)
  | text (value : String)
  | list (items : List Json)
  | dict (fields : List (String × Json))

/-- A `dict` that has been read from JSON; the keys are distinct. -/
abbrev Payload := List (String × Json)

/-- `payload.get(key)`. -/
def get (payload : Payload) (key : String) : Json :=
  (payload.lookup key).getD .null

def Json.truthy : Json → Bool
  | .null => false
  | .bool value => value
  | .int value => value ≠ 0
  | .float value => value ≠ .finite 0
  | .text value => value ≠ ""
  | .list items => !items.isEmpty
  | .dict fields => !fields.isEmpty

/-- `first or second`. -/
def Json.either (first second : Json) : Json :=
  if first.truthy then first else second

/-- What Python raises: a `ValueError` of this program, or an error of a
built-in conversion. -/
inductive Raised where
  | value (message : String)
  | conversion
  deriving DecidableEq, Repr

/-- `str`, `int` and `float`; a conversion that raises has no value. -/
structure Builtins where
  str : Json → String
  int : Json → Option ℤ
  float : Json → Option PyFloat

variable (casing : Casing) (builtins : Builtins)

/-! ## Fields -/

/-- `nonnegative_number`. -/
def nonnegativeNumber (value : Json) (name : String) : Except Raised ℚ :=
  let refused := Except.error (.value (name ++ " must be a finite nonnegative number."))
  match value with
  | .null => .ok 0
  | .bool _ => refused
  | _ =>
    match builtins.float value with
    | some (.finite number) => if number < 0 then refused else .ok number
    | _ => refused

/-- `number_value`. -/
def numberValue (value : Json) : Option ℚ :=
  match value with
  | .null => none
  | .text "" => none
  | _ => (nonnegativeNumber builtins value "budget").toOption

/-- `first_number`. -/
def firstNumber (payload : Payload) (keys : List String) : Option ℚ :=
  keys.findSome? fun key => numberValue builtins (get payload key)

/-- `str(value or default)`. -/
def textOr (value : Json) (default : String) : String :=
  if value.truthy then builtins.str value else default

/-- `normalized_action`, with the actions that are allowed. -/
def normalizedAction {α : Type} (value : Json) (allowed : List (String × α)) (default : String) :
    Except Raised α :=
  let action := casing.lower (strip (textOr builtins value default))
  match allowed.lookup action with
  | some action => .ok action
  | none => .error (.value ("Unsupported action: " ++ orElse action "missing" ++ "."))

/-- `normalized_choice`. -/
def normalizedChoice {α : Type} (text : String) (allowed : List (String × α)) (default : α) : α :=
  (allowed.lookup (casing.lower (strip text))).getD default

/-- `optional_text`. -/
def optionalField (value : Json) : Option String :=
  match value with
  | .null => none
  | _ =>
    let text := strip (builtins.str value)
    if text = "" then none else some text

/-- `as_string_list(value or [])`. -/
def asStringList (value : Json) : Except Raised (List String) :=
  match value.either (.list []) with
  | .list items => .ok (items.map builtins.str)
  | _ => .error (.value "Expected a list value.")

/-- `int(value)`. -/
def asInt (value : Json) : Except Raised ℤ :=
  match builtins.int value with
  | some number => .ok number
  | none => .error .conversion

/-- `int(value) if value is not None else None`. -/
def optionalInt (value : Json) : Except Raised (Option ℤ) :=
  match value with
  | .null => .ok none
  | _ => (asInt builtins value).map some

/-! ## Events -/

inductive EventType where
  | session | frame | resource | operation | state
  deriving DecidableEq, Repr

def eventTypes : List (String × EventType) :=
  [("session", .session), ("frame", .frame), ("resource", .resource), ("operation", .operation),
    ("state", .state)]

/-- The type of an event. -/
def eventType (payload : Payload) : Except Raised EventType :=
  let name := casing.lower (strip
    (textOr builtins ((get payload "event").either (get payload "type")) ""))
  match eventTypes.lookup name with
  | some type => .ok type
  | none => .error (.value ("Unsupported adapter event type: " ++ orElse name "missing"))

def lifecycleActions : List (String × LifecycleAction) :=
  [("begin", .begin), ("end", .finish)]

inductive ResourceAction where
  | register | release
  deriving DecidableEq, Repr

def resourceActions : List (String × ResourceAction) :=
  [("register", .register), ("release", .release)]

def resourceTypes : List (String × ResourceType) :=
  [("buffer", .buffer), ("texture", .texture), ("framebuffer", .framebuffer),
    ("command", .command), ("unknown", .unknown)]

def memoryLayers : List (String × MemoryLayer) :=
  [("ram", .ram), ("vram", .vram), ("shared", .shared), ("staging", .staging),
    ("swapchain", .swapchain), ("display", .display)]

def operationTypes : List (String × OperationType) :=
  [("copy", .copy), ("sync", .sync), ("allocate", .allocate), ("upload", .upload),
    ("present", .present), ("compute", .compute), ("draw", .draw)]

/-- `parse_frame`. -/
def parseFrame (payload : Payload) : Except Raised ℤ :=
  let value := match get payload "frame" with
    | .null => get payload "frame_id"
    | value => value
  match value with
  | .null => .error (.value "Frame event requires 'frame' or 'frame_id'.")
  | value => asInt builtins value

/-- `register_resource_event`, up to the resource that is registered. -/
def readResource (payload : Payload) : Except Raised RuntimeResource := do
  let resourceId := (get payload "id").either (get payload "resource_id")
  if resourceId.truthy = false then
    .error (.value "Resource event requires 'id' or 'resource_id'.")
  else
    let aliases ← asStringList builtins (get payload "aliases")
    let id := strip (builtins.str resourceId)
    if id = "" then .error (.value "Resource id is required.")
    else
      let sizeMb ← nonnegativeNumber builtins (get payload "size_mb") "size_mb"
      .ok {
        id
        kind := normalizedChoice casing (textOr builtins (get payload "kind") "unknown")
          resourceTypes .unknown
        memory := normalizedChoice casing (textOr builtins (get payload "memory") "ram")
          memoryLayers .ram
        sizeMb
        lifetime := orElse (textOr builtins (get payload "lifetime") "unknown") "unknown"
        aliases }

/-- `submit_operation_event`, up to the operation that is submitted.  An
operation without a frame of its own belongs to the open frame. -/
def readOperation (payload : Payload) (currentFrame : Option ℤ) :
    Except Raised RuntimeOperation := do
  let operationId := (get payload "id").either (get payload "operation_id")
  let operationType := ((get payload "operation_type").either (get payload "op")).either
    (get payload "kind")
  if operationId.truthy = false then
    .error (.value "Operation event requires 'id' or 'operation_id'.")
  else if operationType.truthy = false then
    .error (.value ("Operation event " ++ builtins.str operationId ++
      " requires an operation type."))
  else
    let frame ← match get payload "frame", currentFrame with
      | .null, some frame => .ok (some frame)
      | value, _ => optionalInt builtins value
    let dependsOn ← asStringList builtins (get payload "depends_on")
    let id := strip (builtins.str operationId)
    if id = "" then .error (.value "Operation id is required.")
    else
      let costMs ← nonnegativeNumber builtins (get payload "cost_ms") "cost_ms"
      let sizeMb ← nonnegativeNumber builtins (get payload "size_mb") "size_mb"
      .ok {
        id
        type := normalizedChoice casing (builtins.str operationType) operationTypes .compute
        source := optionalText (optionalField builtins (get payload "source"))
        target := optionalText (optionalField builtins (get payload "target"))
        queue := orElse (textOr builtins (get payload "queue") "unknown") "unknown"
        reason := textOr builtins (get payload "reason") ""
        costMs, sizeMb, frame, dependsOn }

end FluidGateway.Adapter
