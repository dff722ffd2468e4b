import FluidGateway.OperationCodecs

/-!
# The codecs of events

`encode_runtime_event_payload` of `fluidgateway/fluidlink_v2.py`, for each kind of
event.  Whatever it returns is decoded to the event that the dictionary tells of
(`encodeEvent_decoded`), where a time is the double that is nearest to a whole
number of microseconds, and a size the one that is nearest to a whole number of
bytes.
-/

namespace FluidGateway.FluidLink

open Reading PayloadReader
open FluidGateway.Adapter (Json Payload EventType)
open PyWriter (ofText)
open Native (Bytes)

/-! ## Values under one of several keys -/

namespace PyDict

/-- `_first_present`: the first of some keys that has a value in one of two
dictionaries. -/
def firstPresent (primary secondary : PyDict) : List String → Option (PyValue × String)
  | [] => none
  | key :: keys =>
    if ¬ (primary.get key).isNone then some (primary.get key, key)
    else if ¬ (secondary.get key).isNone then some (secondary.get key, key)
    else firstPresent primary secondary keys

/-- An id, which is empty when there is none. -/
def identity (d : PyDict) (keys : List String) : PyValue :=
  (d.first keys).orElse (ofText "")

end PyDict

section

variable (py : Interpreter)

/-- `_required_unsigned`. -/
def PyDict.requiredUnsigned (d : PyDict) (keys : List String) : Except PyException ℕ :=
  match d.firstPresent [] keys with
  | some (value, key) => value.unsigned py maximumU64 key
  | none => refusal "FluidLink v2 event is missing a required integer."

/-- What was found is a quantity of whole units, in the unit that its key names, or
nothing was found. -/
def Measures (found : Option (PyValue × String)) (wholeKeys : List String) (c : Conversion) :
    Option ℕ → Prop
  | some n => ∃ value key, found = some (value, key) ∧ Amount py value (wholeKeys.contains key) c n
  | none => found = none

/-- Something was found exactly where there is a quantity to be written, which decides the
bit of the mask. -/
theorem Measures.isSome {py : Interpreter} {found : Option (PyValue × String)}
    {wholeKeys : List String} {c : Conversion} {x : Option ℕ} (h : Measures py found wholeKeys c x) :
    found.isSome = x.isSome := by
  cases x with
  | none =>
      obtain rfl : found = none := h
      rfl
  | some n =>
      obtain ⟨value, key, rfl, -⟩ := h
      rfl

/-- A time that is written when it was found. -/
def PyWriter.target (found : Option (PyValue × String)) (wholeKeys : List String) :
    Except PyException Bytes :=
  match found with
  | some (value, key) => do
    let us ← timeScalar py value (wholeKeys.contains key) 0xFFFFFFFF
    PyWriter.u32 us
  | none => .ok []

/-- A target that was written is the quantity that was found, or nothing. -/
theorem PyWriter.target_ok {found : Option (PyValue × String)} {wholeKeys : List String}
    {data : Bytes} (h : PyWriter.target py found wholeKeys = .ok data) :
    ∃ x : Option ℕ, Measures py found wholeKeys .eventTime x ∧ (∀ n ∈ x, n < 256 ^ 4) ∧
      data = optionalBytes (integerBytes 4) x := by
  cases found with
  | none =>
      cases h
      exact ⟨none, rfl, by simp, rfl⟩
  | some item =>
      obtain ⟨value, key⟩ := item
      obtain ⟨us, hus, hwrite⟩ := bound_iff.mp h
      obtain ⟨hlt, rfl⟩ := PyWriter.integer_iff.mp hwrite
      refine ⟨some us, ⟨value, key, rfl, amount_of_time hus⟩, ?_, rfl⟩
      rintro n hn
      cases hn
      exact hlt

/-- A size in one of two units, when there is one. -/
def PyDict.memoryAmount (d budgets : PyDict) (name : String) : Except PyException (Option ℕ) :=
  match d.firstPresent budgets [name ++ "_bytes", name ++ "_mb"] with
  | some (value, key) => do
    let bytes ← memoryScalar py value ([name ++ "_bytes"].contains key)
    return some bytes
  | none => .ok none

/-- An amount of memory that was accepted is the quantity found under one of its two keys. -/
theorem PyDict.memoryAmount_ok {d budgets : PyDict} {name : String} {x : Option ℕ}
    (h : d.memoryAmount py budgets name = .ok x) :
    Measures py (d.firstPresent budgets [name ++ "_bytes", name ++ "_mb"]) [name ++ "_bytes"]
      .memory x := by
  unfold memoryAmount at h
  cases hfound : d.firstPresent budgets [name ++ "_bytes", name ++ "_mb"] with
  | none =>
      rw [hfound] at h
      cases h
      rfl
  | some item =>
      rw [hfound] at h
      obtain ⟨value, key⟩ := item
      obtain ⟨bytes, hbytes, hreturn⟩ := bound_iff.mp h
      cases hreturn
      exact ⟨value, key, rfl, amount_of_memory hbytes⟩

/-! ## The encoders -/

namespace PyDict

/-- The budgets of a session. -/
def budgetsOf (d : PyDict) : Except PyException PyDict :=
  match d.get "budgets" with
  | .none => .ok []
  | .dict budgets => .ok budgets
  | _ => refusal "FluidLink v2 session budgets must be an object."

/-- Where the target of a session is looked for, the first key that is present wins. -/
def sessionTarget (d budgets : PyDict) : Option (PyValue × String) :=
  d.firstPresent budgets ["target_frame_us", "target_frame_ms", "frame_us", "frame_ms"]

/-- The presence mask of a session, from what is present. -/
def sessionPresence (target : Bool) (present : List Bool) : ℕ :=
  (List.zipWith (fun item bit => if bit then 1 <<< item.2 else 0) budgetBits present).foldl
    (· ||| ·) (if target then 1 else 0)

/-- The sizes that there are, one behind the other. -/
def writeAmounts : List (Option ℕ) → Except PyException Bytes
  | [] => .ok []
  | amount :: amounts => do
    let first ← PyWriter.optional PyWriter.u64 amount
    let rest ← writeAmounts amounts
    return first ++ rest

/-- `_encode_session_event`. -/
def encodeSession (d : PyDict) : Except PyException Bytes := do
  let action ← PyValue.enumValue py (d.orDefault "action" (ofText "begin")) lifecycleOpcodes
    "session action"
  let budgets ← d.budgetsOf
  let target := d.sessionTarget budgets
  let amounts ← budgetBits.mapM fun item => d.memoryAmount py budgets item.1
  let presence := sessionPresence target.isSome (amounts.map Option.isSome)
  if action = 2 ∧ presence ≠ 0 then
    refusal "FluidLink v2 session end cannot carry budget fields."
  else
    let first ← PyWriter.u8 action
    let mask ← PyWriter.u8 presence
    let id ← PyWriter.text16 (d.identity ["id", "session_id"]) 256 (action = 2)
    let frame ← PyWriter.target py target ["target_frame_us", "frame_us"]
    let sizes ← writeAmounts amounts
    PyWriter.finish (first ++ mask ++ id ++ frame ++ sizes)

/-- `_encode_frame_event`. -/
def encodeFrame (d : PyDict) : Except PyException Bytes := do
  let action ← PyValue.enumValue py (d.orDefault "action" (ofText "begin")) lifecycleOpcodes
    "frame action"
  let frame ← d.requiredUnsigned py ["frame", "frame_id"]
  let target := d.firstPresent [] ["target_frame_us", "target_frame_ms"]
  if action = 2 ∧ target.isSome then
    refusal "FluidLink v2 frame end cannot carry a target budget."
  else
    let first ← PyWriter.u8 action
    let mask ← PyWriter.u8 (if target.isSome then 1 else 0)
    let index ← PyWriter.u64 frame
    let targetUs ← PyWriter.target py target ["target_frame_us"]
    PyWriter.finish (first ++ mask ++ index ++ targetUs)

/-- The keys that a release may not have. -/
def registrationFields : List String :=
  ["kind", "memory", "lifetime", "size_bytes", "size_mb", "aliases"]

/-- `_encode_resource_event`. -/
def encodeResource (d : PyDict) : Except PyException Bytes := do
  let action ← PyValue.enumValue py (d.orDefault "action" (ofText "register")) resourceOpcodes
    "resource action"
  let first ← PyWriter.u8 action
  let id ← PyWriter.text16 (d.identity ["id", "resource_id"]) 256
  if action = 2 then
    if registrationFields.any d.has then
      refusal "FluidLink v2 resource release cannot carry registration fields."
    else PyWriter.finish (first ++ id)
  else
    let kindOpcode ← PyValue.enumValue py (d.orDefault "kind" (ofText "unknown")) resourceKinds
      "resource kind"
    let kind ← PyWriter.u8 kindOpcode
    let memoryOpcode ← PyValue.enumValue py (d.orDefault "memory" (ofText "ram")) memoryLayers
      "memory layer"
    let memory ← PyWriter.u8 memoryOpcode
    let lifetimeOpcode ← PyValue.enumValue py (d.orDefault "lifetime" (ofText "unknown")) lifetimes
      "lifetime"
    let lifetime ← PyWriter.u8 lifetimeOpcode
    let sizeBytes ← memoryValue py d "size_bytes" "size_mb"
    let size ← PyWriter.u64 sizeBytes
    let aliases ← d.textList "aliases" "aliases"
    let rest ← PyWriter.counted aliases
    PyWriter.finish (first ++ id ++ kind ++ memory ++ lifetime ++ size ++ rest)

/-- `_encode_operation_event`. -/
def encodeOperation (d : PyDict) : Except PyException Bytes := do
  let parts ← d.operationParts
  let head ← d.operationHead py parts
  let id ← PyWriter.text16 (d.identity ["id", "operation_id"]) 256
  let body ← d.operationBody py parts
  let dependencies ← d.textList "depends_on" "dependencies"
  let rest ← PyWriter.counted dependencies
  PyWriter.finish (head ++ id ++ body ++ rest)

/-- `_encode_state_event`. -/
def encodeState (d : PyDict) : Except PyException Bytes := do
  let action ← PyValue.enumValue py (d.orDefault "action" (ofText "snapshot")) stateOpcodes
    "state action"
  let first ← PyWriter.u8 action
  PyWriter.finish first

/-- The five encoders, by the type of the event. -/
def encodeEvent (d : PyDict) : EventType → Except PyException Bytes
  | .session => d.encodeSession py
  | .frame => d.encodeFrame py
  | .resource => d.encodeResource py
  | .operation => d.encodeOperation py
  | .state => d.encodeState py

end PyDict

/-- `encode_runtime_event_payload`, of an opcode that is one of an event. -/
def PyValue.encodeEvent (event : EventType) (payload : PyValue) : Except PyException Bytes :=
  match payload with
  | .dict d => PyDict.encodeEvent py d event
  | _ => refusal "FluidLink v2 runtime event must be an object."

/-! ## What a dictionary tells -/

/-- The event that a dictionary tells of: names in any case and with blanks around
them, values under any of their keys or by default, times and sizes in either of
two units. -/
inductive PyDict.Tells (d : PyDict) : EventType → WireEvent → Prop
  | session {action id : String} {budgets : PyDict} {frameUs : Option ℕ}
      {sizes : List (String × Option ℕ)}
      (haction : (d.orDefault "action" (ofText "begin")).Names py lifecycleOpcodes action)
      (hid : d.identity ["id", "session_id"] = ofText id) (hbudgets : d.budgetsOf = .ok budgets)
      (hframe : Measures py (d.sessionTarget budgets) ["target_frame_us", "frame_us"] .eventTime
        frameUs)
      (hsizes : List.Forall₂ (fun item size => size.1 = item.1 ∧
        Measures py (d.firstPresent budgets [item.1 ++ "_bytes", item.1 ++ "_mb"])
          [item.1 ++ "_bytes"] .memory size.2) budgetBits sizes) :
      Tells d .session (.session action id frameUs sizes)
  | frame {action key : String} {value : PyValue} {index : ℕ} {targetUs : Option ℕ}
      (haction : (d.orDefault "action" (ofText "begin")).Names py lifecycleOpcodes action)
      (hfound : d.firstPresent [] ["frame", "frame_id"] = some (value, key))
      (hindex : value.IsUnsigned maximumU64 index)
      (htarget : Measures py (d.firstPresent [] ["target_frame_us", "target_frame_ms"])
        ["target_frame_us"] .eventTime targetUs) :
      Tells d .frame (.frame action index targetUs)
  | release {id : String}
      (haction : (d.orDefault "action" (ofText "register")).Names py resourceOpcodes "release")
      (hid : d.identity ["id", "resource_id"] = ofText id) :
      Tells d .resource (.release id)
  | register {id kind memory lifetime : String} {sizeBytes : ℕ} {aliases : List String}
      (haction : (d.orDefault "action" (ofText "register")).Names py resourceOpcodes "register")
      (hid : d.identity ["id", "resource_id"] = ofText id)
      (hkind : (d.orDefault "kind" (ofText "unknown")).Names py resourceKinds kind)
      (hmemory : (d.orDefault "memory" (ofText "ram")).Names py memoryLayers memory)
      (hlifetime : (d.orDefault "lifetime" (ofText "unknown")).Names py lifetimes lifetime)
      (hsize : Quantity py d "size_bytes" "size_mb" .memory sizeBytes)
      (haliases : d.orDefault "aliases" (.list []) = ofTexts aliases) :
      Tells d .resource (.register id kind memory lifetime sizeBytes aliases)
  | operation {id : String} {o : WireOperation}
      (hid : d.identity ["id", "operation_id"] = ofText id) (hfields : d.Describes py o)
      (hcost : Quantity py d "cost_us" "cost_ms" .eventTime o.costUs)
      (hsize : Quantity py d "size_bytes" "size_mb" .memory o.sizeBytes) :
      Tells d .operation (.operation id o)
  | state {action : String}
      (haction : (d.orDefault "action" (ofText "snapshot")).Names py stateOpcodes action) :
      Tells d .state (.state action)

end

/-! ## Reading them back -/

/-- No name and no code of the table occurs twice. -/
theorem lifecycleOpcodes_table : Table lifecycleOpcodes := by
  constructor <;> decide

/-- No name and no code of the table occurs twice. -/
theorem resourceOpcodes_table : Table resourceOpcodes := by
  constructor <;> decide

/-- No name and no code of the table occurs twice. -/
theorem stateOpcodes_table : Table stateOpcodes := by
  constructor <;> decide

/-- No name and no code of the table occurs twice. -/
theorem resourceKinds_table : Table resourceKinds := by
  constructor <;> decide

/-- No name and no code of the table occurs twice. -/
theorem memoryLayers_table : Table memoryLayers := by
  constructor <;> decide

/-- No name and no code of the table occurs twice. -/
theorem lifetimes_table : Table lifetimes := by
  constructor <;> decide

/-- A value names an entry of its table only. -/
theorem PyValue.Names.mem {py : Interpreter} {value : PyValue} {values : List (String × ℕ)}
    {key : String} (h : value.Names py values key) : key ∈ values.map Prod.fst := by
  obtain ⟨_, -, -, hkey⟩ := h
  exact hkey

/-- The end is told by its code. -/
theorem lifecycle_end {action : String} (h : action ∈ lifecycleOpcodes.map Prod.fst) :
    action = "end" ↔ opcodeOf lifecycleOpcodes action = 2 := by
  have hall : ∀ name ∈ lifecycleOpcodes.map Prod.fst,
      name = "end" ↔ opcodeOf lifecycleOpcodes name = 2 := by
    decide
  exact hall action h

/-- The bytes of a frame event are read as that event; an end carries no target. -/
theorem readFrameEvent_read {action : String} {index : ℕ} {targetUs : Option ℕ}
    (haction : action ∈ lifecycleOpcodes.map Prod.fst) (hindex : index < 256 ^ 8)
    (htarget : ∀ n ∈ targetUs, n < 256 ^ 4) (hend : ¬ (action = "end" ∧ targetUs.isSome = true)) :
    readFrameEvent (integerBytes 1 (opcodeOf lifecycleOpcodes action) ++
      (integerBytes 1 (if targetUs.isSome then 1 else 0) ++
        (integerBytes 8 index ++ (optionalBytes (integerBytes 4) targetUs ++ [])))) =
      .ok (.frame action index targetUs, []) := by
  refine (enum_exact lifecycleOpcodes_table _).andThen haction ?_
  have hmask : (if targetUs.isSome then 1 else 0) < 256 ∧
      (if targetUs.isSome then 1 else 0) &&& (255 - 1) = 0 := by
    split_ifs <;> decide
  refine (presence_exact 1 "frame").andThen hmask ?_
  refine Exact.passed ?_ ?_
  · rintro ⟨hlast, hne⟩
    refine hend ⟨hlast, ?_⟩
    by_contra hnone
    exact hne (if_neg hnone)
  · refine (integer_exact 8).andThen hindex ?_
    refine (optional_exact (integer_exact 4) _ 1).andThen ⟨?_, htarget⟩ rfl
    split_ifs with hsome <;> simp [hsome]

/-- An event is encoded to bytes that are read as the event that is told. -/
def Decoded (py : Interpreter) (d : PyDict) (event : EventType) (data : Bytes) : Prop :=
  ∃ wire, d.Tells py event wire ∧ readEvent event data = .ok (wire, [])

section

variable {py : Interpreter} {d : PyDict} {data : Bytes}

/-- What is written for a frame event is read as the event that the dictionary tells. -/
theorem encodeFrame_decoded (h : d.encodeFrame py = .ok data) : Decoded py d .frame data := by
  unfold PyDict.encodeFrame PyWriter.u8 PyWriter.u64 at h
  simp only [bound_iff, guarded_iff, PyValue.enumValue_iff py lifecycleOpcodes_table,
    PyWriter.integer_iff, PyWriter.finish_iff] at h
  obtain ⟨_, ⟨action, haction, rfl⟩, index, hrequired, hend, _, ⟨-, rfl⟩, _, ⟨-, rfl⟩, _,
    ⟨hindex, rfl⟩, _, htarget, -, rfl⟩ := h
  obtain ⟨targetUs, hmeasures, htargetUs, rfl⟩ := PyWriter.target_ok py htarget
  have hsome := hmeasures.isSome
  rw [hsome, ← lifecycle_end haction.mem] at hend
  unfold PyDict.requiredUnsigned at hrequired
  cases hfound : d.firstPresent [] ["frame", "frame_id"] with
  | none =>
      rw [hfound] at hrequired
      cases hrequired
  | some item =>
      rw [hfound] at hrequired
      refine ⟨.frame action index targetUs,
        .frame haction hfound ((PyValue.unsigned_iff py).mp hrequired) hmeasures, ?_⟩
      have hread := readFrameEvent_read haction.mem hindex htargetUs hend
      simp only [hsome, List.append_assoc]
      rwa [List.append_nil] at hread

/-- What is written for a state event is read as the event that the dictionary tells. -/
theorem encodeState_decoded (h : d.encodeState py = .ok data) : Decoded py d .state data := by
  unfold PyDict.encodeState PyWriter.u8 at h
  simp only [bound_iff, PyValue.enumValue_iff py stateOpcodes_table, PyWriter.integer_iff,
    PyWriter.finish_iff] at h
  obtain ⟨_, ⟨action, haction, rfl⟩, _, ⟨-, rfl⟩, -, rfl⟩ := h
  refine ⟨.state action, .state haction, ?_⟩
  have hread : readStateEvent (integerBytes 1 (opcodeOf stateOpcodes action) ++ []) =
      .ok (.state action, []) := (enum_exact stateOpcodes_table _).andThen haction.mem rfl
  rwa [List.append_nil] at hread

/-- A release is told by its code. -/
theorem resource_release {action : String} (h : action ∈ resourceOpcodes.map Prod.fst) :
    opcodeOf resourceOpcodes action = 2 ↔ action = "release" := by
  have hall : ∀ name ∈ resourceOpcodes.map Prod.fst,
      opcodeOf resourceOpcodes name = 2 ↔ name = "release" := by
    decide
  exact hall action h

/-- What is no release registers. -/
theorem resource_register {action : String} (h : action ∈ resourceOpcodes.map Prod.fst)
    (hne : action ≠ "release") : action = "register" := by
  have hall : ∀ name ∈ resourceOpcodes.map Prod.fst, name ≠ "release" → name = "register" := by
    decide
  exact hall action h hne

/-- What is written for a resource event is read as the event that the dictionary tells; a
release has its identity only. -/
theorem encodeResource_decoded (h : d.encodeResource py = .ok data) :
    Decoded py d .resource data := by
  unfold PyDict.encodeResource PyWriter.u8 PyWriter.u64 at h
  rw [bound_iff] at h
  obtain ⟨_, hopcode, h⟩ := h
  obtain ⟨action, haction, rfl⟩ := (PyValue.enumValue_iff py resourceOpcodes_table).mp hopcode
  obtain ⟨_, hfirst, h⟩ := bound_iff.mp h
  obtain ⟨-, rfl⟩ := PyWriter.integer_iff.mp hfirst
  obtain ⟨_, hfield, h⟩ := bound_iff.mp h
  obtain ⟨id, hid, hidFits, rfl⟩ := PyWriter.text16_iff.mp hfield
  by_cases hrelease : opcodeOf resourceOpcodes action = 2
  · rw [if_pos hrelease, guarded_iff, PyWriter.finish_iff] at h
    obtain ⟨-, -, rfl⟩ := h
    obtain rfl := (resource_release haction.mem).mp hrelease
    refine ⟨.release id, .release haction hid, ?_⟩
    have hread : readResourceEvent (integerBytes 1 (opcodeOf resourceOpcodes "release") ++
        (textBytes 2 id ++ [])) = .ok (.release id, []) := by
      refine (enum_exact resourceOpcodes_table _).andThen haction.mem ?_
      exact identifier_exact.andThen hidFits rfl
    rwa [List.append_nil] at hread
  · rw [if_neg hrelease] at h
    have hne : action ≠ "release" := fun heq => hrelease ((resource_release haction.mem).mpr heq)
    obtain rfl := resource_register haction.mem hne
    simp only [bound_iff, PyValue.enumValue_iff py resourceKinds_table,
      PyValue.enumValue_iff py memoryLayers_table, PyValue.enumValue_iff py lifetimes_table,
      PyWriter.integer_iff, PyDict.textList, textList_iff, PyWriter.finish_iff] at h
    obtain ⟨_, ⟨kind, hkind, rfl⟩, _, ⟨-, rfl⟩, _, ⟨memory, hmemory, rfl⟩, _, ⟨-, rfl⟩, _,
      ⟨lifetime, hlifetime, rfl⟩, _, ⟨-, rfl⟩, sizeBytes, hsize, _, ⟨hsizeLt, rfl⟩, _,
      ⟨aliases, haliases, hcount, hidentifiers, rfl⟩, _, hrest, -, rfl⟩ := h
    rw [PyWriter.counted_iff hidentifiers hcount] at hrest
    subst hrest
    refine ⟨.register id kind memory lifetime sizeBytes aliases,
      .register haction hid hkind hmemory hlifetime (quantity_of_memory hsize) haliases, ?_⟩
    have hread : readResourceEvent (integerBytes 1 (opcodeOf resourceOpcodes "register") ++
        (textBytes 2 id ++ (integerBytes 1 (opcodeOf resourceKinds kind) ++
          (integerBytes 1 (opcodeOf memoryLayers memory) ++
            (integerBytes 1 (opcodeOf lifetimes lifetime) ++
              (integerBytes 8 sizeBytes ++ (identifiersBytes aliases ++ []))))))) =
        .ok (.register id kind memory lifetime sizeBytes aliases, []) := by
      refine (enum_exact resourceOpcodes_table _).andThen haction.mem ?_
      refine identifier_exact.andThen hidFits ?_
      rw [if_neg (by decide)]
      refine (enum_exact resourceKinds_table _).andThen hkind.mem ?_
      refine (enum_exact memoryLayers_table _).andThen hmemory.mem ?_
      refine (enum_exact lifetimes_table _).andThen hlifetime.mem ?_
      refine (integer_exact 8).andThen hsizeLt ?_
      exact (identifiers_exact "alias").andThen ⟨hcount, hidentifiers⟩ rfl
    simp only [List.append_assoc]
    rwa [List.append_nil] at hread

/-- What is written for an operation event is read as the event that the dictionary tells. -/
theorem encodeOperation_decoded (h : d.encodeOperation py = .ok data) :
    Decoded py d .operation data := by
  unfold PyDict.encodeOperation at h
  simp only [bound_iff, PyWriter.text16_iff, PyWriter.finish_iff] at h
  obtain ⟨parts, hparts, head, hhead, _, ⟨id, hid, hidFits, rfl⟩, body, hbody, dependencies,
    hdependencies, rest, hrest, -, rfl⟩ := h
  obtain ⟨o, hvalid, hdescribes, rfl, rfl, rfl⟩ := (operationFields_iff py).mp
    ⟨parts, dependencies, hparts, hdependencies, hhead, hbody, hrest⟩
  have hbits : ∀ n < 16, n &&& 240 = 0 := by
    decide
  have hpresence : o.head.2.2 < 256 ∧ o.head.2.2 &&& 240 = 0 :=
    ⟨o.presence_lt.trans (by decide), hbits _ o.presence_lt⟩
  have hcost : timeValue py d "cost_us" "cost_ms" Conversion.eventTime.maximum = .ok o.costUs :=
    hdescribes.cost
  refine ⟨.operation id o, .operation hid hdescribes (quantity_of_time rfl hcost)
    (quantity_of_memory hdescribes.size), ?_⟩
  have hread : readOperationEvent (headBytes o.head ++ (textBytes 2 id ++
      ((o.body ++ identifiersBytes o.dependsOn) ++ []))) = .ok (.operation id o, []) := by
    refine (operationHead_exact "operation").andThen ⟨hvalid.type, hvalid.queue, hpresence⟩ ?_
    refine identifier_exact.andThen hidFits ?_
    exact (operationTail_exact hpresence).andThen ⟨rfl, hvalid.toFields⟩ rfl
  simp only [List.append_assoc]
  rwa [List.append_nil] at hread

/-! ### Sessions -/

/-- The sizes that are written. -/
theorem writeAmounts_ok {amounts : List (Option ℕ)}
    (h : PyDict.writeAmounts amounts = .ok data) : (∀ x ∈ amounts, ∀ n ∈ x, n < 256 ^ 8) ∧
      data = (amounts.map (optionalBytes (integerBytes 8))).flatten := by
  induction amounts generalizing data with
  | nil =>
      cases h
      exact ⟨by simp, rfl⟩
  | cons amount amounts ih =>
      unfold PyDict.writeAmounts at h
      simp only [bound_iff] at h
      obtain ⟨first, hfirst, rest, hrest, hreturn⟩ := h
      cases hreturn
      obtain ⟨hall, rfl⟩ := ih hrest
      have hamount : (∀ n ∈ amount, n < 256 ^ 8) ∧
          first = optionalBytes (integerBytes 8) amount := by
        cases amount with
        | none =>
            cases hfirst
            exact ⟨by simp, rfl⟩
        | some n =>
            obtain ⟨hlt, rfl⟩ := PyWriter.integer_iff.mp hfirst
            refine ⟨?_, rfl⟩
            rintro m hm
            cases hm
            exact hlt
      exact ⟨List.forall_mem_cons.mpr ⟨hamount.1, hall⟩, by rw [hamount.2]; rfl⟩

/-- A budget behind its name, when its bit is set. -/
theorem budgetField_exact (presence : ℕ) (item : String × ℕ) :
    Exact (do
      let bytes ← PayloadReader.optional presence (1 <<< item.2) u64
      return (item.1, bytes) : PayloadReader (String × Option ℕ))
      (fun budget => budget.1 = item.1 ∧
        (budget.2.isSome = true ↔ presence &&& (1 <<< item.2) ≠ 0) ∧ ∀ n ∈ budget.2, n < 256 ^ 8)
      (fun budget => optionalBytes (integerBytes 8) budget.2) := by
  refine (Exact.bind Prod.snd (optional_exact (integer_exact 8) presence (1 <<< item.2))
    (fun bytes _ => Exact.pure (item.1, bytes)) ?_).congr (fun budget => ?_) fun budget _ => ?_
  · exact fun _ _ _ h => congrArg Prod.snd h
  · obtain ⟨name, bytes⟩ := budget
    constructor
    · rintro ⟨hbytes, h⟩
      cases h
      exact ⟨rfl, hbytes⟩
    · rintro ⟨rfl, hbytes⟩
      exact ⟨hbytes, rfl⟩
  · exact List.append_nil _

/-- A list that is mapped without an error is mapped item by item. -/
theorem mapM_ok {α β : Type} {f : α → Except PyException β} {as : List α} {bs : List β}
    (h : as.mapM f = .ok bs) : List.Forall₂ (fun a b => f a = .ok b) as bs := by
  induction as generalizing bs with
  | nil =>
      cases h
      exact .nil
  | cons a as ih =>
      rw [List.mapM_cons] at h
      obtain ⟨b, hb, h⟩ := bound_iff.mp h
      obtain ⟨rest, hrest, h⟩ := bound_iff.mp h
      cases h
      exact .cons hb (ih hrest)

/-- The bits of the mask are what is present. -/
theorem session_bits : ∀ target ram vram shared staging swapchain : Bool,
    let mask := PyDict.sessionPresence target [ram, vram, shared, staging, swapchain]
    (mask < 256 ∧ mask &&& (255 - 0x3F) = 0) ∧ (target = true ↔ mask &&& 1 ≠ 0) ∧
      (ram = true ↔ mask &&& 1 <<< 1 ≠ 0) ∧ (vram = true ↔ mask &&& 1 <<< 2 ≠ 0) ∧
        (shared = true ↔ mask &&& 1 <<< 3 ≠ 0) ∧ (staging = true ↔ mask &&& 1 <<< 4 ≠ 0) ∧
          (swapchain = true ↔ mask &&& 1 <<< 5 ≠ 0) := by
  decide

/-- The bytes of a session event are read as that event; an end carries neither target nor
budgets. -/
theorem readSessionEvent_read {action id : String} {frameUs : Option ℕ}
    {ram vram shared staging swapchain : Option ℕ}
    (haction : action ∈ lifecycleOpcodes.map Prod.fst)
    (hid : TextFits 2 256 (decide (action = "end")) id) (hframe : ∀ n ∈ frameUs, n < 256 ^ 4)
    (hsizes : ∀ x ∈ [ram, vram, shared, staging, swapchain], ∀ n ∈ x, n < 256 ^ 8)
    (hend : ¬ (action = "end" ∧ PyDict.sessionPresence frameUs.isSome
      ([ram, vram, shared, staging, swapchain].map Option.isSome) ≠ 0)) :
    readSessionEvent (integerBytes 1 (opcodeOf lifecycleOpcodes action) ++
      (integerBytes 1 (PyDict.sessionPresence frameUs.isSome
        ([ram, vram, shared, staging, swapchain].map Option.isSome)) ++
        (textBytes 2 id ++ (optionalBytes (integerBytes 4) frameUs ++
          (([ram, vram, shared, staging, swapchain].map
            (optionalBytes (integerBytes 8))).flatten ++ []))))) =
      .ok (.session action id frameUs [("ram", ram), ("vram", vram), ("shared", shared),
        ("staging", staging), ("swapchain", swapchain)], []) := by
  obtain ⟨hmask, htargetBit, hram, hvram, hshared, hstaging, hswapchain⟩ := session_bits
    frameUs.isSome ram.isSome vram.isSome shared.isSome staging.isSome swapchain.isSome
  simp only [List.map_cons, List.map_nil] at hend ⊢
  generalize PyDict.sessionPresence frameUs.isSome
    [ram.isSome, vram.isSome, shared.isSome, staging.isSome, swapchain.isSome] = mask at *
  simp only [List.forall_mem_cons] at hsizes
  obtain ⟨hramLt, hvramLt, hsharedLt, hstagingLt, hswapchainLt, -⟩ := hsizes
  refine (enum_exact lifecycleOpcodes_table _).andThen haction ?_
  refine (presence_exact 0x3F "session").andThen hmask ?_
  refine Exact.passed hend ?_
  refine (text_exact 2 256 _).andThen hid ?_
  refine (optional_exact (integer_exact 4) mask 1).andThen ⟨htargetBit, hframe⟩ ?_
  have hbudgets : List.Forall₂ (fun (item : String × ℕ) (budget : String × Option ℕ) =>
      budget.1 = item.1 ∧ (budget.2.isSome = true ↔ mask &&& (1 <<< item.2) ≠ 0) ∧
        ∀ n ∈ budget.2, n < 256 ^ 8) budgetBits [("ram", ram), ("vram", vram), ("shared", shared),
          ("staging", staging), ("swapchain", swapchain)] :=
    .cons ⟨rfl, hram, hramLt⟩ (.cons ⟨rfl, hvram, hvramLt⟩ (.cons ⟨rfl, hshared, hsharedLt⟩
      (.cons ⟨rfl, hstaging, hstagingLt⟩ (.cons ⟨rfl, hswapchain, hswapchainLt⟩ .nil))))
  exact (Exact.each (budgetField_exact mask) budgetBits).andThen hbudgets rfl

/-- What is written for a session event is read as the event that the dictionary tells. The
mask is made from the same fields that are written, so the reader finds each where it looks. -/
theorem encodeSession_decoded (h : d.encodeSession py = .ok data) :
    Decoded py d .session data := by
  unfold PyDict.encodeSession PyWriter.u8 at h
  simp only [bound_iff, guarded_iff, PyValue.enumValue_iff py lifecycleOpcodes_table,
    PyWriter.integer_iff, PyWriter.text16_iff, PyWriter.finish_iff] at h
  obtain ⟨_, ⟨action, haction, rfl⟩, budgets, hbudgets, amounts, hamounts, hend, _, ⟨-, rfl⟩, _,
    ⟨-, rfl⟩, _, ⟨id, hid, hidFits, rfl⟩, _, htarget, _, hsizes, -, rfl⟩ := h
  obtain ⟨frameUs, hmeasures, hframeUs, rfl⟩ := PyWriter.target_ok py htarget
  obtain ⟨hlt, rfl⟩ := writeAmounts_ok hsizes
  have hall := mapM_ok hamounts
  cases hall with
  | @cons _ ram _ _ hram hall =>
  cases hall with
  | @cons _ vram _ _ hvram hall =>
  cases hall with
  | @cons _ shared _ _ hshared hall =>
  cases hall with
  | @cons _ staging _ _ hstaging hall =>
  cases hall with
  | @cons _ swapchain _ _ hswapchain hall =>
  cases hall
  have hsome := hmeasures.isSome
  rw [hsome, ← lifecycle_end haction.mem] at hend
  rw [← decide_eq_decide.mpr (lifecycle_end haction.mem)] at hidFits
  refine ⟨.session action id frameUs [("ram", ram), ("vram", vram), ("shared", shared),
    ("staging", staging), ("swapchain", swapchain)],
    .session haction hid hbudgets hmeasures ?_, ?_⟩
  · exact .cons ⟨rfl, PyDict.memoryAmount_ok py hram⟩ (.cons ⟨rfl, PyDict.memoryAmount_ok py hvram⟩
      (.cons ⟨rfl, PyDict.memoryAmount_ok py hshared⟩
        (.cons ⟨rfl, PyDict.memoryAmount_ok py hstaging⟩
          (.cons ⟨rfl, PyDict.memoryAmount_ok py hswapchain⟩ .nil))))
  · have hread := readSessionEvent_read haction.mem hidFits hframeUs hlt hend
    rw [hsome]
    simp only [List.append_assoc]
    rwa [List.append_nil] at hread

/-- **What is encoded is decoded to the event that the dictionary tells of.** -/
theorem encodeEvent_decoded {event : EventType} {payload : PyValue}
    (h : payload.encodeEvent py event = .ok data) : ∃ (d : PyDict) (wire : WireEvent),
      payload = .dict d ∧ d.Tells py event wire ∧ decodeRuntimeEventPayload event data =
        .ok (wire.fields ++ [("event", .text (eventName event))]) := by
  cases payload with
  | dict d =>
      have hdecoded : Decoded py d event data := by
        cases event with
        | session => exact encodeSession_decoded h
        | frame => exact encodeFrame_decoded h
        | resource => exact encodeResource_decoded h
        | operation => exact encodeOperation_decoded h
        | state => exact encodeState_decoded h
      obtain ⟨wire, htells, hread⟩ := hdecoded
      refine ⟨d, wire, rfl, htells, ?_⟩
      unfold decodeRuntimeEventPayload
      rw [run_eq_ok_iff.mpr hread]
      rfl
  | _ => cases h

end

/-! ### A microsecond -/

/-- An interpreter that knows ASCII. -/
def Interpreter.plain : Interpreter where
  casing := .plain
  digitOf _ := none
  readsInt _ := false

/-- A frame with a budget of one microsecond. -/
def microsecondFrame : PyValue :=
  .dict [("frame", .int 1), ("target_frame_us", .int 1)]

/-- The frame of one microsecond is written in 14 bytes. -/
theorem microsecondFrame_encoded : microsecondFrame.encodeEvent .plain .frame =
    .ok [1, 1, 1, 0, 0, 0, 0, 0, 0, 0, 1, 0, 0, 0] := by
  rfl

/-- These bytes are decoded as a frame event that the dictionary tells. -/
theorem encodeEvent_decoded_microsecond : ∃ (d : PyDict) (wire : WireEvent),
    microsecondFrame = .dict d ∧ d.Tells .plain .frame wire ∧
      decodeRuntimeEventPayload .frame [1, 1, 1, 0, 0, 0, 0, 0, 0, 0, 1, 0, 0, 0] =
        .ok (wire.fields ++ [("event", .text (eventName .frame))]) :=
  encodeEvent_decoded microsecondFrame_encoded

/-- A thousandth is no double, so that the decoded value in milliseconds is not the exact
quotient. -/
theorem trueDivide_microsecond : trueDivide 1 1000 ≠ 1 / 1000 := by
  intro h
  have hlow : -10 ≤ Int.log 2 (((1 : ℕ) : ℚ) / (1000 : ℕ)) := by
    rw [← Int.zpow_le_iff_le_log (by decide) (by norm_num)]
    norm_num
  have hhigh : Int.log 2 (((1 : ℕ) : ℚ) / (1000 : ℕ)) < -9 := by
    rw [← Int.lt_zpow_iff_log_lt (by decide) (by norm_num)]
    norm_num
  have hunit : Rounding.unit 2 53 (((1 : ℕ) : ℚ) / (1000 : ℕ)) = 2 ^ (-9 - 53 : ℤ) := by
    unfold Rounding.unit
    congr 1
    omega
  unfold trueDivide toDouble Rounding.toDigits at h
  rw [hunit] at h
  generalize Rounding.halfEven (((1 : ℕ) : ℚ) / (1000 : ℕ) / 2 ^ (-9 - 53 : ℤ)) = m at h
  -- a double in this range is a multiple of 2 ^ -62
  have hwhole : (m : ℚ) * 1000 = 2 ^ 62 := by
    norm_num at h
    linarith
  have hint : m * 1000 = 2 ^ 62 := by exact_mod_cast hwhole
  omega

/-- The time that is decoded is not the one that was encoded. -/
theorem microsecond_not_exact : ∃ (data : Bytes) (fields : Payload) (x : ℚ),
    microsecondFrame.encodeEvent .plain .frame = .ok data ∧
      decodeRuntimeEventPayload .frame data = .ok fields ∧
        Adapter.get fields "target_frame_ms" = .float (.finite x) ∧ x ≠ 1 / 1000 :=
  ⟨_, _, _, microsecondFrame_encoded, rfl, rfl, trueDivide_microsecond⟩

end FluidGateway.FluidLink
