import FluidGateway.DecisionCodecs

/-!
# The codecs of operations

How the fields of an operation are written from a dictionary, in an operation
event and in a batch of operations of `fluidgateway/fluidlink_v2.py`: what is
written is the operation that the dictionary describes (`operationFields_iff`).
-/

namespace FluidGateway.FluidLink

open Reading PayloadReader
open FluidGateway.Adapter (Json Payload)
open PyWriter (ofText)
open Native (Bytes)

/-! ## Optional values -/

namespace PyValue

/-- A value that is there, or `None`. -/
def ofOption {α : Type} (value : α → PyValue) (x : Option α) : PyValue :=
  (x.map value).getD .none

/-- An optional text is read back from the value it is written as. -/
theorem optionalText_ofOption (x : Option String) :
    optionalText (ofOption ofText x) = .ok (x.map ofText) := by
  cases x <;> rfl

/-- A value that reads as an optional text is that text or `None`; nothing else reads so. -/
theorem eq_ofOption {value : PyValue} {x : Option PyValue} (h : optionalText value = .ok x) :
    value = ofOption id x := by
  rcases optionalText_iff.mp h with ⟨rfl, rfl⟩ | ⟨t, rfl, rfl⟩
  · rfl
  · rfl

/-- Wrapping the text before or after the option is the same. -/
theorem ofOption_map (x : Option String) : ofOption id (x.map ofText) = ofOption ofText x := by
  cases x <;> rfl

/-- The value of a frame that may be absent. -/
def FrameMeans (value : PyValue) (frame : Option ℕ) : Prop :=
  match frame with
  | some n => value.IsUnsigned maximumU64 n
  | .none => value = .none

/-- A value that means a frame is `None` exactly where there is no frame, which decides the
bit of the mask. -/
theorem FrameMeans.isNone {value : PyValue} {frame : Option ℕ} (h : value.FrameMeans frame) :
    value.isNone = frame.isNone := by
  cases frame with
  | none =>
      obtain rfl : value = .none := h
      rfl
  | some n =>
      have hunsigned : value.IsUnsigned maximumU64 n := h
      cases value with
      | none => cases hunsigned.1
      | _ => rfl

end PyValue

/-- A text that is written when it is there. -/
theorem PyWriter.optional_text_iff {maximumBytes : ℕ} {x : Option PyValue} {data : Bytes} :
    PyWriter.optional (fun value => PyWriter.text16 value maximumBytes) x = .ok data ↔
      ∃ s : Option String, x = s.map ofText ∧ (∀ text ∈ s, TextFits 2 maximumBytes false text) ∧
        data = optionalBytes (textBytes 2) s := by
  cases x with
  | none =>
      constructor
      · intro h
        cases h
        exact ⟨none, rfl, by simp, rfl⟩
      · rintro ⟨s, hs, -, rfl⟩
        rw [Option.map_eq_none_iff.mp hs.symm]
        rfl
  | some value =>
      unfold PyWriter.optional
      rw [PyWriter.text16_iff]
      constructor
      · rintro ⟨s, rfl, hs, rfl⟩
        refine ⟨some s, rfl, ?_, rfl⟩
        rintro text h
        cases h
        exact hs
      · rintro ⟨s, hs, hfits, rfl⟩
        obtain ⟨text, rfl, htext⟩ := Option.map_eq_some_iff.mp hs.symm
        exact ⟨text, htext.symm, hfits text rfl, rfl⟩

section

variable (py : Interpreter)

/-- The frame of an operation, when it has one. -/
def PyWriter.frame (value : PyValue) : Except PyException Bytes :=
  if value.isNone then .ok []
  else do
    let n ← value.unsigned py maximumU64 "frame"
    PyWriter.u64 n

/-- A frame is written exactly where the value means a frame that fits eight bytes, or none. -/
theorem PyWriter.frame_iff {value : PyValue} {data : Bytes} :
    PyWriter.frame py value = .ok data ↔ ∃ frame : Option ℕ, value.FrameMeans frame ∧
      (∀ n ∈ frame, n < 256 ^ 8) ∧ data = optionalBytes (integerBytes 8) frame := by
  unfold PyWriter.frame PyWriter.u64
  by_cases hnone : value.isNone = true
  · rw [if_pos hnone]
    constructor
    · intro h
      cases h
      exact ⟨none, PyValue.isNone_iff.mp hnone, by simp, rfl⟩
    · rintro ⟨frame, hframe, -, rfl⟩
      rw [hframe.isNone, Option.isNone_iff_eq_none] at hnone
      rw [hnone]
      rfl
  · rw [if_neg hnone]
    simp only [bound_iff, PyValue.unsigned_iff, PyWriter.integer_iff]
    constructor
    · rintro ⟨n, hn, hlt, rfl⟩
      refine ⟨some n, hn, ?_, rfl⟩
      rintro m h
      cases h
      exact hlt
    · rintro ⟨frame, hframe, hlt, rfl⟩
      cases frame with
      | none => exact absurd (PyValue.isNone_iff.mpr hframe) hnone
      | some n => exact ⟨n, hframe, hlt n rfl, rfl⟩

/-! ## The fields of an operation -/

/-- The optional values of an operation. -/
structure OperationParts where
  source : Option PyValue
  target : Option PyValue
  reason : Option PyValue
  frame : PyValue

/-- The bits of the mask, one for each field that may be absent. -/
def OperationParts.presence (parts : OperationParts) : ℕ :=
  (if parts.source.isSome then 1 else 0) ||| (if parts.target.isSome then 2 else 0) |||
    (if parts.reason.isSome then 4 else 0) ||| (if !parts.frame.isNone then 8 else 0)

namespace PyDict

/-- The optional fields are read before anything is written, in this order. -/
def operationParts (d : PyDict) : Except PyException OperationParts := do
  let source ← (d.get "source").optionalText
  let target ← (d.get "target").optionalText
  let reason ← (d.get "reason").optionalText
  return { source, target, reason, frame := d.get "frame" }

/-- The type, the queue and the presence mask. -/
def operationHead (d : PyDict) (parts : OperationParts) : Except PyException Bytes := do
  let typeOpcode ← PyValue.enumValue py (d.first ["operation_type", "op", "kind"]) operationTypes
    "operation type"
  let operationType ← PyWriter.u8 typeOpcode
  let queueOpcode ← PyValue.enumValue py (d.orDefault "queue" (ofText "unknown")) queues "queue"
  let queue ← PyWriter.u8 queueOpcode
  let presence ← PyWriter.u8 parts.presence
  return operationType ++ queue ++ presence

/-- The fields behind the id. -/
def operationBody (d : PyDict) (parts : OperationParts) : Except PyException Bytes := do
  let source ← PyWriter.optional (fun value => PyWriter.text16 value 256) parts.source
  let target ← PyWriter.optional (fun value => PyWriter.text16 value 256) parts.target
  let reason ← PyWriter.optional (fun value => PyWriter.text16 value 512) parts.reason
  let costUs ← timeValue py d "cost_us" "cost_ms" 0xFFFFFFFF
  let cost ← PyWriter.u32 costUs
  let sizeBytes ← memoryValue py d "size_bytes" "size_mb"
  let size ← PyWriter.u64 sizeBytes
  let frame ← PyWriter.frame py parts.frame
  return source ++ target ++ reason ++ cost ++ size ++ frame

/-- The identifiers under a key. -/
def textList (d : PyDict) (key name : String) : Except PyException (List PyValue) :=
  FluidLink.textList (d.orDefault key (.list [])) 32 name

/-- The dictionary describes an operation. -/
structure Describes (d : PyDict) (o : WireOperation) : Prop where
  type : (d.first ["operation_type", "op", "kind"]).Names py operationTypes o.operationType
  queue : (d.orDefault "queue" (ofText "unknown")).Names py queues o.queue
  source : d.get "source" = PyValue.ofOption ofText o.source
  target : d.get "target" = PyValue.ofOption ofText o.target
  reason : d.get "reason" = PyValue.ofOption ofText o.reason
  cost : timeValue py d "cost_us" "cost_ms" 0xFFFFFFFF = .ok o.costUs
  size : memoryValue py d "size_bytes" "size_mb" = .ok o.sizeBytes
  frame : (d.get "frame").FrameMeans o.frame
  dependsOn : d.orDefault "depends_on" (.list []) = ofTexts o.dependsOn

end PyDict

/-- Identifiers behind their number. -/
def PyWriter.counted (items : List PyValue) : Except PyException Bytes := do
  let count ← PyWriter.u8 items.length
  let rest ← PyWriter.identifiers items
  return count ++ rest

/-- A list of dependencies is written after its count; the identifiers are known to be valid
by then. -/
theorem PyWriter.counted_iff {texts : List String} (h : ∀ text ∈ texts, Identifier text)
    (hcount : texts.length ≤ 32) {data : Bytes} :
    PyWriter.counted (texts.map ofText) = .ok data ↔ data = identifiersBytes texts := by
  unfold PyWriter.counted PyWriter.u8
  simp only [bound_iff, PyWriter.integer_iff, PyWriter.identifiers_iff, List.length_map]
  constructor
  · rintro ⟨_, ⟨-, rfl⟩, _, ⟨others, hothers, -, rfl⟩, h⟩
    cases h
    have hinjective : Function.Injective ofText := by
      intro a b hab
      unfold ofText at hab
      rw [PyValue.text.injEq] at hab
      exact PyText.ofString_injective hab
    rw [List.map_injective_iff.mpr hinjective hothers]
    rfl
  · rintro rfl
    exact ⟨_, ⟨by omega, rfl⟩, _, ⟨texts, rfl, h, rfl⟩, rfl⟩

/-- The parts of an operation that a dictionary describes. -/
def WireOperation.parts (o : WireOperation) (frame : PyValue) : OperationParts where
  source := o.source.map ofText
  target := o.target.map ofText
  reason := o.reason.map ofText
  frame := frame

/-- The mask of the fields that are written is the mask of the operation. -/
theorem WireOperation.parts_presence {o : WireOperation} {frame : PyValue}
    (h : frame.FrameMeans o.frame) : (o.parts frame).presence = o.presence := by
  unfold parts OperationParts.presence presence
  simp only [Option.isSome_map, h.isNone, Option.not_isNone]

/-- The code of every operation type fits one byte. -/
theorem operationTypes_lt {name : String} (h : name ∈ operationTypes.map Prod.fst) :
    opcodeOf operationTypes name < 256 ^ 1 := by
  have hall : ∀ name ∈ operationTypes.map Prod.fst, opcodeOf operationTypes name < 256 ^ 1 := by
    decide
  exact hall name h

/-- The code of every queue fits one byte. -/
theorem queues_lt {name : String} (h : name ∈ queues.map Prod.fst) :
    opcodeOf queues name < 256 ^ 1 := by
  have hall : ∀ name ∈ queues.map Prod.fst, opcodeOf queues name < 256 ^ 1 := by
    decide
  exact hall name h

/-- A dictionary that says the optional fields of an operation is read as having these
fields. -/
theorem PyDict.operationParts_ok {d : PyDict} {o : WireOperation}
    (hsource : d.get "source" = PyValue.ofOption ofText o.source)
    (htarget : d.get "target" = PyValue.ofOption ofText o.target)
    (hreason : d.get "reason" = PyValue.ofOption ofText o.reason) :
    d.operationParts = .ok (o.parts (d.get "frame")) := by
  unfold operationParts
  rw [hsource, htarget, hreason, PyValue.optionalText_ofOption, PyValue.optionalText_ofOption,
    PyValue.optionalText_ofOption]
  rfl

/-- **The fields that are written are those of an operation that the dictionary
describes.** -/
theorem operationFields_iff {d : PyDict} {head body rest : Bytes} :
    (∃ (parts : OperationParts) (dependencies : List PyValue), d.operationParts = .ok parts ∧
      d.textList "depends_on" "dependencies" = .ok dependencies ∧
        d.operationHead py parts = .ok head ∧ d.operationBody py parts = .ok body ∧
          PyWriter.counted dependencies = .ok rest) ↔
      ∃ o : WireOperation, o.Valid ∧ d.Describes py o ∧ head = headBytes o.head ∧ body = o.body ∧
        rest = identifiersBytes o.dependsOn := by
  unfold PyDict.textList PyDict.operationHead PyDict.operationBody PyWriter.u8 PyWriter.u32
    PyWriter.u64
  simp only [bound_iff, textList_iff, PyValue.enumValue_iff py operationTypes_table,
    PyValue.enumValue_iff py queues_table, PyWriter.integer_iff, PyWriter.optional_text_iff,
    PyWriter.frame_iff]
  constructor
  · rintro ⟨parts, dependencies, hparts, ⟨dependsOn, hdependsOn, hcount, hidentifiers, rfl⟩, hhead,
      hbody, hrest⟩
    obtain ⟨_, ⟨type, htype, rfl⟩, _, ⟨-, rfl⟩, _, ⟨queue, hqueue, rfl⟩, _, ⟨-, rfl⟩, _,
      ⟨-, rfl⟩, hhead⟩ := hhead
    cases hhead
    obtain ⟨_, ⟨source, hsource, hsourceFits, rfl⟩, _, ⟨target, htarget, htargetFits, rfl⟩, _,
      ⟨reason, hreason, hreasonFits, rfl⟩, costUs, hcost, _, ⟨hcostLt, rfl⟩, sizeBytes, hsize, _,
      ⟨hsizeLt, rfl⟩, _, ⟨frame, hframe, hframeLt, rfl⟩, hbody⟩ := hbody
    cases hbody
    obtain ⟨_, hsourceText, hparts⟩ := bound_iff.mp hparts
    obtain ⟨_, htargetText, hparts⟩ := bound_iff.mp hparts
    obtain ⟨_, hreasonText, hparts⟩ := bound_iff.mp hparts
    cases hparts
    dsimp only at hsource htarget hreason hframe
    subst hsource htarget hreason
    rw [PyWriter.counted_iff hidentifiers hcount] at hrest
    subst hrest
    refine ⟨⟨type, queue, source, target, reason, costUs, sizeBytes, frame, dependsOn⟩, ?_, ?_, ?_,
      rfl, rfl⟩
    · obtain ⟨_, -, -, htype⟩ := htype
      obtain ⟨_, -, -, hqueue⟩ := hqueue
      exact ⟨⟨hsourceFits, htargetFits, hreasonFits, hcostLt, hsizeLt, hframeLt, hcount,
        hidentifiers⟩, htype, hqueue⟩
    · have hoption : ∀ {value : PyValue} {x : Option String},
          value.optionalText = .ok (x.map ofText) → value = PyValue.ofOption ofText x :=
        fun h => (PyValue.eq_ofOption h).trans (PyValue.ofOption_map _)
      exact ⟨htype, hqueue, hoption hsourceText, hoption htargetText, hoption hreasonText, hcost,
        hsize, hframe, hdependsOn⟩
    · have hpresence := WireOperation.parts_presence
        (o := ⟨type, queue, source, target, reason, costUs, sizeBytes, frame, dependsOn⟩) hframe
      unfold WireOperation.parts at hpresence
      rw [hpresence]
      rfl
  · rintro ⟨o, hvalid, hdescribes, rfl, rfl, rfl⟩
    have hpresence := WireOperation.parts_presence hdescribes.frame
    have hlt : o.presence < 256 ^ 1 := o.presence_lt.trans (by decide)
    refine ⟨o.parts (d.get "frame"), o.dependsOn.map ofText,
      PyDict.operationParts_ok hdescribes.source hdescribes.target hdescribes.reason,
      ⟨o.dependsOn, hdescribes.dependsOn, hvalid.count, hvalid.dependsOn, rfl⟩, ?_, ?_,
      (PyWriter.counted_iff hvalid.dependsOn hvalid.count).mpr rfl⟩
    · rw [hpresence]
      exact ⟨_, ⟨_, hdescribes.type, rfl⟩, _, ⟨operationTypes_lt hvalid.type, rfl⟩, _,
        ⟨_, hdescribes.queue, rfl⟩, _, ⟨queues_lt hvalid.queue, rfl⟩, _, ⟨hlt, rfl⟩, rfl⟩
    · exact ⟨_, ⟨o.source, rfl, hvalid.source, rfl⟩, _, ⟨o.target, rfl, hvalid.target, rfl⟩, _,
        ⟨o.reason, rfl, hvalid.reason, rfl⟩, _, hdescribes.cost, _, ⟨hvalid.cost, rfl⟩, _,
        hdescribes.size, _, ⟨hvalid.size, rfl⟩, _, ⟨o.frame, hdescribes.frame, hvalid.frame, rfl⟩,
        rfl⟩

/-! ## Batches -/

/-- `encode_operation_batch_event_payload`, of a dictionary. -/
def PyDict.encodeBatch (d : PyDict) : Except PyException Bytes := do
  let batchId ← batchIdBytes (d.get "batch_id")
  let operationCount ← batchCount (d.get "operation_count")
  let parts ← d.operationParts
  let dependencies ← d.textList "depends_on" "dependencies"
  let identity ← PyWriter.raw (.bytes batchId) 16
  let count ← PyWriter.u16 operationCount
  let head ← d.operationHead py parts
  let body ← d.operationBody py parts
  let rest ← PyWriter.counted dependencies
  PyWriter.finish (identity ++ count ++ head ++ body ++ rest)

/-- `encode_operation_batch_event_payload`, of any value. -/
def PyValue.encodeBatch (payload : PyValue) : Except PyException Bytes :=
  match payload with
  | .dict d => PyDict.encodeBatch py d
  | _ => refusal "FluidLink v2 operation batch must be an object."

end

/-! ### The format -/

/-- Identifiers of at most 256 bytes take at most 258 bytes each. -/
theorem textBytes_flatten_le {items : List String} (h : ∀ item ∈ items, Identifier item) :
    (items.map (textBytes 2)).flatten.length ≤ 258 * items.length := by
  induction items with
  | nil => exact Nat.zero_le _
  | cons item items ih =>
      rw [List.forall_mem_cons] at h
      have hitem := textBytes_length_le h.1
      have hitems := ih h.2
      rw [List.map_cons, List.flatten_cons, List.length_append, List.length_cons]
      omega

/-- A field that may be absent takes no more bytes than the field. -/
theorem optionalBytes_length_le {α : Type} {write : α → Bytes} {x : Option α} {n : ℕ}
    (h : ∀ a ∈ x, (write a).length ≤ n) : (optionalBytes write x).length ≤ n := by
  cases x with
  | none => exact Nat.zero_le _
  | some a => exact h a rfl

/-- An operation fits into a payload, with its id or the identity of its batch
before it. -/
theorem WireOperation.Fields.length_le {o : WireOperation} (h : o.Fields) :
    (o.body ++ identifiersBytes o.dependsOn).length ≤ 10000 := by
  have htext : ∀ {maximumBytes : ℕ} {x : Option String},
      (∀ text ∈ x, TextFits 2 maximumBytes false text) →
        (optionalBytes (textBytes 2) x).length ≤ 2 + maximumBytes :=
    fun hx => optionalBytes_length_le fun text ht => textBytes_length_le (hx text ht)
  have hsource := htext h.source
  have htarget := htext h.target
  have hreason := htext h.reason
  have hframe : (optionalBytes (integerBytes 8) o.frame).length ≤ 8 :=
    optionalBytes_length_le fun n _ => (integerBytes_length 8 n).le
  have hdependsOn := textBytes_flatten_le h.dependsOn
  have hcount := h.count
  simp only [body, identifiersBytes, List.length_append, integerBytes_length]
  omega

namespace WireBatch

/-- The batches that are on the wire. -/
structure Valid (batch : WireBatch) : Prop where
  batchId : BatchId batch.batchId
  count : 1 ≤ batch.operationCount ∧ batch.operationCount ≤ 256
  operation : batch.operation.Valid

/-- The identity, the count, then the fields of the operation and its dependencies. -/
def bytes (batch : WireBatch) : Bytes :=
  batch.batchId ++ integerBytes 2 batch.operationCount ++ headBytes batch.operation.head ++
    batch.operation.body ++ identifiersBytes batch.operation.dependsOn

/-- A valid batch stays below the limit of a payload, whatever its texts. -/
theorem Valid.length_le {batch : WireBatch} (h : batch.Valid) :
    batch.bytes.length ≤ Native.maxPayload := by
  have hid := h.batchId.1
  have hfields := h.operation.toFields.length_le
  simp only [bytes, headBytes, List.length_append, integerBytes_length, Native.maxPayload]
    at hfields ⊢
  omega

end WireBatch

/-- Reading a batch accepts the bytes of the valid batches and no others, field by field. -/
theorem readBatch_exact : Exact readBatch WireBatch.Valid WireBatch.bytes := by
  refine (Exact.bind WireBatch.batchId (take_exact 16) (fun _ _ => Exact.guard fun _ =>
    Exact.bind WireBatch.operationCount (integer_exact 2) (fun _ _ => Exact.guard fun _ =>
    Exact.bind (fun batch : WireBatch => batch.operation.head)
      (operationHead_exact "operation batch") (fun _ hhead =>
    Exact.bind WireBatch.operation (operationTail_exact hhead.2.2) (fun _ _ => Exact.pure _)
    ?_) ?_) ?_) ?_).congr (fun batch => ?_) fun batch _ => ?_
  · exact fun _ _ _ h => congrArg WireBatch.operation h
  · exact fun _ _ _ h => h.1.1
  · exact fun _ _ _ h => congrArg WireBatch.operationCount h.2.2.2
  · exact fun _ _ _ h => congrArg WireBatch.batchId h.2.2.2.2.2
  · constructor
    · rintro ⟨hlength, hany, -, hcount, ⟨htype, hqueue, -⟩, ⟨-, hfields⟩, -⟩
      exact ⟨⟨hlength, hany⟩, hcount, hfields, htype, hqueue⟩
    · rintro ⟨⟨hlength, hany⟩, hcount, hfields, htype, hqueue⟩
      have hbits : ∀ n < 16, n &&& 240 = 0 := by
        decide
      have hlt := batch.operation.presence_lt
      exact ⟨hlength, hany, by omega, hcount, ⟨htype, hqueue, hlt.trans (by decide),
        hbits _ hlt⟩, ⟨rfl, hfields⟩, rfl⟩
  · simp only [WireBatch.bytes, id, List.append_assoc, List.append_nil]

/-! ### The dictionary -/

mutual

/-- The value that is read from JSON, or made of what is. -/
def PyValue.ofJson : Json → PyValue
  | .null => .none
  | .bool value => .bool value
  | .int value => .int value
  | .float value => .float value
  | .text value => ofText value
  | .list items => .list (PyValue.ofItems items)
  | .dict fields => .dict (PyValue.ofFields fields)

/-- The items of a list as values. -/
def PyValue.ofItems : List Json → List PyValue
  | [] => []
  | item :: items => PyValue.ofJson item :: PyValue.ofItems items

/-- The fields of an object as values under their keys. -/
def PyValue.ofFields : List (String × Json) → List (String × PyValue)
  | [] => []
  | (key, value) :: fields => (key, PyValue.ofJson value) :: PyValue.ofFields fields

end

/-- The items are converted one by one. -/
theorem PyValue.ofItems_eq (items : List Json) : ofItems items = items.map ofJson := by
  induction items with
  | nil => rfl
  | cons item items ih => rw [ofItems, ih, List.map_cons]

/-- A list of texts stays one. -/
theorem PyValue.ofJson_texts (items : List String) : ofJson (texts items) = ofTexts items := by
  rw [texts, ofJson, ofItems_eq, List.map_map, ofTexts]
  rfl

/-- A field is looked up before or after the conversion with the same result. -/
theorem PyValue.lookup_ofFields (payload : Payload) (key : String) :
    List.lookup key (ofFields payload) = (List.lookup key payload).map ofJson := by
  induction payload with
  | nil => rfl
  | cons item payload ih =>
      obtain ⟨name, value⟩ := item
      rw [ofFields, List.lookup_cons, List.lookup_cons, ih]
      cases key == name <;> rfl

/-- The dictionary that is returned for a batch. -/
def WireBatch.payload (batch : WireBatch) : Payload :=
  [("batch_id", .text (hexText batch.batchId)), ("operation_count", number batch.operationCount)] ++
    batch.operation.payload [] batch.operation.batchUnits

/-- The dictionary that the decoder returns for a batch. -/
def WireBatch.dict (batch : WireBatch) : PyDict :=
  PyValue.ofFields batch.payload

/-- `decode_operation_batch_event_payload`, with the dictionary that it returns. -/
def decodeBatchDict (payload : Bytes) : Except FluidLinkProtocolError PyDict :=
  (decodeOperationBatchEventPayload payload).map WireBatch.dict

/-- The lower case of a name of a table, without blanks. -/
theorem PyValue.names_keyword {py : Interpreter} {values : List (String × ℕ)} {name : String}
    (hname : name ∈ values.map Prod.fst) (hkeyword : Runtime.keyword name = true) :
    (ofText name).Names py values name :=
  ⟨name, rfl, Runtime.keyword_lower py.casing hkeyword, hname⟩

/-- The value under a key of the dictionary. -/
theorem WireBatch.lookup_dict (batch : WireBatch) (key : String) :
    List.lookup key batch.dict = (List.lookup key batch.payload).map PyValue.ofJson :=
  PyValue.lookup_ofFields _ _

/-- A field of that dictionary is the field of the batch's payload. -/
theorem WireBatch.get_dict (batch : WireBatch) (key : String) :
    batch.dict.get key = ((List.lookup key batch.payload).map PyValue.ofJson).getD .none := by
  rw [PyDict.get, lookup_dict]

/-- An optional text through the payload is the text or `None`. -/
theorem PyValue.ofOption_text (x : Option String) :
    ((x.map Json.text).map ofJson).getD .none = ofOption ofText x := by
  cases x <;> rfl

/-- **The dictionary of a batch describes its operation.** -/
theorem WireBatch.dict_describes {py : Interpreter} {batch : WireBatch} (h : batch.Valid) :
    batch.dict.Describes py batch.operation := by
  have hoperation := h.operation
  have hqueueKeyword : ∀ name ∈ queues.map Prod.fst, Runtime.keyword name = true := by
    decide
  have htype : batch.dict.get "operation_type" = ofText batch.operation.operationType := by
    simp [get_dict, payload, WireOperation.payload, List.lookup_cons, PyValue.ofJson]
  have hqueue : batch.dict.get "queue" = ofText batch.operation.queue := by
    simp [get_dict, payload, WireOperation.payload, List.lookup_cons, PyValue.ofJson]
  have hdependsOn : batch.dict.get "depends_on" = ofTexts batch.operation.dependsOn := by
    rw [← PyValue.ofJson_texts]
    simp [get_dict, payload, WireOperation.payload, WireOperation.batchUnits, List.lookup_append,
      List.lookup_cons, lookup_entry]
  constructor
  · unfold PyDict.first
    rw [htype]
    exact PyValue.names_keyword hoperation.type (WireOperation.Typed.keyword hoperation.type)
  · unfold PyDict.orDefault
    rw [hqueue]
    exact PyValue.names_keyword hoperation.queue (hqueueKeyword _ hoperation.queue)
  · rw [← PyValue.ofOption_text]
    simp [get_dict, payload, WireOperation.payload, WireOperation.batchUnits, List.lookup_append,
      List.lookup_cons, lookup_entry]
  · rw [← PyValue.ofOption_text]
    simp [get_dict, payload, WireOperation.payload, WireOperation.batchUnits, List.lookup_append,
      List.lookup_cons, lookup_entry]
  · rw [← PyValue.ofOption_text]
    simp [get_dict, payload, WireOperation.payload, WireOperation.batchUnits, List.lookup_append,
      List.lookup_cons, lookup_entry]
  · refine timeValue_int ?_ (Nat.lt_succ_iff.mp hoperation.cost) _
    simp [lookup_dict, payload, WireOperation.payload, WireOperation.batchUnits, List.lookup_append,
      List.lookup_cons, lookup_entry, number, PyValue.ofJson]
  · refine memoryValue_int ?_ (Nat.lt_succ_iff.mp hoperation.size) _
    simp [lookup_dict, payload, WireOperation.payload, WireOperation.batchUnits, List.lookup_append,
      List.lookup_cons, lookup_entry, number, PyValue.ofJson]
  · have hframe : batch.dict.get "frame" =
        ((batch.operation.frame.map number).map PyValue.ofJson).getD .none := by
      simp [get_dict, payload, WireOperation.payload, WireOperation.batchUnits, List.lookup_append,
        List.lookup_cons, lookup_entry]
    rw [hframe]
    cases hn : batch.operation.frame with
    | none => rfl
    | some n => exact ⟨rfl, Nat.lt_succ_iff.mp (hoperation.frame n hn)⟩
  · unfold PyDict.orDefault
    rw [hdependsOn]
    rfl

/-- The decoder returns exactly the dictionaries of valid batches, each from its own bytes. -/
theorem decodeBatchDict_iff {payload : Bytes} {d : PyDict} :
    decodeBatchDict payload = .ok d ↔ ∃ batch : WireBatch, batch.Valid ∧ d = batch.dict ∧
      payload = batch.bytes := by
  unfold decodeBatchDict decodeOperationBatchEventPayload
  constructor
  · intro h
    cases hread : readBatch.run payload with
    | error e =>
        rw [hread] at h
        cases h
    | ok batch =>
        rw [hread] at h
        cases h
        obtain ⟨hvalid, hpayload⟩ := (run_exact readBatch_exact).mp hread
        exact ⟨batch, hvalid, rfl, hpayload⟩
  · rintro ⟨batch, hvalid, rfl, hpayload⟩
    rw [(run_exact readBatch_exact).mpr ⟨hvalid, hpayload⟩]
    rfl

section

variable (py : Interpreter)

/-- The value is the dictionary of a batch. -/
def WireBatch.Means (value : PyValue) (batch : WireBatch) : Prop :=
  ∃ d : PyDict, value = .dict d ∧ batchIdBytes (d.get "batch_id") = .ok batch.batchId ∧
    d.get "operation_count" = .int batch.operationCount ∧ d.Describes py batch.operation

/-- The encoder succeeds exactly where the value means a valid batch, and then writes its
bytes. -/
theorem encodeBatch_iff {value : PyValue} {payload : Bytes} :
    value.encodeBatch py = .ok payload ↔ ∃ batch : WireBatch, batch.Valid ∧
      batch.Means py value ∧ payload = batch.bytes := by
  cases value with
  | dict d =>
      have hfields := @operationFields_iff py d
      unfold PyValue.encodeBatch PyDict.encodeBatch PyWriter.u16
      simp only [bound_iff, batchCount_iff, PyWriter.raw_iff, PyWriter.integer_iff,
        PyWriter.finish_iff]
      constructor
      · rintro ⟨batchId, hid, count, ⟨hcount, hrange⟩, parts, hparts, dependencies, hdependencies,
          _, ⟨hsame, -⟩, _, ⟨-, rfl⟩, head, hhead, body, hbody, rest, hrest, -, rfl⟩
        cases hsame
        obtain ⟨o, hvalid, hdescribes, rfl, rfl, rfl⟩ :=
          hfields.mp ⟨parts, dependencies, hparts, hdependencies, hhead, hbody, hrest⟩
        exact ⟨⟨batchId, count, o⟩, ⟨batchId_of_ok hid, hrange, hvalid⟩,
          ⟨d, rfl, hid, hcount, hdescribes⟩, rfl⟩
      · rintro ⟨batch, hvalid, ⟨_, hsame, hid, hcount, hdescribes⟩, rfl⟩
        cases hsame
        obtain ⟨parts, dependencies, hparts, hdependencies, hhead, hbody, hrest⟩ :=
          hfields.mpr ⟨batch.operation, hvalid.operation, hdescribes, rfl, rfl, rfl⟩
        have hrange := hvalid.count
        exact ⟨_, hid, _, ⟨hcount, hrange⟩, parts, hparts, dependencies, hdependencies, _,
          ⟨rfl, hvalid.batchId.1⟩, _, ⟨by omega, rfl⟩, _, hhead, _, hbody, _, hrest,
          hvalid.length_le, rfl⟩
  | _ =>
      refine iff_of_false (fun h => nomatch h) ?_
      rintro ⟨batch, -, ⟨d, h, -⟩, -⟩
      cases h

/-- The dictionary that the decoder returns means the batch it was read from. -/
theorem WireBatch.dict_means {batch : WireBatch} (h : batch.Valid) :
    batch.Means py (.dict batch.dict) := by
  refine ⟨batch.dict, rfl, ?_, ?_, dict_describes h⟩
  · have hid : batch.dict.get "batch_id" = ofText (hexText batch.batchId) := by
      simp [get_dict, payload, PyValue.ofJson]
    rw [hid]
    exact batchIdBytes_hexText h.batchId
  · simp [get_dict, payload, List.lookup_cons, number, PyValue.ofJson]

/-- The two codecs of a batch undo each other, for any reading of texts as numbers. -/
theorem batch_inverse : Inverse (PyValue.encodeBatch py) decodeBatchDict PyValue.dict :=
  Inverse.of_format (fun _ _ => decodeBatchDict_iff) (fun _ _ => encodeBatch_iff py)
    fun _ h => WireBatch.dict_means py h

/-- **The codecs of the control and decision payloads are inverse.** -/
theorem payload_codecs_inverse :
    Inverse encodeHelloPayload decodeHelloPayload FluidLinkV2Hello.arguments ∧
    Inverse (WelcomeArguments.encode py) decodeWelcomePayload FluidLinkV2Welcome.arguments ∧
    Inverse PyValue.encodeNonce decodeNoncePayload ofText ∧
    Inverse (PyDict.encodeDecision py) decodeDecisionDict id ∧
    Inverse (PyValue.encodeBatch py) decodeBatchDict PyValue.dict ∧
    Inverse (PyValue.encodeBatchDecision py) decodeBatchDecision PyValue.dict :=
  ⟨hello_inverse, welcome_inverse py, nonce_inverse, decision_inverse py, batch_inverse py,
    batchDecision_inverse⟩

end

end FluidGateway.FluidLink
