import FluidGateway.BackedSession

/-!
# Operations behind the reference server

An operation of the wire, read by the runtime, decided, and answered with a
decision payload.  What the runtime is given of an operation is
`WireOperation.operation`; what it saves of an eliminated one is the cost and
the size that it was given (`decideOperation_saved`).
-/

namespace FluidGateway

/-! ## Names that are their own lower case -/

namespace Runtime

/-- An ASCII text without upper case letters and without blanks around it. -/
def keyword (s : String) : Bool :=
  decide (strip s = s) && s.toList.all fun c => decide (c.val < 128) && decide (c.toLower = c)

/-- Characters that are their own lower case are lowered one by one to themselves. -/
theorem lower_blocks {cs : List Char} {parts : List (List Char)}
    (hparts : List.Forall₂ LowerOf cs parts)
    (hcs : cs.all (fun c => decide (c.val < 128) && decide (c.toLower = c)) = true) :
    parts.flatten = cs := by
  induction hparts with
  | nil => rfl
  | @cons c block cs parts hblock _ ih =>
      rw [List.all_cons, Bool.and_eq_true, Bool.and_eq_true, decide_eq_true_eq,
        decide_eq_true_eq] at hcs
      obtain ⟨⟨hascii, hlower⟩, hrest⟩ := hcs
      unfold LowerOf at hblock
      rw [if_pos hascii, hlower] at hblock
      rw [List.flatten_cons, hblock, ih hrest]
      rfl

/-- A word of the tables is not changed by trimming and lowering it, in any locale. -/
theorem keyword_lower (casing : Casing) {s : String} (h : keyword s = true) :
    casing.lower (strip s) = s := by
  unfold keyword at h
  rw [Bool.and_eq_true, decide_eq_true_eq] at h
  obtain ⟨parts, hflat, hparts⟩ := casing.blocks s
  rw [h.1]
  apply String.toList_injective
  rw [hflat]
  exact lower_blocks hparts h.2

/-- What is decided saves the cost and the size of the operation, or it is a
synchronization. -/
theorem decideOperation_saved {casing : Casing} {s : RuntimeOptimizationState}
    {operation : RuntimeOperation} {decision : RuntimeDecision}
    (h : decideOperation casing s operation = some decision) :
    operation.type = .sync ∨ decision.estimatedSavedMs = operation.costMs ∧
      decision.estimatedSavedMb = operation.sizeMb := by
  have htransfer : ∀ {source target : RuntimeResource},
      decideTransfer s operation source target = some decision →
        decision.estimatedSavedMs = operation.costMs ∧
          decision.estimatedSavedMb = operation.sizeMb := by
    intro source target h
    unfold decideTransfer at h
    split_ifs at h <;> cases h <;> exact ⟨rfl, rfl⟩
  unfold decideOperation at h
  split at h
  · split at h
    · exact .inr (htransfer h)
    · cases h
  · split at h
    · exact .inr (htransfer h)
    · cases h
  · next hsync => exact .inl hsync
  · unfold decideAllocate at h
    split_ifs at h
    cases h
    exact .inr ⟨rfl, rfl⟩
  · cases h

end Runtime

namespace Adapter

/-- Texts, whole numbers and floats are converted to themselves. -/
structure Builtins.Faithful (builtins : Builtins) : Prop where
  text : ∀ value, builtins.str (.text value) = value
  int : ∀ value, builtins.int (.int value) = some value
  float : ∀ value, builtins.float (.float value) = some value

end Adapter

namespace FluidLink

open FluidGateway.Adapter (Builtins Json Payload PyFloat get asStringList nonnegativeNumber
  normalizedChoice optionalField optionalInt readOperation)
open FluidGateway.Runtime (Casing OperationType RuntimeOperation keyword keyword_lower optionalText
  optionalText_idem orElse)
open Native (Bytes)

/-! ## What the runtime is given -/

/-- The type of an operation of the wire. -/
def WireOperation.type (o : WireOperation) : OperationType :=
  (Adapter.operationTypes.lookup o.operationType).getD .compute

/-- The operation that the runtime reads, within the frame that is open. -/
def WireOperation.operation (o : WireOperation) (id : String) (currentFrame : Option ℤ) :
    RuntimeOperation where
  id := strip id
  type := o.type
  source := optionalText o.source
  target := optionalText o.target
  queue := orElse o.queue "unknown"
  reason := o.reason.getD ""
  costMs := trueDivide o.costUs 1000
  sizeMb := trueDivide o.sizeBytes mebibyte
  frame := match o.frame with
    | some frame => some frame
    | none => currentFrame
  dependsOn := o.dependsOn

/-- A field of a dictionary that may be absent. -/
def field {α : Type} (json : α → Json) (value : Option α) : Json :=
  (value.map json).getD .null

/-- The dictionary holds the fields of the operation. -/
structure Holds (payload : Payload) (id : String) (o : WireOperation) : Prop where
  event : get payload "event" = .text "operation"
  id : get payload "id" = .text id
  operationType : get payload "operation_type" = .text o.operationType
  queue : get payload "queue" = .text o.queue
  source : get payload "source" = field .text o.source
  target : get payload "target" = field .text o.target
  reason : get payload "reason" = field .text o.reason
  cost : get payload "cost_ms" = milliseconds o.costUs
  size : get payload "size_mb" = megabytes o.sizeBytes
  frame : get payload "frame" = field number o.frame
  dependsOn : get payload "depends_on" = texts o.dependsOn

/-- An entry that may be absent is found under its own key, and only there. -/
theorem lookup_entry {α : Type} (key name : String) (json : α → Json) (value : Option α) :
    (entry key json value).lookup name = if name = key then value.map json else none := by
  cases value with
  | none => simp [entry]
  | some value =>
      by_cases h : name = key
      · simp [entry, h]
      · have hne : (name == key) = false := beq_eq_false_iff_ne.mpr h
        simp [entry, List.lookup_cons, h, hne]

/-- The dictionary of a single operation. -/
theorem holds_operation (id : String) (o : WireOperation) :
    Holds ((WireEvent.operation id o).fields ++ [("event", .text (eventName .operation))]) id o := by
  constructor <;>
    simp [Adapter.get, field, WireEvent.fields, WireOperation.payload, WireOperation.units, eventName,
      List.lookup_append, List.lookup_cons, lookup_entry]

/-- The dictionary of an item of a batch. -/
theorem holds_item (batch : WireBatch) (ordinal : ℕ) :
    Holds (batch.event ordinal) (batch.itemId ordinal) batch.operation := by
  constructor <;>
    simp [Adapter.get, field, WireBatch.event, WireOperation.payload, WireOperation.batchUnits,
      List.lookup_append, List.lookup_cons, lookup_entry]

/-! ### Reading it -/

section

variable {builtins : Builtins} (hbuiltins : builtins.Faithful)

include hbuiltins

/-- An optional text of the wire is read as it is, with blanks trimmed. -/
theorem optionalField_field (value : Option String) :
    optionalField builtins (field .text value) = optionalText value := by
  cases value with
  | none => rfl
  | some text => simp [optionalField, field, optionalText, hbuiltins.text]

/-- A text is read as itself, or as the default where it is empty. -/
theorem textOr_text (value default : String) :
    Adapter.textOr builtins (.text value) default = orElse value default := by
  unfold Adapter.textOr orElse Json.truthy
  by_cases h : value = "" <;> simp [h, hbuiltins.text]

/-- An absent text is read as the empty one. -/
theorem textOr_field (value : Option String) :
    Adapter.textOr builtins (field .text value) "" = value.getD "" := by
  cases value with
  | none => rfl
  | some text =>
      have hsame : orElse text "" = text := by
        unfold orElse
        split_ifs with h
        · exact h.symm
        · rfl
      exact (textOr_text hbuiltins text "").trans hsame

/-- A list of texts is read as it is. -/
theorem asStringList_texts (items : List String) :
    asStringList builtins (texts items) = .ok items := by
  cases items with
  | nil => rfl
  | cons item items =>
      simp [asStringList, texts, Json.either, Json.truthy, Function.comp_def, hbuiltins.text]

/-- A number that is not negative is accepted as it is. -/
theorem nonnegativeNumber_float {x : ℚ} (hx : 0 ≤ x) (name : String) :
    nonnegativeNumber builtins (.float (.finite x)) name = .ok x := by
  simp [nonnegativeNumber, hbuiltins.float, not_lt.mpr hx]

/-- An optional number of the wire is read as it is. -/
theorem optionalInt_field (value : Option ℕ) :
    optionalInt builtins (field number value) = .ok (value.map Int.ofNat) := by
  cases value with
  | none => rfl
  | some n => simp [optionalInt, field, number, Adapter.asInt, hbuiltins.int, Except.map]

end

/-- A word of the tables is looked up as it is written. -/
theorem normalizedChoice_keyword (casing : Casing) {name : String} (h : keyword name = true)
    (allowed : List (String × OperationType)) (default : OperationType) :
    normalizedChoice casing name allowed default = (allowed.lookup name).getD default := by
  unfold normalizedChoice
  rw [keyword_lower casing h]

/-- Dividing natural numbers gives nothing negative, also after rounding to a double. -/
theorem trueDivide_nonneg (m n : ℕ) : 0 ≤ trueDivide m n := by
  unfold trueDivide toDouble Rounding.toDigits
  have hpos := Rounding.unit_pos (b := 2) (by decide) 53 ((m : ℚ) / n)
  have hdigits : (0 : ℤ) ≤ Rounding.halfEven ((m : ℚ) / n / Rounding.unit 2 53 ((m : ℚ) / n)) := by
    apply Rounding.le_halfEven
    rw [Int.cast_zero]
    positivity
  exact mul_nonneg (Int.cast_nonneg hdigits) hpos.le

/-- Taking the same default twice is taking it once. -/
theorem orElse_orElse (text default : String) :
    orElse (orElse text default) default = orElse text default := by
  unfold orElse
  split_ifs <;> rfl

/-- The type of an operation of the wire is one of the known names. -/
def WireOperation.Typed (o : WireOperation) : Prop :=
  o.operationType ∈ operationTypes.map Prod.fst

/-- The types of operations are words that lowering leaves alone. -/
theorem WireOperation.Typed.keyword {o : WireOperation} (h : o.Typed) :
    keyword o.operationType = true := by
  have hall : ∀ name ∈ operationTypes.map Prod.fst, Runtime.keyword name = true := by
    decide
  exact hall _ h

/-- No type of operations is empty. -/
theorem WireOperation.Typed.ne {o : WireOperation} (h : o.Typed) : o.operationType ≠ "" := by
  intro hempty
  unfold WireOperation.Typed at h
  rw [hempty] at h
  revert h
  decide

/-- **The runtime reads the operation that is on the wire.** -/
theorem readOperation_eq (casing : Casing) {builtins : Builtins} (hbuiltins : builtins.Faithful)
    {payload : Payload} {id : String} {o : WireOperation} (h : Holds payload id o)
    (hid : strip id ≠ "") (htyped : o.Typed) (currentFrame : Option ℤ) :
    readOperation casing builtins payload currentFrame = .ok (o.operation id currentFrame) := by
  have hne : id ≠ "" := by
    rintro rfl
    exact hid rfl
  unfold readOperation
  rw [h.id, h.operationType, h.frame, h.dependsOn, h.cost, h.size, h.source, h.target, h.queue,
    h.reason]
  simp only [Json.either, Json.truthy, hne, htyped.ne, ne_eq, not_false_eq_true, decide_true,
    if_true, Bool.true_eq_false, if_false, asStringList_texts hbuiltins, hbuiltins.text,
    hid, milliseconds, megabytes, nonnegativeNumber_float hbuiltins (trueDivide_nonneg _ _),
    textOr_text hbuiltins, textOr_field hbuiltins, optionalField_field hbuiltins,
    optionalText_idem, orElse_orElse, normalizedChoice_keyword casing htyped.keyword]
  -- the open frame is looked at only when the operation has none of its own
  unfold WireOperation.operation
  cases o.frame with
  | none => cases currentFrame <;> rfl
  | some frame =>
      change (do let frame ← optionalInt builtins (field number (some frame)); _) = _
      rw [optionalInt_field hbuiltins]
      rfl

/-! ## What the runtime answers -/

/-- The runtime reads the type that the server wrote into the dictionary. -/
theorem eventType_eq (casing : Casing) {builtins : Builtins} (hbuiltins : builtins.Faithful)
    {payload : Payload} {type : Adapter.EventType}
    (h : get payload "event" = .text (eventName type)) :
    Adapter.eventType casing builtins payload = .ok type := by
  have hkeyword : keyword (eventName type) = true := by
    cases type <;> decide
  have hne : eventName type ≠ "" := by
    cases type <;> decide
  have htext : Adapter.textOr builtins (.text (eventName type)) "" = eventName type := by
    rw [textOr_text hbuiltins]
    exact if_neg hne
  have heither : (Json.text (eventName type)).either (get payload "type") =
      .text (eventName type) := by
    simp [Json.either, Json.truthy, hne]
  unfold Adapter.eventType
  rw [h, heither, htext, keyword_lower casing hkeyword]
  cases type <;> rfl

/-- An event names its type. -/
theorem get_event (wire : WireEvent) (name : String) :
    get (wire.fields ++ [("event", .text name)]) "event" = .text name := by
  cases wire with
  | session action id frameUs budgets =>
      unfold WireEvent.fields
      dsimp only
      split_ifs <;> simp [Adapter.get, List.lookup_cons]
  | _ =>
      simp [Adapter.get, WireEvent.fields, WireOperation.payload, WireOperation.units,
        List.lookup_append, List.lookup_cons, lookup_entry]

section

open FluidGateway.Adapter (RuntimeAdapterSession Raised Answer)

/-- What the handler returns for an operation, and the controller afterwards. -/
inductive Answered (casing : Casing) (s : RuntimeAdapterSession) (operation : RuntimeOperation) :
    Except PyException Payload × RuntimeAdapterSession → Prop
  | refused {message : String} {t : RuntimeAdapterSession}
      (refuses : s.controller.submitOperation casing operation = (.error message, s.controller))
      (controller : t.controller = s.controller) :
      Answered casing s operation (.error (.other message), t)
  | accepted {answer : Answer} {result : Runtime.ControllerResult}
      {c : Runtime.FluidGatewayController} {t : RuntimeAdapterSession}
      (accepts : s.controller.submitOperation casing operation = (.ok result, c))
      (result : answer.result = some result) (controller : t.controller = c) :
      Answered casing s operation (.ok answer.dict, t)

/-- **An operation of the wire is submitted to the controller as it was read.** -/
theorem handler_operation (casing : Casing) {builtins : Builtins} (hbuiltins : builtins.Faithful)
    (conversionText : String) {payload : Payload} {id : String} {o : WireOperation}
    (h : Holds payload id o) (hid : strip id ≠ "") (htyped : o.Typed)
    (s : RuntimeAdapterSession) :
    Answered casing s (o.operation id s.currentFrame)
      (RuntimeAdapterSession.handler casing builtins conversionText payload s) := by
  have hread := readOperation_eq casing hbuiltins h hid htyped s.currentFrame
  have hevent : get payload "event" = .text (eventName .operation) := h.event
  have hspec : RuntimeAdapterSession.Submitted casing
      { s with eventsProcessed := s.eventsProcessed + 1 } (o.operation id s.currentFrame)
      (RuntimeAdapterSession.processOperationEvent casing builtins
        { s with eventsProcessed := s.eventsProcessed + 1 } payload none) :=
    RuntimeAdapterSession.processOperationEvent_spec hread
  unfold RuntimeAdapterSession.handler RuntimeAdapterSession.processEvent
  dsimp only
  rw [eventType_eq casing hbuiltins hevent]
  unfold RuntimeAdapterSession.dispatch
  dsimp only
  generalize RuntimeAdapterSession.processOperationEvent casing builtins
    { s with eventsProcessed := s.eventsProcessed + 1 } payload none = out at hspec ⊢
  cases hspec with
  | refused refuses controller => exact .refused refuses controller
  | accepted accepts result controller => exact .accepted accepts result controller

end

/-! ## What is sent of the answer -/

/-- The opcode of the policy of an eliminated operation. -/
def policyOpcode : Runtime.Policy → ℕ
  | .eliminateSelfCopy => 1
  | .deduplicateIdenticalTransfer => 2
  | .collapseAliasedResourceCopy => 3
  | .removeOrphanSync => 4
  | .removeEmptySync => 5
  | .reuseTransientBuffer => 6

/-- Every policy has the opcode of its name. -/
theorem decisionOpcode_policy (policy : Runtime.Policy) :
    decisionOpcode (.text (Adapter.policyName policy)) = .ok (policyOpcode policy) := by
  cases policy <;> rfl

/-- A finite number that is not negative is a numeric value. -/
theorem numericValue_finite {x : ℚ} (hx : 0 ≤ x) (name : String) :
    numericValue (.float (.finite x)) name = .ok (.finite x) := by
  simp [numericValue, not_lt.mpr hx]

/-- An executed operation saves nothing. -/
theorem compact_executed {answer : Adapter.Answer} {operation : RuntimeOperation}
    (h : answer.result = some { operation, decision := none, executed := true }) :
    compactRuntimeResponse .operation answer.dict =
      .ok (0, { accepted := true, executed := some true }) := by
  unfold Adapter.Answer.dict
  rw [h]
  rfl

/-- An eliminated operation saves what its decision says. -/
theorem compact_eliminated {answer : Adapter.Answer} {operation : RuntimeOperation}
    {decision : Runtime.RuntimeDecision} (hms : 0 ≤ decision.estimatedSavedMs)
    (hmb : 0 ≤ decision.estimatedSavedMb)
    (h : answer.result = some { operation, decision := some decision, executed := false }) :
    compactRuntimeResponse .operation answer.dict =
      .ok (policyOpcode decision.policy,
        { accepted := true, executed := some false
          savedMs := .finite decision.estimatedSavedMs
          savedMb := .finite decision.estimatedSavedMb }) := by
  unfold Adapter.Answer.dict
  rw [h]
  change (do
    let opcode ← decisionOpcode (.text (Adapter.policyName decision.policy))
    let savedMs ← numericValue (.float (.finite decision.estimatedSavedMs)) "estimated_saved_ms"
    let savedMb ← numericValue (.float (.finite decision.estimatedSavedMb)) "estimated_saved_mb"
    return (opcode, (⟨true, some false, savedMs, savedMb⟩ : CompactResponse))) = _
  rw [decisionOpcode_policy, numericValue_finite hms, numericValue_finite hmb]
  rfl

/-! ## The decision payload -/

/-- The flags of a decision. -/
def CompactResponse.flags (compact : CompactResponse) : ℕ :=
  (if compact.accepted then 1 else 0) ||| (if compact.executed.isSome then 2 else 0) |||
    (if compact.executed = some true then 4 else 0)

/-- The flags of a response are three bits. -/
theorem CompactResponse.flags_lt (compact : CompactResponse) : compact.flags < 8 := by
  obtain ⟨accepted, executed, _, _⟩ := compact
  cases accepted <;> rcases executed with _ | _ | _ <;> simp [flags]

/-- The payload of a decision: its flags and the two savings. -/
def decisionBytes (flags savedUs savedBytes : ℕ) : Bytes :=
  LittleEndian.encode flags 1 ++ LittleEndian.encode savedUs 8 ++ LittleEndian.encode savedBytes 8

/-- A number that fits its width is written in little-endian order. -/
theorem integer_ok (kind : String) {width value : ℕ} (h : value < 256 ^ width) :
    PayloadWriter.integer kind width value = .ok (LittleEndian.encode value width) :=
  if_pos h

/-- Fields that were written are joined. -/
theorem finish_ok {fields : List Bytes} (h : fields.flatten.length ≤ Native.maxPayload) :
    PayloadWriter.finish (fields.map .ok) = .ok fields.flatten := by
  have hall : (fields.map (Except.ok (ε := FluidLinkProtocolError))).mapM id = .ok fields := by
    clear h
    induction fields with
    | nil => rfl
    | cons field fields ih =>
        rw [List.map_cons, List.mapM_cons, ih]
        rfl
  unfold PayloadWriter.finish
  rw [hall]
  exact if_neg (not_lt.mpr h)

/-- A decision whose savings are within the limits is written as its payload. -/
theorem encodeRuntimeDecisionPayload_eq {compact : CompactResponse} {savedUs savedBytes : ℕ}
    (hus : scaledDecimal compact.savedMs 1000 maximumU64 "milliseconds" = .ok savedUs)
    (hbytes : scaledDecimal compact.savedMb mebibyte maximumU64 "saved_mb" = .ok savedBytes)
    (hus64 : savedUs ≤ maximumU64) (hbytes64 : savedBytes ≤ maximumU64) :
    encodeRuntimeDecisionPayload compact =
      .ok (decisionBytes compact.flags savedUs savedBytes) := by
  have hflags : compact.flags < 256 ^ 1 := compact.flags_lt.trans (by decide)
  unfold maximumU64 at hus64 hbytes64
  unfold encodeRuntimeDecisionPayload
  rw [hus, hbytes]
  change (PayloadWriter.finish [PayloadWriter.integer "u8" 1 compact.flags,
    PayloadWriter.integer "u64" 8 savedUs,
    PayloadWriter.integer "u64" 8 savedBytes]).mapError _ = _
  rw [integer_ok _ hflags, integer_ok _ (by omega), integer_ok _ (by omega)]
  have hfinish := @finish_ok [LittleEndian.encode compact.flags 1,
    LittleEndian.encode savedUs 8, LittleEndian.encode savedBytes 8] (by simp [Native.maxPayload])
  rw [List.map_cons, List.map_cons, List.map_cons, List.map_nil] at hfinish
  rw [hfinish]
  simp [decisionBytes, Except.mapError]

/-- What a client reads from the payload of a decision, in both units. -/
structure DecodedDecision where
  accepted : Bool
  savedUs : ℕ
  savedBytes : ℕ
  savedMs : ℚ
  savedMb : ℚ
  executed : Option Bool
  deriving DecidableEq, Repr

/-- The entries that are made of the fields. -/
def DecodedDecision.of (flags savedUs savedBytes : ℕ) : DecodedDecision where
  accepted := decide (flags &&& 1 ≠ 0)
  savedUs := savedUs
  savedBytes := savedBytes
  savedMs := trueDivide savedUs 1000
  savedMb := trueDivide savedBytes mebibyte
  executed := if flags &&& 2 ≠ 0 then some (decide (flags &&& 4 ≠ 0)) else none

open PayloadReader in
/-- The reader of a decision: the end of the payload is checked before its flags. -/
def readRuntimeDecision : PayloadReader DecodedDecision := do
  let flags ← u8
  let savedUs ← u64
  let savedBytes ← u64
  finish
  Reading.require (¬ (flags &&& 0xF8 ≠ 0 ∨ flags &&& 4 ≠ 0 ∧ flags &&& 2 = 0))
    (invalidPayload "FluidLink v2 decision flags are invalid.")
  return .of flags savedUs savedBytes

/-- `decode_runtime_decision_payload`. -/
def decodeRuntimeDecisionPayload (payload : Bytes) : Except FluidLinkProtocolError DecodedDecision :=
  readRuntimeDecision.run' payload

/-- A number that was written is read back, whatever follows it. -/
theorem integer_encode {width value : ℕ} (h : value < 256 ^ width) (rest : Bytes) :
    PayloadReader.integer width (LittleEndian.encode value width ++ rest) = .ok (value, rest) := by
  unfold PayloadReader.integer
  refine Reading.bind_eq_ok.mpr ⟨LittleEndian.encode value width, rest, ?_, ?_⟩
  · unfold PayloadReader.take
    rw [if_neg (by simp), List.take_left' (by simp), List.drop_left' (by simp)]
  · rw [LittleEndian.decode_encode h]
    rfl

/-- The numbers of a decision are read back. -/
theorem decode_decisionBytes {compact : CompactResponse} {savedUs savedBytes : ℕ}
    (hus : savedUs ≤ maximumU64) (hbytes : savedBytes ≤ maximumU64) :
    decodeRuntimeDecisionPayload (decisionBytes compact.flags savedUs savedBytes) =
      .ok (.of compact.flags savedUs savedBytes) := by
  have hflags : compact.flags < 256 ^ 1 := compact.flags_lt.trans (by decide)
  have hvalid : ¬ (compact.flags &&& 0xF8 ≠ 0 ∨
      compact.flags &&& 4 ≠ 0 ∧ compact.flags &&& 2 = 0) := by
    obtain ⟨accepted, executed, _, _⟩ := compact
    cases accepted <;> rcases executed with _ | _ | _ <;> simp [CompactResponse.flags]
  unfold maximumU64 at hus hbytes
  have hread : readRuntimeDecision (decisionBytes compact.flags savedUs savedBytes) =
      .ok (.of compact.flags savedUs savedBytes, []) := by
    unfold decisionBytes readRuntimeDecision
    rw [List.append_assoc]
    refine Reading.bind_eq_ok.mpr ⟨_, _, integer_encode hflags _, ?_⟩
    refine Reading.bind_eq_ok.mpr ⟨_, _, integer_encode (by omega) _, ?_⟩
    have hlast := @integer_encode 8 savedBytes (by omega) []
    rw [List.append_nil] at hlast
    refine Reading.bind_eq_ok.mpr ⟨_, _, hlast, ?_⟩
    refine Reading.bind_eq_ok.mpr ⟨(), [], rfl, ?_⟩
    exact Reading.bind_eq_ok.mpr ⟨_, _, Reading.require_eq_ok.mpr ⟨hvalid, rfl⟩, rfl⟩
  unfold decodeRuntimeDecisionPayload StateT.run'
  rw [hread]
  rfl

end FluidLink

end FluidGateway
