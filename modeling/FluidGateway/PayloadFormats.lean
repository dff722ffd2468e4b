import FluidGateway.ReferenceReading
import FluidGateway.Lib.Format

/-!
# The formats of the reference

Each reader of `fluidgateway/fluidlink_v2.py` is exact for a format: it accepts
the spellings of certain values and nothing else.  The presence mask of a
payload is determined by the fields that it has.
-/

namespace FluidGateway.FluidLink

open Reading
open Native (Bytes)

namespace PayloadReader

/-! ## Fields -/

/-- Taking bytes of a count accepts the byte strings of that length. -/
theorem take_exact (size : ℕ) : Exact (take size) (fun bytes => bytes.length = size) id := by
  intro data bytes rest
  unfold take
  constructor
  · intro h
    split_ifs at h with hsize
    cases h
    exact ⟨List.length_take_of_le (by omega), (List.take_append_drop _ _).symm⟩
  · rintro ⟨rfl, rfl⟩
    simp

/-- The bytes of an integer. -/
def integerBytes (width value : ℕ) : Bytes :=
  LittleEndian.encode value width

/-- An integer takes as many bytes as its width. -/
@[simp] theorem integerBytes_length (width value : ℕ) : (integerBytes width value).length = width :=
  LittleEndian.encode_length _ _

/-- Reading an integer accepts the bytes of the values that fit, each from its one encoding. -/
theorem integer_exact (width : ℕ) :
    Exact (integer width) (fun value => value < 256 ^ width) (integerBytes width) := by
  have hbind := Exact.bind (integerBytes width) (take_exact width)
    (fun bytes _ => Exact.pure (ε := FluidLinkProtocolError) (β := UInt8) (LittleEndian.decode bytes))
    (by
      rintro bytes _ rfl rfl
      exact LittleEndian.encode_decode bytes)
  refine hbind.congr (fun value => ?_) fun value _ => List.append_nil _
  constructor
  · rintro ⟨-, hvalue⟩
    have hlt := LittleEndian.decode_lt (integerBytes width value)
    rwa [← hvalue, integerBytes_length] at hlt
  · intro hlt
    exact ⟨integerBytes_length _ _, (LittleEndian.decode_encode hlt).symm⟩

/-- The texts of a field. -/
structure TextFits (width maximumBytes : ℕ) (allowEmpty : Bool) (value : String) : Prop where
  length : (utf8 value).length < 256 ^ width
  size : (utf8 value).length ≤ maximumBytes
  visible : allowEmpty = true ∨ strip value ≠ ""

/-- The bytes of a text behind its length. -/
def textBytes (width : ℕ) (value : String) : Bytes :=
  integerBytes width (utf8 value).length ++ utf8 value

/-- The value of a text whose bytes were read. -/
def decodedText (allowEmpty : Bool) (bytes : Bytes) : PayloadReader String :=
  match decodeUtf8 bytes with
  | none => throw (invalidPayload "FluidLink v2 text field is not valid UTF-8.")
  | some value => do
    require (allowEmpty = true ∨ strip value ≠ "")
      (invalidPayload "FluidLink v2 text field cannot be blank.")
    return value

/-- Reading a text accepts the texts within their limits, each after its length. -/
theorem text_exact (width maximumBytes : ℕ) (allowEmpty : Bool) :
    Exact (text width maximumBytes allowEmpty) (TextFits width maximumBytes allowEmpty)
      (textBytes width) := by
  have hdecode : ∀ bytes : Bytes, Exact (decodedText allowEmpty bytes)
      (fun value => bytes = utf8 value ∧ (allowEmpty = true ∨ strip value ≠ "")) fun _ => [] := by
    intro bytes
    unfold decodedText
    cases h : decodeUtf8 bytes with
    | none =>
        refine (Exact.fail _).congr (fun value => ?_) fun _ _ => rfl
        refine iff_of_false id ?_
        rintro ⟨rfl, -⟩
        rw [decodeUtf8_utf8] at h
        cases h
    | some value =>
        obtain rfl := decodeUtf8_eq_some.mp h
        refine (Exact.guard fun _ => Exact.pure value).congr (fun other => ?_) fun _ _ => rfl
        rw [and_comm, utf8_inj, eq_comm]
        exact and_congr_right fun heq => by rw [heq]
  have hbytes := fun size => Exact.bind utf8 (take_exact size) (fun bytes _ => hdecode bytes)
    (fun _ _ _ h => h.1.symm)
  have hbody := fun (size : ℕ) (_ : size < 256 ^ width) =>
    Exact.guard (c := ¬ (maximumBytes < size ∨ size = 0 ∧ allowEmpty = false))
      (e := invalidPayload "FluidLink v2 text field violates its size limit.")
      fun _ => hbytes size
  have htext := Exact.bind (fun value => (utf8 value).length) (integer_exact width) hbody
    (fun _ _ _ h => h.2.1)
  refine htext.congr (fun value => ?_) fun value _ => ?_
  · constructor
    · rintro ⟨hlength, hsize, -, -, hvisible⟩
      push Not at hsize
      exact ⟨hlength, hsize.1, hvisible⟩
    · rintro ⟨hlength, hsize, hvisible⟩
      refine ⟨hlength, ?_, rfl, rfl, hvisible⟩
      rintro (h | ⟨h, hempty⟩)
      · omega
      · rw [List.length_eq_zero_iff, utf8_eq_nil] at h
        rcases hvisible with hallow | hblank
        · rw [hempty] at hallow
          cases hallow
        · rw [h] at hblank
          exact hblank rfl
  · exact congrArg _ (List.append_nil _)

/-- A payload is read when its reader leaves nothing. -/
theorem run_eq_ok_iff {α : Type} {p : PayloadReader α} {payload : Bytes} {a : α} :
    p.run payload = .ok a ↔ p payload = .ok (a, []) := by
  have hwhole : ∀ x : α × Bytes, (do let a ← p; finish; return a : PayloadReader α) payload =
      .ok x ↔ x.2 = [] ∧ p payload = .ok x := by
    rintro ⟨a, rest⟩
    rw [Reading.bind_eq_ok]
    constructor
    · rintro ⟨b, middle, hp, hrest⟩
      obtain ⟨_, final, hfinish, hreturn⟩ := Reading.bind_eq_ok.mp hrest
      cases Reading.pure_eq_ok.mp hreturn
      unfold finish at hfinish
      split_ifs at hfinish with hempty
      cases hfinish
      exact ⟨hempty, hp⟩
    · rintro ⟨hempty, hp⟩
      obtain rfl : rest = [] := hempty
      exact ⟨a, [], hp, rfl⟩
  unfold run
  change ((do let a ← p; finish; return a : PayloadReader α) payload).map Prod.fst = .ok a ↔ _
  constructor
  · intro h
    cases hread : (do let a ← p; finish; return a : PayloadReader α) payload with
    | error e =>
        rw [hread] at h
        cases h
    | ok x =>
        rw [hread] at h
        cases h
        obtain ⟨hempty, hp⟩ := (hwhole x).mp hread
        rw [hp, ← hempty]
  · intro hp
    rw [(hwhole (a, [])).mpr ⟨rfl, hp⟩]
    rfl

/-- What a reader of a whole payload accepts. -/
theorem run_exact {α : Type} {p : PayloadReader α} {valid : α → Prop} {write : α → Bytes}
    (h : Exact p valid write) {payload : Bytes} {a : α} :
    p.run payload = .ok a ↔ valid a ∧ payload = write a := by
  rw [run_eq_ok_iff, h, List.append_nil]

/-- A table of names and opcodes: no name and no opcode is in it twice. -/
structure Table (values : List (String × ℕ)) : Prop where
  names : (values.map Prod.fst).Nodup
  opcodes : (values.map Prod.snd).Nodup
  bytes : ∀ item ∈ values, item.2 < 256

/-- The opcode of a name. -/
def opcodeOf (values : List (String × ℕ)) (name : String) : ℕ :=
  (values.lookup name).getD 0

/-- A name is found with its code exactly where the entry is in the table. -/
theorem lookup_eq_some {values : List (String × ℕ)} (h : (values.map Prod.fst).Nodup)
    {name : String} {opcode : ℕ} : values.lookup name = some opcode ↔ (name, opcode) ∈ values := by
  induction values with
  | nil => simp
  | cons item values ih =>
      obtain ⟨key, value⟩ := item
      rw [List.map_cons, List.nodup_cons] at h
      rw [List.lookup_cons, List.mem_cons]
      by_cases hkey : name = key
      · subst hkey
        have hnone : (name, opcode) ∉ values := fun hmem => h.1 (List.mem_map.mpr ⟨_, hmem, rfl⟩)
        simp [hnone, eq_comm]
      · rw [beq_eq_false_iff_ne.mpr hkey, ih h.2]
        simp [hkey]

/-- A code is found with its name exactly where the entry is in the table. -/
theorem find?_eq_some {values : List (String × ℕ)} (h : (values.map Prod.snd).Nodup)
    {item : String × ℕ} {value : ℕ} :
    values.find? (fun item => item.2 = value) = some item ↔ item ∈ values ∧ item.2 = value := by
  induction values with
  | nil => simp
  | cons other values ih =>
      rw [List.map_cons, List.nodup_cons] at h
      rw [List.find?_cons]
      by_cases hother : other.2 = value
      · subst hother
        have hnone : ∀ x ∈ values, x.2 ≠ other.2 :=
          fun x hx heq => h.1 (heq ▸ List.mem_map_of_mem hx)
        rw [decide_eq_true rfl, List.mem_cons]
        simp only [Option.some.injEq]
        constructor
        · rintro rfl
          exact ⟨.inl rfl, rfl⟩
        · rintro ⟨rfl | hmem, heq⟩
          · rfl
          · exact absurd heq (hnone item hmem)
      · rw [decide_eq_false hother]
        simp only [ih h.2, List.mem_cons]
        constructor
        · exact fun ⟨hmem, heq⟩ => ⟨.inr hmem, heq⟩
        · rintro ⟨rfl | hmem, heq⟩
          · exact absurd heq hother
          · exact ⟨hmem, heq⟩

/-- The key of an opcode that was read. -/
def decodedKey (values : List (String × ℕ)) (name : String) (value : ℕ) : PayloadReader String :=
  match values.find? fun item => item.2 = value with
  | some item => return item.1
  | none => throw (invalidPayload s!"Unsupported FluidLink v2 {name} opcode {value}.")

/-- Reading an enumeration accepts the codes of its table. -/
theorem enum_exact {values : List (String × ℕ)} (h : Table values) (name : String) :
    Exact (enum values name) (fun key => key ∈ values.map Prod.fst)
      (fun key => integerBytes 1 (opcodeOf values key)) := by
  have hfind : ∀ value : ℕ, Exact (decodedKey values name value)
      (fun key => (key, value) ∈ values) fun _ => [] := by
    intro value
    unfold decodedKey
    cases hitem : values.find? fun item => item.2 = value with
    | none =>
        refine (Exact.fail _).congr (fun key => iff_of_false id fun hmem => ?_) fun _ _ => rfl
        rw [(find?_eq_some h.opcodes).mpr ⟨hmem, rfl⟩] at hitem
        cases hitem
    | some item =>
        obtain ⟨hmem, rfl⟩ := (find?_eq_some h.opcodes).mp hitem
        refine (Exact.pure item.1).congr (fun key => ?_) fun _ _ => rfl
        constructor
        · rintro rfl
          exact hmem
        · intro hkey
          have hsame := (find?_eq_some h.opcodes).mpr ⟨hkey, rfl⟩
          rw [hitem] at hsame
          rw [Option.some.inj hsame]
  refine (Exact.bind (opcodeOf values) (integer_exact 1) (fun value _ => hfind value) ?_).congr
    (fun key => ?_) fun key _ => List.append_nil _
  · intro value key _ hmem
    rw [opcodeOf, (lookup_eq_some h.names).mpr hmem]
    rfl
  · constructor
    · rintro ⟨-, hmem⟩
      exact List.mem_map_of_mem hmem
    · intro hmem
      obtain ⟨⟨key, value⟩, hitem, rfl⟩ := List.mem_map.mp hmem
      have hopcode : opcodeOf values key = value := by
        rw [opcodeOf, (lookup_eq_some h.names).mpr hitem]
        rfl
      rw [hopcode]
      exact ⟨h.bytes _ hitem, hitem⟩

/-- Reading a mask accepts the bytes without unknown bits. -/
theorem presence_exact (mask : ℕ) (name : String) :
    Exact (presence mask name) (fun value => value < 256 ∧ value &&& (255 - mask) = 0)
      (integerBytes 1) := by
  refine (Exact.bind id (integer_exact 1) (fun value _ => Exact.guard fun _ => Exact.pure value)
    fun value other _ h => h.2).congr (fun value => ?_) fun value _ => List.append_nil _
  exact and_congr_right fun _ => and_iff_left rfl

/-- A field that is there when its bit is set. -/
theorem optional_exact {α : Type} {p : PayloadReader α} {valid : α → Prop} {write : α → Bytes}
    (h : Exact p valid write) (presence bit : ℕ) :
    Exact (optional presence bit p)
      (fun x => (x.isSome = true ↔ presence &&& bit ≠ 0) ∧ ∀ a ∈ x, valid a)
      (fun x => (x.map write).getD []) := by
  intro data x rest
  unfold optional
  by_cases hbit : presence &&& bit ≠ 0
  · rw [if_pos hbit, map_eq_pure_bind, Reading.bind_eq_ok]
    constructor
    · rintro ⟨a, middle, hp, hpure⟩
      cases Reading.pure_eq_ok.mp hpure
      obtain ⟨ha, rfl⟩ := (h _ _ _).mp hp
      refine ⟨⟨iff_of_true rfl hbit, fun b hb => ?_⟩, rfl⟩
      cases hb
      exact ha
    · rintro ⟨⟨hsome, hvalid⟩, rfl⟩
      obtain ⟨a, rfl⟩ := Option.isSome_iff_exists.mp (hsome.mpr hbit)
      exact ⟨a, rest, h.read (hvalid a rfl) rest, rfl⟩
  · rw [if_neg hbit, Reading.pure_eq_ok, Prod.mk.injEq]
    constructor
    · rintro ⟨rfl, rfl⟩
      exact ⟨⟨iff_of_false Bool.false_ne_true hbit, fun a ha => nomatch ha⟩, rfl⟩
    · rintro ⟨⟨hsome, -⟩, rfl⟩
      cases x with
      | none => exact ⟨rfl, rfl⟩
      | some a => exact absurd (hsome.mp rfl) hbit

/-- The texts that are identifiers. -/
def Identifier (value : String) : Prop :=
  TextFits 2 256 false value

/-- Reading an identifier accepts the texts of at most 256 bytes that are not blank. -/
theorem identifier_exact : Exact identifier Identifier (textBytes 2) :=
  text_exact 2 256 false

/-- The bytes of identifiers behind their number. -/
def identifiersBytes (items : List String) : Bytes :=
  integerBytes 1 items.length ++ (items.map (textBytes 2)).flatten

/-- Reading identifiers accepts up to 32 of them, after their count. -/
theorem identifiers_exact (name : String) :
    Exact (identifiers name) (fun items => items.length ≤ 32 ∧ ∀ item ∈ items, Identifier item)
      identifiersBytes := by
  refine (Exact.bind List.length (integer_exact 1)
    (fun count _ => Exact.guard fun _ => Exact.replicate identifier_exact count)
    fun count items _ h => h.2.1).congr (fun items => ?_) fun items _ => rfl
  constructor
  · rintro ⟨-, hcount, -, hitems⟩
    exact ⟨hcount, hitems⟩
  · rintro ⟨hcount, hitems⟩
    exact ⟨by omega, hcount, rfl, hitems⟩

end PayloadReader

/-! ## Operations -/

open PayloadReader

/-- No name and no code of the table occurs twice. -/
theorem operationTypes_table : Table operationTypes := by
  constructor <;> decide

/-- No name and no code of the table occurs twice. -/
theorem queues_table : Table queues := by
  constructor <;> decide

/-- The presence mask of an operation. -/
def WireOperation.presence (o : WireOperation) : ℕ :=
  (if o.source.isSome then 1 else 0) ||| (if o.target.isSome then 2 else 0) |||
    (if o.reason.isSome then 4 else 0) ||| (if o.frame.isSome then 8 else 0)

/-- The limits of the fields of an operation. -/
structure WireOperation.Fields (o : WireOperation) : Prop where
  source : ∀ text ∈ o.source, Identifier text
  target : ∀ text ∈ o.target, Identifier text
  reason : ∀ text ∈ o.reason, TextFits 2 512 false text
  cost : o.costUs < 256 ^ 4
  size : o.sizeBytes < 256 ^ 8
  frame : ∀ frame ∈ o.frame, frame < 256 ^ 8
  count : o.dependsOn.length ≤ 32
  dependsOn : ∀ item ∈ o.dependsOn, Identifier item

/-- The operations that are on the wire. -/
structure WireOperation.Valid (o : WireOperation) : Prop extends o.Fields where
  type : o.operationType ∈ operationTypes.map Prod.fst
  queue : o.queue ∈ queues.map Prod.fst

/-- What an operation begins with. -/
def WireOperation.head (o : WireOperation) : String × String × ℕ :=
  (o.operationType, o.queue, o.presence)

/-- Type, queue and mask, a byte each. -/
def headBytes (head : String × String × ℕ) : Bytes :=
  integerBytes 1 (opcodeOf operationTypes head.1) ++ integerBytes 1 (opcodeOf queues head.2.1) ++
    integerBytes 1 head.2.2

/-- The optional field's bytes. -/
def optionalBytes {α : Type} (write : α → Bytes) (x : Option α) : Bytes :=
  (x.map write).getD []

/-- The bytes of an operation behind its head and its id, without its
dependencies. -/
def WireOperation.body (o : WireOperation) : Bytes :=
  optionalBytes (textBytes 2) o.source ++ optionalBytes (textBytes 2) o.target ++
    optionalBytes (textBytes 2) o.reason ++ integerBytes 4 o.costUs ++ integerBytes 8 o.sizeBytes ++
    optionalBytes (integerBytes 8) o.frame

set_option maxRecDepth 10000 in
/-- The presence bits are those of the mask. -/
theorem WireOperation.presence_eq {o : WireOperation} {p : ℕ} (hp : p < 256 ∧ p &&& 240 = 0)
    (hsource : o.source.isSome = true ↔ p &&& 1 ≠ 0)
    (htarget : o.target.isSome = true ↔ p &&& 2 ≠ 0)
    (hreason : o.reason.isSome = true ↔ p &&& 4 ≠ 0)
    (hframe : o.frame.isSome = true ↔ p &&& 8 ≠ 0) : o.presence = p := by
  have hbits : ∀ p < 256, p &&& 240 = 0 → ((if p &&& 1 ≠ 0 then 1 else 0) |||
      (if p &&& 2 ≠ 0 then 2 else 0) ||| (if p &&& 4 ≠ 0 then 4 else 0) |||
        (if p &&& 8 ≠ 0 then 8 else 0)) = p := by
    decide
  unfold presence
  simp only [hsource, htarget, hreason, hframe]
  exact hbits p hp.1 hp.2

/-- The mask of an operation has four bits. -/
theorem WireOperation.presence_lt (o : WireOperation) : o.presence < 16 := by
  obtain ⟨_, _, source, target, reason, _, _, frame, _⟩ := o
  cases source <;> cases target <;> cases reason <;> cases frame <;> simp [presence]

/-- The bits of the mask are the presence bits. -/
theorem WireOperation.presence_bits (o : WireOperation) :
    (o.source.isSome = true ↔ o.presence &&& 1 ≠ 0) ∧
      (o.target.isSome = true ↔ o.presence &&& 2 ≠ 0) ∧
        (o.reason.isSome = true ↔ o.presence &&& 4 ≠ 0) ∧
          (o.frame.isSome = true ↔ o.presence &&& 8 ≠ 0) := by
  obtain ⟨_, _, source, target, reason, _, _, frame, _⟩ := o
  cases source <;> cases target <;> cases reason <;> cases frame <;> simp [presence]

/-- Reading the head of an operation accepts known types and queues and a mask of known
bits. -/
theorem operationHead_exact (name : String) :
    Exact (operationHead name) (fun head => head.1 ∈ operationTypes.map Prod.fst ∧
      head.2.1 ∈ queues.map Prod.fst ∧ head.2.2 < 256 ∧ head.2.2 &&& 240 = 0) headBytes := by
  refine (Exact.bind (fun head : String × String × ℕ => head.1)
    (enum_exact operationTypes_table "operation type") (fun _ _ =>
    Exact.bind (fun head : String × String × ℕ => head.2.1) (enum_exact queues_table "queue")
      (fun _ _ =>
    Exact.bind (fun head : String × String × ℕ => head.2.2) (presence_exact 0x0F name)
      (fun _ _ => Exact.pure _)
    ?_) ?_) ?_).congr (fun head => ?_) fun head _ => ?_
  · exact fun _ _ _ h => congrArg (fun head => head.2.2) h
  · exact fun _ _ _ h => congrArg (fun head => head.2.1) h.2
  · exact fun _ _ _ h => congrArg Prod.fst h.2.2
  · exact and_congr_right fun _ => and_congr_right fun _ => and_iff_left rfl
  · simp only [headBytes, List.append_assoc, List.append_nil]

/-- Reading the rest of an operation accepts the fields that its mask announces. -/
theorem operationTail_exact {head : String × String × ℕ}
    (hhead : head.2.2 < 256 ∧ head.2.2 &&& 240 = 0) :
    Exact (operationTail head) (fun o => o.head = head ∧ o.Fields)
      (fun o => o.body ++ identifiersBytes o.dependsOn) := by
  obtain ⟨operationType, queue, p⟩ := head
  refine (Exact.bind WireOperation.source (optional_exact identifier_exact p 1) (fun _ _ =>
    Exact.bind WireOperation.target (optional_exact identifier_exact p 2) (fun _ _ =>
    Exact.bind WireOperation.reason (optional_exact (text_exact 2 512 false) p 4) (fun _ _ =>
    Exact.bind WireOperation.costUs (integer_exact 4) (fun _ _ =>
    Exact.bind WireOperation.sizeBytes (integer_exact 8) (fun _ _ =>
    Exact.bind WireOperation.frame (optional_exact (integer_exact 8) p 8) (fun _ _ =>
    Exact.bind WireOperation.dependsOn (identifiers_exact "dependency") (fun _ _ => Exact.pure _)
    ?_) ?_) ?_) ?_) ?_) ?_) ?_).congr (fun o => ?_) fun o _ => ?_
  · exact fun _ _ _ h => congrArg WireOperation.dependsOn h
  · exact fun _ _ _ h => congrArg WireOperation.frame h.2
  · exact fun _ _ _ h => congrArg WireOperation.sizeBytes h.2.2
  · exact fun _ _ _ h => congrArg WireOperation.costUs h.2.2.2
  · exact fun _ _ _ h => congrArg WireOperation.reason h.2.2.2.2
  · exact fun _ _ _ h => congrArg WireOperation.target h.2.2.2.2.2
  · exact fun _ _ _ h => congrArg WireOperation.source h.2.2.2.2.2.2
  · constructor
    · rintro ⟨⟨hsource, source⟩, ⟨htarget, target⟩, ⟨hreason, reason⟩, cost, size,
        ⟨hframe, frame⟩, ⟨count, dependsOn⟩, ho⟩
      refine ⟨?_, source, target, reason, cost, size, frame, count, dependsOn⟩
      unfold WireOperation.head
      rw [WireOperation.presence_eq hhead hsource htarget hreason hframe, ho]
    · rintro ⟨ho, hfields⟩
      obtain ⟨hsource, htarget, hreason, hframe⟩ := o.presence_bits
      unfold WireOperation.head at ho
      rw [Prod.mk.injEq, Prod.mk.injEq] at ho
      obtain ⟨rfl, rfl, rfl⟩ := ho
      exact ⟨⟨hsource, hfields.source⟩, ⟨htarget, hfields.target⟩, ⟨hreason, hfields.reason⟩,
        hfields.cost, hfields.size, ⟨hframe, hfields.frame⟩, ⟨hfields.count, hfields.dependsOn⟩,
        rfl⟩
  · simp only [WireOperation.body, optionalBytes, List.append_assoc, List.append_nil]

end FluidGateway.FluidLink
