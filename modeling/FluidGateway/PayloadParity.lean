import FluidGateway.PayloadFormats
import FluidGateway.WireReading

/-!
# The two payload readers

The readers of `native/src/protocol.cpp` and those of
`fluidgateway/fluidlink_v2.py` check their fields in their own order and with
their own texts.  They accept the same payloads, and read the same event from
them (`readEvent_alike`), the same batch, hello and nonce.

The native readers check the end of a payload themselves; in the reference
that is left to the caller (`Ends`).
-/

namespace FluidGateway.FluidLink

open Reading
open Native (Bytes Text)
open FluidGateway.Adapter (EventType)

section Alike

variable {α β γ δ : Type} {value : α → β → Prop} {value' : γ → δ → Prop}
  {p : Native.Reader α} {q : PayloadReader β} {k : α → Native.Reader γ} {l : β → PayloadReader δ}

/-- Both readers take the same bytes and read related values, or both refuse. -/
abbrev Alike (value : α → β → Prop) (p : Native.Reader α) (q : PayloadReader β) : Prop :=
  Reading.Agree (fun _ _ => True) Eq value p q

/-- The same, of a native reader that checks the end of the payload. -/
def Ends (value : α → β → Prop) (p : Native.Reader α) (q : PayloadReader β) : Prop :=
  Alike value p (do let b ← q; PayloadReader.finish; return b)

/-- Two readers followed by readers that end alike end alike. -/
theorem Ends.bind (h : Alike value p q) (hk : ∀ a b, value a b → Ends value' (k a) (l b)) :
    Ends value' (p >>= k) (q >>= l) := by
  unfold Ends
  rw [bind_assoc]
  exact Agree.bind h hk

/-- The two checks for the end of a payload agree. -/
theorem finish_alike :
    Alike (fun _ _ => True) Native.Reader.finish PayloadReader.finish := by
  intro data _ hsame
  subst hsame
  unfold Native.Reader.finish PayloadReader.finish
  by_cases hempty : data = []
  · rw [if_pos hempty, if_pos hempty]
    exact .ok trivial rfl
  · rw [if_neg hempty, if_neg hempty]
    exact .error trivial

/-- Two readers that give related values and then look for the end of the payload end alike. -/
theorem Ends.finish {a : α} {b : β} (h : value a b) :
    Ends value (do Native.Reader.finish; return a) (pure b) := by
  unfold Ends
  rw [pure_bind]
  refine Agree.bind finish_alike ?_
  intro _ _ _
  exact Agree.pure h

/-- What is made of a value after the end of the payload. -/
theorem Ends.map {f : α → γ} {g : β → δ} (h : Ends value p q)
    (hvalue : ∀ a b, value a b → value' (f a) (g b)) :
    Ends value' (do let a ← p; return f a) (do let b ← q; return g b) := by
  have hafter : Alike value' (do let a ← p; return f a)
      (do let b ← (do let b ← q; PayloadReader.finish; return b); return g b) := by
    refine Agree.bind h ?_
    intro a b hab
    exact Agree.pure (hvalue a b hab)
  unfold Ends
  simp only [bind_assoc, pure_bind] at hafter ⊢
  exact hafter

/-- The outcomes of two readers on one payload. -/
inductive Both (value : α → β → Prop) :
    Except Native.Error α → Except FluidLinkProtocolError β → Prop
  | ok {a : α} {b : β} (values : value a b) : Both value (.ok a) (.ok b)
  | error {e : Native.Error} {d : FluidLinkProtocolError} (malformed : Native.Malformed e) :
      Both value (.error e) (.error d)

/-- Where the one side returns a value, so does the other, a related one. -/
theorem Both.of_ok {x : Except Native.Error α} {y : Except FluidLinkProtocolError β}
    (h : Both value x y) {a : α} (ha : x = .ok a) : ∃ b, y = .ok b ∧ value a b := by
  cases h with
  | ok hvalue =>
      cases ha
      exact ⟨_, rfl, hvalue⟩
  | error _ => cases ha

/-- Where the one side refuses a payload, so does the other, and the one calls it malformed. -/
theorem Both.of_error {x : Except Native.Error α} {y : Except FluidLinkProtocolError β}
    (h : Both value x y) {e : Native.Error} (he : x = .error e) :
    ∃ d, y = .error d ∧ Native.Malformed e := by
  cases h with
  | ok _ => cases he
  | error hmalformed =>
      cases he
      exact ⟨_, rfl, hmalformed⟩

/-- Readers that end alike return related values of the same payloads, and refuse the same
payloads. -/
theorem Ends.run (h : Ends value p q) (hp : Fails Native.Malformed p) (payload : Bytes) :
    Both value (Native.Reader.run p payload) (PayloadReader.run q payload) := by
  have hsame := h payload payload rfl
  have hmalformed := hp payload
  change Both value ((p payload).map Prod.fst)
    (((do let b ← q; PayloadReader.finish; return b : PayloadReader β) payload).map Prod.fst)
  generalize p payload = x at hsame hmalformed ⊢
  generalize (do let b ← q; PayloadReader.finish; return b : PayloadReader β) payload = y
    at hsame ⊢
  cases hsame with
  | ok hvalue _ => exact .ok hvalue
  | error _ => exact .error (hmalformed _ rfl)

end Alike

/-! ## Fields -/

/-- Both take the same bytes, or both find too few. -/
theorem take_alike (n : ℕ) :
    Alike (fun a b => a = b ∧ a.length = n) (Native.Reader.take n) (PayloadReader.take n) := by
  intro data _ hsame
  subst hsame
  unfold Native.Reader.take PayloadReader.take
  by_cases hshort : data.length < n
  · rw [if_pos hshort, if_pos hshort]
    exact .error trivial
  · rw [if_neg hshort, if_neg hshort]
    have hlength : (data.take n).length = n := by
      rw [List.length_take]
      omega
    exact .ok ⟨rfl, hlength⟩ rfl

/-- Both read the same little-endian integer. -/
theorem integer_alike (n : ℕ) :
    Alike (fun a b => a = b ∧ a < 256 ^ n) (Native.Reader.integer n) (PayloadReader.integer n) := by
  refine Agree.bind (take_alike n) ?_
  intro a b hab
  obtain ⟨rfl, hlength⟩ := hab
  have hlt := LittleEndian.decode_lt a
  rw [hlength] at hlt
  exact Agree.pure ⟨rfl, hlt⟩

/-- Both read the same byte. -/
theorem u8_alike : Alike (fun a b => a.toNat = b) Native.Reader.u8 PayloadReader.u8 := by
  have hread : PayloadReader.u8 = PayloadReader.integer 1 >>= pure := (bind_pure _).symm
  rw [hread]
  refine Agree.bind (integer_alike 1) ?_
  intro a b hab
  obtain ⟨rfl, hlt⟩ := hab
  exact Agree.pure (UInt8.toNat_ofNat_of_lt' hlt)

/-- The bytes between two bounds are the opcodes of a table. -/
def Spans (low high : UInt8) (values : List (String × ℕ)) : Prop :=
  ∀ n : Fin 256, (low.toNat ≤ n.val ∧ n.val ≤ high.toNat) ↔ n.val ∈ values.map Prod.snd

instance (low high : UInt8) (values : List (String × ℕ)) : Decidable (Spans low high values) :=
  inferInstanceAs (Decidable (∀ _, _))

/-- Opcodes that are numbered one after the other. -/
theorem spans_of_range {low high : UInt8} {values : List (String × ℕ)}
    (h : values.map Prod.snd = List.range' low.toNat (high.toNat + 1 - low.toNat)) :
    Spans low high values := by
  intro byte
  rw [h, List.mem_range'_1]
  omega

/-- A range of bytes on the one side is a table of names on the other; both accept the same
bytes. -/
theorem enum_alike {low high : UInt8} {values : List (String × ℕ)} (h : Spans low high values)
    (name : String) :
    Alike (fun byte value => (value, byte.toNat) ∈ values) (Native.Reader.choice low high)
      (PayloadReader.enum values name) := by
  unfold Native.Reader.choice PayloadReader.enum
  refine Agree.bind u8_alike ?_
  intro byte n hbyte
  subst hbyte
  have hspan : (low ≤ byte ∧ byte ≤ high) ↔ byte.toNat ∈ values.map Prod.snd :=
    h ⟨byte.toNat, byte.toNat_lt⟩
  cases hfind : values.find? fun item => item.2 = byte.toNat with
  | none =>
      have hout : ¬ (low ≤ byte ∧ byte ≤ high) := by
        intro hin
        obtain ⟨item, hitem, hopcode⟩ := List.mem_map.mp (hspan.mp hin)
        have hnone := List.find?_eq_none.mp hfind item hitem
        exact hnone (decide_eq_true hopcode)
      intro data _ hsame
      subst hsame
      unfold require
      change Same _ _ _ ((if low ≤ byte ∧ byte ≤ high then _ else _ : Except _ _).bind _) _
      rw [if_neg hout]
      exact .error trivial
  | some item =>
      have hitem := List.mem_of_find?_eq_some hfind
      have hopcode : item.2 = byte.toNat := by simpa using List.find?_some hfind
      have hin : low ≤ byte ∧ byte ≤ high := by
        rw [hspan, ← hopcode]
        exact List.mem_map_of_mem hitem
      intro data _ hsame
      subst hsame
      unfold require
      change Same _ _ _ ((if low ≤ byte ∧ byte ≤ high then _ else _ : Except _ _).bind _) _
      rw [if_pos hin]
      refine .ok ?_ rfl
      rwa [← hopcode]

/-- Both accept the same masks, those without unknown bits. -/
theorem mask_alike (allowed : UInt8) (name : String) :
    Alike (fun byte presence => byte.toNat = presence) (Native.Reader.mask allowed)
      (PayloadReader.presence allowed.toNat name) := by
  unfold Native.Reader.mask PayloadReader.presence
  refine Agree.bind u8_alike ?_
  intro byte n hbyte
  subst hbyte
  have hclear : byte &&& ~~~allowed = 0 ↔ byte.toNat &&& (255 - allowed.toNat) = 0 := by
    rw [← UInt8.toNat_inj, UInt8.toNat_and, UInt8.toNat_not]
    rfl
  refine Agree.bind (Agree.require hclear trivial) ?_
  intro _ _ _
  exact Agree.pure rfl

/-- A text keeps its bytes, or those of the text without the white space around it. -/
theorem text_alike (width maximum : ℕ) (empty trim : Bool) :
    Alike (fun text value => text = utf8 (if trim then strip value else value))
      (Native.Reader.text width maximum empty trim)
      (PayloadReader.text width maximum empty) := by
  unfold Native.Reader.text PayloadReader.text
  refine Agree.bind (integer_alike width) ?_
  intro n _ hn
  obtain ⟨rfl, -⟩ := hn
  by_cases hblank : n = 0 ∧ empty = false
  · -- the reference refuses the length, the native reader the blank text
    obtain ⟨rfl, rfl⟩ := hblank
    intro data _ _
    exact .error trivial
  · have hsize : n ≤ maximum ↔ ¬ (maximum < n ∨ n = 0 ∧ empty = false) := by
      rw [or_iff_left hblank, not_lt]
    refine Agree.bind (Agree.require hsize trivial) ?_
    intro _ _ _
    refine Agree.bind (take_alike n) ?_
    intro bytes _ hbytes
    obtain ⟨rfl, -⟩ := hbytes
    cases hdecode : decodeUtf8 bytes with
    | none =>
        cases htrim : Native.trimmedUtf8 bytes with
        | ok text =>
            obtain ⟨s, rfl, -⟩ := Native.trimmedUtf8_eq_ok.mp htrim
            rw [decodeUtf8_utf8] at hdecode
            cases hdecode
        | error e =>
            intro data _ _
            exact .error trivial
    | some value =>
        obtain rfl := decodeUtf8_eq_some.mp hdecode
        have hlift : ∀ rest : Text → Native.Reader Text,
            (liftM (Except.ok (utf8 (strip value)) : Except Native.Error Text) >>= rest) =
              rest (utf8 (strip value)) := fun _ => rfl
        rw [Native.trimmedUtf8_utf8, hlift]
        have hvisible : (empty = true ∨ utf8 (strip value) ≠ []) ↔
            (empty = true ∨ strip value ≠ "") := by
          rw [Ne, utf8_eq_nil]
        refine Agree.bind (Agree.require hvisible trivial) ?_
        intro _ _ _
        refine Agree.pure ?_
        cases trim with
        | true => rw [if_pos rfl, if_pos rfl]
        | false => rw [if_neg Bool.false_ne_true, if_neg Bool.false_ne_true]

/-- A field that may be missing, and then has a default on the native side. -/
inductive Given {α β : Type} (value : α → β → Prop) (default : α) : α → Option β → Prop
  | some {a : α} {b : β} (h : value a b) : Given value default a (some b)
  | none : Given value default default none

/-- A field that may be absent is read by both where its bit is set, and given its default
or `None` where it is not. -/
theorem present_alike {α β : Type} {value : α → β → Prop} {p : Native.Reader α}
    {q : PayloadReader β} (presence bit : UInt8) (default : α) (h : Alike value p q) :
    Alike (Given value default) (Native.present presence bit p default)
      (PayloadReader.optional presence.toNat bit.toNat q) := by
  have hset : presence &&& bit ≠ 0 ↔ presence.toNat &&& bit.toNat ≠ 0 := by
    rw [Ne, ← UInt8.toNat_inj, UInt8.toNat_and]
    rfl
  unfold Native.present PayloadReader.optional
  refine Agree.ite hset ?_ ?_
  · intro _
    rw [map_eq_pure_bind, ← bind_pure p]
    refine Agree.bind h ?_
    intro a b hab
    exact Agree.pure (.some hab)
  · intro _
    exact Agree.pure .none

/-- Both read an identifier; the C++ side trims it, the Python side leaves that to the
adapter. -/
theorem identifier_alike :
    Alike (fun text value => text = utf8 (strip value)) (Native.Reader.text 2 256 false true)
      PayloadReader.identifier :=
  text_alike 2 256 false true

/-- The bound on a count means the same of the byte and of the number. -/
theorem byte_le_iff (count : UInt8) : (0 ≤ count ∧ count ≤ 32) ↔ count.toNat ≤ 32 := by
  rw [UInt8.le_iff_toNat_le, UInt8.le_iff_toNat_le]
  exact and_iff_right (Nat.zero_le _)

/-- A list of identifiers, which keep the white space around them. -/
theorem identifiers_alike {α β : Type} {value : α → β → Prop} (name : String)
    {k : List Text → Native.Reader α} {l : List String → PayloadReader β}
    (h : ∀ items, Ends value (k (items.map utf8)) (l items)) :
    Ends value
      (do
        let count ← Native.Reader.choice 0 32
        let items ← each (fun _ => Native.Reader.text 2 256) (List.range count.toNat)
        k items)
      (PayloadReader.identifiers name >>= l) := by
  unfold PayloadReader.identifiers Native.Reader.choice
  simp only [bind_assoc, pure_bind]
  refine Ends.bind u8_alike ?_
  intro count n hcount
  subst hcount
  refine Ends.bind (Agree.require (byte_le_iff count) trivial) ?_
  intro _ _ _
  have hitems : Alike (List.Forall₂ fun text value => text = utf8 value)
      (each (fun _ => Native.Reader.text 2 256) (List.range count.toNat))
      (each (fun _ => PayloadReader.identifier) (List.range count.toNat)) :=
    Agree.each (List.forall₂_same.mpr fun _ _ => text_alike 2 256 false false)
  refine Ends.bind hitems ?_
  intro texts items hsame
  have hmap : texts = items.map utf8 := by
    induction hsame with
    | nil => rfl
    | cons hfirst _ ih => rw [hfirst, ih, List.map_cons]
  rw [hmap]
  exact h items

/-! ## Operations -/

/-- The fields of an operation, as the two sides read them. -/
structure SameOperation (op : Native.Operation) (wire : WireOperation) : Prop where
  type : (wire.operationType, op.type.toNat) ∈ operationTypes
  queue : (wire.queue, op.queue.toNat) ∈ queues
  source : Given (fun text value => text = utf8 (strip value)) [] op.source wire.source
  target : Given (fun text value => text = utf8 (strip value)) [] op.target wire.target
  reason : Given (fun text value => text = utf8 value) [] op.reason wire.reason
  microseconds : op.microseconds = wire.costUs
  bytes : op.bytes = wire.sizeBytes
  frame : op.frame = wire.frame
  dependencies : op.dependencies = wire.dependsOn.map utf8

/-- The head of an operation. -/
def SameHead (head : UInt8 × UInt8 × UInt8) (wire : String × String × ℕ) : Prop :=
  (wire.1, head.1.toNat) ∈ operationTypes ∧ (wire.2.1, head.2.1.toNat) ∈ queues ∧
    head.2.2.toNat = wire.2.2

/-- Both read the same type, queue and mask of an operation. -/
theorem operationHead_alike (name : String) :
    Alike SameHead Native.operationHead (operationHead name) := by
  unfold Native.operationHead operationHead
  refine Agree.bind (enum_alike (spans_of_range rfl) _) ?_
  intro type operationType htype
  refine Agree.bind (enum_alike (spans_of_range rfl) _) ?_
  intro queue queueName hqueue
  refine Agree.bind (mask_alike 15 name) ?_
  intro presence bits hpresence
  exact Agree.pure ⟨htype, hqueue, hpresence⟩

/-- The open frame of an operation is kept as it was sent. -/
theorem frame_alike (presence : UInt8) :
    Alike (fun a b => a = b) (Native.present presence 8 (some <$> Native.Reader.u64) none)
      (PayloadReader.optional presence.toNat 8 PayloadReader.u64) := by
  have hframe : Alike (fun a b => a = some b) (some <$> Native.Reader.u64) PayloadReader.u64 := by
    rw [map_eq_pure_bind, ← bind_pure PayloadReader.u64]
    refine Agree.bind (integer_alike 8) ?_
    intro a b hab
    exact Agree.pure (congrArg some hab.1)
  refine Agree.mono (present_alike presence 8 none hframe) ?_
  intro a b hab
  cases hab with
  | some h => exact h
  | none => rfl

/-- Both read the same operation behind the same head. Field follows field, so each is one
step of the chain. -/
theorem operationTail_alike {head : UInt8 × UInt8 × UInt8} {wire : String × String × ℕ}
    (hhead : SameHead head wire) (id : Text) :
    Ends (fun op o => op.id = id ∧ SameOperation op o)
      (Native.operationTail head.1 head.2.1 head.2.2 id) (operationTail wire) := by
  obtain ⟨type, queue, presence⟩ := head
  obtain ⟨operationType, queueName, bits⟩ := wire
  obtain ⟨htype, hqueue, hpresence⟩ := hhead
  dsimp only at htype hqueue hpresence
  subst hpresence
  unfold Native.operationTail operationTail
  dsimp only
  refine Ends.bind (present_alike presence 1 [] identifier_alike) ?_
  intro source sourceName hsource
  refine Ends.bind (present_alike presence 2 [] identifier_alike) ?_
  intro target targetName htarget
  refine Ends.bind (present_alike presence 4 [] (text_alike 2 512 false false)) ?_
  intro reason reasonText hreason
  refine Ends.bind (integer_alike 4) ?_
  intro microseconds costUs hcost
  refine Ends.bind (integer_alike 8) ?_
  intro bytes sizeBytes hsize
  refine Ends.bind (frame_alike presence) ?_
  intro frame frame' hframe
  refine identifiers_alike "dependency" ?_
  intro dependencies
  exact Ends.finish ⟨rfl, htype, hqueue, hsource, htarget, hreason, hcost.1, hsize.1, hframe, rfl⟩

/-! ## Events -/

/-- The same event on both sides.  The native side trims an id as it reads it,
and keeps nothing of a budget, of a snapshot or of a session that begins. -/
inductive SameEvent : Option Native.Call → WireEvent → Prop
  | beginSession {id : String} {frameUs : Option ℕ} {budgets : List (String × Option ℕ)} :
      SameEvent none (.session "begin" id frameUs budgets)
  | endSession {id : String} {frameUs : Option ℕ} {budgets : List (String × Option ℕ)} :
      SameEvent (some .endSession) (.session "end" id frameUs budgets)
  | beginFrame {frame : ℕ} {targetUs : Option ℕ} :
      SameEvent (some (.beginFrame frame)) (.frame "begin" frame targetUs)
  | endFrame {frame : ℕ} {targetUs : Option ℕ} :
      SameEvent (some (.endFrame frame)) (.frame "end" frame targetUs)
  | release {id : String} : SameEvent (some (.release (utf8 (strip id)))) (.release id)
  | register {id kind memory lifetime : String} {sizeBytes : ℕ} {aliases : List String}
      {layer : UInt8} (hlayer : (memory, layer.toNat) ∈ memoryLayers) :
      SameEvent (some (.register (utf8 (strip id)) layer (aliases.map utf8)))
        (.register id kind memory lifetime sizeBytes aliases)
  | operation {op : Native.Operation} {id : String} {wire : WireOperation}
      (hid : op.id = utf8 (strip id)) (same : SameOperation op wire) :
      SameEvent (some (.process op)) (.operation id wire)
  | snapshot : SameEvent none (.state "snapshot")

/-- The action of a session or of a frame. -/
theorem lifecycle_action {action : UInt8} {name : String}
    (h : (name, action.toNat) ∈ lifecycleOpcodes) :
    (action = 1 ∧ name = "begin") ∨ (action = 2 ∧ name = "end") := by
  unfold lifecycleOpcodes at h
  simp only [List.mem_cons, Prod.mk.injEq, List.not_mem_nil, or_false] at h
  rcases h with ⟨hname, hbyte⟩ | ⟨hname, hbyte⟩
  · exact .inl ⟨UInt8.toNat_inj.mp hbyte, hname⟩
  · exact .inr ⟨UInt8.toNat_inj.mp hbyte, hname⟩

/-- An end carries no budget, in the terms of either side. -/
theorem bare_end_iff {action presence : UInt8} {name : String}
    (h : (action = 1 ∧ name = "begin") ∨ (action = 2 ∧ name = "end")) :
    ¬ (action = 2 ∧ presence ≠ 0) ↔ ¬ (name = "end" ∧ presence.toNat ≠ 0) := by
  have hpresence : presence ≠ 0 ↔ presence.toNat ≠ 0 := not_congr UInt8.toNat_inj.symm
  rcases h with ⟨haction, hname⟩ | ⟨haction, hname⟩
  · rw [haction, hname]
    exact iff_of_true (fun h => absurd h.1 (by decide)) (fun h => absurd h.1 (by decide))
  · rw [haction, hname, eq_self, eq_self, true_and, true_and, hpresence]

/-- Both read the same session event, or both refuse it. -/
theorem sessionEvent_alike : Ends SameEvent Native.sessionEvent readSessionEvent := by
  unfold Native.sessionEvent readSessionEvent
  refine Ends.bind (enum_alike (spans_of_range rfl) _) ?_
  intro action name haction
  have hcases := lifecycle_action haction
  refine Ends.bind (mask_alike 63 "session") ?_
  intro presence bits hpresence
  obtain rfl : presence.toNat = bits := hpresence
  refine Ends.bind (Agree.require (bare_end_iff hcases) trivial) ?_
  intro _ _ _
  have hempty : (action == 2) = decide (name = "end") := by
    rcases hcases with ⟨haction, hname⟩ | ⟨haction, hname⟩
    · rw [haction, hname]
      decide
    · rw [haction, hname]
      decide
  rw [hempty]
  refine Ends.bind (text_alike 2 256 _ false) ?_
  intro text id _
  refine Ends.bind (present_alike presence 1 0 (integer_alike 4)) ?_
  intro _ frameUs _
  have hbudgets : Alike (List.Forall₂ fun _ _ => True)
      (each (fun bit : UInt8 => Native.present presence (1 <<< bit) Native.Reader.u64 0)
        [1, 2, 3, 4, 5])
      (each (fun item : String × ℕ => do
        let bytes ← PayloadReader.optional presence.toNat (1 <<< item.2) PayloadReader.u64
        return (item.1, bytes)) budgetBits) := by
    have hitem : ∀ (bit : UInt8) (item : String × ℕ), (1 <<< bit).toNat = 1 <<< item.2 →
        Alike (fun _ _ => True) (Native.present presence (1 <<< bit) Native.Reader.u64 0)
          (do
            let bytes ← PayloadReader.optional presence.toNat (1 <<< item.2) PayloadReader.u64
            return (item.1, bytes)) := by
      intro bit item hbit
      rw [← hbit, ← bind_pure (Native.present presence (1 <<< bit) Native.Reader.u64 0)]
      refine Agree.bind (present_alike presence (1 <<< bit) 0 (integer_alike 8)) ?_
      intro _ _ _
      exact Agree.pure trivial
    refine Agree.each ?_
    exact .cons (hitem 1 _ rfl) (.cons (hitem 2 _ rfl) (.cons (hitem 3 _ rfl)
      (.cons (hitem 4 _ rfl) (.cons (hitem 5 _ rfl) .nil))))
  refine Ends.bind hbudgets ?_
  intro _ budgets _
  refine Ends.finish ?_
  rcases hcases with ⟨haction, hname⟩ | ⟨haction, hname⟩
  · rw [haction, hname]
    exact .beginSession
  · rw [haction, hname]
    exact .endSession

/-- Both read the same frame event, or both refuse it. -/
theorem frameEvent_alike : Ends SameEvent Native.frameEvent readFrameEvent := by
  unfold Native.frameEvent readFrameEvent
  refine Ends.bind (enum_alike (spans_of_range rfl) _) ?_
  intro action name haction
  have hcases := lifecycle_action haction
  refine Ends.bind (mask_alike 1 "frame") ?_
  intro presence bits hpresence
  obtain rfl : presence.toNat = bits := hpresence
  refine Ends.bind (Agree.require (bare_end_iff hcases) trivial) ?_
  intro _ _ _
  refine Ends.bind (integer_alike 8) ?_
  intro frame _ hframe
  obtain ⟨rfl, -⟩ := hframe
  refine Ends.bind (present_alike presence 1 0 (integer_alike 4)) ?_
  intro _ targetUs _
  refine Ends.finish ?_
  rcases hcases with ⟨haction, hname⟩ | ⟨haction, hname⟩
  · rw [haction, hname]
    exact .beginFrame
  · rw [haction, hname]
    exact .endFrame

/-- The action of a resource. -/
theorem resource_action {action : UInt8} {name : String}
    (h : (name, action.toNat) ∈ resourceOpcodes) : action = 2 ↔ name = "release" := by
  unfold resourceOpcodes at h
  simp only [List.mem_cons, Prod.mk.injEq, List.not_mem_nil, or_false] at h
  rcases h with ⟨hname, hbyte⟩ | ⟨hname, hbyte⟩
  · have haction : action = 1 := UInt8.toNat_inj.mp hbyte
    rw [haction, hname]
    exact iff_of_false (by decide) (by decide)
  · have haction : action = 2 := UInt8.toNat_inj.mp hbyte
    exact iff_of_true haction hname

/-- Both read the same resource event, or both refuse it. -/
theorem resourceEvent_alike : Ends SameEvent Native.resourceEvent readResourceEvent := by
  unfold Native.resourceEvent readResourceEvent
  refine Ends.bind (enum_alike (spans_of_range rfl) _) ?_
  intro action name haction
  refine Ends.bind identifier_alike ?_
  intro text id hid
  rw [hid]
  by_cases hrelease : action = 2
  · rw [if_pos hrelease, if_pos ((resource_action haction).mp hrelease)]
    exact Ends.finish .release
  · rw [if_neg hrelease, if_neg fun hname => hrelease ((resource_action haction).mpr hname)]
    refine Ends.bind (enum_alike (spans_of_range rfl) _) ?_
    intro _ kind _
    refine Ends.bind (enum_alike (spans_of_range rfl) _) ?_
    intro layer memory hlayer
    refine Ends.bind (enum_alike (spans_of_range rfl) _) ?_
    intro _ lifetime _
    refine Ends.bind (integer_alike 8) ?_
    intro _ sizeBytes _
    refine identifiers_alike "alias" ?_
    intro aliases
    exact Ends.finish (.register hlayer)

/-- Both read the same operation event, or both refuse it. -/
theorem operationEvent_alike : Ends SameEvent Native.operationEvent readOperationEvent := by
  unfold Native.operationEvent Native.operation Native.operationId readOperationEvent
  simp only [bind_assoc]
  refine Ends.bind (operationHead_alike "operation") ?_
  intro head wire hhead
  refine Ends.bind identifier_alike ?_
  intro text id hid
  rw [hid]
  refine Ends.map (operationTail_alike hhead _) ?_
  intro op o hsame
  exact .operation hsame.1 hsame.2

/-- Both read the same state event, or both refuse it. -/
theorem stateEvent_alike : Ends SameEvent Native.stateEvent readStateEvent := by
  unfold Native.stateEvent readStateEvent
  refine Ends.bind (enum_alike (spans_of_range rfl) _) ?_
  intro action name haction
  have hname : name = "snapshot" := (Prod.mk.inj (List.mem_singleton.mp haction)).1
  rw [hname]
  exact Ends.finish .snapshot

/-- **The readers of an event accept the same payloads and read the same event.** -/
theorem readEvent_alike {subject : UInt8} {type : EventType}
    (h : eventOfOpcode subject.toNat = some type) (payload : Bytes) :
    Both SameEvent (Native.readEvent subject payload) ((readEvent type).run payload) := by
  unfold eventOfOpcode at h
  split at h
  · next hsubject =>
      obtain rfl : subject = 100 := UInt8.toNat_inj.mp hsubject
      cases h
      exact sessionEvent_alike.run Native.sessionEvent_malformed payload
  · next hsubject =>
      obtain rfl : subject = 101 := UInt8.toNat_inj.mp hsubject
      cases h
      exact frameEvent_alike.run Native.frameEvent_malformed payload
  · next hsubject =>
      obtain rfl : subject = 102 := UInt8.toNat_inj.mp hsubject
      cases h
      exact resourceEvent_alike.run Native.resourceEvent_malformed payload
  · next hsubject =>
      obtain rfl : subject = 103 := UInt8.toNat_inj.mp hsubject
      cases h
      exact operationEvent_alike.run Native.operationEvent_malformed payload
  · next hsubject =>
      obtain rfl : subject = 104 := UInt8.toNat_inj.mp hsubject
      cases h
      exact stateEvent_alike.run Native.stateEvent_malformed payload
  · cases h

/-- Both sides know the same events. -/
theorem readEvent_unknown {subject : UInt8} (h : eventOfOpcode subject.toNat = none)
    (payload : Bytes) :
    Native.readEvent subject payload = .error ⟨9, "Unsupported event opcode.", false⟩ := by
  have hne : ∀ known : UInt8, eventOfOpcode known.toNat ≠ none → subject ≠ known := by
    intro known hknown heq
    subst heq
    exact hknown h
  unfold Native.readEvent
  rw [if_neg (hne 100 (by decide)), if_neg (hne 101 (by decide)), if_neg (hne 102 (by decide)),
    if_neg (hne 103 (by decide)), if_neg (hne 104 (by decide))]

/-! ## Other requests -/

/-- A batch of the same operations. -/
structure SameBatch (request : Native.BatchRequest) (batch : WireBatch) : Prop where
  id : request.id = batch.batchId
  count : request.count = batch.operationCount
  template : SameOperation request.template batch.operation

/-- Both read the same batch, or both refuse it. -/
theorem readBatch_alike : Ends SameBatch Native.readBatch readBatch := by
  unfold Native.readBatch readBatch Native.operation Native.operationId
  simp only [bind_assoc, if_true, pure_bind]
  refine Ends.bind (take_alike 16) ?_
  intro id batchId hid
  have hnonzero : Native.nonzero id = true ↔ anyByte batchId = true := by
    rw [hid.1]
    rfl
  refine Ends.bind (Agree.require hnonzero trivial) ?_
  intro _ _ _
  refine Ends.bind (integer_alike 2) ?_
  intro count operationCount hcount
  have hrange : (count ≠ 0 ∧ count ≤ 256) ↔ (1 ≤ operationCount ∧ operationCount ≤ 256) := by
    rw [hcount.1, Nat.one_le_iff_ne_zero]
  refine Ends.bind (Agree.require hrange trivial) ?_
  intro _ _ _
  refine Ends.bind (operationHead_alike "operation batch") ?_
  intro head wire hhead
  refine Ends.map (operationTail_alike hhead []) ?_
  intro op o hsame
  exact ⟨hid.1, hcount.1, hsame.2⟩

/-- Both read the same nonce, or both refuse it. -/
theorem readNonce_alike :
    Ends (fun text value => text = utf8 value) Native.readNonce (PayloadReader.text8 128) := by
  have hread : PayloadReader.text8 128 = PayloadReader.text8 128 >>= pure := (bind_pure _).symm
  rw [hread]
  refine Ends.bind (text_alike 1 128 false false) ?_
  intro text value htext
  exact Ends.finish htext

/-- The same hello; the native side keeps nothing of the peer's name. -/
structure SameHello (native : Native.Hello) (hello : FluidLinkV2Hello) : Prop where
  digest : native.digest = hello.contractDigest
  requested : native.requested = hello.requestedCapabilities
  required : native.required = hello.requiredCapabilities
  length : native.digest.length = 32
  known : (native.requested ||| native.required) < 256

/-- Two masks together have known bits only exactly where each has: the C++ side checks
their union, the Python side one by one. -/
theorem or_lt_iff {a b : ℕ} : (a ||| b) < 256 ↔ a < 256 ∧ b < 256 := by
  constructor
  · intro h
    exact ⟨lt_of_le_of_lt Nat.left_le_or h, lt_of_le_of_lt Nat.right_le_or h⟩
  · intro h
    exact Nat.or_lt_two_pow (n := 8) h.1 h.2

/-- Two masks are checked together on the native side, one by one in the reference. -/
theorem masks_alike :
    Alike (fun a b => a = b ∧ (a.1 ||| a.2) < 256)
      (do
        let requested ← Native.Reader.u64
        let required ← Native.Reader.u64
        require ((requested ||| required) < 256) (Native.malformed "Unknown capabilities.")
        return (requested, required))
      (do
        let requested ← capabilityMask
        let required ← capabilityMask
        return (requested, required)) := by
  unfold capabilityMask
  simp only [bind_assoc, pure_bind]
  refine Agree.bind (integer_alike 8) ?_
  intro requested mask hrequested
  obtain ⟨rfl, -⟩ := hrequested
  by_cases hlow : requested < 256
  · have hclear : requested / 256 * 256 = 0 := by omega
    rw [require_bind hclear]
    refine Agree.bind (integer_alike 8) ?_
    intro required mask hrequired
    obtain ⟨rfl, -⟩ := hrequired
    have hknown : (requested ||| required) < 256 ↔ required / 256 * 256 = 0 := by
      rw [or_lt_iff]
      omega
    refine Agree.bind (Agree.require hknown trivial) ?_
    intro _ _ hmasks
    exact Agree.pure ⟨rfl, hmasks⟩
  · -- the native reader takes the second mask before it refuses the first
    have hclear : ¬ requested / 256 * 256 = 0 := by omega
    intro data _ hsame
    subst hsame
    rw [require_bind_error hclear]
    change Same _ _ _ ((Native.Reader.u64 data).bind _) _
    cases hread : Native.Reader.u64 data with
    | error e => exact .error trivial
    | ok x =>
        have hunknown : ¬ (requested ||| x.1) < 256 := fun h => hlow (or_lt_iff.mp h).1
        change Same _ _ _ ((require _ _ >>= _ : Native.Reader (ℕ × ℕ)) x.2) _
        rw [require_bind_error hunknown]
        exact .error trivial

/-- Reading two masks and checking them together ends alike with checking each as it is
read. -/
theorem masks_bind {α β : Type} {value : α → β → Prop} {k : ℕ → ℕ → Native.Reader α}
    {l : ℕ → ℕ → PayloadReader β}
    (h : ∀ a b, (a ||| b) < 256 → Ends value (k a b) (l a b)) :
    Ends value
      (do
        let requested ← Native.Reader.u64
        let required ← Native.Reader.u64
        require ((requested ||| required) < 256) (Native.malformed "Unknown capabilities.")
        k requested required)
      (do
        let requested ← capabilityMask
        let required ← capabilityMask
        l requested required) := by
  have hrest : ∀ a b : ℕ × ℕ, a = b ∧ (a.1 ||| a.2) < 256 →
      Ends value (k a.1 a.2) (l b.1 b.2) := by
    intro a b hab
    rw [← hab.1]
    exact h a.1 a.2 hab.2
  have hboth := Ends.bind masks_alike hrest
  simpa only [bind_assoc, pure_bind] using hboth

/-- Both read the same hello, or both refuse it. -/
theorem readHello_alike : Ends SameHello Native.readHello readHello := by
  unfold Native.readHello readHello
  refine Ends.bind (take_alike 32) ?_
  intro digest contractDigest hdigest
  apply masks_bind
  intro requested required hknown
  refine Ends.bind (text_alike 1 128 false false) ?_
  intro _ clientName _
  refine Ends.bind (text_alike 1 64 false false) ?_
  intro _ clientVersion _
  exact Ends.finish ⟨hdigest.1, rfl, rfl, hdigest.2, hknown⟩

end FluidGateway.FluidLink
