import FluidGateway.WireFormat

/-!
# What the native readers accept

A reader succeeds exactly when its input begins with the bytes that are written
for the value it returns.  There is one lemma for each reader; an inversion of
a whole payload is a rewriting with them and `bind_eq_ok`.  Everything else is
malformed: the error of every reader has code 10 and closes nothing
(`readEvent_error`).
-/

namespace FluidGateway.Native.Reader

open Reading

/-- Running a reader on a payload gives what it reads, whatever it leaves of the payload. -/
theorem run_eq_ok {α : Type} {p : Reader α} {data : Bytes} {a : α} :
    p.run data = .ok a ↔ ∃ rest, p data = .ok (a, rest) := by
  unfold Reader.run
  cases p data with
  | error e => simp [Except.map]
  | ok x => simp [Except.map, Prod.ext_iff]

/-- Reading bytes of a count succeeds exactly where the payload begins with so many. -/
theorem take_eq_ok {n : Nat} {data bytes rest : Bytes} :
    take n data = .ok (bytes, rest) ↔ data = bytes ++ rest ∧ bytes.length = n := by
  unfold take
  split_ifs with h
  · constructor
    · intro hread
      cases hread
    · intro hread
      obtain ⟨rfl, rfl⟩ := hread
      rw [List.length_append] at h
      omega
  · constructor
    · intro hread
      obtain ⟨rfl, rfl⟩ := Prod.mk.inj (Except.ok.inj hread)
      exact ⟨(List.take_append_drop n data).symm, by rw [List.length_take]; omega⟩
    · intro hread
      obtain ⟨rfl, rfl⟩ := hread
      rw [List.take_left, List.drop_left]

/-- An integer is read exactly where its little-endian bytes come next; every value that
fits has them. -/
theorem integer_eq_ok {n : Nat} {data rest : Bytes} {value : Nat} :
    integer n data = .ok (value, rest) ↔
      value < 256 ^ n ∧ data = LittleEndian.encode value n ++ rest := by
  rw [← LittleEndian.split_iff]
  unfold integer
  simp only [bind_eq_ok, pure_eq_ok, take_eq_ok, Prod.mk.injEq]
  grind

/-- One byte is read exactly where one is left. -/
theorem u8_eq_ok {data rest : Bytes} {b : UInt8} :
    u8 data = .ok (b, rest) ↔ data = b :: rest := by
  unfold u8
  simp only [bind_eq_ok, pure_eq_ok, integer_eq_ok, Prod.mk.injEq]
  constructor
  · intro h
    obtain ⟨value, _, ⟨_, rfl⟩, rfl, rfl⟩ := h
    rfl
  · intro h
    have hb := b.toNat_lt
    refine ⟨b.toNat, rest, ⟨by omega, ?_⟩, (UInt8.ofNat_toNat).symm, rfl⟩
    unfold LittleEndian.encode LittleEndian.encode
    rw [h, UInt8.ofNat_toNat]
    rfl

/-- Two bytes are read as the value whose encoding they are. -/
theorem u16_eq_ok {data rest : Bytes} {value : Nat} :
    u16 data = .ok (value, rest) ↔ value < 256 ^ 2 ∧ data = LittleEndian.encode value 2 ++ rest :=
  integer_eq_ok

/-- Four bytes are read as the value whose encoding they are. -/
theorem u32_eq_ok {data rest : Bytes} {value : Nat} :
    u32 data = .ok (value, rest) ↔ value < 256 ^ 4 ∧ data = LittleEndian.encode value 4 ++ rest :=
  integer_eq_ok

/-- Eight bytes are read as the value whose encoding they are. -/
theorem u64_eq_ok {data rest : Bytes} {value : Nat} :
    u64 data = .ok (value, rest) ↔ value < 256 ^ 8 ∧ data = LittleEndian.encode value 8 ++ rest :=
  integer_eq_ok

/-- An enumeration is read exactly where the next byte is in its range. -/
theorem choice_eq_ok {low high b : UInt8} {data rest : Bytes} :
    choice low high data = .ok (b, rest) ↔ data = b :: rest ∧ low ≤ b ∧ b ≤ high := by
  unfold choice
  simp only [bind_eq_ok, u8_eq_ok, require_eq_ok, pure_eq_ok, Prod.mk.injEq]
  grind

/-- A presence mask is read exactly where the next byte has no other bits. -/
theorem mask_eq_ok {allowed b : UInt8} {data rest : Bytes} :
    mask allowed data = .ok (b, rest) ↔ data = b :: rest ∧ b &&& ~~~allowed = 0 := by
  unfold mask
  simp only [bind_eq_ok, u8_eq_ok, require_eq_ok, pure_eq_ok, Prod.mk.injEq]
  grind

/-- An identity is read exactly where its 16 bytes come next. -/
theorem identity_eq_ok {data rest : Bytes} {id : Identity} :
    identity data = .ok (id, rest) ↔ data = id.toList ++ rest := by
  unfold identity
  split_ifs with h
  · constructor
    · intro hread
      cases hread
    · intro hread
      rw [hread, List.length_append, Vector.length_toList] at h
      omega
  · constructor
    · intro hread
      obtain ⟨rfl, rfl⟩ := Prod.mk.inj (Except.ok.inj hread)
      exact (List.take_append_drop 16 data).symm
    · intro hread
      subst hread
      have hlength : id.toList.length = 16 := Vector.length_toList
      rw [Except.ok.injEq, Prod.mk.injEq]
      refine ⟨?_, List.drop_left' hlength⟩
      apply Vector.toArray_inj.mp
      exact (congrArg List.toArray (List.take_left' hlength)).trans Array.toArray_toList

/-- A text that was read is no longer than its limit, since the limit is checked before its
bytes are taken. -/
theorem text_length {n maximum : Nat} {empty : Bool} {data rest : Bytes} {t : Text}
    (h : text n maximum empty false data = .ok (t, rest)) : t.length ≤ maximum := by
  unfold text at h
  obtain ⟨size, _, _, h⟩ := bind_eq_ok.mp h
  obtain ⟨_, _, hsize, h⟩ := bind_eq_ok.mp h
  obtain ⟨value, _, hvalue, h⟩ := bind_eq_ok.mp h
  obtain ⟨_, _, _, h⟩ := bind_eq_ok.mp h
  obtain ⟨_, _, _, h⟩ := bind_eq_ok.mp h
  obtain ⟨rfl, _⟩ := Prod.mk.inj (pure_eq_ok.mp h)
  obtain ⟨_, hlength⟩ := take_eq_ok.mp hvalue
  obtain ⟨hlimit, _⟩ := require_eq_ok.mp hsize
  exact le_of_eq_of_le hlength hlimit

end FluidGateway.Native.Reader

namespace FluidGateway.Native

open Reading

/-- An operation begins with three bytes. -/
theorem operationHead_eq_ok {data : Bytes} {x : (UInt8 × UInt8 × UInt8) × Bytes} :
    operationHead data = .ok x ↔ ∃ type queue presence rest,
      data = type :: queue :: presence :: rest ∧ (1 ≤ type ∧ type ≤ 7) ∧ (0 ≤ queue ∧ queue ≤ 5) ∧
        presence &&& ~~~15 = 0 ∧ x = ((type, queue, presence), rest) := by
  unfold operationHead
  simp only [bind_eq_ok, Reader.choice_eq_ok, Reader.mask_eq_ok, pure_eq_ok]
  grind

/-- What a batch request says. -/
theorem readBatch_spec {payload : Bytes} {batch : BatchRequest}
    (h : readBatch.run payload = .ok batch) :
    batch.id = payload.take 16 ∧ batch.id.length = 16 ∧ nonzero batch.id = true ∧
      0 < batch.count ∧ batch.count ≤ 256 ∧
      ∃ type queue presence data rest, payload.drop 18 = type :: queue :: presence :: data ∧
        ((1 ≤ type ∧ type ≤ 7) ∧ (0 ≤ queue ∧ queue ≤ 5) ∧ presence &&& ~~~15 = 0) ∧
        operationTail type queue presence [] data = .ok (batch.template, rest) := by
  obtain ⟨_, hread⟩ := Reader.run_eq_ok.mp h
  unfold readBatch operation operationId at hread
  simp only [bind_eq_ok, require_eq_ok, pure_eq_ok, Reader.take_eq_ok, Reader.u16_eq_ok,
    operationHead_eq_ok, if_true] at hread
  obtain ⟨id, _, ⟨hid, hlength⟩, _, _, ⟨hnonzero, hunit⟩, count, _, ⟨_, hcount⟩,
    _, _, ⟨hrange, hunit'⟩, template, _, ⟨_, _, ⟨type, queue, presence, data, hdata, htype, hqueue,
    hpresence, hhead⟩, _, _, hnone, htail⟩, hbatch⟩ := hread
  obtain ⟨rfl, rfl⟩ := Prod.mk.inj hunit
  obtain ⟨rfl, rfl⟩ := Prod.mk.inj hunit'
  obtain ⟨rfl, rfl⟩ := Prod.mk.inj hhead
  obtain ⟨rfl, rfl⟩ := Prod.mk.inj hnone
  obtain ⟨rfl, rfl⟩ := Prod.mk.inj hbatch
  have hfront : (id ++ LittleEndian.encode count 2).length = 18 := by
    rw [List.length_append, hlength, LittleEndian.encode_length]
  refine ⟨?_, hlength, hnonzero, Nat.pos_of_ne_zero hrange.1, hrange.2, type, queue, presence,
    _, _, ?_, ⟨htype, hqueue, hpresence⟩, htail⟩
  · rw [hid, List.take_left' hlength]
  · rw [hid, hcount, ← List.append_assoc, List.drop_left' hfront, hdata]

/-- A nonce that was read fits where a pong is written. -/
theorem readNonce_length {payload : Bytes} {nonce : Text}
    (h : readNonce.run payload = .ok nonce) : nonce.length ≤ 128 := by
  obtain ⟨_, hread⟩ := Reader.run_eq_ok.mp h
  unfold readNonce at hread
  obtain ⟨_, _, htext, hread⟩ := bind_eq_ok.mp hread
  obtain ⟨_, _, _, hread⟩ := bind_eq_ok.mp hread
  obtain ⟨rfl, _⟩ := Prod.mk.inj (pure_eq_ok.mp hread)
  exact Reader.text_length htext

/-- The digest of a hello that was read has the length of a hash. -/
theorem readHello_digest {payload : Bytes} {hello : Hello}
    (h : readHello.run payload = .ok hello) : hello.digest.length = 32 := by
  obtain ⟨rest, hread⟩ := Reader.run_eq_ok.mp h
  unfold readHello at hread
  obtain ⟨digest, _, hdigest, hread⟩ := bind_eq_ok.mp hread
  obtain ⟨_, hlength⟩ := Reader.take_eq_ok.mp hdigest
  obtain ⟨_, _, _, hread⟩ := bind_eq_ok.mp hread
  obtain ⟨_, _, _, hread⟩ := bind_eq_ok.mp hread
  obtain ⟨_, _, _, hread⟩ := bind_eq_ok.mp hread
  obtain ⟨_, _, _, hread⟩ := bind_eq_ok.mp hread
  obtain ⟨_, _, _, hread⟩ := bind_eq_ok.mp hread
  obtain ⟨_, _, _, hread⟩ := bind_eq_ok.mp hread
  obtain ⟨rfl, rfl⟩ := Prod.mk.inj (pure_eq_ok.mp hread)
  exact hlength

/-! ## Malformed payloads -/

/-- The texts that a reader fails with. -/
def readerTexts : List String :=
  ["Invalid UTF-8.", "Truncated UTF-8.", "Invalid UTF-8 continuation.", "Invalid UTF-8 scalar.",
    "Truncated payload.", "Invalid enum.", "Invalid presence mask.", "Text exceeds its limit.",
    "Blank text.", "Trailing payload bytes.", "End cannot carry budgets.",
    "End cannot carry frame budget.", "Unknown capabilities.", "Zero batch identity.",
    "Invalid batch count."]

/-- The error of a reader. -/
structure Malformed (e : Error) : Prop where
  code : e.code = 10
  fatal : e.fatal = false
  text : e.message ∈ readerTexts

/-- The message of a reader stands for a malformed payload. -/
theorem malformed_of_mem {message : String} (h : message ∈ readerTexts) :
    Malformed (malformed message) :=
  ⟨rfl, rfl, h⟩

variable {e : Error}

/-- A byte that begins no code point is refused as malformed. -/
theorem leadByte_malformed {lead : UInt8} (h : leadByte lead = .error e) : Malformed e := by
  unfold leadByte at h
  split_ifs at h
  cases h
  exact malformed_of_mem (by simp [readerTexts])

/-- A code point that is cut short is refused as malformed; the induction is on the bytes
that are missing. -/
theorem continuation_malformed {count cp : Nat} {text : Text}
    (h : continuation count cp text = .error e) : Malformed e := by
  induction count generalizing cp text with
  | zero => cases h
  | succ count ih =>
      cases text with
      | nil =>
          cases h
          exact malformed_of_mem (by simp [readerTexts])
      | cons next text =>
          unfold continuation at h
          split_ifs at h
          · cases h
            exact malformed_of_mem (by simp [readerTexts])
          · exact ih h

/-- A code point that is overlong, a surrogate or out of range is refused as malformed. -/
theorem scalar_malformed {lead : UInt8} {text : Text} (h : scalar lead text = .error e) :
    Malformed e := by
  unfold scalar at h
  cases hlead : leadByte lead with
  | error e' =>
      rw [hlead] at h
      cases h
      exact leadByte_malformed hlead
  | ok x =>
      rw [hlead] at h
      change (continuation x.2.1 x.1 text).bind _ = .error e at h
      cases hrest : continuation x.2.1 x.1 text with
      | error e' =>
          rw [hrest] at h
          cases h
          exact continuation_malformed hrest
      | ok y =>
          rw [hrest] at h
          simp only [Except.bind] at h
          split_ifs at h
          cases h
          exact malformed_of_mem (by simp [readerTexts])

/-- The walk over a text raises nothing but what one code point raises. -/
theorem trimLoop_malformed {fuel offset : Nat} {span : Nat × Nat} {text : Text}
    (h : trimLoop fuel offset span text = .error e) : Malformed e := by
  induction fuel generalizing offset span text with
  | zero => cases h
  | succ fuel ih =>
      cases text with
      | nil => cases h
      | cons lead text =>
          change (scalar lead text).bind _ = .error e at h
          cases hscalar : scalar lead text with
          | error e' =>
              rw [hscalar] at h
              cases h
              exact scalar_malformed hscalar
          | ok x =>
              rw [hscalar] at h
              exact ih h

/-- A text that is not UTF-8 is refused as malformed. -/
theorem trimmedUtf8_malformed {text : Text} (h : trimmedUtf8 text = .error e) : Malformed e := by
  unfold trimmedUtf8 at h
  cases hloop : trimLoop text.length 0 (text.length, 0) text with
  | error e' =>
      rw [hloop] at h
      cases h
      exact trimLoop_malformed hloop
  | ok span =>
      rw [hloop] at h
      cases h

namespace Reader

/-- A payload that is cut short is refused as malformed. -/
theorem take_malformed (n : Nat) : Fails Malformed (take n) := by
  intro data e h
  unfold take at h
  split_ifs at h
  cases h
  exact malformed_of_mem (by simp [readerTexts])

/-- An integer that is cut short is refused as malformed. -/
theorem integer_malformed (n : Nat) : Fails Malformed (integer n) :=
  (take_malformed n).bind fun _ => .pure _

/-- A missing byte is refused as malformed. -/
theorem u8_malformed : Fails Malformed u8 :=
  (integer_malformed 1).bind fun _ => .pure _

/-- A byte out of its range is refused as malformed. -/
theorem choice_malformed (low high : UInt8) : Fails Malformed (choice low high) :=
  u8_malformed.bind fun _ =>
    Fails.bind (.require (malformed_of_mem (by simp [readerTexts]))) fun _ => .pure _

/-- A mask with unknown bits is refused as malformed. -/
theorem mask_malformed (allowed : UInt8) : Fails Malformed (mask allowed) :=
  u8_malformed.bind fun _ =>
    Fails.bind (.require (malformed_of_mem (by simp [readerTexts]))) fun _ => .pure _

/-- A text that is cut short, too long, ill-formed or blank is refused as malformed. -/
theorem text_malformed (lengthBytes maximum : Nat) (empty trim : Bool) :
    Fails Malformed (text lengthBytes maximum empty trim) := by
  unfold text
  refine (integer_malformed lengthBytes).bind fun n => ?_
  refine Fails.bind (.require (malformed_of_mem (by simp [readerTexts]))) fun _ => ?_
  refine (take_malformed n).bind fun value => ?_
  refine Fails.bind (.lift fun e => trimmedUtf8_malformed) fun stripped => ?_
  exact Fails.bind (.require (malformed_of_mem (by simp [readerTexts]))) fun _ => .pure _

/-- Bytes behind the last field are refused as malformed. -/
theorem finish_malformed : Fails Malformed finish := by
  intro data e h
  unfold finish at h
  split_ifs at h
  cases h
  exact malformed_of_mem (by simp [readerTexts])

/-- Running a reader raises what the reader raises. -/
theorem run_malformed {α : Type} {p : Reader α} (h : Fails Malformed p) {data : Bytes}
    (hrun : p.run data = .error e) : Malformed e := by
  unfold run at hrun
  cases hp : p data with
  | error e' =>
      rw [hp] at hrun
      cases hrun
      exact h data e hp
  | ok x =>
      rw [hp] at hrun
      cases hrun

end Reader

open Reader

/-- A field that may be absent is refused as the field is. -/
theorem present_malformed {α : Type} {presence bit : UInt8} {p : Reader α} {default : α}
    (h : Fails Malformed p) : Fails Malformed (present presence bit p default) :=
  .ite h (.pure default)

/-- Whatever is wrong with an operation is refused as malformed. -/
theorem operation_malformed (batch : Bool) : Fails Malformed (operation batch) := by
  unfold operation operationHead operationId operationTail
  refine Fails.bind ?_ fun head => Fails.bind (.ite (.pure []) (text_malformed _ _ _ _)) fun id => ?_
  · refine (choice_malformed 1 7).bind fun type => (choice_malformed 0 5).bind fun queue => ?_
    exact (mask_malformed 15).bind fun presence => .pure _
  · refine (present_malformed (text_malformed _ _ _ _)).bind fun source => ?_
    refine (present_malformed (text_malformed _ _ _ _)).bind fun target => ?_
    refine (present_malformed (text_malformed _ _ _ _)).bind fun reason => ?_
    refine (integer_malformed 4).bind fun microseconds => (integer_malformed 8).bind fun bytes => ?_
    refine (present_malformed (integer_malformed 8).map).bind fun frame => ?_
    refine (choice_malformed 0 32).bind fun count => ?_
    refine (Fails.each (fun _ => text_malformed _ _ _ _) _).bind fun dependencies => ?_
    exact finish_malformed.bind fun _ => .pure _

/-- Whatever is wrong with a session event is refused as malformed. -/
theorem sessionEvent_malformed : Fails Malformed sessionEvent := by
  unfold sessionEvent
  refine (choice_malformed 1 2).bind fun action => (mask_malformed 63).bind fun presence => ?_
  refine Fails.bind (.require (malformed_of_mem (by simp [readerTexts]))) fun _ => ?_
  refine (text_malformed _ _ _ _).bind fun id => ?_
  refine (present_malformed (integer_malformed 4)).bind fun target => ?_
  refine (Fails.each (fun _ => present_malformed (integer_malformed 8)) _).bind fun budgets => ?_
  exact finish_malformed.bind fun _ => .pure _

/-- Whatever is wrong with a frame event is refused as malformed. -/
theorem frameEvent_malformed : Fails Malformed frameEvent := by
  unfold frameEvent
  refine (choice_malformed 1 2).bind fun action => (mask_malformed 1).bind fun presence => ?_
  refine Fails.bind (.require (malformed_of_mem (by simp [readerTexts]))) fun _ => ?_
  refine (integer_malformed 8).bind fun frame => ?_
  refine (present_malformed (integer_malformed 4)).bind fun target => ?_
  exact finish_malformed.bind fun _ => .pure _

/-- Whatever is wrong with a resource event is refused as malformed. -/
theorem resourceEvent_malformed : Fails Malformed resourceEvent := by
  unfold resourceEvent
  refine (choice_malformed 1 2).bind fun action => (text_malformed _ _ _ _).bind fun id => ?_
  refine .ite (finish_malformed.bind fun _ => .pure _) ?_
  refine (choice_malformed 0 4).bind fun kind => (choice_malformed 1 6).bind fun layer => ?_
  refine (choice_malformed 0 4).bind fun lifetime => (integer_malformed 8).bind fun size => ?_
  refine (choice_malformed 0 32).bind fun count => ?_
  refine (Fails.each (fun _ => text_malformed _ _ _ _) _).bind fun aliases => ?_
  exact finish_malformed.bind fun _ => .pure _

/-- An operation event raises what its operation raises. -/
theorem operationEvent_malformed : Fails Malformed operationEvent :=
  (operation_malformed false).bind fun _ => .pure _

/-- Whatever is wrong with a state event is refused as malformed. -/
theorem stateEvent_malformed : Fails Malformed stateEvent :=
  (choice_malformed 1 1).bind fun _ => finish_malformed.bind fun _ => .pure _

/-- Whatever is wrong with a hello is refused as malformed. -/
theorem readHello_malformed : Fails Malformed readHello := by
  unfold readHello
  refine (take_malformed 32).bind fun digest => (integer_malformed 8).bind fun requested => ?_
  refine (integer_malformed 8).bind fun required => ?_
  refine Fails.bind (.require (malformed_of_mem (by simp [readerTexts]))) fun _ => ?_
  refine (text_malformed _ _ _ _).bind fun name => (text_malformed _ _ _ _).bind fun version => ?_
  exact finish_malformed.bind fun _ => .pure _

/-- Whatever is wrong with a batch is refused as malformed. -/
theorem readBatch_malformed : Fails Malformed readBatch := by
  unfold readBatch
  refine (take_malformed 16).bind fun id => ?_
  refine Fails.bind (.require (malformed_of_mem (by simp [readerTexts]))) fun _ => ?_
  refine (integer_malformed 2).bind fun count => ?_
  refine Fails.bind (.require (malformed_of_mem (by simp [readerTexts]))) fun _ => ?_
  exact (operation_malformed true).bind fun template => .pure _

/-- Whatever is wrong with a ping is refused as malformed. -/
theorem readNonce_malformed : Fails Malformed readNonce :=
  (text_malformed _ _ _ _).bind fun _ => finish_malformed.bind fun _ => .pure _

/-- An event is malformed, or of no known kind. -/
theorem readEvent_error {subject : UInt8} {payload : Bytes}
    (h : readEvent subject payload = .error e) :
    Malformed e ∨ e = ⟨9, "Unsupported event opcode.", false⟩ := by
  unfold readEvent at h
  split_ifs at h
  · exact .inl (run_malformed sessionEvent_malformed h)
  · exact .inl (run_malformed frameEvent_malformed h)
  · exact .inl (run_malformed resourceEvent_malformed h)
  · exact .inl (run_malformed operationEvent_malformed h)
  · exact .inl (run_malformed stateEvent_malformed h)
  · exact .inr (Except.error.inj h).symm

end FluidGateway.Native
