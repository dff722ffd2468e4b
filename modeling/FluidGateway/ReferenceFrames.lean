import FluidGateway.FrameCodec
import FluidGateway.Lib.Chunks

/-!
# The reference frame codec

The frames of `fluidgateway/fluidlink_v2.py`.  The reference unpacks the whole
header at once, checks it field by field, and validates what it has built; the
native codec reads along the bytes.  Both accept the same frames
(`decodeFluidlinkV2Frame_eq_ok`).
-/

namespace FluidGateway.FluidLink

open Native (Bytes literal)

/-- `FluidLinkProtocolError`. -/
structure FluidLinkProtocolError where
  code : String
  message : String
  deriving DecidableEq, Repr

/-- `if condition: raise error`. -/
def refuse (condition : Prop) [Decidable condition] (code message : String) :
    Except FluidLinkProtocolError Unit :=
  if condition then .error ⟨code, message⟩ else .ok ()

/-- `FluidLinkFrameKind`. -/
inductive FluidLinkFrameKind where
  | request | response
  deriving DecidableEq, Repr

/-- The byte of a kind. -/
def FluidLinkFrameKind.value : FluidLinkFrameKind → Nat
  | .request => 1
  | .response => 2

/-- `FluidLinkFrameKind(value)`, which raises on any other byte. -/
def FluidLinkFrameKind.ofValue : Nat → Option FluidLinkFrameKind
  | 1 => some .request
  | 2 => some .response
  | _ => none

/-- `FluidLinkV2Frame`. -/
structure FluidLinkV2Frame where
  kind : FluidLinkFrameKind
  opcode : Nat
  subjectOpcode : Nat
  decisionOpcode : Nat
  flags : Nat
  sequence : Nat
  messageId : Bytes
  sessionId : Option Bytes
  payload : Bytes
  deriving DecidableEq, Repr

/-- `ok`, the lowest bit of the flags. -/
def FluidLinkV2Frame.ok (frame : FluidLinkV2Frame) : Bool :=
  frame.flags &&& 1 ≠ 0

/-! ## The header -/

/-- The fields of `FLUIDLINK_V2_HEADER`, which is `<4sBBBBBBHQ16s16sI`. -/
@[ext] structure Header where
  magic : Bytes
  wireVersion : Nat
  kindValue : Nat
  opcode : Nat
  subjectOpcode : Nat
  decisionOpcode : Nat
  flags : Nat
  reserved : Nat
  sequence : Nat
  messageId : Bytes
  sessionBytes : Bytes
  payloadSize : Nat

namespace Header

/-- The widths of the twelve fields, as in the format of the `Struct`. -/
def sizes : List Nat := [4, 1, 1, 1, 1, 1, 1, 2, 8, 16, 16, 4]

/-- The bytes of the fields, in their order. -/
def pieces (h : Header) : List Bytes :=
  [h.magic, LittleEndian.encode h.wireVersion 1, LittleEndian.encode h.kindValue 1,
    LittleEndian.encode h.opcode 1, LittleEndian.encode h.subjectOpcode 1,
    LittleEndian.encode h.decisionOpcode 1, LittleEndian.encode h.flags 1,
    LittleEndian.encode h.reserved 2, LittleEndian.encode h.sequence 8, h.messageId,
    h.sessionBytes, LittleEndian.encode h.payloadSize 4]

/-- `pack` of the `Struct`. -/
def pack (h : Header) : Bytes :=
  h.pieces.flatten

/-- `unpack` of the `Struct`. -/
def unpack (data : Bytes) : Header :=
  let pieces := Chunks.cut sizes data
  let piece (i : Nat) : Bytes := pieces.getD i []
  let number (i : Nat) : Nat := LittleEndian.decode (piece i)
  { magic := piece 0
    wireVersion := number 1
    kindValue := number 2
    opcode := number 3
    subjectOpcode := number 4
    decisionOpcode := number 5
    flags := number 6
    reserved := number 7
    sequence := number 8
    messageId := piece 9
    sessionBytes := piece 10
    payloadSize := number 11 }

/-- The values that the fields of a header can hold. -/
structure Fits (h : Header) : Prop where
  magic : h.magic.length = 4
  wireVersion : h.wireVersion < 256
  kindValue : h.kindValue < 256
  opcode : h.opcode < 256
  subjectOpcode : h.subjectOpcode < 256
  decisionOpcode : h.decisionOpcode < 256
  flags : h.flags < 256
  reserved : h.reserved < 256 ^ 2
  sequence : h.sequence < 256 ^ 8
  messageId : h.messageId.length = 16
  sessionBytes : h.sessionBytes.length = 16
  payloadSize : h.payloadSize < 256 ^ 4

/-- The fields of a header that fits have the widths of the format. -/
theorem Fits.map_length {h : Header} (hfits : h.Fits) : h.pieces.map List.length = sizes := by
  unfold pieces sizes
  simp only [List.map_cons, List.map_nil, LittleEndian.encode_length, hfits.magic,
    hfits.messageId, hfits.sessionBytes]

/-- A header that fits is packed into 56 bytes. -/
theorem Fits.pack_length {h : Header} (hfits : h.Fits) : h.pack.length = 56 := by
  unfold pack
  rw [List.length_flatten, hfits.map_length]
  rfl

/-- What is packed is unpacked as it was, whatever follows it. -/
theorem unpack_pack {h : Header} (hfits : h.Fits) (rest : Bytes) :
    unpack (h.pack ++ rest) = h := by
  have hcut : Chunks.cut sizes (h.pack ++ rest) = h.pieces := by
    rw [← hfits.map_length]
    exact Chunks.cut_flatten h.pieces rest
  obtain ⟨hmagic, hwire, hkind, hopcode, hsubject, hdecision, hflags, hreserved, hsequence,
    hmessage, hsession, hsize⟩ := hfits
  unfold unpack
  rw [hcut]
  unfold pieces
  simp only [List.getD_cons_zero, List.getD_cons_succ]
  rw [LittleEndian.decode_encode (by omega), LittleEndian.decode_encode (by omega),
    LittleEndian.decode_encode (by omega), LittleEndian.decode_encode (by omega),
    LittleEndian.decode_encode (by omega), LittleEndian.decode_encode (by omega),
    LittleEndian.decode_encode hreserved, LittleEndian.decode_encode hsequence,
    LittleEndian.decode_encode hsize]

/-- What is unpacked from 56 bytes is packed into the same bytes. -/
theorem pack_unpack {data : Bytes} (h : data.length = 56) :
    (unpack data).Fits ∧ (unpack data).pack = data := by
  have hsum : data.length = sizes.sum := h
  have hlengths := Chunks.map_length_cut hsum
  have hflatten := Chunks.flatten_cut hsum
  unfold unpack
  generalize Chunks.cut sizes data = chunks at hlengths hflatten
  unfold sizes at hlengths
  obtain ⟨p₀, chunks, rfl, h₀, hlengths⟩ := List.map_eq_cons_iff.mp hlengths
  obtain ⟨p₁, chunks, rfl, h₁, hlengths⟩ := List.map_eq_cons_iff.mp hlengths
  obtain ⟨p₂, chunks, rfl, h₂, hlengths⟩ := List.map_eq_cons_iff.mp hlengths
  obtain ⟨p₃, chunks, rfl, h₃, hlengths⟩ := List.map_eq_cons_iff.mp hlengths
  obtain ⟨p₄, chunks, rfl, h₄, hlengths⟩ := List.map_eq_cons_iff.mp hlengths
  obtain ⟨p₅, chunks, rfl, h₅, hlengths⟩ := List.map_eq_cons_iff.mp hlengths
  obtain ⟨p₆, chunks, rfl, h₆, hlengths⟩ := List.map_eq_cons_iff.mp hlengths
  obtain ⟨p₇, chunks, rfl, h₇, hlengths⟩ := List.map_eq_cons_iff.mp hlengths
  obtain ⟨p₈, chunks, rfl, h₈, hlengths⟩ := List.map_eq_cons_iff.mp hlengths
  obtain ⟨p₉, chunks, rfl, h₉, hlengths⟩ := List.map_eq_cons_iff.mp hlengths
  obtain ⟨p₁₀, chunks, rfl, h₁₀, hlengths⟩ := List.map_eq_cons_iff.mp hlengths
  obtain ⟨p₁₁, chunks, rfl, h₁₁, hlengths⟩ := List.map_eq_cons_iff.mp hlengths
  obtain rfl := List.map_eq_nil_iff.mp hlengths
  have hlt : ∀ {p : Bytes} {n : Nat}, p.length = n → LittleEndian.decode p < 256 ^ n := by
    intro p n hp
    rw [← hp]
    exact LittleEndian.decode_lt p
  have hencode : ∀ {p : Bytes} {n : Nat}, p.length = n →
      LittleEndian.encode (LittleEndian.decode p) n = p := by
    intro p n hp
    rw [← hp]
    exact LittleEndian.encode_decode p
  refine ⟨⟨h₀, hlt h₁, hlt h₂, hlt h₃, hlt h₄, hlt h₅, hlt h₆, hlt h₇, hlt h₈, h₉, h₁₀,
    hlt h₁₁⟩, ?_⟩
  unfold pack pieces
  simp only [List.getD_cons_zero, List.getD_cons_succ, hencode h₁, hencode h₂, hencode h₃,
    hencode h₄, hencode h₅, hencode h₆, hencode h₇, hencode h₈, hencode h₁₁]
  exact hflatten

end Header

/-! ## The codec -/

/-- `any(data)`. -/
def anyByte (data : Bytes) : Bool :=
  data.any fun byte => byte != 0

/-- One field of a header that has to fit in one byte. -/
def refuseWide (name : String) (value : Nat) : Except FluidLinkProtocolError Unit :=
  refuse (255 < value) ("invalid_" ++ name) ("FluidLink " ++ name ++ " must fit in one byte.")

/-- The kind and the byte strings of a frame have the types that its fields
are declared with. -/
def validateFluidlinkV2Frame (frame : FluidLinkV2Frame) : Except FluidLinkProtocolError Unit := do
  refuse (Native.maxPayload < frame.payload.length) "payload_too_large"
    "FluidLink v2 payload exceeds the 65,535-byte limit."
  refuse (frame.messageId.length ≠ 16 ∨ anyByte frame.messageId = false) "invalid_message_id"
    "FluidLink message_id must contain 16 nonzero bytes."
  refuse (¬ (1 ≤ frame.sequence ∧ frame.sequence ≤ 0xFFFFFFFFFFFFFFFF)) "invalid_sequence"
    "FluidLink sequence must be an unsigned nonzero 64-bit integer."
  refuseWide "opcode" frame.opcode
  refuseWide "subject_opcode" frame.subjectOpcode
  refuseWide "decision_opcode" frame.decisionOpcode
  refuseWide "flags" frame.flags
  -- `flags & ~3`
  refuse (frame.flags - (frame.flags &&& 3) ≠ 0) "invalid_flags"
    "FluidLink v2 frame contains unknown flags."
  refuse (¬ (frame.flags &&& 2 ≠ 0 ↔ frame.sessionId.isSome)) "invalid_session_flag"
    "FluidLink session flag and session_id disagree."
  refuse (∃ session ∈ frame.sessionId, session.length ≠ 16 ∨ anyByte session = false)
    "invalid_session_id" "FluidLink session_id must contain 16 nonzero bytes."
  refuse (frame.kind = .request ∧ frame.ok) "invalid_flags"
    "FluidLink requests cannot carry the OK flag."

/-- `session_id or bytes(16)`. -/
def sessionOrZero : Option Bytes → Bytes
  | none | some [] => List.replicate 16 0
  | some session => session

/-- The header that a frame is packed with. -/
def FluidLinkV2Frame.header (frame : FluidLinkV2Frame) : Header where
  magic := literal "FLNK"
  wireVersion := 2
  kindValue := frame.kind.value
  opcode := frame.opcode
  subjectOpcode := frame.subjectOpcode
  decisionOpcode := frame.decisionOpcode
  flags := frame.flags
  reserved := 0
  sequence := frame.sequence
  messageId := frame.messageId
  sessionBytes := sessionOrZero frame.sessionId
  payloadSize := frame.payload.length

/-- `encode_fluidlink_v2_frame`: a frame is validated before anything of it is packed. -/
def encodeFluidlinkV2Frame (frame : FluidLinkV2Frame) : Except FluidLinkProtocolError Bytes := do
  validateFluidlinkV2Frame frame
  return frame.header.pack ++ frame.payload

/-- The frame that a header and a payload stand for. -/
def Header.frame (header : Header) (kind : FluidLinkFrameKind) (payload : Bytes) :
    FluidLinkV2Frame where
  kind := kind
  opcode := header.opcode
  subjectOpcode := header.subjectOpcode
  decisionOpcode := header.decisionOpcode
  flags := header.flags
  sequence := header.sequence
  messageId := header.messageId
  sessionId := if header.flags &&& 2 ≠ 0 then some header.sessionBytes else none
  payload := payload

/-- `decode_fluidlink_v2_frame`: the header first, then the size of the payload, then the
frame as a whole. -/
def decodeFluidlinkV2Frame (data : Bytes) : Except FluidLinkProtocolError FluidLinkV2Frame := do
  refuse (data.length < 56) "truncated_frame"
    "FluidLink v2 frame is shorter than its 56-byte header."
  let header := Header.unpack (data.take 56)
  refuse (header.magic ≠ literal "FLNK") "invalid_magic" "Invalid FluidLink magic."
  refuse (header.wireVersion ≠ 2) "unsupported_wire_version"
    s!"Unsupported FluidLink wire version {header.wireVersion}."
  refuse (header.reserved ≠ 0) "invalid_reserved_bits"
    "FluidLink reserved header bits must be zero."
  refuse (Native.maxPayload < header.payloadSize) "payload_too_large"
    "FluidLink v2 payload exceeds the 65,535-byte limit."
  refuse (data.length ≠ 56 + header.payloadSize) "frame_size_mismatch"
    s!"FluidLink frame declares {56 + header.payloadSize} bytes, received {data.length}."
  match FluidLinkFrameKind.ofValue header.kindValue with
  | none => throw ⟨"invalid_kind", s!"Unsupported FluidLink frame kind {header.kindValue}."⟩
  | some kind =>
    let frame := header.frame kind (data.drop 56)
    validateFluidlinkV2Frame frame
    refuse (frame.sessionId = none ∧ anyByte header.sessionBytes) "invalid_session_flag"
      "FluidLink session bytes require the HAS_SESSION flag."
    return frame

/-! ## Agreement with the native codec -/

/-- A check passes exactly where its condition fails. -/
theorem refuse_eq_ok {condition : Prop} [Decidable condition] {code message : String} {u : Unit} :
    refuse condition code message = .ok u ↔ ¬ condition := by
  unfold refuse
  split_ifs with h
  · simp [h]
  · simp [h]

/-- Two steps in a row succeed exactly where the first does and then the second on what it
gave. -/
theorem bind_eq_ok {α β : Type} {first : Except FluidLinkProtocolError α}
    {rest : α → Except FluidLinkProtocolError β} {b : β} :
    (first >>= rest) = .ok b ↔ ∃ a, first = .ok a ∧ rest a = .ok b := by
  cases first with
  | error e => simp [bind, Except.bind]
  | ok a => simp [bind, Except.bind]

/-- A check before other steps: all succeed exactly where the condition fails and the steps
succeed. -/
theorem refuse_bind {α : Type} {condition : Prop} [Decidable condition] {code message : String}
    {rest : Unit → Except FluidLinkProtocolError α} {a : α} :
    (refuse condition code message >>= rest) = .ok a ↔ ¬ condition ∧ rest () = .ok a := by
  simp only [bind_eq_ok, refuse_eq_ok]
  exact ⟨fun ⟨_, h⟩ => h, fun h => ⟨(), h⟩⟩

/-- The frame of the reference with the same fields. -/
def reference (f : Native.Frame) : FluidLinkV2Frame where
  kind := if f.kind = 1 then .request else .response
  opcode := f.opcode.toNat
  subjectOpcode := f.subject.toNat
  decisionOpcode := f.decision.toNat
  flags := f.flags.toNat
  sequence := f.sequence
  messageId := f.message.toList
  sessionId := if f.flags &&& 2 ≠ 0 then some f.session.toList else none
  payload := f.payload

private theorem and_two (flags : UInt8) : flags.toNat &&& 2 = 0 ↔ flags &&& 2 = 0 := by
  rw [← UInt8.toNat_inj, UInt8.toNat_and]
  rfl

private theorem and_one (flags : UInt8) : flags.toNat &&& 1 = 0 ↔ flags &&& 1 = 0 := by
  rw [← UInt8.toNat_inj, UInt8.toNat_and]
  rfl

private theorem unknown_flags (flags : UInt8) :
    flags.toNat - (flags.toNat &&& 3) = 0 ↔ flags &&& ~~~3 = 0 := by
  have hall : ∀ n : Fin 256, n.val - (n.val &&& 3) = 0 ↔ UInt8.ofNat n.val &&& ~~~3 = 0 := by
    decide +kernel
  have hflags := hall ⟨flags.toNat, flags.toNat_lt⟩
  rwa [UInt8.ofNat_toNat] at hflags

/-- The rules of the reference are those of the native codec. -/
theorem validate_reference {f : Native.Frame} (hkind : 1 ≤ f.kind ∧ f.kind ≤ 2)
    (hsequence : f.sequence < 256 ^ 8) :
    validateFluidlinkV2Frame (reference f) = .ok () ∧
        ¬ ((reference f).sessionId = none ∧ anyByte f.session.toList = true) ↔ f.Valid := by
  have hbyte : ∀ b : UInt8, ¬ 255 < b.toNat := by
    intro b
    have hlt := b.toNat_lt
    omega
  have hmessage : f.message.toList.length = 16 := Vector.length_toList
  have hsession : f.session.toList.length = 16 := Vector.length_toList
  have hrequest : (reference f).kind = .request ∧ (reference f).ok = true ↔
      f.kind = 1 ∧ f.flags &&& 1 ≠ 0 := by
    have hok : (reference f).ok = true ↔ f.flags &&& 1 ≠ 0 := by
      unfold FluidLinkV2Frame.ok
      rw [decide_eq_true_eq]
      exact not_congr (and_one f.flags)
    rw [hok]
    by_cases hone : f.kind = 1
    · simp [reference, hone]
    · simp [reference, hone]
  have hany : anyByte = Native.nonzero := rfl
  unfold validateFluidlinkV2Frame refuseWide
  simp only [refuse_bind, refuse_eq_ok, hrequest]
  unfold reference
  simp only [hbyte, hmessage, hany, not_false_eq_true, true_and, ne_eq, not_not, unknown_flags,
    and_two, not_true_eq_false, false_or, Bool.not_eq_false, Nat.not_lt]
  by_cases hflag : f.flags &&& 2 = 0
  · simp only [hflag, not_true_eq_false, if_false, Option.isSome_none, Option.mem_def, reduceCtorEq,
      false_and, exists_false, not_false_eq_true, true_and]
    constructor
    · intro h
      obtain ⟨⟨hpayload, hnonzero, hcount, hmask, hok⟩, hzero⟩ := h
      exact ⟨hkind, hmask, by omega, hsequence, hnonzero, by simp [hflag, hzero], hok, hpayload⟩
    · intro h
      refine ⟨⟨h.payload, h.message, ⟨?_, ?_⟩, h.flags, h.request⟩, ?_⟩
      · exact Nat.one_le_iff_ne_zero.mpr h.sequence
      · exact Nat.le_of_lt_succ h.sequence_lt
      · exact fun hset => h.session.mpr hset hflag
  · simp only [hflag, hsession, not_false_eq_true, if_true, Option.isSome_some, Option.mem_def,
      reduceCtorEq, false_and, and_true, Option.some.injEq, exists_eq_left', not_true_eq_false,
      false_or, Bool.not_eq_false, true_and]
    constructor
    · intro h
      obtain ⟨hpayload, hnonzero, hcount, hmask, hset, hok⟩ := h
      exact ⟨hkind, hmask, by omega, hsequence, hnonzero, by simp [hflag, hset], hok, hpayload⟩
    · intro h
      refine ⟨h.payload, h.message, ⟨?_, ?_⟩, h.flags, h.session.mp hflag, h.request⟩
      · exact Nat.one_le_iff_ne_zero.mpr h.sequence
      · exact Nat.le_of_lt_succ h.sequence_lt

/-- The kind of the frame has the byte of the native one. -/
theorem kind_reference {f : Native.Frame} (h : 1 ≤ f.kind ∧ f.kind ≤ 2) :
    (reference f).kind.value = f.kind.toNat := by
  obtain ⟨hlow, hhigh⟩ := h
  rw [UInt8.le_iff_toNat_le] at hlow hhigh
  unfold reference
  by_cases hone : f.kind = 1
  · rw [hone]
    rfl
  · have hne : f.kind.toNat ≠ 1 := fun hnat => hone (UInt8.toNat_inj.mp hnat)
    rw [if_neg hone]
    change 2 = f.kind.toNat
    change 1 ≤ f.kind.toNat at hlow
    change f.kind.toNat ≤ 2 at hhigh
    omega

/-- A frame without a session carries sixteen zero bytes. -/
theorem sessionOrZero_reference {f : Native.Frame} (h : f.Valid) :
    sessionOrZero (reference f).sessionId = f.session.toList := by
  have hlength : f.session.toList.length = 16 := Vector.length_toList
  unfold reference
  by_cases hflag : f.flags &&& 2 = 0
  · have hzero : ∀ b ∈ f.session.toList, b = 0 := by
      have hnonzero : ¬ Native.nonzero f.session.toList = true := fun hset =>
        h.session.mpr hset hflag
      unfold Native.nonzero at hnonzero
      rw [List.any_eq_true] at hnonzero
      intro b hb
      by_contra hne
      exact hnonzero ⟨b, hb, bne_iff_ne.mpr hne⟩
    simp only [hflag, ne_eq, not_true_eq_false, if_false]
    exact (List.eq_replicate_iff.mpr ⟨hlength, hzero⟩).symm
  · simp only [hflag, ne_eq, not_false_eq_true, if_true]
    cases hsession : f.session.toList with
    | nil =>
        rw [hsession] at hlength
        cases hlength
    | cons b bytes => rfl

/-- The header of a valid frame fits the format. -/
theorem header_fits {f : Native.Frame} (h : f.Valid) : (reference f).header.Fits where
  magic := show (literal "FLNK").length = 4 by decide
  wireVersion := show 2 < 256 by decide
  kindValue := by
    change (reference f).kind.value < 256
    rw [kind_reference h.kind]
    exact f.kind.toNat_lt
  opcode := f.opcode.toNat_lt
  subjectOpcode := f.subject.toNat_lt
  decisionOpcode := f.decision.toNat_lt
  flags := f.flags.toNat_lt
  reserved := show 0 < 256 ^ 2 by decide
  sequence := h.sequence_lt
  messageId := Vector.length_toList
  sessionBytes := by
    change (sessionOrZero (reference f).sessionId).length = 16
    rw [sessionOrZero_reference h]
    exact Vector.length_toList
  payloadSize := lt_of_le_of_lt h.payload (by decide)

/-- Both codecs write the same bytes. -/
theorem pack_reference {f : Native.Frame} (h : f.Valid) :
    (reference f).header.pack ++ f.payload = Native.frameBytes f := by
  have hbyte : ∀ b : UInt8, LittleEndian.encode b.toNat 1 = [b] := by
    intro b
    unfold LittleEndian.encode LittleEndian.encode
    rw [UInt8.ofNat_toNat]
  have htwo : LittleEndian.encode 2 1 = [2] := by decide
  have hzero : LittleEndian.encode 0 2 = [0, 0] := by decide
  have hpieces : (reference f).header.pieces = [literal "FLNK", [2], [f.kind], [f.opcode],
      [f.subject], [f.decision], [f.flags], [0, 0], LittleEndian.encode f.sequence 8,
      f.message.toList, f.session.toList, LittleEndian.encode f.payload.length 4] := by
    rw [← hbyte f.kind, ← hbyte f.opcode, ← hbyte f.subject, ← hbyte f.decision, ← hbyte f.flags,
      ← kind_reference h.kind, ← sessionOrZero_reference h, ← htwo, ← hzero]
    rfl
  unfold Header.pack
  rw [hpieces]
  unfold Native.frameBytes Native.Writer.integer
  simp only [List.flatten_cons, List.flatten_nil, List.append_assoc, List.cons_append,
    List.nil_append]

/-- A valid frame is encoded to the bytes that the native encoder writes. -/
theorem encodeFluidlinkV2Frame_reference {f : Native.Frame} (h : f.Valid) :
    encodeFluidlinkV2Frame (reference f) = .ok (Native.frameBytes f) := by
  obtain ⟨hvalidate, _⟩ := (validate_reference h.kind h.sequence_lt).mpr h
  unfold encodeFluidlinkV2Frame
  rw [hvalidate, ← pack_reference h]
  rfl

/-- The frame of the native codec with the fields of a header. -/
def Header.native (header : Header) (hmessage : header.messageId.length = 16)
    (hsession : header.sessionBytes.length = 16) (payload : Bytes) : Native.Frame where
  kind := UInt8.ofNat header.kindValue
  opcode := UInt8.ofNat header.opcode
  subject := UInt8.ofNat header.subjectOpcode
  decision := UInt8.ofNat header.decisionOpcode
  flags := UInt8.ofNat header.flags
  sequence := header.sequence
  message := ⟨header.messageId.toArray, by simpa using hmessage⟩
  session := ⟨header.sessionBytes.toArray, by simpa using hsession⟩
  payload := payload

/-- A header that was unpacked is that of a native frame, and both name the same frame. -/
theorem reference_native {header : Header} (hfits : header.Fits) {kind : FluidLinkFrameKind}
    (hkind : FluidLinkFrameKind.ofValue header.kindValue = some kind) (payload : Bytes) :
    reference (header.native hfits.messageId hfits.sessionBytes payload) =
        header.frame kind payload ∧
      1 ≤ UInt8.ofNat header.kindValue ∧ UInt8.ofNat header.kindValue ≤ 2 := by
  have hflags : UInt8.ofNat header.flags &&& 2 = 0 ↔ header.flags &&& 2 = 0 := by
    rw [← and_two, UInt8.toNat_ofNat_of_lt' hfits.flags]
  have hvalue : (if UInt8.ofNat header.kindValue = 1 then .request else .response) = kind ∧
      1 ≤ UInt8.ofNat header.kindValue ∧ UInt8.ofNat header.kindValue ≤ 2 := by
    unfold FluidLinkFrameKind.ofValue at hkind
    split at hkind
    · next hone =>
        rw [hone]
        exact ⟨Option.some.inj hkind, by decide, by decide⟩
    · next htwo =>
        rw [htwo]
        exact ⟨Option.some.inj hkind, by decide, by decide⟩
    · cases hkind
  refine ⟨?_, hvalue.2⟩
  unfold reference Header.native Header.frame
  simp only [hvalue.1, UInt8.toNat_ofNat_of_lt' hfits.opcode,
    UInt8.toNat_ofNat_of_lt' hfits.subjectOpcode, UInt8.toNat_ofNat_of_lt' hfits.decisionOpcode,
    UInt8.toNat_ofNat_of_lt' hfits.flags, ne_eq, hflags]
  rfl

/-- A byte is read as a kind exactly where it is the byte of that kind. -/
theorem ofValue_eq_some {n : Nat} {kind : FluidLinkFrameKind} :
    FluidLinkFrameKind.ofValue n = some kind ↔ kind.value = n := by
  unfold FluidLinkFrameKind.ofValue
  split
  · cases kind <;> decide
  · cases kind <;> decide
  · next hone htwo =>
      cases kind with
      | request => simpa [FluidLinkFrameKind.value] using fun h => hone h.symm
      | response => simpa [FluidLinkFrameKind.value] using fun h => htwo h.symm

/-- The frame of a header has that header, when the header passed its checks. -/
theorem header_reference {header : Header} {kind : FluidLinkFrameKind} {f : Native.Frame}
    (h : f.Valid) (hreference : reference f = header.frame kind f.payload)
    (hmagic : header.magic = literal "FLNK") (hversion : header.wireVersion = 2)
    (hreserved : header.reserved = 0) (hkind : kind.value = header.kindValue)
    (hsession : f.session.toList = header.sessionBytes)
    (hsize : f.payload.length = header.payloadSize) : (reference f).header = header := by
  have hbytes := sessionOrZero_reference h
  rw [hreference] at hbytes ⊢
  ext1
  · exact hmagic.symm
  · exact hversion.symm
  · exact hkind
  · rfl
  · rfl
  · rfl
  · rfl
  · exact hreserved.symm
  · rfl
  · rfl
  · exact hbytes.trans hsession
  · exact hsize

/-- The header of a frame stands for the frame. -/
theorem frame_header {f : Native.Frame} (h : f.Valid) :
    (reference f).header.frame (reference f).kind f.payload = reference f := by
  have hsession : (if (reference f).flags &&& 2 ≠ 0 then
      some (sessionOrZero (reference f).sessionId) else none) = (reference f).sessionId := by
    rw [sessionOrZero_reference h]
    unfold reference
    simp only [ne_eq, and_two]
  unfold Header.frame FluidLinkV2Frame.header
  dsimp only
  rw [hsession]
  rfl

/-- **The reference decodes a frame exactly from the bytes of the native one.** -/
theorem decodeFluidlinkV2Frame_eq_ok {data : Bytes} {p : FluidLinkV2Frame} :
    decodeFluidlinkV2Frame data = .ok p ↔
      ∃ f : Native.Frame, f.Valid ∧ data = Native.frameBytes f ∧ p = reference f := by
  unfold decodeFluidlinkV2Frame
  simp only [refuse_bind, ne_eq, not_not]
  constructor
  · intro h
    obtain ⟨hlength, hmagic, hversion, hreserved, hlimit, hsize, h⟩ := h
    have htake : (data.take 56).length = 56 := by
      rw [List.length_take]
      omega
    obtain ⟨hfits, hpack⟩ := Header.pack_unpack htake
    generalize Header.unpack (data.take 56) = header at *
    cases hkind : FluidLinkFrameKind.ofValue header.kindValue with
    | none =>
        rw [hkind] at h
        cases h
    | some kind =>
        rw [hkind] at h
        obtain ⟨_, hvalidate, h⟩ := bind_eq_ok.mp h
        obtain ⟨hsession, hp⟩ := refuse_bind.mp h
        obtain ⟨hreference, hkinds⟩ := reference_native hfits hkind (data.drop 56)
        have hbytes : (header.native hfits.messageId hfits.sessionBytes (data.drop 56)).session.toList
            = header.sessionBytes := by
          simp [Header.native]
        have hpayload : (header.native hfits.messageId hfits.sessionBytes (data.drop 56)).payload
            = data.drop 56 := rfl
        have hcount : (header.native hfits.messageId hfits.sessionBytes (data.drop 56)).sequence
            = header.sequence := rfl
        have hkind' : (header.native hfits.messageId hfits.sessionBytes (data.drop 56)).kind
            = UInt8.ofNat header.kindValue := rfl
        generalize header.native hfits.messageId hfits.sessionBytes (data.drop 56) = f at *
        rw [← hkind'] at hkinds
        have hvalid : f.Valid := by
          refine (validate_reference hkinds (by rw [hcount]; exact hfits.sequence)).mp ⟨?_, ?_⟩
          · rw [hreference]
            exact hvalidate
          · rw [hreference, hbytes]
            exact hsession
        have hheader : (reference f).header = header := by
          refine header_reference hvalid (hpayload ▸ hreference) hmagic hversion hreserved
            (ofValue_eq_some.mp hkind) hbytes ?_
          rw [hpayload, List.length_drop]
          omega
        refine ⟨f, hvalid, ?_, ?_⟩
        · rw [← pack_reference hvalid, hheader, hpack, hpayload, List.take_append_drop]
        · rw [hreference]
          exact (Except.ok.inj hp).symm
  · intro h
    obtain ⟨f, hvalid, rfl, rfl⟩ := h
    have hpack := pack_reference hvalid
    have hfits := header_fits hvalid
    have hlength := Native.frameBytes_length f
    unfold Native.headerSize at hlength
    have htake : (Native.frameBytes f).take 56 = (reference f).header.pack := by
      rw [← hpack, List.take_left' hfits.pack_length]
    have hdrop : (Native.frameBytes f).drop 56 = f.payload := by
      rw [← hpack, List.drop_left' hfits.pack_length]
    have hunpack : Header.unpack ((Native.frameBytes f).take 56) = (reference f).header := by
      have hfront := Header.unpack_pack hfits []
      rwa [List.append_nil, ← htake] at hfront
    have hbytes : (reference f).header.sessionBytes = f.session.toList :=
      sessionOrZero_reference hvalid
    obtain ⟨hvalidate, hsession⟩ := (validate_reference hvalid.kind hvalid.sequence_lt).mpr hvalid
    have hkind : FluidLinkFrameKind.ofValue (reference f).header.kindValue =
        some (reference f).kind := ofValue_eq_some.mpr rfl
    rw [hunpack, hdrop, hkind, hlength]
    refine ⟨by omega, rfl, rfl, rfl, not_lt.mpr hvalid.payload, rfl, ?_⟩
    dsimp only
    rw [frame_header hvalid, hbytes]
    exact bind_eq_ok.mpr ⟨(), hvalidate, refuse_bind.mpr ⟨hsession, rfl⟩⟩

/-- **The two codecs are inverse on frames and accept the same bytes.** -/
theorem codecs_agree (bytes : Bytes) :
    (∀ f, Native.decodeFrame bytes = .ok f → Native.encodeFrame f = .ok bytes) ∧
      (∀ f : Native.Frame, f.Valid →
        ∃ data, Native.encodeFrame f = .ok data ∧ Native.decodeFrame data = .ok f) ∧
      (∀ f, Native.decodeFrame bytes = .ok f → decodeFluidlinkV2Frame bytes = .ok (reference f)) ∧
      ∀ p, decodeFluidlinkV2Frame bytes = .ok p →
        (∃ f, Native.decodeFrame bytes = .ok f ∧ p = reference f) ∧
          encodeFluidlinkV2Frame p = .ok bytes := by
  refine ⟨?_, ?_, ?_, ?_⟩
  · intro f h
    obtain ⟨hvalid, rfl⟩ := Native.decodeFrame_eq_ok.mp h
    exact Native.encodeFrame_eq_ok.mpr ⟨hvalid.payload, rfl⟩
  · intro f hvalid
    exact ⟨Native.frameBytes f, Native.encodeFrame_eq_ok.mpr ⟨hvalid.payload, rfl⟩,
      Native.decodeFrame_eq_ok.mpr ⟨hvalid, rfl⟩⟩
  · intro f h
    obtain ⟨hvalid, rfl⟩ := Native.decodeFrame_eq_ok.mp h
    exact decodeFluidlinkV2Frame_eq_ok.mpr ⟨f, hvalid, rfl, rfl⟩
  · intro p h
    obtain ⟨f, hvalid, rfl, rfl⟩ := decodeFluidlinkV2Frame_eq_ok.mp h
    exact ⟨⟨f, Native.decodeFrame_eq_ok.mpr ⟨hvalid, rfl⟩, rfl⟩,
      encodeFluidlinkV2Frame_reference hvalid⟩

end FluidGateway.FluidLink
