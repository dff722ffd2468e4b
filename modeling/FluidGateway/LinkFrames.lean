import FluidGateway.EventPayloads
import FluidGateway.ReferenceFrames

/-!
# FluidLink v1 frames

The frames of `fluidgateway/fluidlink.py`: the header of `ReferenceFrames` with
another version and limit, behind it a JSON object.  The text of the object is
left to the `json` module (`dumps`, `loads`); what may stand in it is checked
here.  Whatever is encoded is decoded again (`link_frame_round_trip`), and what
is decoded passes the checks that are made before encoding
(`validate_of_decode`).
-/

namespace FluidGateway.FluidLink

open Native (Bytes literal)
open FluidGateway.Adapter (Json Payload PyFloat)

/-- `FluidLinkFrame` of version 1: its payload is a JSON object. -/
structure FluidLinkFrame where
  kind : FluidLinkFrameKind
  opcode : Nat
  subjectOpcode : Nat
  decisionOpcode : Nat
  flags : Nat
  sequence : Nat
  messageId : Bytes
  sessionId : Option Bytes
  payload : Payload

namespace FluidLinkFrame

/-- The flag of a positive response. -/
def ok (frame : FluidLinkFrame) : Bool :=
  frame.flags &&& 1 ≠ 0

end FluidLinkFrame

/-! ## JSON values -/

/-- `FLUIDLINK_MAX_JSON_DEPTH`. -/
def maxJsonDepth : Nat := 64

/-- The error of a payload that is no bounded standard JSON. -/
def invalidLinkPayload (message : String) : FluidLinkProtocolError :=
  ⟨"invalid_payload", message⟩

/-- `validate_json_depth`. -/
def validateJsonDepth (depth : Nat) : Except FluidLinkProtocolError Unit :=
  refuse (maxJsonDepth < depth) "invalid_payload"
    "FluidLink payload exceeds the maximum JSON depth of 64."

mutual

/-- `validate_json_value`, of values whose texts can be encoded in UTF-8: a lone
surrogate, which Python refuses here, is no text of the model. -/
def validateJsonValue : Json → Nat → Except FluidLinkProtocolError Unit
  | .null, _ | .bool _, _ | .int _, _ | .text _, _ => .ok ()
  | .float (.finite _), _ => .ok ()
  | .float _, _ => .error (invalidLinkPayload "FluidLink payload numbers must be finite.")
  | .list items, depth => do
    validateJsonDepth depth
    validateItems items (depth + 1)
  | .dict fields, depth => do
    validateJsonDepth depth
    validateFields fields (depth + 1)

/-- Each entry of a list, at the depth below it. -/
def validateItems : List Json → Nat → Except FluidLinkProtocolError Unit
  | [], _ => .ok ()
  | item :: items, depth => do
    validateJsonValue item depth
    validateItems items depth

/-- Each value of an object, at the depth below it. -/
def validateFields : List (String × Json) → Nat → Except FluidLinkProtocolError Unit
  | [], _ => .ok ()
  | (_, value) :: fields, depth => do
    validateJsonValue value depth
    validateFields fields depth

end

/-! ## The codec -/

/-- `validate_frame`, of a frame whose fields have the types they are declared with. -/
def validateFrame (frame : FluidLinkFrame) : Except FluidLinkProtocolError Unit := do
  validateJsonValue (.dict frame.payload) 1
  refuse (frame.messageId.length ≠ 16 ∨ anyByte frame.messageId = false) "invalid_message_id"
    "FluidLink message_id must contain 16 nonzero bytes."
  refuse (¬ (1 ≤ frame.sequence ∧ frame.sequence ≤ 0xFFFFFFFFFFFFFFFF)) "invalid_sequence"
    "FluidLink sequence must be an unsigned nonzero 64-bit integer."
  refuseWide "opcode" frame.opcode
  refuseWide "subject_opcode" frame.subjectOpcode
  refuseWide "decision_opcode" frame.decisionOpcode
  refuseWide "flags" frame.flags
  -- `flags & ~7`
  refuse (frame.flags - (frame.flags &&& 7) ≠ 0) "invalid_flags"
    "FluidLink frame contains unknown flags."
  refuse (frame.flags &&& 4 = 0) "unsupported_payload_encoding"
    "FluidLink v1 requires the JSON payload flag."
  refuse (¬ (frame.flags &&& 2 ≠ 0 ↔ frame.sessionId.isSome)) "invalid_session_flag"
    "FluidLink session flag and session_id disagree."
  refuse (∃ session ∈ frame.sessionId, session.length ≠ 16 ∨ anyByte session = false)
    "invalid_session_id" "FluidLink session_id must contain 16 nonzero bytes."
  refuse (frame.kind = .request ∧ frame.ok) "invalid_flags"
    "FluidLink requests cannot carry the OK flag."

/-- `FLUIDLINK_MAX_PAYLOAD_BYTES`. -/
def maxPayloadBytes : Nat := 1024 * 1024

/-- The header of a frame whose payload has this size. -/
def FluidLinkFrame.header (frame : FluidLinkFrame) (payloadSize : Nat) : Header where
  magic := literal "FLNK"
  wireVersion := 1
  kindValue := frame.kind.value
  opcode := frame.opcode
  subjectOpcode := frame.subjectOpcode
  decisionOpcode := frame.decisionOpcode
  flags := frame.flags
  reserved := 0
  sequence := frame.sequence
  messageId := frame.messageId
  sessionBytes := sessionOrZero frame.sessionId
  payloadSize := payloadSize

section

variable (dumps : Payload → Option Bytes) (loads : Bytes → Option Json)

/-- `encode_json`; `dumps` has no value where it raises. -/
def encodeJson (payload : Payload) : Except FluidLinkProtocolError Bytes :=
  match dumps payload with
  | some text => .ok text
  | none => .error (invalidLinkPayload
      "FluidLink payload must contain bounded standard JSON values.")

/-- `encode_fluidlink_frame`: the checks, the text of the payload, and its size. -/
def encodeFluidlinkFrame (frame : FluidLinkFrame) : Except FluidLinkProtocolError Bytes := do
  validateFrame frame
  let payload ← encodeJson dumps frame.payload
  refuse (maxPayloadBytes < payload.length) "payload_too_large"
    "FluidLink payload exceeds the 1 MiB limit."
  return (frame.header payload.length).pack ++ payload

/-- The frame that a header and a payload stand for. -/
def Header.linkFrame (header : Header) (kind : FluidLinkFrameKind) (payload : Payload) :
    FluidLinkFrame where
  kind := kind
  opcode := header.opcode
  subjectOpcode := header.subjectOpcode
  decisionOpcode := header.decisionOpcode
  flags := header.flags
  sequence := header.sequence
  messageId := header.messageId
  sessionId := if header.flags &&& 2 ≠ 0 then some header.sessionBytes else none
  payload := payload

/-- `validate_decoded_header`, with the kind it reads; the frame it validates has no
opcodes and an empty payload. -/
def validateDecodedHeader (header : Header) : Except FluidLinkProtocolError FluidLinkFrameKind := do
  refuse (header.magic ≠ literal "FLNK") "invalid_magic" "Invalid FluidLink magic."
  refuse (header.wireVersion ≠ 1) "unsupported_wire_version"
    s!"Unsupported FluidLink wire version {header.wireVersion}."
  match FluidLinkFrameKind.ofValue header.kindValue with
  | none => throw ⟨"invalid_kind", s!"Unsupported FluidLink frame kind {header.kindValue}."⟩
  | some kind =>
    refuse (header.reserved ≠ 0) "invalid_reserved_bits"
      "FluidLink reserved header bits must be zero."
    refuse (maxPayloadBytes < header.payloadSize) "payload_too_large"
      "FluidLink payload exceeds the 1 MiB limit."
    let frame := { header with opcode := 0, subjectOpcode := 0, decisionOpcode := 0 }.linkFrame
      kind []
    validateFrame frame
    refuse (frame.sessionId = none ∧ anyByte header.sessionBytes) "invalid_session_flag"
      "FluidLink session bytes require the HAS_SESSION flag."
    return kind

/-- What `json.loads` returns has to be an object. -/
def decodeJson (data : Bytes) : Except FluidLinkProtocolError Payload :=
  match loads data with
  | none => .error (invalidLinkPayload "FluidLink payload must be valid UTF-8 JSON.")
  | some (.dict payload) => .ok payload
  | some _ => .error (invalidLinkPayload "FluidLink payload must be a JSON object.")

/-- `decode_fluidlink_frame`: the header first, then the object behind it. -/
def decodeFluidlinkFrame (data : Bytes) : Except FluidLinkProtocolError FluidLinkFrame := do
  refuse (data.length < 56) "truncated_frame"
    "FluidLink frame is shorter than its 56-byte header."
  let header := Header.unpack (data.take 56)
  let kind ← validateDecodedHeader header
  refuse (data.length ≠ 56 + header.payloadSize) "frame_size_mismatch"
    s!"FluidLink frame declares {56 + header.payloadSize} bytes, received {data.length}."
  let payload ← decodeJson loads (data.drop 56)
  validateJsonValue (.dict payload) 1
  return header.linkFrame kind payload

end

/-! ## What is validated -/

/-- The frames that pass `validate_frame`. -/
structure FluidLinkFrame.Valid (frame : FluidLinkFrame) : Prop where
  payload : validateJsonValue (.dict frame.payload) 1 = .ok ()
  message : frame.messageId.length = 16 ∧ anyByte frame.messageId = true
  sequence : 1 ≤ frame.sequence ∧ frame.sequence ≤ 0xFFFFFFFFFFFFFFFF
  opcode : frame.opcode ≤ 255
  subject : frame.subjectOpcode ≤ 255
  decision : frame.decisionOpcode ≤ 255
  flags : frame.flags ≤ 255 ∧ frame.flags - (frame.flags &&& 7) = 0 ∧ frame.flags &&& 4 ≠ 0
  session : (frame.flags &&& 2 ≠ 0 ↔ frame.sessionId.isSome) ∧
    ∀ session ∈ frame.sessionId, session.length = 16 ∧ anyByte session = true
  request : frame.kind = .request → frame.ok = false

/-- The checks of `validate_frame`, as one condition. -/
theorem validateFrame_eq_ok {frame : FluidLinkFrame} :
    validateFrame frame = .ok () ↔ frame.Valid := by
  unfold validateFrame refuseWide
  simp only [bind_eq_ok, refuse_eq_ok, exists_const, not_or, not_not, Bool.not_eq_false, not_lt,
    ne_eq]
  constructor
  · intro h
    obtain ⟨_, hpayload, hmessage, hsequence, hopcode, hsubject, hdecision, hflags, hmask, hjson,
      hsession, hid, hrequest⟩ := h
    refine ⟨hpayload, hmessage, hsequence, hopcode, hsubject, hdecision, ⟨hflags, hmask, hjson⟩,
      ⟨hsession, fun session hs => ?_⟩, fun hkind => ?_⟩
    · have hgood := not_or.mp fun hbad => hid ⟨session, hs, hbad⟩
      exact ⟨not_not.mp hgood.1, Bool.eq_true_of_not_eq_false hgood.2⟩
    · exact Bool.eq_false_of_not_eq_true fun hok => hrequest ⟨hkind, hok⟩
  · intro h
    refine ⟨(), h.payload, h.message, h.sequence, h.opcode, h.subject, h.decision, h.flags.1,
      h.flags.2.1, h.flags.2.2, h.session.1, fun hbad => ?_, fun hbad => ?_⟩
    · obtain ⟨session, hs, hlength | hzero⟩ := hbad
      · exact hlength (h.session.2 session hs).1
      · exact Bool.false_ne_true (hzero.symm.trans (h.session.2 session hs).2)
    · exact Bool.false_ne_true ((h.request hbad.1).symm.trans hbad.2)

/-! ## Decoding what was encoded -/

section

variable {dumps : Payload → Option Bytes} {loads : Bytes → Option Json}
  {frame : FluidLinkFrame} {data : Bytes}

/-- The session of a valid frame can be read back from its header. -/
theorem FluidLinkFrame.Valid.sessionBytes (h : frame.Valid) :
    (sessionOrZero frame.sessionId).length = 16 ∧
      (if frame.flags &&& 2 ≠ 0 then some (sessionOrZero frame.sessionId) else none) =
        frame.sessionId ∧
      ¬ (frame.sessionId = none ∧ anyByte (sessionOrZero frame.sessionId) = true) := by
  obtain ⟨hflag, hid⟩ := h.session
  cases hsession : frame.sessionId with
  | none =>
      rw [hsession] at hflag
      rw [if_neg (fun hset => Bool.false_ne_true (hflag.mp hset))]
      exact ⟨rfl, rfl, fun hbad => absurd hbad.2 (by decide)⟩
  | some session =>
      rw [hsession] at hflag
      obtain ⟨hlength, -⟩ := hid session hsession
      cases session with
      | nil => cases hlength
      | cons byte rest =>
          rw [if_pos (hflag.mpr rfl)]
          exact ⟨hlength, rfl, fun hbad => Option.some_ne_none _ hbad.1⟩

/-- The header of a valid frame fits its fields, so packing loses nothing. -/
theorem FluidLinkFrame.Valid.fits (h : frame.Valid) {size : Nat} (hsize : size ≤ maxPayloadBytes) :
    (frame.header size).Fits where
  magic := show (literal "FLNK").length = 4 by decide
  wireVersion := show 1 < 256 by decide
  kindValue := show frame.kind.value < 256 by cases frame.kind <;> decide
  opcode := Nat.lt_succ_of_le h.opcode
  subjectOpcode := Nat.lt_succ_of_le h.subject
  decisionOpcode := Nat.lt_succ_of_le h.decision
  flags := Nat.lt_succ_of_le h.flags.1
  reserved := show 0 < 256 ^ 2 by decide
  sequence := Nat.lt_succ_of_le h.sequence.2
  messageId := h.message.1
  sessionBytes := h.sessionBytes.1
  payloadSize := lt_of_le_of_lt hsize (by decide)

/-- What `validate_decoded_header` validates: the frame without its opcodes. -/
theorem validateDecodedHeader_eq_ok {header : Header} {kind : FluidLinkFrameKind} :
    validateDecodedHeader header = .ok kind ↔
      header.magic = literal "FLNK" ∧ header.wireVersion = 1 ∧ kind.value = header.kindValue ∧
        header.reserved = 0 ∧ header.payloadSize ≤ maxPayloadBytes ∧
        ({ header with opcode := 0, subjectOpcode := 0, decisionOpcode := 0 }.linkFrame
          kind []).Valid ∧
        ¬ ((header.linkFrame kind []).sessionId = none ∧ anyByte header.sessionBytes = true) := by
  unfold validateDecodedHeader
  simp only [refuse_bind, ne_eq, not_not]
  cases hkind : FluidLinkFrameKind.ofValue header.kindValue with
  | none =>
      refine iff_of_false (fun h => ?_) (fun h => ?_)
      · cases h.2.2
      · rw [ofValue_eq_some.mpr h.2.2.1] at hkind
        cases hkind
  | some found =>
      have hfound := ofValue_eq_some.mp hkind
      simp only [bind_eq_ok, refuse_eq_ok, exists_const, not_not, not_lt]
      constructor
      · intro h
        obtain ⟨hmagic, hversion, hreserved, hsize, _, hvalid, hsession, hdone⟩ := h
        obtain rfl := Except.ok.inj hdone
        exact ⟨hmagic, hversion, hfound, hreserved, hsize, validateFrame_eq_ok.mp hvalid, hsession⟩
      · intro h
        obtain ⟨hmagic, hversion, hvalue, hreserved, hsize, hvalid, hsession⟩ := h
        rw [ofValue_eq_some.mpr hvalue] at hkind
        obtain rfl := Option.some.inj hkind
        exact ⟨hmagic, hversion, hreserved, hsize, (), validateFrame_eq_ok.mpr hvalid, hsession, rfl⟩

/-- A frame keeps its validity without its opcodes and its payload. -/
theorem FluidLinkFrame.Valid.bare (h : frame.Valid) :
    { frame with opcode := 0, subjectOpcode := 0, decisionOpcode := 0, payload := [] }.Valid :=
  ⟨rfl, h.message, h.sequence, Nat.zero_le _, Nat.zero_le _, Nat.zero_le _, h.flags, h.session,
    h.request⟩

/-- **What is decoded is valid.** -/
theorem validate_of_decode (h : decodeFluidlinkFrame loads data = .ok frame) : frame.Valid := by
  unfold decodeFluidlinkFrame at h
  obtain ⟨hlength, h⟩ := refuse_bind.mp h
  have htake : (data.take 56).length = 56 := by
    rw [List.length_take]
    omega
  obtain ⟨hfits, -⟩ := Header.pack_unpack htake
  dsimp only at h
  generalize Header.unpack (data.take 56) = header at hfits h
  obtain ⟨kind, hheader, h⟩ := bind_eq_ok.mp h
  obtain ⟨-, h⟩ := refuse_bind.mp h
  obtain ⟨payload, -, h⟩ := bind_eq_ok.mp h
  obtain ⟨_, hpayload, h⟩ := bind_eq_ok.mp h
  obtain ⟨-, -, -, -, -, hvalid, -⟩ := validateDecodedHeader_eq_ok.mp hheader
  obtain rfl := Except.ok.inj h
  exact ⟨hpayload, hvalid.message, hvalid.sequence, Nat.le_of_lt_succ hfits.opcode,
    Nat.le_of_lt_succ hfits.subjectOpcode, Nat.le_of_lt_succ hfits.decisionOpcode, hvalid.flags,
    hvalid.session, hvalid.request⟩

/-- **Frames survive the wire.** Where `json.loads` reads what `json.dumps` has
written, every frame that can be encoded is decoded from its bytes. -/
theorem link_frame_round_trip
    (hjson : ∀ payload text, dumps payload = some text → loads text = some (.dict payload))
    (h : encodeFluidlinkFrame dumps frame = .ok data) :
    decodeFluidlinkFrame loads data = .ok frame := by
  unfold encodeFluidlinkFrame at h
  obtain ⟨_, hvalidate, h⟩ := bind_eq_ok.mp h
  obtain ⟨text, hencode, h⟩ := bind_eq_ok.mp h
  obtain ⟨hsize, h⟩ := refuse_bind.mp h
  obtain rfl := Except.ok.inj h
  have hvalid := validateFrame_eq_ok.mp hvalidate
  have hfits := hvalid.fits (not_lt.mp hsize)
  obtain ⟨-, hsession, hzero⟩ := hvalid.sessionBytes
  have hdumps : dumps frame.payload = some text := by
    unfold encodeJson at hencode
    cases hd : dumps frame.payload with
    | none =>
        rw [hd] at hencode
        cases hencode
    | some found =>
        rw [hd] at hencode
        exact congrArg some (Except.ok.inj hencode)
  have hunpack : Header.unpack ((frame.header text.length).pack) = frame.header text.length := by
    have hfront := Header.unpack_pack hfits []
    rwa [List.append_nil] at hfront
  have hlinked : ∀ payload,
      (frame.header text.length).linkFrame frame.kind payload = { frame with payload } := by
    intro payload
    unfold Header.linkFrame FluidLinkFrame.header
    rw [hsession]
  have hheader : validateDecodedHeader (frame.header text.length) = .ok frame.kind := by
    refine validateDecodedHeader_eq_ok.mpr ⟨rfl, rfl, rfl, rfl, not_lt.mp hsize, ?_, ?_⟩
    · have hbare := hvalid.bare
      have hsame : { frame.header text.length with
          opcode := 0, subjectOpcode := 0, decisionOpcode := 0 }.linkFrame frame.kind [] =
            { frame with opcode := 0, subjectOpcode := 0, decisionOpcode := 0, payload := [] } := by
        unfold Header.linkFrame FluidLinkFrame.header
        rw [hsession]
      rw [hsame]
      exact hbare
    · rw [hlinked]
      exact hzero
  have hjsonDecoded : decodeJson loads text = .ok frame.payload := by
    unfold decodeJson
    rw [hjson frame.payload text hdumps]
  unfold decodeFluidlinkFrame
  rw [List.take_left' hfits.pack_length, List.drop_left' hfits.pack_length, List.length_append,
    hfits.pack_length]
  dsimp only
  rw [hunpack]
  refine refuse_bind.mpr ⟨by omega, bind_eq_ok.mpr ⟨frame.kind, hheader, ?_⟩⟩
  refine refuse_bind.mpr ⟨fun hne => hne rfl, bind_eq_ok.mpr ⟨frame.payload, hjsonDecoded, ?_⟩⟩
  refine bind_eq_ok.mpr ⟨(), hvalid.payload, ?_⟩
  rw [hlinked]
  rfl

end

/-- The fifth request of a session: frame 3 begins. -/
def beginFrame : FluidLinkFrame where
  kind := .request
  opcode := 10
  subjectOpcode := 101
  decisionOpcode := 0
  flags := 6
  sequence := 5
  messageId := List.replicate 16 1
  sessionId := some (List.replicate 16 2)
  payload := [("action", .text "begin"), ("frame", .int 3)]

/-- Its payload as `json.dumps` writes it, without spaces. -/
def beginText : Bytes :=
  literal "\x7b\"action\":\"begin\",\"frame\":3\x7d"

/-- `json.dumps` of that one payload. -/
def dumpsBegin : Payload → Option Bytes
  | [("action", .text "begin"), ("frame", .int 3)] => some beginText
  | _ => none

/-- `json.loads` of that one text. -/
def loadsBegin (data : Bytes) : Option Json :=
  if data = beginText then some (.dict [("action", .text "begin"), ("frame", .int 3)]) else none

/-- `loadsBegin` reads what `dumpsBegin` writes. -/
theorem loadsBegin_dumpsBegin (payload : Payload) (text : Bytes)
    (h : dumpsBegin payload = some text) : loadsBegin text = some (.dict payload) := by
  unfold dumpsBegin at h
  split at h
  · obtain rfl := Option.some.inj h
    rfl
  · cases h

/-- The 28 bytes of the text follow the header, and are read back with it. -/
theorem link_frame_round_trip_begin :
    encodeFluidlinkFrame dumpsBegin beginFrame = .ok ((beginFrame.header 28).pack ++ beginText) ∧
      decodeFluidlinkFrame loadsBegin ((beginFrame.header 28).pack ++ beginText) =
        .ok beginFrame :=
  ⟨rfl, link_frame_round_trip loadsBegin_dumpsBegin rfl⟩

end FluidGateway.FluidLink
