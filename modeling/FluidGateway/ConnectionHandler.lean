import FluidGateway.DeadlineReader
import FluidGateway.ReferencePayloads
import FluidGateway.Texts

/-!
# One connection of the Python server

`RuntimeEventRequestHandler` of `fluidgateway/server.py`, with the functions of
`fluidgateway/fluidlink.py` and `fluidgateway/fluidlink_v2.py` that read a frame.
The first bytes select one of two frame protocols or lines of JSON, and are
handed on to the reader of what they have selected.

What the sessions make of a request is a parameter: they go on or they end.  So
is the decoder of the JSON frames of the first protocol.
-/

namespace FluidGateway.Streams

open Native (Bytes literal)
open FluidLink (FluidLinkProtocolError FluidLinkV2Frame decodeFluidlinkV2Frame decodeUtf8)
open Observed

/-! ## Frames -/

/-- What the two functions that read a frame differ in. -/
structure Wire (φ : Type) where
  invalidPrefix : String
  maxPayloadBytes : Nat
  payloadTooLarge : String
  decode : Bytes → Except FluidLinkProtocolError φ

/-- A step of reading: it takes bytes off the socket and may raise. -/
abbrev Reads (α : Type) : Type :=
  ExceptT FluidLinkProtocolError (StateM DeadlineSocketReader) α

/-- The size of a header, the same in both wires. -/
def headerSize : Nat := 56

namespace Wire

variable {φ : Type} (wire : Wire φ)

/-- Read a frame whose first bytes have been read. -/
def readBehind (front : Bytes) : Reads (Option φ) :=
  if front.length < 4 ∨ front.length > headerSize ∨ front.take 4 ≠ literal "FLNK" then
    throw ⟨"truncated_frame", wire.invalidPrefix⟩
  else do
    let tail ← DeadlineSocketReader.readExact (headerSize - front.length) false
    let header := front ++ tail.getD []
    let payloadSize := LittleEndian.decode ((header.drop 52).take 4)
    if payloadSize > wire.maxPayloadBytes then
      throw ⟨"payload_too_large", wire.payloadTooLarge⟩
    else do
      let payload ← DeadlineSocketReader.readExact payloadSize false
      let frame ← ExceptT.mk (pure (wire.decode (header ++ payload.getD [])))
      return some frame

/-- The two functions that read a frame, with or without its first bytes; the end of the
stream before a frame is no error. -/
def readFrame : (front : Option Bytes) → Reads (Option φ)
  | some front => wire.readBehind front
  | none => do
    match ← DeadlineSocketReader.readExact 4 true with
    | none => return none
    | some front => wire.readBehind front

end Wire

/-- `read_fluidlink_frame`. -/
def fluidlink {φ : Type} (decode : Bytes → Except FluidLinkProtocolError φ) : Wire φ where
  invalidPrefix := "FluidLink header prefix is invalid."
  maxPayloadBytes := 1048576
  payloadTooLarge := "FluidLink payload exceeds the 1 MiB limit."
  decode := decode

/-- `read_fluidlink_v2_frame`. -/
def fluidlinkV2 : Wire FluidLinkV2Frame where
  invalidPrefix := "FluidLink v2 header prefix is invalid."
  maxPayloadBytes := 65535
  payloadTooLarge := "FluidLink v2 payload exceeds the 65,535-byte limit."
  decode := decodeFluidlinkV2Frame

/-! ### What they depend on -/

/-- Reading a count of bytes depends on what is still to come and not on how it is cut. -/
theorem readExact_sees (size : Nat) (allowEof : Bool) :
    Sees DeadlineSocketReader.content (DeadlineSocketReader.readExact size allowEof) :=
  Sees.of_eq (fun r => (DeadlineSocketReader.readExact_spec size allowEof r).1)
    fun r => (DeadlineSocketReader.readExact_spec size allowEof r).2

/-- The computation takes bytes away. -/
def Shortens {α : Type} (m : StateM DeadlineSocketReader α) : Prop :=
  ∀ r, (m r).2.content.length ≤ r.content.length

namespace Shortens

variable {α β : Type}

/-- Returning a value takes nothing. -/
theorem pure (a : α) : Shortens (pure a) :=
  fun _ => le_rfl

/-- Two steps take bytes away if each does. -/
theorem bind {m : StateM DeadlineSocketReader α} {f : α → StateM DeadlineSocketReader β}
    (hm : Shortens m) (hf : ∀ a, Shortens (f a)) : Shortens (m >>= f) :=
  fun r => (hf (m r).1 (m r).2).trans (hm r)

/-- The same of two steps of which the first may raise. -/
theorem except_bind {m : Reads α} {f : α → Reads β} (hm : Shortens m.run)
    (hf : ∀ a, Shortens (f a).run) : Shortens (m >>= f).run := by
  rw [ExceptT.run_bind]
  refine hm.bind fun result => ?_
  cases result with
  | ok a => exact hf a
  | error e => exact Shortens.pure _

/-- Reading a count of bytes takes bytes away, whether there are enough or not. -/
theorem readExact (size : Nat) (allowEof : Bool) :
    Shortens (DeadlineSocketReader.readExact size allowEof) := by
  intro r
  rw [(DeadlineSocketReader.readExact_spec size allowEof r).2, List.length_drop]
  exact Nat.sub_le _ _

end Shortens

namespace Wire

variable {φ : Type} (wire : Wire φ)

/-- Reading the rest of a frame depends on what is still to come and not on how it is cut. -/
theorem readBehind_sees (front : Bytes) :
    Sees DeadlineSocketReader.content (wire.readBehind front).run := by
  unfold readBehind
  split_ifs with hfront
  · exact Sees.pure _
  · refine Sees.except_bind (readExact_sees _ _) fun tail => ?_
    dsimp only
    split_ifs with hsize
    · exact Sees.pure _
    · refine Sees.except_bind (readExact_sees _ _) fun payload => ?_
      exact Sees.except_bind (Sees.pure _) fun frame => Sees.pure _

/-- Reading the rest of a frame takes bytes away. -/
theorem readBehind_shortens (front : Bytes) : Shortens (wire.readBehind front).run := by
  unfold readBehind
  split_ifs with hfront
  · exact Shortens.pure _
  · refine Shortens.except_bind (Shortens.readExact _ _) fun tail => ?_
    dsimp only
    split_ifs with hsize
    · exact Shortens.pure _
    · refine Shortens.except_bind (Shortens.readExact _ _) fun payload => ?_
      exact Shortens.except_bind (Shortens.pure _) fun frame => Shortens.pure _

/-- Reading a frame depends on what is still to come and not on how it is cut. -/
theorem readFrame_sees (front : Option Bytes) :
    Sees DeadlineSocketReader.content (wire.readFrame front).run := by
  cases front with
  | some front => exact wire.readBehind_sees front
  | none =>
      refine Sees.except_bind (readExact_sees _ _) fun front => ?_
      cases front with
      | none => exact Sees.pure _
      | some front => exact wire.readBehind_sees front

/-- A frame that is read takes at least its magic. -/
theorem readFrame_shorter {r r' : DeadlineSocketReader} {frame : φ}
    (h : (wire.readFrame none).run r = (.ok (some frame), r')) :
    r'.content.length < r.content.length := by
  obtain ⟨hresult, hrest⟩ := DeadlineSocketReader.readExact_spec 4 true r
  unfold readFrame at h
  have hrun : (@ExceptT.run FluidLinkProtocolError (StateM DeadlineSocketReader) (Option Bytes)
      (DeadlineSocketReader.readExact 4 true) r).1 =
        DeadlineSocketReader.exactly 4 true r.content := hresult
  rw [ExceptT.run_bind, stateM_bind, hrun] at h
  unfold DeadlineSocketReader.exactly at h
  split_ifs at h with hlength hend
  · have hbehind := wire.readBehind_shortens (r.content.take 4)
      (DeadlineSocketReader.readExact 4 true r).2
    have hsame : (wire.readBehind (r.content.take 4)).run
        (DeadlineSocketReader.readExact 4 true r).2 = (.ok (some frame), r') := h
    rw [hsame, hrest, List.length_drop] at hbehind
    dsimp only at hbehind
    omega
  · cases h
  · cases h

/-- The frames that follow. -/
def frames : Source DeadlineSocketReader φ where
  next r :=
    match (wire.readFrame none).run r with
    | (.ok (some frame), r') => some (frame, r')
    | _ => none
  size r := r.content.length
  shrinks := by
    intro r frame r' h
    rcases hrun : (wire.readFrame none).run r with ⟨_ | _ | f, rest⟩ <;> rw [hrun] at h <;> cases h
    exact wire.readFrame_shorter hrun

/-- The next frame is the same for two cuts of the same bytes, and so is what it leaves. -/
theorem frames_congr (r r' : DeadlineSocketReader) (h : r.content = r'.content) :
    (wire.frames.next r).map (fun p => (p.1, p.2.content)) =
      (wire.frames.next r').map fun p => (p.1, p.2.content) := by
  obtain ⟨hresult, hrest⟩ := wire.readFrame_sees none r r' h
  unfold frames
  dsimp only
  generalize (wire.readFrame none).run r = x, (wire.readFrame none).run r' = x' at hresult hrest ⊢
  obtain ⟨result, rest⟩ := x
  obtain ⟨result', rest'⟩ := x'
  obtain rfl : result = result' := hresult
  rcases result with _ | _ | frame
  · rfl
  · rfl
  · exact congrArg (fun content => some (frame, content)) hrest

end Wire

/-- The loop of `_handle_fluidlink_v1` and of `_handle_fluidlink_v2`, behind a prefix
of the first frame. -/
def handleFrames {σ φ : Type} (wire : Wire φ) (serve : σ → φ → Option σ) (s : σ) (front : Bytes)
    (r : DeadlineSocketReader) : List φ :=
  match (wire.readFrame (some front)).run r with
  | (.ok (some frame), r') => wire.frames.itemsFrom (fun s f => (f, serve s f)) s frame r'
  | _ => []

/-- A whole connection of frames is handled the same for two cuts of the same bytes. -/
theorem handleFrames_congr {σ φ : Type} (wire : Wire φ) (serve : σ → φ → Option σ) (s : σ)
    (front : Bytes) {r r' : DeadlineSocketReader} (h : r.content = r'.content) :
    handleFrames wire serve s front r = handleFrames wire serve s front r' := by
  obtain ⟨hresult, hrest⟩ := wire.readFrame_sees (some front) r r' h
  unfold handleFrames
  generalize (wire.readFrame (some front)).run r = x, (wire.readFrame (some front)).run r' = x'
    at hresult hrest ⊢
  obtain ⟨result, rest⟩ := x
  obtain ⟨result', rest'⟩ := x'
  obtain rfl : result = result' := hresult
  rcases result with _ | _ | frame
  · rfl
  · rfl
  · exact Source.itemsFrom_congr wire.frames_congr s frame rest rest' hrest

/-! ## Lines -/

/-- `MAX_LINE_BYTES`, one mebibyte. -/
def maxLineBytes : Nat := 1048576

/-- What is made of a raw line. -/
inductive Verdict where
  | tooLong | notUtf8 | skipped
  | event (line : String)
  deriving DecidableEq, Repr

/-- What the handler makes of a line: refused for its length or its text, skipped, or
served. -/
def judge (raw : Bytes) : Verdict :=
  if raw.length > maxLineBytes then .tooLong
  else
    match decodeUtf8 raw with
    | none => .notUtf8
    | some text =>
      let line := strip text
      if line = "" ∨ line.startsWith "#" then .skipped else .event line

/-- One turn of the loop: the line and its verdict, and whether the loop goes on. -/
def lineTurn {σ : Type} (serve : σ → String → Option σ) (s : σ) (raw : Bytes) :
    (Bytes × Verdict) × Option σ :=
  match judge raw with
  | .event line => ((raw, .event line), serve s line)
  | .skipped => ((raw, .skipped), some s)
  | verdict => ((raw, verdict), none)

/-- The lines that follow. -/
def lines : Source DeadlineSocketReader Bytes where
  next r :=
    let (raw, r') := r.readline (maxLineBytes + 1)
    if raw = [] then none else some (raw, r')
  size r := r.content.length
  shrinks := by
    intro r raw r' h
    obtain ⟨hraw, hrest⟩ := r.readline_spec (maxLineBytes + 1)
    dsimp only at h
    split_ifs at h with hnil
    cases h
    rw [hrest, List.length_drop]
    have hend : 0 < DeadlineSocketReader.lineEnd (maxLineBytes + 1) r.content :=
      lt_min (Nat.succ_pos _) (Nat.succ_pos _)
    have hpos : 0 < r.content.length := by
      rw [List.length_pos_iff]
      intro hempty
      rw [hempty, List.take_nil] at hraw
      exact hnil hraw
    omega

/-- The next line is the same for two cuts of the same bytes, and so is what it leaves. -/
theorem lines_congr (r r' : DeadlineSocketReader) (h : r.content = r'.content) :
    (lines.next r).map (fun p => (p.1, p.2.content)) =
      (lines.next r').map fun p => (p.1, p.2.content) := by
  obtain ⟨hraw, hrest⟩ := r.readline_spec (maxLineBytes + 1)
  obtain ⟨hraw', hrest'⟩ := r'.readline_spec (maxLineBytes + 1)
  rw [← h] at hraw' hrest'
  unfold lines
  dsimp only
  rw [hraw, hraw']
  split_ifs with hnil
  · rfl
  · rw [Option.map_some, Option.map_some, hrest, hrest']

/-- The first line, whose beginning has been read. -/
def firstLine (front : Bytes) (r : DeadlineSocketReader) : Bytes × DeadlineSocketReader :=
  if front.getLast? = some DeadlineSocketReader.newline then (front, r)
  else
    let (rest, r') := r.readline (maxLineBytes + 1 - front.length)
    (front ++ rest, r')

/-- The rest of the first line is the same for two cuts of the same bytes. -/
theorem firstLine_congr (front : Bytes) {r r' : DeadlineSocketReader}
    (h : r.content = r'.content) :
    (firstLine front r).1 = (firstLine front r').1 ∧
      (firstLine front r).2.content = (firstLine front r').2.content := by
  obtain ⟨hraw, hrest⟩ := r.readline_spec (maxLineBytes + 1 - front.length)
  obtain ⟨hraw', hrest'⟩ := r'.readline_spec (maxLineBytes + 1 - front.length)
  rw [← h] at hraw' hrest'
  unfold firstLine
  split_ifs
  · exact ⟨rfl, h⟩
  · dsimp only
    rw [hraw, hraw', hrest, hrest']
    exact ⟨rfl, rfl⟩

/-- `_handle_legacy_jsonl`. -/
def handleLegacyJsonl {σ : Type} (serve : σ → String → Option σ) (s : σ) (front : Bytes)
    (r : DeadlineSocketReader) : List (Bytes × Verdict) :=
  let (raw, r') := firstLine front r
  if raw = [] then [] else lines.itemsFrom (lineTurn serve) s raw r'

/-- A whole connection of lines is handled the same for two cuts of the same bytes. -/
theorem handleLegacyJsonl_congr {σ : Type} (serve : σ → String → Option σ) (s : σ)
    (front : Bytes) {r r' : DeadlineSocketReader} (h : r.content = r'.content) :
    handleLegacyJsonl serve s front r = handleLegacyJsonl serve s front r' := by
  obtain ⟨hraw, hrest⟩ := firstLine_congr front h
  unfold handleLegacyJsonl
  dsimp only
  rw [hraw]
  split_ifs
  · rfl
  · exact Source.itemsFrom_congr lines_congr s _ _ _ hrest

/-! ## The connection -/

/-- What the sessions make of a request: they go on, or the connection ends, because
the session is closed or its answer could not be written. -/
structure Sessions (σ φ : Type) where
  v1 : σ → φ → Option σ
  v2 : σ → FluidLinkV2Frame → Option σ
  jsonl : σ → String → Option σ

/-- The protocol that a connection has selected, and its requests. -/
inductive Extracted (φ : Type) where
  /-- The peer has sent nothing. -/
  | nothing
  | v1 (requests : List φ)
  | v2 (requests : List FluidLinkV2Frame)
  | jsonl (lines : List (Bytes × Verdict))
  /-- The magic, but none of the two versions. -/
  | unknown (version : Bytes)
  deriving DecidableEq

section

variable {σ φ : Type} (sessions : Sessions σ φ)
  (decode : Bytes → Except FluidLinkProtocolError φ) (s : σ)

/-- The first bytes are compared with the magic one by one. -/
def detect (front : Bytes) (r : DeadlineSocketReader) : (expected : Bytes) → Extracted φ
  | [] =>
    let (wireVersion, r) := r.read 1
    if wireVersion = [1] then
      .v1 (handleFrames (fluidlink decode) sessions.v1 s (front ++ wireVersion) r)
    else if wireVersion = [2] then
      .v2 (handleFrames fluidlinkV2 sessions.v2 s (front ++ wireVersion) r)
    else .unknown wireVersion
  | expectedByte :: expected =>
    match r.read 1 with
    | ([], r) =>
      if front = [] then .nothing else .jsonl (handleLegacyJsonl sessions.jsonl s front r)
    | (received :: _, r) =>
      if received ≠ expectedByte then
        .jsonl (handleLegacyJsonl sessions.jsonl s (front ++ [received]) r)
      else detect (front ++ [received]) r expected

/-- `handle`. -/
def handle (socket : Socket) : Extracted φ :=
  detect sessions decode s [] { socket } (literal "FLNK")

end

/-- Reading one byte gives the next one, or nothing at the end. -/
theorem read_one (r : DeadlineSocketReader) :
    (r.read 1).1 = r.content.take 1 ∧ (r.read 1).2.content = r.content.drop 1 := by
  obtain ⟨hbytes, hlength, hnil⟩ := r.read_spec Nat.one_pos
  generalize r.read 1 = x at hbytes hlength hnil ⊢
  obtain ⟨received, rest⟩ := x
  rcases received with _ | ⟨byte, _ | ⟨_, _⟩⟩
  · have hempty := hnil rfl
    rw [hempty] at hbytes ⊢
    exact ⟨rfl, hbytes⟩
  · rw [← hbytes]
    exact ⟨rfl, rfl⟩
  · simp at hlength

variable {σ φ : Type} (sessions : Sessions σ φ)
  (decode : Bytes → Except FluidLinkProtocolError φ) (s : σ)

/-- The protocol is told from the first bytes, one by one, the same for two cuts of them.
The induction is on the bytes that are expected. -/
theorem detect_congr (front expected : Bytes) {r r' : DeadlineSocketReader}
    (h : r.content = r'.content) :
    detect sessions decode s front r expected = detect sessions decode s front r' expected := by
  induction expected generalizing front r r' with
  | nil =>
      obtain ⟨hread, hrest⟩ := read_one r
      obtain ⟨hread', hrest'⟩ := read_one r'
      rw [← h] at hread' hrest'
      have hcontent := hrest.trans hrest'.symm
      unfold detect
      dsimp only
      rw [hread, hread', handleFrames_congr _ _ _ _ hcontent, handleFrames_congr _ _ _ _ hcontent]
  | cons expectedByte expected ih =>
      obtain ⟨hread, hrest⟩ := read_one r
      obtain ⟨hread', hrest'⟩ := read_one r'
      rw [← h] at hread' hrest'
      have hcontent := hrest.trans hrest'.symm
      have hsame := hread.trans hread'.symm
      unfold detect
      generalize r.read 1 = x, r'.read 1 = x' at hsame hcontent ⊢
      obtain ⟨received, rest⟩ := x
      obtain ⟨received', rest'⟩ := x'
      obtain rfl : received = received' := hsame
      rcases received with _ | ⟨byte, more⟩
      · dsimp only
        rw [handleLegacyJsonl_congr _ _ _ hcontent]
      · dsimp only
        rw [handleLegacyJsonl_congr _ _ _ hcontent, ih (front ++ [byte]) hcontent]

/-- **Where TCP cuts the stream does not matter.**  The same bytes select the same
protocol, and the same frames or lines are taken out of them. -/
theorem handle_segmentation (a b : Socket) (h : a.bytes = b.bytes) :
    handle sessions decode s a = handle sessions decode s b :=
  detect_congr sessions decode s [] (literal "FLNK") h

/-- A short line and an event, in one piece. -/
def whole : Socket where
  segments := [literal "FL\n\x7b\x7d\n"]
  nonempty := by decide

/-- The same bytes, cut inside of what could be the magic. -/
def pieces : Socket where
  segments := [literal "F", literal "L\n\x7b", literal "\x7d\n"]
  nonempty := by decide

/-- A frame of version 1 with two bytes of payload. -/
def smallFrame : Bytes :=
  literal "FLNK" ++ [1] ++ List.replicate 47 0 ++ [2, 0, 0, 0] ++ literal "\x7b\x7d"

/-- Two frames that arrive at once. -/
def twoFrames : Socket where
  segments := [smallFrame ++ smallFrame]
  nonempty := by decide

/-- Cut in the magic of the first frame, and in the payload of the second. -/
def cutFrames : Socket where
  segments := [smallFrame.take 3, smallFrame.drop 3 ++ smallFrame.take 57, smallFrame.drop 57]
  nonempty := by decide

/-- Two lines, and two frames, also out of the pieces. -/
theorem handle_segmentation_pieces :
    let sessions : Sessions Unit Bytes :=
      ⟨fun _ _ => some (), fun _ _ => none, fun _ _ => some ()⟩
    handle sessions .ok () pieces = .jsonl [(literal "FL\n", .event "FL"),
        (literal "\x7b\x7d\n", .event "\x7b\x7d")] ∧
      handle sessions .ok () cutFrames = .v1 [smallFrame, smallFrame] := by
  intro sessions
  have hlines : handle sessions .ok () whole = .jsonl [(literal "FL\n", .event "FL"),
      (literal "\x7b\x7d\n", .event "\x7b\x7d")] := by
    decide +kernel
  have hframes : handle sessions .ok () twoFrames = .v1 [smallFrame, smallFrame] := by
    decide +kernel
  exact ⟨(handle_segmentation sessions .ok () pieces whole (by decide)).trans hlines,
    (handle_segmentation sessions .ok () cutFrames twoFrames (by decide)).trans hframes⟩

end FluidGateway.Streams
