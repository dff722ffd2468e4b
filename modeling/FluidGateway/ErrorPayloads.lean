import FluidGateway.BackedOperations
import FluidGateway.PayloadFormats
import FluidGateway.PythonTexts

/-!
# Reporting an error

How `fluidgateway/fluidlink_v2.py` writes and reads the payload of an error.
The message is cut to 512 bytes before it is written.  To measure it, surrogates
are replaced; but a message that fits is written as it was, and a surrogate in
it makes the writing fail (`reports_iff`).
-/

namespace FluidGateway.FluidLink

open Reading
open Native (Bytes)

/-- `ERROR_NAME_BY_CODE`. -/
def FluidLinkV2ErrorCode.name : FluidLinkV2ErrorCode → String
  | .invalidFrame => "invalid_frame"
  | .handshakeRequired => "handshake_required"
  | .contractMismatch => "contract_mismatch"
  | .requiredCapabilityUnavailable => "required_capability_unavailable"
  | .capabilityNotNegotiated => "capability_not_negotiated"
  | .sequenceMismatch => "sequence_mismatch"
  | .sessionMismatch => "session_mismatch"
  | .unsupportedOpcode => "unsupported_opcode"
  | .unsupportedEventOpcode => "unsupported_event_opcode"
  | .invalidPayload => "invalid_payload"
  | .runtimeEventRejected => "runtime_event_rejected"
  | .sessionClosed => "session_closed"

/-- `FluidLinkV2ErrorCode(value)`. -/
def FluidLinkV2ErrorCode.ofValue : ℕ → Option FluidLinkV2ErrorCode
  | 1 => some .invalidFrame
  | 2 => some .handshakeRequired
  | 3 => some .contractMismatch
  | 4 => some .requiredCapabilityUnavailable
  | 5 => some .capabilityNotNegotiated
  | 6 => some .sequenceMismatch
  | 7 => some .sessionMismatch
  | 8 => some .unsupportedOpcode
  | 9 => some .unsupportedEventOpcode
  | 10 => some .invalidPayload
  | 11 => some .runtimeEventRejected
  | 12 => some .sessionClosed
  | _ => none

theorem FluidLinkV2ErrorCode.ofValue_value (code : FluidLinkV2ErrorCode) :
    ofValue code.value = some code := by
  cases code <;> rfl

theorem FluidLinkV2ErrorCode.value_lt (code : FluidLinkV2ErrorCode) : code.value < 256 ^ 2 := by
  cases code <;> decide

/-- The names of two codes differ. -/
theorem FluidLinkV2ErrorCode.name_injective : Function.Injective FluidLinkV2ErrorCode.name := by
  intro a b h
  cases a <;> cases b <;> first | rfl | exact absurd h (by decide)

open PayloadReader in
def readError : PayloadReader (String × String) := do
  let value ← u16
  match FluidLinkV2ErrorCode.ofValue value with
  | none => throw (invalidPayload s!"Unknown FluidLink v2 error code {value}.")
  | some code => do
    let message ← text16 512
    return (code.name, message)

/-- `decode_error_payload`. -/
def decodeErrorPayload (payload : Bytes) : Except FluidLinkProtocolError (String × String) :=
  readError.run payload

namespace PyText

/-- `encode_bounded_text`. -/
def boundedText (value : PyText) (maximumBytes : ℕ) (allowEmpty : Bool := false) :
    Except FluidLinkProtocolError Bytes :=
  match value.encodeStrict with
  | none => .error (invalidPayload "FluidLink v2 text field is not valid UTF-8.")
  | some encoded =>
    if maximumBytes < encoded.length ∨ allowEmpty = false ∧ value.strip = [] then
      .error (invalidPayload "FluidLink v2 text field violates its size limit.")
    else .ok encoded

/-- `_PayloadWriter.text16`. -/
def text16 (value : PyText) (maximumBytes : ℕ) (allowEmpty : Bool := false) :
    Except FluidLinkProtocolError Bytes := do
  let encoded ← value.boundedText maximumBytes allowEmpty
  let length ← PayloadWriter.u16 encoded.length
  return length ++ encoded

/-- `_truncate_utf8`: bytes that end within a character are ignored. -/
def truncateUtf8 (value : PyText) (maximumBytes : ℕ) : PyText :=
  let text := either value.strip "FluidLink v2 request failed."
  if text.encodeReplace.length ≤ maximumBytes then text
  else ofString (textOr (String.ofList (fitting text.replaced maximumBytes)) "FluidLink v2 error.")

/-- `encode_error_payload`. -/
def encodeErrorPayload (code : FluidLinkV2ErrorCode) (message : PyText) :
    Except FluidLinkProtocolError Bytes :=
  PayloadWriter.finish
    [PayloadWriter.u16 code.value, (message.truncateUtf8 512).text16 512]

/-! ## Texts without surrogates -/

theorem boundedText_ofString (s : String) (maximumBytes : ℕ) :
    (ofString s).boundedText maximumBytes = PayloadWriter.boundedText s maximumBytes := by
  have hblank : ofString (FluidGateway.strip s) = [] ↔ FluidGateway.strip s = "" := ofString_eq_nil
  unfold boundedText PayloadWriter.boundedText
  rw [encodeStrict_ofString, strip_ofString]
  simp only [hblank, true_and]

theorem text16_ofString (s : String) (maximumBytes : ℕ) :
    (ofString s).text16 maximumBytes = PayloadWriter.text16 s maximumBytes := by
  unfold text16 PayloadWriter.text16
  rw [boundedText_ofString]

theorem truncateUtf8_ofString (s : String) (maximumBytes : ℕ) :
    (ofString s).truncateUtf8 maximumBytes = ofString (FluidLink.truncateUtf8 s maximumBytes) := by
  unfold truncateUtf8 FluidLink.truncateUtf8
  simp only [strip_ofString, either_ofString, encodeReplace_ofString, replaced_ofString]
  split_ifs <;> rfl

/-- **The sessions write their errors in this way.** -/
theorem encodeErrorPayload_ofString (code : FluidLinkV2ErrorCode) (s : String) :
    encodeErrorPayload code (ofString s) = FluidLink.encodeErrorPayload code.value s := by
  unfold encodeErrorPayload FluidLink.encodeErrorPayload
  rw [truncateUtf8_ofString, text16_ofString]

end PyText

/-! ## What fits -/

theorem encode_fitting_le (cs : List Char) (room : ℕ) :
    (Utf8.encode (fitting cs room)).length ≤ room := by
  induction cs generalizing room with
  | nil => exact Nat.zero_le _
  | cons c cs ih =>
      unfold fitting
      by_cases hc : (String.utf8EncodeChar c).length ≤ room
      · have hrest := ih (room - (String.utf8EncodeChar c).length)
        rw [if_pos hc, Utf8.encode_cons, List.length_append]
        omega
      · rw [if_neg hc]
        exact Nat.zero_le _

/-- The first character fits. -/
theorem fitting_cons (c : Char) (cs : List Char) (room : ℕ) (h : 4 ≤ room) :
    ∃ rest, fitting (c :: cs) room = c :: rest := by
  have hsize : (String.utf8EncodeChar c).length ≤ 4 := by
    rw [Utf8Grammar.encodeChar_eq]
    split_ifs <;> simp
  unfold fitting
  rw [if_pos (by omega)]
  exact ⟨_, rfl⟩

theorem strip_ne_empty {s : String} {c : Char} {rest : List Char} (h : s.toList = c :: rest)
    (hc : isSpace c = false) : strip s ≠ "" := by
  intro hstrip
  have hlist := congrArg String.toList hstrip
  rw [strip_toList, h, List.dropWhile_cons, hc, String.toList_empty] at hlist
  have hall := List.rdropWhile_eq_nil_iff.mp hlist c List.mem_cons_self
  rw [hc] at hall
  cases hall

/-! ## What is reported -/

/-- The error is written, and read back as the same code and a message that is
not blank. -/
def Reports (code : FluidLinkV2ErrorCode) (message : PyText) : Prop :=
  ∃ bytes, message.encodeErrorPayload code = .ok bytes ∧
    ∃ text, decodeErrorPayload bytes = .ok (code.name, text) ∧ strip text ≠ "" ∧
      (utf8 text).length ≤ 512

/-- A text that fits is written. -/
theorem text16_ok {text : String} {maximumBytes : ℕ} (hmaximum : maximumBytes < 256 ^ 2)
    (hsize : (utf8 text).length ≤ maximumBytes) (hblank : strip text ≠ "") :
    PayloadWriter.text16 text maximumBytes = .ok (PayloadReader.textBytes 2 text) := by
  have hlength : (utf8 text).length < 256 ^ 2 := by omega
  have hbounded : PayloadWriter.boundedText text maximumBytes = .ok (utf8 text) := by
    unfold PayloadWriter.boundedText
    rw [if_neg]
    rintro (h | h)
    · omega
    · exact hblank h
  unfold PayloadWriter.text16 PayloadWriter.u16
  rw [hbounded]
  change (PayloadWriter.integer "u16" 2 (utf8 text).length).bind _ = _
  rw [integer_ok _ hlength]
  rfl

/-- A message that is cut to a text of at most 512 bytes is reported. -/
theorem reports_of_truncated {message : PyText} {text : String} (code : FluidLinkV2ErrorCode)
    (htext : message.truncateUtf8 512 = PyText.ofString text) (hsize : (utf8 text).length ≤ 512)
    (hblank : strip text ≠ "") : Reports code message := by
  have hlength : (utf8 text).length < 256 ^ 2 := by omega
  refine ⟨PayloadReader.integerBytes 2 code.value ++ PayloadReader.textBytes 2 text, ?_, text, ?_,
    hblank, hsize⟩
  · have hfinish := @finish_ok [PayloadReader.integerBytes 2 code.value,
      PayloadReader.textBytes 2 text] (by
        simp [PayloadReader.textBytes, Native.maxPayload]
        omega)
    unfold PyText.encodeErrorPayload PayloadWriter.u16
    rw [htext, PyText.text16_ofString, text16_ok (by decide) hsize hblank,
      integer_ok _ code.value_lt]
    simpa [PayloadReader.integerBytes] using hfinish
  · refine PayloadReader.run_eq_ok_iff.mpr (Reading.bind_eq_ok.mpr
      ⟨_, _, (PayloadReader.integer_exact 2).read code.value_lt _, ?_⟩)
    have htext := (PayloadReader.text_exact 2 512 false).read ⟨hlength, hsize, .inr hblank⟩ []
    rw [List.append_nil] at htext
    rw [FluidLinkV2ErrorCode.ofValue_value]
    exact Reading.bind_eq_ok.mpr ⟨_, _, htext, rfl⟩

/-- What `truncateUtf8` starts from, when the message is not blank. -/
theorem PyText.either_cons {t : PyText} {c : CodePoint} {rest : PyText} (h : t = c :: rest)
    (second : String) : either t second = t := by
  unfold either
  rw [if_neg (by rw [h]; exact List.cons_ne_nil _ _)]

/-- A long message is cut, and what is left has no surrogates. -/
theorem reports_of_long {message : PyText} (code : FluidLinkV2ErrorCode)
    (h : 512 < message.strip.encodeReplace.length) : Reports code message := by
  cases hstrip : message.strip with
  | nil =>
      rw [hstrip] at h
      cases h
  | cons c rest =>
      have hhead := PyText.head_strip hstrip
      have hspace : isSpace ((CodePoint.char? c).getD '?') = false := by
        unfold CodePoint.isSpace at hhead
        cases hc : CodePoint.char? c with
        | none => decide
        | some d =>
            rw [hc] at hhead
            exact hhead
      obtain ⟨kept, hkept⟩ := fitting_cons ((CodePoint.char? c).getD '?')
        (PyText.replaced rest) 512 (by decide)
      have hreplaced : message.strip.replaced =
          (CodePoint.char? c).getD '?' :: PyText.replaced rest := by
        rw [hstrip]
        rfl
      have hcut : fitting message.strip.replaced 512 = (CodePoint.char? c).getD '?' :: kept := by
        rw [hreplaced, hkept]
      have hlist : (String.ofList (fitting message.strip.replaced 512)).toList =
          (CodePoint.char? c).getD '?' :: kept := by
        rw [String.toList_ofList, hcut]
      have hne : String.ofList (fitting message.strip.replaced 512) ≠ "" := by
        intro hempty
        rw [hempty] at hlist
        cases hlist
      refine reports_of_truncated code ?_ ?_ (strip_ne_empty hlist hspace)
      · unfold PyText.truncateUtf8
        simp only [PyText.either_cons hstrip]
        rw [if_neg (not_le.mpr h), textOr, if_neg hne]
      · rw [utf8, String.toList_ofList]
        exact encode_fitting_le _ _

/-- A short message without surrogates is written as it is, or replaced when it
is blank. -/
theorem reports_of_short {s : String} (code : FluidLinkV2ErrorCode)
    (h : (utf8 (strip s)).length ≤ 512) : Reports code (PyText.ofString s) := by
  have htext : FluidLink.truncateUtf8 s 512 = textOr (strip s) "FluidLink v2 request failed." := by
    unfold FluidLink.truncateUtf8
    refine if_pos ?_
    unfold textOr
    split_ifs
    · decide
    · exact h
  refine reports_of_truncated code ((PyText.truncateUtf8_ofString s 512).trans
    (congrArg PyText.ofString htext)) ?_ ?_
  · unfold textOr
    split_ifs
    · decide
    · exact h
  · unfold textOr
    split_ifs with hblank
    · decide
    · cases hlist : (strip s).toList with
      | nil => exact absurd (String.toList_eq_nil_iff.mp hlist) hblank
      | cons c rest =>
          refine strip_ne_empty hlist ?_
          have hpoints : (PyText.ofString s).strip =
              CodePoint.ofChar c :: rest.map CodePoint.ofChar := by
            rw [PyText.strip_ofString, PyText.ofString, hlist, List.map_cons]
          rw [← PyText.isSpace_ofChar]
          exact PyText.head_strip hpoints

/-- A short message with a surrogate cannot be written. -/
theorem not_reports {message : PyText} (code : FluidLinkV2ErrorCode) {c : CodePoint}
    (hmem : c ∈ message) (hc : CodePoint.isSurrogate c = true)
    (h : message.strip.encodeReplace.length ≤ 512) : ¬ Reports code message := by
  rintro ⟨bytes, hbytes, -⟩
  have hstripped : c ∈ message.strip := (PyText.mem_strip hc).mpr hmem
  have hstrict : message.strip.encodeStrict = none := by
    cases hsome : message.strip.encodeStrict with
    | none => rfl
    | some data =>
        obtain ⟨s, hs, -⟩ := PyText.encodeStrict_eq_some.mp hsome
        have hnone := PyText.exists_string.mp ⟨s, hs⟩ c hstripped
        rw [hc] at hnone
        cases hnone
  have htruncated : message.truncateUtf8 512 = message.strip := by
    unfold PyText.truncateUtf8
    cases hstrip : message.strip with
    | nil =>
        rw [hstrip] at hstripped
        cases hstripped
    | cons d rest =>
        rw [hstrip] at h
        simp only [PyText.either_cons (t := d :: rest) rfl]
        rw [if_pos h]
  unfold PyText.encodeErrorPayload PyText.text16 PyText.boundedText PayloadWriter.u16 at hbytes
  rw [htruncated, hstrict, integer_ok _ code.value_lt] at hbytes
  cases hbytes

/-- **An error is reported unless its message fits and has a surrogate.** -/
theorem reports_iff (code : FluidLinkV2ErrorCode) (message : PyText) :
    Reports code message ↔ (∀ c ∈ message, CodePoint.isSurrogate c = false) ∨
      512 < message.strip.encodeReplace.length := by
  by_cases hlong : 512 < message.strip.encodeReplace.length
  · exact iff_of_true (reports_of_long code hlong) (.inr hlong)
  · rw [not_lt] at hlong
    by_cases hnone : ∀ c ∈ message, CodePoint.isSurrogate c = false
    · obtain ⟨s, rfl⟩ := PyText.exists_string.mpr hnone
      rw [PyText.strip_ofString, PyText.encodeReplace_ofString] at hlong
      exact iff_of_true (reports_of_short code hlong) (.inl hnone)
    · push Not at hnone
      obtain ⟨c, hmem, hc⟩ := hnone
      have hc : CodePoint.isSurrogate c = true := by simpa using hc
      refine iff_of_false (not_reports code hmem hc hlong) ?_
      rintro (hnone | hlong')
      · rw [hnone c hmem] at hc
        cases hc
      · omega

/-- A surrogate alone is no message. -/
theorem surrogate_not_reported :
    ¬ Reports .runtimeEventRejected [(⟨0xd800, by decide⟩ : CodePoint)] :=
  not_reports _ List.mem_cons_self (by decide) (by decide)

end FluidGateway.FluidLink
