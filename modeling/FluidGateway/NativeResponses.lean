import FluidGateway.FrameCodec
import FluidGateway.NativeSessionRuns

/-!
# Every response can be sent

Whatever a session answers obeys the header rules and fits in the largest
frame (`process_sends`), so writing a response cannot fail once the request
has changed the session (`responses_sendable`).
-/

namespace FluidGateway.Native

open Lockstep

/-- `FGN_MAX_FRAME_BYTES`. -/
def maxFrameBytes : Nat := 65591

namespace ProtocolSession

variable {s : ProtocolSession} {m : Memory} {request : Frame}

private theorem respond_flags (ok negotiated : Bool) :
    ((if ok then (1 : UInt8) else 0) ||| (if negotiated then 2 else 0)) &&& ~~~3 = 0 ∧
      (((if ok then (1 : UInt8) else 0) ||| (if negotiated then 2 else 0)) &&& 2 ≠ 0 ↔
        negotiated = true) := by
  cases ok <;> cases negotiated <;> decide

/-- The session decides the flag and the identity together. -/
theorem respond_valid {opcode decision : UInt8} {payload : Bytes} {ok : Bool}
    (hidentity : nonzero s.identity.toList = true) (hrequest : request.Valid)
    (hpayload : payload.length ≤ maxPayload) :
    (s.respond request opcode payload decision ok).Valid where
  kind := show (1 : UInt8) ≤ 2 ∧ (2 : UInt8) ≤ 2 by decide
  flags := (respond_flags ok s.negotiated).1
  sequence := hrequest.sequence
  sequence_lt := hrequest.sequence_lt
  message := hrequest.message
  session := by
    refine (respond_flags ok s.negotiated).2.trans ?_
    unfold respond
    cases hs : s.negotiated with
    | false =>
        have hzero : ¬ nonzero (Vector.replicate 16 (0 : UInt8)).toList = true := by decide
        exact iff_of_false Bool.false_ne_true hzero
    | true => exact iff_of_true rfl hidentity
  request := show ¬ ((2 : UInt8) = 1 ∧ _) from fun h => absurd h.1 (by decide)
  payload := hpayload

theorem errorPayload_length {e : Thrown} (h : e.Known) :
    (errorPayload e).length ≤ maxPayload := by
  cases e with
  | error e =>
      have hknown := h.length_le
      unfold errorPayload Writer.text Writer.integer maxPayload
      simp only [List.length_append, LittleEndian.encode_length]
      omega
  | badAlloc =>
      unfold maxPayload
      decide

theorem welcomePayload_length {hello : Hello} (h : hello.digest.length = 32) :
    (s.welcomePayload hello).length ≤ maxPayload := by
  have hname : (literal "fluidgateway").length = 12 := by decide
  have hversion : nativeVersion.length = 6 := by decide
  unfold welcomePayload Writer.text Writer.integer
  simp only [List.length_append, LittleEndian.encode_length, h, hname, hversion]
  decide

/-- What `conclude` sends for an outcome obeys the header rules, and the
session keeps its identity. -/
theorem Outcome.sends {h : Handled} (houtcome : Outcome s request h)
    (hidentity : nonzero s.identity.toList = true) (hrequest : request.Valid) :
    (conclude request h).1.Valid := by
  cases houtcome with
  | rejected e known => exact respond_valid hidentity hrequest (errorPayload_length known)
  | forgotten e batch _ known => exact respond_valid hidentity hrequest (errorPayload_length known)
  | unanswered e t _ _ _ hkept known =>
      have ht : nonzero t.identity.toList = true := by
        rw [hkept]
        exact hidentity
      exact respond_valid ht hrequest (errorPayload_length known)
  | welcome hello _ read =>
      exact respond_valid hidentity hrequest (welcomePayload_length (readHello_digest read))
  | decided payload d state _ _ _ fits => exact respond_valid hidentity hrequest fits
  | pong payload _ fits => exact respond_valid hidentity hrequest fits
  | farewell _ => exact respond_valid hidentity hrequest (Nat.zero_le _)

theorem Outcome.identity {h : Handled} (houtcome : Outcome s request h) :
    (conclude request h).2.identity = s.identity := by
  cases houtcome with
  | unanswered e t _ _ _ hkept _ => exact hkept
  | _ => rfl

theorem refusal_known {e : Error} (h : s.refusal request = some e) : (Thrown.error e).Known := by
  unfold refusal at h
  split_ifs at h
  all_goals
    cases h
    exact known_of_session (by simp [sessionTexts])

/-- A response echoes its request. -/
theorem conclude_echoes {h : Handled} (houtcome : Outcome s request h) :
    (conclude request h).1.sequence = request.sequence ∧
      (conclude request h).1.message = request.message := by
  cases houtcome <;> exact ⟨rfl, rfl⟩

/-- What a session sends is a response. -/
theorem process_kind : (s.process m request).1.kind = 2 := by
  cases hrefusal : s.refusal request with
  | none =>
      have houtcome := handle_outcome (m := m) hrefusal
      rw [process_handled]
      generalize s.handle m request = h at houtcome ⊢
      cases houtcome <;> rfl
  | some e =>
      rw [process_refused hrefusal]
      rfl

/-- **What a session answers can be sent.** -/
theorem process_sends (hidentity : nonzero s.identity.toList = true) (hrequest : request.Valid) :
    (s.process m request).1.Valid ∧ (s.process m request).1.sequence = request.sequence ∧
      (s.process m request).1.message = request.message := by
  cases hrefusal : s.refusal request with
  | none =>
      have houtcome := handle_outcome (m := m) hrefusal
      rw [process_handled]
      exact ⟨houtcome.sends hidentity hrequest, conclude_echoes houtcome⟩
  | some e =>
      rw [process_refused hrefusal]
      exact ⟨respond_valid hidentity hrequest (errorPayload_length (refusal_known hrefusal)),
        rfl, rfl⟩

theorem process_identity : (s.process m request).2.identity = s.identity := by
  cases hrefusal : s.refusal request with
  | none =>
      rw [process_handled]
      exact (handle_outcome (m := m) hrefusal).identity
  | some e =>
      rw [process_refused hrefusal]
      rfl

theorem final_identity (s : ProtocolSession) (history : List (Memory × Frame)) :
    (final step s history).identity = s.identity :=
  @invariant _ _ _ step s (fun t _ => t.identity = s.identity) rfl
    (fun _ _ _ h => process_identity.trans h) history

/-- **Every response can be sent.**  It fits in a frame, is read back as it
was, and echoes its request; writing it into a buffer for the largest frame
does not fail. -/
theorem responses_sendable (identity : Identity) (hidentity : nonzero identity.toList = true)
    (history : List (Memory × Frame)) (m : Memory) (bytes : Bytes) (request : Frame)
    (hrequest : decodeFrame bytes = .ok request) :
    let response := ((final step (fresh identity) history).process m request).1
    response.payload.length ≤ maxPayload ∧
      (∃ data, encodeFrame response = .ok data ∧ decodeFrame data = .ok response) ∧
      response.sequence = request.sequence ∧ response.message = request.message ∧
      ∃ data, encodeFrameInto response maxFrameBytes = .ok data := by
  have hkept := final_identity (fresh identity) history
  generalize final step (fresh identity) history = s at hkept ⊢
  have hnonzero : nonzero s.identity.toList = true := by
    rw [hkept]
    exact hidentity
  obtain ⟨hvalid, hsequence, hmessage⟩ :=
    process_sends (m := m) hnonzero (decodeFrame_eq_ok.mp hrequest).1
  intro response
  refine ⟨hvalid.payload, ⟨frameBytes response, ?_, ?_⟩, hsequence, hmessage,
    frameBytes response, ?_⟩
  · exact encodeFrame_eq_ok.mpr ⟨hvalid.payload, rfl⟩
  · exact decodeFrame_eq_ok.mpr ⟨hvalid, rfl⟩
  · have hfits : response.payload.length ≤ maxPayload := hvalid.payload
    unfold encodeFrameInto maxFrameBytes
    unfold maxPayload headerSize at *
    rw [if_neg (by omega), if_neg (by omega)]

/-- A ping before the handshake. -/
def earlyPing : Frame where
  opcode := 20
  message := Vector.replicate 16 7

theorem earlyPing_valid : earlyPing.Valid where
  kind := by decide
  flags := by decide
  sequence := by decide
  sequence_lt := by decide
  message := by decide
  session := by decide
  request := by decide
  payload := by decide

theorem responses_sendable_early_ping :
    let response := ((final step (fresh (Vector.replicate 16 1)) []).process .ample earlyPing).1
    response.payload.length ≤ maxPayload ∧
      (∃ data, encodeFrame response = .ok data ∧ decodeFrame data = .ok response) ∧
      response.sequence = earlyPing.sequence ∧ response.message = earlyPing.message ∧
      ∃ data, encodeFrameInto response maxFrameBytes = .ok data :=
  responses_sendable (Vector.replicate 16 1) (by decide) [] .ample (frameBytes earlyPing)
    earlyPing (decodeFrame_eq_ok.mpr ⟨earlyPing_valid, rfl⟩)

end ProtocolSession

end FluidGateway.Native
