import FluidGateway.SessionParity
import FluidGateway.WireLimit

/-!
# The two sessions on every run

Events and batches are where the sessions call their runtimes.  A frame is
handled alike when the runtimes decide alike on what it hands them
(`handle_mirrors`), and so is a run when they do all along (`sessions_agree`):
the same responses, and the same session closed or open after every frame.
-/

namespace FluidGateway.FluidLink

open Reading
open Native (Bytes Frame Identity Memory ProtocolSession Thrown)
open FluidGateway.Adapter (EventType Payload RuntimeAdapterSession)

variable {σ : Type} {s : ProtocolSession} {t : FluidLinkV2ServerSession} {request : Frame}
  {m : Memory}

/-! ## Events -/

/-- What the native runtime rejects, short of a limit, has the code of a
rejected event. -/
theorem call_code {s : Native.State} {g : Native.Grant} {c : Native.Call} {e : Thrown}
    (h : (s.call g c).1 = .error e) (hwithin : e.fatal = false) :
    ∃ error, e = .error error ∧ error.code = 11 ∧ error.fatal = false := by
  have hknown : ∀ {message : String}, Thrown.error ⟨11, message, false⟩ = e →
      ∃ error, e = .error error ∧ error.code = 11 ∧ error.fatal = false := by
    intro message he
    exact ⟨_, he.symm, rfl, rfl⟩
  cases c with
  | process op =>
      have hspec := s.process_spec g op
      rw [show (s.process g op).1 = .error e from h] at hspec
      generalize (s.process g op).2 = after at hspec
      cases hspec with
      | duplicate => exact hknown rfl
      | full _ fatal =>
          rw [fatal] at hwithin
          cases hwithin
      | refused _ fatal =>
          rw [fatal] at hwithin
          cases hwithin
  | release id => cases h
  | beginFrame frame =>
      simp only [Native.State.call, Native.plain, Native.State.beginFrame] at h
      split_ifs at h
      exact hknown (Except.error.inj h)
  | endFrame frame =>
      simp only [Native.State.call, Native.plain, Native.State.endFrame] at h
      split_ifs at h
      exact hknown (Except.error.inj h)
  | endSession =>
      simp only [Native.State.call, Native.plain, Native.State.endSession] at h
      split_ifs at h
      exact hknown (Except.error.inj h)
  | register id memory aliases =>
      simp only [Native.State.call, Native.plain, Native.State.registerResource] at h
      split_ifs at h
      · exact hknown (Except.error.inj h)
      · cases h
        cases hwithin
      · cases h
        rw [Native.Refusal.thrown_fatal] at hwithin
        cases hwithin

/-- A scaled number that was accepted is within its limit. -/
theorem scaledDecimal_le {value : Adapter.PyFloat} {scale maximum n : ℕ} {name : String}
    (h : scaledDecimal value scale maximum name = .ok n) : n ≤ maximum := by
  unfold scaledDecimal at h
  cases value with
  | finite x =>
      dsimp only at h
      split_ifs at h with _ _ hover
      cases h
      exact not_lt.mp hover
  | _ => cases h

/-- A decision that both sides agree on is written. -/
theorem SameDecision.written {decision : Native.Decision} {compact : CompactResponse}
    (h : SameDecision decision compact) :
    encodeRuntimeDecisionPayload compact =
      .ok (decisionBytes compact.flags decision.savedUs decision.savedBytes) :=
  encodeRuntimeDecisionPayload_eq h.savedMs h.savedMb (scaledDecimal_le h.savedMs)
    (scaledDecimal_le h.savedMb)

/-- What the native session makes of the answer of its runtime. -/
def conveyed (s : ProtocolSession) (m : Memory) (request : Frame) :
    Except Thrown Native.Decision × Native.State → Native.Handled
  | (.error e, state) => (.error e, { s with state })
  | (.ok result, state) =>
    { s with state }.reply m request 11 (Native.Writer.decision result) result.opcode

/-- Both sessions send the same frame about the same answer of the runtime, or refuse with
the same code. The cases are the kinds of answers. -/
theorem answer_mirrors {type : EventType} {result : Except PyException Payload}
    {out : Except Thrown Native.Decision × Native.State} {g : Native.Grant}
    {call : Option Native.Call} (h : Mirrors s t) (hwriting : m.writing = true)
    (hout : s.state.answer g call = out) (hsame : SameAnswer type out.1 result) :
    SameHandled request (conveyed s m request out)
      (t.runtimeDecision (reference request) type result) t := by
  obtain ⟨outcome, state⟩ := out
  have hkept := h.withState state
  cases hsame with
  | @decided decision response compact sent same =>
      have hdecided : t.runtimeDecision (reference request) type (.ok response) =
          .ok (fluidlinkV2Response (reference request) 11 t.sessionId
            (decisionBytes compact.flags decision.savedUs decision.savedBytes)
            (reference request).subjectOpcode decision.opcode.toNat) := by
        exact runtimeDecision_ok sent same.written
      rw [hdecided]
      unfold conveyed ProtocolSession.reply
      dsimp only
      rw [if_pos hwriting]
      exact .answered (reply_alike hkept (by decide) decision.opcode _ _ rfl) hkept
  | @rejected e exception within =>
      have hcode : ∃ error, e = .error error ∧ error.code = 11 ∧ error.fatal = false := by
        cases call with
        | none => cases hout
        | some call => exact call_code (congrArg Prod.fst hout) within
      obtain ⟨error, rfl, hcode, hfatal⟩ := hcode
      exact .refused rfl hcode hfatal hkept

/-! ## Batches -/

/-- Two texts in a row are encoded one after the other. -/
theorem utf8_append (a b : String) : utf8 (a ++ b) = utf8 a ++ utf8 b := by
  unfold utf8
  rw [String.toList_append, Utf8.encode_append]

/-- The text of the bytes is written in hexadecimal on both sides. -/
theorem utf8_hexText (data : Bytes) : utf8 (hexText data) = Native.hex data := by
  have hbyte : ∀ n : Fin 256,
      Utf8.encode (List.replicate (2 - (Nat.toDigits 16 n.val).length) '0' ++
        Nat.toDigits 16 n.val) =
      [Native.hexDigit (UInt8.ofFin n >>> 4).toNat, Native.hexDigit (UInt8.ofFin n &&& 15).toNat] := by
    decide +kernel
  unfold utf8 hexText Native.hex
  rw [String.toList_join]
  induction data with
  | nil => rfl
  | cons byte data ih =>
      have hdigits : Utf8.encode (List.replicate (2 - (Nat.toDigits 16 byte.toNat).length) '0' ++
          Nat.toDigits 16 byte.toNat) =
          [Native.hexDigit (byte >>> 4).toNat, Native.hexDigit (byte &&& 15).toNat] :=
        hbyte byte.toFin
      rw [List.map_cons, List.flatMap_cons, Utf8.encode_append, ih, List.flatMap_cons,
        String.toList_ofList, hdigits]

/-- The ids of the items of a batch are the same. -/
theorem utf8_itemId (batch : WireBatch) {i : ℕ} (h : i < 256) :
    Native.itemId batch.batchId i = utf8 (batch.itemId i) := by
  have hordinal : ∀ n : Fin 256, utf8 (ordinalText n.val) = Native.ordinal n.val := by
    unfold utf8 ordinalText Native.ordinal
    simp only [String.toList_ofList, Native.literal_toString]
    decide +kernel
  unfold WireBatch.itemId Native.itemId
  rw [utf8_append, utf8_append, utf8_append, utf8_hexText, hordinal ⟨i, h⟩]
  rfl

/-- A decision on an item that is written as an entry of 18 bytes. -/
def Written (decision : ℕ × CompactResponse) : Prop :=
  ∃ entry, batchEntry decision.1 decision.2 = .ok entry ∧ entry.length = 18

/-- A decision that both sides agree on is written as an entry of a batch. -/
theorem SameDecision.entry {decision : Native.Decision} {compact : CompactResponse}
    (h : SameDecision decision compact) (hopcode : decision.opcode ≤ 6)
    (hoperation : decision.operation = true) : Written (decision.opcode.toNat, compact) := by
  have hle : ¬ 6 < decision.opcode.toNat := not_lt.mpr hopcode
  have hzero : decide (decision.opcode = 0) = decide (decision.opcode.toNat = 0) := by
    rw [decide_eq_decide, ← UInt8.toNat_inj]
    rfl
  have hexecuted : compact.executed = some (decide (decision.opcode.toNat = 0)) := by
    rw [h.executed, hoperation, if_pos rfl, hzero]
  have hlength : (decisionBytes compact.flags decision.savedUs decision.savedBytes).length = 17 := by
    simp only [decisionBytes, List.length_append, LittleEndian.encode_length]
  have hraw : PayloadWriter.raw
      (decisionBytes compact.flags decision.savedUs decision.savedBytes) 17 = .ok _ :=
    if_pos hlength
  have hfinish := @finish_ok [LittleEndian.encode decision.opcode.toNat 1,
    decisionBytes compact.flags decision.savedUs decision.savedBytes] (by
      simp [hlength, Native.maxPayload])
  unfold Written batchEntry
  dsimp only
  rw [if_neg hle, if_neg (not_not.mpr hexecuted), h.written]
  refine ⟨[LittleEndian.encode decision.opcode.toNat 1,
    decisionBytes compact.flags decision.savedUs decision.savedBytes].flatten, ?_, ?_⟩
  · change (PayloadWriter.finish [PayloadWriter.integer "u8" 1 decision.opcode.toNat,
      PayloadWriter.raw _ 17]).mapError _ = _
    rw [integer_ok _ (by omega), hraw]
    rw [List.map_cons, List.map_cons, List.map_nil] at hfinish
    rw [hfinish]
    rfl
  · simp [hlength]

/-- What the native runtime decides on an operation. -/
theorem process_decision {s : Native.State} {g : Native.Grant} {op : Native.Operation}
    {decision : Native.Decision} (h : (s.process g op).1 = .ok decision) :
    decision.opcode ≤ 6 ∧ decision.operation = true := by
  have hspec := s.process_spec g op
  rw [h] at hspec
  generalize (s.process g op).2 = after at hspec
  cases hspec with
  | executed => exact ⟨UInt8.zero_le, rfl⟩
  | eliminated => exact ⟨s.choose_opcode _, rfl⟩

/-- The items of a batch are all decided, or one of them is rejected. -/
inductive SameItemsOutcome (count : ℕ) :
    Except Thrown Bytes → Except PyException (List (ℕ × CompactResponse)) → Prop
  | decided {payload : Bytes} {decisions : List (ℕ × CompactResponse)}
      (written : ∀ decision ∈ decisions, Written decision) (length : decisions.length = count) :
      SameItemsOutcome count (.ok payload) (.ok decisions)
  | rejected {e : Native.Error} {exception : PyException} (code : e.code = 11)
      (within : e.fatal = false) :
      SameItemsOutcome count (.error (.error e)) (.error exception)

/-- The items of a batch differ in their ids only. -/
theorem SameOperation.item {request : Native.BatchRequest} {wire : WireOperation}
    (h : SameOperation request.template wire) (i : ℕ) : SameOperation (item request i) wire :=
  ⟨h.type, h.queue, h.source, h.target, h.reason, h.microseconds, h.bytes, h.frame,
    h.dependencies⟩

/-- Both sides go through the items of a batch alike, by induction on the items that remain:
each is answered alike, and the first that is refused ends the batch on both sides. -/
theorem items_alike {handler : EventHandler σ} {native : Native.BatchRequest} {batch : WireBatch}
    (hbatch : SameBatch native batch) {remaining i : ℕ} (hcount : i + remaining ≤ 256)
    {state : Native.State} {runtime : σ} {payload : Bytes}
    {decisions : List (ℕ × CompactResponse)} (hwritten : ∀ decision ∈ decisions, Written decision)
    (hsame : SameItems handler m native batch remaining i state runtime) :
    SameItemsOutcome (decisions.length + remaining)
      (Native.batchItems m native remaining i payload state).1
      (batchDecisions handler batch remaining i decisions runtime).1 := by
  induction remaining generalizing i state runtime payload decisions with
  | zero => exact .decided hwritten rfl
  | succ remaining ih =>
      obtain ⟨hfirst, hrest⟩ := hsame
      have hid : Native.itemId native.id i = utf8 (batch.itemId i) := by
        rw [hbatch.id]
        exact utf8_itemId batch (by omega)
      have hanswer := hfirst hid (hbatch.template.item i)
      unfold Native.batchItems batchDecisions
      change SameItemsOutcome _
        (match state.process (m.grants i) (item native i) with
          | (.error e, s) => (.error e, s)
          | (.ok result, s) => Native.batchItems m native remaining (i + 1)
              (payload ++ Native.itemEntry result) s : Except Thrown Bytes × Native.State).1 _
      generalize hout : state.process (m.grants i) (item native i) = out at hanswer hrest ⊢
      obtain ⟨outcome, state'⟩ := out
      generalize handler (batch.event i) runtime = answer at hanswer hrest ⊢
      obtain ⟨result, runtime'⟩ := answer
      dsimp only at hanswer hrest ⊢
      cases hanswer with
      | @decided decision response compact sent same =>
          obtain ⟨hopcode, hoperation⟩ := process_decision (congrArg Prod.fst hout)
          dsimp only
          rw [sent]
          have hall : ∀ d ∈ decisions ++ [(decision.opcode.toNat, compact)], Written d := by
            intro d hd
            rcases List.mem_append.mp hd with hd | hd
            · exact hwritten d hd
            · rw [List.mem_singleton.mp hd]
              exact same.entry hopcode hoperation
          have htail := @ih (i + 1) (by omega) state' runtime'
            (payload ++ Native.itemEntry decision) _ hall (hrest rfl)
          rw [List.length_append, List.length_singleton, Nat.add_assoc, Nat.add_comm 1] at htail
          exact htail
      | @rejected e exception within =>
          obtain ⟨error, rfl, hcode, hfatal⟩ := @call_code state (m.grants i)
            (.process (item native i)) _ (congrArg Prod.fst hout) within
          exact .rejected hcode hfatal

/-- Entries that can be written one by one are written in a row, 18 bytes each. -/
theorem mapM_written {decisions : List (ℕ × CompactResponse)}
    (h : ∀ decision ∈ decisions, Written decision) :
    ∃ entries, decisions.mapM (fun decision => batchEntry decision.1 decision.2) = .ok entries ∧
      entries.flatten.length = 18 * decisions.length := by
  induction decisions with
  | nil => exact ⟨[], rfl, rfl⟩
  | cons decision decisions ih =>
      obtain ⟨entry, hentry, hlength⟩ := h decision List.mem_cons_self
      obtain ⟨entries, hentries, hlengths⟩ := ih fun d hd => h d (List.mem_cons_of_mem _ hd)
      refine ⟨entry :: entries, ?_, ?_⟩
      · rw [List.mapM_cons, hentry, hentries]
        rfl
      · rw [List.flatten_cons, List.length_append, hlength, hlengths, List.length_cons]
        omega

/-- The decisions on a whole batch are always written. -/
theorem batchDecision_written {batchId : Bytes} {decisions : List (ℕ × CompactResponse)}
    (hid : batchId.length = 16) (hcount : 1 ≤ decisions.length ∧ decisions.length ≤ 256)
    (h : ∀ decision ∈ decisions, Written decision) :
    ∃ payload, encodeOperationBatchDecisionPayload batchId decisions = .ok payload := by
  obtain ⟨entries, hentries, hlength⟩ := mapM_written h
  have hraw : PayloadWriter.raw batchId 16 = .ok batchId := if_pos hid
  have hfinish := @finish_ok ([batchId, LittleEndian.encode decisions.length 2] ++ entries) (by
    rw [List.flatten_append, List.length_append, hlength]
    simp only [List.flatten_cons, List.flatten_nil, List.append_nil, List.length_append, hid,
      LittleEndian.encode_length, Native.maxPayload]
    omega)
  unfold encodeOperationBatchDecisionPayload PayloadWriter.u16
  rw [if_neg (not_not.mpr hcount), hraw, integer_ok _ (by omega), hentries]
  rw [List.map_append, List.map_cons, List.map_cons, List.map_nil] at hfinish
  refine ⟨([batchId, LittleEndian.encode decisions.length 2] ++ entries).flatten, ?_⟩
  change (PayloadWriter.finish (_ ++ entries.map .ok)).mapError _ = _
  rw [hfinish]
  rfl

/-- Both sessions handle a batch alike. -/
theorem batch_mirrors {handler : EventHandler σ} {runtime : σ} (h : Mirrors s t)
    (hs : s.negotiated = true) (hsame : AnsweredAlike handler s runtime m request)
    (hreading : m.reading = true) (hwriting : m.writing = true) (hsubject : request.subject = 105) :
    SameHandled request (s.runBatch m request)
      (t.handleOperationBatch handler (reference request) runtime).1
      (t.handleOperationBatch handler (reference request) runtime).2.1 := by
  have hdigest : (¬ ∃ digest ∈ t.contractDigest, contractDigestOf Native.batchHash digest) ↔
      s.batch = false := by
    rw [← h.batch hs, Bool.not_eq_true]
  have hbits : t.acceptedCapabilities &&& 0x80 = 0 ↔ s.capabilities &&& 128 = 0 := by
    rw [h.capabilities hs]
  unfold ProtocolSession.runBatch FluidLinkV2ServerSession.handleOperationBatch
    decodeOperationBatchEventPayload
  by_cases hcapable : s.batch = false ∨ s.capabilities &&& 128 = 0
  · rw [if_pos hcapable, if_pos (hcapable.imp hdigest.mpr hbits.mpr)]
    exact .refused rfl rfl rfl h
  rw [if_neg hcapable, if_neg fun hno => hcapable (hno.imp hdigest.mp hbits.mp)]
  have hpayload : (reference request).payload = request.payload := rfl
  rw [hpayload]
  obtain ⟨native, batch, hread, hrun, hbatch⟩ | ⟨e, d, hread, hrun, hcode, hfatal⟩ :=
    read_alike readBatch_alike Native.readBatch_malformed hreading request.payload
  · obtain ⟨hset, hbit⟩ := not_or.mp hcapable
    have hspec := Native.readBatch_spec (Native.Memory.read_eq_ok hread)
    have hid : batch.batchId.length = 16 := hbatch.id ▸ hspec.2.1
    have hpositive : 0 < native.count := hspec.2.2.2.1
    have hlimit : native.count ≤ 256 := hspec.2.2.2.2.1
    have hitems := hsame.batch hsubject (by simpa using hset) hbit
      (Native.Memory.read_eq_ok hread) hrun
    have houtcome := @items_alike σ m handler native batch hbatch native.count 0 (by omega)
      s.state runtime (native.id ++ Native.Writer.integer native.count 2) [] (by simp) hitems
    rw [hread, hrun]
    dsimp only
    rw [← hbatch.count]
    generalize Native.batchItems m native native.count 0 _ s.state = out at houtcome ⊢
    generalize batchDecisions handler batch native.count 0 [] runtime = result at houtcome ⊢
    obtain ⟨outcome, state⟩ := out
    obtain ⟨decisions, runtime'⟩ := result
    dsimp only at houtcome ⊢
    have hkept := h.withState state
    cases houtcome with
    | @decided payload decisions written length =>
        rw [List.length_nil, Nat.zero_add] at length
        obtain ⟨sent, hsent⟩ := batchDecision_written hid (by omega) written
        have hbind : (Except.ok decisions : Except PyException _) >>=
            encodeOperationBatchDecisionPayload batch.batchId = .ok sent := hsent
        have hopcode : 105 = if (11 : UInt8) = 11 then request.subject.toNat else 0 := by
          rw [if_pos rfl, hsubject]
          rfl
        rw [hbind]
        unfold ProtocolSession.reply
        dsimp only
        rw [if_pos hwriting]
        exact .answered (reply_alike hkept (by decide) 7 _ sent hopcode) hkept
    | rejected code within => exact .refused rfl code within (hkept.close hs)
  · rw [hread, hrun]
    exact .refused rfl hcode hfatal h

/-- An event that cannot be read is not decoded. -/
theorem decodeRuntimeEventPayload_error {type : EventType} {payload : Bytes}
    {d : FluidLinkProtocolError} (h : (readEvent type).run payload = .error d) :
    decodeRuntimeEventPayload type payload = .error d := by
  unfold decodeRuntimeEventPayload
  rw [h]
  rfl

/-- An event that is read is decoded to its dictionary. -/
theorem decodeRuntimeEventPayload_ok {type : EventType} {payload : Bytes} {wire : WireEvent}
    (h : (readEvent type).run payload = .ok wire) :
    decodeRuntimeEventPayload type payload = .ok (wire.dict type) := by
  unfold decodeRuntimeEventPayload
  rw [h]
  rfl

/-- Both sessions handle a runtime event alike. The event is read alike, and the runtime
answers alike by hypothesis. -/
theorem runtimeEvent_mirrors {handler : EventHandler σ} {runtime : σ} (h : Mirrors s t)
    (hs : s.negotiated = true)
    (hsame : s.capabilities &&& 27 = 27 → AnsweredAlike handler s runtime m request)
    (hreading : m.reading = true) (hwriting : m.writing = true) :
    SameHandled request (s.runtimeEvent m request)
      (t.handleRuntimeEvent handler (reference request) runtime).1
      (t.handleRuntimeEvent handler (reference request) runtime).2.1 := by
  unfold ProtocolSession.runtimeEvent FluidLinkV2ServerSession.handleRuntimeEvent
    FluidLinkV2ServerSession.requiredCapabilities
  rw [h.capabilities hs]
  by_cases hcapable : s.capabilities &&& 27 = 27
  · have hbatch : request.subject = 105 ↔ (reference request).subjectOpcode = 105 :=
      UInt8.toNat_inj.symm
    rw [if_neg (not_not.mpr hcapable), if_neg (not_not.mpr hcapable)]
    by_cases hsubject : request.subject = 105
    · rw [if_pos hsubject, if_pos (hbatch.mp hsubject)]
      exact batch_mirrors h hs (hsame hcapable) hreading hwriting hsubject
    rw [if_neg hsubject, if_neg fun hother => hsubject (hbatch.mpr hother)]
    have hpayload : (reference request).payload = request.payload := rfl
    have hopcode : (reference request).subjectOpcode = request.subject.toNat := rfl
    rw [hpayload, hopcode]
    change SameHandled request
      (conveyed s m request (s.event m request.subject request.payload)) _ _
    unfold ProtocolSession.event
    rw [if_pos hreading]
    cases htype : eventOfOpcode request.subject.toNat with
    | none =>
        rw [readEvent_unknown htype]
        exact .refused rfl rfl rfl h
    | some type =>
        have hboth := readEvent_alike htype request.payload
        cases hread : Native.readEvent request.subject request.payload with
        | error e =>
            obtain ⟨d, hrun, hmalformed⟩ := hboth.of_error hread
            dsimp only
            rw [decodeRuntimeEventPayload_error hrun]
            exact .refused rfl hmalformed.code hmalformed.fatal h
        | ok call =>
            obtain ⟨wire, hrun, hevent⟩ := hboth.of_ok hread
            have hanswer := (hsame hcapable).event hread htype hrun hevent
            dsimp only
            rw [decodeRuntimeEventPayload_ok hrun]
            exact answer_mirrors h hwriting rfl hanswer
  · rw [if_pos hcapable, if_pos hcapable]
    exact .refused rfl rfl rfl h

/-! ## One frame -/

/-- Both sessions handle any request alike, once they have negotiated. -/
theorem dispatch_mirrors {handler : EventHandler σ} {runtime : σ} (h : Mirrors s t)
    (hs : s.negotiated = true)
    (hsame : request.decision = 0 → request.opcode = 10 → s.capabilities &&& 27 = 27 →
      AnsweredAlike handler s runtime m request)
    (hreading : m.reading = true) (hwriting : m.writing = true) :
    SameHandled request (s.dispatch m request)
      (t.dispatch handler (reference request) runtime).1
      (t.dispatch handler (reference request) runtime).2.1 := by
  have hbyte : ∀ {byte value : UInt8}, byte = value ↔ byte.toNat = value.toNat :=
    UInt8.toNat_inj.symm
  have hdecision : request.decision = 0 ↔ (reference request).decisionOpcode = 0 := hbyte
  have hevent : request.opcode = 10 ↔ (reference request).opcode = 10 := hbyte
  have hsubject : request.subject = 0 ↔ (reference request).subjectOpcode = 0 := hbyte
  have hping : request.opcode = 20 ↔ (reference request).opcode = 20 := hbyte
  have hgoodbye : request.opcode = 30 ↔ (reference request).opcode = 30 := hbyte
  unfold ProtocolSession.dispatch FluidLinkV2ServerSession.dispatch
  by_cases hzero : request.decision = 0
  swap
  · rw [if_pos hzero, if_pos (hzero ∘ hdecision.mpr)]
    exact .refused rfl rfl rfl h
  rw [if_neg (not_not.mpr hzero), if_neg (not_not.mpr (hdecision.mp hzero))]
  by_cases hten : request.opcode = 10
  · rw [if_pos hten, if_pos (hevent.mp hten)]
    exact runtimeEvent_mirrors h hs (hsame hzero hten) hreading hwriting
  rw [if_neg hten, if_neg (hten ∘ hevent.mpr)]
  by_cases hplain : request.subject = 0
  swap
  · rw [if_pos hplain, if_pos (hplain ∘ hsubject.mpr)]
    exact .refused rfl rfl rfl h
  rw [if_neg (not_not.mpr hplain), if_neg (not_not.mpr (hsubject.mp hplain))]
  by_cases htwenty : request.opcode = 20
  · rw [if_pos htwenty, if_pos (hping.mp htwenty)]
    exact ping_mirrors h hs hreading hwriting
  rw [if_neg htwenty, if_neg (htwenty ∘ hping.mpr)]
  by_cases hthirty : request.opcode = 30
  · rw [if_pos hthirty, if_pos (hgoodbye.mp hthirty)]
    exact goodbye_mirrors h hs hreading hwriting
  rw [if_neg hthirty, if_neg (hthirty ∘ hgoodbye.mpr)]
  exact .refused rfl rfl rfl h

/-- A request is of the session on both sides, or on none. -/
theorem session_iff (h : Mirrors s t) (hs : s.negotiated = true) (hvalid : request.Valid) :
    request.session = s.identity ↔ (reference request).sessionId = t.sessionId := by
  have hsession := h.session
  rw [if_pos hs] at hsession
  rw [hsession]
  change _ ↔ (if request.flags &&& 2 ≠ 0 then some request.session.toList else none) = _
  constructor
  · intro hsame
    have hflag : request.flags &&& 2 ≠ 0 := by
      rw [hvalid.session, hsame]
      exact h.identity
    rw [if_pos hflag, hsame]
  · intro hsame
    split_ifs at hsame
    exact Vector.toList_inj.mp (Option.some.inj hsame)

/-- **A frame is handled alike**, when the heap serves it and the runtimes
decide alike on what it hands them. -/
theorem handle_mirrors {handler : EventHandler σ} {runtime : σ} (h : Mirrors s t)
    (hvalid : request.Valid) (hsequence : s.sequence < Native.sequenceLimit)
    (hsame : Reaches s request → AnsweredAlike handler s runtime m request)
    (hreading : m.reading = true) (hwriting : m.writing = true) :
    SameHandled request (s.handle m request)
      (t.process s.identity.toList handler (reference request) runtime).1
      (t.process s.identity.toList handler (reference request) runtime).2.1 := by
  have hkind : (reference request).kind = .request ↔ request.kind = 1 := by
    change (if request.kind = 1 then FluidLinkFrameKind.request else .response) = .request ↔ _
    split_ifs with hone
    · exact iff_of_true rfl hone
    · exact iff_of_false (by decide) hone
  have hcount : (reference request).sequence = request.sequence := rfl
  have hopcode : (reference request).opcode = 1 ↔ request.opcode = 1 :=
    @UInt8.toNat_inj request.opcode 1
  unfold FluidLinkV2ServerSession.process
  by_cases hrequest : request.kind = 1
  swap
  · have hrefusal : s.refusal request = some ⟨1, "Requests only.", false⟩ := if_pos hrequest
    rw [if_pos (hrequest ∘ hkind.mp)]
    unfold ProtocolSession.handle
    rw [hrefusal]
    exact .refused rfl rfl rfl h
  rw [if_neg (not_not.mpr (hkind.mpr hrequest)), hcount, ← h.sequence]
  by_cases hnumber : request.sequence = s.sequence
  swap
  · have hrefusal : s.refusal request = some ⟨6, "Sequence mismatch.", false⟩ := by
      unfold ProtocolSession.refusal
      rw [if_neg (not_not.mpr hrequest), if_pos hnumber]
    rw [if_pos hnumber]
    unfold ProtocolSession.handle
    rw [hrefusal]
    exact .refused rfl rfl rfl h
  rw [if_neg (not_not.mpr hnumber)]
  have hcounted := h.counted
  rw [← h.sequence] at hcounted
  cases hs : s.negotiated with
  | false =>
      have hnone : t.sessionId = none := by
        rw [h.session, hs]
        rfl
      have hlooked : s.refusal request = none := by
        rw [ProtocolSession.refusal_eq_none]
        refine ⟨hrequest, hnumber, ?_, h.opened hs, hsequence.ne⟩
        intro hmet
        exact absurd (hmet.symm.trans hs) (by decide)
      unfold ProtocolSession.handle
      rw [hlooked, if_pos hnone]
      dsimp only
      rw [if_neg (by rw [hs]; decide)]
      by_cases hone : request.opcode = 1
      · rw [if_neg (not_not.mpr (hopcode.mpr hone))]
        exact hello_mirrors hcounted hs hreading hwriting hone
      · rw [if_pos (hone ∘ hopcode.mp)]
        unfold ProtocolSession.hello
        rw [if_pos hone]
        exact .refused rfl rfl rfl hcounted
  | true =>
      have hsome : t.sessionId ≠ none := by
        rw [h.session, hs]
        exact Option.some_ne_none _
      rw [if_neg hsome]
      by_cases hidentity : request.session = s.identity
      swap
      · have hrefusal : s.refusal request = some ⟨7, "Session mismatch.", false⟩ := by
          unfold ProtocolSession.refusal
          rw [if_neg (not_not.mpr hrequest), if_neg (not_not.mpr hnumber), if_pos ⟨hs, hidentity⟩]
        rw [if_pos (hidentity ∘ (session_iff h hs hvalid).mpr)]
        unfold ProtocolSession.handle
        rw [hrefusal]
        exact .refused rfl rfl rfl h
      rw [if_neg (not_not.mpr ((session_iff h hs hvalid).mp hidentity))]
      by_cases hclosed : s.closed = true
      · have hrefusal : s.refusal request = some ⟨12, "Session closed.", false⟩ := by
          unfold ProtocolSession.refusal
          rw [if_neg (not_not.mpr hrequest), if_neg (not_not.mpr hnumber),
            if_neg fun hother => hother.2 hidentity, if_pos hclosed]
        rw [if_pos (h.closed.symm.trans hclosed)]
        unfold ProtocolSession.handle
        rw [hrefusal]
        exact .refused rfl rfl rfl h
      · have hlooked : s.refusal request = none := by
          rw [ProtocolSession.refusal_eq_none]
          exact ⟨hrequest, hnumber, fun _ => hidentity, by simpa using hclosed, hsequence.ne⟩
        have hreaches : request.decision = 0 → request.opcode = 10 →
            s.capabilities &&& 27 = 27 →
            AnsweredAlike handler { s with sequence := s.sequence + 1 } runtime m request := by
          intro hdecision hevent hcapable
          have halike := hsame ⟨hlooked, hs, hdecision, hevent, hcapable⟩
          exact ⟨halike.event, halike.batch⟩
        rw [if_neg fun hother => hclosed (h.closed.trans hother)]
        unfold ProtocolSession.handle
        rw [hlooked]
        dsimp only
        rw [if_pos hs]
        exact dispatch_mirrors hcounted hs hreaches hreading hwriting

/-! ## Every run -/

/-- `__init__`: the name of the server is checked before there is a session. -/
def FluidLinkV2ServerSession.init (serverName serverVersion : String) :
    Except FluidLinkProtocolError FluidLinkV2ServerSession := do
  let _ ← PayloadWriter.boundedText serverName 128
  let _ ← PayloadWriter.boundedText serverVersion 64
  return { serverName, serverVersion }

/-- The response of the native session to a frame, and whether it is closed
afterwards. -/
def nativeAnswer (s : ProtocolSession) (input : Memory × Frame) :
    (Frame × Bool) × ProtocolSession :=
  let out := s.process input.1 input.2
  ((out.1, out.2.closed), out.2)

/-- The response of the reference to a frame, and whether it is closed
afterwards. -/
def referenceAnswer (uuid : Bytes) (handler : EventHandler σ) (t : FluidLinkV2ServerSession × σ)
    (request : FluidLinkV2Frame) :
    (Except PyException FluidLinkV2Frame × Bool) × FluidLinkV2ServerSession × σ :=
  let out := t.1.process uuid handler request t.2
  ((out.1, out.2.1.closed), out.2)

/-- The bytes of a frame were decoded by either codec. -/
def Received (input : Memory × Frame) (request : FluidLinkV2Frame) : Prop :=
  ∃ data, Native.decodeFrame data = .ok input.2 ∧ decodeFluidlinkV2Frame data = .ok request

/-- The runtimes decide alike wherever a frame of the run gets as far as them. -/
def AnsweredThroughout (uuid : Bytes) (handler : EventHandler σ) :
    ProtocolSession → FluidLinkV2ServerSession × σ → List (Memory × Frame) →
      List FluidLinkV2Frame → Prop
  | s, t, input :: inputs, request :: requests =>
    (Reaches s input.2 → AnsweredAlike handler s t.2 input.1 input.2) ∧
      AnsweredThroughout uuid handler (nativeAnswer s input).2
        (referenceAnswer uuid handler t request).2 inputs requests
  | _, _, _, _ => True

/-- The same response, and both sessions closed or both open. -/
structure SameAfter (out : Frame × Bool) (result : Except PyException FluidLinkV2Frame × Bool) :
    Prop where
  response : ∃ p, result.1 = .ok p ∧ SameResponse out.1 p
  closed : out.2 = result.2

/-- The frame that the reference receives is what the native frame stands for. -/
theorem Received.eq {input : Memory × Frame} {received : FluidLinkV2Frame}
    (h : Received input received) : input.2.Valid ∧ received = reference input.2 := by
  obtain ⟨data, hnative, hreference⟩ := h
  obtain ⟨hvalid, -⟩ := Native.decodeFrame_eq_ok.mp hnative
  have hdecoded := (codecs_agree data).2.2.1 _ hnative
  exact ⟨hvalid, Except.ok.inj (hreference.symm.trans hdecoded)⟩

/-- The sequence number of the native session is at most counted up. -/
theorem process_sequence_le (s : ProtocolSession) (m : Memory) (request : Frame) :
    (s.process m request).2.sequence ≤ s.sequence + 1 := by
  have hconclude : ∀ out, (ProtocolSession.conclude request out).2.sequence = out.2.sequence := by
    intro out
    obtain ⟨response, after⟩ := out
    cases response <;> rfl
  cases hrefusal : s.refusal request with
  | some e =>
      rw [ProtocolSession.process_refused hrefusal, hconclude]
      exact Nat.le_succ _
  | none =>
      have houtcome := ProtocolSession.handle_outcome (m := m) hrefusal
      rw [ProtocolSession.process_handled, hconclude]
      generalize s.handle m request = out at houtcome ⊢
      cases houtcome with
      | unanswered _ after _ sequence => exact sequence.le
      | _ => exact le_rfl

/-- Two new sessions mirror each other. -/
theorem mirrors_start {identity : Identity} (hidentity : Native.nonzero identity.toList = true)
    {serverName serverVersion : String}
    (hstart : FluidLinkV2ServerSession.init serverName serverVersion = .ok t) :
    Mirrors { identity } t := by
  have hbounded : ∀ {text : String} {maximumBytes : ℕ} {data : Bytes},
      PayloadWriter.boundedText text maximumBytes = .ok data →
        PayloadWriter.boundedText text maximumBytes = .ok (utf8 text) := by
    intro text maximumBytes data h
    unfold PayloadWriter.boundedText at h ⊢
    split_ifs at h ⊢
    rfl
  obtain ⟨_, hname, hrest⟩ := bind_eq_ok.mp hstart
  obtain ⟨_, hversion, hrest⟩ := bind_eq_ok.mp hrest
  obtain rfl := Except.ok.inj hrest
  refine ⟨hidentity, rfl, rfl, fun _ => rfl, rfl, ?_, ?_, hbounded hname, hbounded hversion⟩
  · intro hmet
    cases hmet
  · intro hmet
    cases hmet

/-- One frame of a run. -/
theorem answer_mirrors_step {handler : EventHandler σ} {runtime : σ} {input : Memory × Frame}
    (h : Mirrors s t) (hvalid : input.2.Valid) (hsequence : s.sequence < Native.sequenceLimit)
    (hsame : Reaches s input.2 → AnsweredAlike handler s runtime input.1 input.2)
    (hserved : input.1.reading = true ∧ input.1.writing = true) :
    SameAfter (nativeAnswer s input).1
        (referenceAnswer s.identity.toList handler (t, runtime) (reference input.2)).1 ∧
      Mirrors (nativeAnswer s input).2
        (referenceAnswer s.identity.toList handler (t, runtime) (reference input.2)).2.1 := by
  obtain ⟨hresponse, hmirrors⟩ :=
    (handle_mirrors h hvalid hsequence hsame hserved.1 hserved.2).conclude
  rw [← ProtocolSession.process_handled] at hresponse hmirrors
  exact ⟨⟨hresponse, hmirrors.closed⟩, hmirrors⟩

/-- Both sessions send the same answers to the same frames, by induction on the frames; what
carries it is that they mirror each other. -/
theorem answers_mirror {handler : EventHandler σ} {runtime : σ} {identity : Identity}
    {inputs : List (Memory × Frame)} {requests : List FluidLinkV2Frame}
    (hreceived : List.Forall₂ Received inputs requests) (h : Mirrors s t)
    (hidentity : s.identity = identity)
    (hsequence : s.sequence + inputs.length ≤ Native.sequenceLimit)
    (hserved : ∀ input ∈ inputs, input.1.reading = true ∧ input.1.writing = true)
    (hsame : AnsweredThroughout identity.toList handler s (t, runtime) inputs requests) :
    List.Forall₂ SameAfter (Lockstep.outputs nativeAnswer s inputs)
      (Lockstep.outputs (referenceAnswer identity.toList handler) (t, runtime) requests) := by
  induction hreceived generalizing s t runtime with
  | nil => exact .nil
  | @cons input request inputs requests hfirst _ ih =>
      obtain ⟨hvalid, rfl⟩ := hfirst.eq
      subst hidentity
      rw [List.length_cons] at hsequence
      obtain ⟨hhere, hlater⟩ := hsame
      obtain ⟨hafter, hmirrors⟩ := answer_mirrors_step h hvalid (by omega) hhere
        (hserved input List.mem_cons_self)
      have hcount := process_sequence_le s input.1 input.2
      refine .cons hafter (ih hmirrors ProtocolSession.process_identity ?_ ?_ hlater)
      · change (s.process input.1 input.2).2.sequence + _ ≤ _
        omega
      · intro other hother
        exact hserved other (List.mem_cons_of_mem _ hother)

/-- **The two sessions are equivalent on every run.**  Fed the same decodable
frames, fewer than the sequence numbers there are, under the same session id,
and as long as the runtimes decide alike and the heap serves the native side,
they answer every frame alike, and agree after it on whether they are closed. -/
theorem sessions_agree {handler : EventHandler σ} {runtime : σ} {identity : Identity}
    {serverName serverVersion : String} {inputs : List (Memory × Frame)}
    {requests : List FluidLinkV2Frame} (hidentity : Native.nonzero identity.toList = true)
    (hstart : FluidLinkV2ServerSession.init serverName serverVersion = .ok t)
    (hreceived : List.Forall₂ Received inputs requests) (hcount : inputs.length < 2 ^ 64 - 1)
    (hserved : ∀ input ∈ inputs, input.1.reading = true ∧ input.1.writing = true)
    (hsame : AnsweredThroughout identity.toList handler { identity } (t, runtime) inputs
      requests) :
    List.Forall₂ SameAfter (Lockstep.outputs nativeAnswer { identity } inputs)
      (Lockstep.outputs (referenceAnswer identity.toList handler) (t, runtime) requests) := by
  refine answers_mirror hreceived (mirrors_start hidentity hstart) rfl ?_ hserved hsame
  unfold Native.sequenceLimit
  change 1 + inputs.length ≤ _
  omega

/-! ## A run -/

/-- Every valid frame is received as what it stands for. -/
theorem Received.of_valid {input : Memory × Frame} (h : input.2.Valid) :
    Received input (reference input.2) :=
  ⟨Native.frameBytes input.2, Native.decodeFrame_eq_ok.mpr ⟨h, rfl⟩,
    decodeFluidlinkV2Frame_eq_ok.mpr ⟨input.2, h, rfl, rfl⟩⟩

/-- An event without a decision of its own, which both runtimes accept. -/
theorem SameAnswer.accepted {type : EventType} {out : Except Thrown Native.Decision}
    {result : Except PyException Payload}
    (h : out = .ok {} ∧
      (result >>= compactRuntimeResponse type) = .ok (0, { accepted := true })) :
    SameAnswer type out result := by
  obtain ⟨hout, hresult⟩ := h
  cases result with
  | error e => cases hresult
  | ok response =>
      rw [hout]
      refine .decided hresult ⟨rfl, rfl, ?_, ?_⟩
      · exact scaledDecimal_zero _ _ _ (by decide)
      · exact scaledDecimal_zero _ _ _ (by decide)

/-- An event that both runtimes refuse. -/
theorem SameAnswer.refusedBoth {type : EventType} {out : Except Thrown Native.Decision}
    {result : Except PyException Payload} {error : Native.Error}
    (h : out = .error (.error error) ∧ error.fatal = false ∧ result.isOk = false) :
    SameAnswer type out result := by
  obtain ⟨rfl, hfatal, hresult⟩ := h
  cases result with
  | ok response => cases hresult
  | error exception => exact .rejected hfatal

/-- The event that a request hands to the runtimes. -/
theorem AnsweredAlike.of_event {handler : EventHandler σ} {runtime : σ}
    {x : Except Native.Error (Option Native.Call)}
    {y : Except FluidLinkProtocolError WireEvent} {kind : EventType}
    (hread : Native.readEvent request.subject request.payload = x)
    (hkind : eventOfOpcode request.subject.toNat = some kind)
    (hrun : (readEvent kind).run request.payload = y) (hsubject : request.subject ≠ 105)
    (h : ∀ call wire, x = .ok call → y = .ok wire →
      SameAnswer kind (s.state.answer (m.grants 0) call).1
        (handler (wire.dict kind) runtime).1) :
    AnsweredAlike handler s runtime m request where
  event := by
    intro type call wire hcall htype hwire _
    obtain rfl := Option.some.inj (hkind.symm.trans htype)
    exact h call wire (hread.symm.trans hcall) (hrun.symm.trans hwire)
  batch := fun hbatch => absurd hbatch hsubject

/-- The identity of a session. -/
def exampleIdentity : Identity := Vector.replicate 16 7

/-- A request of that session, and its hello without an identity. -/
def exampleFrame (opcode subject : UInt8) (sequence : ℕ) (payload : Bytes) : Frame where
  opcode := opcode
  subject := subject
  flags := if opcode = 1 then 0 else 2
  sequence := sequence
  message := Vector.replicate 16 1
  session := if opcode = 1 then Vector.replicate 16 0 else exampleIdentity
  payload := payload

/-- The requests of a client, each with its opcode, its subject and its
payload: a hello, the begin of a frame, the begin of another frame, a snapshot
with a byte too many, a goodbye and a ping. -/
def exampleFrames : List Frame :=
  [exampleFrame 1 0 1 (baseDigest ++
      [31, 0, 0, 0, 0, 0, 0, 0, 27, 0, 0, 0, 0, 0, 0, 0, 1, 0x63, 1, 0x31]),
    exampleFrame 10 101 2 [1, 0, 5, 0, 0, 0, 0, 0, 0, 0],
    exampleFrame 10 101 3 [1, 0, 6, 0, 0, 0, 0, 0, 0, 0],
    exampleFrame 10 104 4 [1, 0], exampleFrame 30 0 5 [], exampleFrame 20 0 6 [1, 0x63]]

/-- These requests, each with enough memory. -/
def exampleInputs : List (Memory × Frame) :=
  exampleFrames.map fun frame => (.ample, frame)

/-- The runtime of the reference. -/
def exampleHandler : EventHandler RuntimeAdapterSession :=
  RuntimeAdapterSession.handler .plain plainConversions ""

/-- Both runtimes open a frame and refuse another one. -/
theorem exampleInputs_answered :
    AnsweredThroughout exampleIdentity.toList exampleHandler { identity := exampleIdentity }
      ({ serverName := "fluidgateway", serverVersion := "0" }, {}) exampleInputs
      (exampleFrames.map reference) := by
  refine ⟨fun h => absurd h.opcode (by decide), fun _ => ?_, fun _ => ?_, fun _ => ?_,
    fun h => absurd h.opcode (by decide), fun h => absurd h.opcode (by decide), trivial⟩
  · have hread : Native.readEvent 101 [1, 0, 5, 0, 0, 0, 0, 0, 0, 0] =
        .ok (some (.beginFrame 5)) := by
      decide
    have hrun : (readEvent .frame).run [1, 0, 5, 0, 0, 0, 0, 0, 0, 0] =
        .ok (.frame "begin" 5 none) := by
      decide
    refine .of_event hread rfl hrun (by decide) ?_
    intro call wire hcall hwire
    cases hcall
    cases hwire
    exact .accepted (by decide)
  · have hread : Native.readEvent 101 [1, 0, 6, 0, 0, 0, 0, 0, 0, 0] =
        .ok (some (.beginFrame 6)) := by
      decide
    have hrun : (readEvent .frame).run [1, 0, 6, 0, 0, 0, 0, 0, 0, 0] =
        .ok (.frame "begin" 6 none) := by
      decide
    refine .of_event hread rfl hrun (by decide) ?_
    intro call wire hcall hwire
    cases hcall
    cases hwire
    exact @SameAnswer.refusedBoth _ _ _ ⟨11, "A frame is already open.", false⟩
      (by decide)
  · have hread : Native.readEvent 104 [1, 0] = .error (Native.malformed "Trailing payload bytes.") := by
      decide
    refine .of_event hread rfl rfl (by decide) ?_
    intro call wire hcall
    cases hcall

/-- A hello, a frame that is opened, one that is refused, a malformed event, a
goodbye, and a ping that comes too late. -/
theorem sessions_agree_example :
    List.Forall₂ SameAfter
        (Lockstep.outputs nativeAnswer { identity := exampleIdentity } exampleInputs)
        (Lockstep.outputs (referenceAnswer exampleIdentity.toList exampleHandler)
          ({ serverName := "fluidgateway", serverVersion := "0" }, {})
          (exampleFrames.map reference)) ∧
      (Lockstep.outputs nativeAnswer { identity := exampleIdentity } exampleInputs).map
          (fun out => (out.1.opcode, out.2)) =
        [(2, false), (11, false), (255, false), (255, false), (30, true), (255, true)] := by
  have hvalid : ∀ input ∈ exampleInputs, input.2.Valid := by
    decide
  have hstart : FluidLinkV2ServerSession.init "fluidgateway" "0" =
      .ok { serverName := "fluidgateway", serverVersion := "0" } := rfl
  refine ⟨sessions_agree (by decide) hstart ?_ (by decide) ?_ exampleInputs_answered,
    by decide⟩
  · have hreceived : List.Forall₂ Received exampleInputs
        (exampleInputs.map fun input => reference input.2) := by
      rw [List.forall₂_map_right_iff, List.forall₂_same]
      intro input hinput
      exact Received.of_valid (hvalid input hinput)
    exact hreceived
  · intro input hinput
    obtain ⟨frame, -, rfl⟩ := List.mem_map.mp hinput
    exact ⟨rfl, rfl⟩

end FluidGateway.FluidLink
