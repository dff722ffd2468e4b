import FluidGateway.NativeSessionRuns

/-!
# The handshake of a native session

`Greeted` says what the answers of a session so far have to do with its state:
who has been welcomed, on which terms, and up to which sequence number.  Every
step keeps it, so nothing is decided before a contract that allows it has been
answered (`decisions_follow_welcome`).
-/

namespace FluidGateway.Native

open Reading Lockstep

namespace ProtocolSession

/-- The accepted capabilities that a welcome names. -/
def acceptedMask (welcome : Frame) : Nat :=
  LittleEndian.decode ((welcome.payload.drop 40).take 8)

/-- The contract that a welcome answers. -/
def answeredContract (welcome : Frame) : Text :=
  hex (welcome.payload.take 32)

/-- A session after some answers: who has been welcomed, and on which terms. -/
structure Greeted (s : ProtocolSession) (answers : List Frame) : Prop where
  unmet : s.negotiated = false → ∀ w ∈ answers, w.opcode ≠ 2
  terms : ∀ w ∈ answers, w.opcode = 2 →
    s.capabilities = acceptedMask w ∧ (s.batch = true → answeredContract w = batchHash)
  met : s.negotiated = true → s.closed = false → ∃ w ∈ answers, w.opcode = 2
  counted : ∀ r ∈ answers, r.opcode ≠ errorOpcode → r.sequence < s.sequence
  increasing : (answers.filter (·.opcode ≠ errorOpcode)).Pairwise (·.sequence < ·.sequence)

variable {s : ProtocolSession} {m : Memory} {request : Frame} {hello : Hello}

theorem capabilities_accept_lt (s : ProtocolSession) (hello : Hello) :
    (s.accept hello).capabilities < 256 := by
  have hle : (s.accept hello).capabilities ≤ available (s.accept hello).batch := Nat.and_le_right
  have havailable : available (s.accept hello).batch < 256 := by
    unfold available
    split_ifs <;> decide
  omega

/-- A welcome names the terms of the session that sends it. -/
theorem welcome_terms (s : ProtocolSession) (h : hello.digest.length = 32) {w : Frame}
    (hw : w.payload = (s.accept hello).welcomePayload hello) :
    (s.accept hello).capabilities = acceptedMask w ∧
      ((s.accept hello).batch = true → answeredContract w = batchHash) := by
  unfold acceptedMask answeredContract
  rw [hw]
  unfold welcomePayload
  constructor
  · have hmask := LittleEndian.encode_length (s.accept hello).capabilities 8
    have hfront : (hello.digest ++ Writer.integer (available (s.accept hello).batch) 8).length = 40 := by
      rw [List.length_append, h, Writer.integer, LittleEndian.encode_length]
    simp only [List.append_assoc]
    rw [← List.append_assoc, List.drop_left' hfront, Writer.integer, List.take_left' hmask,
      LittleEndian.decode_encode]
    exact lt_trans (s.capabilities_accept_lt hello) (by decide)
  · intro hbatch
    simp only [List.append_assoc]
    rw [List.take_left' h]
    exact of_decide_eq_true hbatch

namespace Greeted

variable {answers : List Frame} {r : Frame}

theorem start (identity : Identity) : Greeted (fresh identity) [] where
  unmet _ := by simp
  terms := by simp
  met h := by cases h
  counted := by simp
  increasing := .nil

/-- An error is no welcome, and no answer that counts. -/
theorem error (h : Greeted s answers) (hr : r.opcode = errorOpcode) {t : ProtocolSession}
    (hunmet : t.negotiated = false → s.negotiated = false)
    (hterms : s.negotiated = true → t.capabilities = s.capabilities ∧ t.batch = s.batch)
    (hmet : t.negotiated = true → t.closed = false → s.negotiated = true ∧ s.closed = false)
    (hsequence : s.sequence ≤ t.sequence) : Greeted t (answers ++ [r]) := by
  have hnot : r.opcode ≠ 2 := by
    rw [hr]
    decide
  refine ⟨?_, ?_, ?_, ?_, ?_⟩
  · intro ht w hw
    rcases List.mem_append.mp hw with hw | hw
    · exact h.unmet (hunmet ht) w hw
    · rw [List.mem_singleton.mp hw]
      exact hnot
  · intro w hw hopcode
    rcases List.mem_append.mp hw with hw | hw
    · cases hs : s.negotiated with
      | false => exact absurd hopcode (h.unmet hs w hw)
      | true =>
          obtain ⟨hcapabilities, hbatch⟩ := hterms hs
          rw [hcapabilities, hbatch]
          exact h.terms w hw hopcode
    · rw [List.mem_singleton.mp hw] at hopcode
      exact absurd hopcode hnot
  · intro ht hopen
    obtain ⟨hs, hclosed⟩ := hmet ht hopen
    obtain ⟨w, hw, hopcode⟩ := h.met hs hclosed
    exact ⟨w, List.mem_append_left _ hw, hopcode⟩
  · intro w hw hopcode
    rcases List.mem_append.mp hw with hw | hw
    · exact lt_of_lt_of_le (h.counted w hw hopcode) hsequence
    · rw [List.mem_singleton.mp hw] at hopcode
      exact absurd hr hopcode
  · rw [List.filter_append, List.filter_singleton]
    simpa [hr] using h.increasing

/-- An answer that is no error takes the next sequence number. -/
theorem increasing_append (h : Greeted s answers) (hr : r.sequence = s.sequence) :
    ((answers ++ [r]).filter (·.opcode ≠ errorOpcode)).Pairwise (·.sequence < ·.sequence) ∧
      ∀ w ∈ answers ++ [r], w.opcode ≠ errorOpcode → w.sequence < s.sequence + 1 := by
  constructor
  · rw [List.filter_append, List.pairwise_append]
    refine ⟨h.increasing, ?_, ?_⟩
    · exact (List.pairwise_singleton _ r).filter _
    · intro a ha b hb
      obtain ⟨hmem, hopcode⟩ := List.mem_filter.mp ha
      have hb : b = r := List.mem_singleton.mp (List.mem_of_mem_filter hb)
      rw [hb, hr]
      exact h.counted a hmem (by simpa using hopcode)
  · intro w hw hopcode
    rcases List.mem_append.mp hw with hw | hw
    · exact Nat.lt_succ_of_lt (h.counted w hw hopcode)
    · rw [List.mem_singleton.mp hw, hr]
      exact Nat.lt_succ_self _

/-- An answer of a session that has been welcomed, other than a welcome. -/
theorem answered (h : Greeted s answers) (hr : r.sequence = s.sequence) (hopcode : r.opcode ≠ 2)
    (hs : s.negotiated = true) (hopen : s.closed = false) {t : ProtocolSession}
    (hnegotiated : t.negotiated = s.negotiated) (hcapabilities : t.capabilities = s.capabilities)
    (hbatch : t.batch = s.batch) (hsequence : t.sequence = s.sequence + 1) :
    Greeted t (answers ++ [r]) := by
  obtain ⟨hincreasing, hcounted⟩ := h.increasing_append hr
  refine ⟨?_, ?_, ?_, ?_, hincreasing⟩
  · intro ht
    rw [hnegotiated, hs] at ht
    cases ht
  · intro w hw hwelcome
    rw [hcapabilities, hbatch]
    rcases List.mem_append.mp hw with hw | hw
    · exact h.terms w hw hwelcome
    · rw [List.mem_singleton.mp hw] at hwelcome
      exact absurd hwelcome hopcode
  · intro _ _
    obtain ⟨w, hw, hwelcome⟩ := h.met hs hopen
    exact ⟨w, List.mem_append_left _ hw, hwelcome⟩
  · rw [hsequence]
    exact hcounted

/-- The welcome itself. -/
theorem welcomed (h : Greeted s answers) (hr : r.sequence = s.sequence) (hopcode : r.opcode = 2)
    (hs : s.negotiated = false) (hdigest : hello.digest.length = 32) {t : ProtocolSession}
    (ht : t = { s with sequence := s.sequence + 1 }.accept hello)
    (hpayload : r.payload = t.welcomePayload hello) : Greeted t (answers ++ [r]) := by
  obtain ⟨hincreasing, hcounted⟩ := h.increasing_append hr
  subst ht
  refine ⟨?_, ?_, ?_, hcounted, hincreasing⟩
  · intro hfalse
    cases hfalse
  · intro w hw hwelcome
    rcases List.mem_append.mp hw with hw | hw
    · exact absurd hwelcome (h.unmet hs w hw)
    · rw [List.mem_singleton.mp hw]
      exact welcome_terms _ hdigest hpayload
  · intro _ _
    exact ⟨r, by simp, hopcode⟩

theorem handled (h : Greeted s answers) {out : Handled}
    (hopen : s.closed = false) (hcount : request.sequence = s.sequence)
    (houtcome : Outcome { s with sequence := s.sequence + 1 } request out) :
    Greeted (conclude request out).2 (answers ++ [(conclude request out).1]) := by
  cases houtcome with
  | rejected e =>
      refine h.error rfl (fun ht => ht) (fun _ => ⟨rfl, rfl⟩) ?_ (Nat.le_succ _)
      intro ht _
      exact ⟨ht, hopen⟩
  | forgotten e batch hs =>
      refine h.error rfl (fun ht => ht) ?_ ?_ (Nat.le_succ _)
      · intro hmet
        rw [show s.negotiated = false from hs] at hmet
        cases hmet
      · intro hmet
        rw [show s.negotiated = false from hs] at hmet
        cases hmet
  | unanswered e t hclosing hsequence hterms =>
      have hclosed : (conclude request (.error e, t)).2.closed = true := by
        rcases hclosing with he | ht
        · simp [conclude, he]
        · simp [conclude, ht]
      refine h.error rfl ?_ ?_ ?_ ?_
      · intro ht
        cases hs : s.negotiated with
        | false => rfl
        | true =>
            have hmet : t.negotiated = true := (hterms hs).1
            rw [show t.negotiated = false from ht] at hmet
            cases hmet
      · intro hs
        exact (hterms hs).2
      · intro _ hopen'
        rw [hclosed] at hopen'
        cases hopen'
      · change s.sequence ≤ t.sequence
        rw [hsequence]
        exact Nat.le_succ _
  | welcome hello hs hread =>
      refine h.welcomed ?_ rfl hs (readHello_digest hread) rfl rfl
      exact hcount
  | decided payload d state hs =>
      refine h.answered ?_ ?_ hs hopen rfl rfl rfl rfl
      · exact hcount
      · exact show (11 : UInt8) ≠ 2 by decide
  | pong payload hs =>
      refine h.answered ?_ ?_ hs hopen rfl rfl rfl rfl
      · exact hcount
      · exact show (21 : UInt8) ≠ 2 by decide
  | farewell hs =>
      refine h.answered ?_ ?_ hs hopen rfl rfl rfl rfl
      · exact hcount
      · exact show (30 : UInt8) ≠ 2 by decide

/-- **Every step keeps the terms of the welcome.** -/
theorem step (h : Greeted s answers) (input : Memory × Frame) :
    Greeted (s.step input).2 (answers ++ [(s.step input).1]) := by
  obtain ⟨m, request⟩ := input
  unfold ProtocolSession.step
  dsimp only
  rcases hrefusal : s.refusal request with _ | e
  · obtain ⟨_, hcount, _, hopen, _⟩ := refusal_eq_none.mp hrefusal
    rw [process_handled]
    exact h.handled hopen hcount (handle_outcome hrefusal)
  · rw [process_refused hrefusal]
    refine h.error rfl (fun ht => ht) (fun _ => ⟨rfl, rfl⟩) ?_ le_rfl
    intro ht hopen
    refine ⟨ht, ?_⟩
    change (s.closed || e.fatal) = false at hopen
    exact (Bool.or_eq_false_iff.mp hopen).1

end Greeted

theorem greeted (identity : Identity) (inputs : List (Memory × Frame)) :
    Greeted (final step (fresh identity) inputs) (outputs step (fresh identity) inputs) :=
  Lockstep.invariant (.start identity) (fun _ _ input h => h.step input) inputs

/-- A decision is only made by a session on terms that allow it. -/
theorem decision_terms (h : (s.process m request).1.opcode = 11) :
    s.negotiated = true ∧ s.closed = false ∧ s.capabilities &&& 27 = 27 ∧
      ((s.process m request).1.decision = 7 → s.batch = true ∧ s.capabilities &&& 128 ≠ 0) := by
  rcases hrefusal : s.refusal request with _ | e
  · obtain ⟨_, _, _, hopen, _⟩ := refusal_eq_none.mp hrefusal
    have houtcome := handle_outcome (m := m) hrefusal
    rw [process_handled] at h ⊢
    generalize s.handle m request = out at h houtcome ⊢
    cases houtcome with
    | decided payload d state hs hruntime hvector => exact ⟨hs, hopen, hruntime, hvector⟩
    | rejected => exact absurd (show (255 : UInt8) = 11 from h) (by decide)
    | forgotten => exact absurd (show (255 : UInt8) = 11 from h) (by decide)
    | unanswered => exact absurd (show (255 : UInt8) = 11 from h) (by decide)
    | welcome => exact absurd (show (2 : UInt8) = 11 from h) (by decide)
    | pong => exact absurd (show (21 : UInt8) = 11 from h) (by decide)
    | farewell => exact absurd (show (30 : UInt8) = 11 from h) (by decide)
  · rw [process_refused hrefusal] at h
    exact absurd (show (255 : UInt8) = 11 from h) (by decide)

/-- A welcome is only sent by a session that has not been greeted. -/
theorem welcome_unmet (h : (s.process m request).1.opcode = 2) : s.negotiated = false := by
  rcases hrefusal : s.refusal request with _ | e
  · have houtcome := handle_outcome (m := m) hrefusal
    rw [process_handled] at h
    generalize s.handle m request = out at h houtcome
    cases houtcome with
    | welcome hello hs => exact hs
    | rejected => exact absurd (show (255 : UInt8) = 2 from h) (by decide)
    | forgotten => exact absurd (show (255 : UInt8) = 2 from h) (by decide)
    | unanswered => exact absurd (show (255 : UInt8) = 2 from h) (by decide)
    | decided => exact absurd (show (11 : UInt8) = 2 from h) (by decide)
    | pong => exact absurd (show (21 : UInt8) = 2 from h) (by decide)
    | farewell => exact absurd (show (30 : UInt8) = 2 from h) (by decide)
  · rw [process_refused hrefusal] at h
    exact absurd (show (255 : UInt8) = 2 from h) (by decide)

/-- **Nothing is decided before a welcome that allows it.**  A decision
follows a welcome whose accepted mask has all runtime capabilities, and a
batch vector one that answers the batch contract with its capability.  There is
one welcome at most, the accepted mask stays what it names, the answers that
are no errors have increasing sequence numbers, and a frame out of sequence
changes nothing. -/
theorem decisions_follow_welcome (identity : Identity) (inputs : List (Memory × Frame)) :
    let answers : List Frame := outputs step (fresh identity) inputs
    (∀ (i : Nat) (r : Frame), answers[i]? = some r → r.opcode = 11 →
      ∃ j w, j < i ∧ answers[j]? = some w ∧ w.opcode = 2 ∧ acceptedMask w &&& 27 = 27 ∧
        (r.decision = 7 → answeredContract w = batchHash ∧ acceptedMask w &&& 128 ≠ 0)) ∧
      (∀ (i j : Nat) (w w' : Frame), answers[i]? = some w → answers[j]? = some w' →
        w.opcode = 2 → w'.opcode = 2 → i = j) ∧
      (∀ (i : Nat) (w : Frame), answers[i]? = some w → w.opcode = 2 → ∀ k, i < k →
        (final step (fresh identity) (inputs.take k)).capabilities = acceptedMask w) ∧
      (answers.filter (·.opcode ≠ errorOpcode)).Pairwise (·.sequence < ·.sequence) ∧
      ∀ m request, request.sequence ≠ (final step (fresh identity) inputs).sequence →
        ((final step (fresh identity) inputs).process m request).2 =
          final step (fresh identity) inputs := by
  intro answers
  -- the answers before the `i`-th are those of the run that leads to it
  have hlead : ∀ i, Greeted (final step (fresh identity) (inputs.take i)) (answers.take i) := by
    intro i
    rw [← outputs_take]
    exact greeted identity (inputs.take i)
  have hat : ∀ {i : Nat} {r : Frame}, answers[i]? = some r → ∃ m request,
      r = ((final step (fresh identity) (inputs.take i)).process m request).1 := by
    intro i r hr
    rw [outputs_getElem?] at hr
    obtain ⟨input, _, rfl⟩ := Option.map_eq_some_iff.mp hr
    exact ⟨input.1, input.2, rfl⟩
  refine ⟨?_, ?_, ?_, (greeted identity inputs).increasing, ?_⟩
  · intro i r hr hopcode
    obtain ⟨m, request, rfl⟩ := hat hr
    obtain ⟨hs, hopen, hruntime, hvector⟩ := decision_terms hopcode
    obtain ⟨w, hw, hwelcome⟩ := (hlead i).met hs hopen
    obtain ⟨hmask, hcontract⟩ := (hlead i).terms w hw hwelcome
    obtain ⟨j, hj⟩ := List.mem_iff_getElem?.mp hw
    rw [List.getElem?_take, Option.ite_none_right_eq_some] at hj
    obtain ⟨hlt, hj⟩ := hj
    refine ⟨j, w, hlt, hj, hwelcome, hmask ▸ hruntime, ?_⟩
    intro hseven
    obtain ⟨hbatch, hbatched⟩ := hvector hseven
    exact ⟨hcontract hbatch, hmask ▸ hbatched⟩
  · have hfirst : ∀ (i j : Nat) (w w' : Frame), answers[i]? = some w → answers[j]? = some w' → w.opcode = 2 →
        w'.opcode = 2 → ¬ i < j := by
      intro i j w w' hi hj hwelcome hwelcome' hlt
      obtain ⟨m, request, rfl⟩ := hat hj
      have hunmet := welcome_unmet hwelcome'
      have hmem : w ∈ answers.take j :=
        List.mem_iff_getElem?.mpr ⟨i, by rw [List.getElem?_take_of_lt hlt, hi]⟩
      exact (hlead j).unmet hunmet w hmem hwelcome
    intro i j w w' hi hj hwelcome hwelcome'
    have hle := hfirst i j w w' hi hj hwelcome hwelcome'
    have hge := hfirst j i w' w hj hi hwelcome' hwelcome
    omega
  · intro i w hi hwelcome k hk
    have hmem : w ∈ answers.take k :=
      List.mem_iff_getElem?.mpr ⟨i, by rw [List.getElem?_take_of_lt hk, hi]⟩
    exact ((hlead k).terms w hmem hwelcome).1
  · intro m request hne
    exact (process_out_of_sequence hne).2

end ProtocolSession

end FluidGateway.Native
