import FluidGateway.NativeSessionRuns
import FluidGateway.NativeTexts

/-!
# A batch is a sequence of operations

A batch request names a template and a count.  Each item is the operation that
a single event with the same fields and the id of the item asks for
(`readEvent_item`), so the items do to the state what the single events would
do one after another (`batch_expands`).
-/

namespace FluidGateway.Native

open Reading Lockstep KeyedMap

/-! ## The ids of the items -/

/-- A text of visible ASCII characters. -/
def Visible (text : Text) : Prop :=
  ∀ b ∈ text, 33 ≤ b.toNat ∧ b.toNat < 127

/-- Two visible texts in a row are visible. -/
theorem Visible.append {a b : Text} (ha : Visible a) (hb : Visible b) : Visible (a ++ b) := by
  intro x hx
  rcases List.mem_append.mp hx with hx | hx
  · exact ha x hx
  · exact hb x hx

/-- A text is visible if a test of its bytes says so. -/
theorem visible_of_all {t : Text}
    (h : (t.all fun b => 33 ≤ b.toNat && b.toNat < 127) = true) : Visible t := by
  intro b hb
  have hbyte := List.all_eq_true.mp h b hb
  rw [Bool.and_eq_true, decide_eq_true_eq, decide_eq_true_eq] at hbyte
  exact hbyte

/-- A visible text is the encoding of its characters, none of which is a space. -/
theorem encode_visible {t : Text} (h : Visible t) :
    Utf8.encode (t.map fun b => Char.ofNat b.toNat) = t ∧
      ∀ c ∈ t.map fun b => Char.ofNat b.toNat, isSpace c = false := by
  have hall : ∀ n : Fin 256, 33 ≤ n.val → n.val < 127 →
      String.utf8EncodeChar (Char.ofNat n) = [UInt8.ofNat n] ∧
        isSpace (Char.ofNat n) = false := by
    decide +kernel
  have hbyte : ∀ b ∈ t, String.utf8EncodeChar (Char.ofNat b.toNat) = [b] ∧
      isSpace (Char.ofNat b.toNat) = false := by
    intro b hb
    obtain ⟨hlow, hhigh⟩ := h b hb
    have hb' := hall ⟨b.toNat, b.toNat_lt⟩ hlow hhigh
    rw [UInt8.ofNat_toNat] at hb'
    exact hb'
  constructor
  · clear h
    induction t with
    | nil => rfl
    | cons b t ih =>
        rw [List.map_cons, Utf8.encode_cons, (hbyte b List.mem_cons_self).1,
          ih fun b hb => hbyte b (List.mem_cons_of_mem _ hb)]
        rfl
  · intro c hc
    obtain ⟨b, hb, rfl⟩ := List.mem_map.mp hc
    exact (hbyte b hb).2

/-- A visible text is encoded, and nothing is stripped from it. -/
theorem Visible.text {t : Text} (h : Visible t) : ∃ s : String, t = utf8 s ∧ strip s = s := by
  obtain ⟨hencode, hspace⟩ := encode_visible h
  generalize t.map (fun b => Char.ofNat b.toNat) = cs at hencode hspace
  refine ⟨String.ofList cs, ?_, ?_⟩
  · unfold utf8
    rw [String.toList_ofList, hencode]
  · apply String.toList_injective
    rw [strip_toList, String.toList_ofList]
    have hfront : cs.dropWhile isSpace = cs := by
      rw [List.dropWhile_eq_self_iff]
      intro hpos
      rw [hspace _ (List.getElem_mem hpos)]
      decide
    have hback : cs.rdropWhile isSpace = cs := by
      rw [List.rdropWhile_eq_self_iff]
      intro hne
      rw [hspace _ (List.getLast_mem hne)]
      decide
    rw [hfront, hback]

/-- Trimming leaves a visible text as it is. -/
theorem Visible.trimmed {t : Text} (h : Visible t) : trimmedUtf8 t = .ok t := by
  obtain ⟨s, rfl, hs⟩ := h.text
  rw [trimmedUtf8_utf8, hs]

/-- A hexadecimal digit is visible. -/
theorem hexDigit_visible (n : Nat) (h : n < 16) :
    33 ≤ (hexDigit n).toNat ∧ (hexDigit n).toNat < 127 := by
  have hall : ∀ n : Fin 16, 33 ≤ (hexDigit n).toNat ∧ (hexDigit n).toNat < 127 := by
    decide
  exact hall ⟨n, h⟩

/-- Bytes in hexadecimal are visible. -/
theorem hex_visible (bytes : Bytes) : Visible (hex bytes) := by
  intro x hx
  obtain ⟨c, _, hx⟩ := List.mem_flatMap.mp hx
  have hhigh : (c >>> 4).toNat < 16 := by
    have hlt := c.toNat_lt
    rw [UInt8.toNat_shiftRight]
    simp only [UInt8.reduceToNat, Nat.shiftRight_eq_div_pow, Nat.reduceMod, Nat.reducePow]
    omega
  have hlow : (c &&& 15).toNat < 16 := by
    rw [UInt8.toNat_and]
    exact Nat.lt_succ_of_le Nat.and_le_right
  simp only [List.mem_cons, List.not_mem_nil, or_false] at hx
  rcases hx with rfl | rfl
  · exact hexDigit_visible _ hhigh
  · exact hexDigit_visible _ hlow

/-- Bytes in hexadecimal take two characters each. -/
theorem hex_length (bytes : Bytes) : (hex bytes).length = 2 * bytes.length := by
  induction bytes with
  | nil => rfl
  | cons b bytes ih =>
      unfold hex at ih ⊢
      rw [List.flatMap_cons, List.length_append, ih, List.length_cons]
      simp only [List.length_cons, List.length_nil]
      omega

/-- The number of an item is visible and has three digits. -/
theorem ordinal_spec {i : Nat} (h : i < 256) : Visible (ordinal i) ∧ (ordinal i).length = 3 := by
  have hall : ∀ i : Fin 256,
      ((ordinal i).all fun b => 33 ≤ b.toNat && b.toNat < 127) = true ∧
        (ordinal i).length = 3 := by
    unfold ordinal
    simp only [literal_toString]
    decide +kernel
  obtain ⟨hvisible, hlength⟩ := hall ⟨i, h⟩
  exact ⟨visible_of_all hvisible, hlength⟩

/-- The id of an item is visible, so that reading it trims nothing. -/
theorem itemId_visible (id : Bytes) {i : Nat} (h : i < 256) : Visible (itemId id i) := by
  have hlead : Visible (literal "batch-") := visible_of_all (by decide)
  have hdash : Visible (literal "-") := visible_of_all (by decide)
  exact ((hlead.append (hex_visible id)).append hdash).append (ordinal_spec h).1

/-- The id of an item has 42 characters: two for each byte of the batch and ten more. -/
theorem itemId_length {id : Bytes} (hid : id.length = 16) {i : Nat} (h : i < 256) :
    (itemId id i).length = 42 := by
  have hlead : (literal "batch-").length = 6 := by decide
  have hdash : (literal "-").length = 1 := by decide
  unfold itemId
  simp only [List.length_append, hex_length, hid, hlead, hdash, (ordinal_spec h).2]

/-! ## The operation of an item -/

/-- The id of an operation plays no part in reading the rest. -/
theorem operationTail_id {type queue presence : UInt8} {id : Text} {data rest : Bytes}
    {op : Operation} (id' : Text)
    (h : operationTail type queue presence id data = .ok (op, rest)) :
    operationTail type queue presence id' data = .ok ({ op with id := id' }, rest) := by
  unfold operationTail at h ⊢
  simp only [bind_eq_ok, pure_eq_ok] at h ⊢
  obtain ⟨source, _, hsource, target, _, htarget, reason, _, hreason, microseconds, _, hcost,
    bytes, _, hbytes, frame, _, hframe, count, _, hcount, dependencies, _, hdependencies, _, _,
    hfinish, heq⟩ := h
  obtain ⟨rfl, rfl⟩ := Prod.mk.inj heq
  exact ⟨source, _, hsource, target, _, htarget, reason, _, hreason, microseconds, _, hcost,
    bytes, _, hbytes, frame, _, hframe, count, _, hcount, dependencies, _, hdependencies, _, _,
    hfinish, rfl⟩

/-- An integer that was written is read back, whatever follows it. -/
theorem integer_append {value n : Nat} (h : value < 256 ^ n) (rest : Bytes) :
    Reader.integer n (Writer.integer value n ++ rest) = .ok (value, rest) :=
  Reader.integer_eq_ok.mpr ⟨h, rfl⟩

/-- A visible text is read as it was written. -/
theorem text_append {t : Text} (h : Visible t) (hne : t ≠ []) (hlength : t.length ≤ 256)
    (rest : Bytes) :
    Reader.text 2 256 false true (Writer.text t 2 ++ rest) = .ok (t, rest) := by
  unfold Reader.text Writer.text
  rw [List.append_assoc]
  refine bind_eq_ok.mpr ⟨_, _, integer_append (by omega) _, ?_⟩
  refine bind_eq_ok.mpr ⟨_, _, require_eq_ok.mpr ⟨hlength, rfl⟩, ?_⟩
  refine bind_eq_ok.mpr ⟨t, rest, Reader.take_eq_ok.mpr ⟨rfl, rfl⟩, ?_⟩
  refine bind_eq_ok.mpr ⟨t, rest, ?_, ?_⟩
  · change (trimmedUtf8 t).bind _ = _
    rw [h.trimmed]
    rfl
  · refine bind_eq_ok.mpr ⟨_, _, require_eq_ok.mpr ⟨.inr hne, rfl⟩, ?_⟩
    exact pure_eq_ok.mpr rfl

/-- The payload of a single operation event with the fields of the template in
a batch request, and an id of its own. -/
def itemPayload (payload : Bytes) (id : Text) : Bytes :=
  (payload.drop 18).take 3 ++ Writer.text id 2 ++ payload.drop 21

/-- **The single event asks for the operation of the item.** -/
theorem readEvent_item {payload : Bytes} {batch : BatchRequest}
    (h : readBatch.run payload = .ok batch) {i : Nat} (hi : i < batch.count) :
    readEvent 103 (itemPayload payload (itemId batch.id i)) =
      .ok (some (.process { batch.template with id := itemId batch.id i })) := by
  obtain ⟨_, hlength, _, _, hcount, type, queue, presence, data, rest, hdata,
    ⟨htype, hqueue, hpresence⟩, htail⟩ := readBatch_spec h
  have hi256 : i < 256 := by omega
  have hid := itemId_length hlength hi256
  have hne : itemId batch.id i ≠ [] := by
    intro hnil
    rw [hnil] at hid
    cases hid
  have hrest : payload.drop 21 = data := by
    rw [show 21 = 18 + 3 from rfl, ← List.drop_drop, hdata]
    rfl
  have hpayload : itemPayload payload (itemId batch.id i) =
      type :: queue :: presence :: (Writer.text (itemId batch.id i) 2 ++ data) := by
    unfold itemPayload
    rw [hdata, hrest]
    rfl
  have hread : operation false (itemPayload payload (itemId batch.id i)) =
      .ok ({ batch.template with id := itemId batch.id i }, rest) := by
    rw [hpayload]
    unfold operation operationId
    refine bind_eq_ok.mpr ⟨_, _, operationHead_eq_ok.mpr
      ⟨type, queue, presence, _, rfl, htype, hqueue, hpresence, rfl⟩, ?_⟩
    refine bind_eq_ok.mpr ⟨_, _, text_append (itemId_visible _ hi256) hne (by omega) _, ?_⟩
    exact operationTail_id _ htail
  have hevent : readEvent 103 = operationEvent.run := rfl
  rw [hevent]
  refine Reader.run_eq_ok.mpr ⟨rest, ?_⟩
  unfold operationEvent
  exact bind_eq_ok.mpr ⟨_, _, hread, rfl⟩

/-! ## The run of the items -/

/-- Submit the items of a batch one after another, as single operations. -/
def submitItem (m : Memory) (request : BatchRequest) (s : State) (i : Nat) :
    Except Thrown Decision × State :=
  s.process (m.grants i) { request.template with id := itemId request.id i }

/-- The loop writes what the single operations are answered, as long as they
are accepted. -/
theorem batchItems_ok {m : Memory} {request : BatchRequest} {remaining i : Nat} {written : Bytes}
    {s : State} {payload : Bytes} {s' : State}
    (h : batchItems m request remaining i written s = (.ok payload, s')) :
    s' = final (submitItem m request) s (List.range' i remaining) ∧
      ∃ decisions : List Decision,
        outputs (submitItem m request) s (List.range' i remaining) = decisions.map .ok ∧
        payload = written ++ decisions.flatMap itemEntry := by
  induction remaining generalizing i written s with
  | zero =>
      cases h
      exact ⟨rfl, [], rfl, (List.append_nil _).symm⟩
  | succ remaining ih =>
      unfold batchItems at h
      rw [List.range'_succ, outputs_cons, final_cons]
      rcases hitem : submitItem m request s i with ⟨e | result, t⟩
      · rw [show s.process (m.grants i) { request.template with id := itemId request.id i } =
          (.error e, t) from hitem] at h
        cases h
      · rw [show s.process (m.grants i) { request.template with id := itemId request.id i } =
          (.ok result, t) from hitem] at h
        obtain ⟨hstate, decisions, hanswers, hpayload⟩ := ih h
        refine ⟨hstate, result :: decisions, ?_, ?_⟩
        · rw [hanswers]
          rfl
        · rw [hpayload, List.flatMap_cons, List.append_assoc]

/-- The loop fails where a single operation is rejected. -/
theorem batchItems_error {m : Memory} {request : BatchRequest} {remaining i : Nat}
    {written : Bytes} {s : State} {e : Thrown} {s' : State}
    (h : batchItems m request remaining i written s = (.error e, s')) :
    .error e ∈ outputs (submitItem m request) s (List.range' i remaining) := by
  induction remaining generalizing i written s with
  | zero => cases h
  | succ remaining ih =>
      unfold batchItems at h
      rw [List.range'_succ, outputs_cons]
      rcases hitem : submitItem m request s i with ⟨e' | result, t⟩
      · rw [show s.process (m.grants i) { request.template with id := itemId request.id i } =
          (.error e', t) from hitem] at h
        cases h
        exact List.mem_cons_self
      · rw [show s.process (m.grants i) { request.template with id := itemId request.id i } =
          (.ok result, t) from hitem] at h
        exact List.mem_cons_of_mem _ (ih h)

/-! ## Recorded operations stay recorded -/

/-- An operation that is known stays known when another one is recorded. -/
theorem State.lookup_record {s : State} {op : StoredOperation} {k : Text}
    (h : s.operations.lookup k ≠ none) : (s.record op).operations.lookup k ≠ none := by
  unfold record
  by_cases hk : k = op.id
  · rw [hk, AList.lookup_insert]
    exact Option.some_ne_none _
  · rw [AList.lookup_insert_ne hk]
    exact h

/-- An operation stays known through a step that records none. -/
theorem plain_lookup {s : State} {x : Except Thrown State} {k : Text}
    (h : s.operations.lookup k ≠ none) (hx : ∀ s', x = .ok s' → s'.operations = s.operations) :
    (plain s x).2.operations.lookup k ≠ none := by
  cases x with
  | error e => exact h
  | ok s' =>
      change s'.operations.lookup k ≠ none
      rw [hx s' rfl]
      exact h

/-- An operation stays known through every call. -/
theorem State.call_recorded (g : Grant) (s : State) (c : Call) {k : Text}
    (h : s.operations.lookup k ≠ none) : (s.call g c).2.operations.lookup k ≠ none := by
  cases c with
  | process op =>
      have hspec := s.process_spec g op
      change (s.process g op).2.operations.lookup k ≠ none
      generalize (s.process g op).1 = out at hspec
      generalize (s.process g op).2 = s' at hspec ⊢
      cases hspec with
      | duplicate => exact h
      | full => exact h
      | refused => exact State.lookup_record h
      | executed =>
          rw [settle_operations]
          exact State.lookup_record h
      | eliminated => exact State.lookup_record h
  | release id =>
      change (s.invalidate id).operations.lookup k ≠ none
      rw [invalidate_operations]
      exact h
  | beginFrame frame =>
      refine plain_lookup h ?_
      intro s' hs'
      unfold beginFrame at hs'
      split_ifs at hs'
      cases hs'
      rfl
  | endFrame frame =>
      refine plain_lookup h ?_
      intro s' hs'
      unfold endFrame at hs'
      split_ifs at hs'
      cases hs'
      rfl
  | endSession =>
      refine plain_lookup h ?_
      intro s' hs'
      unfold endSession at hs'
      split_ifs at hs'
      cases hs'
      rfl
  | register id memory aliases =>
      refine plain_lookup h ?_
      intro s' hs'
      unfold registerResource at hs'
      split_ifs at hs'
      cases hs'
      rfl

/-- An operation stays known through the items of a batch, also where one of them fails. -/
theorem batchItems_recorded {m : Memory} {request : BatchRequest} {remaining i : Nat}
    {written : Bytes} {s : State} {k : Text} (h : s.operations.lookup k ≠ none) :
    (batchItems m request remaining i written s).2.operations.lookup k ≠ none := by
  induction remaining generalizing i written s with
  | zero => exact h
  | succ remaining ih =>
      have hitem := State.call_recorded (m.grants i) s
        (.process { request.template with id := itemId request.id i }) h
      unfold batchItems
      change (s.process (m.grants i) _).2.operations.lookup k ≠ none at hitem
      rcases hprocess : s.process (m.grants i)
        { request.template with id := itemId request.id i } with ⟨e | result, t⟩
      · rw [hprocess] at hitem
        exact hitem
      · rw [hprocess] at hitem
        exact ih hitem

/-- An accepted operation is recorded. -/
theorem State.Processed.records {s s' : State} {op : Operation} {out : Except Thrown Decision}
    (h : s.Processed op out s') (hout : ∀ e, out ≠ .error e) :
    s'.operations.lookup op.id ≠ none := by
  cases h with
  | duplicate => exact absurd rfl (hout _)
  | full e => exact absurd rfl (hout e)
  | refused e => exact absurd rfl (hout e)
  | executed =>
      rw [settle_operations]
      change (s.operations.insert (s.executedRecord op).id _).lookup (s.executedRecord op).id ≠ none
      rw [AList.lookup_insert]
      exact Option.some_ne_none _
  | eliminated =>
      change (s.operations.insert (s.eliminatedRecord op).id _).lookup
        (s.eliminatedRecord op).id ≠ none
      rw [AList.lookup_insert]
      exact Option.some_ne_none _

/-- An operation that was decided is known. -/
theorem State.process_records {g : Grant} {s s' : State} {op : Operation} {d : Decision}
    (h : s.process g op = (.ok d, s')) : s'.operations.lookup op.id ≠ none := by
  have hspec := s.process_spec g op
  rw [h] at hspec
  apply State.Processed.records hspec
  intro e he
  cases he

/-- An operation whose identity is known is refused and changes nothing. -/
theorem State.process_known (g : Grant) {s : State} (op : Operation)
    (h : s.operations.lookup op.id ≠ none) :
    ∃ e, s.process g op = (.error e, s) := by
  unfold State.process
  rw [if_pos h]
  exact ⟨_, rfl⟩

namespace ProtocolSession

variable {s : ProtocolSession} {m : Memory} {request : Frame}

/-- A request changes the state by a call, by the items of a batch, or not at
all. -/
theorem handle_state (s : ProtocolSession) (m : Memory) (request : Frame) :
    (s.handle m request).2.state = s.state ∨
      (∃ call, (s.handle m request).2.state = (s.state.answer (m.grants 0) call).2) ∨
      ∃ batch, (s.handle m request).2.state = (s.items m batch).2 := by
  unfold handle
  cases s.refusal request with
  | some e => exact .inl rfl
  | none =>
      dsimp only
      split_ifs with hnegotiated
      · unfold dispatch runtimeEvent
        split_ifs
        · exact .inl rfl
        · exact .inl rfl
        · unfold runBatch
          split_ifs
          · exact .inl rfl
          · cases m.read readBatch request.payload with
            | error e => exact .inl rfl
            | ok batch =>
                refine .inr (.inr ⟨batch, ?_⟩)
                unfold items
                dsimp only
                rcases batchItems m batch batch.count 0
                  (batch.id ++ Writer.integer batch.count 2) s.state with ⟨e | payload, state⟩ <;> rfl
        · unfold event
          dsimp only
          split_ifs
          · cases readEvent request.subject request.payload with
            | error e => exact .inl rfl
            | ok call =>
                refine .inr (.inl ⟨call, ?_⟩)
                dsimp only
                rcases s.state.answer (m.grants 0) call with ⟨e | result, state⟩ <;> rfl
          · exact .inl rfl
        · exact .inl rfl
        · unfold ping
          split_ifs
          · exact .inl rfl
          · cases m.read readNonce request.payload <;> exact .inl rfl
        · unfold goodbye
          cases m.read Reader.finish request.payload <;> exact .inl rfl
        · exact .inl rfl
      · left
        unfold hello
        split_ifs
        · rfl
        · rfl
        cases m.read readHello request.payload with
        | error e => rfl
        | ok hello =>
            dsimp only
            split_ifs <;> rfl

/-- How an answer is sent does not change the state. -/
theorem conclude_state (request : Frame) (h : Handled) :
    (conclude request h).2.state = h.2.state := by
  obtain ⟨e | response, s⟩ := h <;> rfl

/-- An operation stays known through every frame of a session. -/
theorem step_recorded (s : ProtocolSession) (input : Memory × Frame) {k : Text}
    (h : s.state.operations.lookup k ≠ none) :
    (s.step input).2.state.operations.lookup k ≠ none := by
  obtain ⟨m, request⟩ := input
  unfold step
  rw [process_handled, conclude_state]
  rcases handle_state s m request with hsame | ⟨call, hcall⟩ | ⟨batch, hbatch⟩
  · rw [hsame]
    exact h
  · rw [hcall]
    cases call with
    | none => exact h
    | some call => exact State.call_recorded _ _ call h
  · rw [hbatch]
    exact batchItems_recorded h

/-- What is recorded stays recorded in every later session. -/
theorem final_recorded (s : ProtocolSession) (later : List (Memory × Frame)) {k : Text}
    (h : s.state.operations.lookup k ≠ none) :
    (final step s later).state.operations.lookup k ≠ none := by
  induction later generalizing s with
  | nil => exact h
  | cons input later ih => exact ih _ (s.step_recorded input h)

/-! ## Batches -/

/-- A request that starts a batch carries it in its payload. -/
theorem StartsBatch.readBatch {batch : BatchRequest} (h : StartsBatch s m request batch) :
    readBatch.run request.payload = .ok batch := by
  have hserved := h.read
  unfold Memory.read at hserved
  split_ifs at hserved
  cases hrun : Native.readBatch.run request.payload with
  | error e =>
      rw [hrun] at hserved
      cases hserved
  | ok batch' =>
      rw [hrun] at hserved
      cases hserved
      rfl

/-- A batch that succeeds records its first item. -/
theorem items_record {batch : BatchRequest} {payload : Bytes} {state : State}
    (h : s.items m batch = (.ok payload, state)) (hcount : 0 < batch.count) :
    state.operations.lookup (itemId batch.id 0) ≠ none := by
  obtain ⟨count, hcount⟩ : ∃ count, batch.count = count + 1 := ⟨batch.count - 1, by omega⟩
  unfold items at h
  rw [hcount] at h
  unfold batchItems at h
  rcases hprocess : s.state.process (m.grants 0) { batch.template with id := itemId batch.id 0 }
    with ⟨e | result, next⟩
  · rw [hprocess] at h
    cases h
  · rw [hprocess] at h
    have hkept : (batchItems m batch count 1 (batch.id ++ Writer.integer (count + 1) 2 ++
        itemEntry result) next).2.operations.lookup (itemId batch.id 0) ≠ none :=
      batchItems_recorded (State.process_records hprocess)
    rw [show batchItems m batch count 1 _ next = (.ok payload, state) from h] at hkept
    exact hkept

/-- A batch whose first item is recorded fails. -/
theorem items_known {batch : BatchRequest}
    (h : s.state.operations.lookup (itemId batch.id 0) ≠ none) (hcount : 0 < batch.count) :
    ∃ e, (s.items m batch).1 = .error e := by
  obtain ⟨count, hcount⟩ : ∃ count, batch.count = count + 1 := ⟨batch.count - 1, by omega⟩
  obtain ⟨e, he⟩ := State.process_known (m.grants 0)
    { batch.template with id := itemId batch.id 0 } h
  refine ⟨e, ?_⟩
  unfold items
  rw [hcount]
  unfold batchItems
  rw [he]

/-- A single operation event of a session: the memory granted to it and its
payload. -/
def single (s : ProtocolSession) (state : State) (input : Memory × Bytes) :
    Except Thrown Decision × State :=
  { s with state }.event input.1 103 input.2

/-- The single operation events that a batch request stands for: the fields of
its template, the ids of its items, and the memory of its items. -/
def singles (m : Memory) (payload : Bytes) (batch : BatchRequest) : List (Memory × Bytes) :=
  (List.range batch.count).map fun i =>
    ({ grants := fun _ => m.grants i }, itemPayload payload (itemId batch.id i))

/-- The single events do to the state what the items do. -/
theorem singles_run (s : ProtocolSession) {batch : BatchRequest} {payload : Bytes}
    (h : readBatch.run payload = .ok batch) (state : State) :
    outputs s.single state (singles m payload batch) =
        outputs (submitItem m batch) state (List.range batch.count) ∧
      final s.single state (singles m payload batch) =
        final (submitItem m batch) state (List.range batch.count) := by
  unfold singles
  rw [outputs_map, final_map]
  apply run_congr
  intro state i hi
  unfold single event
  dsimp only
  rw [if_pos rfl, readEvent_item h (List.mem_range.mp hi)]
  rfl

/-- **A batch is a sequence of operations.**  The single events are those with
the fields of the template and the ids of the items.  A decision vector has one
entry for each, the decision that the single event is answered, and leaves the
state that they leave.  If one of them is rejected, the batch is answered with
an error and the session closed.  A batch whose id was used before is always
rejected. -/
theorem batch_expands (identity : Identity) (history : List (Memory × Frame)) (m : Memory)
    (request : Frame) (batch : BatchRequest)
    (h : StartsBatch (final step (fresh identity) history) m request batch) :
    let s := final step (fresh identity) history
    let response := (s.process m request).1
    let t := (s.process m request).2
    let answers := outputs s.single s.state (singles m request.payload batch)
    (∀ i < batch.count, readEvent 103 (itemPayload request.payload (itemId batch.id i)) =
      .ok (some (.process { batch.template with id := itemId batch.id i }))) ∧
    (response.opcode = 11 → response.decision = 7 ∧
      t.state = final s.single s.state (singles m request.payload batch) ∧
      ∃ decisions : List Decision, answers = decisions.map .ok ∧
        response.payload =
          batch.id ++ Writer.integer batch.count 2 ++ decisions.flatMap itemEntry) ∧
    ((∃ e, .error e ∈ answers) → response.opcode = errorOpcode ∧ t.closed = true) ∧
    (m.writing = true → (∀ e, .error e ∉ answers) → response.opcode = 11) ∧
    (response.opcode = 11 → ∀ later m' request' batch',
      StartsBatch (final step t later) m' request' batch' → batch'.id = batch.id →
      ((final step t later).process m' request').1.opcode = errorOpcode ∧
        ((final step t later).process m' request').2.closed = true) := by
  intro s response t answers
  have hread := h.readBatch
  obtain ⟨hanswers, hfinal⟩ := singles_run s hread s.state
  have hresponse : response = (conclude request (s.handle m request)).1 := by
    rw [← process_handled]
  have ht : t = (conclude request (s.handle m request)).2 := by
    rw [← process_handled]
  rw [h.handle] at hresponse ht
  have hcount := (readBatch_spec hread).2.2.2.1
  refine ⟨fun i hi => readEvent_item hread hi, ?_⟩
  rcases hitems : s.items m batch with ⟨e | payload, state⟩
  · -- an item fails: there is no vector
    rw [hitems] at hresponse ht
    have hopcode : response.opcode = errorOpcode := by
      rw [hresponse]
      rfl
    have hne : ¬ response.opcode = 11 := by
      rw [hopcode]
      decide
    have hmem : .error e ∈ answers := by
      change _ ∈ outputs s.single s.state (singles m request.payload batch)
      rw [hanswers, List.range_eq_range']
      exact batchItems_error hitems
    refine ⟨fun hvector => absurd hvector hne, ?_, ?_, fun hvector => absurd hvector hne⟩
    · intro _
      refine ⟨hopcode, ?_⟩
      rw [ht]
      rfl
    · intro _ hall
      exact absurd hmem (hall e)
  · obtain ⟨hstate, decisions, hdecisions, hpayload⟩ := batchItems_ok hitems
    rw [← List.range_eq_range', ← hanswers] at hdecisions
    rw [← List.range_eq_range', ← hfinal] at hstate
    rw [hitems] at hresponse ht
    dsimp only at hresponse ht
    have hthrown : t.state = state := by
      rw [ht]
      unfold reply
      cases m.writing <;> rfl
    have hnone : ∀ e, .error e ∉ answers := by
      intro e he
      change _ ∈ outputs s.single s.state (singles m request.payload batch) at he
      rw [hdecisions] at he
      obtain ⟨d, _, hd⟩ := List.mem_map.mp he
      cases hd
    refine ⟨?_, fun ⟨e, he⟩ => absurd he (hnone e), ?_, ?_⟩
    · intro hvector
      have hwriting : m.writing = true := by
        by_contra hrefused
        rw [hresponse] at hvector
        unfold reply at hvector
        rw [if_neg hrefused] at hvector
        exact absurd (show (255 : UInt8) = 11 from hvector) (by decide)
      have hreply : response = { s with sequence := s.sequence + 1, state }.respond request 11
          payload 7 := by
        rw [hresponse]
        unfold reply
        rw [if_pos hwriting]
        rfl
      refine ⟨by rw [hreply]; rfl, hthrown.trans hstate, decisions, hdecisions, ?_⟩
      rw [hreply]
      exact hpayload
    · intro hwriting _
      rw [hresponse]
      unfold reply
      rw [if_pos hwriting]
      rfl
    · intro _ later m' request' batch' hstarts hid
      -- the first item of the batch is recorded
      have hfirst : t.state.operations.lookup (itemId batch.id 0) ≠ none := by
        rw [hthrown]
        exact items_record hitems hcount
      have hknown := final_recorded t later hfirst
      rw [← hid] at hknown
      have hread' := hstarts.readBatch
      obtain ⟨e, he⟩ := items_known (m := m') hknown (readBatch_spec hread').2.2.2.1
      exact hstarts.failed he

/-- A hello that asks for the batch contract and all its capabilities. -/
def batchHello : Frame where
  opcode := 1
  payload := [
    0xbf, 0x87, 0x27, 0xc2, 0x2a, 0xc8, 0x78, 0xce, 0xff, 0x6d, 0xd0, 0xf4,
    0x62, 0xd6, 0xdb, 0x5e, 0x81, 0x17, 0x47, 0x37, 0xe8, 0x39, 0xec, 0xdf,
    0x2e, 0x26, 0x3a, 0x6f, 0x55, 0x26, 0x85, 0x42] ++
    Writer.integer 255 8 ++ Writer.integer 155 8 ++ Writer.text (literal "peer") 1 ++
    Writer.text (literal "1") 1

/-- Two uploads of four bytes each. -/
def uploadBatch : Frame where
  opcode := 10
  subject := 105
  flags := 2
  sequence := 2
  session := Vector.replicate 16 1
  payload := List.replicate 16 7 ++ Writer.integer 2 2 ++ [4, 2, 3] ++
    Writer.text (literal "ram") 2 ++ Writer.text (literal "vram") 2 ++ Writer.integer 9 4 ++
    Writer.integer 4 8 ++ [0]

/-- A batch of two uploads is the two uploads as events of their own. -/
theorem batch_expands_two_uploads :
    let s := final step (fresh (Vector.replicate 16 1)) [(.ample, batchHello)]
    (s.process .ample uploadBatch).1.decision = 7 := by
  have hopened :
      let s := final step (fresh (Vector.replicate 16 1)) [(.ample, batchHello)]
      s.refusal uploadBatch = none ∧ s.negotiated = true ∧ s.capabilities &&& 27 = 27 ∧
        s.batch = true ∧ s.capabilities &&& 128 ≠ 0 ∧
        (s.process .ample uploadBatch).1.opcode = 11 := by
    decide
  obtain ⟨hcounted, hnegotiated, hruntime, hcontract, hbatched, hopcode⟩ := hopened
  have hstarts : StartsBatch (final step (fresh (Vector.replicate 16 1)) [(.ample, batchHello)])
      .ample uploadBatch
      { id := List.replicate 16 7, count := 2,
        template := { source := literal "ram", target := literal "vram", bytes := 4,
                      microseconds := 9, type := 4, queue := 2 } } :=
    ⟨hcounted, hnegotiated, rfl, rfl, rfl, hruntime, hcontract, hbatched, by rfl⟩
  exact ((batch_expands _ _ _ _ _ hstarts).2.1 hopcode).1

end ProtocolSession

end FluidGateway.Native
