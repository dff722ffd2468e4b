import FluidGateway.EngineAgreement

/-!
# What keeps the two engines in agreement

Submitting an operation, registering a resource and releasing one keep
`Agree`, and both engines answer a submitted operation alike
(`Agree.process`).
-/

namespace FluidGateway

open KeyedMap Provenance Resolution Native FluidGateway.Runtime

/-! ## Remembered allocations of the native state -/

namespace Native.State

theorem allocation_record {s : State} (hs : s.Valid) (op : StoredOperation)
    (hfresh : s.operations.lookup op.id = none) (k : Text) :
    (s.record op).allocation k = s.allocation k := by
  unfold allocation
  change (s.resources.lookup k).bind _ = _
  cases hk : s.resources.lookup k with
  | none => rfl
  | some r =>
      simp only [Option.bind_some]
      cases hp : r.allocation with
      | none => rfl
      | some p => exact deref_record hfresh (hs.allocation hk hp)

theorem allocation_invalidate (s : State) (id k : Text) :
    (s.invalidate id).allocation k = s.allocation k := by
  obtain ⟨keep, hlook, -⟩ := s.lookup_invalidate id k
  have hderef : (s.invalidate id).deref = s.deref := by
    funext p
    simp [deref]
  unfold allocation
  rw [hlook, hderef]
  cases s.resources.lookup k <;> rfl

theorem allocation_release (s : State) (id k : Text) :
    (s.releaseResource id).allocation k = if k = id then none else s.allocation k := by
  have hinv := s.allocation_invalidate id k
  unfold allocation at hinv ⊢
  by_cases hk : k = id
  · subst hk
    rw [if_pos rfl, releaseResource]
    simp
  · rw [if_neg hk, ← hinv, releaseResource, AList.lookup_erase_ne hk]
    rfl

theorem allocation_settle {s : State} {op : Operation} {r : StoredOperation}
    (hr : s.operations.lookup op.id = some r) (k : Text) :
    (s.settle op).allocation k =
      if op.type = 3 ∧ k = op.target ∧ s.resources.lookup k ≠ none then some r
      else s.allocation k := by
  have hderef : (s.settle op).deref = s.deref := by
    funext p
    simp [deref]
  have hcleared : ∃ keep : Resource → Bool, (s.cleared op).resources.lookup k =
      (s.resources.lookup k).map fun r => { r with copy := if keep r then r.copy else none } := by
    unfold cleared
    split
    · obtain ⟨keep, hlook, -⟩ := s.lookup_invalidate op.target k
      exact ⟨keep, hlook⟩
    · refine ⟨fun _ => true, ?_⟩
      cases s.resources.lookup k <;> rfl
  obtain ⟨keep, hlook⟩ := hcleared
  unfold allocation
  rw [lookup_settle, hlook, hderef]
  cases hk : s.resources.lookup k with
  | none => simp
  | some q =>
      by_cases hnow : op.type = 3 ∧ k = op.target
      · simp [point, hnow.1, hnow.2, deref, hr]
      · have hsame : (point op k { q with copy := if keep q then q.copy else none }).allocation =
            q.allocation := by
          unfold point
          split
          · rename_i htarget
            exact if_neg fun htype => hnow ⟨htype, htarget⟩
          · rfl
        rw [if_neg fun hc => hnow ⟨hc.1, hc.2.1⟩]
        simp only [Option.map_some, Option.bind_some, hsame]

end Native.State

/-! ## Operations -/

section Operations

variable {casing : Casing} {s : State} {t : RuntimeOptimizationState} {op : Native.Operation}
  {operation : RuntimeOperation}

/-- A dependency stands for the same names in both engines. -/
theorem Agree.expand (h : Agree s t) (d : String) :
    Resolution.expand s.table (utf8 d) = (Resolution.expand t.table d).map utf8 := by
  unfold Resolution.expand
  rw [h.table d]
  cases t.table d with
  | none => rfl
  | some entry =>
      obtain ⟨b, names⟩ := entry
      cases b <;> rfl

/-- Recording the same operation keeps the tables in agreement. -/
theorem Agree.table_update (h : Agree s t) (id : String) (entry : Bool × List String) (k : String) :
    Function.update s.table (utf8 id) (some (rename entry)) (utf8 k) =
      (Function.update t.table id (some entry) k).map rename := by
  by_cases hk : k = id
  · subst hk
    simp
  · rw [Function.update_of_ne (fun hc => hk (utf8_injective hc)), Function.update_of_ne hk,
      h.table k]

/-- The same operation has the same effect on the ledgers. -/
theorem SameRequest.effect (h : SameRequest op operation) (t : RuntimeOptimizationState) :
    SimAct engineNames (State.effect op (State.stored op false [] false))
      (RuntimeOptimizationState.effect (t.rewritten operation)) := by
  have hkey : engineNames.Key (some op.target) operation.target := by
    intro k hk
    have hk' : some k ≠ some "" := fun hc => hk (Option.some.inj hc)
    rw [Option.some.injEq, h.target]
    exact optional_name_inj h.targetNamed hk'
  have hwrites : State.writes op.type = operation.type.writes := by
    rw [h.type]
    cases operation.type <;> rfl
  unfold State.effect RuntimeOptimizationState.effect
  change SimAct _ _ (if operation.type.transfers = true then
    .transfer operation.target (t.rewritten operation)
    else if operation.type.writes = true then .write operation.target else .pass)
  by_cases htransfers : operation.type.transfers = true
  · rw [if_pos ((transfers_iff h).mpr htransfers), if_pos htransfers]
    exact .transfer hkey (h.stored t)
  rw [if_neg (mt (transfers_iff h).mp htransfers), if_neg htransfers, hwrites]
  split_ifs
  · exact .write hkey
  · exact .pass

/-- The allocation is remembered under the same condition. -/
theorem Agree.remembers_iff (h : Agree s t) (hreq : SameRequest op operation) {id : String}
    (hid : id ≠ "") :
    (op.type = 3 ∧ utf8 id = op.target ∧ s.resources.lookup (utf8 id) ≠ none) ↔
      (operation.type = .allocate ∧ t.knows operation.target = true ∧
        some id = operation.target) := by
  have hid' : some id ≠ some "" := fun hc => hid (Option.some.inj hc)
  have htype : op.type = 3 ↔ operation.type = .allocate := by
    rw [hreq.type]
    cases operation.type <;> decide
  have htarget : utf8 id = op.target ↔ some id = operation.target := by
    rw [hreq.target]
    exact optional_name_inj hid' hreq.targetNamed
  have hknown := h.known_iff hid
  rw [htype, htarget, ne_eq, hknown]
  constructor
  · intro hall
    obtain ⟨hallocate, hsame, hget⟩ := hall
    refine ⟨hallocate, ?_, hsame⟩
    rw [RuntimeOptimizationState.knows, ← hsame, Option.any_some]
    exact (t.resources.contains_iff id).mpr hget
  · intro hall
    obtain ⟨hallocate, hknows, hsame⟩ := hall
    rw [RuntimeOptimizationState.knows, ← hsame, Option.any_some] at hknows
    exact ⟨hallocate, hsame, (t.resources.contains_iff id).mp hknows⟩

theorem Agree.execute (h : Agree s t) (hs : s.Valid) {log : List (Entry String)}
    (hlog : t.Logged log) (hreq : SameRequest op operation)
    (hfresh : s.operations.lookup op.id = none) (hfresh' : operation.id ∉ t.operationIds) :
    Agree ((s.record (State.stored op false [] false)).settle op)
      ((t.submitted operation).execute (t.rewritten operation)) := by
  have hstored := hreq.stored t
  have hrecorded : (s.record (State.stored op false [] false)).operations.lookup op.id =
      some (State.stored op false [] false) := AList.lookup_insert _
  have hallocation : ∀ k, ((s.record (State.stored op false [] false)).settle op).allocation k =
      if op.type = 3 ∧ k = op.target ∧ s.resources.lookup k ≠ none then
        some (State.stored op false [] false)
      else s.allocation k := by
    intro k
    rw [State.allocation_settle hrecorded k, State.allocation_record hs _ hfresh]
    rfl
  have hbuffer : ∀ key,
      ((t.submitted operation).execute (t.rewritten operation)).activeBuffers.lookup key =
        if operation.type = .allocate ∧ t.knows operation.target = true ∧
            key.1 = operation.target then
          if key.2 = operation.sizeMb then some (t.rewritten operation) else none
        else t.activeBuffers.lookup key :=
    RuntimeOptimizationState.execute_buffers _ _
  refine ⟨?_, ?_, ?_, ?_⟩
  · have hrecord := State.ledger_record hs (State.stored op false [] false) hfresh
    rw [State.ledger_settle hrecorded, RuntimeOptimizationState.ledger_execute, hrecord]
    exact Sim.step engineNames_lawful h.ledger (hreq.effect t)
  · intro id r hid hr
    rw [hallocation] at hr
    unfold RuntimeOptimizationState.Buffer
    by_cases hnow : op.type = 3 ∧ utf8 id = op.target ∧ s.resources.lookup (utf8 id) ≠ none
    · rw [if_pos hnow, Option.some.injEq] at hr
      refine ⟨t.rewritten operation, ?_, hr ▸ hstored⟩
      rw [hbuffer, if_pos ((h.remembers_iff hreq hid).mp hnow)]
      exact if_pos rfl
    · rw [if_neg hnow] at hr
      obtain ⟨previous, hprevious, hsame⟩ := h.allocation hid hr
      refine ⟨previous, ?_, hsame⟩
      rw [hbuffer, if_neg fun hc => hnow ((h.remembers_iff hreq hid).mpr hc)]
      exact hprevious
  · intro id previous hid hprevious
    unfold RuntimeOptimizationState.Buffer at hprevious
    rw [hbuffer] at hprevious
    by_cases hnow : operation.type = .allocate ∧ t.knows operation.target = true ∧
        some id = operation.target
    · rw [if_pos hnow] at hprevious
      split_ifs at hprevious
      rw [hallocation, if_pos ((h.remembers_iff hreq hid).mpr hnow)]
      exact ⟨_, rfl, Option.some.inj hprevious ▸ hstored⟩
    · rw [if_neg hnow] at hprevious
      rw [hallocation, if_neg fun hc => hnow ((h.remembers_iff hreq hid).mp hc)]
      exact h.buffer hid hprevious
  · intro id
    have hnative : ((s.record (State.stored op false [] false)).settle op).table =
        Function.update s.table (utf8 operation.id) (some (rename (false, []))) := by
      rw [← hreq.id]
      funext k
      unfold State.table
      rw [State.settle_operations]
      exact congrFun (State.table_record s (State.stored op false [] false)) k
    rw [hnative, hlog.execute_table _ hfresh']
    exact h.table_update operation.id (false, []) id

theorem Agree.eliminate (h : Agree s t) (hs : s.Valid) {log : List (Entry String)}
    (hlog : t.Logged log) (hreq : SameRequest op operation)
    (hfresh : s.operations.lookup op.id = none) {decision : RuntimeDecision}
    (hdecision : decideOperation casing t operation = some decision) {retained : Option Text}
    (hretained : retained = (t.retained operation decision.policy).map fun kept => utf8 kept.id)
    {removed : Bool} :
    Agree (s.record (State.stored op true (s.replacements retained op.dependencies) removed))
      ((t.submitted operation).eliminate (t.rewritten operation) decision
        (t.dependencies operation)) := by
  refine ⟨?_, ?_, ?_, ?_⟩
  · rw [State.ledger_record hs _ hfresh]
    exact h.ledger
  · intro id r hid hr
    rw [State.allocation_record hs _ hfresh] at hr
    exact h.allocation hid hr
  · intro id previous hid hprevious
    rw [State.allocation_record hs _ hfresh]
    exact h.buffer hid hprevious
  · intro id
    have hnames : s.replacements retained op.dependencies =
        (flatten t.table (t.entry casing operation)).map utf8 := by
      have hexpand : s.expand = Resolution.expand s.table := funext s.expand_eq
      have hentry : flatten t.table (t.entry casing operation) =
          firsts (((t.retained operation decision.policy).map RuntimeOperation.id).toList ++
            operation.dependsOn.flatMap (Resolution.expand t.table)) := by
        simp [flatten, RuntimeOptimizationState.entry, hdecision]
      rw [hentry, ← firsts_map utf8_injective]
      unfold State.replacements
      rw [hexpand, hreq.dependencies, hretained, List.map_append, List.map_flatMap,
        List.flatMap_map]
      simp only [h.expand]
      congr 2
      cases t.retained operation decision.policy <;> rfl
    rw [State.table_record, hlog.eliminated_table hdecision]
    change Function.update s.table op.id (some (true, s.replacements retained op.dependencies)) _ = _
    rw [hreq.id, hnames]
    exact h.table_update operation.id (true, flatten t.table (t.entry casing operation)) id

/-- What the native engine answers to an operation, and the Python optimizer. -/
inductive SameVerdict : Except Thrown Decision →
    Except String (RuntimeOperation × Option RuntimeDecision) → Prop
  | rejected (e : Thrown) (message : String) : SameVerdict (.error e) (.error message)
  | executed (kept : RuntimeOperation) :
      SameVerdict (.ok { opcode := 0, operation := true }) (.ok (kept, none))
  | eliminated {d : Decision} (kept : RuntimeOperation) {decision : RuntimeDecision}
      (operation : d.operation = true) (policy : d.opcode = decision.policy.code)
      (ms : (d.savedUs : ℚ) / 1000 = decision.estimatedSavedMs)
      (mb : (d.savedBytes : ℚ) / mebibyte = decision.estimatedSavedMb) :
      SameVerdict (.ok d) (.ok (kept, some decision))

theorem Policy.code_ne (policy : Policy) : policy.code ≠ 0 := by
  cases policy <;> decide

theorem Agree.fresh_iff (h : Agree s t) (id : String) :
    s.operations.lookup (utf8 id) = none ↔ id ∉ t.operationIds := by
  have htable := h.table id
  rw [← RuntimeOptimizationState.table_eq_none, ← Option.map_eq_none_iff (f := rename), ← htable]
  unfold State.table
  rw [Option.map_eq_none_iff]

/-- **Submitting the same operation** is answered alike and keeps the states in
agreement. -/
theorem Agree.process (casing : Casing) (h : Agree s t) (hs : s.Valid) (ht : t.Valid) {log : List (Entry Text)}
    (hrec : Recorded s log) {log' : List (Entry String)} (hlog : t.Logged log')
    (hreq : SameRequest (s.framed op) operation) (g : Grant)
    (halive : ∀ e, (s.process g op).1 = .error e → e.fatal = false) :
    SameVerdict (s.process g op).1 (t.process casing operation).1 ∧
      Agree (s.process g op).2 (t.process casing operation).2 := by
  have hchoice : SameChoice t (s.framed op) operation (s.choose (s.framed op))
    (decideOperation casing t operation) := h.choose hs ht hrec hlog hreq
  have hid : op.id = utf8 operation.id := hreq.id
  have hfresh : s.operations.lookup op.id = none ↔ operation.id ∉ t.operationIds := by
    rw [hid]
    exact h.fresh_iff operation.id
  have hspec := s.process_spec g op
  generalize s.process g op = result at hspec halive ⊢
  obtain ⟨out, s'⟩ := result
  dsimp only at hspec halive ⊢
  cases hspec with
  | duplicate known =>
      have hknown : operation.id ∈ t.operationIds := by
        by_contra hnot
        exact known (hfresh.mpr hnot)
      rw [RuntimeOptimizationState.process_duplicate casing hknown]
      exact ⟨.rejected _ _, h⟩
  | full e fatal =>
      rw [halive e rfl] at fatal
      cases fatal
  | refused e fatal =>
      rw [halive e rfl] at fatal
      cases fatal
  | executed fresh choice =>
      have hdecision : decideOperation casing t operation = none := by
        generalize s.choose (s.framed op) = pair at hchoice choice
        generalize decideOperation casing t operation = decision at hchoice ⊢
        cases hchoice with
        | execute => rfl
        | eliminate decision policy => exact absurd (policy.symm.trans choice) (Policy.code_ne _)
      rw [RuntimeOptimizationState.process_executed casing (hfresh.mp fresh) hdecision]
      exact ⟨.executed _, h.execute hs hlog hreq fresh (hfresh.mp fresh)⟩
  | eliminated fresh choice =>
      cases hdecision : decideOperation casing t operation with
      | none =>
          rw [hdecision] at hchoice
          generalize s.choose (s.framed op) = pair at hchoice choice
          cases hchoice with
          | execute => exact absurd rfl choice
      | some decision =>
          rw [hdecision] at hchoice
          rw [RuntimeOptimizationState.process_eliminated casing (hfresh.mp fresh) hdecision]
          have hsame : (s.choose (s.framed op)).1 = decision.policy.code ∧
              (s.choose (s.framed op)).2 =
                ((t.retained operation decision.policy).map fun kept => utf8 kept.id) ∧
              ((s.framed op).microseconds : ℚ) / 1000 = decision.estimatedSavedMs ∧
              ((if (s.framed op).type ≠ 2 then (s.framed op).bytes else 0 : Nat) : ℚ) / mebibyte =
                decision.estimatedSavedMb := by
            generalize s.choose (s.framed op) = pair at hchoice ⊢
            cases hchoice with
            | eliminate _ policy same ms mb => exact ⟨policy, same, ms, mb⟩
          obtain ⟨hpolicy, hretained, hms, hmb⟩ := hsame
          exact ⟨.eliminated _ rfl hpolicy hms hmb,
            h.eliminate hs hlog hreq fresh hdecision hretained⟩

end Operations

/-! ## Resources -/

section Resources

variable {s : State} {t : RuntimeOptimizationState}

theorem Agree.register (h : Agree s t) (ht : t.Valid) {id : String} (hid : id ≠ "")
    {resource : RuntimeResource} (hname : resource.id = id) (hnew : t.resources.get id = none) :
    Agree
      { s with
        resources := s.resources.insert (utf8 id)
          { aliases := resource.aliases.map utf8, memory := resource.memory.code } }
      { t with resources := t.resources.insert resource } := by
  have hid' : some id ≠ some "" := fun hc => hid (Option.some.inj hc)
  refine ⟨?_, ?_, ?_, h.table⟩
  · rw [State.ledger_register,
      RuntimeOptimizationState.ledger_register ht (by rw [hname]; exact hnew), hname]
    exact Sim.step engineNames_lawful h.ledger (.register hid ⟨rfl, rfl⟩)
  · intro k r hk hr
    have hkid : k ≠ id := by
      intro hc
      subst hc
      simp [State.allocation, State.deref] at hr
    have hold : s.allocation (utf8 k) = some r := by
      rw [← hr]
      unfold State.allocation
      rw [AList.lookup_insert_ne fun hc => hkid (utf8_injective hc)]
      rfl
    exact h.allocation hk hold
  · intro k previous hk hprevious
    have hkid : k ≠ id := by
      intro hc
      subst hc
      obtain ⟨target, htarget, hget⟩ := ht.bufferTarget hprevious
      cases htarget
      exact hget hnew
    obtain ⟨r, hr, hsame⟩ := h.buffer hk hprevious
    refine ⟨r, ?_, hsame⟩
    rw [← hr]
    unfold State.allocation
    rw [AList.lookup_insert_ne fun hc => hkid (utf8_injective hc)]
    rfl

theorem Agree.release (h : Agree s t) {id : String} (hid : id ≠ "") :
    Agree (s.releaseResource (utf8 id)) (t.releaseResource id).2 := by
  have hbuffers : ∀ key, (t.releaseResource id).2.activeBuffers.lookup key =
      if key.1 = some id then none else t.activeBuffers.lookup key := by
    intro key
    have hdrop := (t.invalidateResource (some id)).dropBuffers_lookup (some id) key
    rw [RuntimeOptimizationState.invalidateResource_activeBuffers] at hdrop
    exact hdrop
  refine ⟨?_, ?_, ?_, ?_⟩
  · rw [State.ledger_release, RuntimeOptimizationState.ledger_release]
    exact Sim.step engineNames_lawful h.ledger (.release hid)
  · intro k r hk hr
    rw [State.allocation_release] at hr
    split_ifs at hr with hsame
    obtain ⟨previous, hprevious, hrecord⟩ := h.allocation hk hr
    refine ⟨previous, ?_, hrecord⟩
    unfold RuntimeOptimizationState.Buffer
    rw [hbuffers, if_neg fun hc => hsame (congrArg utf8 (Option.some.inj hc))]
    exact hprevious
  · intro k previous hk hprevious
    unfold RuntimeOptimizationState.Buffer at hprevious
    rw [hbuffers] at hprevious
    split_ifs at hprevious with hsame
    rw [State.allocation_release, if_neg fun hc => hsame (congrArg some (utf8_injective hc))]
    exact h.buffer hk hprevious
  · intro k
    have hnative : (s.releaseResource (utf8 id)).table = s.table := by
      funext k
      unfold State.table
      have hops : (s.releaseResource (utf8 id)).operations = s.operations :=
        State.invalidate_operations s (utf8 id)
      rw [hops]
    have hpython : (t.releaseResource id).2.table = t.table :=
      RuntimeOptimizationState.table_congr
        (RuntimeOptimizationState.invalidateResource_names t (some id))
    rw [hnative, hpython]
    exact h.table k

end Resources

end FluidGateway
