import FluidGateway.NativeRuns

/-!
# Where the provenance pointers lead

Every pointer of a registered resource leads to the record of an operation that
was executed into it after its registration.  The records do not keep the type
of an operation, so this is a fact about the history: what a call can do to one
resource (`Standing`) and to one record (`Written`) is listed once, and the
invariants of any sequence of calls follow.

AnyRun may go on after any error here, a fatal one as well.  What a fatal error
can leave behind is an elimination that was cut short in `append`: it is
recorded as eliminated, but `removed` was not set yet.
-/

namespace FluidGateway.Native

open KeyedMap

/-- Any calls on a fresh state, the latest first, whatever they throw. -/
inductive AnyRun : State → List Step → Prop
  | start : AnyRun {} []
  | call {s : State} {trail : List Step} (run : AnyRun s trail) (g : Grant) (c : Call) :
      AnyRun (s.call g c).2 (⟨s, g, c⟩ :: trail)

namespace Step

/-- The operation was recorded in this step, but memory was refused before its
elimination was complete. -/
def CutShort (e : Step) (id : Text) : Prop :=
  ∃ op thrown, e.call = .process op ∧ op.id = id ∧ e.outcome = .error thrown ∧
    thrown.fatal = true ∧ e.pre.operations.lookup id = none ∧ e.post.operations.lookup id ≠ none

/-- Where the record of an operation comes from, and what it says. -/
inductive Written (e : Step) (id : Text) (q : StoredOperation) : Prop
  | kept (before : e.pre.operations.lookup id = some q)
  | executed (op : Operation) (run : e.Executed op) (own : op.id = id)
      (record : q = State.stored op false [] false)
  | eliminated (op : Operation) (names : List Text) (nodup : names.Nodup)
      (record : q = State.stored op true names names.isEmpty)
  | cutShort (op : Operation) (names : List Text) (nodup : names.Nodup) (cut : e.CutShort id)
      (record : q = State.stored op true names false)

/-- Where a registered resource and its pointers come from. -/
inductive Standing (e : Step) (t : Text) (r : Resource) : Prop
  | registered (now : e.Registered t) (copy : r.copy = none) (allocation : r.allocation = none)
  | kept {before : Resource} (known : e.pre.resources.lookup t = some before)
      (staying : e.call ≠ .release t)
      (copy : r.copy = none ∨ r.copy = before.copy ∨ ∃ op, e.Executed op ∧
        (op.type = 1 ∨ op.type = 4) ∧ op.target = t ∧ r.copy = some op.id)
      (allocation : r.allocation = before.allocation ∨ ∃ op, e.Executed op ∧
        op.type = 3 ∧ op.target = t ∧ r.allocation = some op.id)

end Step

/-! ## Records -/

namespace State

/-- What `process` records, with its outcome. -/
inductive Records (s : State) (op : Operation) : Except Thrown Decision → State → Prop
  | nothing {out : Except Thrown Decision} {s' : State} (same : s'.operations = s.operations) :
      Records s op out s'
  | executed {s' : State}
      (operations : s'.operations = s.operations.insert op.id (s.executedRecord op)) :
      Records s op (.ok { opcode := 0, operation := true }) s'
  | eliminated {d : Decision} {s' : State} (names : List Text) (nodup : names.Nodup)
      (operations : s'.operations =
        s.operations.insert op.id (stored (s.framed op) true names names.isEmpty)) :
      Records s op (.ok d) s'
  | cutShort {thrown : Thrown} {s' : State} (names : List Text) (nodup : names.Nodup)
      (fatal : thrown.fatal = true)
      (operations : s'.operations =
        s.operations.insert op.id (stored (s.framed op) true names false)) :
      Records s op (.error thrown) s'

/-- What an operation with a new identity records, by how far `process` gets: nothing, an
execution, an elimination, or one that was cut short. -/
theorem records_process (s : State) (g : Grant) (op : Operation)
    (hfresh : s.operations.lookup op.id = none) :
    s.Records op (s.process g op).1 (s.process g op).2 := by
  unfold process
  rw [if_neg (not_not_intro hfresh)]
  by_cases hfull : s.operations.entries.length = operationLimit
  · rw [if_pos hfull]
    exact .nothing rfl
  rw [if_neg hfull]
  by_cases hroom : g.room = 0
  · rw [if_pos hroom]
    exact .nothing rfl
  rw [if_neg hroom]
  by_cases hchoice : (s.choose (s.framed op)).1 = 0
  · simp only [if_pos hchoice]
    exact .executed (settle_operations _ _)
  simp only [if_neg hchoice]
  have hnodup : (s.replacements (s.choose (s.framed op)).2 (s.framed op).dependencies).Nodup :=
    nodup_firsts _
  by_cases hshort : g.room - 1 <
      (s.replacements (s.choose (s.framed op)).2 (s.framed op).dependencies).length
  · simp only [if_pos hshort]
    exact .cutShort _ (hnodup.sublist (List.take_sublist _ _)) g.refusal.thrown_fatal rfl
  · simp only [if_neg hshort]
    exact .eliminated _ hnodup rfl

end State

namespace Step

variable {e : Step} {id : Text} {q : StoredOperation}

/-- A record that is there after an operation was there before or is the one that it wrote. -/
theorem written_process (s : State) (g : Grant) (op : Operation)
    (hq : (s.process g op).2.operations.lookup id = some q) :
    Written ⟨s, g, .process op⟩ id q := by
  by_cases hfresh : s.operations.lookup op.id = none
  · have hrecords := s.records_process g op hfresh
    generalize hout : s.process g op = result at hrecords hq
    obtain ⟨out, s'⟩ := result
    have houtcome : Step.outcome ⟨s, g, .process op⟩ = out := congrArg Prod.fst hout
    have hpost : Step.post ⟨s, g, .process op⟩ = s' := congrArg Prod.snd hout
    -- what was recorded before is kept, and the new record is the one that was inserted
    have hinsert : ∀ record : StoredOperation, s'.operations = s.operations.insert op.id record →
        s.operations.lookup id = some q ∨ id = op.id ∧ q = record := by
      intro record hrecord
      dsimp only at hq
      rw [hrecord] at hq
      by_cases hid : id = op.id
      · rw [hid, AList.lookup_insert] at hq
        exact .inr ⟨hid, (Option.some.inj hq).symm⟩
      · rw [AList.lookup_insert_ne hid] at hq
        exact .inl hq
    cases hrecords with
    | nothing same => exact .kept (same ▸ hq)
    | executed operations =>
      rcases hinsert _ operations with hkept | ⟨hid, hrecord⟩
      · exact .kept hkept
      · exact .executed (s.framed op) ⟨op, _, rfl, houtcome, rfl, rfl⟩ hid.symm hrecord
    | eliminated names nodup operations =>
      rcases hinsert _ operations with hkept | ⟨-, hrecord⟩
      · exact .kept hkept
      · exact .eliminated (s.framed op) names nodup hrecord
    | cutShort names nodup fatal operations =>
      rcases hinsert _ operations with hkept | ⟨hid, hrecord⟩
      · exact .kept hkept
      · have hcut : CutShort ⟨s, g, .process op⟩ id := by
          refine ⟨op, _, rfl, hid.symm, houtcome, fatal, hid ▸ hfresh, ?_⟩
          rw [hpost]
          exact hq ▸ Option.some_ne_none q
        exact .cutShort (s.framed op) names nodup hcut hrecord
  · have hsame : s.process g op = (_, s) := if_pos hfresh
    rw [hsame] at hq
    exact .kept hq

/-- Only `process` records anything. -/
theorem operations_eq (h : ∀ op, e.call ≠ .process op) : e.post.operations = e.pre.operations := by
  obtain ⟨s, g, c⟩ := e
  unfold post
  cases c with
  | beginFrame frame =>
    simp only [State.call, State.beginFrame]
    split <;> rfl
  | endFrame frame =>
    simp only [State.call, State.endFrame]
    split <;> rfl
  | endSession =>
    simp only [State.call, State.endSession]
    split <;> rfl
  | register id memory aliases =>
    simp only [State.call, State.registerResource]
    split_ifs <;> rfl
  | release id => exact State.invalidate_operations s id
  | process op => exact absurd rfl (h op)

/-- Every record that is there after a step is accounted for; only operations write any. -/
theorem written (hq : e.post.operations.lookup id = some q) : e.Written id q := by
  by_cases hcall : ∃ op, e.call = .process op
  · obtain ⟨s, g, c⟩ := e
    obtain ⟨op, rfl⟩ := hcall
    exact written_process s g op hq
  · rw [operations_eq (not_exists.mp hcall)] at hq
    exact .kept hq

/-- A record is never changed. -/
theorem record_kept (hq : e.pre.operations.lookup id = some q) :
    e.post.operations.lookup id = some q := by
  by_cases hcall : ∃ op, e.call = .process op
  · obtain ⟨s, g, c⟩ := e
    obtain ⟨op, rfl⟩ := hcall
    dsimp only at hq
    have hinsert : ∀ record : StoredOperation, s.operations.lookup op.id = none →
        (s.operations.insert op.id record).lookup id = some q := by
      intro record hfresh
      have hid : id ≠ op.id := by
        rintro rfl
        rw [hfresh] at hq
        cases hq
      rw [AList.lookup_insert_ne hid, hq]
    have hspec := s.process_spec g op
    change (s.process g op).2.operations.lookup id = some q
    generalize s.process g op = result at hspec ⊢
    obtain ⟨out, s'⟩ := result
    dsimp only at hspec ⊢
    cases hspec with
    | duplicate known => exact hq
    | full e fatal fresh => exact hq
    | refused e fatal fresh choice names => exact hinsert _ fresh
    | executed fresh choice =>
      rw [State.settle_operations]
      exact hinsert _ fresh
    | eliminated fresh choice => exact hinsert _ fresh
  · rw [operations_eq (not_exists.mp hcall)]
    exact hq

/-- An executed operation is recorded as such. -/
theorem Executed.record {op : Operation} (h : e.Executed op) :
    e.post.operations.lookup op.id = some (State.stored op false [] false) := by
  obtain ⟨s, g, c⟩ := e
  obtain ⟨raw, d, hcall, hout, hopcode, rfl⟩ := h
  dsimp only at hcall
  subst hcall
  have hspec := s.process_spec g raw
  have hout : (s.process g raw).1 = .ok d := hout
  change (s.process g raw).2.operations.lookup raw.id = _
  generalize s.process g raw = result at hspec hout
  obtain ⟨out, s'⟩ := result
  dsimp only at hspec hout ⊢
  cases hspec with
  | duplicate known => cases hout
  | full e fatal fresh => cases hout
  | refused e fatal fresh choice names => cases hout
  | executed fresh choice =>
    rw [State.settle_operations]
    exact AList.lookup_insert _
  | eliminated fresh choice =>
    obtain rfl := Except.ok.inj hout
    exact absurd hopcode choice

/-! ## Resources -/

variable {t : Text} {r : Resource}

/-- Nothing happened to the resource. -/
theorem standing_of_eq (h : e.pre.resources.lookup t = some r) (hcall : e.call ≠ .release t) :
    e.Standing t r :=
  .kept h hcall (.inr (.inl rfl)) (.inl rfl)

/-- A resource that is there after a registration was registered now, without pointers, or
was there before. -/
theorem standing_register (s : State) (g : Grant) (memory : UInt8) (aliases : List Text)
    (hr : (Step.post ⟨s, g, .register id memory aliases⟩).resources.lookup t = some r) :
    Standing ⟨s, g, .register id memory aliases⟩ t r := by
  have hout : (∃ thrown, s.registerResource g id memory aliases = .error thrown) ∨
      s.registerResource g id memory aliases =
        .ok { s with resources := s.resources.insert id { aliases, memory } } := by
    unfold State.registerResource
    split_ifs
    · exact .inl ⟨_, rfl⟩
    · exact .inl ⟨_, rfl⟩
    · exact .inl ⟨_, rfl⟩
    · exact .inr rfl
  have hcall : (⟨s, g, .register id memory aliases⟩ : Step).call ≠ .release t := by
    intro h
    cases h
  unfold post at hr
  simp only [State.call] at hr
  rcases hout with ⟨thrown, hout⟩ | hout
  · rw [hout] at hr
    exact standing_of_eq hr hcall
  · rw [hout] at hr
    have hr : (s.resources.insert id { aliases, memory }).lookup t = some r := hr
    by_cases ht : t = id
    · rw [ht, AList.lookup_insert] at hr
      rw [← Option.some.inj hr]
      refine .registered ⟨memory, aliases, {}, by rw [ht], ?_⟩ rfl rfl
      unfold outcome
      simp only [State.call, hout]
      rfl
    · rw [AList.lookup_insert_ne ht] at hr
      exact standing_of_eq hr hcall

/-- Invalidation keeps a `copy` pointer or clears it, and nothing else. -/
theorem lookup_of_invalidate {s : State} {x : Text}
    (hr : (s.invalidate x).resources.lookup t = some r) :
    ∃ before, s.resources.lookup t = some before ∧ (r.copy = none ∨ r.copy = before.copy) ∧
      r.allocation = before.allocation := by
  obtain ⟨keep, hlook, -⟩ := s.lookup_invalidate x t
  rw [hlook, Option.map_eq_some_iff] at hr
  obtain ⟨before, hbefore, rfl⟩ := hr
  refine ⟨before, hbefore, ?_, rfl⟩
  by_cases hkeep : keep before = true
  · exact .inr (if_pos hkeep)
  · exact .inl (if_neg hkeep)

/-- A resource that is left by a clearing was there before, and lost its remembered transfer
at most. -/
theorem lookup_of_cleared {s : State} {op : Operation}
    (hr : (s.cleared op).resources.lookup t = some r) :
    ∃ before, s.resources.lookup t = some before ∧ (r.copy = none ∨ r.copy = before.copy) ∧
      r.allocation = before.allocation := by
  unfold State.cleared at hr
  split at hr
  · exact lookup_of_invalidate hr
  · exact ⟨r, hr, .inr rfl, rfl⟩

/-- A resource that is there after a release was there before and is another one. -/
theorem standing_release (s : State) (g : Grant) (x : Text)
    (hr : (s.releaseResource x).resources.lookup t = some r) :
    Standing ⟨s, g, .release x⟩ t r := by
  have ht : t ≠ x := by
    rintro rfl
    simp [State.releaseResource] at hr
  rw [State.releaseResource, AList.lookup_erase_ne ht] at hr
  obtain ⟨before, hbefore, hcopy, hallocation⟩ := lookup_of_invalidate hr
  refine .kept hbefore ?_ (hcopy.imp_right .inl) (.inl hallocation)
  exact fun h => ht (Call.release.inj h).symm

/-- A resource that is there after an operation was there before, and its pointers are old
or name this operation, executed on it. -/
theorem standing_process (s : State) (g : Grant) (op : Operation)
    (hr : (s.process g op).2.resources.lookup t = some r) :
    Standing ⟨s, g, .process op⟩ t r := by
  have hcall : (⟨s, g, .process op⟩ : Step).call ≠ .release t := by
    intro h
    cases h
  have hspec := s.process_spec g op
  generalize hout : s.process g op = result at hspec hr
  obtain ⟨out, s'⟩ := result
  have houtcome : Step.outcome ⟨s, g, .process op⟩ = out := congrArg Prod.fst hout
  dsimp only at hspec hr
  cases hspec with
  | duplicate known => exact standing_of_eq hr hcall
  | full e fatal fresh => exact standing_of_eq hr hcall
  | refused e fatal fresh choice names => exact standing_of_eq hr hcall
  | eliminated fresh choice => exact standing_of_eq hr hcall
  | executed fresh choice =>
    have hrun : Executed ⟨s, g, .process op⟩ (s.framed op) := ⟨op, _, rfl, houtcome, rfl, rfl⟩
    rw [State.lookup_settle, Option.map_eq_some_iff] at hr
    obtain ⟨cleared, hcleared, rfl⟩ := hr
    obtain ⟨before, hbefore, hcopy, hallocation⟩ := lookup_of_cleared hcleared
    have hbefore : s.resources.lookup t = some before := hbefore
    unfold State.point
    by_cases ht : t = (s.framed op).target
    · rw [if_pos ht]
      refine .kept hbefore hcall ?_ ?_
      · by_cases htransfer : (s.framed op).type = 1 ∨ (s.framed op).type = 4
        · exact .inr (.inr ⟨_, hrun, htransfer, ht.symm, if_pos htransfer⟩)
        · dsimp only
          rw [if_neg htransfer]
          exact hcopy.imp_right .inl
      · by_cases hallocate : (s.framed op).type = 3
        · exact .inr ⟨_, hrun, hallocate, ht.symm, if_pos hallocate⟩
        · dsimp only
          rw [if_neg hallocate]
          exact .inl hallocation
    · rw [if_neg ht]
      exact .kept hbefore hcall (hcopy.imp_right .inl) (.inl hallocation)

/-- **What a call can do to a resource** that is registered afterwards. -/
theorem standing (hr : e.post.resources.lookup t = some r) : e.Standing t r := by
  obtain ⟨s, g, c⟩ := e
  cases c with
  | beginFrame frame =>
    refine standing_of_eq ?_ (fun h => by cases h)
    simp only [post, State.call, State.beginFrame] at hr
    split at hr <;> exact hr
  | endFrame frame =>
    refine standing_of_eq ?_ (fun h => by cases h)
    simp only [post, State.call, State.endFrame] at hr
    split at hr <;> exact hr
  | endSession =>
    refine standing_of_eq ?_ (fun h => by cases h)
    simp only [post, State.call, State.endSession] at hr
    split at hr <;> exact hr
  | register id memory aliases => exact standing_register s g memory aliases hr
  | release id => exact standing_release s g id hr
  | process op => exact standing_process s g op hr

end Step

/-! ## Any sequence of calls -/

namespace State

/-- The pointer leads to the record of an operation of this kind that was
executed into `t` in one of these steps. -/
def Leads (s : State) (since : List Step) (kind : UInt8 → Prop) (t p : Text) : Prop :=
  ∃ e ∈ since, ∃ op, e.Executed op ∧ kind op.type ∧ op.target = t ∧ op.id = p ∧
    s.operations.lookup p = some (stored op false [] false)

/-- The pointers of the resource lead to operations executed since its current
registration. -/
def Traced (s : State) (trail : List Step) (t : Text) (r : Resource) : Prop :=
  ∃ since reg older, trail = since ++ reg :: older ∧ reg.Registered t ∧
    (∀ e ∈ since, e.call ≠ .release t ∧ ¬ e.Registered t) ∧
    (∀ p, r.copy = some p → s.Leads since (fun type => type = 1 ∨ type = 4) t p) ∧
    ∀ p, r.allocation = some p → s.Leads since (fun type => type = 3) t p

end State

section Tracing

variable {e : Step} {since trail : List Step} {kind : UInt8 → Prop} {t p : Text}

/-- A pointer that leads to an execution still does after a step more. -/
theorem State.Leads.later (h : e.pre.Leads since kind t p) : e.post.Leads (e :: since) kind t p := by
  obtain ⟨x, hx, op, hrun, hkind, htarget, hid, hrecord⟩ := h
  exact ⟨x, List.mem_cons_of_mem _ hx, op, hrun, hkind, htarget, hid, Step.record_kept hrecord⟩

/-- An execution leads to itself from its target. -/
theorem Step.Executed.leads {op : Operation} (h : e.Executed op) (hkind : kind op.type)
    (htarget : op.target = t) : e.post.Leads (e :: since) kind t op.id :=
  ⟨e, List.mem_cons_self, op, h, hkind, htarget, rfl, h.record⟩

/-- An id that is registered already is not registered again. -/
theorem Step.not_registered (h : e.pre.resources.lookup t ≠ none) : ¬ e.Registered t := by
  obtain ⟨s, g, c⟩ := e
  rintro ⟨memory, aliases, d, hcall, hout⟩
  dsimp only at h hcall
  subst hcall
  have herror : s.registerResource g t memory aliases = .error _ := if_pos h
  unfold Step.outcome at hout
  simp only [State.call, herror] at hout
  cases hout

/-- **One call** keeps what is known of the pointers. -/
theorem State.Traced.step
    (h : ∀ t r, e.pre.resources.lookup t = some r → e.pre.Traced trail t r) {r : Resource}
    (hr : e.post.resources.lookup t = some r) : e.post.Traced (e :: trail) t r := by
  cases Step.standing hr with
  | registered now copy allocation =>
    refine ⟨[], e, trail, rfl, now, by simp, ?_, ?_⟩
    · intro p hp
      rw [copy] at hp
      cases hp
    · intro p hp
      rw [allocation] at hp
      cases hp
  | @kept before known staying copy allocation =>
    obtain ⟨since, reg, older, htrail, hreg, hsince, hcopy, hallocation⟩ := h t before known
    refine ⟨e :: since, reg, older, congrArg (e :: ·) htrail, hreg, ?_, ?_, ?_⟩
    · have hagain := Step.not_registered (known ▸ Option.some_ne_none before)
      exact List.forall_mem_cons.mpr ⟨⟨staying, hagain⟩, hsince⟩
    · intro p hp
      rcases copy with hnone | hsame | ⟨op, hrun, hkind, htarget, hnew⟩
      · rw [hnone] at hp
        cases hp
      · exact (hcopy p (hsame ▸ hp)).later
      · obtain rfl := Option.some.inj (hnew.symm.trans hp)
        exact hrun.leads hkind htarget
    · intro p hp
      rcases allocation with hsame | ⟨op, hrun, hkind, htarget, hnew⟩
      · exact (hallocation p (hsame ▸ hp)).later
      · obtain rfl := Option.some.inj (hnew.symm.trans hp)
        exact hrun.leads hkind htarget

/-- The pointers of every resource lead to executions since its registration, by induction
on the run. -/
theorem AnyRun.traced {s : State} {trail : List Step} (h : AnyRun s trail) :
    ∀ t r, s.resources.lookup t = some r → s.Traced trail t r := by
  induction h with
  | start => intro t r hr; cases hr
  | @call s trail _ g c ih =>
    exact fun t r hr => State.Traced.step (e := ⟨s, g, c⟩) ih hr

end Tracing

/-- What the record of an operation says, unless its elimination was cut short. -/
def StoredOperation.Consistent (q : StoredOperation) : Prop :=
  q.removed = true ↔ q.eliminated = true ∧ q.replacements = []

/-- Every record names its replacements once each, and is consistent or was cut short by a
step of the run. -/
theorem AnyRun.records {s : State} {trail : List Step} (h : AnyRun s trail) :
    ∀ id q, s.operations.lookup id = some q → q.replacements.Nodup ∧
      (q.Consistent ∨ (q.eliminated = true ∧ q.removed = false ∧ ∃ e ∈ trail, e.CutShort id)) := by
  induction h with
  | start => intro id q hq; cases hq
  | @call s trail _ g c ih =>
    intro id q hq
    cases Step.written (e := ⟨s, g, c⟩) hq with
    | kept before =>
      obtain ⟨hnodup, hrest⟩ := ih id q before
      refine ⟨hnodup, hrest.imp_right fun hcut => ?_⟩
      obtain ⟨heliminated, hremoved, e, he, hcut⟩ := hcut
      exact ⟨heliminated, hremoved, e, List.mem_cons_of_mem _ he, hcut⟩
    | executed op run own record =>
      rw [record]
      exact ⟨List.nodup_nil, .inl (by simp [StoredOperation.Consistent, State.stored])⟩
    | eliminated op names nodup record =>
      rw [record]
      exact ⟨nodup, .inl (by simp [StoredOperation.Consistent, State.stored])⟩
    | cutShort op names nodup cut record =>
      rw [record]
      exact ⟨nodup, .inr ⟨rfl, rfl, _, List.mem_cons_self, cut⟩⟩

/-! ## Limits -/

/-- Inserting under a new key makes a map one entry longer. -/
theorem length_insert {τ : Type} {m : TextMap τ} {id : Text} {v : τ} (h : m.lookup id = none) :
    (m.insert id v).entries.length = m.entries.length + 1 := by
  rw [AList.entries_insert_of_notMem (AList.lookup_eq_none.mp h), List.length_cons]

namespace State

/-- Neither map has grown beyond its limit. -/
structure Limited (s : State) : Prop where
  resources : s.resources.entries.length ≤ resourceLimit
  operations : s.operations.entries.length ≤ operationLimit

/-- Invalidating a resource does not change how many there are. -/
theorem length_invalidate (s : State) (id : Text) :
    (s.invalidate id).resources.entries.length = s.resources.entries.length := by
  unfold invalidate
  split <;> exact length_mapVal _ _

/-- Settling an operation does not change how many resources there are. -/
theorem length_settle (s : State) (op : Operation) :
    (s.settle op).resources.entries.length = s.resources.entries.length := by
  rw [settle_eq, length_mapVal]
  unfold cleared
  split
  · exact s.length_invalidate _
  · rfl

/-- A release keeps within the limits. -/
theorem Limited.release {s : State} (h : s.Limited) (id : Text) :
    (s.releaseResource id).Limited where
  resources := by
    have hle := (List.kerase_sublist id (s.invalidate id).resources.entries).length_le
    rw [s.length_invalidate] at hle
    exact Nat.le_trans hle h.resources
  operations := by
    have hsame : (s.releaseResource id).operations = s.operations := s.invalidate_operations id
    rw [hsame]
    exact h.operations

/-- A registration keeps within the limits: at the limit it is refused unless the identity
is known. -/
theorem Limited.register {s : State} (h : s.Limited) (g : Grant) (id : Text) (memory : UInt8)
    (aliases : List Text) : (s.call g (.register id memory aliases)).2.Limited := by
  simp only [call, registerResource]
  by_cases hknown : s.resources.lookup id ≠ none
  · rw [if_pos hknown]
    exact h
  rw [if_neg hknown]
  by_cases hfull : s.resources.entries.length = resourceLimit
  · rw [if_pos hfull]
    exact h
  rw [if_neg hfull]
  by_cases hroom : g.room = 0
  · rw [if_pos hroom]
    exact h
  rw [if_neg hroom]
  refine ⟨?_, h.operations⟩
  have hlen := length_insert (v := ({ aliases, memory } : Resource)) (not_not.mp hknown)
  have hlimit := h.resources
  change (s.resources.insert id { aliases, memory }).entries.length ≤ resourceLimit
  omega

/-- A new record fits, since a full map was refused before. -/
theorem Limited.record {s : State} (h : s.Limited) {q : StoredOperation}
    (hfresh : s.operations.lookup q.id = none)
    (hfull : s.operations.entries.length ≠ operationLimit) : (s.record q).Limited := by
  refine ⟨h.resources, ?_⟩
  have hlen := length_insert (v := q) hfresh
  have hlimit := h.operations
  change (s.operations.insert q.id q).entries.length ≤ operationLimit
  omega

/-- An operation keeps within the limits: at the limit it is refused. -/
theorem Limited.process {s : State} (h : s.Limited) (g : Grant) (op : Operation) :
    (s.process g op).2.Limited := by
  unfold State.process
  by_cases hknown : s.operations.lookup op.id ≠ none
  · rw [if_pos hknown]
    exact h
  rw [if_neg hknown]
  have hfresh := not_not.mp hknown
  by_cases hfull : s.operations.entries.length = operationLimit
  · rw [if_pos hfull]
    exact h
  rw [if_neg hfull]
  by_cases hroom : g.room = 0
  · rw [if_pos hroom]
    exact h
  rw [if_neg hroom]
  by_cases hchoice : (s.choose (s.framed op)).1 = 0
  · simp only [if_pos hchoice]
    have hrecord := h.record (q := stored (s.framed op) false [] false) hfresh hfull
    refine ⟨?_, ?_⟩
    · rw [length_settle]
      exact hrecord.resources
    · rw [settle_operations]
      exact hrecord.operations
  simp only [if_neg hchoice]
  by_cases hshort : g.room - 1 <
      (s.replacements (s.choose (s.framed op)).2 (s.framed op).dependencies).length
  · simp only [if_pos hshort]
    exact h.record hfresh hfull
  · simp only [if_neg hshort]
    exact h.record hfresh hfull

/-- Every call keeps within the limits. -/
theorem Limited.call {s : State} (h : s.Limited) (g : Grant) (c : Call) : (s.call g c).2.Limited := by
  cases c with
  | beginFrame frame =>
    simp only [State.call, beginFrame]
    split <;> exact ⟨h.resources, h.operations⟩
  | endFrame frame =>
    simp only [State.call, endFrame]
    split <;> exact ⟨h.resources, h.operations⟩
  | endSession =>
    simp only [State.call, endSession]
    split <;> exact h
  | register id memory aliases => exact h.register g id memory aliases
  | release id => exact h.release id
  | process op => exact h.process g op

end State

/-- Every run keeps within the limits. -/
theorem AnyRun.limited {s : State} {trail : List Step} (h : AnyRun s trail) : s.Limited := by
  induction h with
  | start => exact ⟨Nat.zero_le _, Nat.zero_le _⟩
  | call _ g c ih => exact ih.call g c

/-- The provenance pointers are well founded in every state that calls reach. -/
theorem provenance_well_founded {s : State} {trail : List Step} (h : AnyRun s trail) :
    (∀ t r, s.resources.lookup t = some r → s.Traced trail t r) ∧
      (∀ id q, s.operations.lookup id = some q → q.replacements.Nodup ∧
        ((q.removed = true ↔ q.eliminated = true ∧ q.replacements = []) ∨
          (q.eliminated = true ∧ q.removed = false ∧ ∃ e ∈ trail, e.CutShort id))) ∧
      s.resources.entries.length ≤ 4096 ∧ s.operations.entries.length ≤ 16384 :=
  ⟨h.traced, h.records, h.limited.resources, h.limited.operations⟩

/-- A buffer, an upload into it, and the self copy that would be removed. -/
def shortOfMemory : List Call :=
  [.register (literal "a") 1 [],
    .process { id := literal "w", type := 4, source := literal "b", target := literal "a" },
    .process { id := literal "x", type := 1, source := literal "a", target := literal "a",
               dependencies := [literal "w"] }]

/-- Calls in a row, whatever they throw, go on with a run. -/
theorem AnyRun.replay {s : State} {trail : List Step} (h : AnyRun s trail) (g : Grant)
    (calls : List Call) : AnyRun (replay g calls (s, trail)).1 (replay g calls (s, trail)).2 := by
  induction calls generalizing s trail with
  | nil => exact h
  | cons c calls ih => exact ih (h.call g c)

/-- After an upload into a buffer its pointer leads to that upload, though a later call was
cut short. -/
theorem provenance_well_founded_upload :
    ∃ r, (replay ⟨2, .budget⟩ shortOfMemory ({}, [])).1.resources.lookup (literal "a") = some r ∧
      r.copy = some (literal "w") ∧
      (replay ⟨2, .budget⟩ shortOfMemory ({}, [])).1.Traced
        (replay ⟨2, .budget⟩ shortOfMemory ({}, [])).2 (literal "a") r := by
  have hr : (replay ⟨2, .budget⟩ shortOfMemory ({}, [])).1.resources.lookup (literal "a") =
      some ⟨[], 1, some (literal "w"), none⟩ := by decide
  have hresult := provenance_well_founded (AnyRun.start.replay ⟨2, .budget⟩ shortOfMemory)
  exact ⟨_, hr, rfl, hresult.1 _ _ hr⟩

/-- With memory for the node of the elimination, but not for its replacement
list, the record is eliminated and lists nothing, and yet it is not removed. -/
theorem cut_short_not_removed :
    ∃ s trail id q, AnyRun s trail ∧ s.operations.lookup id = some q ∧
      ¬ (q.removed = true ↔ q.eliminated = true ∧ q.replacements = []) := by
  refine ⟨_, _, literal "x", _, AnyRun.start.replay ⟨1, .budget⟩ shortOfMemory, rfl, ?_⟩
  decide

end FluidGateway.Native
