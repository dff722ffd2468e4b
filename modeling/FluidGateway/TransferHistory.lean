import FluidGateway.NativeRuns

/-!
# Deduplication, read off the history

When does the native engine advise to drop a transfer as identical to an
earlier one?  The code compares the submitted operation with the record its
target points to.  Here that pointer is described by the calls of the session
alone: the last executed transfer into the target, provided no retiring event
has occurred since.
-/

namespace FluidGateway.Native

open KeyedMap Provenance

/-- The step writes through `x`: it releases `x`, or it executes a copy,
upload, allocate, compute or draw whose target is `x`. -/
def Step.Writes (e : Step) (x : Text) : Prop :=
  e.call = .release x ∨
    ∃ op, e.Executed op ∧
      (op.type = 1 ∨ op.type = 3 ∨ op.type = 4 ∨ op.type = 6 ∨ op.type = 7) ∧ op.target = x

/-- The step retires what is known about transfers from `source` into
`target`. -/
def Step.Retiring (e : Step) (source target : Text) : Prop :=
  ∃ x, e.Writes x ∧
    (e.pre.resources.lookup x = none ∨ e.pre.Connected x target ∨
      (e.pre.resources.lookup source ≠ none ∧ e.pre.Connected x source))

/-- The step executes a copy or upload into `target`. -/
def Step.TransfersInto (e : Step) (target : Text) (op : Operation) : Prop :=
  e.Executed op ∧ (op.type = 1 ∨ op.type = 4) ∧ op.target = target

theorem writes_iff {type : UInt8} :
    State.writes type = true ↔ type = 1 ∨ type = 3 ∨ type = 4 ∨ type = 6 ∨ type = 7 := by
  simp [State.writes, or_assoc]

/-! ## The ledger step of a call, case by case -/

/-- A call acts on the ledger by registering, releasing, or executing. -/
theorem Step.act_cases (e : Step) :
    (∃ id memory aliases d, e.call = .register id memory aliases ∧ e.outcome = .ok d ∧
      e.act = .register id (memory, aliases)) ∨
    (∃ id, e.call = .release id ∧ e.act = .release id) ∨
    (∃ raw d, e.call = .process raw ∧ e.outcome = .ok d ∧ d.opcode = 0 ∧
      e.act = State.effect (e.pre.framed raw) (e.pre.executedRecord raw)) ∨
    (e.act = .pass ∧ (∀ id, e.call ≠ .release id) ∧ (∀ op, ¬ e.Executed op) ∧
      ∀ id, ¬ e.Registered id) := by
  unfold Step.act Step.Executed Step.Registered
  cases hc : e.call with
  | release id => exact Or.inr (Or.inl ⟨id, rfl, rfl⟩)
  | register id memory aliases =>
      cases ho : e.outcome with
      | ok d => exact Or.inl ⟨id, memory, aliases, d, rfl, rfl, rfl⟩
      | error t => simp
  | process raw =>
      cases ho : e.outcome with
      | ok d =>
          by_cases hd : d.opcode = 0
          · exact Or.inr (Or.inr (Or.inl ⟨raw, d, rfl, rfl, hd, if_pos hd⟩))
          · simp [hd]
      | error t => simp
  | _ => simp

theorem Step.registered_iff (e : Step) (id : Text) :
    (∃ v, e.act = .register id v) ↔ e.Registered id := by
  constructor
  · intro h
    obtain ⟨v, hv⟩ := h
    rcases e.act_cases with ⟨k, memory, aliases, d, hc, ho, ha⟩ | ⟨k, -, ha⟩ |
      ⟨raw, d, -, -, -, ha⟩ | ⟨ha, -⟩
    · rw [ha, Act.register.injEq] at hv
      exact ⟨memory, aliases, d, hv.1 ▸ hc, ho⟩
    · rw [ha] at hv
      cases hv
    · rw [ha] at hv
      unfold State.effect at hv
      split_ifs at hv
    · rw [ha] at hv
      cases hv
  · intro h
    obtain ⟨memory, aliases, d, hc, ho⟩ := h
    exact ⟨(memory, aliases), by simp only [Step.act, hc, ho]⟩

theorem Step.written_iff (e : Step) (x : Option Text) :
    e.act.written = some x ↔ ∃ y, x = some y ∧ e.Writes y := by
  unfold Step.Writes
  rcases e.act_cases with ⟨k, memory, aliases, d, hc, ho, ha⟩ | ⟨k, hc, ha⟩ |
    ⟨raw, d, hc, ho, hd, ha⟩ | ⟨ha, hrel, hexec, -⟩
  · simp [ha, Act.written, hc, Step.Executed]
  · simp [ha, Act.written, hc, Step.Executed, eq_comm]
  · have hexec : ∀ op, e.Executed op ↔ op = e.pre.framed raw := by
      intro op
      unfold Step.Executed
      rw [hc, ho]
      constructor
      · intro h
        obtain ⟨raw', d', hraw, -, -, rfl⟩ := h
        cases hraw
        rfl
      · intro h
        exact ⟨raw, d, rfl, rfl, hd, h⟩
    rw [ha, hc]
    simp only [hexec, reduceCtorEq, false_or, exists_eq_left, ← writes_iff]
    have hwrite : some (some (e.pre.framed raw).target) = some x ↔
        ∃ y, x = some y ∧ (e.pre.framed raw).target = y := by
      constructor
      · intro h
        exact ⟨_, (Option.some.inj h).symm, rfl⟩
      · intro h
        obtain ⟨y, rfl, rfl⟩ := h
        rfl
    unfold State.effect
    split_ifs with htransfer hwrites
    · simpa only [Act.written, State.writes_of_transfer htransfer, true_and] using hwrite
    · simpa only [Act.written, hwrites, true_and] using hwrite
    · simp only [Act.written, hwrites, reduceCtorEq, false_and, and_false, exists_false]
  · simp [ha, Act.written, hrel, hexec]

theorem Step.transfer_iff (e : Step) (target : Text) (r : StoredOperation) :
    e.act = .transfer (some target) r ↔
      ∃ op, e.TransfersInto target op ∧ r = State.stored op false [] false := by
  unfold Step.TransfersInto
  constructor
  · intro h
    rcases e.act_cases with ⟨k, memory, aliases, d, hc, ho, ha⟩ | ⟨k, hc, ha⟩ |
      ⟨raw, d, hc, ho, hd, ha⟩ | ⟨ha, -⟩
    · rw [ha] at h
      cases h
    · rw [ha] at h
      cases h
    · rw [ha] at h
      unfold State.effect at h
      split_ifs at h with htransfer
      rw [Act.transfer.injEq, Option.some.injEq] at h
      exact ⟨e.pre.framed raw, ⟨⟨raw, d, hc, ho, hd, rfl⟩, htransfer, h.1⟩, h.2.symm⟩
    · rw [ha] at h
      cases h
  · intro h
    obtain ⟨op, ⟨⟨raw, d, hc, ho, hd, rfl⟩, htransfer, rfl⟩, rfl⟩ := h
    have htype : (e.pre.framed raw).type = 1 ∨ (e.pre.framed raw).type = 4 := htransfer
    simp only [Step.act, hc, ho, if_pos hd, State.effect, if_pos htype]
    rfl

/-- **What ends a record.**  The ledger drops the record of `target` exactly
at a retiring event or a new registration. -/
theorem Step.ends_iff (e : Step) (target : Text) (r : StoredOperation) :
    Ends machine (e.pre.ledger, e.act) target r ↔
      e.Retiring r.source target ∨ e.Registered target := by
  unfold Ends
  refine or_congr ?_ (e.registered_iff target)
  simp only [e.written_iff]
  constructor
  · intro h
    obtain ⟨x, ⟨y, rfl, hy⟩, hret⟩ := h
    refine ⟨y, hy, ?_⟩
    rw [← State.ledger_res_eq_none]
    by_cases hknown : e.pre.ledger.res y = none
    · exact Or.inl hknown
    · rw [Ledger.retires_known machine _ hknown] at hret
      refine Or.inr ?_
      rcases hret with hlink | ⟨s, hs, hres, hlink⟩
      · exact Or.inl (State.ledger_linked.mp hlink)
      · cases hs
        exact Or.inr ⟨mt State.ledger_res_eq_none.mpr hres, State.ledger_linked.mp hlink⟩
  · intro h
    obtain ⟨y, hy, hret⟩ := h
    refine ⟨some y, ⟨y, rfl, hy⟩, ?_⟩
    rw [← State.ledger_res_eq_none] at hret
    by_cases hknown : e.pre.ledger.res y = none
    · exact Ledger.retires_unknown machine _ hknown target r
    · rw [Ledger.retires_known machine _ hknown]
      rcases hret with hunknown | hlink | ⟨hres, hlink⟩
      · exact absurd hunknown hknown
      · exact Or.inl (State.ledger_linked.mpr hlink)
      · exact Or.inr ⟨r.source, rfl, mt State.ledger_res_eq_none.mp hres,
          State.ledger_linked.mpr hlink⟩

/-- An executed transfer into a target is a retiring event for that target. -/
theorem Step.TransfersInto.retiring {e : Step} {target : Text} {op : Operation}
    (h : e.TransfersInto target op) (source : Text) : e.Retiring source target := by
  obtain ⟨hexec, htype, htarget⟩ := h
  refine ⟨target, Or.inr ⟨op, hexec, ?_, htarget⟩, Or.inr (Or.inl .refl)⟩
  rcases htype with htype | htype <;> simp [htype]

/-! ## The pointer of a resource -/

/-- **The transfer a resource remembers**, in terms of the calls made. -/
theorem Run.copy_iff {s : State} {trail : List Step} (hrun : Run s trail) {target : Text}
    {r : StoredOperation} (hreg : s.resources.lookup target ≠ none) :
    s.ledger.copy target = some r ↔
      ∃ newer e older op, trail = newer ++ e :: older ∧ e.TransfersInto target op ∧
        r = State.stored op false [] false ∧
        (∀ x ∈ newer, ¬ x.Registered target) ∧
        ∀ x ∈ newer, ¬ x.Retiring op.source target := by
  rw [copy_eq_some_iff machine ledger_empty_copy hrun.ledger]
  constructor
  · intro h
    obtain ⟨newer, pre, older, htrail, -, hno⟩ := h
    obtain ⟨newer', rest, rfl, rfl, hrest⟩ := List.map_eq_append_iff.mp htrail
    obtain ⟨e, older', rfl, he, rfl⟩ := List.map_eq_cons_iff.mp hrest
    rw [Prod.mk.injEq] at he
    obtain ⟨op, htransfer, rfl⟩ := (e.transfer_iff target r).mp he.2
    have hkept : ∀ x ∈ newer', ¬ (x.Retiring op.source target ∨ x.Registered target) := by
      intro x hx hend
      exact hno _ (List.mem_map_of_mem hx) ((x.ends_iff target _).mpr hend)
    exact ⟨newer', e, older', op, rfl, htransfer, rfl,
      fun x hx h => hkept x hx (Or.inr h), fun x hx h => hkept x hx (Or.inl h)⟩
  · intro h
    obtain ⟨newer, e, older, op, rfl, htransfer, rfl, hregs, hret⟩ := h
    have hact := (e.transfer_iff target _).mpr ⟨op, htransfer, rfl⟩
    have hledger := hrun.ledger
    unfold ledgerTrail at hledger
    rw [List.map_append, List.map_cons] at hledger
    -- the target is registered now, and nothing since has registered it
    have hthen : e.pre.ledger.res target ≠ none := by
      refine registered_at machine hledger (mt State.ledger_res_eq_none.mp hreg) ?_ ?_
      · intro x hx v hv
        obtain ⟨y, hy, rfl⟩ := List.mem_map.mp hx
        exact hregs y hy ((y.registered_iff target).mp ⟨v, hv⟩)
      · intro v hv
        rw [hact] at hv
        cases hv
    refine ⟨newer.map fun x => (x.pre.ledger, x.act), e.pre.ledger,
      older.map fun x => (x.pre.ledger, x.act), ?_, hthen, ?_⟩
    · rw [← hact]
      exact List.map_append
    · intro x hx hend
      obtain ⟨y, hy, rfl⟩ := List.mem_map.mp hx
      rcases (y.ends_iff target _).mp hend with h | h
      · exact hret y hy h
      · exact hregs y hy h

/-! ## Deduplication -/

/-- Which transfers get opcode 2, for two distinct registered endpoints that
do not alias. -/
theorem State.choose_dedup_iff {s : State} (op : Operation) {source target : Resource}
    (htype : op.type = 1 ∨ op.type = 4) (hsource : s.resources.lookup op.source = some source)
    (htarget : s.resources.lookup op.target = some target) (hne : op.source ≠ op.target)
    (halias : aliasesIntersect source target = false) :
    (s.choose op).1 = 2 ↔ ∃ r, s.ledger.copy op.target = some r ∧ State.sameTransfer op r = true := by
  simp only [choose, if_pos htype, hsource, htarget, if_neg hne, halias, Bool.false_eq_true,
    if_false, ledger, Option.bind_some]
  cases s.deref target.copy with
  | none => simp
  | some r => by_cases hsame : State.sameTransfer op r = true <;> simp [hsame]

/-- The decision of an accepted operation. -/
theorem State.opcode_of_process {s s' : State} {g : Grant} {op : Operation} {d : Decision}
    (h : s.process g op = (.ok d, s')) : d.opcode = (s.choose (s.framed op)).1 := by
  have hspec := s.process_spec g op
  rw [h] at hspec
  cases hspec with
  | executed _ choice => exact choice.symm
  | eliminated _ _ => rfl

/-- **Transfer deduplication is exactly the history of the session.**  After
any run, an accepted transfer between two distinct registered resources that
share no alias is dropped as identical to an earlier one exactly when the most
recent executed transfer into its target since the registration of the target
had the same source, bytes, effective frame and queue, and no retiring event
has occurred since.  No eliminated operation retires anything. -/
theorem dedup_iff_history {s : State} {trail : List Step} (hrun : Run s trail) :
    (∀ (g : Grant) (op : Operation) (source target : Resource) (d : Decision) (s' : State),
      (op.type = 1 ∨ op.type = 4) →
      s.resources.lookup op.source = some source → s.resources.lookup op.target = some target →
      op.source ≠ op.target → aliasesIntersect source target = false →
      s.process g op = (.ok d, s') →
      (d.opcode = 2 ↔
        ∃ newer e older previous, trail = newer ++ e :: older ∧
          e.TransfersInto op.target previous ∧
          (∀ x ∈ newer, ¬ x.Registered op.target) ∧
          (∀ x ∈ newer, ∀ q, ¬ x.TransfersInto op.target q) ∧
          previous.source = op.source ∧ previous.bytes = op.bytes ∧
          previous.frame = (s.framed op).frame ∧ previous.queue = op.queue ∧
          ∀ x ∈ newer, ¬ x.Retiring op.source op.target)) ∧
    (∀ (g : Grant) (op : Operation) (d : Decision) (s' : State),
      s.process g op = (.ok d, s') → d.opcode ≠ 0 → s'.resources = s.resources) := by
  refine ⟨?_, ?_⟩
  · intro g op source target d s' htype hsource htarget hne halias hok
    have hreg : s.resources.lookup op.target ≠ none := by simp [htarget]
    have hchoose : (s.choose (s.framed op)).1 = 2 ↔
        ∃ r, s.ledger.copy op.target = some r ∧ State.sameTransfer (s.framed op) r = true :=
      State.choose_dedup_iff (s.framed op) htype hsource htarget hne halias
    rw [State.opcode_of_process hok, hchoose]
    constructor
    · intro h
      obtain ⟨r, hcopy, hsame⟩ := h
      obtain ⟨newer, e, older, previous, rfl, htransfer, rfl, hregs, hret⟩ :=
        (hrun.copy_iff hreg).mp hcopy
      simp only [State.sameTransfer, Bool.and_eq_true, beq_iff_eq] at hsame
      obtain ⟨⟨⟨hsrc, hbytes⟩, hframe⟩, hqueue⟩ := hsame
      have hsrc' : previous.source = op.source := hsrc
      exact ⟨newer, e, older, previous, rfl, htransfer, hregs,
        fun x hx q hq => hret x hx (hq.retiring _), hsrc', hbytes, hframe, hqueue,
        fun x hx => hsrc' ▸ hret x hx⟩
    · intro h
      obtain ⟨newer, e, older, previous, htrail, htransfer, hregs, -, hsrc, hbytes, hframe,
        hqueue, hret⟩ := h
      refine ⟨_, (hrun.copy_iff hreg).mpr ⟨newer, e, older, previous, htrail, htransfer, rfl,
        hregs, fun x hx => hsrc ▸ hret x hx⟩, ?_⟩
      simp only [State.sameTransfer, State.stored, Bool.and_eq_true, beq_iff_eq]
      exact ⟨⟨⟨hsrc, hbytes⟩, hframe⟩, hqueue⟩
  · intro g op d s' hok hd
    have hspec := s.process_spec g op
    rw [hok] at hspec
    cases hspec with
    | executed => exact absurd rfl hd
    | eliminated => rfl

/-- A copy from `a` into `b`, 64 bytes, in no frame. -/
def sampleCopy (id : String) : Operation :=
  { id := literal id, source := literal "a", target := literal "b", bytes := 64, type := 1 }

/-- Two registered resources and one executed copy between them. -/
def sampleCalls : List Call :=
  [.register (literal "a") 1 [], .register (literal "b") 2 [], .process (sampleCopy "first")]

/-- The repeated copy is dropped, so its history is the one described. -/
theorem dedup_iff_history_repeated_copy :
    ∃ newer e older previous,
      (replay { room := 100 } sampleCalls ({}, [])).2 = newer ++ e :: older ∧
        e.TransfersInto (literal "b") previous ∧ previous.source = literal "a" ∧
        ∀ x ∈ newer, ¬ x.Retiring (literal "a") (literal "b") := by
  have hrun := Run.start.replay { room := 100 } sampleCalls (by decide)
  have h := ((dedup_iff_history hrun).1 { room := 100 } (sampleCopy "second")
    { aliases := [], memory := 1 } { aliases := [], memory := 2, copy := some (literal "first") }
    { opcode := 2, operation := true, savedUs := 0, savedBytes := 64 } _ (Or.inl rfl)
    (by decide) (by decide) (by decide) (by decide) rfl).mp rfl
  obtain ⟨newer, e, older, previous, htrail, htransfer, -, -, hsource, -, -, -, hret⟩ := h
  exact ⟨newer, e, older, previous, htrail, htransfer, hsource, hret⟩

end FluidGateway.Native
