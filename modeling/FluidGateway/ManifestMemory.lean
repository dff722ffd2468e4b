import FluidGateway.ManifestRuns

/-!
# The optimizer preserves the meaning of a manifest

A memory gives every resource one cell of its own, and one cell to every alias
name in every memory layer.  An operation relates the memory before it to the
memories it may leave behind.  Every final memory that the kept operations can
reach is one that the original operations can reach.

The invariant behind it (`CopiesHold`): a transfer that is still remembered
would change nothing if it were executed again.
-/

namespace FluidGateway.Runtime

open KeyedMap Provenance

inductive Cell where
  | own (id : String)
  | shared (layer : MemoryLayer) (alias_ : String)
  deriving DecidableEq, Repr

abbrev Memory (V : Type*) := Cell → V

/-- The cells through which a resource is read and written. -/
def RuntimeResource.cells (r : RuntimeResource) : List Cell :=
  .own r.id :: r.aliases.map (Cell.shared r.memory)

/-- Two different resources with no alias in common in one layer. -/
def Apart (a b : RuntimeResource) : Prop :=
  a.id ≠ b.id ∧ ¬ machine.shares a.view b.view

/-- What a transfer writes: a function of the cells of its two resources and of
its size, queue and frame, which done twice does nothing more. -/
structure TransferSemantics (V : Type*) where
  move : RuntimeResource → RuntimeResource → ℚ → String → Option ℤ → Memory V → Memory V
  frame : ∀ a b size queue fr (m : Memory V) c, c ∉ b.cells → move a b size queue fr m c = m c
  congr : ∀ a b size queue fr (m m' : Memory V),
    (∀ c, c ∈ a.cells ∨ c ∈ b.cells → m c = m' c) →
      ∀ c ∈ b.cells, move a b size queue fr m c = move a b size queue fr m' c
  idempotent : ∀ a b size queue fr (m : Memory V), Apart a b →
    move a b size queue fr (move a b size queue fr m) = move a b size queue fr m

variable {V : Type*} (sem : TransferSemantics V) (resources : ResourceTable)

/-- The memories that agree with `m` outside the cells of `r`. -/
def MayWrite (r : RuntimeResource) (m m' : Memory V) : Prop :=
  ∀ c, c ∉ r.cells → m' c = m c

open Classical in
/-- A transfer into the resource `b`. -/
def ExecTransfer (operation : RuntimeOperation) (b : RuntimeResource) (m m' : Memory V) : Prop :=
  match operation.source.bind resources.get with
  | none => MayWrite b m m'
  | some a =>
    m' = if Apart a b then sem.move a b operation.sizeMb operation.queue operation.frame m else m

/-- One operation.  A write whose target is no resource may write anything. -/
def Exec (operation : RuntimeOperation) (m m' : Memory V) : Prop :=
  match operation.type with
  | .sync | .present => m' = m
  | .copy | .upload =>
    match operation.target.bind resources.get with
    | none => True
    | some b => ExecTransfer sem resources operation b m m'
  | .allocate | .compute | .draw =>
    match operation.target.bind resources.get with
    | none => True
    | some b => MayWrite b m m'

/-- A list of operations, in order. -/
def ExecAll : List RuntimeOperation → Memory V → Memory V → Prop
  | [], m, m' => m' = m
  | operation :: rest, m, m' => ∃ next, Exec sem resources operation m next ∧ ExecAll rest next m'

variable {sem resources}

/-! ## Cells -/

theorem cells_disjoint {a b : RuntimeResource} (h : Apart a b) {c : Cell} (ha : c ∈ a.cells) :
    c ∉ b.cells := by
  intro hb
  rcases List.mem_cons.mp ha with rfl | ha
  · rcases List.mem_cons.mp hb with hid | hb
    · exact h.1 (Cell.own.inj hid)
    · obtain ⟨name, -, hc⟩ := List.mem_map.mp hb
      cases hc
  · obtain ⟨name, hname, rfl⟩ := List.mem_map.mp ha
    rcases List.mem_cons.mp hb with hc | hb
    · cases hc
    · obtain ⟨name', hname', hc⟩ := List.mem_map.mp hb
      obtain ⟨hlayer, rfl⟩ := Cell.shared.inj hc
      exact h.2 ⟨hlayer.symm, name', hname, hname'⟩

/-- Registered resources that are not linked are apart. -/
theorem apart_of_not_linked {s : RuntimeOptimizationState} {x y : String}
    {rx ry : RuntimeResource} (hx : s.resources.get x = some rx) (hy : s.resources.get y = some ry)
    (h : ¬ s.ledger.Linked machine x y) : Apart rx ry := by
  refine ⟨?_, ?_⟩
  · intro hid
    have hxy : x = y := by
      rw [← s.resources.keyed x rx hx, ← s.resources.keyed y ry hy, hid]
    exact h (hxy ▸ Relation.ReflTransGen.refl)
  · intro hshares
    refine h (Relation.ReflTransGen.single ⟨rx.view, ry.view, ?_, ?_, hshares⟩)
    · rw [RuntimeOptimizationState.ledger_res, hx]
      rfl
    · rw [RuntimeOptimizationState.ledger_res, hy]
      rfl

/-! ## One operation -/

/-- A transfer writes the cells of its target only. -/
theorem ExecTransfer.frame {operation : RuntimeOperation} {b : RuntimeResource} {m m' : Memory V}
    (h : ExecTransfer sem resources operation b m m') : MayWrite b m m' := by
  unfold ExecTransfer at h
  split at h
  · exact h
  · intro c hc
    rw [h]
    split_ifs
    · exact sem.frame _ _ _ _ _ m c hc
    · rfl

/-- An operation that writes a resource writes the cells of that resource
only. -/
theorem Exec.frame {operation : RuntimeOperation} {x : String} {rx : RuntimeResource}
    {m m' : Memory V} (h : Exec sem resources operation m m')
    (htarget : operation.target = some x) (hx : resources.get x = some rx) :
    MayWrite rx m m' := by
  have hbind : operation.target.bind resources.get = some rx := by rw [htarget]; exact hx
  unfold Exec at h
  rw [hbind] at h
  have hsame : m' = m → MayWrite rx m m' := by
    intro hm c _
    rw [hm]
  cases htype : operation.type with
  | copy => rw [htype] at h; exact ExecTransfer.frame h
  | upload => rw [htype] at h; exact ExecTransfer.frame h
  | sync => rw [htype] at h; exact hsame h
  | present => rw [htype] at h; exact hsame h
  | allocate => rw [htype] at h; exact h
  | compute => rw [htype] at h; exact h
  | draw => rw [htype] at h; exact h

/-- Waiting and presenting change nothing. -/
theorem Exec.of_not_writes {operation : RuntimeOperation} {m m' : Memory V}
    (h : Exec sem resources operation m m') (hwrites : operation.type.writes = false) :
    m' = m := by
  unfold Exec at h
  cases htype : operation.type with
  | sync => rw [htype] at h; exact h
  | present => rw [htype] at h; exact h
  | _ => rw [htype] at hwrites; cases hwrites

/-- A transfer into a known resource. -/
theorem exec_transfer_iff {operation : RuntimeOperation} {b : String} {rb : RuntimeResource}
    (htransfers : operation.type.transfers = true) (htarget : operation.target = some b)
    (hb : resources.get b = some rb) {m m' : Memory V} :
    Exec sem resources operation m m' ↔ ExecTransfer sem resources operation rb m m' := by
  have hbind : operation.target.bind resources.get = some rb := by rw [htarget]; exact hb
  unfold Exec
  rw [hbind]
  cases htype : operation.type with
  | copy => rfl
  | upload => rfl
  | _ => rw [htype] at htransfers; cases htransfers

theorem execTransfer_apart {operation : RuntimeOperation} {a : String}
    {ra rb : RuntimeResource} (hsource : operation.source = some a)
    (ha : resources.get a = some ra) (h : Apart ra rb) {m m' : Memory V} :
    ExecTransfer sem resources operation rb m m' ↔
      m' = sem.move ra rb operation.sizeMb operation.queue operation.frame m := by
  have hbind : operation.source.bind resources.get = some ra := by rw [hsource]; exact ha
  unfold ExecTransfer
  rw [hbind]
  simp only [if_pos h]

theorem execTransfer_not_apart {operation : RuntimeOperation} {a : String}
    {ra rb : RuntimeResource} (hsource : operation.source = some a)
    (ha : resources.get a = some ra) (h : ¬ Apart ra rb) {m m' : Memory V} :
    ExecTransfer sem resources operation rb m m' ↔ m' = m := by
  have hbind : operation.source.bind resources.get = some ra := by rw [hsource]; exact ha
  unfold ExecTransfer
  rw [hbind]
  simp only [if_neg h]

/-! ## The invariant -/

/-- A remembered transfer from a known source is between resources that are
apart, and executing it again would change nothing. -/
def CopiesHold (sem : TransferSemantics V) (s : RuntimeOptimizationState) (m : Memory V) : Prop :=
  ∀ t q a ra rb, s.lastCopyByTarget.lookup t = some q → q.source = some a →
    s.resources.get a = some ra → s.resources.get t = some rb →
    Apart ra rb ∧ sem.move ra rb q.sizeMb q.queue q.frame m = m

/-- **Every eliminated operation may be executed without changing anything.** -/
theorem exec_of_decided {s : RuntimeOptimizationState} {m : Memory V}
    {operation : RuntimeOperation} {decision : RuntimeDecision} (hvalid : s.Valid)
    (hcopies : CopiesHold sem s m) (h : Decided s operation decision) :
    Exec sem s.resources operation m m := by
  cases h with
  | @selfCopy id _ transfers source target known =>
      obtain ⟨r, hr⟩ := Option.ne_none_iff_exists'.mp known
      rw [exec_transfer_iff transfers target hr,
        execTransfer_not_apart source hr (fun h => h.1 rfl)]
  | aliased _ transfers source target hne ha hb shares =>
      rw [exec_transfer_iff transfers target hb,
        execTransfer_not_apart source ha (fun h => h.2 shares)]
  | repeated _ transfers source target hne ha hb apart copy same =>
      simp only [sameTransfer, Bool.and_eq_true, beq_iff_eq] at same
      obtain ⟨⟨⟨hsource, hsize⟩, hframe⟩, hqueue⟩ := same
      obtain ⟨hapart, hfixed⟩ := hcopies _ _ _ _ _ copy (hsource.trans source) ha hb
      rw [exec_transfer_iff transfers target hb, execTransfer_apart source ha hapart,
        ← hsize, ← hqueue, ← hframe]
      exact hfixed.symm
  | orphan _ sync => simp only [Exec, sync]
  | empty _ sync => simp only [Exec, sync]
  | reuse _ allocates buffer =>
      obtain ⟨t, ht, hreg⟩ := hvalid.bufferTarget buffer
      have htarget : operation.target = some t := ht
      obtain ⟨r, hr⟩ := Option.ne_none_iff_exists'.mp hreg
      have hbind : operation.target.bind s.resources.get = some r := by rw [htarget]; exact hr
      simp only [Exec, allocates, hbind]
      exact fun _ _ => rfl

/-- What is not decided is not a transfer within one piece of memory. -/
theorem apart_of_executed {casing : Casing} {s : RuntimeOptimizationState}
    {operation : RuntimeOperation} {a b : String} {ra rb : RuntimeResource}
    (h : decideOperation casing s operation = none)
    (htransfers : operation.type.transfers = true) (hsource : operation.source = some a)
    (htarget : operation.target = some b) (ha : s.resources.get a = some ra)
    (hb : s.resources.get b = some rb) : Apart ra rb := by
  have hdecide : decideTransfer s operation ra rb = none := by
    have hsbind : operation.source.bind s.resources.get = some ra := by rw [hsource]; exact ha
    have htbind : operation.target.bind s.resources.get = some rb := by rw [htarget]; exact hb
    unfold decideOperation at h
    rw [hsbind, htbind] at h
    cases htype : operation.type with
    | copy => rw [htype] at h; exact h
    | upload => rw [htype] at h; exact h
    | _ => rw [htype] at htransfers; cases htransfers
  unfold decideTransfer at hdecide
  split_ifs at hdecide with hself hshare
  refine ⟨?_, ?_⟩
  · intro hid
    refine hself ?_
    rw [hsource, htarget, ← s.resources.keyed a ra ha, ← s.resources.keyed b rb hb, hid]
  · intro hshares
    exact hshare ⟨hshares.1.symm, (aliasesMeet_iff hshares.1.symm).mpr (shares_symm hshares)⟩

/-- **An executed operation keeps the invariant**: what it may have changed is
no longer remembered, and the transfer it is itself would change nothing. -/
theorem CopiesHold.execute {casing : Casing} {s : RuntimeOptimizationState}
    {operation : RuntimeOperation} {m m' : Memory V}
    (hcopies : CopiesHold sem s m) (hchoice : decideOperation casing s operation = none)
    (hexec : Exec sem s.resources operation m m') :
    CopiesHold sem ((s.submitted operation).execute (s.rewritten operation)) m' := by
  intro t q a ra rb hcopy hqsource ha hb
  rw [RuntimeOptimizationState.execute_resources] at ha hb
  change s.resources.get a = some ra at ha
  change s.resources.get t = some rb at hb
  have hledger : ((s.submitted operation).execute (s.rewritten operation)).ledger.copy t =
      some q := hcopy
  rw [RuntimeOptimizationState.ledger_execute, Ledger.step_copy_iff] at hledger
  rcases hledger with ⟨hnew, -⟩ | ⟨hold, hends⟩
  · -- the transfer just executed
    unfold RuntimeOptimizationState.effect at hnew
    split_ifs at hnew with htransfers
    rw [Act.transfer.injEq] at hnew
    obtain ⟨htarget, rfl⟩ := hnew
    have hsource : operation.source = some a := hqsource
    have hapart : Apart ra rb := apart_of_executed hchoice htransfers hsource htarget ha hb
    have hmove : m' = sem.move ra rb operation.sizeMb operation.queue operation.frame m :=
      (execTransfer_apart hsource ha hapart).mp ((exec_transfer_iff htransfers htarget hb).mp hexec)
    refine ⟨hapart, ?_⟩
    rw [hmove]
    exact sem.idempotent _ _ _ _ _ m hapart
  · obtain ⟨hapart, hfixed⟩ := hcopies t q a ra rb hold hqsource ha hb
    refine ⟨hapart, ?_⟩
    -- an earlier transfer that this operation did not retire
    by_cases hwrites : operation.type.writes = true
    · have hwritten : (RuntimeOptimizationState.effect (s.rewritten operation)).written =
          some operation.target := by
        unfold RuntimeOptimizationState.effect
        split_ifs with htransfers hother
        · rfl
        · rfl
        · exact absurd hwrites hother
      have hkept : ¬ s.ledger.Retires machine operation.target t q :=
        fun hret => hends (Or.inl ⟨_, hwritten, hret⟩)
      obtain ⟨x, hx, hxreg⟩ : ∃ x, operation.target = some x ∧ s.ledger.res x ≠ none := by
        by_contra hnone
        refine hkept (Or.inl ?_)
        intro y hy
        by_contra hne
        exact hnone ⟨y, hy, hne⟩
      rw [hx, Ledger.retires_known machine _ hxreg] at hkept
      push Not at hkept
      obtain ⟨rx, hrx⟩ := Option.ne_none_iff_exists'.mp
        (mt RuntimeOptimizationState.ledger_res_eq_none.mpr hxreg)
      have hares : s.ledger.res a ≠ none := by
        rw [RuntimeOptimizationState.ledger_res, ha]
        simp
      have hxb := apart_of_not_linked hrx hb hkept.1
      have hxa := apart_of_not_linked hrx ha (hkept.2 a hqsource hares)
      have hframe := hexec.frame hx hrx
      have hsame : ∀ c, c ∈ ra.cells ∨ c ∈ rb.cells → m' c = m c := by
        intro c hc
        refine hframe c ?_
        intro hcx
        rcases hc with hc | hc
        · exact cells_disjoint hxa hcx hc
        · exact cells_disjoint hxb hcx hc
      funext c
      by_cases hc : c ∈ rb.cells
      · calc sem.move ra rb q.sizeMb q.queue q.frame m' c
            = sem.move ra rb q.sizeMb q.queue q.frame m c := sem.congr _ _ _ _ _ _ _ hsame c hc
          _ = m c := congrFun hfixed c
          _ = m' c := (hsame c (Or.inr hc)).symm
      · exact sem.frame _ _ _ _ _ m' c hc
    · rw [hexec.of_not_writes (by simpa using hwrites)]
      exact hfixed

/-! ## The whole manifest -/

/-- **The loop is sound** from every state in which the remembered transfers
hold. -/
theorem optimizeLoop_sound {casing : Casing} {s : RuntimeOptimizationState}
    {ops kept : List RuntimeOperation} {decisions : List RuntimeDecision} {m m' : Memory V}
    (hvalid : s.Valid) (hcopies : CopiesHold sem s m)
    (hloop : optimizeLoop casing s ops = .ok (kept, decisions))
    (hexec : ExecAll sem s.resources kept m m') : ExecAll sem s.resources ops m m' := by
  induction ops generalizing s m kept decisions with
  | nil =>
      obtain ⟨rfl, -⟩ := Prod.mk.inj (Except.ok.inj hloop)
      exact hexec
  | cons op rest ih =>
      unfold optimizeLoop at hloop
      by_cases hknown : op.id ∈ s.operationIds
      · rw [RuntimeOptimizationState.process_duplicate casing hknown] at hloop
        cases hloop
      have hnext := (s.process_spec casing op).valid hvalid
      cases hchoice : decideOperation casing s op with
      | some decision =>
          rw [RuntimeOptimizationState.process_eliminated casing hknown hchoice] at hloop hnext
          split at hloop
          · cases hloop
          rename_i hpair
          obtain ⟨hresult, rfl⟩ := Prod.mk.inj hpair
          obtain ⟨-, rfl⟩ := Prod.mk.inj (Except.ok.inj hresult)
          split at hloop
          · cases hloop
          rename_i kept' decisions' hrest
          obtain ⟨rfl, -⟩ := Prod.mk.inj (Except.ok.inj hloop)
          have hstay := exec_of_decided hvalid hcopies (decideOperation_spec casing hchoice)
          have hafter := ih hnext hcopies hrest hexec
          exact ⟨m, hstay, hafter⟩
      | none =>
          rw [RuntimeOptimizationState.process_executed casing hknown hchoice] at hloop hnext
          split at hloop
          · cases hloop
          rename_i hpair
          obtain ⟨hresult, rfl⟩ := Prod.mk.inj hpair
          obtain ⟨rfl, rfl⟩ := Prod.mk.inj (Except.ok.inj hresult)
          split at hloop
          · cases hloop
          rename_i kept' decisions' hrest
          obtain ⟨rfl, -⟩ := Prod.mk.inj (Except.ok.inj hloop)
          obtain ⟨next, hstep, hafter⟩ := hexec
          have hsame : ((s.submitted op).execute (s.rewritten op)).resources = s.resources :=
            RuntimeOptimizationState.execute_resources _ _
          have hcopies' := hcopies.execute hchoice hstep
          have hrest' := ih hnext hcopies' hrest (by rw [hsame]; exact hafter)
          rw [hsame] at hrest'
          exact ⟨next, hstep, hrest'⟩

/-- **The optimizer preserves the meaning of every manifest.**  With distinct
operation ids there is a plan, and every final memory reachable by its kept
operations is reachable by the original operations. -/
theorem optimizeManifest_sound {V : Type*} (sem : TransferSemantics V) (casing : Casing)
    (manifest : RuntimeManifest) (hids : (manifest.operations.map RuntimeOperation.id).Nodup) :
    ∃ plan, optimizeManifest casing manifest = .ok plan ∧
      ∀ m m' : Memory V, ExecAll sem manifest.resources plan.keptOperations m m' →
        ExecAll sem manifest.resources manifest.operations m m' := by
  have hfresh : ∀ q ∈ manifest.operations,
      q.id ∉ ({ resources := manifest.resources } : RuntimeOptimizationState).operationIds := by
    intro q _
    simp
  have hloop := optimizeLoop_eq casing hids hfresh
  obtain ⟨plan, hplan, hkept, -⟩ := optimizeManifest_eq casing hids
  refine ⟨plan, hplan, ?_⟩
  intro m m' hexec
  rw [hkept] at hexec
  have hempty : CopiesHold sem ({ resources := manifest.resources } : RuntimeOptimizationState) m := by
    intro t q a ra rb hcopy
    cases hcopy
  exact optimizeLoop_sound (RuntimeOptimizationState.valid_start manifest.resources) hempty hloop hexec

/-- A transfer that fills its target with the value of the source's own cell. -/
def fillTarget : TransferSemantics Nat where
  move a b _ _ _ m c := if c ∈ b.cells then m (.own a.id) else m c
  frame := by
    intro a b _ _ _ m c hc
    rw [if_neg hc]
  congr := by
    intro a b _ _ _ m m' hsame c hc
    rw [if_pos hc, if_pos hc]
    exact hsame _ (Or.inl List.mem_cons_self)
  idempotent := by
    intro a b _ _ _ m hapart
    have hown : Cell.own a.id ∉ b.cells := cells_disjoint hapart List.mem_cons_self
    funext c
    by_cases hc : c ∈ b.cells
    · simp only [if_pos hc, if_neg hown]
    · simp only [if_neg hc]

/-- Two identical copies and a draw in between that writes a third resource. -/
def copiesAroundDraw : RuntimeManifest where
  name := "copies-around-draw"
  resources := ((ResourceTable.empty.insert { id := "a" }).insert
    { id := "b", memory := .vram }).insert { id := "c", memory := .vram }
  operations :=
    [{ id := "first", type := .copy, source := some "a", target := some "b" },
     { id := "draw", type := .draw, target := some "c" },
     { id := "second", type := .copy, source := some "a", target := some "b" }]

theorem optimizeManifest_sound_copies_around_draw :
    ∃ plan, optimizeManifest .plain copiesAroundDraw = .ok plan ∧
      ∀ m m' : Memory Nat,
        ExecAll fillTarget copiesAroundDraw.resources plan.keptOperations m m' →
          ExecAll fillTarget copiesAroundDraw.resources copiesAroundDraw.operations m m' :=
  optimizeManifest_sound fillTarget .plain copiesAroundDraw (by decide)

end FluidGateway.Runtime
