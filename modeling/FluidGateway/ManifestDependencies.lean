import FluidGateway.ManifestRuns

/-!
# Dependency order in an optimized manifest

The plan rewrites the `depends_on` list of every kept operation, one level at a
time.  Here the rewritten lists are compared with the dependency chains of the
original manifest: no ordering between kept operations is lost, none is
invented, and no list names an operation twice.
-/

namespace FluidGateway.Runtime

open KeyedMap Resolution

/-- `d` is an original dependency of the operation `x` and precedes it in the
list. -/
def DependsOn (operations : List RuntimeOperation) (x d : String) : Prop :=
  ∃ before operation after, operations = before ++ operation :: after ∧ operation.id = x ∧
    d ∈ operation.dependsOn ∧ ∃ p ∈ before, p.id = d

/-- No operation depends on a later one. -/
def NoLaterDependency (operations : List RuntimeOperation) : Prop :=
  operations.Pairwise fun earlier later => later.id ∉ earlier.dependsOn

/-- No operation depends on itself. -/
def NoSelfDependency (operations : List RuntimeOperation) : Prop :=
  ∀ operation ∈ operations, operation.id ∉ operation.dependsOn

namespace RuntimePlan

def Keeps (plan : RuntimePlan) (id : String) : Prop :=
  ∃ operation ∈ plan.keptOperations, operation.id = id

def Eliminates (plan : RuntimePlan) (id : String) : Prop :=
  ∃ decision ∈ plan.decisions, decision.operationId = id

/-- A chain of original dependencies, each preceding its dependent, through
eliminated operations only. -/
inductive Ordered (plan : RuntimePlan) (operations : List RuntimeOperation) :
    String → String → Prop
  | last {x y : String} (h : DependsOn operations x y) : Ordered plan operations x y
  | through {x d y : String} (h : DependsOn operations x d) (gone : plan.Eliminates d)
      (rest : Ordered plan operations d y) : Ordered plan operations x y

end RuntimePlan

/-- `r` is the operation retained in place of the operation `x`. -/
def Replaced (casing : Casing) (manifest : RuntimeManifest) (x r : String) : Prop :=
  ∃ submission ∈ manifest.submissions casing, submission.operation.id = x ∧
    ∃ operation, submission.replacement casing = some operation ∧ operation.id = r

/-- A chain as in `Ordered` whose last step may also go to a name that is no
operation of the manifest, or from an eliminated operation to the one retained
in its place. -/
inductive RuntimePlan.Reaches (plan : RuntimePlan) (casing : Casing) (manifest : RuntimeManifest) :
    String → String → Prop
  | last {x y : String} (h : DependsOn manifest.operations x y) : Reaches plan casing manifest x y
  | unknown {x y : String} (h : ∃ p ∈ manifest.operations, p.id = x ∧ y ∈ p.dependsOn)
      (free : ∀ p ∈ manifest.operations, p.id ≠ y) : Reaches plan casing manifest x y
  | retained {x y : String} (gone : plan.Eliminates x) (h : Replaced casing manifest x y) :
      Reaches plan casing manifest x y
  | through {x d y : String} (h : DependsOn manifest.operations x d) (gone : plan.Eliminates d)
      (rest : Reaches plan casing manifest d y) : Reaches plan casing manifest x y

section Translation

variable {casing : Casing} {manifest : RuntimeManifest} {plan : RuntimePlan}

theorem entry_eliminated (x : Submission) :
    (x.entry casing).eliminated = true ↔ ∃ d, x.decision casing = some d := by
  rw [← Option.isSome_iff_exists]
  rfl

theorem log_ids (casing : Casing) (manifest : RuntimeManifest) :
    (manifest.log casing).map Entry.id =
      (manifest.operations.map RuntimeOperation.id).reverse := by
  unfold RuntimeManifest.log
  rw [← manifest.submissions_operations casing, List.map_reverse, List.map_map,
    List.map_map]
  rfl

/-- A split of the log is a split of the submissions. -/
theorem log_split {newer older : List (Entry String)} {e : Entry String}
    (h : manifest.log casing = newer ++ e :: older) :
    ∃ before x after, manifest.submissions casing = before ++ x :: after ∧
      older = (before.map (Submission.entry casing)).reverse ∧ e = x.entry casing ∧
      newer = (after.map (Submission.entry casing)).reverse := by
  unfold RuntimeManifest.log at h
  rw [← List.reverse_inj, List.reverse_reverse, List.reverse_append, List.reverse_cons,
    List.append_assoc, List.singleton_append] at h
  obtain ⟨before, rest, hsplit, hbefore, hrest⟩ := List.map_eq_append_iff.mp h
  obtain ⟨x, after, rfl, hx, hafter⟩ := List.map_eq_cons_iff.mp hrest
  exact ⟨before, x, after, hsplit, by rw [hbefore, List.reverse_reverse], hx.symm,
    by rw [hafter, List.reverse_reverse]⟩

theorem log_of_split {before after : List Submission} {x : Submission}
    (h : manifest.submissions casing = before ++ x :: after) :
    manifest.log casing = (after.map (Submission.entry casing)).reverse ++
      x.entry casing :: (before.map (Submission.entry casing)).reverse := by
  unfold RuntimeManifest.log
  rw [h, List.map_append, List.map_cons, List.reverse_append, List.reverse_cons,
    List.append_assoc, List.singleton_append]

theorem dependsOn_iff {x d : String} :
    Link (manifest.log casing) x d ↔ DependsOn manifest.operations x d := by
  constructor
  · intro h
    obtain ⟨newer, e, older, hlog, hid, hdep, p, hp, hpd⟩ := h
    obtain ⟨before, y, after, hsplit, rfl, rfl, rfl⟩ := log_split hlog
    obtain ⟨q, hq, rfl⟩ := List.mem_map.mp (List.mem_reverse.mp hp)
    have hops := congrArg (List.map Submission.operation) hsplit
    rw [manifest.submissions_operations casing, List.map_append, List.map_cons] at hops
    exact ⟨_, y.operation, _, hops, hid, hdep, q.operation, List.mem_map_of_mem hq, hpd⟩
  · intro h
    obtain ⟨before, operation, after, hops, hid, hdep, p, hp, hpd⟩ := h
    rw [← manifest.submissions_operations casing] at hops
    obtain ⟨first, rest, hsplit, rfl, hrest⟩ := List.map_eq_append_iff.mp hops
    obtain ⟨y, last, rfl, rfl, rfl⟩ := List.map_eq_cons_iff.mp hrest
    obtain ⟨q, hq, rfl⟩ := List.mem_map.mp hp
    exact ⟨_, y.entry casing, _, log_of_split hsplit, hid, hdep, q.entry casing,
      List.mem_reverse.mpr (List.mem_map_of_mem hq), hpd⟩

/-- The eliminated names of the log are those the plan has a decision for. -/
theorem eliminates_iff
    (hdecisions : plan.decisions =
      (manifest.submissions casing).filterMap (Submission.decision casing)) {id : String} :
    eliminatedIn (manifest.log casing) id = true ↔ plan.Eliminates id := by
  rw [eliminatedIn_iff]
  unfold RuntimePlan.Eliminates RuntimeManifest.log
  rw [hdecisions]
  constructor
  · intro h
    obtain ⟨e, he, hid, hgone⟩ := h
    obtain ⟨x, hx, rfl⟩ := List.mem_map.mp (List.mem_reverse.mp he)
    obtain ⟨d, hd⟩ := (entry_eliminated x).mp hgone
    exact ⟨d, List.mem_filterMap.mpr ⟨x, hx, hd⟩, (decideOperation_id hd).trans hid⟩
  · intro h
    obtain ⟨d, hd, hid⟩ := h
    obtain ⟨x, hx, hxd⟩ := List.mem_filterMap.mp hd
    exact ⟨x.entry casing, List.mem_reverse.mpr (List.mem_map_of_mem hx),
      (decideOperation_id hxd).symm.trans hid, (entry_eliminated x).mpr ⟨d, hxd⟩⟩

theorem chain_of_ordered
    (helim : ∀ id, eliminatedIn (manifest.log casing) id = true ↔ plan.Eliminates id)
    {x y : String} (h : plan.Ordered manifest.operations x y) :
    Chain (manifest.log casing) x y := by
  induction h with
  | last h => exact .last (dependsOn_iff.mpr h)
  | through h gone _ ih => exact .through (dependsOn_iff.mpr h) ((helim _).mpr gone) ih

theorem reaches_of_log
    (helim : ∀ id, eliminatedIn (manifest.log casing) id = true ↔ plan.Eliminates id)
    {x y : String} (h : Resolution.Reaches (manifest.log casing) x y) :
    plan.Reaches casing manifest x y := by
  have hmem : ∀ e ∈ manifest.log casing, ∃ s ∈ manifest.submissions casing,
      s.entry casing = e := by
    intro e he
    exact List.mem_map.mp (List.mem_reverse.mp he)
  have hsub : ∀ p ∈ manifest.operations, ∃ s ∈ manifest.submissions casing,
      s.operation = p := by
    intro p hp
    rw [← manifest.submissions_operations casing] at hp
    exact List.mem_map.mp hp
  have hops : ∀ s ∈ manifest.submissions casing, s.operation ∈ manifest.operations := by
    intro s hs
    rw [← manifest.submissions_operations casing]
    exact List.mem_map_of_mem hs
  induction h with
  | last h => exact .last (dependsOn_iff.mp h)
  | unknown h free =>
      obtain ⟨e, he, hid, hdep⟩ := h
      obtain ⟨s, hs, rfl⟩ := hmem e he
      refine .unknown ⟨s.operation, hops s hs, hid, hdep⟩ ?_
      intro p hp
      obtain ⟨q, hq, rfl⟩ := hsub p hp
      exact free (q.entry casing) (List.mem_reverse.mpr (List.mem_map_of_mem hq))
  | @retained x y h =>
      obtain ⟨e, he, hid, hgone, hr⟩ := h
      obtain ⟨s, hs, rfl⟩ := hmem e he
      have hreplaced : ∃ operation, s.replacement casing = some operation ∧ operation.id = y := by
        rw [← Option.map_eq_some_iff]
        unfold Submission.replacement
        rw [Option.map_bind]
        exact hr
      refine .retained ((helim _).mp (eliminatedIn_iff.mpr ⟨_, he, hid, hgone⟩)) ⟨s, hs, hid, ?_⟩
      exact hreplaced
  | through h gone _ ih => exact .through (dependsOn_iff.mp h) ((helim _).mp gone) ih

/-- What the plan says about a kept operation, in terms of the log. -/
theorem kept_dependencies (hids : (manifest.operations.map RuntimeOperation.id).Nodup)
    {k : RuntimeOperation}
    (hk : k ∈ (manifest.submissions casing).filterMap (Submission.kept casing)) :
    ∃ newer e older, manifest.log casing = newer ++ e :: older ∧ e.id = k.id ∧
      k.dependsOn.Nodup ∧
      ∀ y, y ∈ k.dependsOn ↔ y ∈ e.dependencies.flatMap (standsFor older) := by
  obtain ⟨x, hx, hkept⟩ := List.mem_filterMap.mp hk
  obtain ⟨before, after, hsplit⟩ := List.append_of_mem hx
  obtain ⟨-, hlogged, -⟩ := manifest.submission_logged hids hsplit
  have hrewritten : k = x.state.rewritten x.operation := by
    unfold Submission.kept at hkept
    split at hkept
    · cases hkept
    · exact (Option.some.inj hkept).symm
  have hdeps : k.dependsOn =
      firsts (x.operation.dependsOn.flatMap (Resolution.expand x.state.table)) := by
    rw [hrewritten]
    exact hlogged.dependencies_eq x.operation
  refine ⟨_, x.entry casing, _, log_of_split hsplit, by rw [hrewritten]; rfl, ?_, ?_⟩
  · rw [hdeps]
    exact nodup_firsts _
  · intro y
    rw [hdeps, mem_firsts, List.mem_flatMap, List.mem_flatMap]
    simp only [hlogged.agrees.mem_expand]
    rfl

/-- What is retained in the place of an operation is not eliminated. -/
theorem retained_live (hids : (manifest.operations.map RuntimeOperation.id).Nodup) :
    ∀ e ∈ manifest.log casing, ∀ r, e.retained = some r →
      eliminatedIn (manifest.log casing) r = false := by
  intro e he r hr
  obtain ⟨newer, older, hlog⟩ := List.append_of_mem he
  obtain ⟨before, x, after, hsplit, hbefore, rfl, -⟩ := log_split hlog
  obtain ⟨-, hlogged, -⟩ := manifest.submission_logged hids hsplit
  obtain ⟨op, hop, rfl⟩ : ∃ op, x.replacement casing = some op ∧ op.id = r := by
    rw [← Option.map_eq_some_iff]
    unfold Submission.replacement
    rw [Option.map_bind]
    exact hr
  obtain ⟨decision, -, hretained⟩ := Option.bind_eq_some_iff.mp hop
  obtain ⟨d, hd, hdr, hlive⟩ :=
    hlogged.mem_of_executed (hlogged.retained_executed hretained)
  -- ids are distinct, so the executed entry is the only one of its name
  have hnodup : ((manifest.log casing).map Entry.id).Nodup := by
    rw [log_ids, List.nodup_reverse]
    exact hids
  have hdlog : d ∈ manifest.log casing := by
    rw [hlog, hbefore]
    exact List.mem_append_right _ (List.mem_cons_of_mem _ hd)
  rw [← Bool.not_eq_true]
  intro hbad
  obtain ⟨q, hq, hqr, hqgone⟩ := eliminatedIn_iff.mp hbad
  have hsame : q = d := List.inj_on_of_nodup_map hnodup hq hdlog (hqr.trans hdr.symm)
  rw [hsame, hlive] at hqgone
  cases hqgone

theorem earlier_of_pairwise (hlater : NoLaterDependency manifest.operations)
    (hself : NoSelfDependency manifest.operations) :
    ∀ newer e older, manifest.log casing = newer ++ e :: older →
      ∀ d ∈ e.dependencies, d ≠ e.id ∧ ∀ q ∈ newer, q.id ≠ d := by
  intro newer e older hlog d hd
  obtain ⟨before, x, after, hsplit, -, rfl, rfl⟩ := log_split hlog
  have hops := congrArg (List.map Submission.operation) hsplit
  rw [manifest.submissions_operations casing, List.map_append, List.map_cons] at hops
  refine ⟨?_, ?_⟩
  · intro heq
    have hmem : x.operation ∈ manifest.operations := by rw [hops]; simp
    have hdep : x.operation.id ∈ x.operation.dependsOn := by
      have hid : d = x.operation.id := heq
      exact hid ▸ hd
    exact hself x.operation hmem hdep
  · intro q hq heq
    obtain ⟨y, hy, rfl⟩ := List.mem_map.mp (List.mem_reverse.mp hq)
    unfold NoLaterDependency at hlater
    rw [hops, List.pairwise_append, List.pairwise_cons] at hlater
    have hid : y.operation.id = d := heq
    exact hlater.2.1.1 y.operation (List.mem_map_of_mem hy) (hid ▸ hd)

end Translation

/-- **The plan keeps the dependency order of the kept operations.**  For every
manifest with distinct operation ids there is a plan; every chain of original
dependencies through eliminated operations from one kept operation to another
is an entry of the rewritten list; no list has repetitions; and when no
operation depends on itself or on a later one, the lists name no eliminated
operation and nothing that such a chain does not reach. -/
theorem plan_dependencies (casing : Casing) (manifest : RuntimeManifest)
    (hids : (manifest.operations.map RuntimeOperation.id).Nodup) :
    ∃ plan, optimizeManifest casing manifest = .ok plan ∧
      (∀ k ∈ plan.keptOperations, ∀ y, plan.Keeps y →
        plan.Ordered manifest.operations k.id y → y ∈ k.dependsOn) ∧
      (∀ k ∈ plan.keptOperations, k.dependsOn.Nodup) ∧
      (NoLaterDependency manifest.operations → NoSelfDependency manifest.operations →
        ∀ k ∈ plan.keptOperations, ∀ y ∈ k.dependsOn,
          ¬ plan.Eliminates y ∧ plan.Reaches casing manifest k.id y) := by
  obtain ⟨plan, hplan, hkept, hdecisions⟩ := optimizeManifest_eq casing hids
  have helim : ∀ id, eliminatedIn (manifest.log casing) id = true ↔ plan.Eliminates id :=
    fun id => eliminates_iff hdecisions
  have hnodup : ((manifest.log casing).map Entry.id).Nodup := by
    rw [log_ids, List.nodup_reverse]
    exact hids
  refine ⟨plan, hplan, ?_, ?_, ?_⟩
  · intro k hk y hy hchain
    rw [hkept] at hk
    obtain ⟨newer, e, older, hlog, hid, -, hmem⟩ := kept_dependencies hids hk
    have hlive : eliminatedIn (manifest.log casing) y = false := by
      -- a kept operation has no decision, and ids are distinct
      rw [← Bool.not_eq_true]
      intro hbad
      obtain ⟨q, hq, hqy⟩ := hy
      rw [hkept] at hq
      obtain ⟨x, hx, hxq⟩ := List.mem_filterMap.mp hq
      obtain ⟨e', he', hey, hgone⟩ := eliminatedIn_iff.mp hbad
      have hxid : (x.entry casing).id = q.id := by
        unfold Submission.kept at hxq
        split at hxq
        · cases hxq
        · rw [← Option.some.inj hxq]
          rfl
      have hxlog : x.entry casing ∈ manifest.log casing :=
        List.mem_reverse.mpr (List.mem_map_of_mem hx)
      have hsame : e' = x.entry casing :=
        List.inj_on_of_nodup_map hnodup he' hxlog (hey.trans (hqy.symm.trans hxid.symm))
      rw [hsame] at hgone
      obtain ⟨d, hd⟩ := (entry_eliminated x).mp hgone
      simp [Submission.kept, hd] at hxq
    rw [hmem]
    exact mem_of_chain hnodup (chain_of_ordered helim hchain) hlive hlog hid
  · intro k hk
    rw [hkept] at hk
    obtain ⟨-, -, -, -, -, hnodups, -⟩ := kept_dependencies hids hk
    exact hnodups
  · intro hlater hself k hk y hy
    rw [hkept] at hk
    obtain ⟨newer, e, older, hlog, hid, -, hmem⟩ := kept_dependencies hids hk
    obtain ⟨hlive, hreach⟩ := reaches_of_mem hnodup (earlier_of_pairwise hlater hself)
      (retained_live hids) hlog ((hmem y).mp hy)
    refine ⟨?_, hid ▸ reaches_of_log helim hreach⟩
    rw [← helim y, hlive]
    exact Bool.false_ne_true

/-- A copy of a resource onto itself that waits for one name. -/
def selfCopy (id dependency : String) : RuntimeOperation :=
  { id, type := .copy, source := some "r", target := some "r", dependsOn := [dependency] }

/-- One resource; a self copy that waits for itself, a self copy that waits for
an unknown name, and an operation that waits for both. -/
def selfWaiting : RuntimeManifest where
  name := "self-waiting"
  resources := ResourceTable.empty.insert { id := "r" }
  operations :=
    [selfCopy "loop" "loop", selfCopy "lost" "ghost",
     { id := "last", type := .compute, target := some "r", dependsOn := ["loop", "lost"] }]

/-- The end of a chain is an operation of the manifest. -/
theorem RuntimePlan.Ordered.mem {plan : RuntimePlan} {operations : List RuntimeOperation}
    {x y : String} (h : plan.Ordered operations x y) : ∃ p ∈ operations, p.id = y := by
  induction h with
  | last h =>
      obtain ⟨before, operation, after, rfl, -, -, p, hp, hid⟩ := h
      exact ⟨p, List.mem_append_left _ hp, hid⟩
  | through _ _ _ ih => exact ih

/-- An eliminated operation that depends on itself stays in the lists of the
operations that wait for it, and so does a name that is no operation. -/
theorem self_dependency_survives :
    (selfWaiting.operations.map RuntimeOperation.id).Nodup ∧
      NoLaterDependency selfWaiting.operations ∧
      ∃ plan, optimizeManifest .plain selfWaiting = .ok plan ∧
        ∃ k ∈ plan.keptOperations, k.id = "last" ∧ "loop" ∈ k.dependsOn ∧
          plan.Eliminates "loop" ∧ "ghost" ∈ k.dependsOn ∧
          ¬ plan.Ordered selfWaiting.operations "last" "ghost" := by
  have hids : (selfWaiting.operations.map RuntimeOperation.id).Nodup := by decide
  obtain ⟨plan, hplan, hkept, hdecisions⟩ := optimizeManifest_eq .plain hids
  refine ⟨hids, by unfold NoLaterDependency; decide, plan, hplan,
    { id := "last", type := .compute, target := some "r", dependsOn := ["loop", "ghost"] },
    ?_, rfl, by decide, ?_, by decide, ?_⟩
  · rw [hkept]
    decide
  · refine ⟨remove (selfCopy "loop" "loop") .eliminateSelfCopy
      "Source and target are the same resource; the transfer does no useful movement." 0 0,
      ?_, rfl⟩
    rw [hdecisions]
    decide
  · intro h
    obtain ⟨p, hp, hid⟩ := h.mem
    revert p
    decide

/-- Two identical copies, then a wait for the second: a manifest without self
or later dependencies. -/
def repeatedCopies : RuntimeManifest where
  name := "repeated-copies"
  resources := (ResourceTable.empty.insert { id := "a" }).insert { id := "b", memory := .vram }
  operations :=
    [{ id := "first", type := .copy, source := some "a", target := some "b", sizeMb := 1 },
     { id := "second", type := .copy, source := some "a", target := some "b", sizeMb := 1 },
     { id := "wait", type := .sync, costMs := 1, dependsOn := ["second"] }]

theorem plan_dependencies_repeated_copies :
    ∃ plan, optimizeManifest .plain repeatedCopies = .ok plan ∧
      ∀ k ∈ plan.keptOperations, ∀ y ∈ k.dependsOn,
        ¬ plan.Eliminates y ∧ plan.Reaches .plain repeatedCopies k.id y := by
  obtain ⟨plan, hplan, -, -, hlists⟩ := plan_dependencies .plain repeatedCopies (by decide)
  exact ⟨plan, hplan, hlists (by unfold NoLaterDependency; decide)
    (by unfold NoSelfDependency; decide)⟩

end FluidGateway.Runtime
