import FluidGateway.OptimizerLog

/-!
# Optimizing a manifest, one submission at a time

`optimize_manifest` submits the operations of a manifest in order.  Here the
loop is unfolded into the list of its submissions, each with the state it was
made in, and every such state is valid and in agreement with the log of the
submissions before it.
-/

namespace FluidGateway.Runtime

open KeyedMap Resolution

variable (casing : Casing)

/-- One operation, with the state in which it was submitted. -/
structure Submission where
  state : RuntimeOptimizationState
  operation : RuntimeOperation

namespace Submission

def decision (x : Submission) : Option RuntimeDecision :=
  decideOperation casing x.state x.operation

/-- The operation as it appears in the plan, if it is kept. -/
def kept (x : Submission) : Option RuntimeOperation :=
  match x.decision casing with
  | some _ => none
  | none => some (x.state.rewritten x.operation)

def entry (x : Submission) : Entry String :=
  x.state.entry casing x.operation

/-- The operation retained in place of the submitted one. -/
def replacement (x : Submission) : Option RuntimeOperation :=
  (x.decision casing).bind fun d => x.state.retained x.operation d.policy

end Submission

/-- The submissions of a list of operations. -/
def submissions (s : RuntimeOptimizationState) : List RuntimeOperation → List Submission
  | [] => []
  | operation :: rest => ⟨s, operation⟩ :: submissions (s.process casing operation).2 rest

theorem submissions_operations (s : RuntimeOptimizationState) (ops : List RuntimeOperation) :
    (submissions casing s ops).map Submission.operation = ops := by
  induction ops generalizing s with
  | nil => rfl
  | cons op rest ih => simp [submissions, ih]

/-- An accepted operation becomes known, and nothing else does. -/
theorem process_operationIds {s : RuntimeOptimizationState} {operation : RuntimeOperation}
    (hfresh : operation.id ∉ s.operationIds) :
    (s.process casing operation).2.operationIds = insert operation.id s.operationIds := by
  have hspec := s.process_spec casing operation
  generalize s.process casing operation = result at hspec ⊢
  obtain ⟨out, s'⟩ := result
  cases hspec with
  | duplicate known => exact absurd known hfresh
  | eliminated => rfl
  | executed =>
      exact (RuntimeOptimizationState.names_eq
        (RuntimeOptimizationState.execute_names (s.submitted operation) _)).2.2

/-- The result of an accepted operation. -/
theorem process_accepted {s : RuntimeOptimizationState} {operation : RuntimeOperation}
    (hfresh : operation.id ∉ s.operationIds) :
    (s.process casing operation).1 =
      .ok (s.rewritten operation, decideOperation casing s operation) := by
  have hspec := s.process_spec casing operation
  generalize s.process casing operation = result at hspec ⊢
  obtain ⟨out, s'⟩ := result
  cases hspec with
  | duplicate known => exact absurd known hfresh
  | eliminated _ decision choice => rw [choice]
  | executed _ choice => rw [choice]

/-- Distinct operations stay fresh until they are submitted. -/
theorem fresh_after {s : RuntimeOptimizationState} {op : RuntimeOperation}
    {rest : List RuntimeOperation} (hnodup : ((op :: rest).map RuntimeOperation.id).Nodup)
    (hfresh : ∀ q ∈ op :: rest, q.id ∉ s.operationIds) :
    ∀ q ∈ rest, q.id ∉ (s.process casing op).2.operationIds := by
  rw [List.map_cons, List.nodup_cons] at hnodup
  intro q hq hmem
  rw [process_operationIds casing (hfresh op List.mem_cons_self), Finset.mem_insert] at hmem
  rcases hmem with heq | hold
  · exact hnodup.1 (heq ▸ List.mem_map_of_mem hq)
  · exact hfresh q (List.mem_cons_of_mem _ hq) hold

/-- **With distinct ids the loop never fails**, and its result is read off the
submissions. -/
theorem optimizeLoop_eq {s : RuntimeOptimizationState} {ops : List RuntimeOperation}
    (hnodup : (ops.map RuntimeOperation.id).Nodup) (hfresh : ∀ q ∈ ops, q.id ∉ s.operationIds) :
    optimizeLoop casing s ops =
      .ok ((submissions casing s ops).filterMap (Submission.kept casing),
        (submissions casing s ops).filterMap (Submission.decision casing)) := by
  induction ops generalizing s with
  | nil => rfl
  | cons op rest ih =>
      have hnext := ih (List.nodup_cons.mp hnodup).2 (fresh_after casing hnodup hfresh)
      have haccepted := process_accepted casing (hfresh op List.mem_cons_self)
      unfold optimizeLoop submissions
      generalize hresult : s.process casing op = result at haccepted hnext ⊢
      obtain ⟨out, s'⟩ := result
      obtain rfl : out = _ := haccepted
      dsimp only at hnext ⊢
      rw [hnext]
      cases hd : decideOperation casing s op with
      | none =>
          simp [Submission.kept, Submission.decision, hd]
      | some decision =>
          simp [Submission.kept, Submission.decision, hd]

/-- **The state of every submission** is valid, in agreement with the log of
the submissions before it, and has not seen the operation yet. -/
theorem submissions_logged {s : RuntimeOptimizationState} {ops : List RuntimeOperation}
    {log : List (Entry String)} (hvalid : s.Valid) (hlog : s.Logged log)
    (hnodup : (ops.map RuntimeOperation.id).Nodup) (hfresh : ∀ q ∈ ops, q.id ∉ s.operationIds)
    {before after : List Submission} {x : Submission}
    (hsplit : submissions casing s ops = before ++ x :: after) :
    x.state.Valid ∧ x.state.Logged ((before.map (Submission.entry casing)).reverse ++ log) ∧
      x.operation.id ∉ x.state.operationIds := by
  induction ops generalizing s log before with
  | nil => simp [submissions] at hsplit
  | cons op rest ih =>
      have hspec := s.process_spec casing op
      have haccepted := process_accepted casing (hfresh op List.mem_cons_self)
      rw [haccepted] at hspec
      cases before with
      | nil =>
          rw [submissions, List.nil_append, List.cons.injEq] at hsplit
          rw [← hsplit.1]
          exact ⟨hvalid, hlog, hfresh op List.mem_cons_self⟩
      | cons y before =>
          rw [submissions, List.cons_append, List.cons.injEq] at hsplit
          have hnext := ih (hspec.valid hvalid) (hspec.logged hlog) (List.nodup_cons.mp hnodup).2
            (fresh_after casing hnodup hfresh) hsplit.2
          rw [← hsplit.1, List.map_cons, List.reverse_cons, List.append_assoc]
          exact hnext

variable {casing}

/-- The decision names the operation it is about. -/
theorem decideOperation_id {s : RuntimeOptimizationState} {operation : RuntimeOperation}
    {decision : RuntimeDecision} (h : decideOperation casing s operation = some decision) :
    decision.operationId = operation.id := by
  have htransfer : ∀ ra rb, decideTransfer s operation ra rb = some decision →
      decision.operationId = operation.id := by
    intro ra rb h
    unfold decideTransfer at h
    split_ifs at h <;> exact (Option.some.inj h) ▸ rfl
  unfold decideOperation at h
  cases htype : operation.type with
  | copy =>
      rw [htype] at h
      dsimp only at h
      split at h
      · exact htransfer _ _ h
      · cases h
  | upload =>
      rw [htype] at h
      dsimp only at h
      split at h
      · exact htransfer _ _ h
      · cases h
  | sync =>
      rw [htype] at h
      dsimp only [decideSync] at h
      split_ifs at h <;> exact (Option.some.inj h) ▸ rfl
  | allocate =>
      rw [htype] at h
      dsimp only [decideAllocate] at h
      split_ifs at h
      exact (Option.some.inj h) ▸ rfl
  | present => rw [htype] at h; cases h
  | compute => rw [htype] at h; cases h
  | draw => rw [htype] at h; cases h

/-- The submissions of a manifest. -/
def RuntimeManifest.submissions (casing : Casing) (manifest : RuntimeManifest) :
    List Submission :=
  Runtime.submissions casing { resources := manifest.resources } manifest.operations

/-- **A manifest with distinct operation ids always has a plan.** -/
theorem optimizeManifest_eq (casing : Casing) {manifest : RuntimeManifest}
    (hids : (manifest.operations.map RuntimeOperation.id).Nodup) :
    ∃ plan, optimizeManifest casing manifest = .ok plan ∧
      plan.keptOperations = (manifest.submissions casing).filterMap (Submission.kept casing) ∧
      plan.decisions = (manifest.submissions casing).filterMap (Submission.decision casing) := by
  have hfresh : ∀ q ∈ manifest.operations,
      q.id ∉ ({ resources := manifest.resources } : RuntimeOptimizationState).operationIds := by
    intro q _
    simp
  have hloop := optimizeLoop_eq casing hids hfresh
  unfold optimizeManifest
  rw [hloop]
  exact ⟨_, rfl, rfl, rfl⟩

/-- The log of a whole manifest, the latest entry first. -/
def RuntimeManifest.log (casing : Casing) (manifest : RuntimeManifest) : List (Entry String) :=
  ((manifest.submissions casing).map (Submission.entry casing)).reverse

theorem RuntimeManifest.submission_logged {manifest : RuntimeManifest}
    (hids : (manifest.operations.map RuntimeOperation.id).Nodup)
    {before after : List Submission} {x : Submission}
    (hsplit : manifest.submissions casing = before ++ x :: after) :
    x.state.Valid ∧ x.state.Logged (before.map (Submission.entry casing)).reverse ∧
      x.operation.id ∉ x.state.operationIds := by
  have h := submissions_logged casing (RuntimeOptimizationState.valid_start manifest.resources)
    (RuntimeOptimizationState.logged_start manifest.resources) hids (by intro q _; simp) hsplit
  rwa [List.append_nil] at h

theorem RuntimeManifest.submissions_operations (casing : Casing) (manifest : RuntimeManifest) :
    (manifest.submissions casing).map Submission.operation = manifest.operations :=
  Runtime.submissions_operations casing _ _

end FluidGateway.Runtime
