import FluidGateway.ScheduleRuns

/-!
# The order of a schedule

Within a frame, the scheduler orders operations by what the lifetime plan
prefetches, by type and by name; it does not look at `depends_on`.  So an
operation comes after one that it depends on exactly when that order says so
(`sequence_lt_iff`).
-/

namespace FluidGateway.FramePlanning

open FluidGateway.Runtime (RuntimeOperation)
open Sequencing (numbered sortBy)

/-- The plan prefetches the operation. -/
def prefetched (plan : ResourceLifetimePlan) (operation : RuntimeOperation) : Prop :=
  ∃ action ∈ plan.actions, prefetchedOperation action = some operation.id

instance (plan : ResourceLifetimePlan) (operation : RuntimeOperation) :
    Decidable (prefetched plan operation) :=
  inferInstanceAs (Decidable (∃ action ∈ plan.actions, _ = _))

/-- Where an operation stands among the operations of its frame. -/
def scheduleOrder (plan : ResourceLifetimePlan) (operation : RuntimeOperation) :
    ℕ ×ₗ ℕ ×ₗ String :=
  if prefetched plan operation then toLex (0, toLex (0, operation.id))
  else toLex (1, operationSortKey operation)

theorem contains_prefetchTable {plan : ResourceLifetimePlan} {operation : RuntimeOperation} :
    (prefetchTable plan.actions).contains operation.id = true ↔ prefetched plan operation := by
  unfold prefetched prefetchTable
  induction plan.actions using List.reverseRecOn with
  | nil => simp [OrderedDict.contains, OrderedDict.get, OrderedDict.empty, OrderedDict.getItem]
  | append_singleton actions action ih =>
      rw [List.foldl_append, List.foldl_cons, List.foldl_nil]
      cases hname : prefetchedOperation action with
      | none => simp [ih, hname, or_and_right, exists_or]
      | some name =>
          simp only [OrderedDict.contains_set, ih, List.mem_append, List.mem_singleton,
            or_and_right, exists_or, exists_eq_left, hname, Option.some.injEq]
          exact or_comm

section

variable {operations : List RuntimeOperation} {frameTargetsMs frameCostsMs : OrderedDict ℤ ℚ}
  {plan : ResourceLifetimePlan} {tables : SchedulerTables}
  (htables : tables = schedulerTables operations frameTargetsMs frameCostsMs plan)
  (hdistinct : (operations.map RuntimeOperation.id).Nodup)

include htables

theorem prefetched_of_moved {frame : ℤ} {operation : RuntimeOperation}
    (h : operation ∈ tables.movedOperations frame) : prefetched plan operation := by
  have hmoved := (List.mem_filter.mp h).2
  rw [htables] at hmoved
  exact contains_prefetchTable.mp hmoved

theorem not_prefetched_of_critical {frame : ℤ} {operation : RuntimeOperation}
    (h : operation ∈ tables.criticalOperations frame) : ¬ prefetched plan operation := by
  intro hprefetched
  have hcritical := (List.mem_filter.mp h).2
  rw [htables] at hcritical
  have hmoved : (prefetchTable plan.actions).contains operation.id = true :=
    contains_prefetchTable.mpr hprefetched
  change (!(prefetchTable plan.actions).contains operation.id) = true at hcritical
  rw [hmoved] at hcritical
  exact absurd hcritical nofun

theorem mem_laidOperations {frame : ℤ} {operation : RuntimeOperation} :
    operation ∈ tables.laidOperations frame ↔
      operation ∈ operations ∧ operation.frame = some frame := by
  rw [(tables.laidOperations_perm frame).mem_iff, frameOperations_eq htables]
  simp

include hdistinct

/-- Operations of distinct names are laid out in their order. -/
theorem laidOperations_pairwise (frame : ℤ) :
    (tables.laidOperations frame).Pairwise fun operation later =>
      scheduleOrder plan operation < scheduleOrder plan later := by
  have hnames : ((tables.laidOperations frame).map RuntimeOperation.id).Nodup := by
    rw [((tables.laidOperations_perm frame).map _).nodup_iff, frameOperations_eq htables]
    exact hdistinct.sublist (List.filter_sublist.map _)
  unfold SchedulerTables.laidOperations at hnames ⊢
  rw [List.map_append, List.nodup_append] at hnames
  obtain ⟨hmoved, hcritical, -⟩ := hnames
  apply List.pairwise_append.mpr
  refine ⟨?_, ?_, ?_⟩
  · have hordered := (Sequencing.sortBy_ordered RuntimeOperation.id
      (tables.movedOperations frame)).and (List.pairwise_map.mp hmoved)
    apply hordered.imp_of_mem
    intro operation later hmem hlater hpair
    have hfirst := prefetched_of_moved htables ((Sequencing.sortBy_perm _ _).mem_iff.mp hmem)
    have hsecond := prefetched_of_moved htables ((Sequencing.sortBy_perm _ _).mem_iff.mp hlater)
    unfold scheduleOrder
    rw [if_pos hfirst, if_pos hsecond]
    have hlt : operation.id < later.id := lt_of_le_of_ne hpair.1 hpair.2
    simpa [Prod.Lex.toLex_lt_toLex] using hlt
  · have hordered := (Sequencing.sortBy_ordered operationSortKey
      (tables.criticalOperations frame)).and (List.pairwise_map.mp hcritical)
    apply hordered.imp_of_mem
    intro operation later hmem hlater hpair
    have hfirst := not_prefetched_of_critical htables
      ((Sequencing.sortBy_perm _ _).mem_iff.mp hmem)
    have hsecond := not_prefetched_of_critical htables
      ((Sequencing.sortBy_perm _ _).mem_iff.mp hlater)
    unfold scheduleOrder
    rw [if_neg hfirst, if_neg hsecond]
    have hne : operationSortKey operation ≠ operationSortKey later := by
      intro hkey
      exact hpair.2 (Prod.mk.inj (toLex_inj.mp hkey)).2
    simpa [Prod.Lex.toLex_lt_toLex] using lt_of_le_of_ne hpair.1 hne
  · intro operation hmem later hlater
    have hfirst := prefetched_of_moved htables ((Sequencing.sortBy_perm _ _).mem_iff.mp hmem)
    have hsecond := not_prefetched_of_critical htables
      ((Sequencing.sortBy_perm _ _).mem_iff.mp hlater)
    unfold scheduleOrder
    rw [if_pos hfirst, if_neg hsecond]
    simp [Prod.Lex.toLex_lt_toLex]

/-- A step of an operation is laid out in the frame of the operation. -/
theorem of_mem_frameSteps {frame : ℤ} {step : ScheduledStep} {operation : RuntimeOperation}
    (hstep : step ∈ tables.frameSteps frame) (hof : step.OfOperation operation)
    (hmem : operation ∈ operations) : operation.frame = some frame := by
  obtain hoperation | hrelease := List.mem_append.mp hstep
  · obtain ⟨other, hother, rfl⟩ := List.mem_map.mp hoperation
    obtain ⟨hin, hframe⟩ := (mem_laidOperations htables).mp hother
    obtain rfl := List.inj_on_of_nodup_map hdistinct hin hmem (operationStep_ofOperation.mp hof)
    exact hframe
  · obtain ⟨action, -, rfl⟩ := List.mem_map.mp hrelease
    exact absurd hof.1 nofun

theorem laid_pairwise :
    (tables.frameIds.flatMap tables.frameSteps).Pairwise fun step later =>
      ∀ operation ∈ operations, ∀ other ∈ operations, step.OfOperation operation →
        later.OfOperation other → operation.frame = other.frame →
          scheduleOrder plan operation < scheduleOrder plan other := by
  apply List.pairwise_flatMap.mpr
  refine ⟨?_, ?_⟩
  · intro frame _
    apply List.pairwise_append.mpr
    refine ⟨?_, ?_, ?_⟩
    · apply List.pairwise_map.mpr
      apply (laidOperations_pairwise htables hdistinct frame).imp_of_mem
      intro laid later hlaid hlater hlt operation hmem other hother hof hof' _
      obtain ⟨hin, -⟩ := (mem_laidOperations htables).mp hlaid
      obtain ⟨hin', -⟩ := (mem_laidOperations htables).mp hlater
      obtain rfl := List.inj_on_of_nodup_map hdistinct hin hmem (operationStep_ofOperation.mp hof)
      obtain rfl :=
        List.inj_on_of_nodup_map hdistinct hin' hother (operationStep_ofOperation.mp hof')
      exact hlt
    · apply List.pairwise_of_forall_mem_list
      intro step hstep later _ operation _ other _ hof
      obtain ⟨action, -, rfl⟩ := List.mem_map.mp hstep
      exact absurd hof.1 nofun
    · intro step _ later hlater operation _ other _ _ hof
      obtain ⟨action, -, rfl⟩ := List.mem_map.mp hlater
      exact absurd hof.1 nofun
  · apply SchedulerTables.frameIds_pairwise.imp
    intro frame frame' hlt step hstep later hlater operation hmem other hother hof hof' hsame
    have hframe := of_mem_frameSteps htables hdistinct hstep hof hmem
    have hframe' := of_mem_frameSteps htables hdistinct hlater hof' hother
    rw [hframe, hframe'] at hsame
    exact absurd (Option.some.inj hsame) hlt.ne

/-- A later step has a larger number, and its operation a later place in its frame. -/
theorem steps_pairwise :
    (simulateScheduler operations frameTargetsMs frameCostsMs plan).steps.Pairwise
      fun step later => step.sequence < later.sequence ∧
        ∀ operation ∈ operations, ∀ other ∈ operations, step.OfOperation operation →
          later.OfOperation other → operation.frame = other.frame →
            scheduleOrder plan operation < scheduleOrder plan other := by
  rw [steps_eq htables]
  apply (Sequencing.pairwise_numbered (laid_pairwise htables hdistinct)).imp
  intro step later hpair
  obtain ⟨i, laid, j, laid', rfl, rfl, hlt, hordered⟩ := hpair
  exact ⟨hlt, hordered⟩

end

/-- **The order of a schedule.** Of two operations of a frame, the one that the lifetime plan
prefetches has the smaller number; of two that it prefetches, the one with the smaller
name; of two others, the one with the smaller type and name. -/
theorem sequence_lt_iff {operations : List RuntimeOperation}
    (hdistinct : (operations.map RuntimeOperation.id).Nodup)
    {frameTargetsMs frameCostsMs : OrderedDict ℤ ℚ} {plan : ResourceLifetimePlan}
    {operation other : RuntimeOperation} (hmem : operation ∈ operations)
    (hother : other ∈ operations) (hframe : operation.frame = other.frame)
    {step later : ScheduledStep}
    (hstep : step ∈ (simulateScheduler operations frameTargetsMs frameCostsMs plan).steps)
    (hlater : later ∈ (simulateScheduler operations frameTargetsMs frameCostsMs plan).steps)
    (hof : step.OfOperation operation) (hof' : later.OfOperation other) :
    step.sequence < later.sequence ↔
      scheduleOrder plan operation < scheduleOrder plan other := by
  have hpairs := @steps_pairwise operations frameTargetsMs frameCostsMs plan _ rfl hdistinct
  by_cases hsame : step = later
  · have hid : operation.id = other.id :=
      Option.some.inj (hof.2.symm.trans ((congrArg ScheduledStep.operationId hsame).trans hof'.2))
    obtain rfl := List.inj_on_of_nodup_map hdistinct hmem hother hid
    rw [hsame]
    exact iff_of_false (lt_irrefl _) (lt_irrefl _)
  · obtain hforward | hbackward := Sequencing.pairwise_cases hpairs hstep hlater hsame
    · exact iff_of_true hforward.1 (hforward.2 _ hmem _ hother hof hof' hframe)
    · exact iff_of_false hbackward.1.not_gt
        (hbackward.2 _ hother _ hmem hof' hof hframe.symm).not_gt

/-! ## Dependencies -/

/-- Every operation comes after those of the list that it depends on. -/
def DependenciesFirst (operations : List RuntimeOperation) : Prop :=
  (operations.Pairwise fun earlier later => later.id ∉ earlier.dependsOn) ∧
    ∀ operation ∈ operations, operation.id ∉ operation.dependsOn

/-- No operation has a smaller number than one of its frame that it depends on. -/
def RespectsDependencies (operations : List RuntimeOperation) (steps : List ScheduledStep) :
    Prop :=
  ∀ operation ∈ operations, ∀ dependency ∈ operations, dependency.id ∈ operation.dependsOn →
    operation.frame = dependency.frame → ∀ step ∈ steps, ∀ earlier ∈ steps,
      step.OfOperation operation → earlier.OfOperation dependency →
        ¬ step.sequence < earlier.sequence

def clothSteps : List ScheduledStep :=
  [numberStep 1 (prefetchStep 1 uploadCloth (prefetchAction uploadCloth (some .vram))),
    numberStep 2 (criticalStep 1 simulateCloth)]

theorem clothSteps_eq :
    (simulateScheduler [simulateCloth, uploadCloth] .empty .empty clothPlan).steps =
      clothSteps := by
  decide +kernel

/-- The upload has the smaller number, as the order of the schedule has it. -/
theorem sequence_lt_iff_cloth :
    ∃ upload simulation : ScheduledStep,
      (simulateScheduler [simulateCloth, uploadCloth] .empty .empty clothPlan).steps =
        [upload, simulation] ∧
      upload.OfOperation uploadCloth ∧ simulation.OfOperation simulateCloth ∧
      (upload.sequence < simulation.sequence ↔
        scheduleOrder clothPlan uploadCloth < scheduleOrder clothPlan simulateCloth) ∧
      upload.sequence < simulation.sequence := by
  have hdistinct : ([simulateCloth, uploadCloth].map RuntimeOperation.id).Nodup := by decide
  have hsteps : ∀ step ∈ clothSteps, step ∈
      (simulateScheduler [simulateCloth, uploadCloth] .empty .empty clothPlan).steps := by
    rw [clothSteps_eq]
    exact fun _ h => h
  have hupload := hsteps _ List.mem_cons_self
  have hsimulate := hsteps _ (List.mem_cons_of_mem _ List.mem_cons_self)
  have hiff := @sequence_lt_iff _ hdistinct .empty .empty clothPlan uploadCloth simulateCloth
    (by simp) (by simp) rfl _ _ hupload hsimulate ⟨rfl, rfl⟩ ⟨rfl, rfl⟩
  exact ⟨_, _, clothSteps_eq, ⟨rfl, rfl⟩, ⟨rfl, rfl⟩, hiff, by decide⟩

/-- The upload is scheduled before the simulation that it depends on. -/
theorem upload_before_simulation :
    ¬ ∀ (operations : List RuntimeOperation) (frameTargetsMs frameCostsMs : OrderedDict ℤ ℚ)
      (plan : ResourceLifetimePlan), (operations.map RuntimeOperation.id).Nodup →
        DependenciesFirst operations →
        RespectsDependencies operations
          (simulateScheduler operations frameTargetsMs frameCostsMs plan).steps := by
  intro h
  have hfirst : DependenciesFirst [simulateCloth, uploadCloth] := by
    unfold DependenciesFirst
    decide
  have hrespects := h _ .empty .empty clothPlan (by decide) hfirst
  rw [clothSteps_eq] at hrespects
  exact hrespects uploadCloth (by simp) simulateCloth (by simp) (by decide) rfl _
    List.mem_cons_self _ (List.mem_cons_of_mem _ List.mem_cons_self) ⟨rfl, rfl⟩ ⟨rfl, rfl⟩
    (by decide)

end FluidGateway.FramePlanning
