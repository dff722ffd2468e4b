import FluidGateway.FrameScheduler
import FluidGateway.LifetimeRuns

/-!
# Schedules

The steps of a schedule are laid out frame by frame and numbered from 1
(`run_eq`); what is laid out for a frame is its operations in their order, and
then its releases (`frameSteps_eq`).  Everything said of a schedule follows from
these two.
-/

namespace FluidGateway.FramePlanning

open FluidGateway.Runtime (RuntimeOperation)
open Sequencing (groupBy numbered sortBy)

/-! ## The steps of a frame -/

/-- The number of a step is set when it is added. -/
def numberStep (sequence : Nat) (step : ScheduledStep) : ScheduledStep :=
  { step with sequence }

namespace SchedulerTables

variable (tables : SchedulerTables)

/-- The step of an operation, prefetched or not. -/
def operationStep (frame : ℤ) (operation : RuntimeOperation) : ScheduledStep :=
  match tables.prefetchActions.get operation.id with
  | some action => prefetchStep frame operation action
  | none => criticalStep frame operation

/-- The operations of a frame in the order of their steps. -/
def laidOperations (frame : ℤ) : List RuntimeOperation :=
  sortBy RuntimeOperation.id (tables.movedOperations frame) ++
    sortBy operationSortKey (tables.criticalOperations frame)

/-- The cleanup steps of a frame: the strongest release first, then by the resource. -/
def releaseSteps (frame : ℤ) : List ScheduledStep :=
  (sortBy (fun action => (toLex (-action.priority, action.resourceId) : ℤ ×ₗ String))
    (tables.releaseActions frame)).map (cleanupStep frame)

/-- The steps of a frame, without their numbers. -/
def frameSteps (frame : ℤ) : List ScheduledStep :=
  (tables.laidOperations frame).map (tables.operationStep frame) ++ tables.releaseSteps frame

end SchedulerTables

/-- The steps laid out so far are numbered, and the counter is at the next number. -/
structure SchedulerState.Numbers (state : SchedulerState) (laid : List ScheduledStep) : Prop where
  steps : state.steps = numbered numberStep laid
  sequence : state.sequence = laid.length + 1

namespace SchedulerState.Numbers

variable {state : SchedulerState} {laid : List ScheduledStep}

/-- A step that is added is numbered next. -/
theorem addStep (h : state.Numbers laid) (step : ScheduledStep) :
    (state.addStep step).Numbers (laid ++ [step]) := by
  refine ⟨?_, ?_⟩
  · rw [Sequencing.numbered_concat, ← h.steps, ← h.sequence]
    rfl
  · change state.sequence + 1 = _
    rw [h.sequence, List.length_append, List.length_singleton]

/-- A loop that adds one step for each item. -/
theorem foldl {α : Type} {add : SchedulerState → α → SchedulerState} {step : α → ScheduledStep}
    (h : state.Numbers laid) {items : List α}
    (hadd : ∀ item ∈ items, ∀ state, add state item = state.addStep (step item)) :
    (items.foldl add state).Numbers (laid ++ items.map step) := by
  induction items generalizing state laid with
  | nil => rw [List.map_nil, List.append_nil]; exact h
  | cons item items ih =>
      rw [List.foldl_cons, hadd item List.mem_cons_self, List.map_cons, List.append_cons]
      apply ih (h.addStep (step item))
      intro other hother
      exact hadd other (List.mem_cons_of_mem item hother)

end SchedulerState.Numbers

namespace SchedulerTables

variable {tables : SchedulerTables} {frame : ℤ}

/-- An operation that is moved has a prefetch action, and its step is the prefetch. -/
theorem operationStep_of_moved {operation : RuntimeOperation}
    (h : operation ∈ tables.movedOperations frame) :
    ∃ action, tables.prefetchActions.get operation.id = some action ∧
      tables.operationStep frame operation = prefetchStep frame operation action := by
  obtain ⟨action, haction⟩ := Option.isSome_iff_exists.mp (List.mem_filter.mp h).2
  refine ⟨action, haction, ?_⟩
  unfold operationStep
  rw [haction]

/-- An operation that stays on the critical path has a step there. -/
theorem operationStep_of_critical {operation : RuntimeOperation}
    (h : operation ∈ tables.criticalOperations frame) :
    tables.operationStep frame operation = criticalStep frame operation := by
  have hnone : tables.prefetchActions.get operation.id = none := by
    simpa [OrderedDict.contains] using (List.mem_filter.mp h).2
  unfold operationStep
  rw [hnone]

/-- The three loops of a frame lay out its steps one after the other, numbered on from the
last frame. -/
theorem addFrameSteps_numbers {state : SchedulerState} {laid : List ScheduledStep}
    (h : state.Numbers laid) (tables : SchedulerTables) (frame : ℤ) :
    (tables.addFrameSteps frame state).Numbers (laid ++ tables.frameSteps frame) := by
  unfold addFrameSteps frameSteps laidOperations
  rw [List.map_append, ← List.append_assoc, ← List.append_assoc]
  apply SchedulerState.Numbers.foldl
  · apply SchedulerState.Numbers.foldl
    · apply h.foldl
      intro operation hoperation state
      have hmoved := (Sequencing.sortBy_perm _ _).mem_iff.mp hoperation
      obtain ⟨action, haction, hstep⟩ := operationStep_of_moved hmoved
      unfold addPrefetch
      rw [haction, hstep]
    · intro operation hoperation state
      have hcritical := (Sequencing.sortBy_perm _ _).mem_iff.mp hoperation
      rw [operationStep_of_critical hcritical]
  · intro action _ state
    rfl

/-- A loop whose turns leave the frames alone leaves them alone. -/
theorem addSteps_frames {α : Type} {add : SchedulerState → α → SchedulerState}
    (hadd : ∀ state item, (add state item).frames = state.frames) (items : List α)
    (state : SchedulerState) : (items.foldl add state).frames = state.frames := by
  induction items generalizing state with
  | nil => rfl
  | cons item items ih => exact (ih (add state item)).trans (hadd state item)

/-- Adding the steps of a frame adds no frame. -/
theorem addFrameSteps_frames (frame : ℤ) (state : SchedulerState) :
    (tables.addFrameSteps frame state).frames = state.frames := by
  refine (addSteps_frames ?_ _ _).trans
    ((addSteps_frames ?_ _ _).trans (addSteps_frames ?_ _ _))
  · intro state action
    rfl
  · intro state operation
    rfl
  · intro state operation
    unfold addPrefetch
    cases tables.prefetchActions.get operation.id <;> rfl

/-- The steps that are laid out for a frame are in it. -/
theorem frame_of_mem_frameSteps {step : ScheduledStep} (h : step ∈ tables.frameSteps frame) :
    step.frame = some frame := by
  obtain hoperation | hrelease := List.mem_append.mp h
  · obtain ⟨operation, -, rfl⟩ := List.mem_map.mp hoperation
    unfold operationStep
    cases tables.prefetchActions.get operation.id <;> rfl
  · obtain ⟨action, -, rfl⟩ := List.mem_map.mp hrelease
    rfl

/-- Of the steps laid out for some frames, those of one frame are what is laid out for it. -/
theorem filter_laid {ids : List ℤ} (hdistinct : ids.Nodup) (frame : ℤ) :
    (ids.flatMap tables.frameSteps).filter (fun step => step.frame = some frame) =
      if frame ∈ ids then tables.frameSteps frame else [] := by
  rw [List.filter_flatMap, ← Sequencing.flatMap_if_eq hdistinct frame tables.frameSteps]
  apply List.flatMap_congr
  intro other _
  split_ifs with hsame
  · rw [← hsame]
    apply List.filter_eq_self.mpr
    intro step hstep
    exact decide_eq_true (frame_of_mem_frameSteps hstep)
  · apply List.filter_eq_nil_iff.mpr
    intro step hstep hframe
    have hother := (frame_of_mem_frameSteps hstep).symm.trans (of_decide_eq_true hframe)
    exact hsame (Option.some.inj hother).symm

/-! ## The whole schedule -/

/-- Numbering the steps does not change how many are in a frame. -/
theorem countP_frame (frame : ℤ) (laid : List ScheduledStep) :
    (numbered numberStep laid).countP (fun step => step.frame = some frame) =
      (laid.filter fun step => step.frame = some frame).length := by
  rw [← List.countP_eq_length_filter]
  apply Sequencing.countP_numbered
  intro _ _
  rfl

/-- What the loop has done after some frames. -/
theorem foldl_scheduleFrame {ids : List ℤ} (hdistinct : ids.Nodup) :
    (ids.foldl tables.scheduleFrame ⟨[], [], 1⟩).Numbers (ids.flatMap tables.frameSteps) ∧
      (ids.foldl tables.scheduleFrame ⟨[], [], 1⟩).frames =
        ids.map fun frame => tables.frameSchedule frame (tables.frameSteps frame).length := by
  induction ids using List.reverseRecOn with
  | nil => exact ⟨⟨rfl, rfl⟩, rfl⟩
  | append_singleton ids frame ih =>
      have hids : ids.Nodup := hdistinct.sublist (List.sublist_append_left ids [frame])
      obtain ⟨hnumbers, hframes⟩ := ih hids
      have hnext := addFrameSteps_numbers hnumbers tables frame
      have hlaid : ids.flatMap tables.frameSteps ++ tables.frameSteps frame =
          (ids ++ [frame]).flatMap tables.frameSteps := by
        rw [List.flatMap_append, List.flatMap_singleton]
      rw [hlaid] at hnext
      rw [List.foldl_append]
      refine ⟨⟨hnext.steps, hnext.sequence⟩, ?_⟩
      have hcount : (tables.addFrameSteps frame (ids.foldl tables.scheduleFrame
          ⟨[], [], 1⟩)).steps.countP (fun step => step.frame = some frame) =
            (tables.frameSteps frame).length := by
        rw [hnext.steps, countP_frame, filter_laid hdistinct, if_pos (by simp)]
      change (tables.addFrameSteps frame _).frames ++ [tables.frameSchedule frame _] = _
      rw [addFrameSteps_frames, hframes, hcount, List.map_append]
      rfl

/-- No frame is scheduled twice. -/
theorem frameIds_nodup : tables.frameIds.Nodup :=
  (Sequencing.sortBy_perm id _).nodup_iff.mpr (List.nodup_dedup _)

/-- Frames come in increasing order. -/
theorem frameIds_pairwise : tables.frameIds.Pairwise fun frame later => frame < later := by
  have hordered : tables.frameIds.Pairwise fun frame later => frame ≤ later :=
    Sequencing.sortBy_ordered id _
  have hdistinct : tables.frameIds.Pairwise fun frame later => frame ≠ later := frameIds_nodup
  exact (hordered.and hdistinct).imp fun h => lt_of_le_of_ne h.1 h.2

/-- **The steps of a schedule.** They are what is laid out for its frames, numbered. -/
theorem run_numbers : tables.run.Numbers (tables.frameIds.flatMap tables.frameSteps) :=
  (foldl_scheduleFrame frameIds_nodup).1

/-- Every frame is reported with the number of its steps. -/
theorem run_frames :
    tables.run.frames = tables.frameIds.map fun frame =>
      tables.frameSchedule frame (tables.frameSteps frame).length :=
  (foldl_scheduleFrame frameIds_nodup).2

/-- The operations that are laid out for a frame are those of the frame, sorted and split in
two. -/
theorem laidOperations_perm (frame : ℤ) :
    (tables.laidOperations frame).Perm (tables.frameOperations frame) := by
  have hsorted : (tables.laidOperations frame).Perm
      (tables.movedOperations frame ++ tables.criticalOperations frame) :=
    (Sequencing.sortBy_perm _ _).append (Sequencing.sortBy_perm _ _)
  apply hsorted.trans
  unfold movedOperations criticalOperations
  exact List.filter_append_perm _ _

end SchedulerTables

/-! ## Operations and steps -/

/-- The step carries out the operation. -/
def ScheduledStep.OfOperation (step : ScheduledStep) (operation : RuntimeOperation) : Prop :=
  step.kind = .operation ∧ step.operationId = some operation.id

instance (step : ScheduledStep) (operation : RuntimeOperation) :
    Decidable (step.OfOperation operation) :=
  inferInstanceAs (Decidable (_ = _ ∧ _ = _))

/-- The step of an operation carries out the operation of that name. -/
theorem operationStep_ofOperation {tables : SchedulerTables} {frame : ℤ}
    {operation other : RuntimeOperation} :
    (tables.operationStep frame other).OfOperation operation ↔ other.id = operation.id := by
  unfold SchedulerTables.operationStep ScheduledStep.OfOperation
  cases tables.prefetchActions.get other.id with
  | none => exact ⟨fun h => Option.some.inj h.2, fun h => ⟨rfl, congrArg some h⟩⟩
  | some action => exact ⟨fun h => Option.some.inj h.2, fun h => ⟨rfl, congrArg some h⟩⟩

section

variable {operations : List RuntimeOperation} {frameTargetsMs frameCostsMs : OrderedDict ℤ ℚ}
  {plan : ResourceLifetimePlan} {tables : SchedulerTables}
  (htables : tables = schedulerTables operations frameTargetsMs frameCostsMs plan)

include htables

/-- The operations of a frame are those that name it, in their order. -/
theorem frameOperations_eq (frame : ℤ) :
    tables.frameOperations frame =
      operations.filter fun operation => operation.frame = some frame := by
  rw [htables]
  exact Sequencing.get_groupBy RuntimeOperation.frame operations frame

/-- The releases of a frame are those after it, in the order of the plan. -/
theorem releaseActions_eq (frame : ℤ) :
    tables.releaseActions frame =
      plan.actions.filter fun action => releaseFrame action = some frame := by
  rw [htables]
  exact Sequencing.get_groupBy releaseFrame plan.actions frame

/-- The frame of an operation is scheduled. -/
theorem mem_frameIds {operation : RuntimeOperation} {frame : ℤ} (hmem : operation ∈ operations)
    (hframe : operation.frame = some frame) : frame ∈ tables.frameIds := by
  have hgroup : (groupBy RuntimeOperation.frame operations).contains frame = true :=
    (Sequencing.contains_groupBy _).mpr ⟨operation, hmem, hframe⟩
  apply (Sequencing.sortBy_perm id _).mem_iff.mpr
  apply List.mem_dedup.mpr
  apply List.mem_append_right
  rw [htables]
  exact OrderedDict.mem_keys.mpr hgroup

/-- Among operations with distinct names, the steps of a frame have one for each of its
operations. -/
theorem filter_frameSteps (hdistinct : (operations.map RuntimeOperation.id).Nodup)
    {operation : RuntimeOperation} (hmem : operation ∈ operations) (frame : ℤ) :
    (tables.frameSteps frame).filter (fun step => step.OfOperation operation) =
      if operation.frame = some frame then [tables.operationStep frame operation] else [] := by
  have hoperations : ((tables.laidOperations frame).filter fun other =>
      other.id = operation.id).Perm (if operation.frame = some frame then [operation] else []) := by
    apply ((tables.laidOperations_perm frame).filter _).trans
    rw [frameOperations_eq htables, List.filter_filter]
    have hswap : (fun other : RuntimeOperation =>
        decide (other.id = operation.id) && decide (other.frame = some frame)) =
          fun other => decide (other.frame = some frame) && decide (other.id = operation.id) := by
      funext other
      exact Bool.and_comm _ _
    rw [hswap, ← List.filter_filter, Sequencing.filter_key_eq hdistinct hmem]
    by_cases hframe : operation.frame = some frame <;> simp [hframe]
  have hlaid : (tables.laidOperations frame).filter (fun other => other.id = operation.id) =
      if operation.frame = some frame then [operation] else [] := by
    split_ifs at hoperations ⊢
    · exact List.perm_singleton.mp hoperations
    · exact List.perm_nil.mp hoperations
  have hreleases : (tables.releaseSteps frame).filter (fun step => step.OfOperation operation) =
      [] := by
    apply List.filter_eq_nil_iff.mpr
    intro step hstep hof
    obtain ⟨action, -, rfl⟩ := List.mem_map.mp hstep
    exact absurd (of_decide_eq_true hof).1 nofun
  unfold SchedulerTables.frameSteps
  rw [List.filter_append, hreleases, List.append_nil, List.filter_map]
  have hof : ((fun step : ScheduledStep => decide (step.OfOperation operation)) ∘
      tables.operationStep frame) = fun other => decide (other.id = operation.id) := by
    funext other
    exact decide_eq_decide.mpr operationStep_ofOperation
  rw [hof, hlaid]
  split_ifs <;> rfl

/-- In the whole schedule, an operation has a step in its frame and nowhere else. -/
theorem filter_steps (hdistinct : (operations.map RuntimeOperation.id).Nodup)
    {operation : RuntimeOperation} (hmem : operation ∈ operations) :
    (tables.frameIds.flatMap tables.frameSteps).filter (fun step => step.OfOperation operation) =
      match operation.frame with
      | some frame => [tables.operationStep frame operation]
      | none => [] := by
  rw [List.filter_flatMap]
  simp only [filter_frameSteps htables hdistinct hmem]
  cases hframe : operation.frame with
  | none => simp
  | some frame =>
      simp only [Option.some.injEq]
      rw [Sequencing.flatMap_if_eq SchedulerTables.frameIds_nodup frame fun frame =>
        [tables.operationStep frame operation], if_pos (mem_frameIds htables hmem hframe)]

end

/-! ## Conservation -/

/-- A step on the critical path of its frame. -/
def ScheduledStep.onCriticalPath (step : ScheduledStep) : Bool :=
  step.kind = .operation && step.phase ≠ .prefetch

/-- What the operations on the critical path of a frame cost. -/
def criticalPathCost (steps : List ScheduledStep) (frame : ℤ) : ℚ :=
  ((steps.filter fun step => step.onCriticalPath && step.frame = some frame).map
    ScheduledStep.costMs).sum

/-- What the operations of a frame cost. -/
def frameCost (operations : List RuntimeOperation) (frame : ℤ) : ℚ :=
  ((operations.filter fun operation => operation.frame = some frame).map
    RuntimeOperation.costMs).sum

/-- The schedule has every operation of a frame once and in its frame, numbers its steps
frame by frame, and accounts for their costs. -/
structure Conserves (operations : List RuntimeOperation) (schedule : SchedulerPlan) : Prop where
  framed : ∀ operation ∈ operations, ∀ frame, operation.frame = some frame →
    ∃ step, schedule.steps.filter (fun step => step.OfOperation operation) = [step] ∧
      step.frame = some frame ∧ (step.phase = .prefetch ∨ step.phase = operationPhase operation)
  frameless : ∀ operation ∈ operations, operation.frame = none →
    schedule.steps.filter (fun step => step.OfOperation operation) = []
  numbers : schedule.steps.map ScheduledStep.sequence =
    List.range' 1 schedule.scheduledStepCount
  ordered : schedule.steps.Pairwise fun step later => ∃ frame frame', step.frame = some frame ∧
    later.frame = some frame' ∧ frame ≤ frame'
  frames : (schedule.frames.map FrameSchedule.frame).Pairwise fun frame later => frame < later
  counts : ∀ entry ∈ schedule.frames,
    entry.stepCount = schedule.steps.countP fun step => step.frame = some entry.frame
  costs : ∀ entry ∈ schedule.frames,
    entry.movedTransferMs + criticalPathCost schedule.steps entry.frame =
      frameCost operations entry.frame

/-- No operation is in the phase of prefetches by its type. -/
theorem operationPhase_ne_prefetch (operation : RuntimeOperation) :
    operationPhase operation ≠ .prefetch := by
  unfold operationPhase
  cases operation.type <;> exact nofun

namespace SchedulerTables

variable {tables : SchedulerTables} {frame : ℤ}

/-- The step of an operation is a prefetch or in the phase of its type. -/
theorem phase_operationStep (operation : RuntimeOperation) :
    (tables.operationStep frame operation).phase = .prefetch ∨
      (tables.operationStep frame operation).phase = operationPhase operation := by
  unfold operationStep
  cases tables.prefetchActions.get operation.id with
  | none => exact Or.inr rfl
  | some action => exact Or.inl rfl

/-- The step of an operation is in the frame that it is laid out for. -/
theorem frame_operationStep (operation : RuntimeOperation) :
    (tables.operationStep frame operation).frame = some frame := by
  unfold operationStep
  cases tables.prefetchActions.get operation.id <;> rfl

/-- Of the steps of a frame, those on the critical path cost what its critical operations
cost. -/
theorem criticalPathCost_frameSteps (frame : ℤ) :
    (((tables.frameSteps frame).filter ScheduledStep.onCriticalPath).map
        ScheduledStep.costMs).sum =
      ((tables.criticalOperations frame).map RuntimeOperation.costMs).sum := by
  have hmoved : ((sortBy RuntimeOperation.id (tables.movedOperations frame)).map
      (tables.operationStep frame)).filter ScheduledStep.onCriticalPath = [] := by
    apply List.filter_eq_nil_iff.mpr
    intro step hstep hcritical
    obtain ⟨operation, hoperation, rfl⟩ := List.mem_map.mp hstep
    obtain ⟨action, -, hprefetch⟩ :=
      operationStep_of_moved ((Sequencing.sortBy_perm _ _).mem_iff.mp hoperation)
    rw [hprefetch] at hcritical
    exact absurd hcritical nofun
  have hcritical : (sortBy operationSortKey (tables.criticalOperations frame)).map
      (tables.operationStep frame) =
        (sortBy operationSortKey (tables.criticalOperations frame)).map (criticalStep frame) := by
    apply List.map_congr_left
    intro operation hoperation
    exact operationStep_of_critical ((Sequencing.sortBy_perm _ _).mem_iff.mp hoperation)
  have hkept : ((sortBy operationSortKey (tables.criticalOperations frame)).map
      (criticalStep frame)).filter ScheduledStep.onCriticalPath =
        (sortBy operationSortKey (tables.criticalOperations frame)).map (criticalStep frame) := by
    apply List.filter_eq_self.mpr
    intro step hstep
    obtain ⟨operation, -, rfl⟩ := List.mem_map.mp hstep
    unfold ScheduledStep.onCriticalPath
    exact decide_eq_true (operationPhase_ne_prefetch operation)
  have hreleases : (tables.releaseSteps frame).filter ScheduledStep.onCriticalPath = [] := by
    apply List.filter_eq_nil_iff.mpr
    intro step hstep hcritical
    obtain ⟨action, -, rfl⟩ := List.mem_map.mp hstep
    exact absurd hcritical nofun
  unfold frameSteps laidOperations
  rw [List.map_append, List.filter_append, List.filter_append, hmoved, hcritical, hkept, hreleases,
    List.nil_append, List.append_nil, List.map_map]
  exact Sequencing.sum_map_sortBy operationSortKey RuntimeOperation.costMs _

/-- Every operation of a frame is moved or on its critical path. -/
theorem moved_add_critical (frame : ℤ) :
    ((tables.movedOperations frame).map RuntimeOperation.costMs).sum +
        ((tables.criticalOperations frame).map RuntimeOperation.costMs).sum =
      ((tables.frameOperations frame).map RuntimeOperation.costMs).sum := by
  rw [← List.sum_append, ← List.map_append]
  exact ((List.filter_append_perm _ _).map _).sum_eq

end SchedulerTables

/-- The frames of the steps never decrease: within a frame they are the same, and frames are
in increasing order. -/
theorem laid_ordered (tables : SchedulerTables) :
    (tables.frameIds.flatMap tables.frameSteps).Pairwise fun step later => ∃ frame frame',
      step.frame = some frame ∧ later.frame = some frame' ∧ frame ≤ frame' := by
  apply List.pairwise_flatMap.mpr
  refine ⟨?_, ?_⟩
  · intro frame _
    apply List.pairwise_of_forall_mem_list
    intro step hstep later hlater
    exact ⟨frame, frame, SchedulerTables.frame_of_mem_frameSteps hstep,
      SchedulerTables.frame_of_mem_frameSteps hlater, le_rfl⟩
  · apply SchedulerTables.frameIds_pairwise.imp
    intro frame frame' hlt step hstep later hlater
    exact ⟨frame, frame', SchedulerTables.frame_of_mem_frameSteps hstep,
      SchedulerTables.frame_of_mem_frameSteps hlater, hlt.le⟩

section

variable {operations : List RuntimeOperation} {frameTargetsMs frameCostsMs : OrderedDict ℤ ℚ}
  {plan : ResourceLifetimePlan} {tables : SchedulerTables}
  (htables : tables = schedulerTables operations frameTargetsMs frameCostsMs plan)

include htables

/-- The steps of a schedule, from the frames and what is laid out for each. -/
theorem steps_eq :
    (simulateScheduler operations frameTargetsMs frameCostsMs plan).steps =
      numbered numberStep (tables.frameIds.flatMap tables.frameSteps) := by
  rw [htables]
  exact SchedulerTables.run_numbers.steps

/-- The frames of a schedule, with the number of steps of each. -/
theorem frames_eq :
    (simulateScheduler operations frameTargetsMs frameCostsMs plan).frames =
      tables.frameIds.map fun frame =>
        tables.frameSchedule frame (tables.frameSteps frame).length := by
  rw [htables]
  exact SchedulerTables.run_frames

/-- The steps of an operation, apart from their numbers. -/
theorem steps_of_operation (hdistinct : (operations.map RuntimeOperation.id).Nodup)
    {operation : RuntimeOperation} (hmem : operation ∈ operations) :
    ((simulateScheduler operations frameTargetsMs frameCostsMs plan).steps.filter
        fun step => step.OfOperation operation).map (numberStep 0) =
      (match operation.frame with
        | some frame => [tables.operationStep frame operation]
        | none => []).map (numberStep 0) := by
  rw [steps_eq htables, ← filter_steps htables hdistinct hmem]
  apply Sequencing.map_filter_numbered
  · intro _ _
    rfl
  · intro _ _
    rfl

/-- The critical path of a frame costs what its critical operations cost. -/
theorem criticalPathCost_eq {frame : ℤ} (hframe : frame ∈ tables.frameIds) :
    criticalPathCost (simulateScheduler operations frameTargetsMs frameCostsMs plan).steps frame =
      ((tables.criticalOperations frame).map RuntimeOperation.costMs).sum := by
  have hlaid : (tables.frameIds.flatMap tables.frameSteps).filter
      (fun step => step.frame = some frame) = tables.frameSteps frame :=
    (SchedulerTables.filter_laid SchedulerTables.frameIds_nodup frame).trans (if_pos hframe)
  have hnumbered : criticalPathCost
      (simulateScheduler operations frameTargetsMs frameCostsMs plan).steps frame =
        criticalPathCost (tables.frameIds.flatMap tables.frameSteps) frame := by
    unfold criticalPathCost
    rw [steps_eq htables]
    apply congrArg List.sum
    apply Sequencing.map_filter_numbered
    · intro _ _
      rfl
    · intro _ _
      rfl
  rw [hnumbered, ← SchedulerTables.criticalPathCost_frameSteps, ← hlaid, List.filter_filter]
  rfl

end

/-- **The schedule loses and duplicates nothing.** -/
theorem schedule_conserves {operations : List RuntimeOperation}
    (hdistinct : (operations.map RuntimeOperation.id).Nodup)
    (frameTargetsMs frameCostsMs : OrderedDict ℤ ℚ) (plan : ResourceLifetimePlan) :
    Conserves operations (simulateScheduler operations frameTargetsMs frameCostsMs plan) := by
  obtain ⟨tables, htables⟩ : ∃ tables,
      tables = schedulerTables operations frameTargetsMs frameCostsMs plan := ⟨_, rfl⟩
  have hsteps := steps_eq htables
  have hframes := frames_eq htables
  refine ⟨?_, ?_, ?_, ?_, ?_, ?_, ?_⟩
  · intro operation hmem frame hframe
    have hone := steps_of_operation htables hdistinct hmem
    rw [hframe] at hone
    obtain ⟨step, hstep, hsame⟩ := List.map_eq_singleton_iff.mp hone
    have hphase := congrArg ScheduledStep.phase hsame
    change step.phase = (tables.operationStep frame operation).phase at hphase
    refine ⟨step, hstep, ?_, ?_⟩
    · exact (congrArg ScheduledStep.frame hsame).trans
        (SchedulerTables.frame_operationStep operation)
    · rw [hphase]
      exact SchedulerTables.phase_operationStep operation
  · intro operation hmem hframe
    have hnone := steps_of_operation htables hdistinct hmem
    rw [hframe] at hnone
    exact List.map_eq_nil_iff.mp hnone
  · change _ = List.range' 1 (simulateScheduler _ _ _ _).steps.length
    rw [hsteps, Sequencing.length_numbered]
    exact Sequencing.numbers_numbered (fun _ _ => rfl) _
  · rw [hsteps]
    apply (Sequencing.pairwise_numbered (laid_ordered tables)).imp
    intro step later hpair
    obtain ⟨i, laid, j, laid', rfl, rfl, -, hordered⟩ := hpair
    exact hordered
  · have hids : (tables.frameIds.map fun frame =>
        tables.frameSchedule frame (tables.frameSteps frame).length).map FrameSchedule.frame =
          tables.frameIds := by
      rw [List.map_map]
      exact List.map_id tables.frameIds
    rw [hframes, hids]
    exact SchedulerTables.frameIds_pairwise
  · intro entry hentry
    rw [hframes] at hentry
    obtain ⟨frame, hframe, rfl⟩ := List.mem_map.mp hentry
    rw [hsteps]
    exact ((SchedulerTables.countP_frame frame _).trans (congrArg List.length
      ((SchedulerTables.filter_laid SchedulerTables.frameIds_nodup frame).trans
        (if_pos hframe)))).symm
  · intro entry hentry
    rw [hframes] at hentry
    obtain ⟨frame, hframe, rfl⟩ := List.mem_map.mp hentry
    change ((tables.movedOperations frame).map RuntimeOperation.costMs).sum +
      criticalPathCost _ frame = frameCost operations frame
    rw [criticalPathCost_eq htables hframe, SchedulerTables.moved_add_critical,
      frameOperations_eq htables]
    rfl

/-- A simulation of cloth in frame 1. -/
def simulateCloth : RuntimeOperation where
  id := "simulate_cloth"
  type := .compute
  target := some "cloth"
  costMs := 2
  frame := some 1

/-- An upload of what the simulation computes. -/
def uploadCloth : RuntimeOperation where
  id := "upload_cloth"
  type := .upload
  source := some "cloth"
  target := some "cloth_gpu"
  costMs := 4
  sizeMb := 32
  frame := some 1
  dependsOn := ["simulate_cloth"]

/-- A plan that prefetches the upload. -/
def clothPlan : ResourceLifetimePlan :=
  lifetimePlan [prefetchAction uploadCloth (some .vram)]

/-- A schedule of two operations, one of them prefetched, conserves both. -/
theorem schedule_conserves_cloth :
    ([simulateCloth, uploadCloth].map RuntimeOperation.id).Nodup ∧
      Conserves [simulateCloth, uploadCloth]
        (simulateScheduler [simulateCloth, uploadCloth] .empty .empty clothPlan) := by
  have hdistinct : ([simulateCloth, uploadCloth].map RuntimeOperation.id).Nodup := by decide
  exact ⟨hdistinct, schedule_conserves hdistinct .empty .empty clothPlan⟩

/-! ## Schedules of a planner's plans -/

/-- The releases of a plan name no operation. -/
theorem release_unsourced {calls : List LifetimeCall} {action : LifetimePlanAction}
    (hmem : action ∈ (planAfter calls).actions) (hrelease : action.action = .releaseAfterFrame) :
    action.sourceOperationId = none := by
  obtain ⟨point, -, hdue⟩ := List.mem_flatMap.mp (FirstKept.mem_of_findKey (mem_plan.mp hmem))
  have hkey := actionKey_eq hdue
  rw [hrelease] at hkey
  exact congrArg (fun key => key.2.2) hkey

/-- So a step of such a schedule that names an operation carries it out. -/
theorem operation_of_named (operations : List RuntimeOperation) (frameTargetsMs frameCostsMs :
    OrderedDict ℤ ℚ) (calls : List LifetimeCall) {step : ScheduledStep}
    (hmem : step ∈ (simulateScheduler operations frameTargetsMs frameCostsMs
      (planAfter calls)).steps) (hnamed : step.operationId.isSome) : step.kind = .operation := by
  obtain ⟨tables, htables⟩ : ∃ tables,
      tables = schedulerTables operations frameTargetsMs frameCostsMs (planAfter calls) :=
    ⟨_, rfl⟩
  rw [steps_eq htables] at hmem
  obtain ⟨i, laid, hlaid, rfl⟩ := Sequencing.mem_numbered hmem
  obtain ⟨frame, -, hstep⟩ := List.mem_flatMap.mp hlaid
  obtain hoperation | hrelease := List.mem_append.mp hstep
  · obtain ⟨operation, -, rfl⟩ := List.mem_map.mp hoperation
    unfold SchedulerTables.operationStep
    cases tables.prefetchActions.get operation.id <;> rfl
  · obtain ⟨action, haction, rfl⟩ := List.mem_map.mp hrelease
    have hrelease := (Sequencing.sortBy_perm _ _).mem_iff.mp haction
    rw [releaseActions_eq htables] at hrelease
    obtain ⟨hplan, hframe⟩ := List.mem_filter.mp hrelease
    have hkind : action.action = .releaseAfterFrame := by
      by_contra hother
      unfold releaseFrame at hframe
      rw [if_neg hother] at hframe
      exact absurd (of_decide_eq_true hframe) nofun
    change action.sourceOperationId.isSome = true at hnamed
    rw [release_unsourced hplan hkind] at hnamed
    cases hnamed

end FluidGateway.FramePlanning
