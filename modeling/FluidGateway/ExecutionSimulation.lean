import FluidGateway.BudgetArbitration
import FluidGateway.Lib.Sequencing

/-!
# The execution simulation

`fluidgateway/executor.py` says what each command of a packet would remove,
prestage, set up or protect, and sums the costs up.  The counts of the simulation
are over all commands, its totals over the summaries of the frames; a command
without a frame is in no summary (`totals_iff`).
-/

namespace FluidGateway.ControlLoop

open Sequencing (sortBy groupBy)

/-! ## Results of commands -/

/-- The effects of commands. -/
inductive ExecutionEffect where
  | removed | prestaged | setup | protectedWork | ignored
  deriving DecidableEq, Repr

/-- Whether a command has an effect. -/
inductive ExecutionStatus where
  | applied | ignored
  deriving DecidableEq, Repr

/-- The simulated result of a command. -/
structure CommandExecutionResult where
  sequence : Nat
  operationId : String
  action : CommandAction
  window : Window
  frame : Option ℤ
  status : ExecutionStatus
  effect : ExecutionEffect
  costMs : ℚ
  savedMb : ℚ
  reason : String
  deriving DecidableEq, Repr

/-- `effect_for_action`: unprotected work has no effect of its own. -/
def effectForAction (action : CommandAction) : ExecutionEffect :=
  match action with
  | .skipTransfer | .reuseAllocation | .dropSyncWait => .removed
  | .prestageTransfer => .prestaged
  | .poolAllocation => .setup
  | .executeProtected => .protectedWork
  | .execute | .other _ => .ignored

/-- `simulate_command`: only removed work saves memory. -/
def simulateCommand (command : ExecutionCommand) : CommandExecutionResult :=
  let effect := effectForAction command.action
  { sequence := command.sequence
    operationId := command.operationId
    action := command.action
    window := command.window
    frame := command.frame
    status := if effect = .ignored then .ignored else .applied
    effect
    costMs := command.costMs
    savedMb := if effect = .removed then command.expectedSavedMb else 0
    reason := command.reason }

/-! ## Summaries of frames -/

/-- The summary of a frame. -/
structure ExecutionFrameResult where
  frame : ℤ
  commandCount : Nat
  appliedCount : Nat
  ignoredCount : Nat
  removedCostMs : ℚ
  prestagedCostMs : ℚ
  setupCostMs : ℚ
  protectedHotPathCostMs : ℚ
  hotPathBeforeMs : ℚ
  hotPathAfterMs : ℚ
  hotPathReliefMs : ℚ
  estimatedSavedMb : ℚ
  deriving DecidableEq, Repr

/-- What the results of an effect cost. -/
def sumEffect (results : List CommandExecutionResult) (effect : ExecutionEffect) : ℚ :=
  ((results.filter fun result => result.effect = effect).map
    CommandExecutionResult.costMs).sum

/-- How many of the results have a status. -/
def countExecutionStatus (results : List CommandExecutionResult) (status : ExecutionStatus) : Nat :=
  results.countP fun result => result.status = status

/-- The summary of the results of one frame; the hot path is relieved by what was removed,
prestaged or set up. -/
def frameResult (frame : ℤ) (results : List CommandExecutionResult) : ExecutionFrameResult :=
  let removed := sumEffect results .removed
  let prestaged := sumEffect results .prestaged
  let setup := sumEffect results .setup
  let protectedCost := sumEffect results .protectedWork
  let before := removed + prestaged + setup + protectedCost
  { frame
    commandCount := results.length
    appliedCount := countExecutionStatus results .applied
    ignoredCount := countExecutionStatus results .ignored
    removedCostMs := removed
    prestagedCostMs := prestaged
    setupCostMs := setup
    protectedHotPathCostMs := protectedCost
    hotPathBeforeMs := before
    hotPathAfterMs := protectedCost
    hotPathReliefMs := max 0 (before - protectedCost)
    estimatedSavedMb := (results.map CommandExecutionResult.savedMb).sum }

/-- `summarize_frames`: results are grouped by their frame, and those without one are in no
group. -/
def summarizeFrames (results : List CommandExecutionResult) : List ExecutionFrameResult :=
  (sortBy Prod.fst (groupBy CommandExecutionResult.frame results).items).map fun item =>
    frameResult item.1 item.2

/-! ## The simulation -/

/-- The simulation: its frames and results, with the totals. -/
structure ExecutionSimulation where
  commandCount : Nat
  frameCount : Nat
  appliedCount : Nat
  ignoredCount : Nat
  removedCostMs : ℚ
  prestagedCostMs : ℚ
  setupCostMs : ℚ
  protectedHotPathCostMs : ℚ
  hotPathBeforeMs : ℚ
  hotPathAfterMs : ℚ
  hotPathReliefMs : ℚ
  estimatedSavedMb : ℚ
  frames : List ExecutionFrameResult
  commandResults : List CommandExecutionResult
  deriving DecidableEq, Repr

/-- What the frames add up to in one of their values. -/
def sumFrameValue (frames : List ExecutionFrameResult) (value : ExecutionFrameResult → ℚ) : ℚ :=
  (frames.map value).sum

/-- `simulate_execution`: the totals of costs are taken over the frames, the counts over the
results. -/
def simulateExecution (packet : List ExecutionCommand) : ExecutionSimulation :=
  let results := packet.map simulateCommand
  let frames := summarizeFrames results
  { commandCount := results.length
    frameCount := frames.length
    appliedCount := countExecutionStatus results .applied
    ignoredCount := countExecutionStatus results .ignored
    removedCostMs := sumFrameValue frames ExecutionFrameResult.removedCostMs
    prestagedCostMs := sumFrameValue frames ExecutionFrameResult.prestagedCostMs
    setupCostMs := sumFrameValue frames ExecutionFrameResult.setupCostMs
    protectedHotPathCostMs := sumFrameValue frames ExecutionFrameResult.protectedHotPathCostMs
    hotPathBeforeMs := sumFrameValue frames ExecutionFrameResult.hotPathBeforeMs
    hotPathAfterMs := sumFrameValue frames ExecutionFrameResult.hotPathAfterMs
    hotPathReliefMs := sumFrameValue frames ExecutionFrameResult.hotPathReliefMs
    estimatedSavedMb := sumFrameValue frames ExecutionFrameResult.estimatedSavedMb
    frames
    commandResults := results }

/-! ## Totals over frames -/

/-- The results that belong to a frame. -/
def framed (results : List CommandExecutionResult) : List CommandExecutionResult :=
  results.filter fun result => result.frame.isSome

/-- The results that belong to none. -/
def frameless (results : List CommandExecutionResult) : List CommandExecutionResult :=
  results.filter fun result => result.frame.isNone

section

variable {total : List CommandExecutionResult → ℚ}
  (hadd : ∀ l l', total (l ++ l') = total l + total l') (hnil : total [] = 0)

include hadd hnil

/-- A total over the summaries is the total over the results that belong to a frame. -/
theorem sumFrameValue_summarizeFrames {value : ExecutionFrameResult → ℚ}
    (hvalue : ∀ frame results, value (frameResult frame results) = total results)
    (results : List CommandExecutionResult) :
    sumFrameValue (summarizeFrames results) value = total (framed results) := by
  unfold sumFrameValue summarizeFrames
  rw [List.map_map]
  calc ((sortBy Prod.fst (groupBy CommandExecutionResult.frame results).items).map
        (value ∘ fun item => frameResult item.1 item.2)).sum
      = ((groupBy CommandExecutionResult.frame results).items.map
          (value ∘ fun item => frameResult item.1 item.2)).sum := Sequencing.sum_map_sortBy _ _ _
    _ = ((groupBy CommandExecutionResult.frame results).values.map total).sum := by
        unfold OrderedDict.values
        rw [List.map_map]
        exact congrArg List.sum (List.map_congr_left fun item _ => hvalue item.1 item.2)
    _ = total (framed results) := Sequencing.sum_groupBy _ total hadd hnil results

/-- A total over the results is that over those with a frame and that over those without. -/
theorem total_eq (results : List CommandExecutionResult) :
    total results = total (framed results) + total (frameless results) := by
  unfold framed frameless
  induction results with
  | nil => simp only [List.filter_nil, hnil, add_zero]
  | cons result results ih =>
      rw [← List.singleton_append, hadd, ih, List.filter_append, List.filter_append, hadd, hadd]
      cases hframe : result.frame with
      | none =>
          simp only [List.filter_cons, hframe, Option.isSome_none, Option.isNone_none,
            Bool.false_eq_true, if_false, if_true, List.filter_nil, hnil]
          ring
      | some frame =>
          simp only [List.filter_cons, hframe, Option.isSome_some, Option.isNone_some,
            Bool.false_eq_true, if_false, if_true, List.filter_nil, hnil]
          ring

/-- A total over the summaries covers all the results exactly when those without a frame
add nothing. -/
theorem covers_iff {value : ExecutionFrameResult → ℚ}
    (hvalue : ∀ frame results, value (frameResult frame results) = total results)
    (results : List CommandExecutionResult) :
    sumFrameValue (summarizeFrames results) value = total results ↔
      total (frameless results) = 0 := by
  rw [sumFrameValue_summarizeFrames hadd hnil hvalue, total_eq hadd hnil results]
  exact left_eq_add

end

/-- What an effect costs in two lists is the sum of what it costs in each. -/
theorem sumEffect_append (effect : ExecutionEffect) (l l' : List CommandExecutionResult) :
    sumEffect (l ++ l') effect = sumEffect l effect + sumEffect l' effect := by
  unfold sumEffect
  rw [List.filter_append, List.map_append, List.sum_append]

/-- What the results save. -/
def sumSaved (results : List CommandExecutionResult) : ℚ :=
  (results.map CommandExecutionResult.savedMb).sum

/-- What two lists save is the sum of what each saves. -/
theorem sumSaved_append (l l' : List CommandExecutionResult) :
    sumSaved (l ++ l') = sumSaved l + sumSaved l' := by
  unfold sumSaved
  rw [List.map_append, List.sum_append]

/-- What the applied results cost. -/
def sumApplied (results : List CommandExecutionResult) : ℚ :=
  ((results.filter fun result => result.status = .applied).map
    CommandExecutionResult.costMs).sum

/-- The costs of the applied commands are those of the four effects. -/
theorem sumApplied_eq (packet : List ExecutionCommand) :
    sumApplied (packet.map simulateCommand) =
      sumEffect (packet.map simulateCommand) .removed +
        sumEffect (packet.map simulateCommand) .prestaged +
        sumEffect (packet.map simulateCommand) .setup +
        sumEffect (packet.map simulateCommand) .protectedWork := by
  unfold sumApplied sumEffect
  induction packet with
  | nil => simp
  | cons command packet ih =>
      rw [List.map_cons]
      cases heffect : effectForAction command.action <;>
        simp only [List.filter_cons, simulateCommand, heffect, reduceCtorEq, if_false, if_true,
          decide_true, decide_false, Bool.false_eq_true, List.map_cons, List.sum_cons] at ih ⊢ <;>
        rw [ih] <;> ring

/-- Only removed work saves memory. -/
theorem sumSaved_eq (packet : List ExecutionCommand) :
    sumSaved (packet.map simulateCommand) =
      sumSaved ((packet.map simulateCommand).filter fun result => result.effect = .removed) := by
  unfold sumSaved
  rw [Sequencing.sum_filter]
  apply congrArg List.sum
  apply List.map_congr_left
  intro result hresult
  obtain ⟨command, -, rfl⟩ := List.mem_map.mp hresult
  by_cases heffect : effectForAction command.action = .removed
  · exact (if_pos heffect).symm
  · exact (if_neg heffect).trans (if_neg heffect).symm

/-- What the simulation sums up covers every command. -/
def TotalsCover (packet : List ExecutionCommand) : Prop :=
  (simulateExecution packet).removedCostMs =
      sumEffect (simulateExecution packet).commandResults .removed ∧
    (simulateExecution packet).prestagedCostMs =
      sumEffect (simulateExecution packet).commandResults .prestaged ∧
    (simulateExecution packet).setupCostMs =
      sumEffect (simulateExecution packet).commandResults .setup ∧
    (simulateExecution packet).protectedHotPathCostMs =
      sumEffect (simulateExecution packet).commandResults .protectedWork ∧
    (simulateExecution packet).estimatedSavedMb =
      sumSaved ((simulateExecution packet).commandResults.filter fun result =>
        result.effect = .removed) ∧
    (simulateExecution packet).hotPathBeforeMs =
      sumApplied (simulateExecution packet).commandResults

/-- What the commands without a frame cost, by their effect. -/
def framelessCost (packet : List ExecutionCommand) (effect : ExecutionEffect) : ℚ :=
  ((packet.filter fun command =>
    command.frame.isNone && effectForAction command.action = effect).map
      ExecutionCommand.costMs).sum

/-- What removed commands without a frame save. -/
def framelessSaved (packet : List ExecutionCommand) : ℚ :=
  ((packet.filter fun command =>
    command.frame.isNone && effectForAction command.action = .removed).map
      ExecutionCommand.expectedSavedMb).sum

/-- What is missing from a total of costs is the cost of the commands without a frame. -/
theorem sumEffect_frameless (packet : List ExecutionCommand) (effect : ExecutionEffect) :
    sumEffect (frameless (packet.map simulateCommand)) effect = framelessCost packet effect := by
  unfold sumEffect frameless framelessCost
  rw [List.filter_map, List.filter_map, List.map_map, List.filter_filter]
  congr 2
  apply List.filter_congr
  intro command _
  exact Bool.and_comm _ _

/-- What is missing from the saved memory is what commands without a frame save. -/
theorem sumSaved_frameless (packet : List ExecutionCommand) :
    sumSaved (frameless (packet.map simulateCommand)) = framelessSaved packet := by
  unfold sumSaved frameless framelessSaved
  induction packet with
  | nil => rfl
  | cons command packet ih =>
      cases hframe : command.frame <;> by_cases heffect : effectForAction command.action = .removed
      all_goals simp_all [simulateCommand]

/-- What is on the hot paths before is what the four effects cost there. -/
theorem sum_before (results : List CommandExecutionResult) :
    sumFrameValue (summarizeFrames results) ExecutionFrameResult.hotPathBeforeMs =
      sumFrameValue (summarizeFrames results) ExecutionFrameResult.removedCostMs +
        sumFrameValue (summarizeFrames results) ExecutionFrameResult.prestagedCostMs +
        sumFrameValue (summarizeFrames results) ExecutionFrameResult.setupCostMs +
        sumFrameValue (summarizeFrames results)
          ExecutionFrameResult.protectedHotPathCostMs := by
  unfold sumFrameValue summarizeFrames
  induction sortBy Prod.fst (groupBy CommandExecutionResult.frame results).items with
  | nil => simp
  | cons item items ih =>
      simp only [List.map_cons, List.sum_cons] at ih ⊢
      rw [ih]
      unfold frameResult
      ring

/-- **Totals of a simulation.** They cover every command exactly when the commands without
a frame add nothing, effect by effect. -/
theorem totals_iff (packet : List ExecutionCommand) :
    TotalsCover packet ↔
      (∀ effect, effect ≠ .ignored → framelessCost packet effect = 0) ∧
        framelessSaved packet = 0 := by
  have hcost : ∀ (value : ExecutionFrameResult → ℚ) (effect : ExecutionEffect),
      (∀ frame results, value (frameResult frame results) = sumEffect results effect) →
      (sumFrameValue (summarizeFrames (packet.map simulateCommand)) value =
        sumEffect (packet.map simulateCommand) effect ↔ framelessCost packet effect = 0) := by
    intro value effect hvalue
    rw [← sumEffect_frameless]
    exact covers_iff (sumEffect_append effect) rfl hvalue _
  have hsaved : sumFrameValue (summarizeFrames (packet.map simulateCommand))
      ExecutionFrameResult.estimatedSavedMb =
        sumSaved ((packet.map simulateCommand).filter fun result => result.effect = .removed) ↔
          framelessSaved packet = 0 := by
    rw [← sumSaved_eq, ← sumSaved_frameless]
    exact covers_iff sumSaved_append rfl (fun _ _ => rfl) _
  have hremoved := hcost ExecutionFrameResult.removedCostMs .removed fun _ _ => rfl
  have hprestaged := hcost ExecutionFrameResult.prestagedCostMs .prestaged
    fun _ _ => rfl
  have hsetup := hcost ExecutionFrameResult.setupCostMs .setup fun _ _ => rfl
  have hprotected := hcost ExecutionFrameResult.protectedHotPathCostMs .protectedWork
    fun _ _ => rfl
  constructor
  · intro hcover
    obtain ⟨hr, hp, hs, hh, hmb, -⟩ := hcover
    refine ⟨?_, hsaved.mp hmb⟩
    intro effect heffect
    cases effect with
    | removed => exact hremoved.mp hr
    | prestaged => exact hprestaged.mp hp
    | setup => exact hsetup.mp hs
    | protectedWork => exact hprotected.mp hh
    | ignored => exact absurd rfl heffect
  · intro hnone
    obtain ⟨hzero, hmb⟩ := hnone
    have hr := hremoved.mpr (hzero .removed nofun)
    have hp := hprestaged.mpr (hzero .prestaged nofun)
    have hs := hsetup.mpr (hzero .setup nofun)
    have hh := hprotected.mpr (hzero .protectedWork nofun)
    refine ⟨hr, hp, hs, hh, hsaved.mpr hmb, ?_⟩
    calc (simulateExecution packet).hotPathBeforeMs
        = sumFrameValue (summarizeFrames (packet.map simulateCommand))
              ExecutionFrameResult.removedCostMs +
            sumFrameValue (summarizeFrames (packet.map simulateCommand))
              ExecutionFrameResult.prestagedCostMs +
            sumFrameValue (summarizeFrames (packet.map simulateCommand))
              ExecutionFrameResult.setupCostMs +
            sumFrameValue (summarizeFrames (packet.map simulateCommand))
              ExecutionFrameResult.protectedHotPathCostMs := sum_before _
      _ = sumApplied (packet.map simulateCommand) := by
          rw [hr, hp, hs, hh, sumApplied_eq]

/-- A transfer that is skipped outside any frame. -/
def framelessTransfer : ExecutionCommand where
  sequence := 1
  action := .skipTransfer
  window := .never
  phase := .suppress
  operationId := "copy_again"
  frame := none
  path := "ram->ram"
  targetResourceId := none
  valueMb := 4
  costMs := 1
  expectedSavedMs := 1
  expectedSavedMb := 4
  sourceDirective := .suppressRedundantHop
  reason := "Redundant hop."

/-- It is applied, and in no total. -/
theorem frameless_uncovered : ¬ ∀ packet : List ExecutionCommand, TotalsCover packet := by
  intro h
  have hremoved := (h [framelessTransfer]).1
  exact absurd hremoved (by decide +kernel)

end FluidGateway.ControlLoop
