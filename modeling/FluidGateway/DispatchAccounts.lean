import FluidGateway.DispatchPlan
import Mathlib.Tactic.IntervalCases

/-!
# Accounts of an executed dispatch plan

Execution puts the cost of a command into one of four accounts by the name of the
command.  One name that the plan uses has no branch of its own: work prepared
before the hot path ends as `ignored`, and its cost in no account
(`accounted_iff`).
-/

namespace FluidGateway.ControlLoop

open FluidGateway.Runtime (round4)
open Sequencing (sortBy numbered)

/-! ## The four accounts -/

/-- Current frame, before the frame, avoided, deferred. -/
def DispatchExecutionStep.accounts (step : DispatchExecutionStep) : List ℚ :=
  [step.currentFrameCostMs, step.preFrameCostMs, step.avoidedCostMs, step.deferredCostMs]

/-- One account has the cost, and the others have nothing. -/
def InOneAccount (cost : ℚ) (accounts : List ℚ) : Prop :=
  ∃ i < 4, accounts = (List.replicate 4 0).set i cost

/-- All the work of the plan is accounted for when the plan is executed. -/
def Accounted (plan : RuntimeDispatchPlan) : Prop :=
  (executeDispatchPlan plan).currentFrameCostMs + (executeDispatchPlan plan).preFrameCostMs +
      (executeDispatchPlan plan).avoidedCostMs + (executeDispatchPlan plan).deferredCostMs =
    plan.totalCostMs ∧
  ∀ command ∈ plan.commands, command.operationId.isSome →
    InOneAccount command.costMs (executionStep command).accounts ∧
      (executionStep command).outcome ≠ .ignored

/-- The names of the work that execution has a branch for. -/
def DispatchName.executed : DispatchName → Bool
  | .dropOperation | .prestageOperation | .executeOperation | .deferOrSplitOperation => true
  | _ => false

theorem inOneAccount_of_executed {command : DispatchCommand} (h : command.command.executed) :
    InOneAccount command.costMs (executionStep command).accounts ∧
      (executionStep command).outcome ≠ .ignored := by
  unfold executionStep
  cases hname : command.command <;> simp only [hname, DispatchName.executed,
    Bool.false_eq_true] at h
  · exact ⟨⟨2, by omega, rfl⟩, nofun⟩
  · exact ⟨⟨1, by omega, rfl⟩, nofun⟩
  · exact ⟨⟨0, by omega, rfl⟩, nofun⟩
  · exact ⟨⟨3, by omega, rfl⟩, nofun⟩

theorem sum_of_inOneAccount {cost : ℚ} {accounts : List ℚ} (h : InOneAccount cost accounts) :
    accounts.sum = cost := by
  obtain ⟨i, hi, rfl⟩ := h
  interval_cases i <;> simp [List.replicate]

/-- The four accounts of an execution are the sum of those of its steps. -/
theorem sum_accounts (commands : List DispatchCommand) :
    sumValue (commands.map executionStep) DispatchExecutionStep.currentFrameCostMs +
        sumValue (commands.map executionStep) DispatchExecutionStep.preFrameCostMs +
        sumValue (commands.map executionStep) DispatchExecutionStep.avoidedCostMs +
        sumValue (commands.map executionStep) DispatchExecutionStep.deferredCostMs =
      (commands.map fun command => (executionStep command).accounts.sum).sum := by
  unfold sumValue
  induction commands with
  | nil => simp
  | cons command commands ih =>
      simp only [List.map_cons, List.sum_cons, ← ih]
      unfold DispatchExecutionStep.accounts
      simp only [List.sum_cons, List.sum_nil]
      ring

/-! ## The commands of a plan -/

section

variable (arbitration : BudgetArbitrationPlan) (packet : List ExecutionCommand)

/-- A command of the plan is for an arbitrated operation, or for a memory layer and
without cost. -/
theorem plan_command_cases {command : DispatchCommand}
    (h : command ∈ (buildRuntimeDispatchPlan arbitration packet).commands) :
    (∃ arbitrated ∈ arbitration.commands, (dispatchShape arbitrated).1.isSome ∧
        command.command = (dispatchShape arbitrated).2.1) ∨
      command.operationId = none ∧ command.costMs = 0 ∧
        (executionStep command).accounts = [0, 0, 0, 0] := by
  obtain ⟨i, unnumbered, hmem, rfl⟩ := Sequencing.mem_numbered h
  have hcommands := (Sequencing.sortBy_perm dispatchKey _).mem_iff.mp hmem
  obtain hoperation | hmemory := List.mem_append.mp hcommands
  · obtain ⟨arbitrated, harbitrated, hdispatch⟩ := List.mem_filterMap.mp hoperation
    refine Or.inl ⟨arbitrated, harbitrated, ?_⟩
    unfold dispatchFromArbitration at hdispatch
    obtain ⟨phase, hphase, rfl⟩ := Option.map_eq_some_iff.mp hdispatch
    have hshape : (dispatchShape arbitrated).1 = some phase := hphase
    exact ⟨by rw [hshape]; rfl, rfl⟩
  · obtain ⟨action, -, rfl⟩ := List.mem_map.mp hmemory
    refine Or.inr ⟨rfl, round4_zero, ?_⟩
    unfold executionStep dispatchPayload dispatchFromMemory
    cases action.decision <;> rfl

/-- Every arbitrated operation has its command in the plan. -/
theorem plan_has_command {arbitrated : CommandArbitration} (hmem : arbitrated ∈ arbitration.commands)
    (hphase : (dispatchShape arbitrated).1.isSome) :
    ∃ command ∈ (buildRuntimeDispatchPlan arbitration packet).commands,
      command.operationId = some arbitrated.operationId ∧
        command.command = (dispatchShape arbitrated).2.1 := by
  obtain ⟨phase, hsome⟩ := Option.isSome_iff_exists.mp hphase
  obtain ⟨command, hdispatch, hoperation, hname⟩ : ∃ command,
      dispatchFromArbitration (packetByOperation packet) arbitrated = some command ∧
        command.operationId = some arbitrated.operationId ∧
          command.command = (dispatchShape arbitrated).2.1 := by
    unfold dispatchFromArbitration
    simp only [hsome, Option.map_some]
    exact ⟨_, rfl, rfl, rfl⟩
  have hcommand : command ∈ sortDispatch (dispatchCommands arbitration packet) := by
    apply (Sequencing.sortBy_perm dispatchKey _).mem_iff.mpr
    exact List.mem_append_left _ (List.mem_filterMap.mpr ⟨arbitrated, hmem, hdispatch⟩)
  obtain ⟨i, hi⟩ : ∃ i, dispatchPayload i command ∈
      (buildRuntimeDispatchPlan arbitration packet).commands :=
    Sequencing.exists_mem_numbered hcommand
  exact ⟨dispatchPayload i command, hi, hoperation, hname⟩

/-- Apart from prepared work, what has a phase is executed. -/
theorem executed_of_shape {arbitrated : CommandArbitration}
    (hphase : (dispatchShape arbitrated).1.isSome)
    (hprepared : arbitrated.decision ≠ .prepareBeforeHotPath) :
    (dispatchShape arbitrated).2.1.executed := by
  unfold dispatchShape at hphase ⊢
  cases hdecision : arbitrated.decision <;> simp_all [DispatchName.executed]

/-- **All the work of a plan.** Executing the plan of an arbitration accounts for all its
work exactly when nothing was to be prepared before the hot path. -/
theorem accounted_iff :
    Accounted (buildRuntimeDispatchPlan arbitration packet) ↔
      ∀ arbitrated ∈ arbitration.commands, arbitrated.decision ≠ .prepareBeforeHotPath := by
  constructor
  · intro haccounted arbitrated hmem hprepared
    have hshape : dispatchShape arbitrated = (some .setup, .prepareOperation, .scheduled) := by
      unfold dispatchShape
      rw [hprepared]
    obtain ⟨command, hcommand, hoperation, hname⟩ :=
      plan_has_command arbitration packet hmem (by rw [hshape]; rfl)
    rw [hshape] at hname
    apply (haccounted.2 command hcommand (by rw [hoperation]; rfl)).2
    unfold executionStep
    rw [hname]
    rfl
  · intro hprepared
    have hexecuted : ∀ command ∈ (buildRuntimeDispatchPlan arbitration packet).commands,
        command.command.executed ∨ command.operationId = none ∧ command.costMs = 0 ∧
          (executionStep command).accounts = [0, 0, 0, 0] := by
      intro command hcommand
      obtain ⟨arbitrated, hmem, hphase, hname⟩ | hmemory :=
        plan_command_cases arbitration packet hcommand
      · exact Or.inl (hname ▸ executed_of_shape hphase (hprepared arbitrated hmem))
      · exact Or.inr hmemory
    refine ⟨?_, ?_⟩
    · refine (sum_accounts _).trans (congrArg List.sum (List.map_congr_left ?_))
      intro command hcommand
      obtain hname | ⟨-, hcost, hnone⟩ := hexecuted command hcommand
      · exact sum_of_inOneAccount (inOneAccount_of_executed hname).1
      · rw [hnone, hcost]
        simp
    · intro command hcommand hoperation
      obtain hname | ⟨hmemory, -⟩ := hexecuted command hcommand
      · exact inOneAccount_of_executed hname
      · rw [hmemory] at hoperation
        cases hoperation

end

/-- An arbitration that prepares a pool before the hot path. -/
def pooledArbitration : BudgetArbitrationPlan :=
  buildBudgetArbitration
    [{ sequence := 1, action := .poolAllocation, window := .setup, phase := .pool,
       operationId := "allocate_scratch", frame := some 1, path := "ram->ram",
       targetResourceId := none, valueMb := 8, costMs := 2, expectedSavedMs := 0,
       expectedSavedMb := 0, sourceDirective := .poolTransientAllocation,
       reason := "Transient allocation." }]
    { profile := .stable, nextFramePolicy := "maintain-current-envelope", frames := [],
      memoryLayers := [] }

/-- Prepared work ends in no account. -/
theorem prepared_work_unaccounted :
    ¬ ∀ (arbitration : BudgetArbitrationPlan) (packet : List ExecutionCommand),
      Accounted (buildRuntimeDispatchPlan arbitration packet) := by
  intro h
  have hcost := (h pooledArbitration []).1
  exact absurd hcost (by decide +kernel)

/-! ## Sorting and numbering -/

/-- The two amounts of a command, with four decimals. -/
def roundDispatch (command : DispatchCommand) : DispatchCommand :=
  { command with costMs := round4 command.costMs, valueMb := round4 command.valueMb }

def numberDispatch (sequence : Nat) (command : DispatchCommand) : DispatchCommand :=
  { command with sequence }

theorem roundDispatch_eq_iff {command : DispatchCommand} :
    roundDispatch command = command ↔
      round4 command.costMs = command.costMs ∧ round4 command.valueMb = command.valueMb := by
  unfold roundDispatch
  rw [DispatchCommand.ext_iff]
  simp

theorem dispatchCommands_sequence {arbitration : BudgetArbitrationPlan}
    {packet : List ExecutionCommand} {command : DispatchCommand}
    (h : command ∈ dispatchCommands arbitration packet) : numberDispatch 0 command = command := by
  obtain hoperation | hmemory := List.mem_append.mp h
  · obtain ⟨arbitrated, -, hdispatch⟩ := List.mem_filterMap.mp hoperation
    unfold dispatchFromArbitration at hdispatch
    obtain ⟨phase, -, rfl⟩ := Option.map_eq_some_iff.mp hdispatch
    rfl
  · obtain ⟨action, -, rfl⟩ := List.mem_map.mp hmemory
    rfl

/-- The commands of a plan are the mapped ones, sorted and numbered, exactly when every
amount has at most four decimals. -/
theorem dispatch_resequenced_iff (arbitration : BudgetArbitrationPlan)
    (packet : List ExecutionCommand) :
    (∃ sorted, Sequencing.StablySorted dispatchKey (dispatchCommands arbitration packet) sorted ∧
        (buildRuntimeDispatchPlan arbitration packet).commands =
          numbered numberDispatch sorted) ↔
      ∀ command ∈ dispatchCommands arbitration packet,
        round4 command.costMs = command.costMs ∧ round4 command.valueMb = command.valueMb := by
  have hfixed : (∃ sorted,
      Sequencing.StablySorted dispatchKey (dispatchCommands arbitration packet) sorted ∧
        numbered (fun i command => numberDispatch i (roundDispatch command))
            (sortBy dispatchKey (dispatchCommands arbitration packet)) =
          numbered numberDispatch sorted) ↔
      ∀ command ∈ dispatchCommands arbitration packet, roundDispatch command = command :=
    Sequencing.numbered_sortBy_iff (numberDispatch 0) (fun _ _ => rfl) (fun _ => rfl)
      (fun command => by simp only [roundDispatch, round4_round4])
      (fun _ => dispatchCommands_sequence)
  simp only [roundDispatch_eq_iff] at hfixed
  exact hfixed

end FluidGateway.ControlLoop
