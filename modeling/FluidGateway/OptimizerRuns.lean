import FluidGateway.OptimizerLog

/-!
# Runs of the reference optimizer

Resources are registered and released, and operations submitted, in any order.
A run keeps the remembered operations valid and is a run of the provenance
ledger.
-/

namespace FluidGateway.Runtime

open KeyedMap Provenance Resolution

/-- What the controller does to the optimization state. -/
inductive Update where
  | register (resource : RuntimeResource)
  | release (id : String)
  | process (operation : RuntimeOperation)
  deriving DecidableEq, Repr

variable (casing : Casing)

/-- `register_resource` of the controller, on a parsed resource. -/
def RuntimeOptimizationState.register (s : RuntimeOptimizationState) (resource : RuntimeResource) :
    Except String Unit × RuntimeOptimizationState :=
  if s.resources.contains resource.id then
    (.error ("Duplicate resource id: " ++ resource.id), s)
  else (.ok (), { s with resources := s.resources.insert resource })

/-- Run one update: the kept operation and its decision, where there is one,
and the state afterwards. -/
def RuntimeOptimizationState.update (s : RuntimeOptimizationState) :
    Update → Except String (Option (RuntimeOperation × Option RuntimeDecision)) ×
      RuntimeOptimizationState
  | .register resource =>
    match s.register resource with
    | (.error e, s) => (.error e, s)
    | (.ok _, s) => (.ok none, s)
  | .release id => (.ok none, (s.releaseResource id).2)
  | .process operation =>
    match s.process casing operation with
    | (.error e, s) => (.error e, s)
    | (.ok result, s) => (.ok (some result), s)

/-- One update of a run, with the state it was made in. -/
structure Step where
  pre : RuntimeOptimizationState
  update : Update

namespace Step

def outcome (e : Step) : Except String (Option (RuntimeOperation × Option RuntimeDecision)) :=
  (e.pre.update casing e.update).1

def post (e : Step) : RuntimeOptimizationState :=
  (e.pre.update casing e.update).2

/-- The operation was executed in this step; `operation` is the one kept. -/
def Executed (e : Step) (operation : RuntimeOperation) : Prop :=
  ∃ raw, e.update = .process raw ∧ e.outcome casing = .ok (some (operation, none))

/-- The resource was registered in this step. -/
def Registered (e : Step) (id : String) : Prop :=
  ∃ resource, e.update = .register resource ∧ resource.id = id ∧ e.outcome casing = .ok none

/-- The ledger step that an update performs. -/
def act (e : Step) : Act String View RuntimeOperation :=
  match e.update, e.outcome casing with
  | .register resource, .ok _ => .register resource.id resource.view
  | .release id, _ => .release id
  | .process _, .ok (some (operation, none)) => RuntimeOptimizationState.effect operation
  | _, _ => .pass

end Step

/-- A run of updates, the latest first. -/
inductive Run : RuntimeOptimizationState → List Step → Prop
  | start (resources : ResourceTable) : Run { resources } []
  | update {s : RuntimeOptimizationState} {trail : List Step} (run : Run s trail) (u : Update) :
      Run (s.update casing u).2 (⟨s, u⟩ :: trail)

/-- Make updates one after the other. -/
def replay : List Update → RuntimeOptimizationState × List Step →
    RuntimeOptimizationState × List Step
  | [], at_ => at_
  | u :: updates, (s, trail) => replay updates ((s.update casing u).2, ⟨s, u⟩ :: trail)

theorem Run.replay {s : RuntimeOptimizationState} {trail : List Step} (hrun : Run casing s trail)
    (updates : List Update) :
    Run casing (replay casing updates (s, trail)).1 (replay casing updates (s, trail)).2 := by
  induction updates generalizing s trail with
  | nil => exact hrun
  | cons u updates ih => exact ih (hrun.update u)

variable {casing}

theorem Step.post_valid (e : Step) (hs : e.pre.Valid) : (e.post casing).Valid := by
  obtain ⟨s, u⟩ := e
  unfold Step.post
  cases u with
  | register resource =>
      simp only [RuntimeOptimizationState.update, RuntimeOptimizationState.register]
      split_ifs
      · exact hs
      · exact RuntimeOptimizationState.Valid.register hs resource
  | release id => exact RuntimeOptimizationState.Valid.release hs id
  | process operation =>
      have hspec := s.process_spec casing operation
      simp only [RuntimeOptimizationState.update]
      generalize s.process casing operation = result at hspec ⊢
      obtain ⟨out, s'⟩ := result
      have hvalid := hspec.valid hs
      cases out <;> exact hvalid

/-- **Every update is one step of the ledger.** -/
theorem Step.post_ledger (e : Step) (hs : e.pre.Valid) :
    (e.post casing).ledger = e.pre.ledger.step machine (e.act casing) := by
  obtain ⟨s, u⟩ := e
  simp only [Step.post, Step.act, Step.outcome]
  cases u with
  | register resource =>
      simp only [RuntimeOptimizationState.update, RuntimeOptimizationState.register]
      by_cases hknown : s.resources.contains resource.id = true
      · simp only [if_pos hknown]
        rfl
      · simp only [if_neg hknown]
        refine RuntimeOptimizationState.ledger_register hs ?_
        by_contra hne
        exact hknown ((s.resources.contains_iff _).mpr hne)
  | release id => exact s.ledger_release id
  | process operation =>
      have hspec := s.process_spec casing operation
      simp only [RuntimeOptimizationState.update]
      generalize s.process casing operation = result at hspec ⊢
      obtain ⟨out, s'⟩ := result
      have hledger := hspec.ledger
      cases out with
      | error e => exact hledger
      | ok accepted =>
          obtain ⟨kept, decision⟩ := accepted
          cases decision <;> exact hledger

theorem Run.valid {s : RuntimeOptimizationState} {trail : List Step} (h : Run casing s trail) :
    s.Valid := by
  induction h with
  | start resources => exact RuntimeOptimizationState.valid_start resources
  | @update s trail _ u ih => exact Step.post_valid ⟨s, u⟩ ih

/-- The steps of a run, as steps of the ledger. -/
def ledgerTrail (casing : Casing) (trail : List Step) :
    List (Ledger String View RuntimeOperation × Act String View RuntimeOperation) :=
  trail.map fun e => (e.pre.ledger, e.act casing)

/-- **A run of updates is a run of the ledger**, from a ledger without
records. -/
theorem Run.ledger {s : RuntimeOptimizationState} {trail : List Step} (h : Run casing s trail) :
    ∃ L₀, (∀ k, L₀.copy k = none) ∧
      Provenance.Run machine L₀ s.ledger (ledgerTrail casing trail) := by
  induction h with
  | start resources => exact ⟨_, fun _ => rfl, .start⟩
  | @update s trail hrun u ih =>
      obtain ⟨L₀, hempty, hledger⟩ := ih
      refine ⟨L₀, hempty, ?_⟩
      have hstep : (Step.post casing ⟨s, u⟩).ledger = _ := Step.post_ledger ⟨s, u⟩ hrun.valid
      change Provenance.Run machine _ (Step.post casing ⟨s, u⟩).ledger _
      rw [hstep]
      exact .step hledger _

/-- A step that transfers is a step that executes a copy or upload. -/
theorem Step.executed_of_transfer {e : Step} {target : String} {r : RuntimeOperation}
    (h : e.act casing = .transfer (some target) r) :
    e.Executed casing r ∧ r.type.transfers = true ∧ r.target = some target := by
  have heffect : ∀ operation, RuntimeOptimizationState.effect operation =
      .transfer (some target) r → operation = r ∧ r.type.transfers = true ∧
        r.target = some target := by
    intro operation h
    unfold RuntimeOptimizationState.effect at h
    split_ifs at h with htransfers
    rw [Act.transfer.injEq] at h
    obtain ⟨htarget, rfl⟩ := h
    exact ⟨rfl, htransfers, htarget⟩
  unfold Step.act at h
  split at h
  · cases h
  · cases h
  · rename_i raw operation hupdate houtcome
    obtain ⟨rfl, htransfers, htarget⟩ := heffect _ h
    exact ⟨⟨raw, hupdate, houtcome⟩, htransfers, htarget⟩
  · cases h

theorem Step.act_of_registered {e : Step} {id : String} (h : e.Registered casing id) :
    ∃ v, e.act casing = .register id v := by
  obtain ⟨resource, hupdate, rfl, houtcome⟩ := h
  exact ⟨resource.view, by simp only [Step.act, hupdate, houtcome]⟩

theorem Step.registered_of_act {e : Step} {id : String} {v : View}
    (h : e.act casing = .register id v) : e.Registered casing id := by
  unfold Step.act at h
  split at h
  · rename_i resource out hupdate houtcome
    rw [Act.register.injEq] at h
    refine ⟨resource, hupdate, h.1, ?_⟩
    -- a registration that succeeds returns no decision
    unfold Step.outcome RuntimeOptimizationState.update RuntimeOptimizationState.register
      at houtcome ⊢
    rw [hupdate] at houtcome ⊢
    dsimp only at houtcome ⊢
    split_ifs at houtcome ⊢
    rfl
  · cases h
  · unfold RuntimeOptimizationState.effect at h
    split_ifs at h
  · cases h

theorem Step.act_of_release {e : Step} {id : String} (h : e.update = .release id) :
    e.act casing = .release id := by
  simp only [Step.act, h]

end FluidGateway.Runtime
