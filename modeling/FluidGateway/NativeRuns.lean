import FluidGateway.NativeLedger

/-!
# Runs of the native state

`Processed` lists what `State.process` can do, once; everything below about a
call is a case analysis of it.  A run of calls keeps the pointers valid
(`Run.valid`) and is a run of the provenance ledger (`Run.ledger`), so that the
pointer a resource holds has its full history (`Run.copy_iff`).
-/

namespace FluidGateway.Native

open KeyedMap Provenance

@[simp] theorem Refusal.thrown_fatal (r : Refusal) : r.thrown.fatal = true := by
  cases r <;> rfl

namespace State

@[simp] theorem framed_id (s : State) (op : Operation) : (s.framed op).id = op.id := rfl
@[simp] theorem framed_type (s : State) (op : Operation) : (s.framed op).type = op.type := rfl
@[simp] theorem framed_target (s : State) (op : Operation) :
    (s.framed op).target = op.target := rfl
@[simp] theorem framed_dependencies (s : State) (op : Operation) :
    (s.framed op).dependencies = op.dependencies := rfl

/-- The record of an executed operation. -/
def executedRecord (s : State) (op : Operation) : StoredOperation :=
  stored (s.framed op) false [] false

/-- The replacement list of an eliminated operation. -/
def retainedNames (s : State) (op : Operation) : List Text :=
  s.replacements (s.choose (s.framed op)).2 op.dependencies

/-- The record of an eliminated operation. -/
def eliminatedRecord (s : State) (op : Operation) : StoredOperation :=
  stored (s.framed op) true (s.retainedNames op) (s.retainedNames op).isEmpty

/-- Everything that submitting `op` can do. -/
inductive Processed (s : State) (op : Operation) : Except Thrown Decision → State → Prop
  | duplicate (known : s.operations.lookup op.id ≠ none) :
      Processed s op (.error (.error ⟨11, "Duplicate operation id.", false⟩)) s
  | full (e : Thrown) (fatal : e.fatal = true) (fresh : s.operations.lookup op.id = none) :
      Processed s op (.error e) s
  | refused (e : Thrown) (fatal : e.fatal = true) (fresh : s.operations.lookup op.id = none)
      (choice : (s.choose (s.framed op)).1 ≠ 0) (names : List Text) :
      Processed s op (.error e) (s.record (stored (s.framed op) true names false))
  | executed (fresh : s.operations.lookup op.id = none)
      (choice : (s.choose (s.framed op)).1 = 0) :
      Processed s op (.ok { opcode := 0, operation := true })
        ((s.record (s.executedRecord op)).settle (s.framed op))
  | eliminated (fresh : s.operations.lookup op.id = none)
      (choice : (s.choose (s.framed op)).1 ≠ 0) :
      Processed s op
        (.ok { opcode := (s.choose (s.framed op)).1, operation := true,
               savedUs := op.microseconds,
               savedBytes := if op.type ≠ 2 then op.bytes else 0 })
        (s.record (s.eliminatedRecord op))

theorem process_spec (s : State) (g : Grant) (op : Operation) :
    s.Processed op (s.process g op).1 (s.process g op).2 := by
  unfold process
  by_cases hknown : s.operations.lookup op.id ≠ none
  · rw [if_pos hknown]
    exact .duplicate hknown
  rw [if_neg hknown]
  have hfresh := not_not.mp hknown
  by_cases hfull : s.operations.entries.length = operationLimit
  · rw [if_pos hfull]
    exact .full _ rfl hfresh
  rw [if_neg hfull]
  by_cases hroom : g.room = 0
  · rw [if_pos hroom]
    exact .full _ g.refusal.thrown_fatal hfresh
  rw [if_neg hroom]
  by_cases hchoice : (s.choose (s.framed op)).1 = 0
  · simp only [if_pos hchoice]
    exact .executed hfresh hchoice
  simp only [if_neg hchoice]
  by_cases hshort : g.room - 1 <
      (s.replacements (s.choose (s.framed op)).2 (s.framed op).dependencies).length
  · simp only [if_pos hshort]
    exact .refused _ g.refusal.thrown_fatal hfresh hchoice _
  · simp only [if_neg hshort]
    exact .eliminated hfresh hchoice

theorem Processed.valid {s s' : State} {op : Operation} {out : Except Thrown Decision}
    (h : s.Processed op out s') (hs : s.Valid) : s'.Valid := by
  cases h with
  | duplicate => exact hs
  | full => exact hs
  | refused _ _ fresh _ names => exact hs.record (stored (s.framed op) true names false) fresh
  | executed fresh choice =>
      have hrec := hs.record (s.executedRecord op) fresh
      exact hrec.settle (s.executedRecord op) (AList.lookup_insert _) rfl rfl
  | eliminated fresh choice => exact hs.record (s.eliminatedRecord op) fresh

/-- Submitting an operation leaves the open frame alone. -/
theorem Processed.currentFrame {s s' : State} {op : Operation} {out : Except Thrown Decision}
    (h : s.Processed op out s') : s'.currentFrame = s.currentFrame := by
  cases h with
  | executed => exact settle_currentFrame _ _
  | _ => rfl

end State

/-! ## Calls -/

/-- The step of the ledger that a call performs. -/
def Step.act (e : Step) : Act Text View StoredOperation :=
  match e.call, e.outcome with
  | .register id memory aliases, .ok _ => .register id (memory, aliases)
  | .release id, _ => .release id
  | .process op, .ok d =>
    if d.opcode = 0 then State.effect (e.pre.framed op) (e.pre.executedRecord op) else .pass
  | _, _ => .pass

/-- The operation was submitted in this step and executed; `op` has its
effective frame. -/
def Step.Executed (e : Step) (op : Operation) : Prop :=
  ∃ raw d, e.call = .process raw ∧ e.outcome = .ok d ∧ d.opcode = 0 ∧ op = e.pre.framed raw

/-- The resource was registered in this step. -/
def Step.Registered (e : Step) (id : Text) : Prop :=
  ∃ memory aliases d, e.call = .register id memory aliases ∧ e.outcome = .ok d

theorem Step.post_valid (e : Step) (hs : e.pre.Valid) : e.post.Valid := by
  obtain ⟨s, g, c⟩ := e
  unfold Step.post
  cases c with
  | beginFrame frame =>
      simp only [State.call, State.beginFrame]
      split
      · exact hs
      · exact ⟨hs.key, hs.copy, hs.allocation⟩
  | endFrame frame =>
      simp only [State.call, State.endFrame]
      split
      · exact hs
      · exact ⟨hs.key, hs.copy, hs.allocation⟩
  | endSession =>
      simp only [State.call, State.endSession]
      split <;> exact hs
  | register id memory aliases =>
      simp only [State.call, State.registerResource]
      split_ifs
      · exact hs
      · exact hs
      · exact hs
      · exact hs.register id memory aliases
  | release id => exact hs.release id
  | process op => exact (s.process_spec g op).valid hs

/-- **Every call is one step of the ledger.** -/
theorem Step.post_ledger (e : Step) (hs : e.pre.Valid) :
    e.post.ledger = e.pre.ledger.step machine e.act := by
  obtain ⟨s, g, c⟩ := e
  simp only [Step.post, Step.act, Step.outcome] at hs ⊢
  cases c with
  | beginFrame frame =>
      simp only [State.call, State.beginFrame]
      split <;> rfl
  | endFrame frame =>
      simp only [State.call, State.endFrame]
      split <;> rfl
  | endSession =>
      simp only [State.call, State.endSession]
      split <;> rfl
  | register id memory aliases =>
      simp only [State.call, State.registerResource]
      split_ifs
      · rfl
      · rfl
      · rfl
      · exact s.ledger_register id memory aliases
  | release id => exact s.ledger_release id
  | process op =>
      have hspec := s.process_spec g op
      simp only [State.call]
      generalize s.process g op = result at hspec ⊢
      obtain ⟨out, s'⟩ := result
      cases hspec with
      | duplicate => rfl
      | full => rfl
      | refused _ _ fresh _ names =>
          exact State.ledger_record hs (State.stored (s.framed op) true names false) fresh
      | executed fresh choice =>
          simp only [if_true]
          rw [← State.ledger_record hs (s.executedRecord op) fresh]
          exact State.ledger_settle (AList.lookup_insert _)
      | eliminated fresh choice =>
          simp only [if_neg choice]
          exact State.ledger_record hs (s.eliminatedRecord op) fresh

/-! ## Runs -/

theorem valid_empty : State.Valid {} := by
  refine ⟨?_, ?_, ?_⟩
  · intro id op h
    cases h
  · intro t r p h
    cases h
  · intro t r p h
    cases h

theorem Run.valid {s : State} {trail : List Step} (h : Run s trail) : s.Valid := by
  induction h with
  | start => exact valid_empty
  | @call s trail _ g c _ ih => exact Step.post_valid ⟨s, g, c⟩ ih

/-- The call did not end the session. -/
def Step.alive (e : Step) : Bool :=
  match e.outcome with
  | .ok _ => true
  | .error t => !t.fatal

/-- Make calls one after the other on a state, each with the same grant. -/
def replay (g : Grant) : List Call → State × List Step → State × List Step
  | [], at_ => at_
  | c :: calls, (s, trail) => replay g calls ((s.call g c).2, ⟨s, g, c⟩ :: trail)

theorem replay_append_trail (g : Grant) (calls : List Call) (s : State) (trail : List Step) :
    ∃ newer, (replay g calls (s, trail)).2 = newer ++ trail := by
  induction calls generalizing s trail with
  | nil => exact ⟨[], rfl⟩
  | cons c calls ih =>
      obtain ⟨newer, h⟩ := ih (s.call g c).2 (⟨s, g, c⟩ :: trail)
      exact ⟨newer ++ [⟨s, g, c⟩], by simpa [replay] using h⟩

/-- Replayed calls form a run as long as none of them ends the session. -/
theorem Run.replay {s : State} {trail : List Step} (hrun : Run s trail) (g : Grant)
    (calls : List Call) (halive : ((replay g calls (s, trail)).2.all Step.alive) = true) :
    Run (replay g calls (s, trail)).1 (replay g calls (s, trail)).2 := by
  induction calls generalizing s trail with
  | nil => exact hrun
  | cons c calls ih =>
      obtain ⟨newer, htrail⟩ := replay_append_trail g calls (s.call g c).2 (⟨s, g, c⟩ :: trail)
      have hc : Step.alive ⟨s, g, c⟩ = true := by
        simp only [Native.replay, htrail, List.all_append, List.all_cons, Bool.and_eq_true] at halive
        exact halive.2.1
      refine ih (hrun.call g c ?_) halive
      intro t ht
      simpa [Step.alive, Step.outcome, ht] using hc

/-- The steps of a run, as steps of the ledger. -/
def ledgerTrail (trail : List Step) : List (Ledger Text View StoredOperation × Act Text View StoredOperation) :=
  trail.map fun e => (e.pre.ledger, e.act)

/-- **A run of calls is a run of the ledger.** -/
theorem Run.ledger {s : State} {trail : List Step} (h : Run s trail) :
    Provenance.Run machine (State.ledger {}) s.ledger (ledgerTrail trail) := by
  induction h with
  | start => exact .start
  | @call s trail hrun g c _ ih =>
      have hstep := Step.post_ledger ⟨s, g, c⟩ hrun.valid
      change Provenance.Run machine _ (Step.post ⟨s, g, c⟩).ledger _
      rw [hstep]
      exact .step ih _

/-- A resource that does not exist remembers nothing. -/
theorem ledger_empty_copy (id : Text) : (State.ledger {}).copy id = none := rfl

end FluidGateway.Native
