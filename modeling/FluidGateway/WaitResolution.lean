import FluidGateway.NativeRuns
import FluidGateway.Lib.Resolution

/-!
# What a dropped wait was waiting for

The native engine drops a wait when all its dependencies are removed, that is,
eliminated with nothing retained in their place.  It never follows a dependency
graph: the replacement list of an eliminated operation is flattened once, when
the operation is recorded.  Here the recorded lists are compared with the walk
through the whole history of the session.
-/

namespace FluidGateway.Native

open KeyedMap Resolution

/-- The executed operation in whose favour an operation is eliminated: the
retained transfer or allocation of its target, or the current producing
transfer of its source. -/
def Step.replacedBy (e : Step) (op : Operation) (opcode : UInt8) : Option Text :=
  if opcode = 2 then (e.pre.ledger.copy op.target).map StoredOperation.id
  else if opcode = 6 then
    (e.pre.resources.lookup op.target).bind fun r =>
      (e.pre.deref r.allocation).map StoredOperation.id
  else if opcode = 3 then (e.pre.ledger.copy op.source).map StoredOperation.id
  else none

/-- The entry that an accepted operation adds to the history. -/
def Step.entry (e : Step) : Option (Entry Text) :=
  match e.call, e.outcome with
  | .process op, .ok d =>
    some { id := op.id, eliminated := d.opcode != 0, retained := e.replacedBy op d.opcode,
           dependencies := op.dependencies }
  | _, _ => none

/-- The accepted operations of a run, the latest first. -/
def entries (trail : List Step) : List (Entry Text) :=
  trail.filterMap Step.entry

namespace State

/-- The recorded operations as a table of flattened lists. -/
def table (s : State) : Table Text :=
  fun id => (s.operations.lookup id).map fun op => (op.eliminated, op.replacements)

theorem expand_eq (s : State) (d : Text) : s.expand d = Resolution.expand s.table d := by
  unfold State.expand Resolution.expand table
  cases s.operations.lookup d with
  | none => rfl
  | some op =>
      simp only [Option.map_some]
      cases op.eliminated <;> rfl

theorem table_record (s : State) (op : StoredOperation) :
    (s.record op).table = Function.update s.table op.id (some (op.eliminated, op.replacements)) := by
  funext id
  by_cases hid : id = op.id
  · subst hid
    simp [table, State.record]
  · simp [table, State.record, AList.lookup_insert_ne hid, Function.update_of_ne hid]

/-- A pointer is the id of the operation it leads to. -/
theorem Valid.deref_id {s : State} (hs : s.Valid) {t p : Text} (hp : s.Points t p) :
    (s.deref (some p)).map StoredOperation.id = some p := by
  obtain ⟨op, hop, -⟩ := hp
  simp [deref, hop, hs.key hop]

theorem Valid.copy_id {s : State} (hs : s.Valid) {t : Text} {r : Resource}
    (hr : s.resources.lookup t = some r) :
    (s.ledger.copy t).map StoredOperation.id = r.copy := by
  simp only [ledger, hr, Option.bind_some]
  cases hp : r.copy with
  | none => rfl
  | some p => exact hs.deref_id (hs.copy hr hp)

theorem Valid.allocation_id {s : State} (hs : s.Valid) {t : Text} {r : Resource}
    (hr : s.resources.lookup t = some r) :
    (s.deref r.allocation).map StoredOperation.id = r.allocation := by
  cases hp : r.allocation with
  | none => rfl
  | some p => exact hs.deref_id (hs.allocation hr hp)

/-- The decision with the operation retained for it, by opcode. -/
inductive Chosen (s : State) (op : Operation) : UInt8 × Option Text → Prop
  | execute : Chosen s op (0, none)
  | selfCopy : Chosen s op (1, none)
  | aliased {source : Resource} (h : s.resources.lookup op.source = some source) :
      Chosen s op (3, source.copy)
  | repeated {target : Resource} (h : s.resources.lookup op.target = some target) :
      Chosen s op (2, target.copy)
  | orphan (h : s.allRemoved op.dependencies = true) : Chosen s op (4, none)
  | empty : Chosen s op (5, none)
  | reuse {target : Resource} (h : s.resources.lookup op.target = some target) :
      Chosen s op (6, target.allocation)

theorem choose_spec (s : State) (op : Operation) : s.Chosen op (s.choose op) := by
  unfold choose
  by_cases htransfer : op.type = 1 ∨ op.type = 4
  · rw [if_pos htransfer]
    cases hsource : s.resources.lookup op.source with
    | none => exact .execute
    | some source =>
        cases htarget : s.resources.lookup op.target with
        | none => exact .execute
        | some target =>
            dsimp only
            split_ifs
            · exact .selfCopy
            · exact .aliased hsource
            · exact .repeated htarget
            · exact .execute
  rw [if_neg htransfer]
  by_cases hsync : op.type = 2
  · rw [if_pos hsync]
    split_ifs with hremoved
    · exact .orphan hremoved
    · exact .empty
    · exact .execute
  rw [if_neg hsync]
  by_cases halloc : op.type = 3
  · rw [if_pos halloc]
    cases htarget : s.resources.lookup op.target with
    | none => exact .execute
    | some target =>
        dsimp only
        split_ifs
        · exact .reuse htarget
        · exact .execute
  rw [if_neg halloc]
  exact .execute

end State

/-- What the code retains is what the history calls the replacing operation. -/
theorem Step.replacedBy_eq (e : Step) (hs : e.pre.Valid) (op : Operation) :
    e.replacedBy op (e.pre.choose (e.pre.framed op)).1 =
      (e.pre.choose (e.pre.framed op)).2 := by
  have hspec := e.pre.choose_spec (e.pre.framed op)
  generalize e.pre.choose (e.pre.framed op) = choice at hspec ⊢
  cases hspec with
  | aliased hr => exact hs.copy_id hr
  | repeated hr => exact hs.copy_id hr
  | reuse hr =>
      have hr' : e.pre.resources.lookup op.target = some _ := hr
      change ((e.pre.resources.lookup op.target).bind fun r =>
        (e.pre.deref r.allocation).map StoredOperation.id) = _
      rw [hr']
      exact hs.allocation_id hr
  | _ => rfl

/-- A retained pointer leads to an executed operation. -/
theorem State.Valid.choose_points {s : State} (hs : s.Valid) {op : Operation} {p : Text}
    (h : (s.choose op).2 = some p) : ∃ t, s.Points t p := by
  have hspec := s.choose_spec op
  generalize s.choose op = choice at hspec h
  cases hspec with
  | aliased hr => exact ⟨op.source, hs.copy hr h⟩
  | repeated hr => exact ⟨op.target, hs.copy hr h⟩
  | reuse hr => exact ⟨op.target, hs.allocation hr h⟩
  | _ => cases h

/-- What the history and the recorded operations have in common. -/
structure Recorded (s : State) (log : List (Entry Text)) : Prop where
  agrees : Agrees log s.table
  removed : ∀ {id op}, s.operations.lookup id = some op →
    (op.removed = true ↔ op.eliminated = true ∧ op.replacements = [])
  retained : ∀ e ∈ log, ∀ r, e.retained = some r → ∃ d ∈ log, d.id = r ∧ d.eliminated = false

/-- An executed operation that is recorded is in the history. -/
theorem Recorded.mem_of_points {s : State} {log : List (Entry Text)} (h : Recorded s log)
    {t p : Text} (hp : s.Points t p) : ∃ d ∈ log, d.id = p ∧ d.eliminated = false := by
  obtain ⟨op, hop, hlive, -⟩ := hp
  have htable : s.table p = some (false, op.replacements) := by simp [State.table, hop, hlive]
  have hknown : ¬ ∀ e ∈ log, e.id ≠ p := by
    rw [← h.agrees.known p, htable]
    simp
  push Not at hknown
  obtain ⟨d, hd, rfl⟩ := hknown
  refine ⟨d, hd, rfl, ?_⟩
  have hnot : eliminatedIn log d.id = false := (h.agrees.eliminated htable).symm
  unfold eliminatedIn at hnot
  rw [List.any_eq_false] at hnot
  simpa using hnot d hd

/-- Recording an accepted operation keeps the history in agreement. -/
theorem Recorded.insert {s : State} {log : List (Entry Text)} (h : Recorded s log)
    (op : StoredOperation) (e : Entry Text) (hfresh : s.operations.lookup op.id = none)
    (hid : e.id = op.id) (helim : e.eliminated = op.eliminated)
    (hnames : e.eliminated = true → op.replacements = flatten s.table e)
    (hremoved : op.removed = true ↔ op.eliminated = true ∧ op.replacements = [])
    (hretained : ∀ r, e.retained = some r → ∃ d ∈ log, d.id = r ∧ d.eliminated = false) :
    Recorded (s.record op) (e :: log) where
  agrees := by
    have hfree : s.table e.id = none := by rw [hid, State.table, hfresh]; rfl
    rw [State.table_record, ← hid, ← helim]
    exact h.agrees.insert e hfree hnames
  removed := by
    intro id q hq
    by_cases hsame : id = op.id
    · subst hsame
      rw [State.record, AList.lookup_insert, Option.some.injEq] at hq
      exact hq ▸ hremoved
    · rw [State.record, AList.lookup_insert_ne hsame] at hq
      exact h.removed hq
  retained := by
    intro d hd r hr
    have hold : ∃ d ∈ log, d.id = r ∧ d.eliminated = false := by
      rcases List.mem_cons.mp hd with rfl | hd
      · exact hretained r hr
      · exact h.retained d hd r hr
    obtain ⟨q, hq, hrest⟩ := hold
    exact ⟨q, List.mem_cons_of_mem _ hq, hrest⟩

theorem Recorded.congr {s s' : State} {log : List (Entry Text)} (h : Recorded s log)
    (hops : s'.operations = s.operations) : Recorded s' log where
  agrees := by
    have htable : s'.table = s.table := by
      funext id
      simp [State.table, hops]
    exact htable ▸ h.agrees
  removed := by
    intro id op hop
    exact h.removed (hops ▸ hop)
  retained := h.retained

/-- **One call.**  An accepted operation adds its entry, any other call that
does not end the session leaves the recorded operations alone. -/
theorem Step.post_recorded (e : Step) {log : List (Entry Text)} (hs : e.pre.Valid)
    (h : Recorded e.pre log) (halive : ∀ t, e.outcome = .error t → t.fatal = false) :
    Recorded e.post (e.entry.toList ++ log) := by
  obtain ⟨s, g, c⟩ := e
  simp only [Step.post, Step.entry, Step.outcome] at hs h halive ⊢
  cases c with
  | beginFrame frame =>
      simp only [State.call, State.beginFrame]
      split <;> exact h.congr rfl
  | endFrame frame =>
      simp only [State.call, State.endFrame]
      split <;> exact h.congr rfl
  | endSession =>
      simp only [State.call, State.endSession]
      split <;> exact h.congr rfl
  | register id memory aliases =>
      simp only [State.call, State.registerResource]
      split_ifs <;> exact h.congr rfl
  | release id => exact h.congr (State.invalidate_operations s id)
  | process op =>
      have hspec := s.process_spec g op
      simp only [State.call] at halive ⊢
      generalize s.process g op = result at hspec halive ⊢
      obtain ⟨out, s'⟩ := result
      have hreplaced := Step.replacedBy_eq ⟨s, g, .process op⟩ hs op
      cases hspec with
      | duplicate => exact h
      | full => exact h
      | refused t fatal fresh choice names =>
          rw [halive t rfl] at fatal
          cases fatal
      | executed fresh choice =>
          have hnone : Step.replacedBy ⟨s, g, .process op⟩ op 0 = none := rfl
          have hrec := h.insert (s.executedRecord op)
            ⟨op.id, false, none, op.dependencies⟩ fresh rfl rfl (by intro hf; cases hf)
            (by simp [State.executedRecord, State.stored]) (by intro r hr; cases hr)
          exact hrec.congr (State.settle_operations _ _)
      | eliminated fresh choice =>
          simp only [hreplaced]
          refine h.insert (s.eliminatedRecord op) _ fresh rfl ?_ ?_ ?_ ?_
          · simpa [State.eliminatedRecord, State.stored] using choice
          · intro _
            have hexpand : s.expand = Resolution.expand s.table := funext s.expand_eq
            simp only [State.eliminatedRecord, State.stored, State.retainedNames,
              State.replacements, flatten, hexpand]
          · simp [State.eliminatedRecord, State.stored]
          · intro r hr
            obtain ⟨t, ht⟩ := hs.choose_points hr
            exact h.mem_of_points ht

/-- **Every run.** -/
theorem Run.recorded {s : State} {trail : List Step} (hrun : Run s trail) :
    Recorded s (entries trail) := by
  induction hrun with
  | start =>
      refine ⟨Agrees.empty, ?_, ?_⟩
      · intro id op h
        cases h
      · intro e he
        cases he
  | @call s trail hrun g c halive ih =>
      have hstep := Step.post_recorded ⟨s, g, c⟩ hrun.valid ih halive
      have hlog : entries (⟨s, g, c⟩ :: trail) =
          (Step.entry ⟨s, g, c⟩).toList ++ entries trail := by
        unfold entries
        rw [List.filterMap_cons]
        cases Step.entry ⟨s, g, c⟩ <;> rfl
      rw [hlog]
      exact hstep

/-- The test of the code for a dropped wait. -/
theorem Recorded.allRemoved_iff {s : State} {log : List (Entry Text)} (h : Recorded s log)
    (dependencies : List Text) :
    s.allRemoved dependencies = true ↔
      dependencies ≠ [] ∧
        ∀ d ∈ dependencies, eliminatedIn log d = true ∧ resolve log d = [] := by
  unfold State.allRemoved
  rw [Bool.and_eq_true, List.all_eq_true]
  refine and_congr (by simp) (forall₂_congr ?_)
  intro d _
  cases hd : s.operations.lookup d with
  | none =>
      have hfree : s.table d = none := by simp [State.table, hd]
      simp [eliminatedIn_eq_false ((h.agrees.known d).mp hfree)]
  | some op =>
      have htable : s.table d = some (op.eliminated, op.replacements) := by
        simp [State.table, hd]
      rw [Option.any_some, h.removed hd, ← h.agrees.eliminated htable]
      refine and_congr_right ?_
      intro helim
      rw [helim] at htable
      exact (h.agrees.resolve_eq_nil_iff htable).symm

/-- **A wait is dropped only when nothing real is left to wait for.**  After
any run, the list stored for an eliminated operation holds exactly the ids it
resolves to, each once; what an operation is replaced by was executed; and an
accepted wait is dropped as orphaned exactly when it has dependencies and all
of them are earlier eliminated operations that resolve to nothing. -/
theorem orphan_wait_iff {s : State} {trail : List Step} (hrun : Run s trail) :
    (∀ x, eliminatedIn (entries trail) x = true ↔
      ∃ op, s.operations.lookup x = some op ∧ op.eliminated = true) ∧
    (∀ x op, s.operations.lookup x = some op → op.eliminated = true →
      op.replacements.Nodup ∧ ∀ y, y ∈ op.replacements ↔ y ∈ resolve (entries trail) x) ∧
    (∀ e ∈ entries trail, ∀ r, e.retained = some r →
      ∃ d ∈ entries trail, d.id = r ∧ d.eliminated = false) ∧
    (∀ (g : Grant) (op : Operation) (d : Decision) (s' : State), op.type = 2 →
      s.process g op = (.ok d, s') →
      (d.opcode = 4 ↔ op.dependencies ≠ [] ∧
        ∀ x ∈ op.dependencies,
          eliminatedIn (entries trail) x = true ∧ resolve (entries trail) x = [])) := by
  have hrec := hrun.recorded
  have htable : ∀ x op, s.operations.lookup x = some op →
      s.table x = some (op.eliminated, op.replacements) := by
    intro x op hx
    simp [State.table, hx]
  refine ⟨?_, ?_, hrec.retained, ?_⟩
  · intro x
    rw [hrec.agrees.eliminatedIn_iff]
    constructor
    · intro h
      obtain ⟨names, h⟩ := h
      obtain ⟨op, hop, heq⟩ := Option.map_eq_some_iff.mp h
      exact ⟨op, hop, congrArg Prod.fst heq⟩
    · intro h
      obtain ⟨op, hop, helim⟩ := h
      exact ⟨op.replacements, helim ▸ htable x op hop⟩
  · intro x op hop helim
    have hx := helim ▸ htable x op hop
    exact ⟨hrec.agrees.nodup hx, hrec.agrees.names hx⟩
  · intro g op d s' htype hok
    rw [← hrec.allRemoved_iff]
    have hspec := s.process_spec g op
    rw [hok] at hspec
    have hchoose : (s.choose (s.framed op)).1 = 4 ↔ s.allRemoved op.dependencies = true := by
      unfold State.choose
      simp only [State.framed_type, htype, State.framed_dependencies]
      by_cases hremoved : s.allRemoved op.dependencies = true
      · simp [hremoved]
      · simp only [hremoved]
        by_cases hempty : (s.framed op).microseconds = 0 ∧ op.dependencies = [] <;> simp [hempty]
    rw [← hchoose]
    cases hspec with
    | executed _ choice => rw [choice]
    | eliminated _ _ => rfl

/-- A wait on `dependencies` that cost `microseconds`. -/
def sampleWait (id : String) (microseconds : Nat) (dependencies : List String) : Operation :=
  { id := literal id, microseconds, dependencies := dependencies.map literal, type := 2 }

/-- An empty wait, then a wait for it. -/
def sampleWaits : List Call :=
  [.process (sampleWait "empty" 0 []), .process (sampleWait "chained" 5 ["empty"])]

/-- Both waits are dropped and nothing is left of either, so a third wait on
the second is dropped too. -/
theorem orphan_wait_iff_empty_chain :
    eliminatedIn (entries (replay { room := 9 } sampleWaits ({}, [])).2) (literal "chained") = true ∧
      resolve (entries (replay { room := 9 } sampleWaits ({}, [])).2) (literal "chained") = [] := by
  have hrun := Run.start.replay { room := 9 } sampleWaits (by decide)
  have hdropped := ((orphan_wait_iff hrun).2.2.2 { room := 9 } (sampleWait "last" 7 ["chained"])
    { opcode := 4, operation := true, savedUs := 7, savedBytes := 0 } _ rfl rfl).mp rfl
  exact hdropped.2 (literal "chained") (List.mem_singleton.mpr rfl)

end FluidGateway.Native
