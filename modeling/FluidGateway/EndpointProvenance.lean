import FluidGateway.TransferHistory
import FluidGateway.OptimizerRuns

/-!
# Provenance and endpoints that were not known yet

Both engines remember an executed transfer as soon as its target is registered,
whether or not its source is.  The alias walk of a later write follows
registered resources only, so such a record can outlive a write to the memory
of its source (`late_source_dedup`).  Where no resource is registered under an
id that a remembered transfer already names as its source, every deduplication
rests on endpoints that were registered all along (`dedup_endpoints_known`).
-/

namespace FluidGateway

open KeyedMap Provenance

namespace Native

/-- No resource was registered under an id that a transfer remembered at that
moment names as its source. -/
def NoLateRegistration (trail : List Step) : Prop :=
  ∀ e ∈ trail, ∀ id, e.Registered id → ∀ t r, e.pre.ledger.copy t = some r → r.source ≠ id

/-- The condition can be tested on a finished run. -/
def registersInTime (e : Step) : Bool :=
  match e.call with
  | .register id _ _ =>
    e.pre.resources.entries.all fun entry =>
      (e.pre.deref entry.2.copy).all fun r => decide (r.source ≠ id)
  | _ => true

theorem noLateRegistration_of_all {trail : List Step} (h : trail.all registersInTime = true) :
    NoLateRegistration trail := by
  intro e he id hregistered t r hcopy
  obtain ⟨memory, aliases, d, hcall, -⟩ := hregistered
  have htest := List.all_eq_true.mp h e he
  simp only [registersInTime, hcall] at htest
  obtain ⟨resource, hresource, hderef⟩ := Option.bind_eq_some_iff.mp hcopy
  have hentry := List.all_eq_true.mp htest ⟨t, resource⟩ (mem_entries_iff.mpr hresource)
  simpa [hderef] using hentry

/-- What opcode 2 says about the state. -/
theorem State.choose_dedup {s : State} {op : Operation} (h : (s.choose op).1 = 2) :
    s.resources.lookup op.source ≠ none ∧ s.resources.lookup op.target ≠ none ∧
      ∃ r, s.ledger.copy op.target = some r ∧ State.sameTransfer op r = true := by
  unfold choose at h
  by_cases htransfer : op.type = 1 ∨ op.type = 4
  · rw [if_pos htransfer] at h
    cases hsource : s.resources.lookup op.source with
    | none =>
        rw [hsource] at h
        cases h
    | some source =>
        cases htarget : s.resources.lookup op.target with
        | none =>
            rw [hsource, htarget] at h
            cases h
        | some target =>
            rw [hsource, htarget] at h
            dsimp only at h
            split_ifs at h with hself halias hcopy
            · cases h
            · cases h
            · obtain ⟨r, hr, hsame⟩ := (Option.any_eq_true _ _).mp hcopy
              exact ⟨by simp, by simp, r, by simp [ledger, htarget, hr], hsame⟩
            · cases h
  rw [if_neg htransfer] at h
  by_cases hsync : op.type = 2
  · rw [if_pos hsync] at h
    split_ifs at h <;> cases h
  rw [if_neg hsync] at h
  by_cases halloc : op.type = 3
  · rw [if_pos halloc] at h
    split at h
    · split_ifs at h <;> cases h
    · cases h
  rw [if_neg halloc] at h
  cases h

/-- The native half: where the endpoints of the retained transfer stood. -/
theorem dedup_endpoints {s : State} {trail : List Step} (hrun : Run s trail)
    (hlate : NoLateRegistration trail) {op : Operation} (hdedup : (s.choose (s.framed op)).1 = 2) :
    ∃ newer e older previous, trail = newer ++ e :: older ∧
      e.TransfersInto op.target previous ∧ previous.source = op.source ∧
      s.ledger.copy op.target = some (State.stored previous false [] false) ∧
      e.pre.resources.lookup op.source ≠ none ∧ e.pre.resources.lookup op.target ≠ none ∧
      ∀ x ∈ newer, ¬ x.Retiring op.source op.target ∧
        ∀ id, id = op.source ∨ id = op.target → x.call ≠ .release id ∧ ¬ x.Registered id := by
  obtain ⟨hsource, htarget, r, hcopy, hsame⟩ := State.choose_dedup hdedup
  have hcopy' : s.ledger.copy op.target = some r := hcopy
  simp only [State.sameTransfer, Bool.and_eq_true, beq_iff_eq] at hsame
  have hrsource : r.source = op.source := hsame.1.1.1
  have hledger := hrun.ledger
  have hno : NoLateSource machine (ledgerTrail trail) := by
    intro x hx k v hact t q hq hsrc
    obtain ⟨e, he, rfl⟩ := List.mem_map.mp hx
    exact hlate e he k ((e.registered_iff k).mp ⟨v, hact⟩) t q hq (Option.some.inj hsrc)
  obtain ⟨newer, pre, older, htrail, hpre, hpresource, hkept⟩ :=
    endpoints_since machine ledger_empty_copy hledger hno hcopy' (congrArg some hrsource)
      (mt State.ledger_res_eq_none.mp hsource)
  obtain ⟨newer', rest, rfl, rfl, hrest⟩ := List.map_eq_append_iff.mp htrail
  obtain ⟨e, older', rfl, he, rfl⟩ := List.map_eq_cons_iff.mp hrest
  rw [Prod.mk.injEq] at he
  obtain ⟨rfl, hact⟩ := he
  obtain ⟨previous, htransfer, rfl⟩ := (e.transfer_iff op.target r).mp hact
  refine ⟨newer', e, older', previous, rfl, htransfer, hrsource, hcopy',
    mt State.ledger_res_eq_none.mpr hpresource, mt State.ledger_res_eq_none.mpr hpre, ?_⟩
  intro x hx
  obtain ⟨hends, hendpoints⟩ := hkept _ (List.mem_map_of_mem hx)
  refine ⟨?_, ?_⟩
  · intro hretiring
    exact hends ((x.ends_iff op.target _).mpr (Or.inl (hrsource ▸ hretiring)))
  · intro id hid
    obtain ⟨hrelease, hregister⟩ := hendpoints id hid
    refine ⟨?_, ?_⟩
    · intro hcall
      exact hrelease (by simp only [Step.act, hcall])
    · intro hregistered
      obtain ⟨v, hv⟩ := (x.registered_iff id).mpr hregistered
      exact hregister v hv

end Native

namespace Runtime

variable {casing : Casing}

/-- The same condition on a run of the reference optimizer. -/
def NoLateRegistration (casing : Casing) (trail : List Step) : Prop :=
  ∀ e ∈ trail, ∀ id, e.Registered casing id →
    ∀ t op, e.pre.lastCopyByTarget.lookup t = some op → op.source ≠ some id

def registersInTime (e : Step) : Bool :=
  match e.update with
  | .register resource =>
    e.pre.lastCopyByTarget.entries.all fun entry => decide (entry.2.source ≠ some resource.id)
  | _ => true

theorem noLateRegistration_of_all {trail : List Step} (h : trail.all registersInTime = true) :
    NoLateRegistration casing trail := by
  intro e he id hregistered t op hcopy
  obtain ⟨resource, hupdate, rfl, -⟩ := hregistered
  have htest := List.all_eq_true.mp h e he
  simp only [registersInTime, hupdate] at htest
  have hentry := List.all_eq_true.mp htest ⟨t, op⟩ (mem_entries_iff.mpr hcopy)
  simpa using hentry

/-- The step may have written memory of `source` or `target`: it retires what
is known about transfers between them. -/
def Step.Retiring (casing : Casing) (e : Step) (previous : RuntimeOperation) (target : String) :
    Prop :=
  ∃ x, (e.act casing).written = some x ∧ e.pre.ledger.Retires machine x target previous

/-- The Python half. -/
theorem dedup_endpoints {s : RuntimeOptimizationState} {trail : List Step}
    (hrun : Run casing s trail) (hlate : NoLateRegistration casing trail)
    {operation : RuntimeOperation} {decision : RuntimeDecision}
    (hdecision : decideOperation casing s operation = some decision)
    (hpolicy : decision.policy = .deduplicateIdenticalTransfer) :
    ∃ source target newer e older previous, operation.source = some source ∧
      operation.target = some target ∧ trail = newer ++ e :: older ∧
      e.Executed casing previous ∧ previous.type.transfers = true ∧
      previous.source = some source ∧ previous.target = some target ∧
      s.lastCopyByTarget.lookup target = some previous ∧
      e.pre.resources.get source ≠ none ∧ e.pre.resources.get target ≠ none ∧
      ∀ x ∈ newer, ¬ x.Retiring casing previous target ∧
        ∀ id, id = source ∨ id = target → x.update ≠ .release id ∧ ¬ x.Registered casing id := by
  have hdecided := decideOperation_spec casing hdecision
  cases hdecided with
  | @repeated a b ra rb previous policy transfers hsource htarget hne ha hb apart hcopy same =>
      have hsame : previous.source = operation.source := by
        simp only [sameTransfer, Bool.and_eq_true, beq_iff_eq] at same
        exact same.1.1.1
      obtain ⟨L₀, hempty, hledger⟩ := hrun.ledger
      have hno : NoLateSource machine (ledgerTrail casing trail) := by
        intro x hx k v hact t q hq
        obtain ⟨e, he, rfl⟩ := List.mem_map.mp hx
        exact hlate e he k (Step.registered_of_act hact) t q hq
      have hregistered : s.ledger.res a ≠ none := by
        rw [RuntimeOptimizationState.ledger_res, ha]
        simp
      obtain ⟨newer, pre, older, htrail, hpre, hpresource, hkept⟩ :=
        endpoints_since machine hempty hledger hno hcopy (hsame.trans hsource) hregistered
      obtain ⟨newer', rest, rfl, rfl, hrest⟩ := List.map_eq_append_iff.mp htrail
      obtain ⟨e, older', rfl, he, rfl⟩ := List.map_eq_cons_iff.mp hrest
      rw [Prod.mk.injEq] at he
      obtain ⟨rfl, hact⟩ := he
      obtain ⟨hexecuted, htransfers, hprevious⟩ := Step.executed_of_transfer hact
      refine ⟨a, b, newer', e, older', previous, hsource, htarget, rfl, hexecuted, htransfers,
        hsame.trans hsource, hprevious, hcopy,
        mt RuntimeOptimizationState.ledger_res_eq_none.mpr hpresource,
        mt RuntimeOptimizationState.ledger_res_eq_none.mpr hpre, ?_⟩
      intro x hx
      obtain ⟨hends, hendpoints⟩ := hkept _ (List.mem_map_of_mem hx)
      refine ⟨fun hretiring => hends (Or.inl hretiring), ?_⟩
      intro id hid
      obtain ⟨hrelease, hregister⟩ := hendpoints id hid
      refine ⟨fun hupdate => hrelease (Step.act_of_release hupdate), ?_⟩
      intro hreg
      obtain ⟨v, hv⟩ := Step.act_of_registered hreg
      exact hregister v hv
  | selfCopy policy => rw [hpolicy] at policy; cases policy
  | aliased policy => rw [hpolicy] at policy; cases policy
  | orphan policy => rw [hpolicy] at policy; cases policy
  | empty policy => rw [hpolicy] at policy; cases policy
  | reuse policy => rw [hpolicy] at policy; cases policy

end Runtime

/-- **Deduplication rests on known endpoints**, in every run of either engine
in which no resource is registered under an id that a transfer remembered at
that moment names as its source.  The retained transfer was executed with both
endpoints registered; since then neither endpoint has been released or
registered, and no write has been made that would have retired it. -/
theorem dedup_endpoints_known {casing : Runtime.Casing}
    {s : Native.State} {trail : List Native.Step} (hrun : Native.Run s trail)
    (hlate : Native.NoLateRegistration trail)
    {r : Runtime.RuntimeOptimizationState} {updates : List Runtime.Step}
    (hupdates : Runtime.Run casing r updates)
    (hlateUpdate : Runtime.NoLateRegistration casing updates) :
    (∀ (g : Native.Grant) (op : Native.Operation) (d : Native.Decision) (s' : Native.State),
      s.process g op = (.ok d, s') → d.opcode = 2 →
      ∃ newer e older previous, trail = newer ++ e :: older ∧
        e.TransfersInto op.target previous ∧ previous.source = op.source ∧
        s.ledger.copy op.target = some (Native.State.stored previous false [] false) ∧
        e.pre.resources.lookup op.source ≠ none ∧ e.pre.resources.lookup op.target ≠ none ∧
        ∀ x ∈ newer, ¬ x.Retiring op.source op.target ∧
          ∀ id, id = op.source ∨ id = op.target → x.call ≠ .release id ∧ ¬ x.Registered id) ∧
    (∀ (operation kept : Runtime.RuntimeOperation) (decision : Runtime.RuntimeDecision)
      (r' : Runtime.RuntimeOptimizationState),
      r.process casing operation = (.ok (kept, some decision), r') →
      decision.policy = .deduplicateIdenticalTransfer →
      ∃ source target newer e older previous, operation.source = some source ∧
        operation.target = some target ∧ updates = newer ++ e :: older ∧
        e.Executed casing previous ∧ previous.type.transfers = true ∧
        previous.source = some source ∧ previous.target = some target ∧
        r.lastCopyByTarget.lookup target = some previous ∧
        e.pre.resources.get source ≠ none ∧ e.pre.resources.get target ≠ none ∧
        ∀ x ∈ newer, ¬ x.Retiring casing previous target ∧
          ∀ id, id = source ∨ id = target →
            x.update ≠ .release id ∧ ¬ x.Registered casing id) := by
  refine ⟨?_, ?_⟩
  · intro g op d s' hok hdedup
    rw [Native.State.opcode_of_process hok] at hdedup
    exact Native.dedup_endpoints hrun hlate hdedup
  · intro operation kept decision r' hok hpolicy
    have hspec := r.process_spec casing operation
    rw [hok] at hspec
    cases hspec with
    | eliminated _ _ choice =>
        exact Runtime.dedup_endpoints hupdates hlateUpdate choice hpolicy

/-! ## A source that is registered too late -/

namespace Native

/-- `b` is registered and receives a copy from `a`, which is not.  A compute
operation then writes `v`, and `a` is registered as another view of the memory
of `v`. -/
def lateCalls : List Call :=
  [.register (literal "b") 2 [], .register (literal "v") 1 [literal "m"],
   .process (sampleCopy "first"),
   .process { id := literal "write", target := literal "v", type := 6 },
   .register (literal "a") 1 [literal "m"]]

def lateRun : State × List Step := replay { room := 100 } lateCalls ({}, [])

end Native

namespace Runtime

def runtimeCopy (id : String) : RuntimeOperation :=
  { id, type := .copy, source := some "a", target := some "b" }

/-- The same events for the reference optimizer. -/
def lateUpdates : List Update :=
  [.register { id := "b", memory := .vram }, .register { id := "v", aliases := ["m"] },
   .process (runtimeCopy "first"), .process { id := "write", type := .compute, target := some "v" },
   .register { id := "a", aliases := ["m"] }]

def lateRun : RuntimeOptimizationState × List Step :=
  replay .plain lateUpdates ({ resources := .empty }, [])

end Runtime

/-- Both engines then drop a second copy from `a` as identical to the first,
although `a` was not registered when any of the earlier events was processed,
and the memory of `a` has been written through `v` since. -/
theorem late_source_dedup :
    Native.Run Native.lateRun.1 Native.lateRun.2 ∧
      (Native.lateRun.1.process { room := 100 } (Native.sampleCopy "second")).1 =
        .ok { opcode := 2, operation := true, savedUs := 0, savedBytes := 64 } ∧
      (∀ e ∈ Native.lateRun.2, e.pre.resources.lookup (Native.literal "a") = none) ∧
      Native.lateRun.1.Adjacent (Native.literal "v") (Native.literal "a") ∧
    Runtime.Run .plain Runtime.lateRun.1 Runtime.lateRun.2 ∧
      (∃ kept decision, (Runtime.lateRun.1.process .plain (Runtime.runtimeCopy "second")).1 =
        .ok (kept, some decision) ∧ decision.policy = .deduplicateIdenticalTransfer) ∧
      (∀ e ∈ Runtime.lateRun.2, e.pre.resources.get "a" = none) ∧
      Runtime.lateRun.1.joined "v" "a" = true := by
  refine ⟨Native.Run.start.replay _ _ (by decide), by decide, by decide, ?_,
    (Runtime.Run.start _).replay _ _, ?_, by decide, by decide⟩
  · exact ⟨_, _, rfl, rfl, by decide⟩
  · exact ⟨_, _, rfl, rfl⟩

/-- Two registrations, then a copy between them. -/
def Runtime.timelyUpdates : List Runtime.Update :=
  [.register { id := "a" }, .register { id := "b", memory := .vram },
   .process (Runtime.runtimeCopy "first")]

/-- A second copy between resources registered in time, in both engines. -/
theorem dedup_endpoints_known_repeated_copy :
    (∃ newer e older previous,
      (Native.replay { room := 100 } Native.sampleCalls ({}, [])).2 = newer ++ e :: older ∧
        e.TransfersInto (Native.literal "b") previous ∧
        e.pre.resources.lookup (Native.literal "a") ≠ none) ∧
    (∃ source target newer e older previous,
      (Runtime.replay .plain Runtime.timelyUpdates ({ resources := .empty }, [])).2 =
          newer ++ e :: older ∧
        e.Executed .plain previous ∧ e.pre.resources.get source ≠ none ∧
        e.pre.resources.get target ≠ none) := by
  have hrun := Native.Run.start.replay { room := 100 } Native.sampleCalls (by decide)
  have hlate : Native.NoLateRegistration
      (Native.replay { room := 100 } Native.sampleCalls ({}, [])).2 :=
    Native.noLateRegistration_of_all (by decide)
  have hstart : Runtime.Run .plain { resources := .empty } [] := .start .empty
  have hupdates := hstart.replay .plain Runtime.timelyUpdates
  have hlateUpdate : Runtime.NoLateRegistration .plain
      (Runtime.replay .plain Runtime.timelyUpdates ({ resources := .empty }, [])).2 :=
    Runtime.noLateRegistration_of_all (by decide)
  have hknown := dedup_endpoints_known hrun hlate hupdates hlateUpdate
  refine ⟨?_, ?_⟩
  · obtain ⟨newer, e, older, previous, htrail, htransfer, -, -, hsource, -⟩ :=
      hknown.1 { room := 100 } (Native.sampleCopy "second")
        { opcode := 2, operation := true, savedUs := 0, savedBytes := 64 } _ rfl rfl
    exact ⟨newer, e, older, previous, htrail, htransfer, hsource⟩
  · obtain ⟨source, target, newer, e, older, previous, -, -, htrail, hexecuted, -, -, -, -,
        hsource, htarget, -⟩ :=
      hknown.2 (Runtime.runtimeCopy "second") (Runtime.runtimeCopy "second") _ _ rfl rfl
    exact ⟨source, target, newer, e, older, previous, htrail, hexecuted, hsource, htarget⟩

end FluidGateway
