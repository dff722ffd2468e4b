import FluidGateway.SessionSnapshot

/-!
# What a session answers with

The snapshot that comes with an answer describes the session that the event
leaves behind (`snapshot_true`), so each directive of the governor is given for
a reason that the session's books show (`directives_justified`).  The policy
engine and the governor remember what they have given and never give it again
(`run_given_once`).
-/

namespace FluidGateway.Adapter

open FluidGateway.Runtime

variable {casing : Casing}

/-- What keeps a directive from being given again. -/
def GovernorDirective.key (directive : GovernorDirective) :
    DirectiveAction × Option ℤ × DirectiveKey :=
  (directive.action, directive.frame, directive.identity)

/-! ## Answers -/

/-- The answer has the snapshot of a session that differs from the one left
behind in nothing that a snapshot shows, and directives that follow from it. -/
structure Snapped (answer : Answer) (t : RuntimeAdapterSession) : Prop where
  taken : ∃ (b : RuntimeAdapterSession) (liveCommand : Option LiveCommand),
    answer.stateSnapshot = b.buildStateSnapshot ∧
    (∀ directive ∈ answer.policyLoopDirectives, directive ∈ LivePolicyGovernor.directives
      b.buildStateSnapshot (b.targetFrameMs liveCommand).1 b.policyEngine.memoryBudgetsMb
      liveCommand) ∧
    (∀ frame, t.statsOf frame = b.statsOf frame) ∧ t.policyEngine = b.policyEngine ∧
    t.controller = b.controller ∧ t.liveCommands = b.liveCommands ∧
    t.currentFrame = b.currentFrame
  issued : ∀ directive ∈ answer.policyLoopDirectives,
    directive.action = .prefetchBeforeCriticalPath →
      ∃ report ∈ t.results, report.liveCommand.action = .prefetchNow ∧
        directive.operationId = some report.liveCommand.operationId

/-- A snapshot that was taken of one session describes another that shows the same: the
accounts, the totals and the journal are invariants, the rest is equal. -/
theorem prepared_of_taken {b t : RuntimeAdapterSession} (hjournal : Journaled t)
    (haccounted : Accounted t) (hmirrored : Mirrored t.policyEngine t.controller)
    (hstats : ∀ frame, t.statsOf frame = b.statsOf frame)
    (hpolicy : t.policyEngine = b.policyEngine) (hcontroller : t.controller = b.controller)
    (hcommands : t.liveCommands = b.liveCommands) (hcurrent : t.currentFrame = b.currentFrame) :
    b.buildStateSnapshot.Describes t := by
  refine Prepared.describes ⟨fun frame => ?_, ?_, ?_, ?_, ?_⟩ hjournal
  · rw [RuntimeAdapterSession.account, ← hstats]
    exact haccounted frame
  · rw [← hpolicy]
    exact hmirrored
  · exact hcontroller.symm
  · exact hcommands.symm
  · exact hcurrent.symm

/-- Every answer that is no error has such a snapshot. -/
def AnswersSnapped (out : Except Raised Answer × RuntimeAdapterSession) : Prop :=
  ∀ answer, out.1 = .ok answer → Snapped answer out.2

/-- An event that raises has no answer. -/
theorem AnswersSnapped.raised {e : Raised} {t : RuntimeAdapterSession} :
    AnswersSnapped (.error e, t) := by
  intro answer h
  cases h

/-- What the governor gives is called for, and it has given none of it before. -/
theorem evaluate_spec (governor : LivePolicyGovernor) (snapshot : LiveStateSnapshot)
    (targetFrameMs : ℚ) (budgets : OrderedDict MemoryLayer ℚ) (liveCommand : Option LiveCommand) :
    let out := governor.evaluate snapshot targetFrameMs budgets liveCommand
    (∀ directive ∈ out.1, directive ∈
      LivePolicyGovernor.directives snapshot targetFrameMs budgets liveCommand) ∧
    out.2.emitted = (out.1.map GovernorDirective.key).reverse ++ governor.emitted ∧
    (governor.emitted.Nodup → out.2.emitted.Nodup) := by
  unfold LivePolicyGovernor.evaluate
  dsimp only
  induction LivePolicyGovernor.directives snapshot targetFrameMs budgets liveCommand
    using List.reverseRecOn with
  | nil => exact ⟨fun _ h => (List.not_mem_nil h).elim, rfl, id⟩
  | append_singleton called directive ih =>
      rw [List.foldl_append, List.foldl_cons, List.foldl_nil]
      generalize List.foldl _ ([], governor) called = out at ih ⊢
      obtain ⟨given, later⟩ := out
      obtain ⟨hcalled, hemitted, hnodup⟩ := ih
      dsimp only at hcalled hemitted hnodup ⊢
      by_cases hgiven : directive.key ∈ later.emitted
      · have hmark : later.markEmitted directive = (false, later) := if_pos hgiven
        rw [hmark]
        refine ⟨fun other hother => ?_, hemitted, hnodup⟩
        exact List.mem_append_left _ (hcalled other hother)
      · have hmark : later.markEmitted directive =
            (true, { emitted := directive.key :: later.emitted }) := if_neg hgiven
        rw [hmark]
        refine ⟨fun other hother => ?_, ?_, fun h => ?_⟩
        · obtain hold | hnew := List.mem_append.mp hother
          · exact List.mem_append_left _ (hcalled other hold)
          · exact List.mem_append_right _ hnew
        · dsimp only
          rw [if_pos rfl, List.map_append, List.reverse_append, hemitted]
          rfl
        · exact List.nodup_cons.mpr ⟨hgiven, hnodup h⟩

/-- What the governor's directives are called for by. -/
theorem directive_cases {snapshot : LiveStateSnapshot} {targetFrameMs : ℚ}
    {budgets : OrderedDict MemoryLayer ℚ} {liveCommand : Option LiveCommand}
    {directive : GovernorDirective}
    (h : directive ∈ LivePolicyGovernor.directives snapshot targetFrameMs budgets liveCommand) :
    (directive.action = .prefetchBeforeCriticalPath ∧ snapshot.openFrame = true ∧
      ∃ command, liveCommand = some command ∧ command.action = .prefetchNow ∧
        directive.operationId = some command.operationId) ∨
    (directive.action = .drainCopyQueueBeforeDraw ∧ snapshot.openFrame = true ∧
      1 ≤ (snapshot.queueCostsMs.get "copy").getD 0) ∨
    (directive.action = .protectFrameBudget ∧ snapshot.openFrame = true ∧
      (if targetFrameMs = 0 then defaultFrameBudgetMs else targetFrameMs) * (9 / 10) ≤
        snapshot.estimatedTotalCostMsCurrentFrame) ∨
    (directive.action = .reduceMemoryResidency ∧ ∃ layer budget,
      directive.resourceId = .memory layer ∧ budgets.get layer = some budget ∧
        budget < (snapshot.memoryTotalsMb.get layer).getD 0) := by
  unfold LivePolicyGovernor.directives at h
  dsimp only at h
  generalize (if targetFrameMs = 0 then defaultFrameBudgetMs else targetFrameMs) = targetMs at h ⊢
  simp only [List.mem_append, or_assoc] at h
  obtain hprefetch | hdrain | hprotect | hreduce := h
  · left
    cases hcommand : liveCommand with
    | none =>
        rw [hcommand] at hprefetch
        cases hprefetch
    | some command =>
        rw [hcommand] at hprefetch
        dsimp only at hprefetch
        split at hprefetch
        · next hopen =>
            rw [List.mem_singleton.mp hprefetch]
            exact ⟨rfl, hopen.1, command, rfl, hopen.2, rfl⟩
        · cases hprefetch
  · right; left
    split at hdrain
    · next hopen =>
        rw [List.mem_singleton.mp hdrain]
        exact ⟨rfl, hopen.1, (le_max_left _ _).trans hopen.2⟩
    · cases hdrain
  · right; right; left
    split at hprotect
    · next hopen =>
        rw [List.mem_singleton.mp hprotect]
        exact ⟨rfl, hopen.1, hopen.2⟩
    · cases hprotect
  · right; right; right
    obtain ⟨item, hitem, hreduce⟩ := List.mem_flatMap.mp hreduce
    split at hreduce
    · next budget hbudget =>
        split at hreduce
        · cases hreduce
        · next hover =>
            rw [List.mem_singleton.mp hreduce]
            refine ⟨rfl, item.1, budget, rfl, hbudget, ?_⟩
            rw [OrderedDict.get_iff.mpr hitem]
            exact not_le.mp hover
    · cases hreduce

namespace RuntimeAdapterSession

/-- The governor takes a snapshot of the session as it is, calls for directives by it, and
leaves what a snapshot shows. -/
theorem govern_snapped (b : RuntimeAdapterSession) (liveCommand : Option LiveCommand) :
    (b.govern liveCommand).1.1 = b.buildStateSnapshot ∧
    (∀ directive ∈ (b.govern liveCommand).1.2.2, directive ∈ LivePolicyGovernor.directives
      b.buildStateSnapshot (b.targetFrameMs liveCommand).1 b.policyEngine.memoryBudgetsMb
      liveCommand) ∧
    (∀ frame, (b.govern liveCommand).2.statsOf frame = b.statsOf frame) ∧
    (b.govern liveCommand).2.policyEngine = b.policyEngine ∧
    (b.govern liveCommand).2.controller = b.controller ∧
    (b.govern liveCommand).2.liveCommands = b.liveCommands ∧
    (b.govern liveCommand).2.currentFrame = b.currentFrame := by
  refine ⟨rfl, ?_, ?_⟩
  · obtain ⟨frames, htarget, -⟩ :=
      b.frameTarget_frames (b.currentFrame <|> liveCommand.bind LiveCommand.frame)
    intro directive hdirective
    have hspec := evaluate_spec (b.targetFrameMs liveCommand).2.policyGovernor
      b.buildStateSnapshot (b.targetFrameMs liveCommand).1
      (b.targetFrameMs liveCommand).2.policyEngine.memoryBudgetsMb liveCommand
    have hbudgets : (b.targetFrameMs liveCommand).2.policyEngine = b.policyEngine := by
      unfold targetFrameMs
      rw [htarget]
    rw [← hbudgets]
    exact hspec.1 directive hdirective
  · obtain ⟨frames, governor, directives, hgovern, -, hstats⟩ := b.govern_frames liveCommand
    rw [hgovern]
    exact ⟨hstats, rfl, rfl, rfl, rfl⟩

/-- An answer with a snapshot attached is snapped; there is no live command in it. -/
theorem withStateSnapshot_snapped (b : RuntimeAdapterSession) (response : Response)
    (eventIndex : Option Nat) :
    AnswersSnapped (.ok (b.withStateSnapshot response eventIndex).1,
      (b.withStateSnapshot response eventIndex).2) := by
  intro answer h
  obtain rfl := Except.ok.inj h
  refine ⟨⟨b, none, b.govern_snapped none⟩, fun directive hdirective haction => ?_⟩
  obtain ⟨-, -, command, hcommand, -⟩ | ⟨hother, -⟩ | ⟨hother, -⟩ | ⟨hother, -⟩ :=
    directive_cases ((b.govern_snapped none).2.1 directive hdirective)
  · cases hcommand
  all_goals
    rw [haction] at hother
    cases hother

/-- An answer about an operation is snapped, and a directive to prefetch names the operation
of its report. -/
theorem withOperation_snapped (b : RuntimeAdapterSession) (result : ControllerResult)
    (liveCommand : LiveCommand) (policyActions : List RuntimePolicyAction)
    (eventIndex : Option Nat) :
    AnswersSnapped (.ok (b.withOperation result liveCommand policyActions eventIndex).1,
      (b.withOperation result liveCommand policyActions eventIndex).2) := by
  intro answer h
  obtain rfl := Except.ok.inj h
  refine ⟨⟨b, some liveCommand, b.govern_snapped (some liveCommand)⟩,
    fun directive hdirective haction => ?_⟩
  obtain ⟨-, -, command, hcommand, hprefetch, hid⟩ | ⟨hother, -⟩ | ⟨hother, -⟩ | ⟨hother, -⟩ :=
    directive_cases ((b.govern_snapped (some liveCommand)).2.1 directive hdirective)
  · obtain rfl := Option.some.inj hcommand
    exact ⟨_, List.mem_append_right _ (List.mem_singleton.mpr rfl), hprefetch, hid⟩
  all_goals
    rw [haction] at hother
    cases hother

variable (s : RuntimeAdapterSession) {casing : Casing} {builtins : Builtins} {payload : Payload}
  {eventIndex : Option Nat}

/-- Every answer to a session event is snapped. -/
theorem processSessionEvent_snapped :
    AnswersSnapped (s.processSessionEvent casing builtins payload eventIndex) := by
  unfold processSessionEvent
  dsimp only
  split
  · exact .raised
  · exact withStateSnapshot_snapped _ _ _
  · split
    · exact .raised
    · exact withStateSnapshot_snapped _ _ _

/-- Every answer to a frame event is snapped. -/
theorem processFrameEvent_snapped :
    AnswersSnapped (s.processFrameEvent casing builtins payload eventIndex) := by
  unfold processFrameEvent
  dsimp only
  split
  · exact .raised
  · split
    · exact .raised
    · unfold runFrameAction
      split
      · unfold beginFrame
        split
        · exact .raised
        · split
          · exact .raised
          · exact withStateSnapshot_snapped _ _ _
      · unfold endFrame
        split
        · exact .raised
        · exact withStateSnapshot_snapped _ _ _

/-- Every answer to a resource event is snapped. -/
theorem processResourceEvent_snapped :
    AnswersSnapped (s.processResourceEvent casing builtins payload eventIndex) := by
  unfold processResourceEvent
  dsimp only
  split
  · exact .raised
  · split
    · exact .raised
    · exact withStateSnapshot_snapped _ _ _
  · split
    · exact .raised
    · split
      · exact .raised
      · exact withStateSnapshot_snapped _ _ _

/-- Every answer to an operation event is snapped. -/
theorem processOperationEvent_snapped :
    AnswersSnapped (s.processOperationEvent casing builtins payload eventIndex) := by
  unfold processOperationEvent
  dsimp only
  split
  · exact .raised
  · split
    · exact .raised
    · exact withOperation_snapped _ _ _ _ _

/-- Every answer to a state event is snapped. -/
theorem processStateEvent_snapped :
    AnswersSnapped (s.processStateEvent casing builtins payload eventIndex) := by
  unfold processStateEvent
  split
  · exact .raised
  · exact withStateSnapshot_snapped _ _ _

/-- Every answer is snapped, whatever the event. -/
theorem processEvent_snapped {payload : Json} :
    AnswersSnapped (s.processEvent casing builtins payload eventIndex) := by
  cases payload with
  | dict fields =>
      unfold processEvent
      dsimp only
      split
      · exact .raised
      · next type _ =>
          cases type with
          | session => exact processSessionEvent_snapped _
          | frame => exact processFrameEvent_snapped _
          | resource => exact processResourceEvent_snapped _
          | operation => exact processOperationEvent_snapped _
          | state => exact processStateEvent_snapped _
  | _ => exact .raised

end RuntimeAdapterSession

/-- The number that a frame's costs are held against. -/
def budgetOf (stats : AdapterFrameStats) : ℚ :=
  if stats.targetFrameMs = 0 then defaultFrameBudgetMs else stats.targetFrameMs

/-- What a directive is given for, as the session stands. -/
structure Justified (s : RuntimeAdapterSession) (directive : GovernorDirective) : Prop where
  prefetch : directive.action = .prefetchBeforeCriticalPath → ∃ report ∈ s.results,
    directive.operationId = some report.result.operation.id ∧ report.result.executed = true
  drain : directive.action = .drainCopyQueueBeforeDraw →
    1 ≤ (((executedOf s.results).filter fun operation =>
      operation.frame.isSome ∧ operation.queue = "copy").map RuntimeOperation.costMs).sum
  protect : directive.action = .protectFrameBudget → ∃ frame, s.currentFrame = some frame ∧
    budgetOf (s.statsOf frame) * (9 / 10) ≤
      (((executedOf s.results).filter fun operation => operation.frame = some frame).map
        RuntimeOperation.costMs).sum
  reduce : directive.action = .reduceMemoryResidency → ∃ layer budget,
    directive.resourceId = .memory layer ∧
      s.policyEngine.memoryBudgetsMb.get layer = some budget ∧
      budget < ((s.controller.optimization.resources.values.filter fun resource =>
        resource.memory = layer).map RuntimeResource.sizeMb).sum

/-- A directive that was called for by a true snapshot is justified by the session itself.
The cases are the four kinds of directives. -/
theorem Snapped.justified {answer : Answer} {t : RuntimeAdapterSession} (h : Snapped answer t)
    (hjournal : Journaled t) (hdescribes : answer.stateSnapshot.Describes t) :
    ∀ directive ∈ answer.policyLoopDirectives, Justified t directive := by
  obtain ⟨⟨b, liveCommand, hsnapshot, hcalled, hstats, hpolicy, -, -, hcurrent⟩, hissued⟩ := h
  intro directive hdirective
  rw [hsnapshot] at hdescribes
  have hcases := directive_cases (hcalled directive hdirective)
  refine ⟨fun haction => ?_, fun haction => ?_, fun haction => ?_, fun haction => ?_⟩
  · obtain ⟨report, hreport, hprefetch, hid⟩ := hissued directive hdirective haction
    have hconsistent := hjournal.consistent report hreport
    refine ⟨report, hreport, hid.trans (congrArg some hconsistent.named.1), ?_⟩
    refine Bool.eq_true_of_not_eq_false fun hfalse => ?_
    obtain hstop | hstop := hconsistent.stopped.mp hfalse <;>
    · rw [hprefetch] at hstop
      cases hstop
  all_goals
    rw [haction] at hcases
    simp only [reduceCtorEq, false_and, false_or, or_false, true_and] at hcases
  · rw [← hdescribes.queues]
    exact hcases.2
  · obtain ⟨hopen, hcost⟩ := hcases
    obtain ⟨frame, hframe⟩ : ∃ frame, b.currentFrame = some frame := Option.isSome_iff_exists.mp hopen
    refine ⟨frame, hcurrent.trans hframe, ?_⟩
    have htarget : (b.targetFrameMs liveCommand).1 = (t.statsOf frame).targetFrameMs := by
      rw [hstats]
      unfold RuntimeAdapterSession.targetFrameMs
      rw [hframe]
      exact congrArg AdapterFrameStats.targetFrameMs
        (RuntimeAdapterSession.frameStats_fst b frame)
    rw [htarget, hdescribes.currentCost, hcurrent, hframe] at hcost
    refine hcost.trans (le_of_eq ?_)
    congr 3
    funext operation
    refine decide_eq_decide.mpr (and_iff_right_of_imp fun hsame => ?_)
    rw [hsame]
    rfl
  · obtain ⟨layer, budget, hlayer, hbudget, hover⟩ := hcases
    refine ⟨layer, budget, hlayer, hpolicy ▸ hbudget, ?_⟩
    rw [← hdescribes.memory]
    exact hover

/-- An event that is answered ends the run with it. -/
theorem run_append_one {casing : Casing} {builtins : Builtins} {events : List (Json × Option Nat)}
    {event : Json × Option Nat} {answer : Answer} {t : RuntimeAdapterSession}
    (h : (RuntimeAdapterSession.run casing builtins events).processEvent casing builtins
      event.1 event.2 = (.ok answer, t)) :
    RuntimeAdapterSession.run casing builtins (events ++ [event]) = t := by
  unfold RuntimeAdapterSession.run at h ⊢
  rw [List.foldl_append, List.foldl_cons, List.foldl_nil, h]

/-- In every run the snapshot of an answer describes the session and its directives are
justified. -/
theorem answer_described {casing : Casing} {builtins : Builtins}
    {events : List (Json × Option Nat)} {event : Json × Option Nat} {answer : Answer}
    {t : RuntimeAdapterSession}
    (h : (RuntimeAdapterSession.run casing builtins events).processEvent casing builtins
      event.1 event.2 = (.ok answer, t)) :
    answer.stateSnapshot.Describes t ∧
      ∀ directive ∈ answer.policyLoopDirectives, Justified t directive := by
  have hsnapped := (RuntimeAdapterSession.run casing builtins events).processEvent_snapped
    answer (congrArg Prod.fst h)
  rw [h] at hsnapped
  rw [← run_append_one h] at hsnapped ⊢
  have hjournal := run_journaled casing builtins (events ++ [event])
  obtain ⟨b, liveCommand, hsnapshot, -, hstats, hpolicy, hcontroller, hcommands, hcurrent⟩ :=
    hsnapped.taken
  have hdescribes : answer.stateSnapshot.Describes _ := hsnapshot ▸ prepared_of_taken hjournal
    (run_accounted casing builtins _) (run_mirrored casing builtins _) hstats hpolicy hcontroller
    hcommands hcurrent
  exact ⟨hdescribes, hsnapped.justified hjournal hdescribes⟩

/-- **The snapshot of an answer.** After any stream of events, whatever raised,
the snapshot that comes with the answer to the next event says what the session
then holds: the costs of a queue are those of its executed operations that have
a frame, the totals of a layer those of its registered resources, and the open
frame's numbers those of its executed operations. -/
theorem snapshot_true (casing : Casing) (builtins : Builtins) (events : List (Json × Option Nat))
    (event : Json × Option Nat) {answer : Answer} {t : RuntimeAdapterSession}
    (h : (RuntimeAdapterSession.run casing builtins events).processEvent casing builtins
      event.1 event.2 = (.ok answer, t)) : answer.stateSnapshot.Describes t :=
  (answer_described h).1

/-- A session with a budget of one megabyte of video memory. -/
def budgeted : Json × Option Nat :=
  (.dict [("event", .text "session"), ("vram_budget_mb", .int 1)], none)

/-- A texture of two megabytes. -/
def texture : Json × Option Nat :=
  (.dict [("event", .text "resource"), ("id", .text "albedo"), ("kind", .text "texture"),
    ("memory", .text "vram"), ("size_mb", .int 2)], none)

/-- An upload to it that takes 16 ms, almost all of a frame. -/
def slowUpload : Json × Option Nat :=
  (.dict [("event", .text "operation"), ("id", .text "u"), ("op", .text "upload"),
    ("source", .text "staging"), ("target", .text "albedo"), ("cost_ms", .int 16),
    ("size_mb", .int 2), ("queue", .text "copy")], none)

/-- What comes before it, while frame 3 is open. -/
def uploadPrelude : List (Json × Option Nat) :=
  [budgeted, (.dict [("event", .text "frame"), ("action", .text "begin"), ("frame", .int 3)], none),
    texture]

open RuntimeAdapterSession in
/-- A slow upload in an open frame: the snapshot shows its queue, its frame and the
texture's layer. -/
theorem snapshot_true_texture :
    ∃ answer t, (run .plain plainBuiltins uploadPrelude).processEvent .plain plainBuiltins
        slowUpload.1 slowUpload.2 = (.ok answer, t) ∧
      answer.stateSnapshot.Describes t ∧
      (answer.stateSnapshot.queueCostsMs.get "copy", answer.stateSnapshot.memoryTotalsMb.get .vram,
          answer.stateSnapshot.currentFrame,
          answer.stateSnapshot.estimatedTotalCostMsCurrentFrame) = (some 16, some 2, some 3, 16) :=
  ⟨_, _, rfl, snapshot_true .plain plainBuiltins uploadPrelude slowUpload rfl, by decide +kernel⟩

/-- **Directives are given for a reason.** After any stream of events, whatever
raised, the answer to the next event orders a prefetch only for an operation
that was executed, a drain of the copy queue only where copies were, protection
only for an open frame whose executed operations cost nine tenths of its budget,
and a reduction only of a layer whose registered resources exceed its budget. -/
theorem directives_justified (casing : Casing) (builtins : Builtins)
    (events : List (Json × Option Nat)) (event : Json × Option Nat) {answer : Answer}
    {t : RuntimeAdapterSession}
    (h : (RuntimeAdapterSession.run casing builtins events).processEvent casing builtins
      event.1 event.2 = (.ok answer, t)) :
    ∀ directive ∈ answer.policyLoopDirectives, Justified t directive :=
  (answer_described h).2

open RuntimeAdapterSession in
/-- The same upload is answered with three directives, and each is justified. -/
theorem directives_justified_texture :
    ∃ answer t, (run .plain plainBuiltins uploadPrelude).processEvent .plain plainBuiltins
        slowUpload.1 slowUpload.2 = (.ok answer, t) ∧
      answer.policyLoopDirectives.map GovernorDirective.action =
        [.prefetchBeforeCriticalPath, .drainCopyQueueBeforeDraw, .protectFrameBudget] ∧
      ∀ directive ∈ answer.policyLoopDirectives, Justified t directive :=
  ⟨_, _, rfl, by decide +kernel,
    directives_justified .plain plainBuiltins uploadPrelude slowUpload rfl⟩

/-! ## Nothing is given twice -/

/-- No action is emitted twice for one thing: there is one key for each. -/
def EmittedOnce (engine : RuntimePolicyEngine) : Prop :=
  engine.emitted.Nodup ∧ engine.actions.map (fun action => (action.id, action.frame)) =
    engine.emitted.reverse.map fun key => (key.1, key.2.1)

/-- Emitting several actions emits no key twice. -/
theorem EmittedOnce.emitAll {engine : RuntimePolicyEngine} (h : EmittedOnce engine)
    (given : List (RuntimePolicyAction × PolicyKey)) : EmittedOnce (engine.emitAll given) := by
  refine RuntimePolicyEngine.emitAll_keeps (fun engine action key h => ?_) h given
  unfold RuntimePolicyEngine.emitOnce
  dsimp only
  split
  · exact h
  · next hfresh =>
      refine ⟨List.nodup_cons.mpr ⟨hfresh, h.1⟩, ?_⟩
      dsimp only
      rw [List.map_append, h.2, List.reverse_cons, List.map_append]
      rfl

/-- Neither an action nor a directive is given twice for one thing. -/
structure GivenOnce (s : RuntimeAdapterSession) : Prop where
  emitted : EmittedOnce s.policyEngine
  marked : s.policyGovernor.emitted.Nodup
  directives : s.policyLoopDirectives.map GovernorDirective.key = s.policyGovernor.emitted.reverse

namespace GivenOnce

variable {s t : RuntimeAdapterSession}

/-- What is given once depends on the policy's keys, the governor's keys and the directives
only. -/
theorem congr (h : GivenOnce s) (hpolicy : EmittedOnce t.policyEngine)
    (hgovernor : t.policyGovernor = s.policyGovernor)
    (hdirectives : t.policyLoopDirectives = s.policyLoopDirectives) : GivenOnce t := by
  refine ⟨hpolicy, ?_, ?_⟩
  · rw [hgovernor]
    exact h.marked
  · rw [hgovernor, hdirectives]
    exact h.directives

/-- The governor gives nothing that it has given before. -/
theorem governed (h : GivenOnce s) (hpolicy : EmittedOnce t.policyEngine)
    (hgoverned : RuntimeAdapterSession.Governed s.policyGovernor s.policyLoopDirectives
      t.policyGovernor t.policyLoopDirectives) : GivenOnce t := by
  obtain ⟨snapshot, targetFrameMs, budgets, liveCommand, hgovernor, hdirectives⟩ :=
    hgoverned.evaluated
  obtain ⟨-, hemitted, hnodup⟩ :=
    evaluate_spec s.policyGovernor snapshot targetFrameMs budgets liveCommand
  refine ⟨hpolicy, ?_, ?_⟩
  · rw [hgovernor]
    exact hnodup h.marked
  · rw [hgovernor, hdirectives, hemitted, List.map_append, List.reverse_append,
      List.reverse_reverse, h.directives]

/-- A move of the session gives nothing twice, by the policy or by the governor. -/
theorem move {builtins : Builtins} (hmove : RuntimeAdapterSession.Move casing builtins s t)
    (h : GivenOnce s) : GivenOnce t := by
  cases hmove with
  | mark hmark =>
      rw [hmark]
      exact h.congr h.emitted rfl rfl
  | configure payload =>
      obtain ⟨hemitted, hactions⟩ := s.policyEngine.configure_emitted builtins payload
      refine h.congr ?_ rfl rfl
      unfold EmittedOnce
      dsimp only
      rw [hemitted, hactions]
      exact h.emitted
  | finalize => exact h.congr h.emitted rfl rfl
  | stats => exact h.congr h.emitted rfl rfl
  | finishFrame frame targetFrameMs totalCostMs queueCosts =>
      obtain ⟨given, hgiven⟩ := s.policyEngine.finishFrame_emits frame targetFrameMs totalCostMs
        queueCosts
      refine h.congr ?_ rfl rfl
      dsimp only
      rw [hgiven]
      exact h.emitted.emitAll given
  | @register resource controller hregister =>
      obtain ⟨given, hgiven⟩ := RuntimePolicyEngine.checkMemoryBudget_emits
        { s.policyEngine with activeResources :=
            s.policyEngine.activeResources.set resource.id resource }.recalculateMemoryTotals
        resource.memory s.currentFrame
      refine h.congr ?_ rfl rfl
      dsimp only [RuntimePolicyEngine.registerResource]
      rw [hgiven]
      have hsame : EmittedOnce
          { s.policyEngine with activeResources :=
              s.policyEngine.activeResources.set resource.id resource }.recalculateMemoryTotals :=
        h.emitted
      exact hsame.emitAll given
  | release => exact h.congr h.emitted rfl rfl
  | releaseUnknown => exact h.congr h.emitted rfl rfl
  | @accept operation result controller hcost hsize hsubmit eventIndex =>
      have haccepted := RuntimeAdapterSession.acceptOperation_accepted
        { s with controller } result eventIndex
      obtain ⟨targetFrameMs, hpolicy⟩ := haccepted.policy
      obtain ⟨given, hgiven⟩ :=
        s.policyEngine.recordOperation_emits result result.operation.frame targetFrameMs
      refine h.governed ?_ haccepted.governed
      rw [hpolicy]
      dsimp only
      rw [hgiven]
      exact h.emitted.emitAll given
  | govern liveCommand =>
      obtain ⟨frames, governor, directives, hgovern, hgoverned, -⟩ := s.govern_frames liveCommand
      rw [hgovern]
      exact h.governed h.emitted hgoverned

/-- A new session has given nothing. -/
theorem start : GivenOnce {} :=
  ⟨⟨List.nodup_nil, rfl⟩, List.nodup_nil, rfl⟩

end GivenOnce

/-- **Nothing is given twice.** After every stream of events, whatever raises,
no two directives of the governor agree in action, frame and what they are
about, and the policy engine has emitted its actions for different things. -/
theorem run_given_once (casing : Casing) (builtins : Builtins)
    (events : List (Json × Option Nat)) :
    ((RuntimeAdapterSession.run casing builtins events).policyLoopDirectives.map
        GovernorDirective.key).Nodup ∧
      EmittedOnce (RuntimeAdapterSession.run casing builtins events).policyEngine := by
  have honce : GivenOnce (RuntimeAdapterSession.run casing builtins events) :=
    RuntimeAdapterSession.run_induction GivenOnce.start GivenOnce.move events
  refine ⟨?_, honce.emitted⟩
  rw [honce.directives]
  exact List.nodup_reverse.mpr honce.marked

end FluidGateway.Adapter
