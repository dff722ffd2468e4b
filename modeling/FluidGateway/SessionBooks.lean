import FluidGateway.OptimizerLog
import FluidGateway.SessionMoves

/-!
# The books of a session

A session writes an accepted operation down in several places: in the
controller, among the live commands, the gates and the results, and in the
statistics of its frame.  After every stream of events these books agree: there
is one report for each accepted operation, its parts tell one story
(`journal_balanced`), and the statistics of a frame are the totals of its
reports (`frames_accounted`).
-/

namespace FluidGateway.Adapter

open FluidGateway.Runtime (Casing FluidGatewayController ControllerResult RuntimeResource
  RuntimeOperation RuntimeDecision RuntimeOptimizationState OperationType)

/-! ## Decisions -/

/-- What the controller answers to an operation. -/
inductive Settled (casing : Casing) (c : FluidGatewayController) (operation : RuntimeOperation) :
    ControllerResult → FluidGatewayController → Prop
  | eliminated {dependsOn : List String} {decision : RuntimeDecision}
      {optimization : RuntimeOptimizationState}
      (choice : Runtime.decideOperation casing c.optimization operation = some decision)
      (fresh : operation.id ∉ c.optimization.operationIds)
      (known : optimization.operationIds = insert operation.id c.optimization.operationIds)
      (resources : optimization.resources = c.optimization.resources) :
      Settled casing c operation
        { operation := { operation with dependsOn }, decision := some decision, executed := false }
        { c with optimization, decisions := c.decisions ++ [decision] }
  | executed {dependsOn : List String} {optimization : RuntimeOptimizationState}
      (fresh : operation.id ∉ c.optimization.operationIds)
      (known : optimization.operationIds = insert operation.id c.optimization.operationIds)
      (resources : optimization.resources = c.optimization.resources) :
      Settled casing c operation
        { operation := { operation with dependsOn }, decision := none, executed := true }
        { c with
          optimization
          executedOperations := c.executedOperations ++ [{ operation with dependsOn }] }

variable {casing : Casing} {c c' : FluidGatewayController} {operation : RuntimeOperation}
  {result : ControllerResult}

/-- An operation that the controller accepts is settled: eliminated with a decision, or
executed without one. The cases are the branches of `submit_operation`. -/
theorem submitOperation_settled
    (h : c.submitOperation casing operation = (.ok result, c')) :
    Settled casing c operation result c' := by
  have hspec := c.optimization.process_spec casing operation
  unfold FluidGatewayController.submitOperation at h
  generalize c.optimization.process casing operation = answer at hspec h
  obtain ⟨out, optimization⟩ := answer
  cases hspec with
  | duplicate => cases h
  | eliminated fresh decision choice =>
      cases h
      exact .eliminated choice fresh rfl rfl
  | executed fresh choice =>
      cases h
      have hnames := RuntimeOptimizationState.execute_names
        (c.optimization.submitted operation) (c.optimization.rewritten operation)
      exact .executed fresh (congrArg RuntimeOptimizationState.Names.operationIds hnames)
        (RuntimeOptimizationState.execute_resources _ _)

/-- An operation is executed exactly where there is no decision about it. -/
theorem Settled.executed_eq (h : Settled casing c operation result c') :
    result.executed = result.decision.isNone := by
  cases h <;> rfl

/-- The operation that comes back has the identity of the one that was given. -/
theorem Settled.id (h : Settled casing c operation result c') :
    result.operation.id = operation.id := by
  cases h <;> rfl

/-- No operation is accepted under an identity that was accepted before. -/
theorem Settled.fresh (h : Settled casing c operation result c') :
    operation.id ∉ c.optimization.operationIds := by
  cases h <;> assumption

/-- The identity of an accepted operation is remembered. -/
theorem Settled.known (h : Settled casing c operation result c') :
    c'.optimization.operationIds = insert operation.id c.optimization.operationIds := by
  cases h <;> assumption

/-- An operation leaves the resources as they are. -/
theorem Settled.resources (h : Settled casing c operation result c') :
    c'.optimization.resources = c.optimization.resources := by
  cases h <;> assumption

/-! ## Reports -/

/-- The operation of a report, if it was executed. -/
def OperationReport.executedOperation (report : OperationReport) : Option RuntimeOperation :=
  if report.result.executed then some report.result.operation else none

/-- The operations that were executed grow by this one, or stay. -/
theorem Settled.executedOperations (h : Settled casing c operation result c') :
    c'.executedOperations = c.executedOperations ++
      (if result.executed then some result.operation else none : Option RuntimeOperation).toList := by
  cases h with
  | eliminated => exact (List.append_nil _).symm
  | executed => rfl

/-- The decisions grow by the one about this operation, or stay. -/
theorem Settled.decisions (h : Settled casing c operation result c') :
    c'.decisions = c.decisions ++ result.decision.toList := by
  cases h with
  | eliminated => rfl
  | executed => exact (List.append_nil _).symm

/-- The parts of a report tell one story: what the controller eliminated is
never let through by the gate, critical work that it kept always is, and what
is held back is neither. -/
structure OperationReport.Consistent (report : OperationReport) : Prop where
  executed : report.result.executed = report.result.decision.isNone
  stopped : report.result.executed = false ↔
    report.liveCommand.action = .reuse ∨ report.liveCommand.action = .defer
  gated : report.executionGate.shouldExecute = true → report.result.executed = true
  admitted : report.admissionDecision.admitted = report.executionGate.shouldExecute
  critical : report.result.executed = true → critical report.result.operation.type = true →
    report.admissionDecision.admitted = true
  held : report.admissionDecision.contribution = .held ↔
    report.result.executed = true ∧ report.admissionDecision.admitted = false
  avoided : report.admissionDecision.contribution = .avoided ∨
    report.admissionDecision.contribution = .reused ↔ report.result.executed = false
  admission : report.admissionDecision =
    buildAdmissionDecision report.result.operation report.executionGate
  efficiency : report.efficiencyImpact = buildEfficiencyImpact report.admissionDecision
  named : report.liveCommand.operationId = report.result.operation.id ∧
    report.executionGate.operationId = report.result.operation.id ∧
    report.admissionDecision.operationId = report.result.operation.id ∧
    report.efficiencyImpact.operationId = report.result.operation.id

/-- The five answers of the gate. -/
theorem buildExecutionGate_cases (result : ControllerResult) (liveCommand : LiveCommand)
    (directives : List GovernorDirective) (snapshot : LiveStateSnapshot) (targetFrameMs : ℚ) :
    let gate := buildExecutionGate result liveCommand directives snapshot targetFrameMs
    let stopped := liveCommand.action = .reuse ∨ liveCommand.action = .defer
    gate.operationId = result.operation.id ∧
      ((stopped ∧ gate.shouldExecute = false ∧
          (gate.action = .reuseExistingResource ∨ gate.action = .deferRedundantWork)) ∨
        (¬ stopped ∧ critical result.operation.type = false ∧ gate.shouldExecute = false ∧
          gate.action = .holdNoncriticalWork) ∨
        (¬ stopped ∧ gate.shouldExecute = true ∧
          (gate.action = .prestageBeforeDraw ∨ gate.action = .executeNow))) := by
  dsimp only
  unfold buildExecutionGate
  dsimp only
  split
  · next h => exact ⟨rfl, .inl ⟨.inl h, rfl, .inl rfl⟩⟩
  · split
    · next h => exact ⟨rfl, .inl ⟨.inr h, rfl, .inr rfl⟩⟩
    · next hreuse hdefer =>
        have hopen := not_or.mpr ⟨hreuse, hdefer⟩
        split
        · next hhold =>
            refine ⟨rfl, .inr (.inl ⟨hopen, ?_, rfl, rfl⟩)⟩
            unfold shouldHoldNoncriticalWork at hhold
            simp only [Bool.and_eq_true, Bool.not_eq_true'] at hhold
            exact hhold.1.1
        · split
          · exact ⟨rfl, .inr (.inr ⟨hopen, rfl, .inl rfl⟩)⟩
          · exact ⟨rfl, .inr (.inr ⟨hopen, rfl, .inr rfl⟩)⟩

/-- A command stops an operation exactly where there is a decision about it. -/
theorem buildLiveCommand_stopped (result : ControllerResult) (targetFrameMs : ℚ) :
    (buildLiveCommand result targetFrameMs).action = .reuse ∨
        (buildLiveCommand result targetFrameMs).action = .defer ↔
      result.decision.isSome = true := by
  unfold buildLiveCommand
  cases result.decision with
  | none =>
      dsimp only
      split <;> simp
  | some decision =>
      dsimp only
      cases decision.action <;> simp

/-- The parts of a report are made from one result, one after the other, so that each
follows from the one before; the gate can hold back only what is not critical. -/
theorem report_consistent (hresult : result.executed = result.decision.isNone)
    (targetFrameMs : ℚ) (directives : List GovernorDirective) (snapshot : LiveStateSnapshot)
    (gateTargetMs : ℚ) (eventIndex : Option Nat) :
    let liveCommand := buildLiveCommand result targetFrameMs
    let executionGate := buildExecutionGate result liveCommand directives snapshot gateTargetMs
    let admissionDecision := buildAdmissionDecision result.operation executionGate
    OperationReport.Consistent {
      eventIndex, result, liveCommand, executionGate, admissionDecision
      efficiencyImpact := buildEfficiencyImpact admissionDecision } := by
  intro liveCommand executionGate admissionDecision
  have hstopped : result.executed = false ↔
      liveCommand.action = .reuse ∨ liveCommand.action = .defer := by
    rw [hresult, buildLiveCommand_stopped]
    cases result.decision <;> simp
  have hid : (buildEfficiencyImpact admissionDecision).operationId =
      admissionDecision.operationId := by
    unfold buildEfficiencyImpact
    dsimp only
    split <;> rfl
  have hnamed : admissionDecision.operationId = result.operation.id := by
    change (buildAdmissionDecision _ _).operationId = _
    unfold buildAdmissionDecision
    dsimp only
    split <;> rfl
  obtain ⟨hgate, hcases⟩ := buildExecutionGate_cases result liveCommand directives snapshot
    gateTargetMs
  change executionGate.operationId = _ at hgate
  have hadmission : admissionDecision = buildAdmissionDecision result.operation executionGate :=
    rfl
  generalize admissionDecision = admission at hadmission hid hnamed ⊢
  change (_ ∧ executionGate.shouldExecute = false ∧
    (executionGate.action = _ ∨ executionGate.action = _)) ∨ (_ ∧ _ ∧
    executionGate.shouldExecute = false ∧ executionGate.action = _) ∨ (_ ∧
    executionGate.shouldExecute = true ∧
    (executionGate.action = _ ∨ executionGate.action = _)) at hcases
  generalize executionGate = gate at hgate hcases hadmission ⊢
  have hbuilt := hadmission
  have hexecuted : ¬ (liveCommand.action = .reuse ∨ liveCommand.action = .defer) →
      result.executed = true := by
    intro hopen
    rw [← hstopped] at hopen
    exact Bool.eq_true_of_not_eq_false hopen
  have hdone : ∀ {admitted : Bool} {contribution : Contribution},
      admission.admitted = admitted → admission.contribution = contribution →
      gate.shouldExecute = admitted →
      (admitted = true → result.executed = true) →
      (result.executed = true → critical result.operation.type = true → admitted = true) →
      (contribution = .held ↔ result.executed = true ∧ admitted = false) →
      (contribution = .avoided ∨ contribution = .reused ↔ result.executed = false) →
      OperationReport.Consistent {
        eventIndex, result, liveCommand
        executionGate := gate
        admissionDecision := admission
        efficiencyImpact := buildEfficiencyImpact admission } := by
    rintro _ _ rfl rfl hshould hgated hcritical hheld havoided
    exact ⟨hresult, hstopped, fun h => hgated (hshould.symm.trans h), hshould.symm, hcritical,
      hheld, havoided, hbuilt, rfl, rfl, hgate, hnamed, hid.trans hnamed⟩
  unfold buildAdmissionDecision at hadmission
  dsimp only at hadmission
  obtain ⟨hstop, hshould, haction⟩ | ⟨hopen, hcrit, hshould, haction⟩ | ⟨hopen, hshould, haction⟩ :=
    hcases
  · have hfalse := hstopped.mpr hstop
    obtain haction | haction := haction <;>
      (rw [haction] at hadmission
       refine hdone (congrArg AdmissionDecision.admitted hadmission)
         (congrArg AdmissionDecision.contribution hadmission) hshould ?_ ?_ ?_ ?_ <;>
       simp [hfalse])
  · have htrue := hexecuted hopen
    rw [haction] at hadmission
    refine hdone (congrArg AdmissionDecision.admitted hadmission)
      (congrArg AdmissionDecision.contribution hadmission) hshould ?_ ?_ ?_ ?_ <;>
    simp [htrue, hcrit]
  · have htrue := hexecuted hopen
    obtain haction | haction := haction <;>
      (rw [haction] at hadmission
       refine hdone (congrArg AdmissionDecision.admitted hadmission)
         (congrArg AdmissionDecision.contribution hadmission) hshould ?_ ?_ ?_ ?_ <;>
       simp [htrue])

/-! ## Accepting an operation -/

namespace RuntimeAdapterSession

variable (s : RuntimeAdapterSession)

/-- Looking up a frame's statistics may add new ones to the table, but shows the same
statistics for every frame. -/
theorem frameStats_frames (frame : ℤ) : ∃ frames, (s.frameStats frame).2 = { s with frames } ∧
    ∀ other, statsOf { s with frames } other = s.statsOf other := by
  have hstats := statsOf_frameStats s frame
  unfold frameStats at hstats ⊢
  cases hget : s.frames.get frame with
  | some stats => exact ⟨_, rfl, fun _ => rfl⟩
  | none =>
      rw [hget] at hstats
      exact ⟨_, rfl, hstats⟩

/-- Asking for a frame's target shows the same statistics for every frame afterwards. -/
theorem frameTarget_frames (frame : Option ℤ) :
    ∃ frames, (s.frameTarget frame).2 = { s with frames } ∧
      ∀ other, statsOf { s with frames } other = s.statsOf other := by
  cases frame with
  | none => exact ⟨_, rfl, fun _ => rfl⟩
  | some frame => exact s.frameStats_frames frame

/-- The statistics of a frame are rewritten. -/
theorem setFrame_frameStats {frame : ℤ} (stats : AdapterFrameStats) :
    ∃ frames, (s.frameStats frame).2.setFrame frame stats = { s with frames } ∧
      ∀ other, account { s with frames } other =
        if frame = other then stats.account else s.account other := by
  obtain ⟨frames, hframes, hstats⟩ := s.frameStats_frames frame
  rw [hframes]
  refine ⟨_, rfl, fun other => ?_⟩
  refine (account_setFrame { s with frames } frame other stats).trans ?_
  rw [account, hstats]
  rfl

/-- Recording an operation changes the account of its frame, by what the result says, and of
no other. -/
theorem recordOperation_frames (frame : Option ℤ) (result : ControllerResult) :
    ∃ frames, s.recordOperation frame result = { s with frames } ∧
      ∀ other, account { s with frames } other =
        if frame = some other then ((s.statsOf other).record result).account
        else s.account other := by
  cases frame with
  | none => exact ⟨_, rfl, fun _ => rfl⟩
  | some frame =>
      obtain ⟨frames, hframes, haccount⟩ :=
        s.setFrame_frameStats ((s.frameStats frame).1.record result)
      refine ⟨frames, hframes, fun other => ?_⟩
      rw [haccount, frameStats_fst]
      simp only [Option.some.injEq]
      by_cases h : frame = other
      · rw [if_pos h, if_pos h, h]
      · rw [if_neg h, if_neg h]

/-- Recording the actions of the policy changes no account. -/
theorem recordPolicyActions_frames (actions : List RuntimePolicyAction) (frame : Option ℤ) :
    ∃ frames, s.recordPolicyActions actions frame = { s with frames } ∧
      ∀ other, account { s with frames } other = s.account other := by
  cases frame with
  | none => exact ⟨_, rfl, fun _ => rfl⟩
  | some frame =>
      have hsame : (s.frameStats frame).1.account = s.account frame := by
        rw [frameStats_fst]
        rfl
      obtain ⟨frames, hframes, haccount⟩ := s.setFrame_frameStats { (s.frameStats frame).1 with
        policyActionCount := (s.frameStats frame).1.policyActionCount + actions.length
        policyActionIds :=
          (s.frameStats frame).1.policyActionIds ++ actions.map RuntimePolicyAction.id }
      refine ⟨frames, hframes, fun other => (haccount other).trans ?_⟩
      by_cases h : frame = other
      · rw [if_pos h, ← h]
        exact hsame
      · rw [if_neg h]

/-- What the governor has given, after it has looked at a session. -/
structure Governed (governor : LivePolicyGovernor) (given : List GovernorDirective)
    (governor' : LivePolicyGovernor) (given' : List GovernorDirective) : Prop where
  intro ::
  evaluated : ∃ snapshot targetFrameMs budgets liveCommand,
    governor' = (governor.evaluate snapshot targetFrameMs budgets liveCommand).2 ∧
      given' = given ++ (governor.evaluate snapshot targetFrameMs budgets liveCommand).1

/-- The governor changes no account; what it writes is in its own fields. -/
theorem govern_frames (liveCommand : Option LiveCommand) :
    ∃ frames governor directives,
      (s.govern liveCommand).2 = { s with
        frames, policyGovernor := governor, policyLoopDirectives := directives } ∧
      Governed s.policyGovernor s.policyLoopDirectives governor directives ∧
      ∀ other, statsOf { s with frames } other = s.statsOf other := by
  obtain ⟨frames, hframes, hstats⟩ :=
    s.frameTarget_frames (s.currentFrame <|> liveCommand.bind LiveCommand.frame)
  unfold govern targetFrameMs
  dsimp only
  rw [hframes]
  exact ⟨frames, _, _, rfl, ⟨_, _, _, _, rfl, rfl⟩, hstats⟩

/-- What accepting an operation does to a session. -/
structure Accepted (result : ControllerResult) (t : RuntimeAdapterSession) : Prop where
  journal : result.executed = result.decision.isNone →
    ∃ report : OperationReport, report.result = result ∧ report.Consistent ∧
      t.results = s.results ++ [report] ∧
      t.liveCommands = s.liveCommands ++ [report.liveCommand] ∧
      t.executionGates = s.executionGates ++ [report.executionGate]
  controller : t.controller = s.controller
  policy : ∃ targetFrameMs, t.policyEngine =
    (s.policyEngine.recordOperation result result.operation.frame targetFrameMs).2
  governed : Governed s.policyGovernor s.policyLoopDirectives
    t.policyGovernor t.policyLoopDirectives
  account : ∀ frame, t.account frame =
    if result.operation.frame = some frame then ((s.statsOf frame).record result).account
    else s.account frame

/-- Accepting an operation adds one report to the journal and its parts to their lists, and
records it in its frame. The session is followed through the functions that are called in
turn. -/
theorem acceptOperation_accepted (result : ControllerResult) (eventIndex : Option Nat) :
    s.Accepted result (s.acceptOperation result eventIndex).2 := by
  obtain ⟨framesTarget, htarget, hstats⟩ := s.frameTarget_frames result.operation.frame
  unfold acceptOperation
  dsimp only
  generalize s.frameTarget result.operation.frame = answer at htarget ⊢
  obtain ⟨target, named⟩ := answer
  obtain rfl : named = { s with frames := framesTarget } := htarget
  obtain ⟨framesRecorded, hrecorded, haccountRecorded⟩ := recordOperation_frames
    (issue { s with frames := framesTarget } (buildLiveCommand result target))
    result.operation.frame result
  dsimp only
  rw [hrecorded]
  unfold advise
  dsimp only [issue]
  generalize hpolicy : s.policyEngine.recordOperation result result.operation.frame target =
    recommended
  obtain ⟨actions, policyEngine⟩ := recommended
  dsimp only
  obtain ⟨framesActed, hacted, haccountActed⟩ := recordPolicyActions_frames
    { s with
      frames := framesRecorded
      liveCommands := s.liveCommands ++ [buildLiveCommand result target]
      policyEngine
      lifetimePlanner := s.lifetimePlanner.recordOperation result.operation result.executed }
    actions result.operation.frame
  rw [hacted]
  obtain ⟨framesGoverned, governor, directives, hgoverned, hlooked, hstatsGoverned⟩ :=
    govern_frames
      { s with
        frames := framesActed
        liveCommands := s.liveCommands ++ [buildLiveCommand result target]
        policyEngine
        lifetimePlanner := s.lifetimePlanner.recordOperation result.operation result.executed }
      (some (buildLiveCommand result target))
  unfold withOperation
  dsimp only
  generalize govern _ _ = looked at hgoverned ⊢
  obtain ⟨⟨snapshot, gateTarget, given⟩, governed⟩ := looked
  obtain rfl : governed = _ := hgoverned
  refine ⟨?_, rfl, ⟨target, (congrArg Prod.snd hpolicy).symm⟩, hlooked, ?_⟩
  · intro hresult
    exact ⟨_, rfl, report_consistent hresult target given snapshot gateTarget eventIndex,
      rfl, rfl, rfl⟩
  · intro frame
    refine (congrArg AdapterFrameStats.account (hstatsGoverned frame)).trans ?_
    refine (haccountActed frame).trans ((haccountRecorded frame).trans ?_)
    by_cases h : result.operation.frame = some frame
    · rw [if_pos h, if_pos h]
      exact congrArg (fun stats => (AdapterFrameStats.record stats result).account) (hstats frame)
    · rw [if_neg h, if_neg h]
      exact congrArg AdapterFrameStats.account (hstats frame)

end RuntimeAdapterSession

/-! ## The journal -/

/-- The operations of these reports that were executed. -/
def executedOf (reports : List OperationReport) : List RuntimeOperation :=
  reports.filterMap OperationReport.executedOperation

/-- The decisions of these reports. -/
def decisionsOf (reports : List OperationReport) : List RuntimeDecision :=
  reports.filterMap fun report => report.result.decision

/-- One report more adds its operation, if that was executed. -/
theorem executedOf_concat (reports : List OperationReport) (report : OperationReport) :
    executedOf (reports ++ [report]) = executedOf reports ++ report.executedOperation.toList := by
  unfold executedOf
  rw [List.filterMap_append]
  cases h : report.executedOperation <;> simp [h]

/-- One report more adds its decision, if there is one. -/
theorem decisionsOf_concat (reports : List OperationReport) (report : OperationReport) :
    decisionsOf (reports ++ [report]) = decisionsOf reports ++ report.result.decision.toList := by
  unfold decisionsOf
  rw [List.filterMap_append]
  cases h : report.result.decision <;> simp [h]

/-- One report for each accepted operation, and no operation accepted twice. -/
structure Journaled (s : RuntimeAdapterSession) : Prop where
  consistent : ∀ report ∈ s.results, report.Consistent
  liveCommands : s.liveCommands = s.results.map OperationReport.liveCommand
  executionGates : s.executionGates = s.results.map OperationReport.executionGate
  executed : s.controller.executedOperations = executedOf s.results
  decided : s.controller.decisions = decisionsOf s.results
  known : ∀ report ∈ s.results,
    report.result.operation.id ∈ s.controller.optimization.operationIds
  distinct : (s.results.map fun report => report.result.operation.id).Nodup

/-- The controllers have the same operations in their books. -/
structure SameBooks (c c' : FluidGatewayController) : Prop where
  executed : c'.executedOperations = c.executedOperations
  decisions : c'.decisions = c.decisions
  known : c'.optimization.operationIds = c.optimization.operationIds

/-- Registering a resource leaves the operations and decisions in the books. -/
theorem registerResource_books {resource given : RuntimeResource}
    (h : c.registerResource resource = (.ok given, c')) : SameBooks c c' := by
  unfold FluidGatewayController.registerResource RuntimeOptimizationState.register at h
  split at h
  · cases h
  · next hregister =>
      split at hregister
      · cases hregister
      · cases hregister
        cases h
        exact ⟨rfl, rfl, rfl⟩

/-- Releasing a resource leaves the operations and decisions in the books. -/
theorem releaseResource_books {id : String} {released : Option RuntimeResource}
    (h : c.releaseResource id = (released, c')) : SameBooks c c' := by
  have hnames := RuntimeOptimizationState.invalidateResource_names c.optimization (some id)
  obtain rfl : (c.releaseResource id).2 = c' := congrArg Prod.snd h
  exact ⟨rfl, rfl, congrArg RuntimeOptimizationState.Names.operationIds hnames⟩

/-- **What holds of every report when it is written holds of all of them.** -/
theorem run_reports {builtins : Builtins} {property : OperationReport → Prop}
    (hwritten : ∀ {c c' : FluidGatewayController} {operation : RuntimeOperation}
      {report : OperationReport}, 0 ≤ operation.costMs → 0 ≤ operation.sizeMb →
      Settled casing c operation report.result c' → property report)
    (events : List (Json × Option Nat)) :
    ∀ report ∈ (RuntimeAdapterSession.run casing builtins events).results, property report := by
  refine RuntimeAdapterSession.run_induction
    (p := fun s => ∀ report ∈ s.results, property report)
    (fun report hreport => (List.not_mem_nil hreport).elim) (fun {s t} hmove h => ?_) events
  cases hmove with
  | mark hmark =>
      rw [hmark]
      exact h
  | configure => exact h
  | finalize => exact h
  | stats => exact h
  | finishFrame => exact h
  | register => exact h
  | release => exact h
  | releaseUnknown => exact h
  | @accept operation result controller hcost hsize hsubmit eventIndex =>
      have hsettled := submitOperation_settled hsubmit
      obtain ⟨report, rfl, -, hresults, -, -⟩ :=
        (RuntimeAdapterSession.acceptOperation_accepted { s with controller } result
          eventIndex).journal hsettled.executed_eq
      rw [hresults]
      intro other hother
      obtain hold | hnew := List.mem_append.mp hother
      · exact h other hold
      · rw [List.mem_singleton.mp hnew]
        exact hwritten hcost hsize hsettled
  | govern liveCommand =>
      obtain ⟨frames, governor, directives, hgovern, -, -⟩ := s.govern_frames liveCommand
      rw [hgovern]
      exact h

namespace Journaled

variable {s t : RuntimeAdapterSession}

/-- Nothing is written to the journal. -/
theorem congr (h : Journaled s) (hresults : t.results = s.results)
    (hcommands : t.liveCommands = s.liveCommands) (hgates : t.executionGates = s.executionGates)
    (hbooks : SameBooks s.controller t.controller) : Journaled t where
  consistent := hresults ▸ h.consistent
  liveCommands := by rw [hcommands, hresults, h.liveCommands]
  executionGates := by rw [hgates, hresults, h.executionGates]
  executed := by rw [hbooks.executed, hresults, h.executed]
  decided := by rw [hbooks.decisions, hresults, h.decided]
  known := by rw [hresults, hbooks.known]; exact h.known
  distinct := hresults ▸ h.distinct

/-- One report is written. -/
theorem concat (h : Journaled s) {report : OperationReport} (hreport : report.Consistent)
    (hsettled : Settled casing s.controller operation report.result t.controller)
    (hresults : t.results = s.results ++ [report])
    (hcommands : t.liveCommands = s.liveCommands ++ [report.liveCommand])
    (hgates : t.executionGates = s.executionGates ++ [report.executionGate]) : Journaled t := by
  refine ⟨?_, ?_, ?_, ?_, ?_, ?_, ?_⟩
  · rw [hresults]
    intro other hother
    obtain hold | hnew := List.mem_append.mp hother
    · exact h.consistent other hold
    · rw [List.mem_singleton.mp hnew]
      exact hreport
  · rw [hcommands, hresults, List.map_append, h.liveCommands]
    rfl
  · rw [hgates, hresults, List.map_append, h.executionGates]
    rfl
  · rw [hsettled.executedOperations, hresults, executedOf_concat, h.executed]
    rfl
  · rw [hsettled.decisions, hresults, decisionsOf_concat, h.decided]
  · rw [hresults, hsettled.known]
    intro other hother
    obtain hold | hnew := List.mem_append.mp hother
    · exact Finset.mem_insert_of_mem (h.known other hold)
    · rw [List.mem_singleton.mp hnew, hsettled.id]
      exact Finset.mem_insert_self _ _
  · rw [hresults, List.map_append]
    apply List.Nodup.append h.distinct (List.nodup_singleton _)
    intro id hold hnew
    obtain ⟨other, hother, rfl⟩ := List.mem_map.mp hold
    have hid := (List.mem_singleton.mp hnew).trans hsettled.id
    exact hsettled.fresh (hid ▸ h.known other hother)

/-- A move of the session keeps the journal: an accepted operation adds its report, and
nothing else touches the books. -/
theorem move {builtins : Builtins} (hmove : RuntimeAdapterSession.Move casing builtins s t)
    (h : Journaled s) : Journaled t := by
  have hsame : ∀ controller : FluidGatewayController, SameBooks controller controller :=
    fun _ => ⟨rfl, rfl, rfl⟩
  cases hmove with
  | mark hmark =>
      rw [hmark]
      exact h.congr rfl rfl rfl (hsame _)
  | configure => exact h.congr rfl rfl rfl (hsame _)
  | finalize => exact h.congr rfl rfl rfl (hsame _)
  | stats => exact h.congr rfl rfl rfl (hsame _)
  | finishFrame => exact h.congr rfl rfl rfl (hsame _)
  | register hregister => exact h.congr rfl rfl rfl (registerResource_books hregister)
  | release hrelease => exact h.congr rfl rfl rfl (releaseResource_books hrelease)
  | releaseUnknown hrelease => exact h.congr rfl rfl rfl (releaseResource_books hrelease)
  | @accept operation result controller hcost hsize hsubmit eventIndex =>
      have hsettled := submitOperation_settled hsubmit
      have haccepted := RuntimeAdapterSession.acceptOperation_accepted
        { s with controller } result eventIndex
      obtain ⟨report, rfl, hreport, hresults, hcommands, hgates⟩ :=
        haccepted.journal hsettled.executed_eq
      have hcontroller : (RuntimeAdapterSession.acceptOperation { s with controller }
          report.result eventIndex).2.controller = controller := haccepted.controller
      rw [← hcontroller] at hsettled
      exact h.concat hreport hsettled hresults hcommands hgates
  | govern liveCommand =>
      obtain ⟨frames, governor, directives, hgovern, -, -⟩ := s.govern_frames liveCommand
      rw [hgovern]
      exact h.congr rfl rfl rfl (hsame _)

/-- A new session has an empty journal. -/
theorem start : Journaled {} := by
  refine ⟨?_, rfl, rfl, rfl, rfl, ?_, List.nodup_nil⟩
  · intro report hreport
    cases hreport
  · intro report hreport
    cases hreport

end Journaled

/-- **The journal of a session.** After every stream of events, whatever
raises, there is one report for each accepted operation, no operation has two,
the controller, the commands and the gates list the same operations in the same
order, and the parts of each report tell one story. -/
theorem run_journaled (casing : Casing) (builtins : Builtins)
    (events : List (Json × Option Nat)) :
    Journaled (RuntimeAdapterSession.run casing builtins events) :=
  RuntimeAdapterSession.run_induction Journaled.start Journaled.move events

/-! ## The frames -/

namespace FrameAccount

/-- The account with an operation that was executed. -/
def execute (account : FrameAccount) (operation : RuntimeOperation) : FrameAccount :=
  { account with
    estimatedTotalCostMs := account.estimatedTotalCostMs + operation.costMs
    queueCosts := account.queueCosts.set operation.queue
      ((account.queueCosts.get operation.queue).getD 0 + operation.costMs)
    transferMb := if operation.type.transfers then account.transferMb + operation.sizeMb
      else account.transferMb }

/-- The account with a decision about an operation. -/
def decide (account : FrameAccount) (decision : RuntimeDecision) : FrameAccount :=
  { account with
    decisionCount := account.decisionCount + 1
    estimatedSavedMs := account.estimatedSavedMs + decision.estimatedSavedMs
    estimatedSavedMb := account.estimatedSavedMb + decision.estimatedSavedMb }

/-- The account is the total of these operations and decisions. -/
structure Totals (account : FrameAccount) (executed : List RuntimeOperation)
    (decisions : List RuntimeDecision) : Prop where
  decided : account.decisionCount = decisions.length
  cost : account.estimatedTotalCostMs = (executed.map RuntimeOperation.costMs).sum
  savedMs : account.estimatedSavedMs = (decisions.map RuntimeDecision.estimatedSavedMs).sum
  savedMb : account.estimatedSavedMb = (decisions.map RuntimeDecision.estimatedSavedMb).sum
  transferred : account.transferMb =
    ((executed.filter fun operation => operation.type.transfers).map RuntimeOperation.sizeMb).sum
  queued : ∀ queue, (account.queueCosts.get queue).getD 0 =
    ((executed.filter fun operation => operation.queue = queue).map RuntimeOperation.costMs).sum
  queues : ∀ queue, account.queueCosts.contains queue = true ↔
    ∃ operation ∈ executed, operation.queue = queue

variable {account : FrameAccount} {executed : List RuntimeOperation}
  {decisions : List RuntimeDecision}

/-- An executed operation is added to the totals with its cost, its queue and what it
transfers. -/
theorem Totals.execute (h : account.Totals executed decisions) (operation : RuntimeOperation) :
    (account.execute operation).Totals (executed ++ [operation]) decisions := by
  refine ⟨h.decided, ?_, h.savedMs, h.savedMb, ?_, ?_, ?_⟩
  · rw [List.map_append, List.sum_append, ← h.cost, List.map_singleton, List.sum_singleton]
    rfl
  · rw [List.filter_append, List.map_append, List.sum_append, ← h.transferred]
    unfold FrameAccount.execute
    cases htype : operation.type.transfers <;> simp [htype]
  · intro queue
    rw [List.filter_append, List.map_append, List.sum_append, ← h.queued]
    change ((account.queueCosts.set _ _).get queue).getD 0 = _
    rw [OrderedDict.get_set]
    by_cases hqueue : operation.queue = queue <;> simp [hqueue]
  · intro queue
    change (account.queueCosts.set _ _).contains queue = true ↔ _
    rw [OrderedDict.contains_set, h.queues]
    simp only [List.mem_append, List.mem_singleton, or_and_right, exists_or, exists_eq_left]
    exact or_comm

/-- A decision is added to the totals with what it saves. -/
theorem Totals.decide (h : account.Totals executed decisions) (decision : RuntimeDecision) :
    (account.decide decision).Totals executed (decisions ++ [decision]) := by
  refine ⟨?_, h.cost, ?_, ?_, h.transferred, h.queued, h.queues⟩
  · rw [List.length_append, ← h.decided]
    rfl
  · rw [List.map_append, List.sum_append, ← h.savedMs, List.map_singleton, List.sum_singleton]
    rfl
  · rw [List.map_append, List.sum_append, ← h.savedMb, List.map_singleton, List.sum_singleton]
    rfl

/-- The number of operations does not matter. -/
theorem Totals.counted (h : account.Totals executed decisions) (operationCount : Nat) :
    Totals { account with operationCount } executed decisions :=
  ⟨h.decided, h.cost, h.savedMs, h.savedMb, h.transferred, h.queued, h.queues⟩

end FrameAccount

/-- The account is the total of what these reports say. -/
def Accounts (account : FrameAccount) (reports : List OperationReport) : Prop :=
  account.operationCount = reports.length ∧
    account.Totals (executedOf reports) (decisionsOf reports)

/-- Recording a result adds its report to the account, executed or decided. -/
theorem Accounts.record {stats : AdapterFrameStats} {reports : List OperationReport}
    (h : Accounts stats.account reports) (report : OperationReport) :
    Accounts (stats.record report.result).account (reports ++ [report]) := by
  have hexecuted := executedOf_concat reports report
  have hdecided := decisionsOf_concat reports report
  obtain ⟨hcount, htotals⟩ := h
  unfold OperationReport.executedOperation at hexecuted
  unfold AdapterFrameStats.record
  rw [Accounts, hexecuted, hdecided, List.length_append, ← hcount]
  cases report.result.executed <;> cases report.result.decision <;> refine ⟨rfl, ?_⟩
  · change FrameAccount.Totals _ (executedOf reports ++ []) (decisionsOf reports ++ [])
    rw [List.append_nil, List.append_nil]
    exact htotals.counted _
  · change FrameAccount.Totals _ (executedOf reports ++ []) (decisionsOf reports ++ [_])
    rw [List.append_nil]
    exact (htotals.decide _).counted _
  · change FrameAccount.Totals _ (executedOf reports ++ [_]) (decisionsOf reports ++ [])
    rw [List.append_nil]
    exact (htotals.execute _).counted _
  · exact ((htotals.execute _).decide _).counted _

/-- The reports of a frame. -/
def reportsOf (s : RuntimeAdapterSession) (frame : ℤ) : List OperationReport :=
  s.results.filter fun report => report.result.operation.frame = some frame

/-- The statistics of every frame are the totals of its reports. -/
def Accounted (s : RuntimeAdapterSession) : Prop :=
  ∀ frame, Accounts (s.account frame) (reportsOf s frame)

/-- Accounts depend on the reports and the statistics only. -/
theorem Accounted.congr {s t : RuntimeAdapterSession} (h : Accounted s)
    (hresults : t.results = s.results) (haccount : ∀ frame, t.account frame = s.account frame) :
    Accounted t := by
  intro frame
  unfold reportsOf
  rw [haccount, hresults]
  exact h frame

/-- A move of the session keeps the accounts: the report of an accepted operation goes to
the account of its frame and to no other. -/
theorem Accounted.move {builtins : Builtins} {s t : RuntimeAdapterSession}
    (hmove : RuntimeAdapterSession.Move casing builtins s t) (h : Accounted s) : Accounted t := by
  cases hmove with
  | mark hmark =>
      rw [hmark]
      exact h.congr rfl fun _ => rfl
  | configure => exact h.congr rfl fun _ => rfl
  | finalize => exact h.congr rfl fun _ => rfl
  | @stats frame stats hstats =>
      refine h.congr rfl fun other => ?_
      rw [RuntimeAdapterSession.account_setFrame]
      split
      · next hframe => rw [hstats, hframe]
      · rfl
  | finishFrame => exact h.congr rfl fun _ => rfl
  | register => exact h.congr rfl fun _ => rfl
  | release => exact h.congr rfl fun _ => rfl
  | releaseUnknown => exact h.congr rfl fun _ => rfl
  | @accept operation result controller hcost hsize hsubmit eventIndex =>
      have haccepted := RuntimeAdapterSession.acceptOperation_accepted
        { s with controller } result eventIndex
      obtain ⟨report, rfl, -, hresults, -, -⟩ :=
        haccepted.journal (submitOperation_settled hsubmit).executed_eq
      intro frame
      unfold reportsOf
      rw [haccepted.account, hresults, List.filter_append]
      by_cases hframe : report.result.operation.frame = some frame
      · rw [if_pos hframe, List.filter_cons_of_pos (by simpa using hframe)]
        exact Accounts.record (h frame) report
      · rw [if_neg hframe, List.filter_cons_of_neg (by simpa using hframe)]
        exact (List.append_nil _).symm ▸ h frame
  | govern liveCommand =>
      obtain ⟨frames, governor, directives, hgovern, -, hstats⟩ := s.govern_frames liveCommand
      rw [hgovern]
      exact h.congr rfl fun frame => congrArg AdapterFrameStats.account (hstats frame)

/-- A new session has nothing to account for. -/
theorem Accounted.start : Accounted {} := by
  intro frame
  refine ⟨rfl, rfl, rfl, rfl, rfl, rfl, fun _ => rfl, fun queue => ?_⟩
  refine iff_of_false (by intro h; cases h) ?_
  intro h
  obtain ⟨operation, hmem, -⟩ := h
  cases hmem

/-- **The statistics of frames.** After every stream of events, whatever raises,
the statistics of every frame are the totals of the reports of that frame: of
frames that were never named, opened, closed or opened again alike. -/
theorem run_accounted (casing : Casing) (builtins : Builtins)
    (events : List (Json × Option Nat)) :
    Accounted (RuntimeAdapterSession.run casing builtins events) :=
  RuntimeAdapterSession.run_induction Accounted.start Accounted.move events

end FluidGateway.Adapter
