import FluidGateway.AdaptiveLoop
import FluidGateway.AdmissionPlan
import FluidGateway.ControlLoop
import FluidGateway.RouteDispatch
import FluidGateway.SessionSnapshot
import FluidGateway.StateTransition
import Mathlib.Algebra.BigOperators.Group.Finset.Basic

/-!
# The result of a session

`RuntimeAdapterSession.to_result` of `fluidgateway/adapter.py`: the books of a session
go through the plans, one after the other, to the state that the next session starts
from.

Two things are told from end to end.  Work is deferred in a frame exactly when what the
frame draws and presents costs more than its target (`deferred_iff_overdrawn`).  And the
memory that the next session is to relieve is what the registered resources take above
the budgets, layer by layer (`relief_registered`).
-/

namespace FluidGateway.Adapter

open FluidGateway.Runtime (Casing MemoryLayer OperationType RuntimeOperation RuntimeResource
  RuntimeDecision round4)
open FluidGateway.ControlLoop (ExecutionCommand ExecutionSimulation AdaptiveExecutorLoop
  RuntimeBudget BudgetArbitrationPlan RuntimeDispatchPlan DispatchExecutionReport FrameStatistics
  FrameWindowPlan FrameWindowSlot RuntimeCalibrationReport RuntimeManagerDirective
  RuntimeControlPacket RuntimeControlState RuntimeGatewayTick RuntimeGatewayCycleReport
  RuntimeGatewayFeedbackDelta RuntimePolicyUpdate RuntimeStateAccumulator RuntimeStateTransition
  MemoryRouteDirective MemoryBudgetEnvelope MemorySnapshot Window
  buildFrameWindowPlan executionCommands
  simulateExecution buildAdaptiveExecutorLoop buildRuntimeBudgetEnvelope buildBudgetArbitration
  buildRuntimeDispatchPlan executeDispatchPlan buildRuntimeCalibration
  buildRuntimeManagerDirective buildRuntimeControlPacket applyRuntimeControlPacket
  buildRuntimeGatewayTick executeRuntimeGatewayTick buildRuntimeGatewayFeedback
  buildRuntimePolicyUpdate buildRuntimeStateAccumulator buildRuntimeStateTransition
  buildMemoryLayer buildMemoryLayers frameTargetMs frameKey)
open Sequencing

/-! ## The chain of plans -/

/-- `AdapterSessionResult`: what a session has counted, and the plans that are built from
it. -/
structure AdapterSessionResult where
  sessionId : String
  eventsProcessed : Nat
  lifecycleEvents : Nat
  resourceEvents : Nat
  operationEvents : Nat
  releasedResources : List String
  frames : List AdapterFrameStats
  policyActions : List RuntimePolicyAction
  liveCommands : List LiveCommand
  stateSnapshot : LiveStateSnapshot
  policyLoopDirectives : List GovernorDirective
  executionGates : List ExecutionGateDecision
  admissionPlan : AdmissionPlan
  efficiencyLedger : EfficiencyLedger
  memoryTransitMap : MemoryTransitMap
  memoryRoutePlan : MemoryRoutePlan
  frameWindowPlan : FrameWindowPlan
  executionPacket : List ExecutionCommand
  executionSimulation : ExecutionSimulation
  adaptiveExecutorLoop : AdaptiveExecutorLoop
  budgetEnvelope : RuntimeBudget
  budgetArbitration : BudgetArbitrationPlan
  dispatchPlan : RuntimeDispatchPlan
  dispatchExecution : DispatchExecutionReport
  runtimeCalibration : RuntimeCalibrationReport
  runtimeManager : RuntimeManagerDirective
  runtimeControlPacket : RuntimeControlPacket
  runtimeControlState : RuntimeControlState
  runtimeGatewayTick : RuntimeGatewayTick
  runtimeGatewayCycle : RuntimeGatewayCycleReport
  runtimeGatewayFeedback : RuntimeGatewayFeedbackDelta
  runtimePolicyUpdate : RuntimePolicyUpdate
  runtimeStateAccumulator : RuntimeStateAccumulator
  runtimeStateTransition : RuntimeStateTransition
  results : List OperationReport

/-- The same amounts under the names of the layers. -/
def byName (amounts : OrderedDict MemoryLayer ℚ) : OrderedDict String ℚ :=
  amounts.items.foldl (fun named item => named.set item.1.name item.2) .empty

/-- What calibration reads of the statistics of a frame. -/
def AdapterFrameStats.statistics (stats : AdapterFrameStats) : FrameStatistics where
  frame := some stats.frame
  targetFrameMs := some stats.targetFrameMs
  estimatedTotalCostMs := some stats.estimatedTotalCostMs

namespace RuntimeAdapterSession

/-- The targets of the frames, by their numbers. -/
def frameTargets (s : RuntimeAdapterSession) : OrderedDict ℤ ℚ :=
  s.frames.values.foldl (fun targets stats => targets.set stats.frame stats.targetFrameMs) .empty

/-- The totals and budgets of a snapshot under the names of the layers, as the envelope
reads them. -/
def memorySnapshot (snapshot : LiveStateSnapshot) : MemorySnapshot where
  memoryTotalsMb := byName snapshot.memoryTotalsMb
  memoryBudgetsMb := byName snapshot.memoryBudgetsMb

/-- `to_result`, but for what no later plan reads: the lifetime plan itself, the schedule
and its enforcement, feedback and actuation, the supervisor, the controller's snapshot. -/
def toResult (s : RuntimeAdapterSession) (previousState : Option RuntimeStateAccumulator) :
    AdapterSessionResult :=
  let s := { s with lifetimePlanner := s.lifetimePlanner.finalize }
  let admissionPlan := buildAdmissionPlan s.results
  let transitMap := buildMemoryTransitMap s.results s.lifetimePlanner.resources
  let routePlan := buildMemoryRoutePlan transitMap
  let windowPlan := buildFrameWindowPlan routePlan.directives
  let packet := executionCommands windowPlan
  let simulation := simulateExecution packet
  let adaptiveLoop := buildAdaptiveExecutorLoop simulation s.frameTargets
  let snapshot := s.buildStateSnapshot
  let envelope := buildRuntimeBudgetEnvelope adaptiveLoop (some (memorySnapshot snapshot))
    (byName s.policyEngine.memoryBudgetsMb)
  let arbitration := buildBudgetArbitration packet envelope.toRuntimeBudgetEnvelope
  let dispatchPlan := buildRuntimeDispatchPlan arbitration packet
  let dispatchExecution := executeDispatchPlan dispatchPlan
  let frames := (sortBy id s.frames.keys).filterMap s.frames.get
  let calibration := buildRuntimeCalibration dispatchExecution
    (frames.map AdapterFrameStats.statistics)
  let manager := buildRuntimeManagerDirective calibration envelope.toRuntimeBudgetEnvelope
  let controlPacket := buildRuntimeControlPacket manager
  let controlState := applyRuntimeControlPacket controlPacket
  let tick := buildRuntimeGatewayTick controlState
  let cycle := executeRuntimeGatewayTick tick
  let feedback := buildRuntimeGatewayFeedback cycle calibration
  let policyUpdate := buildRuntimePolicyUpdate feedback
  let accumulator := buildRuntimeStateAccumulator policyUpdate previousState
  { sessionId := s.sessionId
    eventsProcessed := s.eventsProcessed
    lifecycleEvents := s.lifecycleEvents
    resourceEvents := s.resourceEvents
    operationEvents := s.operationEvents
    releasedResources := s.releasedResources
    frames
    policyActions := s.policyEngine.actions
    liveCommands := s.liveCommands
    stateSnapshot := snapshot
    policyLoopDirectives := s.policyLoopDirectives
    executionGates := s.executionGates
    admissionPlan
    efficiencyLedger := buildEfficiencyLedger admissionPlan
    memoryTransitMap := transitMap
    memoryRoutePlan := routePlan
    frameWindowPlan := windowPlan
    executionPacket := packet
    executionSimulation := simulation
    adaptiveExecutorLoop := adaptiveLoop
    budgetEnvelope := envelope
    budgetArbitration := arbitration
    dispatchPlan
    dispatchExecution
    runtimeCalibration := calibration
    runtimeManager := manager
    runtimeControlPacket := controlPacket
    runtimeControlState := controlState
    runtimeGatewayTick := tick
    runtimeGatewayCycle := cycle
    runtimeGatewayFeedback := feedback
    runtimePolicyUpdate := policyUpdate
    runtimeStateAccumulator := accumulator
    runtimeStateTransition := buildRuntimeStateTransition previousState accumulator
    results := s.results }

end RuntimeAdapterSession

/-! ## Places of work -/

/-- The frame and the window of some work, and its cost with four decimals. -/
abbrev Place := Option ℤ × Window × ℚ

/-- Where the work of a slot is. -/
def slotPlace (slot : FrameWindowSlot) : Place :=
  (slot.frame, slot.window, round4 slot.costMs)

/-- Where the work of a command is; the cost was rounded when the packet was made. -/
def commandPlace (command : ExecutionCommand) : Place :=
  (command.frame, command.window, command.costMs)

/-- The commands of a packet are where the slots of the directives are. -/
theorem packet_places (directives : List MemoryRouteDirective) :
    ((executionCommands (buildFrameWindowPlan directives)).map commandPlace).Perm
      ((directives.filterMap ControlLoop.slotFromDirective).map slotPlace) := by
  let place := fun slot : FrameWindowSlot => (slot.frame, slot.window, slot.costMs)
  have hcommands : (executionCommands (buildFrameWindowPlan directives)).map commandPlace =
      (buildFrameWindowPlan directives).slots.map place :=
    map_numbered (f := commandPlace) (g := place) (fun _ _ => rfl) _
  have hslots : (buildFrameWindowPlan directives).slots.map place =
      (sortBy ControlLoop.slotKey (ControlLoop.windowSlots directives)).map slotPlace :=
    map_numbered (f := place) (g := slotPlace) (fun _ _ => rfl) _
  rw [hcommands, hslots]
  exact (sortBy_perm ControlLoop.slotKey _).map slotPlace

/-- What is shown in the end. -/
def presents : OperationType → Bool
  | .draw | .present => true
  | _ => false

/-- A directive is about the frame and the cost of its hop, and protects exactly what is
presented. -/
theorem directiveFromHop_place {hop : MemoryTransitHop} {directive : MemoryRouteDirective}
    (h : directiveFromHop hop = some directive) :
    directive.frame = hop.frame ∧ directive.costMs = hop.costMs ∧
      (directive.directive = .protectPresentationRoute ↔
        hop.classification = .presentationPath) := by
  unfold directiveFromHop at h
  cases hclass : hop.classification with
  | duplicateTransfer | sameLayerAliasedCopy | selfTransfer | redundantAllocation
  | orphanSync | emptySync =>
      rw [hclass] at h
      obtain rfl := Option.some.inj h
      exact ⟨rfl, rfl, iff_of_false (by simp [routeDirective]) (by simp)⟩
  | presentationPath =>
      have hcross : isCrossMemoryTransfer hop = false := by
        unfold isCrossMemoryTransfer
        rw [hclass]
        rfl
      rw [hclass, hcross] at h
      obtain rfl := Option.some.inj h
      exact ⟨rfl, rfl, iff_of_true rfl rfl⟩
  | allocation | synchronization | sameMemoryTransfer | crossMemoryTransfer =>
      rw [hclass] at h
      simp only [reduceCtorEq, if_false] at h
      split_ifs at h <;> cases h <;>
        exact ⟨rfl, rfl, iff_of_false (by simp [routeDirective]) (by simp)⟩

/-- A hop is a presentation exactly where it was kept and its operation draws or presents. -/
theorem classify_presents {operationType : OperationType} {source target : String}
    {decision : Option RuntimeDecision} :
    classify operationType source target decision = .presentationPath ↔
      decision = none ∧ presents operationType = true := by
  cases decision with
  | some decision =>
      refine iff_of_false ?_ (by simp)
      unfold classify policyClassification
      dsimp only
      split <;> simp
  | none =>
      unfold classify presents
      cases operationType <;> dsimp only <;> (try split_ifs) <;> simp

/-- The directive of a report is about its frame and its cost, and it protects exactly
what is shown. -/
theorem directiveOf_place {report : OperationReport} {directive : MemoryRouteDirective}
    {resources : OrderedDict String RuntimeResource}
    (h : directiveOf resources report = some directive) :
    directive.frame = report.result.operation.frame ∧
      directive.costMs = report.result.operation.costMs ∧
      (directive.directive = .protectPresentationRoute ↔
        report.result.decision = none ∧ presents report.result.operation.type = true) := by
  unfold directiveOf buildHop at h
  dsimp only at h
  split at h
  · obtain ⟨hframe, hcost, hprotects⟩ := directiveFromHop_place h
    exact ⟨hframe, hcost, hprotects.trans classify_presents⟩
  · cases h

/-- What is shown has a directive. -/
theorem directiveOf_presents {report : OperationReport}
    (hpresents : presents report.result.operation.type = true)
    (hdecision : report.result.decision = none)
    (resources : OrderedDict String RuntimeResource) :
    ∃ directive, directiveOf resources report = some directive := by
  have htransit : ∀ source target : Option String,
      isTransitOperation report.result.operation.type source target = true := by
    intro source target
    unfold isTransitOperation
    unfold presents at hpresents
    cases htype : report.result.operation.type <;> rw [htype] at hpresents <;>
      first | rfl | cases hpresents
  unfold directiveOf buildHop
  dsimp only
  rw [if_pos (htransit _ _), Option.bind_some]
  generalize hhop : ({ operationId := _, operationType := _, .. } : MemoryTransitHop) = hop
  have hclass : hop.classification = .presentationPath := by
    rw [← hhop]
    exact classify_presents.mpr ⟨hdecision, hpresents⟩
  unfold directiveFromHop isCrossMemoryTransfer
  rw [hclass]
  exact ⟨_, rfl⟩

/-- A slot is about the frame and the cost of its directive, and in the hot path exactly
where it protects. -/
theorem slotFromDirective_place {directive : MemoryRouteDirective} {slot : FrameWindowSlot}
    (h : ControlLoop.slotFromDirective directive = some slot) :
    slot.frame = directive.frame ∧ slot.costMs = directive.costMs ∧
      (slot.window = .hotPath ↔ directive.directive = .protectPresentationRoute) := by
  unfold ControlLoop.slotFromDirective ControlLoop.classifyWindow at h
  cases hname : directive.directive <;> rw [hname] at h
  case other name => cases h
  all_goals
    obtain rfl := Option.some.inj h
    simp

/-- The place of a report's work on the hot path. -/
theorem shown_place {report : OperationReport} (hconsistent : report.Consistent)
    (resources : OrderedDict String RuntimeResource) :
    (((directiveOf resources report).bind ControlLoop.slotFromDirective).map slotPlace).filter
        (fun place => place.2.1 = .hotPath) =
      (report.executedOperation.filter fun operation => presents operation.type).map
        fun operation => (operation.frame, .hotPath, round4 operation.costMs) := by
  have hplace : ∀ directive slot, directiveOf resources report = some directive →
      ControlLoop.slotFromDirective directive = some slot →
        slot.frame = report.result.operation.frame ∧ slot.costMs = report.result.operation.costMs ∧
          (slot.window = .hotPath ↔
            report.result.decision = none ∧ presents report.result.operation.type = true) := by
    intro directive slot hdirective hslot
    obtain ⟨hframe, hcost, hprotects⟩ := directiveOf_place hdirective
    obtain ⟨hframe', hcost', hwindow⟩ := slotFromDirective_place hslot
    exact ⟨hframe'.trans hframe, hcost'.trans hcost, hwindow.trans hprotects⟩
  unfold OperationReport.executedOperation
  rw [hconsistent.executed]
  by_cases hshown : report.result.decision = none ∧ presents report.result.operation.type = true
  · obtain ⟨directive, hdirective⟩ := directiveOf_presents hshown.2 hshown.1 resources
    obtain ⟨slot, hslot⟩ : ∃ slot, ControlLoop.slotFromDirective directive = some slot := by
      unfold ControlLoop.slotFromDirective
      rw [(directiveOf_place hdirective).2.2.mpr hshown]
      exact ⟨_, rfl⟩
    obtain ⟨hframe, hcost, hwindow⟩ := hplace directive slot hdirective hslot
    rw [hdirective, Option.bind_some, hslot, hshown.1]
    simp [slotPlace, hwindow.mpr hshown, hframe, hcost, Option.filter_some, hshown.2]
  · have hnothing : (if report.result.decision.isNone = true then
        some report.result.operation else none).filter
          (fun operation => presents operation.type) = none := by
      cases hdecision : report.result.decision with
      | some decision => rfl
      | none =>
          have hpresents : ¬ presents report.result.operation.type = true :=
            fun h => hshown ⟨hdecision, h⟩
          simp [Option.filter_some, hpresents]
    rw [hnothing]
    cases hslot : (directiveOf resources report).bind ControlLoop.slotFromDirective with
    | none => rfl
    | some slot =>
        obtain ⟨directive, hdirective, hfrom⟩ := Option.bind_eq_some_iff.mp hslot
        have hwindow := (hplace directive slot hdirective hfrom).2.2
        simp [slotPlace, Option.filter_some, hwindow, hshown]

/-! ## The packet of a session -/

/-- The packet that `to_result` makes of the session. -/
def executionPacket (s : RuntimeAdapterSession) : List ExecutionCommand :=
  executionCommands (buildFrameWindowPlan (memoryRoutePlan s).directives)

/-- What was executed in a frame to be shown. -/
def shown (s : RuntimeAdapterSession) (frame : ℤ) : List RuntimeOperation :=
  s.controller.executedOperations.filter fun operation =>
    operation.frame = some frame ∧ presents operation.type

/-- What this costs, with four decimals for each operation. -/
def shownCostMs (s : RuntimeAdapterSession) (frame : ℤ) : ℚ :=
  ((shown s frame).map fun operation => round4 operation.costMs).sum

section

variable {s : RuntimeAdapterSession}

/-- The places of a session's packet, report by report. -/
theorem executionPacket_places (s : RuntimeAdapterSession) :
    ((executionPacket s).map commandPlace).Perm
      (s.results.filterMap fun report =>
        ((directiveOf s.lifetimePlanner.resources report).bind
          ControlLoop.slotFromDirective).map slotPlace) := by
  refine (packet_places _).trans ?_
  refine (((directives_perm s).filterMap _).map slotPlace).trans (List.Perm.of_eq ?_)
  rw [List.filterMap_filterMap, List.map_filterMap]

/-- Every command of the packet is about an operation of the session, with its frame and its
rounded cost. -/
theorem mem_executionPacket {command : ExecutionCommand} (h : command ∈ executionPacket s) :
    ∃ report ∈ s.results, command.frame = report.result.operation.frame ∧
      command.costMs = round4 report.result.operation.costMs := by
  have hplace := (executionPacket_places s).mem_iff.mp (List.mem_map_of_mem h)
  obtain ⟨report, hreport, hslot⟩ := List.mem_filterMap.mp hplace
  obtain ⟨slot, hslot, heq⟩ := Option.map_eq_some_iff.mp hslot
  obtain ⟨directive, hdirective, hfrom⟩ := Option.bind_eq_some_iff.mp hslot
  obtain ⟨hframe, hcost, -⟩ := directiveOf_place hdirective
  obtain ⟨hframe', hcost', -⟩ := slotFromDirective_place hfrom
  have hsame : slot.frame = command.frame := congrArg Prod.fst heq
  have hsum : round4 slot.costMs = command.costMs := congrArg (fun place : Place => place.2.2) heq
  refine ⟨report, hreport, ?_, ?_⟩
  · rw [← hsame, hframe', hframe]
  · rw [← hsum, hcost', hcost]

/-- The protected work of a packet is what is shown. -/
theorem shown_perm (hjournal : Journaled s) (frame : ℤ) :
    (((executionPacket s).filter fun command =>
        command.frame = some frame ∧ command.window = .hotPath).map
          ExecutionCommand.costMs).Perm
      ((shown s frame).map fun operation => round4 operation.costMs) := by
  let here := fun place : Place => decide (place.1 = some frame)
  let hot := fun place : Place => decide (place.2.1 = Window.hotPath)
  have hplaces := ((((executionPacket_places s).filter hot).filter here).map
    fun place => place.2.2)
  refine List.Perm.trans (List.Perm.of_eq ?_) (hplaces.trans (List.Perm.of_eq ?_))
  · rw [List.filter_filter, List.filter_map, List.map_map]
    refine congrArg (List.map ExecutionCommand.costMs) (List.filter_congr fun command _ => ?_)
    exact Bool.decide_and _ _
  · have hshown : (s.results.filterMap fun report =>
        ((directiveOf s.lifetimePlanner.resources report).bind
          ControlLoop.slotFromDirective).map slotPlace).filter hot =
            ((executedOf s.results).filter fun operation => presents operation.type).map
              fun operation => (operation.frame, .hotPath, round4 operation.costMs) := by
      unfold executedOf
      rw [List.filter_filterMap, List.filter_filterMap, List.map_filterMap]
      exact List.filterMap_congr fun report hreport =>
        shown_place (hjournal.consistent report hreport) _
    rw [hshown, List.filter_map, List.map_map, List.filter_filter]
    unfold shown
    rw [hjournal.executed]
    refine congrArg (List.map _) (List.filter_congr fun operation _ => ?_)
    rw [Bool.decide_and, Bool.decide_eq_true]
    rfl

/-! ## Deferred work -/

/-- No operation of another frame has the key of this one. -/
def Unshared (s : RuntimeAdapterSession) (frame : ℤ) : Prop :=
  ∀ report ∈ s.results, frameKey report.result.operation.frame = frameKey (some frame) →
    report.result.operation.frame = some frame

/-- The frame shows something, and for more than its target. -/
def Overdrawn (s : RuntimeAdapterSession) (frame : ℤ) : Prop :=
  shown s frame ≠ [] ∧ frameTargetMs s.frameTargets frame < shownCostMs s frame

/-- The packet is over a frame's target exactly where the session's own operations are. The
two sides count the same work, which `shown_perm` matches one to one. -/
theorem overTarget_iff (hjournal : Journaled s) (frame : ℤ) :
    ControlLoop.OverTarget (executionPacket s) s.frameTargets frame ↔ Overdrawn s frame := by
  have hperm := shown_perm hjournal frame
  refine and_congr ?_ ?_
  · have hlength := hperm.length_eq
    rw [List.length_map, List.length_map] at hlength
    rw [← List.length_pos_iff, ← hlength, List.length_pos_iff_exists_mem]
    refine exists_congr fun command => ?_
    rw [List.mem_filter, decide_eq_true_iff]
  · unfold ControlLoop.frameCost ControlLoop.totalCost shownCostMs
    rw [hperm.sum_eq]

/-- No command costs less than nothing, since the session refuses such costs. -/
theorem executionPacket_costs (hpriced : ∀ report ∈ s.results, report.Priced) :
    ∀ command ∈ executionPacket s, 0 ≤ command.costMs := by
  intro command hcommand
  obtain ⟨report, hreport, -, hcost⟩ := mem_executionPacket hcommand
  rw [hcost]
  exact ControlLoop.round4_nonneg (hpriced report hreport).cost

/-- Operations of no other frame under the key mean commands of no other frame under it. -/
theorem Unshared.keyAlone {frame : ℤ} (h : Unshared s frame) :
    ControlLoop.KeyAlone (executionPacket s) frame := by
  intro command hcommand hkey
  obtain ⟨report, hreport, hframe, -⟩ := mem_executionPacket hcommand
  rw [hframe] at hkey ⊢
  exact h report hreport hkey

end

/-- **Deferred work.** After every stream of events, whatever raises, the budgets that a
session draws from its own work defer, in a frame that shares its key with no other,
nothing but what is to be shown; and they defer some exactly when that costs more than
the target of the frame.  Costs are added as exact rationals. -/
theorem deferred_iff_overdrawn (casing : Casing) (builtins : Builtins)
    (events : List (Json × Option Nat)) (previousState : Option RuntimeStateAccumulator)
    {frame : ℤ} (hshared : Unshared (RuntimeAdapterSession.run casing builtins events) frame) :
    let s := RuntimeAdapterSession.run casing builtins events
    let plan := (s.toResult previousState).budgetArbitration
    (∀ arbitration ∈ plan.commands, arbitration.frame = some frame →
        arbitration.status = .deferred → arbitration.window = .hotPath) ∧
      ((∃ arbitration ∈ plan.commands, arbitration.frame = some frame ∧
        arbitration.status = .deferred) ↔ Overdrawn s frame) := by
  intro s plan
  have hpriced : ∀ report ∈ s.results, report.Priced := run_priced casing builtins events
  rw [← overTarget_iff (run_journaled casing builtins events)]
  have hwindowed : ∀ command ∈ executionPacket s, command.Windowed :=
    fun command => ControlLoop.windowed_executionCommands
  exact ControlLoop.deferred_iff_over hwindowed (executionPacket_costs hpriced) hshared.keyAlone

/-- A frame but 0 and -1 shares its key with no other, as `frame or -1` confuses only these
and no frame at all. -/
theorem unshared_of_ne {frame : ℤ} (hzero : frame ≠ 0) (hneg : frame ≠ -1)
    (s : RuntimeAdapterSession) : Unshared s frame :=
  fun report _ hkey => ControlLoop.frameKey_injective hzero hneg report.result.operation.frame hkey

/-- A draw that takes twenty milliseconds. -/
def longDraw : Json × Option Nat :=
  (.dict [("event", .text "operation"), ("id", .text "draw_scene"), ("op", .text "draw"),
    ("frame", .int 1), ("cost_ms", .int 20)], none)

open RuntimeAdapterSession in
/-- One draw above the target of its frame is deferred. -/
theorem deferred_iff_overdrawn_long_draw :
    ∃ arbitration ∈ ((run .plain plainBuiltins [longDraw]).toResult none).budgetArbitration.commands,
      arbitration.frame = some 1 ∧ arbitration.status = .deferred := by
  have hshared : Unshared (run .plain plainBuiltins [longDraw]) 1 :=
    unshared_of_ne (by decide) (by decide) _
  refine (deferred_iff_overdrawn .plain plainBuiltins [longDraw] none hshared).2.mpr ⟨?_, ?_⟩
  · decide +kernel
  · decide +kernel

/-! ## Layers under their names -/

section

variable {amounts : OrderedDict MemoryLayer ℚ}

/-- The layers have different names. -/
theorem name_injective : Function.Injective MemoryLayer.name := by
  intro layer layer' h
  cases layer <;> cases layer' <;> first | rfl | exact absurd h (by decide)

/-- What is read after the items of a table are set under their names. -/
theorem get_setNamed {κ : Type} [DecidableEq κ] {name : κ → String}
    (hinjective : Function.Injective name) (d : OrderedDict κ ℚ) (base : OrderedDict String ℚ)
    (k : κ) :
    (d.items.foldl (fun named item => named.set (name item.1) item.2) base).get (name k) =
      (d.get k).or (base.get (name k)) := by
  let key := fun item : κ × ℚ => name item.1
  have hdistinct : (d.items.map key).Nodup := by
    have hnames := d.nodup.map hinjective
    rwa [List.map_map] at hnames
  cases hget : d.get k with
  | some amount =>
      have hmem : (k, amount) ∈ d.items := OrderedDict.get_iff.mp hget
      exact @OrderedDict.get_foldl_set_of_mem _ _ _ _ key Prod.snd _ _ hdistinct hmem base
  | none =>
      have hfresh : name k ∉ d.items.map key := by
        intro hmem
        obtain ⟨item, hitem, hname⟩ := List.mem_map.mp hmem
        have hsome := OrderedDict.get_iff.mpr hitem
        rw [hinjective hname, hget] at hsome
        cases hsome
      exact @OrderedDict.get_foldl_set_of_notMem _ _ _ _ key Prod.snd _ _ hfresh base

/-- Under the name of a layer stands what stands under the layer. -/
theorem byName_get (amounts : OrderedDict MemoryLayer ℚ) (layer : MemoryLayer) :
    (byName amounts).get layer.name = amounts.get layer :=
  (get_setNamed name_injective amounts .empty layer).trans Option.or_none

/-- Only names of layers are there. -/
theorem byName_keys {memory : String} (h : memory ∈ (byName amounts).keys) :
    ∃ layer : MemoryLayer, layer.name = memory := by
  let key := fun item : MemoryLayer × ℚ => item.1.name
  by_contra hnone
  have hfresh : memory ∉ amounts.items.map key := by
    intro hmem
    obtain ⟨item, -, hname⟩ := List.mem_map.mp hmem
    exact hnone ⟨item.1, hname⟩
  have hget : (byName amounts).get memory = none :=
    @OrderedDict.get_foldl_set_of_notMem _ _ _ _ key Prod.snd _ _ hfresh .empty
  have hcontains := OrderedDict.mem_keys.mp h
  unfold OrderedDict.contains at hcontains
  rw [hget] at hcontains
  cases hcontains

/-- Setting what is there already changes nothing that is read. -/
theorem get_update (d : OrderedDict String ℚ) (memory : String) :
    (d.items.foldl (fun budgets item => budgets.set item.1 item.2) d).get memory =
      d.get memory :=
  (get_setNamed Function.injective_id d d memory).trans Option.or_self

/-- Updating a dictionary with its own items adds no key. -/
theorem mem_keys_update {d : OrderedDict String ℚ} {memory : String} :
    memory ∈ (d.items.foldl (fun budgets item => budgets.set item.1 item.2) d).keys ↔
      memory ∈ d.keys := by
  rw [OrderedDict.mem_keys, OrderedDict.mem_keys]
  unfold OrderedDict.contains
  rw [get_update]

end

/-! ## Memory relief -/

/-- The six layers. -/
def allLayers : List MemoryLayer :=
  [.ram, .vram, .shared, .staging, .swapchain, .display]

/-- What the registered resources of a layer take. -/
def registeredMb (s : RuntimeAdapterSession) (layer : MemoryLayer) : ℚ :=
  ((s.controller.optimization.resources.values.filter fun resource =>
    resource.memory = layer).map RuntimeResource.sizeMb).sum

/-- What they take above the budget of the layer, where it has one. -/
def excessMb (s : RuntimeAdapterSession) (layer : MemoryLayer) : ℚ :=
  match s.policyEngine.memoryBudgetsMb.get layer with
  | none => 0
  | some budget => max 0 (registeredMb s layer - budget)

/-- What all layers are over their budgets, each rounded to four decimals. -/
def reliefMb (s : RuntimeAdapterSession) : ℚ :=
  (allLayers.map fun layer => round4 (excessMb s layer)).sum

/-- There is no other layer. -/
theorem mem_allLayers (layer : MemoryLayer) : layer ∈ allLayers := by
  cases layer <;> decide

/-- The layers that the envelope knows are layers of a session. -/
theorem known_named : ∀ memory ∈ ControlLoop.knownMemoryLayers,
    ∃ layer ∈ allLayers, layer.name = memory := by
  decide

/-- What an envelope says of a layer. -/
def layerRelief (totals budgets : OrderedDict String ℚ) (memory : String) : ℚ :=
  round4 (buildMemoryLayer memory ((totals.get memory).getD 0) (budgets.get memory)).excess

/-- A layer without a budget needs no relief. -/
theorem layerRelief_of_none {totals budgets : OrderedDict String ℚ} {memory : String}
    (h : budgets.get memory = none) : layerRelief totals budgets memory = 0 := by
  unfold layerRelief
  rw [h]
  exact ControlLoop.round4_zero

/-- The layers of an envelope are as `build_memory_layer` makes them: the pressure is the
excess over the budget. -/
theorem built_layers (snapshot : Option MemorySnapshot) (budgets : OrderedDict String ℚ) :
    ∀ layer ∈ buildMemoryLayers snapshot budgets, layer.Built := by
  intro layer hlayer
  obtain ⟨memory, -, rfl⟩ := List.mem_map.mp hlayer
  unfold MemoryBudgetEnvelope.Built buildMemoryLayer
  split
  · rfl
  · rfl

section

variable {totals budgets : OrderedDict MemoryLayer ℚ} {memory : String}

/-- The names under which an envelope looks for layers. -/
def layerNames (totals budgets : OrderedDict MemoryLayer ℚ) : List String :=
  (ControlLoop.knownMemoryLayers ++ (byName totals).keys ++
    ((byName budgets).items.foldl (fun budgets item => budgets.set item.1 item.2)
      (byName budgets)).keys).dedup

/-- All of them are names of layers. -/
theorem named_of_mem_layerNames (h : memory ∈ layerNames totals budgets) :
    memory ∈ allLayers.map MemoryLayer.name := by
  have hsome : ∃ layer : MemoryLayer, layer.name = memory := by
    obtain hfixed | hbudget := List.mem_append.mp (List.mem_dedup.mp h)
    · obtain hknown | htotal := List.mem_append.mp hfixed
      · obtain ⟨layer, -, hname⟩ := known_named memory hknown
        exact ⟨layer, hname⟩
      · exact byName_keys htotal
    · exact byName_keys (mem_keys_update.mp hbudget)
  obtain ⟨layer, rfl⟩ := hsome
  exact List.mem_map_of_mem (mem_allLayers layer)

/-- No other name has a budget. -/
theorem layerRelief_of_notMem (h : memory ∉ layerNames totals budgets) :
    layerRelief (byName totals) (byName budgets) memory = 0 := by
  apply layerRelief_of_none
  by_contra hget
  have hkey : memory ∈ (byName budgets).keys := by
    rw [OrderedDict.mem_keys]
    exact Option.isSome_iff_ne_none.mpr hget
  exact h (List.mem_dedup.mpr (List.mem_append_right _ (mem_keys_update.mpr hkey)))

/-- The names together relieve what the layers do. -/
theorem sum_layerNames (totals budgets : OrderedDict MemoryLayer ℚ) :
    ((layerNames totals budgets).map (layerRelief (byName totals) (byName budgets))).sum =
      ((allLayers.map MemoryLayer.name).map
        (layerRelief (byName totals) (byName budgets))).sum := by
  have hdistinct : (allLayers.map MemoryLayer.name).Nodup := by decide
  have hnames : (layerNames totals budgets).Nodup := List.nodup_dedup _
  rw [← List.sum_toFinset _ hnames, ← List.sum_toFinset _ hdistinct]
  refine Finset.sum_subset (fun memory hmemory => ?_) fun memory _ hfresh => ?_
  · exact List.mem_toFinset.mpr (named_of_mem_layerNames (List.mem_toFinset.mp hmemory))
  · exact layerRelief_of_notMem fun hmemory => hfresh (List.mem_toFinset.mpr hmemory)

end

/-- The layers of an envelope relieve what those with budgets have to. -/
theorem sum_layers (totals budgets : OrderedDict MemoryLayer ℚ) :
    ((buildMemoryLayers (some ⟨byName totals, byName budgets⟩) (byName budgets)).map
        fun layer => round4 layer.excess).sum =
      (allLayers.map fun layer =>
        layerRelief (byName totals) (byName budgets) layer.name).sum := by
  let need := layerRelief (byName totals) (byName budgets)
  have hlayers : (buildMemoryLayers (some ⟨byName totals, byName budgets⟩) (byName budgets)).map
      (fun layer => round4 layer.excess) =
        ((sortBy id (layerNames totals budgets)).filter fun memory =>
          ((byName totals).get memory).getD 0 > 0 ∨
            ((byName budgets).get memory).isSome = true).map need := by
    unfold buildMemoryLayers OrderedDict.contains
    rw [List.map_map]
    simp only [Option.map_some, Option.getD_some, get_update]
    rfl
  have hneeded : ∀ memory, (if ((byName totals).get memory).getD 0 > 0 ∨
      ((byName budgets).get memory).isSome = true then need memory else 0) = need memory := by
    intro memory
    split_ifs with h
    · rfl
    · exact (layerRelief_of_none (Option.not_isSome_iff_eq_none.mp (not_or.mp h).2)).symm
  calc _ = ((sortBy id (layerNames totals budgets)).map need).sum := by
        rw [hlayers, sum_filter]
        exact congrArg List.sum (List.map_congr_left fun memory _ => hneeded memory)
    _ = ((layerNames totals budgets).map need).sum := sum_map_sortBy id need _
    _ = ((allLayers.map MemoryLayer.name).map need).sum := sum_layerNames totals budgets
    _ = _ := by rw [List.map_map]; rfl

section

variable {s : RuntimeAdapterSession}

/-- The relief of a layer is what the session has registered there above its budget,
rounded: the totals of the policy engine mirror the resources of the controller. -/
theorem layerRelief_eq (hmirrored : Mirrored s.policyEngine s.controller) (layer : MemoryLayer) :
    layerRelief (byName s.policyEngine.memoryTotalsMb) (byName s.policyEngine.memoryBudgetsMb)
      layer.name = round4 (excessMb s layer) := by
  unfold layerRelief excessMb registeredMb
  rw [byName_get, byName_get]
  have htotal : (s.policyEngine.memoryTotalsMb.get layer).getD 0 =
      ((s.controller.optimization.resources.values.filter fun resource =>
        resource.memory = layer).map RuntimeResource.sizeMb).sum := by
    rw [hmirrored.totals, getD_memoryTotals]
    exact ((hmirrored.perm.filter _).map _).sum_eq
  rw [htotal]
  cases s.policyEngine.memoryBudgetsMb.get layer with
  | none => rfl
  | some budget => rfl

/-- What a result says of memory is what its session has to relieve. -/
structure AdapterSessionResult.Relieves (result : AdapterSessionResult)
    (s : RuntimeAdapterSession) : Prop where
  dispatched : result.dispatchExecution.memoryReliefMb = reliefMb s
  applied : result.runtimeGatewayCycle.memoryReliefAppliedMb = reliefMb s
  delta : result.runtimeGatewayFeedback.memoryDeltaMb = 0
  target : result.runtimeStateAccumulator.memoryReliefTargetMb = reliefMb s
  active : (∃ update ∈ result.runtimePolicyUpdate.memoryUpdates,
    update.action = .continueMemoryRelief) ↔ ∃ layer, round4 (excessMb s layer) ≠ 0

/-- No excess is negative. -/
theorem excessMb_nonneg (s : RuntimeAdapterSession) (layer : MemoryLayer) :
    0 ≤ excessMb s layer := by
  unfold excessMb
  split
  · exact le_refl 0
  · exact le_max_left 0 _

/-- A sum of excesses shows exactly when one of them does. -/
theorem sum_round_ne_zero {α : Type} {excess : α → ℚ} {layers : List α}
    (h : ∀ layer ∈ layers, 0 ≤ excess layer) :
    (layers.map fun layer => round4 (excess layer)).sum ≠ 0 ↔
      ∃ layer ∈ layers, round4 (excess layer) ≠ 0 := by
  have hamounts : ∀ amount ∈ layers.map fun layer => round4 (excess layer), 0 ≤ amount := by
    intro amount hamount
    obtain ⟨layer, hlayer, rfl⟩ := List.mem_map.mp hamount
    exact ControlLoop.round4_nonneg (h layer hlayer)
  constructor
  · intro hsum
    by_contra hnone
    push Not at hnone
    refine hsum (List.sum_eq_zero fun amount hamount => ?_)
    obtain ⟨layer, hlayer, rfl⟩ := List.mem_map.mp hamount
    exact hnone layer hlayer
  · intro hexists hsum
    rcases hexists with ⟨layer, hlayer, hne⟩
    exact hne (List.all_zero_of_le_zero_le_of_sum_eq_zero hamounts hsum
      (List.mem_map_of_mem hlayer))

/-- There is relief exactly where the excess of some layer is not rounded away; nothing
cancels, since no excess is negative. -/
theorem reliefMb_ne_zero_iff (s : RuntimeAdapterSession) :
    reliefMb s ≠ 0 ↔ ∃ layer, round4 (excessMb s layer) ≠ 0 := by
  refine (sum_round_ne_zero fun layer _ => excessMb_nonneg s layer).trans ?_
  exact exists_congr fun layer => and_iff_right (mem_allLayers layer)

/-- No relief is negative. -/
theorem reliefMb_nonneg (s : RuntimeAdapterSession) : 0 ≤ reliefMb s := by
  refine List.sum_nonneg fun amount hamount => ?_
  obtain ⟨layer, -, rfl⟩ := List.mem_map.mp hamount
  exact ControlLoop.round4_nonneg (excessMb_nonneg s layer)

/-- Where both paths say the same, it is the target of the next cycle. -/
theorem reliefTargetMb_eq {feedback : RuntimeGatewayFeedbackDelta} {relief : ℚ}
    (hnonneg : 0 ≤ relief) (hexpected : feedback.memoryReliefExpectedMb = relief)
    (happlied : feedback.memoryReliefAppliedMb = relief) (hdelta : feedback.memoryDeltaMb = 0) :
    (ControlLoop.buildMemoryPolicyUpdate feedback).reliefTargetMb = relief := by
  unfold ControlLoop.buildMemoryPolicyUpdate
  rw [hexpected, happlied, hdelta, max_self]
  by_cases hrelief : relief > 0
  · rw [if_pos (Or.inl hrelief)]
  · have hzero : (0 : ℚ) = relief := le_antisymm hnonneg (not_lt.mp hrelief)
    rw [if_neg (not_or.mpr ⟨hrelief, lt_irrefl 0⟩)]
    split_ifs <;> exact hzero

end

/-- **Memory relief.** After every stream of events, whatever raises: what the plans of a
session relieve, along the dispatch as along the control, and what the state leaves for
the next session to relieve is, layer by layer, what the registered resources take above
the budget; and relief goes on exactly when some layer's excess shows in four decimals.
Sizes are added as exact rationals. -/
theorem relief_registered (casing : Casing) (builtins : Builtins)
    (events : List (Json × Option Nat)) (previousState : Option RuntimeStateAccumulator) :
    let s := RuntimeAdapterSession.run casing builtins events
    (s.toResult previousState).Relieves s := by
  intro s
  have hmirrored : Mirrored s.policyEngine s.controller := run_mirrored casing builtins events
  let result := s.toResult previousState
  let envelope := result.budgetEnvelope.toRuntimeBudgetEnvelope
  have hbuilt : ∀ layer ∈ envelope.memoryLayers, layer.Built := built_layers _ _
  have hrelief : (envelope.memoryLayers.map fun layer => round4 layer.excess).sum =
      reliefMb s := by
    refine (sum_layers s.policyEngine.memoryTotalsMb s.policyEngine.memoryBudgetsMb).trans ?_
    exact congrArg List.sum (List.map_congr_left fun layer _ => layerRelief_eq hmirrored layer)
  have hdispatched : result.dispatchExecution.memoryReliefMb = reliefMb s :=
    (ControlLoop.relief_dispatched hbuilt result.executionPacket).trans hrelief
  have happlied : result.runtimeGatewayCycle.memoryReliefAppliedMb = reliefMb s :=
    (ControlLoop.relief_controlled hbuilt result.runtimeCalibration).trans hrelief
  obtain ⟨-, hdelta, hactive⟩ := ControlLoop.relief_agrees hbuilt result.executionPacket
    (result.frames.map AdapterFrameStats.statistics)
  refine ⟨hdispatched, happlied, hdelta, ?_, hactive.trans ?_⟩
  · have htarget : (ControlLoop.buildMemoryPolicyUpdate
        result.runtimeGatewayFeedback).reliefTargetMb = reliefMb s :=
      reliefTargetMb_eq (reliefMb_nonneg s) hdispatched happlied hdelta
    exact (add_zero _).trans htarget
  · rw [← reliefMb_ne_zero_iff, ← hrelief]
    exact (sum_round_ne_zero fun layer _ => ControlLoop.excess_nonneg layer).symm

end FluidGateway.Adapter
