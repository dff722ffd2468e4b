import FluidGateway.ArbitrationRuns
import FluidGateway.TransitRoutes

/-!
# From routes to dispatched work

The commands that the runtime is given for the directives of a session: windows,
packet, arbitration, dispatch and execution, under any budget.  What leads through
all of them is what a command is about, whether it drops it, and its cost
(`tags_perm`).  So the work that is dropped in the end is the work that the
controller eliminated, and no budget adds to it (`removals_dispatched`).
-/

namespace FluidGateway.Adapter

open FluidGateway.Runtime (Casing RuntimeOperation RuntimeDecision round4)
open FluidGateway.ControlLoop (MemoryRouteDirective RouteDirective FrameWindowSlot Window
  ExecutionCommand CommandArbitration DispatchCommand DispatchName RuntimeBudgetEnvelope
  FrameBudgetEnvelope BudgetArbitrationPlan RuntimeDispatchPlan DispatchExecutionReport
  buildFrameWindowPlan windowSlots slotFromDirective slotKey slotPayload executionCommands
  commandFromSlot buildBudgetArbitration arbitrationAfter arbitrateCommand dispatchShape
  dispatchFromArbitration dispatchFromMemory dispatchCommands dispatchKey dispatchPayload
  buildRuntimeDispatchPlan executionStep executeDispatchPlan packetByOperation commands_eq)
open Sequencing

/-! ## What is kept on the way -/

/-- An operation, whether it is dropped, and its cost with four decimals. -/
abbrev Tag := String × Bool × ℚ

def directiveTag (directive : MemoryRouteDirective) : Tag :=
  (directive.operationId, removes directive, round4 directive.costMs)

def slotTag (slot : FrameWindowSlot) : Tag :=
  (slot.operationId, slot.window = .never, round4 slot.costMs)

def commandTag (command : ExecutionCommand) : Tag :=
  (command.operationId, command.window = .never, round4 command.costMs)

/-- Commands for memory layers have no tag. -/
def dispatchTag (command : DispatchCommand) : Option Tag :=
  command.operationId.map fun id => (id, command.command = .dropOperation, command.costMs)

/-! ## Windows and packet -/

theorem slotTag_slotFromDirective {directive : MemoryRouteDirective}
    (h : (slotFromDirective directive).isSome) :
    (slotFromDirective directive).map slotTag = some (directiveTag directive) := by
  unfold slotFromDirective ControlLoop.classifyWindow at h ⊢
  unfold slotTag directiveTag removes
  cases hdirective : directive.directive with
  | other name =>
      rw [hdirective] at h
      cases h
  | suppressRedundantHop | reuseTransientAllocation | removeSyncWait
  | prestageCrossMemoryTransfer | poolTransientAllocation | protectPresentationRoute => rfl

/-- The commands of a packet are those of the directives. -/
theorem packet_perm {directives : List MemoryRouteDirective}
    (h : ∀ directive ∈ directives, (slotFromDirective directive).isSome) :
    ((executionCommands (buildFrameWindowPlan directives)).map commandTag).Perm
      (directives.map directiveTag) := by
  have hcommands : (executionCommands (buildFrameWindowPlan directives)).map commandTag =
      (buildFrameWindowPlan directives).slots.map slotTag :=
    map_numbered (f := commandTag) (g := slotTag) (fun _ _ => rfl) _
  have hslots : (buildFrameWindowPlan directives).slots.map slotTag =
      (sortBy slotKey (windowSlots directives)).map slotTag := by
    refine map_numbered (fun i slot => ?_) _
    unfold slotTag slotPayload
    rw [ControlLoop.round4_round4]
  have hwindows : (windowSlots directives).map slotTag = directives.map directiveTag := by
    unfold windowSlots
    rw [List.map_filterMap, ← List.filterMap_eq_map]
    exact List.filterMap_congr fun directive hdirective =>
      slotTag_slotFromDirective (h directive hdirective)
  rw [hcommands, hslots, ← hwindows]
  exact (sortBy_perm slotKey _).map slotTag

/-! ## Arbitration and dispatch -/

/-- Whatever has been charged, exactly the work of no window is dropped. -/
theorem dispatchTag_arbitrationAfter (table : OrderedDict String ExecutionCommand)
    (envelope : Option FrameBudgetEnvelope) (command : ExecutionCommand) (before : ℚ) (i : Nat) :
    ((dispatchFromArbitration table (arbitrationAfter envelope command before)).map
        (dispatchPayload i)).bind dispatchTag = some (commandTag command) := by
  unfold arbitrationAfter arbitrateCommand commandTag
  cases hwindow : command.window with
  | never | setup | other name => rfl
  | preFrame | hotPath =>
      dsimp only
      split_ifs <;> rfl

theorem dispatchTag_dispatchFromMemory (action : ControlLoop.MemoryArbitration) (i : Nat) :
    dispatchTag (dispatchPayload i (dispatchFromMemory action)) = none := rfl

/-- A command before it is numbered. -/
def plainTag (command : DispatchCommand) : Option Tag :=
  dispatchTag (dispatchPayload 0 command)

theorem dispatchCommands_tags (packet : List ExecutionCommand) (envelope : RuntimeBudgetEnvelope) :
    (dispatchCommands (buildBudgetArbitration packet envelope) packet).filterMap plainTag =
      packet.map commandTag := by
  have hmemory : ((buildBudgetArbitration packet envelope).memoryActions.map
      dispatchFromMemory).filterMap plainTag = [] := by
    rw [List.filterMap_map]
    exact List.filterMap_eq_nil_iff.mpr fun action _ => dispatchTag_dispatchFromMemory action 0
  unfold dispatchCommands
  rw [List.filterMap_append, hmemory, List.append_nil, List.filterMap_filterMap, commands_eq,
    List.filterMap_map]
  calc _ = (Histories.history packet).filterMap (some ∘ commandTag ∘ Prod.snd) := by
        refine List.filterMap_congr fun item _ => ?_
        have htag := dispatchTag_arbitrationAfter (packetByOperation packet)
          (item.2.frame.bind (ControlLoop.frameTable envelope.frames).get) item.2
          (ControlLoop.charged item.1 item.2) 0
        rw [Option.bind_map] at htag
        exact htag
    _ = packet.map commandTag := by
        rw [List.filterMap_eq_map, ← List.map_map, Histories.map_history]

theorem tags_perm {directives : List MemoryRouteDirective}
    (h : ∀ directive ∈ directives, (slotFromDirective directive).isSome)
    (envelope : RuntimeBudgetEnvelope) :
    let packet := executionCommands (buildFrameWindowPlan directives)
    let plan := buildRuntimeDispatchPlan (buildBudgetArbitration packet envelope) packet
    (plan.commands.filterMap dispatchTag).Perm (directives.map directiveTag) := by
  intro packet plan
  have hnumbered : plan.commands.map dispatchTag =
      (sortBy dispatchKey
        (dispatchCommands (buildBudgetArbitration packet envelope) packet)).map plainTag := by
    apply map_numbered
    intro i command
    rfl
  have hreduce : ∀ {α : Type} (tag : α → Option Tag) (l : List α),
      l.filterMap tag = (l.map tag).filterMap id := fun tag l => by rw [List.filterMap_map]; rfl
  rw [hreduce, hnumbered, ← hreduce]
  refine ((sortBy_perm dispatchKey _).filterMap plainTag).trans ?_
  rw [dispatchCommands_tags]
  exact packet_perm h

/-! ## The work of a session -/

theorem memoryRoutePlan_windowed {s : RuntimeAdapterSession}
    (hrouted : ∀ report ∈ s.results,
      Routed report (directiveOf s.lifetimePlanner.resources report)) :
    ∀ directive ∈ (memoryRoutePlan s).directives, (slotFromDirective directive).isSome := by
  intro directive hdirective
  obtain ⟨report, hreport, hof⟩ := List.mem_filterMap.mp ((directives_perm s).mem_iff.mp hdirective)
  have hroute := hrouted report hreport
  rw [hof] at hroute
  cases hroute with
  | removed _ removing =>
      unfold removes at removing
      unfold slotFromDirective ControlLoop.classifyWindow
      cases hname : directive.directive with
      | other name =>
          rw [hname] at removing
          simp at removing
      | suppressRedundantHop | reuseTransientAllocation | removeSyncWait
      | prestageCrossMemoryTransfer | poolTransientAllocation | protectPresentationRoute => rfl
  | kept _ windowed => exact windowed

/-- The directives that remove work cost what the decisions save. -/
theorem removed_tags {s : RuntimeAdapterSession} (hjournal : Journaled s)
    (hrouted : ∀ report ∈ s.results,
      Routed report (directiveOf s.lifetimePlanner.resources report)) :
    (((memoryRoutePlan s).directives.map directiveTag).filter fun tag => tag.2.1).Perm
      (s.controller.decisions.map fun decision =>
        (decision.operationId, true, round4 decision.estimatedSavedMs)) := by
  refine (((directives_perm s).map directiveTag).filter _).trans (List.Perm.of_eq ?_)
  rw [List.map_filterMap, List.filter_filterMap, hjournal.decided, decisionsOf, List.map_filterMap]
  refine List.filterMap_congr fun report hreport => ?_
  have hroute := hrouted report hreport
  generalize directiveOf s.lifetimePlanner.resources report = directive at hroute ⊢
  cases hroute with
  | removed decided removing named cost => simp [decided, directiveTag, removing, named, cost]
  | kept executed _ keeping => simp [executed, directiveTag, keeping]
  | silent executed => simp [executed]

/-- What becomes of the work of a session in the end. -/
structure Dispatched (s : RuntimeAdapterSession) (plan : RuntimeDispatchPlan)
    (report : DispatchExecutionReport) : Prop where
  dropped : ((plan.commands.filter fun command => command.command = .dropOperation).map
    DispatchCommand.operationId).Perm
      (s.controller.decisions.map fun decision => some decision.operationId)
  others : ∀ command ∈ plan.commands, ∀ id, command.operationId = some id →
    command.command ≠ .dropOperation →
      ∃ operation ∈ s.controller.executedOperations, operation.id = id
  removed : report.removedCount = s.controller.decisions.length
  avoided : report.avoidedCostMs =
    (s.controller.decisions.map fun decision => round4 decision.estimatedSavedMs).sum

/-- Only work for an operation is dropped. -/
theorem operationId_of_dropped {arbitration : BudgetArbitrationPlan}
    {packet : List ExecutionCommand} {command : DispatchCommand}
    (h : command ∈ (buildRuntimeDispatchPlan arbitration packet).commands)
    (hdropped : command.command = .dropOperation) : command.operationId.isSome := by
  obtain ⟨i, unnumbered, hmem, rfl⟩ := mem_numbered h
  have hcommands := (sortBy_perm dispatchKey _).mem_iff.mp hmem
  obtain hoperation | hmemory := List.mem_append.mp hcommands
  · obtain ⟨arbitrated, -, hdispatch⟩ := List.mem_filterMap.mp hoperation
    unfold dispatchFromArbitration at hdispatch
    obtain ⟨phase, -, rfl⟩ := Option.map_eq_some_iff.mp hdispatch
    rfl
  · obtain ⟨action, -, rfl⟩ := List.mem_map.mp hmemory
    unfold dispatchPayload dispatchFromMemory at hdropped
    dsimp only at hdropped
    split at hdropped <;> cases hdropped

theorem avoidedCostMs_executionStep (command : DispatchCommand) :
    (executionStep command).avoidedCostMs =
      if command.command = .dropOperation then command.costMs else 0 := by
  unfold executionStep
  cases command.command <;> rfl

theorem name_executionStep (command : DispatchCommand) :
    (executionStep command).command = command.command := by
  unfold executionStep
  cases hname : command.command <;> exact hname

/-- A plan drops what its tags say. -/
theorem dropped_eq {commands : List DispatchCommand}
    (h : ∀ command ∈ commands, command.command = .dropOperation → command.operationId.isSome) :
    (commands.filter fun command => command.command = .dropOperation).filterMap dispatchTag =
      (commands.filterMap dispatchTag).filter fun tag => tag.2.1 := by
  rw [List.filter_filterMap, List.filterMap_filter]
  refine List.filterMap_congr fun command hcommand => ?_
  unfold dispatchTag
  by_cases hdropped : command.command = .dropOperation
  · obtain ⟨id, hid⟩ := Option.isSome_iff_exists.mp (h command hcommand hdropped)
    simp [hid, hdropped, Option.filter_some]
  · cases command.operationId <;> simp [hdropped, Option.filter_some]

/-- **Dropped work is eliminated work.** After every stream of events, whatever
raises, and under every budget: the work that the dispatch plan drops is the work
that the controller eliminated, once each; every other command for an operation is
for one that the controller executed; and what the execution reports as avoided is
what the decisions save, each with four decimals.  Costs and sizes are exact rationals. -/
theorem removals_dispatched (casing : Casing) (builtins : Builtins)
    (events : List (Json × Option Nat)) (envelope : RuntimeBudgetEnvelope) :
    let s := RuntimeAdapterSession.run casing builtins events
    let packet := executionCommands (buildFrameWindowPlan (memoryRoutePlan s).directives)
    let plan := buildRuntimeDispatchPlan (buildBudgetArbitration packet envelope) packet
    Dispatched s plan (executeDispatchPlan plan) := by
  intro s packet plan
  have hjournal : Journaled s := run_journaled casing builtins events
  have hrouted : ∀ report ∈ s.results,
      Routed report (directiveOf s.lifetimePlanner.resources report) :=
    run_routed casing builtins events
  have htags := tags_perm (memoryRoutePlan_windowed hrouted) envelope
  change (plan.commands.filterMap dispatchTag).Perm _ at htags
  have hsome : ∀ command ∈ plan.commands, command.command = .dropOperation →
      command.operationId.isSome := fun _ => operationId_of_dropped
  have hdropped := (htags.filter fun tag => tag.2.1).trans (removed_tags hjournal hrouted)
  rw [← dropped_eq hsome] at hdropped
  have hids : ((plan.commands.filter fun command => command.command = .dropOperation).map
      DispatchCommand.operationId).Perm
        (s.controller.decisions.map fun decision => some decision.operationId) := by
    have hperm := hdropped.map fun tag => some tag.1
    rw [List.map_filterMap, List.map_map] at hperm
    refine List.Perm.trans (List.Perm.of_eq ?_) hperm
    rw [← List.filterMap_eq_map]
    refine List.filterMap_congr fun command hcommand => ?_
    obtain ⟨hmem, hname⟩ := List.mem_filter.mp hcommand
    obtain ⟨id, hid⟩ := Option.isSome_iff_exists.mp (hsome command hmem (of_decide_eq_true hname))
    unfold dispatchTag
    rw [Function.comp_apply, hid]
    rfl
  refine ⟨hids, ?_, ?_, ?_⟩
  · intro command hcommand id hid hkept
    have htag : (id, false, command.costMs) ∈ plan.commands.filterMap dispatchTag := by
      refine List.mem_filterMap.mpr ⟨command, hcommand, ?_⟩
      unfold dispatchTag
      rw [hid, decide_eq_false hkept]
      rfl
    obtain ⟨directive, hdirective, heq⟩ := List.mem_map.mp (htags.mem_iff.mp htag)
    have haccounts := (memoryRoutePlan_accounts hjournal hrouted).kept directive hdirective
    have hnamed : directive.operationId = id := congrArg Prod.fst heq
    have hkeeps : removes directive = false := congrArg (fun tag : Tag => tag.2.1) heq
    rw [← hnamed]
    exact (haccounts hkeeps).1
  · change ControlLoop.countCommand (plan.commands.map executionStep) .dropOperation = _
    have hlength := hids.length_eq
    rw [List.length_map, List.length_map] at hlength
    rw [← hlength, ControlLoop.countCommand, List.countP_map, ← List.countP_eq_length_filter]
    refine List.countP_congr fun command _ => ?_
    rw [Function.comp_apply, name_executionStep]
  · change ControlLoop.sumValue (plan.commands.map executionStep) _ = _
    have hcosts := (hdropped.map fun tag : Tag => tag.2.2).sum_eq
    rw [List.map_map, sum_filterMap] at hcosts
    refine Eq.trans ?_ hcosts
    unfold ControlLoop.sumValue
    have havoided : ControlLoop.DispatchExecutionStep.avoidedCostMs ∘ executionStep =
        fun command => if command.command = .dropOperation then command.costMs else 0 :=
      funext avoidedCostMs_executionStep
    rw [List.map_map, havoided, ← sum_filter]
    refine congrArg List.sum (List.map_congr_left fun command hcommand => ?_)
    obtain ⟨hmem, hname⟩ := List.mem_filter.mp hcommand
    obtain ⟨id, hid⟩ := Option.isSome_iff_exists.mp (hsome command hmem (of_decide_eq_true hname))
    unfold dispatchTag
    rw [hid]
    rfl

end FluidGateway.Adapter
