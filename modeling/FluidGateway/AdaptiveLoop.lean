import FluidGateway.ArbitrationRuns
import FluidGateway.ExecutionSimulation
import FluidGateway.FrameWindowPlan
import FluidGateway.ManagerDirective

/-!
# The adaptive loop and its budgets

`fluidgateway/adaptive.py` compares the frames of a simulated packet with their
targets, and `fluidgateway/budget.py` makes the budgets of the next arbitration out
of what it finds.

The packet that was simulated is then arbitrated under these budgets.  The window
before a frame holds all the work that is to be prestaged there, whether the frame is
over its target or not; so only protected work is deferred, and some is exactly
when it costs more than the target (`deferred_iff_over`).
-/

namespace FluidGateway.ControlLoop

open Sequencing (sortBy groupBy numbered)
open Histories (history)

/-! ## Directives of a frame -/

/-- The actions of adaptive directives. -/
inductive AdaptiveAction where
  | tightenHotPathAdmission | expandPreFrameWindow | splitProtectedHotPath
  | keepSuppressionActive | preservePreFrameWindow | maintainSuppressionCache
  | holdCurrentPacket
  deriving DecidableEq, Repr

/-- The text of an action; the sort of the directives compares it last. -/
def AdaptiveAction.text : AdaptiveAction → String
  | .tightenHotPathAdmission => "tighten-hot-path-admission"
  | .expandPreFrameWindow => "expand-pre-frame-window"
  | .splitProtectedHotPath => "split-protected-hot-path"
  | .keepSuppressionActive => "keep-suppression-active"
  | .preservePreFrameWindow => "preserve-pre-frame-window"
  | .maintainSuppressionCache => "maintain-suppression-cache"
  | .holdCurrentPacket => "hold-current-packet"

/-- A directive of the loop. -/
structure AdaptiveExecutorDirective where
  action : AdaptiveAction
  priority : ℤ
  frame : ℤ
  target : String
  value : ℚ
  unit : String
  reason : String
  expectedEffect : String
  deriving DecidableEq, Repr

/-- What the loop says of a frame. -/
structure AdaptiveExecutorFrame where
  frame : ℤ
  targetFrameMs : ℚ
  hotPathBeforeMs : ℚ
  hotPathAfterMs : ℚ
  hotPathReliefMs : ℚ
  budgetDeltaMs : ℚ
  pressureStatus : PressureStatus
  profile : Profile
  directiveCount : Nat
  deriving DecidableEq, Repr

/-- Every directive is in milliseconds. -/
def directive (action : AdaptiveAction) (priority frame : ℤ) (target : String) (value : ℚ)
    (reason expectedEffect : String) : AdaptiveExecutorDirective where
  action := action
  priority := priority
  frame := frame
  target := target
  value := value
  unit := "ms"
  reason := reason
  expectedEffect := expectedEffect

/-- `directives_for_frame`, by how far the simulated frame is from its target. -/
def directivesForFrame (frame : ExecutionFrameResult) (targetFrameMs budgetDeltaMs : ℚ) :
    List AdaptiveExecutorDirective :=
  if budgetDeltaMs < 0 then
    let overBudgetMs := |budgetDeltaMs|
    [directive .tightenHotPathAdmission 95 frame.frame "hot-path" overBudgetMs
        "Simulated hot path remains over the frame target."
        "Reject or defer more non-critical work before this frame executes.",
      directive .expandPreFrameWindow 90 frame.frame "pre-frame"
        (frame.prestagedCostMs + overBudgetMs)
        "More work must move before the frame to recover target headroom."
        "Increase the early transfer window for predictable RAM/VRAM movement."] ++
      (if frame.protectedHotPathCostMs > targetFrameMs then
        [directive .splitProtectedHotPath 88 frame.frame "hot-path"
          (frame.protectedHotPathCostMs - targetFrameMs)
          "Protected hot-path work alone exceeds the target frame budget."
          "Look for work that can be tiled, staged, cached, or moved earlier."]
      else []) ++
      (if frame.removedCostMs > 0 then
        [directive .keepSuppressionActive 84 frame.frame "never" frame.removedCostMs
          "Existing suppression is still buying measurable frame relief."
          "Keep redundant transfers, allocations, and sync waits out."]
      else [])
  else
    (if frame.prestagedCostMs > 0 then
        [directive .preservePreFrameWindow 72 frame.frame "pre-frame" frame.prestagedCostMs
          "The simulated frame is within budget with prestaged work."
          "Keep predictable transfer work outside the hot path."]
      else []) ++
      (if frame.removedCostMs > 0 then
        [directive .maintainSuppressionCache 70 frame.frame "never" frame.removedCostMs
          "Suppressed work contributes to the current headroom."
          "Continue eliminating redundant copies, allocations, and waits."]
      else []) ++
      [directive .holdCurrentPacket 55 frame.frame "packet" budgetDeltaMs
        "Simulation is within the frame target."
        "Keep this packet shape unless later telemetry regresses."]

/-! ## The loop -/

/-- The loop: its frames and directives, with what is counted of them. -/
structure AdaptiveExecutorLoop where
  frameCount : Nat
  overBudgetCount : Nat
  withinBudgetCount : Nat
  maxOverBudgetMs : ℚ
  totalHotPathReliefMs : ℚ
  adjustmentCount : Nat
  profile : Profile
  frames : List AdaptiveExecutorFrame
  directives : List AdaptiveExecutorDirective
  deriving DecidableEq, Repr

/-- The target of a frame, or the default one. -/
def frameTargetMs (targets : OrderedDict ℤ ℚ) (frame : ℤ) : ℚ :=
  (targets.get frame).getD defaultFrameBudgetMs

/-- The directives of one round of the loop. -/
def adaptiveDirectives (targets : OrderedDict ℤ ℚ) (frame : ExecutionFrameResult) :
    List AdaptiveExecutorDirective :=
  let target := frameTargetMs targets frame.frame
  directivesForFrame frame target (target - frame.hotPathAfterMs)

/-- One round of the loop. -/
def adaptiveFrame (targets : OrderedDict ℤ ℚ) (frame : ExecutionFrameResult) :
    AdaptiveExecutorFrame :=
  let target := frameTargetMs targets frame.frame
  let budgetDelta := target - frame.hotPathAfterMs
  let pressureStatus := if budgetDelta ≥ 0 then PressureStatus.withinBudget else .overBudget
  { frame := frame.frame
    targetFrameMs := target
    hotPathBeforeMs := frame.hotPathBeforeMs
    hotPathAfterMs := frame.hotPathAfterMs
    hotPathReliefMs := frame.hotPathReliefMs
    budgetDeltaMs := budgetDelta
    pressureStatus
    profile := if pressureStatus = .withinBudget then .stable else .aggressive
    directiveCount := (adaptiveDirectives targets frame).length }

/-- The key of the sort: the strongest first, then by frame and by the text of the action. -/
def adaptiveKey (directive : AdaptiveExecutorDirective) : ℤ ×ₗ ℤ ×ₗ String :=
  toLex (-directive.priority, toLex (directive.frame, directive.action.text))

/-- `build_adaptive_executor_loop`: a frame and its directives for each simulated frame. -/
def buildAdaptiveExecutorLoop (simulation : ExecutionSimulation) (targets : OrderedDict ℤ ℚ) :
    AdaptiveExecutorLoop :=
  let frames := simulation.frames.map (adaptiveFrame targets)
  let directives := simulation.frames.flatMap (adaptiveDirectives targets)
  let overBudget := (frames.filter fun frame => frame.pressureStatus = .overBudget).map
    fun frame => |frame.budgetDeltaMs|
  { frameCount := frames.length
    overBudgetCount := frames.countP fun frame => frame.pressureStatus = .overBudget
    withinBudgetCount := frames.countP fun frame => frame.pressureStatus = .withinBudget
    maxOverBudgetMs := maxValue overBudget
    totalHotPathReliefMs := (frames.map AdaptiveExecutorFrame.hotPathReliefMs).sum
    adjustmentCount := directives.length
    profile := if overBudget ≠ [] then .aggressive else .stable
    frames
    directives := sortBy adaptiveKey directives }

/-! ## Budgets of frames -/

/-- The admissions of an envelope. -/
inductive FrameAdmission where
  | blockNoncriticalHotPath | allowBudgetedHotPath
  deriving DecidableEq, Repr

/-- The policies of an envelope about memory. -/
inductive FrameMemoryPolicy where
  | evictOrDeferResidency | holdCurrentResidency
  deriving DecidableEq, Repr

/-- An entry of the envelope with all of its fields. -/
structure FrameBudget extends FrameBudgetEnvelope where
  profile : Profile
  pressureStatus : PressureStatus
  targetFrameMs : ℚ
  budgetDeltaMs : ℚ
  admissionPolicy : FrameAdmission
  memoryPolicy : FrameMemoryPolicy
  directiveCount : Nat
  deriving DecidableEq, Repr

/-- `suggest_copy_queue_budget`: a quarter of what is left, at most 15 % of the target. -/
def suggestCopyQueueBudget (targetFrameMs budgetDeltaMs : ℚ) : ℚ :=
  if budgetDeltaMs ≤ 0 then 0
  else min (targetFrameMs * (15 / 100)) (budgetDeltaMs * (25 / 100))

/-- `directive_value`: the largest value of some actions, 0 where there is none. -/
def directiveValue (directives : List AdaptiveExecutorDirective) (actions : List AdaptiveAction) :
    ℚ :=
  maxValue ((directives.filter fun directive => directive.action ∈ actions).map
    AdaptiveExecutorDirective.value)

/-- `build_frame_envelope`: the directives of the frame widen its windows, constrained
memory makes it aggressive. -/
def buildFrameEnvelope (frame : AdaptiveExecutorFrame)
    (directives : List AdaptiveExecutorDirective) (memoryConstrained : Bool) : FrameBudget :=
  let frameDirectives := directives.filter fun directive => directive.frame = frame.frame
  let overBudget := frame.pressureStatus = .overBudget
  { frame := frame.frame
    profile := if overBudget ∨ memoryConstrained then .aggressive else .stable
    pressureStatus := frame.pressureStatus
    targetFrameMs := frame.targetFrameMs
    maxHotPathMs := frame.targetFrameMs
    copyQueueBudgetMs :=
      if overBudget then 0 else suggestCopyQueueBudget frame.targetFrameMs frame.budgetDeltaMs
    preFrameWindowMs :=
      directiveValue frameDirectives [.expandPreFrameWindow, .preservePreFrameWindow]
    budgetDeltaMs := frame.budgetDeltaMs
    admissionPolicy := if overBudget then .blockNoncriticalHotPath else .allowBudgetedHotPath
    memoryPolicy := if memoryConstrained then .evictOrDeferResidency else .holdCurrentResidency
    directiveCount := frameDirectives.length }

/-! ## Budgets of memory layers -/

/-- The layers that are listed in any case. -/
def knownMemoryLayers : List String :=
  ["ram", "vram", "shared", "staging", "swapchain"]

/-- What is read of a snapshot. -/
structure MemorySnapshot where
  memoryTotalsMb : OrderedDict String ℚ
  memoryBudgetsMb : OrderedDict String ℚ

/-- `build_memory_layers`: every layer that is used or has a budget, sorted by its name; the
budgets of the snapshot come last and win. -/
def buildMemoryLayers (stateSnapshot : Option MemorySnapshot)
    (memoryBudgetsMb : OrderedDict String ℚ) : List MemoryBudgetEnvelope :=
  let totals := (stateSnapshot.map MemorySnapshot.memoryTotalsMb).getD .empty
  let snapshotBudgets := (stateSnapshot.map MemorySnapshot.memoryBudgetsMb).getD .empty
  let budgets := snapshotBudgets.items.foldl (fun budgets item => budgets.set item.1 item.2)
    memoryBudgetsMb
  let memories := sortBy id (knownMemoryLayers ++ totals.keys ++ budgets.keys).dedup
  (memories.filter fun memory =>
      (totals.get memory).getD 0 > 0 ∨ budgets.contains memory = true).map fun memory =>
    buildMemoryLayer memory ((totals.get memory).getD 0) (budgets.get memory)

/-! ## The envelope -/

/-- `next_frame_policy`: what has to be tightened for the next frame. -/
def nextFramePolicy (profile : Profile) (memoryConstrained : Bool) : String :=
  if profile = .aggressive ∧ memoryConstrained then "tighten-frame-and-memory-admission"
  else if profile = .aggressive then "tighten-frame-admission"
  else if memoryConstrained then "tighten-memory-admission"
  else "maintain-current-envelope"

/-- An envelope with all of its fields. -/
structure RuntimeBudget extends RuntimeBudgetEnvelope where
  frameCount : Nat
  overBudgetFrameCount : Nat
  memoryLayerCount : Nat
  constrainedMemoryCount : Nat
  totalMemoryPressureMb : ℚ
  budgets : List FrameBudget
  deriving DecidableEq, Repr

/-- `build_runtime_budget_envelope`: layers first, since a constrained one changes the
envelope of every frame. -/
def buildRuntimeBudgetEnvelope (adaptiveLoop : AdaptiveExecutorLoop)
    (stateSnapshot : Option MemorySnapshot) (memoryBudgetsMb : OrderedDict String ℚ) :
    RuntimeBudget :=
  let memoryLayers := buildMemoryLayers stateSnapshot memoryBudgetsMb
  let constrainedMemoryCount := memoryLayers.countP fun layer =>
    layer.status = .nearBudget ∨ layer.status = .overBudget
  let memoryConstrained := decide (constrainedMemoryCount > 0)
  let frames := adaptiveLoop.frames.map fun frame =>
    buildFrameEnvelope frame adaptiveLoop.directives memoryConstrained
  let overBudgetCount := frames.countP fun frame => frame.pressureStatus = .overBudget
  let profile := if overBudgetCount ≠ 0 ∨ memoryConstrained then Profile.aggressive else .stable
  { profile
    nextFramePolicy := nextFramePolicy profile memoryConstrained
    frames := frames.map FrameBudget.toFrameBudgetEnvelope
    memoryLayers
    frameCount := frames.length
    overBudgetFrameCount := overBudgetCount
    memoryLayerCount := memoryLayers.length
    constrainedMemoryCount
    totalMemoryPressureMb := (memoryLayers.map MemoryBudgetEnvelope.pressureMb).sum
    budgets := frames }

/-! ## Commands of a packet -/

/-- The effect of a command is that of its window. -/
def ExecutionCommand.Windowed (command : ExecutionCommand) : Prop :=
  (effectForAction command.action = .prestaged ↔ command.window = .preFrame) ∧
    (effectForAction command.action = .protectedWork ↔ command.window = .hotPath)

/-- A slot made from a directive is in one of the windows that are listed. -/
theorem windowed_slotFromDirective {directive : MemoryRouteDirective} {slot : FrameWindowSlot}
    (h : slotFromDirective directive = some slot) (i j : Nat) :
    (commandFromSlot i (slotPayload j slot)).Windowed := by
  unfold slotFromDirective classifyWindow at h
  cases hname : directive.directive <;> rw [hname] at h
  case other name => cases h
  all_goals
    obtain rfl := Option.some.inj h
    simp [ExecutionCommand.Windowed, commandFromSlot, actionForSlot, slotPayload, effectForAction]

/-- So is every command of a packet. -/
theorem windowed_executionCommands {directives : List MemoryRouteDirective}
    {command : ExecutionCommand}
    (h : command ∈ executionCommands (buildFrameWindowPlan directives)) : command.Windowed := by
  obtain ⟨i, slot, hslot, rfl⟩ := Sequencing.mem_numbered h
  obtain ⟨j, given, hgiven, rfl⟩ := Sequencing.mem_numbered hslot
  obtain ⟨directive, -, hdirective⟩ :=
    List.mem_filterMap.mp ((Sequencing.sortBy_perm slotKey _).mem_iff.mp hgiven)
  exact windowed_slotFromDirective hdirective i j

/-- What the commands of a frame in a window cost. -/
def frameCost (packet : List ExecutionCommand) (frame : ℤ) (window : Window) : ℚ :=
  totalCost (packet.filter fun command => command.frame = some frame ∧ command.window = window)

section

variable {packet : List ExecutionCommand} (hwindowed : ∀ command ∈ packet, command.Windowed)

include hwindowed

/-- The simulation finds the costs of the windows. -/
theorem sumEffect_frame (frame : ℤ) {effect : ExecutionEffect} {window : Window}
    (heffect : ∀ command : ExecutionCommand, command.Windowed →
      (effectForAction command.action = effect ↔ command.window = window)) :
    sumEffect ((packet.map simulateCommand).filter fun result => result.frame = some frame)
      effect = frameCost packet frame window := by
  unfold sumEffect frameCost totalCost
  rw [List.filter_filter, List.filter_map, List.map_map]
  refine congrArg List.sum (congrArg (List.map ExecutionCommand.costMs) ?_)
  refine List.filter_congr fun command hcommand => ?_
  have hsame := heffect command (hwindowed command hcommand)
  rw [Bool.eq_iff_iff]
  simp only [Function.comp_apply, Bool.and_eq_true, decide_eq_true_eq]
  exact (and_congr hsame Iff.rfl).trans and_comm

/-- What is simulated as prestaged in a frame is what its commands cost before the frame. -/
theorem prestagedCost_eq (frame : ℤ) :
    (frameResult frame ((packet.map simulateCommand).filter fun result =>
      result.frame = some frame)).prestagedCostMs = frameCost packet frame .preFrame :=
  sumEffect_frame hwindowed frame fun _ h => h.1

end

/-! ## Frames of a simulation -/

/-- No frame is simulated twice. -/
theorem frames_nodup (packet : List ExecutionCommand) :
    ((simulateExecution packet).frames.map ExecutionFrameResult.frame).Nodup := by
  change ((summarizeFrames (packet.map simulateCommand)).map _).Nodup
  unfold summarizeFrames
  rw [List.map_map]
  have hperm := (Sequencing.sortBy_perm Prod.fst
    (groupBy CommandExecutionResult.frame (packet.map simulateCommand)).items).map Prod.fst
  exact hperm.nodup_iff.mpr (groupBy CommandExecutionResult.frame _).nodup

/-- Every frame with commands has its summary. -/
theorem frameResult_mem {packet : List ExecutionCommand} {command : ExecutionCommand} {frame : ℤ}
    (hcommand : command ∈ packet) (hframe : command.frame = some frame) :
    frameResult frame ((packet.map simulateCommand).filter fun result =>
      result.frame = some frame) ∈ (simulateExecution packet).frames := by
  have hcontains : (groupBy CommandExecutionResult.frame (packet.map simulateCommand)).contains
      frame = true :=
    (Sequencing.contains_groupBy _).mpr ⟨_, List.mem_map_of_mem hcommand, hframe⟩
  obtain ⟨results, hresults⟩ := Option.isSome_iff_exists.mp hcontains
  have hgroup := Sequencing.get_groupBy CommandExecutionResult.frame (packet.map simulateCommand)
    frame
  rw [hresults, Option.getD_some] at hgroup
  rw [← hgroup]
  refine List.mem_map.mpr ⟨(frame, results), ?_, rfl⟩
  exact (Sequencing.sortBy_perm Prod.fst _).mem_iff.mpr (OrderedDict.get_iff.mp hresults)

/-! ## Directives of a frame -/

section

variable {targets : OrderedDict ℤ ℚ}

/-- The directives made for a frame are about that frame. -/
theorem frame_adaptiveDirectives {result : ExecutionFrameResult}
    {directive : AdaptiveExecutorDirective} (h : directive ∈ adaptiveDirectives targets result) :
    directive.frame = result.frame := by
  unfold adaptiveDirectives directivesForFrame ControlLoop.directive at h
  dsimp only at h
  split_ifs at h <;> simp at h <;> grind

/-- The directives for a frame are those of its round. -/
theorem mem_frameDirectives {packet : List ExecutionCommand} {result : ExecutionFrameResult}
    (hresult : result ∈ (simulateExecution packet).frames)
    (directive : AdaptiveExecutorDirective) :
    directive ∈ (buildAdaptiveExecutorLoop (simulateExecution packet) targets).directives.filter
        (fun directive => directive.frame = result.frame) ↔
      directive ∈ adaptiveDirectives targets result := by
  change directive ∈ (sortBy adaptiveKey ((simulateExecution packet).frames.flatMap
    (adaptiveDirectives targets))).filter _ ↔ _
  rw [List.mem_filter, (Sequencing.sortBy_perm adaptiveKey _).mem_iff, List.mem_flatMap,
    decide_eq_true_eq]
  constructor
  · intro h
    rcases h with ⟨⟨other, hother, hdirective⟩, hframe⟩
    have hsame := (frame_adaptiveDirectives hdirective).symm.trans hframe
    rwa [← List.inj_on_of_nodup_map (frames_nodup packet) hother hresult hsame]
  · intro hdirective
    exact ⟨⟨result, hresult, hdirective⟩, frame_adaptiveDirectives hdirective⟩

end

/-- The greatest of some values depends on which they are, not on their order. -/
theorem maxValue_congr {values values' : List ℚ} (h : ∀ value, value ∈ values ↔ value ∈ values') :
    maxValue values = maxValue values' := by
  unfold maxValue
  refine congrArg (fun greatest : Option ℚ => greatest.getD 0) ?_
  cases hgreatest : values.max? with
  | none =>
      have hnil : values = [] := List.max?_eq_none_iff.mp hgreatest
      have hnil' : values' = [] := List.eq_nil_iff_forall_not_mem.mpr fun value hvalue => by
        have hmem := (h value).mpr hvalue
        rw [hnil] at hmem
        exact List.not_mem_nil hmem
      rw [hnil']
      rfl
  | some greatest =>
      obtain ⟨hmem, hall⟩ := List.max?_eq_some_iff.mp hgreatest
      refine (List.max?_eq_some_iff.mpr ⟨(h greatest).mp hmem, ?_⟩).symm
      intro value hvalue
      exact hall value ((h value).mpr hvalue)

/-! ## The budgets of a frame -/

/-- The actions whose value is a window before the frame. -/
def windowActions : List AdaptiveAction :=
  [.expandPreFrameWindow, .preservePreFrameWindow]

section

variable {targets : OrderedDict ℤ ℚ} {result : ExecutionFrameResult}

/-- Within its target, a frame asks for the window that its work takes. -/
theorem within_directives (hwithin : result.hotPathAfterMs ≤ frameTargetMs targets result.frame) :
    ((adaptiveDirectives targets result).filter fun directive =>
        directive.action ∈ windowActions).map AdaptiveExecutorDirective.value =
      if result.prestagedCostMs > 0 then [result.prestagedCostMs] else [] := by
  unfold adaptiveDirectives directivesForFrame
  dsimp only
  rw [if_neg (not_lt.mpr (sub_nonneg.mpr hwithin))]
  split_ifs <;> rfl

/-- Over its target, it asks for as much again as it is over. -/
theorem over_directives (hover : frameTargetMs targets result.frame < result.hotPathAfterMs) :
    ((adaptiveDirectives targets result).filter fun directive =>
        directive.action ∈ windowActions).map AdaptiveExecutorDirective.value =
      [result.prestagedCostMs +
        (result.hotPathAfterMs - frameTargetMs targets result.frame)] := by
  have habs : |frameTargetMs targets result.frame - result.hotPathAfterMs| =
      result.hotPathAfterMs - frameTargetMs targets result.frame := by
    rw [abs_sub_comm]
    exact abs_of_pos (sub_pos.mpr hover)
  unfold adaptiveDirectives directivesForFrame
  dsimp only
  rw [if_pos (sub_neg.mpr hover), habs]
  split_ifs <;> rfl

end

/-- The window before a frame has room for what is prestaged there, and over the target
for as much again as the frame is over. -/
theorem preFrameWindowMs_eq {packet : List ExecutionCommand} {targets : OrderedDict ℤ ℚ}
    {result : ExecutionFrameResult} (hresult : result ∈ (simulateExecution packet).frames)
    (constrained : Bool) :
    (buildFrameEnvelope (adaptiveFrame targets result)
        (buildAdaptiveExecutorLoop (simulateExecution packet) targets).directives
        constrained).preFrameWindowMs =
      if result.hotPathAfterMs ≤ frameTargetMs targets result.frame then
        max 0 result.prestagedCostMs
      else
        result.prestagedCostMs + (result.hotPathAfterMs - frameTargetMs targets result.frame) := by
  have hvalues : (buildFrameEnvelope (adaptiveFrame targets result)
      (buildAdaptiveExecutorLoop (simulateExecution packet) targets).directives
      constrained).preFrameWindowMs =
        maxValue (((adaptiveDirectives targets result).filter fun directive =>
          directive.action ∈ windowActions).map AdaptiveExecutorDirective.value) := by
    refine maxValue_congr fun value => ?_
    rw [List.mem_map, List.mem_map]
    refine exists_congr fun directive => and_congr_left fun _ => ?_
    refine List.mem_filter.trans (Iff.trans ?_ List.mem_filter.symm)
    exact and_congr_left fun _ => mem_frameDirectives hresult directive
  rw [hvalues]
  split_ifs with hwithin
  · rw [within_directives hwithin]
    by_cases hpos : result.prestagedCostMs > 0
    · rw [if_pos hpos, max_eq_right hpos.le]
      rfl
    · rw [if_neg hpos, max_eq_left (not_lt.mp hpos)]
      rfl
  · rw [over_directives (not_le.mp hwithin)]
    rfl

/-! ## What is deferred -/

/-- The envelope of the next arbitration, from the simulation of the packet. -/
def packetEnvelope (packet : List ExecutionCommand) (targets : OrderedDict ℤ ℚ)
    (stateSnapshot : Option MemorySnapshot) (memoryBudgetsMb : OrderedDict String ℚ) :
    RuntimeBudget :=
  buildRuntimeBudgetEnvelope (buildAdaptiveExecutorLoop (simulateExecution packet) targets)
    stateSnapshot memoryBudgetsMb

section

variable {packet : List ExecutionCommand} {targets : OrderedDict ℤ ℚ}
  {stateSnapshot : Option MemorySnapshot} {memoryBudgetsMb : OrderedDict String ℚ}

variable (targets stateSnapshot memoryBudgetsMb) in
/-- The budgets that a frame with commands is given. -/
theorem packetEnvelope_get (hwindowed : ∀ command ∈ packet, command.Windowed)
    {command : ExecutionCommand} {frame : ℤ} (hcommand : command ∈ packet)
    (hframe : command.frame = some frame) :
    ∃ entry : FrameBudgetEnvelope,
      (frameTable (packetEnvelope packet targets stateSnapshot memoryBudgetsMb).frames).get frame =
        some entry ∧
      entry.maxHotPathMs = frameTargetMs targets frame ∧
      frameCost packet frame .preFrame ≤ entry.preFrameWindowMs := by
  have hresult := frameResult_mem hcommand hframe
  let layers := buildMemoryLayers stateSnapshot memoryBudgetsMb
  let constrained := decide (layers.countP (fun layer =>
    layer.status = .nearBudget ∨ layer.status = .overBudget) > 0)
  let budgets := fun result => (buildFrameEnvelope (adaptiveFrame targets result)
    (buildAdaptiveExecutorLoop (simulateExecution packet) targets).directives
    constrained).toFrameBudgetEnvelope
  have hframes : (packetEnvelope packet targets stateSnapshot memoryBudgetsMb).frames =
      (simulateExecution packet).frames.map budgets := by
    change ((((simulateExecution packet).frames.map _).map _).map _) = _
    rw [List.map_map, List.map_map]
    rfl
  have hdistinct : ((packetEnvelope packet targets stateSnapshot memoryBudgetsMb).frames.map
      FrameBudgetEnvelope.frame).Nodup := by
    rw [hframes, List.map_map]
    exact frames_nodup packet
  refine ⟨budgets _, frameTable_get hdistinct (hframes ▸ List.mem_map_of_mem hresult), rfl, ?_⟩
  rw [preFrameWindowMs_eq hresult, prestagedCost_eq hwindowed]
  split_ifs with hwithin
  · exact le_max_right _ _
  · exact le_add_of_nonneg_right (sub_nonneg.mpr (not_le.mp hwithin).le)

/-- No other frame of the packet has the key of this one. -/
def KeyAlone (packet : List ExecutionCommand) (frame : ℤ) : Prop :=
  ∀ command ∈ packet, frameKey command.frame = frameKey (some frame) → command.frame = some frame

/-- Two packets in a row cost what both cost. -/
theorem totalCost_append (commands commands' : List ExecutionCommand) :
    totalCost (commands ++ commands') = totalCost commands + totalCost commands' := by
  unfold totalCost
  rw [List.map_append, List.sum_append]

/-- Commands that cost at least nothing do so within a frame and a window. -/
theorem frameCost_nonneg {commands : List ExecutionCommand}
    (hcosts : ∀ command ∈ commands, 0 ≤ command.costMs) (frame : ℤ) (window : Window) :
    0 ≤ frameCost commands frame window :=
  totalCost_nonneg fun command hcommand => hcosts command (List.mem_filter.mp hcommand).1

section

variable {earlier later : List ExecutionCommand} {command : ExecutionCommand} {frame : ℤ}
  (hpacket : packet = earlier ++ command :: later) (hframe : command.frame = some frame)
  (hbudgeted : command.window.budgeted = true) (halone : KeyAlone packet frame)

include hpacket hframe hbudgeted halone

/-- What is charged up to a command, and what its frame still has in its window, is what
the frame costs there. -/
theorem charged_add_later :
    charged earlier command + command.costMs + frameCost later frame command.window =
      frameCost packet frame command.window := by
  have hfilter : ∀ {commands : List ExecutionCommand}, (∀ other ∈ commands, other ∈ packet) →
      commands.filter (sharing command.window command.frame) =
        commands.filter fun other => other.frame = some frame ∧ other.window = command.window := by
    intro commands hcommands
    refine List.filter_congr fun other hother => ?_
    rw [Bool.eq_iff_iff, decide_eq_true_iff]
    unfold sharing
    rw [hbudgeted, hframe, Bool.true_and, Bool.and_eq_true, decide_eq_true_iff,
      decide_eq_true_iff]
    constructor
    · intro h
      rcases h with ⟨hwindow, hkey⟩
      exact ⟨halone other (hcommands other hother) hkey, hwindow⟩
    · intro h
      rcases h with ⟨hsame, hwindow⟩
      exact ⟨hwindow, by rw [hsame]⟩
  have hearlier := hfilter fun other hother => hpacket ▸ List.mem_append_left _ hother
  unfold charged frameCost
  rw [hearlier, hpacket, List.filter_append, totalCost_append, add_assoc, List.filter_cons,
    if_pos (decide_eq_true ⟨hframe, rfl⟩)]
  exact congrArg _ List.sum_cons.symm

variable (targets stateSnapshot memoryBudgetsMb) in
/-- A command is deferred exactly when what its frame still has in the window leaves too
little room. -/
theorem status_packet (hwindowed : ∀ command ∈ packet, command.Windowed) :
    ∃ entry : FrameBudgetEnvelope,
      entry.maxHotPathMs = frameTargetMs targets frame ∧
      frameCost packet frame .preFrame ≤ entry.preFrameWindowMs ∧
      ((arbitrationAfter (command.frame.bind
          (frameTable (packetEnvelope packet targets stateSnapshot memoryBudgetsMb).frames).get)
          command (charged earlier command)).status = .deferred ↔
        entry.limit command.window <
          frameCost packet frame command.window - frameCost later frame command.window) := by
  have hcommand : command ∈ packet := hpacket ▸ List.mem_append_right _ List.mem_cons_self
  obtain ⟨entry, hget, hhot, hpre⟩ :=
    packetEnvelope_get targets stateSnapshot memoryBudgetsMb hwindowed hcommand hframe
  refine ⟨entry, hhot, hpre, ?_⟩
  rw [← charged_add_later hpacket hframe hbudgeted halone, add_sub_cancel_right, hframe,
    Option.bind_some, hget, ← deferred_arbitrationAfter hbudgeted]

end

/-- Work that is charged to no budget is not deferred. -/
theorem budgeted_of_deferred {envelope : Option FrameBudgetEnvelope} {command : ExecutionCommand}
    {before : ℚ} (h : (arbitrationAfter envelope command before).status = .deferred) :
    command.window = .preFrame ∨ command.window = .hotPath := by
  unfold arbitrationAfter arbitrateCommand at h
  cases hwindow : command.window with
  | preFrame => exact Or.inl rfl
  | hotPath => exact Or.inr rfl
  | never => rw [hwindow] at h; cases h
  | setup => rw [hwindow] at h; cases h
  | other name => rw [hwindow] at h; cases h

/-- The last of the commands with a property. -/
theorem exists_last {p : ExecutionCommand → Prop} {commands : List ExecutionCommand}
    (h : ∃ command ∈ commands, p command) :
    ∃ earlier command later, commands = earlier ++ command :: later ∧ p command ∧
      ∀ other ∈ later, ¬ p other := by
  induction commands with
  | nil => simp at h
  | cons first commands ih =>
      by_cases hrest : ∃ command ∈ commands, p command
      · obtain ⟨earlier, command, later, rfl, hp, hlast⟩ := ih hrest
        exact ⟨first :: earlier, command, later, rfl, hp, hlast⟩
      · have hfirst : p first := by
          obtain ⟨command, hcommand, hp⟩ := h
          obtain rfl | htail := List.mem_cons.mp hcommand
          · exact hp
          · exact absurd ⟨command, htail, hp⟩ hrest
        exact ⟨[], first, commands, rfl, hfirst, fun other hother hp => hrest ⟨other, hother, hp⟩⟩

/-- Whether the frame has protected work that costs more than its target. -/
def OverTarget (packet : List ExecutionCommand) (targets : OrderedDict ℤ ℚ) (frame : ℤ) : Prop :=
  (∃ command ∈ packet, command.frame = some frame ∧ command.window = .hotPath) ∧
    frameTargetMs targets frame < frameCost packet frame .hotPath

section

variable {frame : ℤ} (hwindowed : ∀ command ∈ packet, command.Windowed)
  (halone : KeyAlone packet frame)

include hwindowed halone

/-- Only protected work is deferred, and only where it costs more than the target. -/
theorem overTarget_of_deferred (hcosts : ∀ command ∈ packet, 0 ≤ command.costMs)
    {arbitration : CommandArbitration}
    (h : arbitration ∈ (buildBudgetArbitration packet (packetEnvelope packet targets stateSnapshot
      memoryBudgetsMb).toRuntimeBudgetEnvelope).commands)
    (hframe : arbitration.frame = some frame) (hstatus : arbitration.status = .deferred) :
    arbitration.window = .hotPath ∧ OverTarget packet targets frame := by
  rw [commands_eq] at h
  obtain ⟨⟨earlier, command⟩, hitem, rfl⟩ := List.mem_map.mp h
  obtain ⟨later, hpacket⟩ := Histories.mem_history hitem
  rw [frame_arbitrationAfter] at hframe
  rw [window_arbitrationAfter]
  have hcommand : command ∈ packet := hpacket ▸ List.mem_append_right _ List.mem_cons_self
  have hlater : 0 ≤ frameCost later frame command.window := by
    apply frameCost_nonneg
    intro other hother
    exact hcosts other (hpacket ▸ List.mem_append_right _ (List.mem_cons_of_mem command hother))
  obtain hwindow | hwindow := budgeted_of_deferred hstatus
  all_goals
    have hbudgeted : command.window.budgeted = true := by rw [hwindow]; rfl
    obtain ⟨entry, hhot, hpre, hiff⟩ := status_packet targets stateSnapshot memoryBudgetsMb
      hpacket hframe hbudgeted halone hwindowed
    have hless := (hiff.mp hstatus).trans_le (sub_le_self _ hlater)
    rw [hwindow] at hless
  -- The window before the frame has room for all that is prestaged there.
  · exact absurd hless (not_lt.mpr hpre)
  · change entry.maxHotPathMs < _ at hless
    rw [hhot] at hless
    exact ⟨hwindow, ⟨command, hcommand, hframe, hwindow⟩, hless⟩

/-- Over the target, the last of the protected work is deferred. -/
theorem deferred_of_overTarget (hover : OverTarget packet targets frame) :
    ∃ arbitration ∈ (buildBudgetArbitration packet (packetEnvelope packet targets stateSnapshot
        memoryBudgetsMb).toRuntimeBudgetEnvelope).commands,
      arbitration.frame = some frame ∧ arbitration.status = .deferred := by
  obtain ⟨earlier, command, later, hpacket, ⟨hframe, hwindow⟩, hlast⟩ := exists_last hover.1
  obtain ⟨rest, hcommands⟩ := commands_split earlier later command
    (packetEnvelope packet targets stateSnapshot memoryBudgetsMb).toRuntimeBudgetEnvelope
  rw [← hpacket] at hcommands
  have hmem := hcommands ▸ List.mem_append_right _ List.mem_cons_self
  have hbudgeted : command.window.budgeted = true := by rw [hwindow]; rfl
  obtain ⟨entry, hhot, -, hiff⟩ := status_packet targets stateSnapshot memoryBudgetsMb
    hpacket hframe hbudgeted halone hwindowed
  have hnone : frameCost later frame .hotPath = 0 := by
    unfold frameCost
    rw [List.filter_eq_nil_iff.mpr fun other hother h => hlast other hother (of_decide_eq_true h)]
    rfl
  refine ⟨_, hmem, (frame_arbitrationAfter _ _ _).trans hframe, hiff.mpr ?_⟩
  rw [hwindow, hnone, sub_zero]
  change entry.maxHotPathMs < _
  rw [hhot]
  exact hover.2

end

/-- **A packet under its own budgets.** Where the frame has a key of its own, all its work
is done where it was planned, but for protected work; and some of that is deferred
exactly when it costs more than the target of the frame. -/
theorem deferred_iff_over {frame : ℤ} (hwindowed : ∀ command ∈ packet, command.Windowed)
    (hcosts : ∀ command ∈ packet, 0 ≤ command.costMs) (halone : KeyAlone packet frame) :
    let plan := buildBudgetArbitration packet
      (packetEnvelope packet targets stateSnapshot memoryBudgetsMb).toRuntimeBudgetEnvelope
    (∀ arbitration ∈ plan.commands, arbitration.frame = some frame →
        arbitration.status = .deferred → arbitration.window = .hotPath) ∧
      ((∃ arbitration ∈ plan.commands, arbitration.frame = some frame ∧
        arbitration.status = .deferred) ↔ OverTarget packet targets frame) := by
  intro plan
  refine ⟨fun arbitration h hframe hstatus =>
    (overTarget_of_deferred hwindowed halone hcosts h hframe hstatus).1, ?_, ?_⟩
  · intro hdeferred
    rcases hdeferred with ⟨arbitration, h, hframe, hstatus⟩
    exact (overTarget_of_deferred hwindowed halone hcosts h hframe hstatus).2
  · intro hover
    exact deferred_of_overTarget hwindowed halone hover

end

end FluidGateway.ControlLoop
