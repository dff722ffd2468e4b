import FluidGateway.ManagerDirective

/-!
# The control packet and the control state

`fluidgateway/control_packet.py` spells a manager directive out as numbered
commands, six for each frame and one for each memory layer, and
`fluidgateway/control_state.py` collects them again by frame.  The state of a
frame is what the commands for it leave, in their order (`get_foldl`).
-/

namespace FluidGateway.ControlLoop

open FluidGateway.Runtime (round4)
open Sequencing (sortBy numbered)

/-! ## Commands -/

/-- What a control command addresses. -/
inductive Domain where
  | frame | queue | scheduler | memory
  deriving DecidableEq, Repr

/-- The commands of a control packet: six for a frame, four for a memory layer. -/
inductive ControlName where
  | setNextFrameBudget | setHotPathBudget | setCopyQueueBudget | reservePreFrameWindow
  | setAdmissionMode | setSchedulerMode
  | evictOrDeferResidency | reserveMemoryHeadroom | holdResidency | observeResidency
  deriving DecidableEq, Repr

/-- The setting of a command: the mode or the action whose text it is. -/
inductive Setting where
  | admission (mode : AdmissionMode)
  | scheduler (mode : SchedulerMode)
  | residency (action : ResidencyAction)
  deriving DecidableEq, Repr

/-- What a command comes from: the action of the dispatch, the policy of the queue, or the
calibration. -/
inductive SourceAction where
  | dispatch (action : DispatchAction)
  | queue (policy : QueuePolicy)
  | calibration (action : CalibrationAction)
  deriving DecidableEq, Repr

/-- The priorities of commands, the strongest last. -/
inductive Priority where
  | low | normal | high
  deriving DecidableEq, Repr

/-- A command as the packet lists it. -/
structure RuntimeControlCommand where
  sequence : Nat
  domain : Domain
  command : ControlName
  target : String
  frame : Option ℤ
  memory : Option String
  valueMs : ℚ
  valueMb : ℚ
  setting : Option Setting
  priority : Priority
  sourceAction : SourceAction
  reason : String
  deriving DecidableEq, Repr

/-- `priority_for_frame`, by the mode of the scheduler. -/
def priorityForFrame (frame : FrameManagerDirective) : Priority :=
  match frame.schedulerMode with
  | .closedLoopAggressive | .guardbandTightening => .high
  | .closedLoopStable => .normal
  | .observe => .low

/-- `priority_for_memory`, by what is done about the layer. -/
def priorityForMemory (directive : MemoryManagerDirective) : Priority :=
  match directive.action with
  | .evictOrDeferResidency => .high
  | .reserveHeadroom => .normal
  | .holdResidency | .observeResidency => .low

/-- `is_active`: every command but the two that leave a layer as it is. -/
def isActive (command : RuntimeControlCommand) : Bool :=
  command.command ∉ [ControlName.holdResidency, .observeResidency]

/-- The fields that the six commands of a frame share. -/
def frameCommand (frame : FrameManagerDirective) (domain : Domain) (command : ControlName)
    (valueMs : ℚ) (setting : Option Setting) (sourceAction : SourceAction) :
    RuntimeControlCommand where
  sequence := 0
  domain := domain
  command := command
  target := "frame:" ++ toString frame.frame
  frame := some frame.frame
  memory := none
  valueMs := valueMs
  valueMb := 0
  setting := setting
  priority := priorityForFrame frame
  sourceAction := sourceAction
  reason := frame.reason

/-- `frame_commands`: two for the budgets of a frame, two for its copy queue, two for the
scheduler. -/
def frameCommands (frame : FrameManagerDirective) (dispatchAction : DispatchAction) :
    List RuntimeControlCommand :=
  [ frameCommand frame .frame .setNextFrameBudget frame.nextFrameBudgetMs none
      (.dispatch dispatchAction),
    frameCommand frame .frame .setHotPathBudget frame.hotPathBudgetMs none
      (.dispatch dispatchAction),
    frameCommand frame .queue .setCopyQueueBudget frame.copyQueueBudgetMs none
      (.queue frame.queuePolicy),
    frameCommand frame .queue .reservePreFrameWindow frame.preFrameWindowMs none
      (.calibration frame.calibrationAction),
    frameCommand frame .scheduler .setAdmissionMode 0 (some (.admission frame.admissionMode))
      (.calibration frame.calibrationAction),
    frameCommand frame .scheduler .setSchedulerMode 0 (some (.scheduler frame.schedulerMode))
      (.calibration frame.calibrationAction) ]

/-- The command for a layer is named after the action of the manager. -/
def memoryCommandName (action : ResidencyAction) : ControlName :=
  match action with
  | .reserveHeadroom => .reserveMemoryHeadroom
  | .evictOrDeferResidency => .evictOrDeferResidency
  | .holdResidency => .holdResidency
  | .observeResidency => .observeResidency

/-- `memory_command`: the one command of a layer, with the relief that is expected or else
the headroom that is reserved. -/
def memoryCommand (directive : MemoryManagerDirective) (dispatchAction : DispatchAction) :
    RuntimeControlCommand where
  sequence := 0
  domain := .memory
  command := memoryCommandName directive.action
  target := directive.memory
  frame := none
  memory := some directive.memory
  valueMs := 0
  valueMb :=
    if directive.expectedReliefMb > 0 then directive.expectedReliefMb
    else directive.reserveHeadroomMb
  setting := some (.residency directive.action)
  priority := priorityForMemory directive
  sourceAction := .dispatch dispatchAction
  reason := directive.reason

/-! ## The packet -/

/-- A command is rebuilt from its dictionary, whose amounts are rounded. -/
def commandPayload (sequence : Nat) (command : RuntimeControlCommand) :
    RuntimeControlCommand :=
  { command with
    sequence, valueMs := round4 command.valueMs, valueMb := round4 command.valueMb }

/-- The commands of a directive before they are numbered. -/
def controlPayloads (manager : RuntimeManagerDirective) : List RuntimeControlCommand :=
  (manager.frames.flatMap fun frame => frameCommands frame manager.dispatchAction) ++
    manager.memoryDirectives.map fun directive => memoryCommand directive manager.dispatchAction

/-- `build_control_commands`: the commands of a directive, numbered from 1. -/
def buildControlCommands (manager : RuntimeManagerDirective) : List RuntimeControlCommand :=
  numbered commandPayload (controlPayloads manager)

/-- The packet: its commands, and what they add up to. -/
structure RuntimeControlPacket where
  profile : Profile
  nextFramePolicy : String
  dispatchAction : DispatchAction
  commandCount : Nat
  activeCommandCount : Nat
  frameCommandCount : Nat
  queueCommandCount : Nat
  schedulerCommandCount : Nat
  memoryCommandCount : Nat
  nextFrameBudgetMs : ℚ
  hotPathBudgetMs : ℚ
  copyQueueBudgetMs : ℚ
  preFrameWindowMs : ℚ
  totalExpectedMemoryReliefMb : ℚ
  commands : List RuntimeControlCommand
  deriving DecidableEq, Repr

/-- How many of the commands address a domain. -/
def countDomain (commands : List RuntimeControlCommand) (domain : Domain) : Nat :=
  commands.countP fun command => command.domain = domain

/-- `build_runtime_control_packet`: the counts and budgets are those of the manager's
directive. -/
def buildRuntimeControlPacket (manager : RuntimeManagerDirective) : RuntimeControlPacket :=
  let commands := buildControlCommands manager
  { profile := manager.profile
    nextFramePolicy := manager.nextFramePolicy
    dispatchAction := manager.dispatchAction
    commandCount := commands.length
    activeCommandCount := commands.countP isActive
    frameCommandCount := countDomain commands .frame
    queueCommandCount := countDomain commands .queue
    schedulerCommandCount := countDomain commands .scheduler
    memoryCommandCount := countDomain commands .memory
    nextFrameBudgetMs := manager.nextFrameBudgetMs
    hotPathBudgetMs := manager.hotPathBudgetMs
    copyQueueBudgetMs := manager.copyQueueBudgetMs
    preFrameWindowMs := manager.preFrameWindowMs
    totalExpectedMemoryReliefMb := manager.totalExpectedMemoryReliefMb
    commands }

/-! ## The state -/

/-- What the commands for a frame set. -/
structure FrameControlState where
  frame : ℤ
  nextFrameBudgetMs : ℚ := 0
  hotPathBudgetMs : ℚ := 0
  copyQueueBudgetMs : ℚ := 0
  preFrameWindowMs : ℚ := 0
  admissionMode : Option Setting := none
  schedulerMode : Option Setting := none
  priority : Priority := .low
  commandCount : Nat := 0
  activeCommandCount : Nat := 0
  deriving DecidableEq, Repr

/-- What the command for a layer sets. -/
structure MemoryControlState where
  memory : String
  command : ControlName
  setting : Option Setting
  expectedReliefMb : ℚ
  reserveHeadroomMb : ℚ
  active : Bool
  priority : Priority
  reason : String
  deriving DecidableEq, Repr

/-- The priorities in their order. -/
def Priority.rank : Priority → Nat
  | .low => 0
  | .normal => 1
  | .high => 2

/-- `stronger_priority`: the one that is set stays unless the new one is stronger. -/
def strongerPriority (current incoming : Priority) : Priority :=
  if incoming.rank > current.rank then incoming else current

/-- What one command sets in the state of its frame; the last command for a field wins. -/
def FrameControlState.apply (state : FrameControlState) (command : RuntimeControlCommand) :
    FrameControlState :=
  let state := { state with
    commandCount := state.commandCount + 1
    activeCommandCount := state.activeCommandCount + (if isActive command then 1 else 0)
    priority := strongerPriority state.priority command.priority }
  match command.command with
  | .setNextFrameBudget => { state with nextFrameBudgetMs := command.valueMs }
  | .setHotPathBudget => { state with hotPathBudgetMs := command.valueMs }
  | .setCopyQueueBudget => { state with copyQueueBudgetMs := command.valueMs }
  | .reservePreFrameWindow => { state with preFrameWindowMs := command.valueMs }
  | .setAdmissionMode => { state with admissionMode := command.setting }
  | .setSchedulerMode => { state with schedulerMode := command.setting }
  | .evictOrDeferResidency | .reserveMemoryHeadroom | .holdResidency | .observeResidency =>
    state

/-- `command.memory or command.target`. -/
def RuntimeControlCommand.layer (command : RuntimeControlCommand) : String :=
  match command.memory with
  | some memory => if memory = "" then command.target else memory
  | none => command.target

/-- `memory_state_from_command`: the state of a layer is its command. -/
def memoryStateFromCommand (command : RuntimeControlCommand) : MemoryControlState where
  memory := command.layer
  command := command.command
  setting := command.setting
  expectedReliefMb := if command.command = .evictOrDeferResidency then command.valueMb else 0
  reserveHeadroomMb := if command.command = .reserveMemoryHeadroom then command.valueMb else 0
  active := isActive command
  priority := command.priority
  reason := command.reason

/-- The dictionary of the frames and the list of the layers, while commands are applied. -/
structure Applied where
  frames : OrderedDict ℤ FrameControlState := .empty
  memoryLayers : List MemoryControlState := []
  deriving DecidableEq, Repr

/-- One turn of the loop of `apply_runtime_control_packet`. -/
def applyCommand (applied : Applied) (command : RuntimeControlCommand) : Applied :=
  match command.domain, command.frame, command.memory with
  | .frame, some frame, _ | .queue, some frame, _ | .scheduler, some frame, _ =>
    let state := (applied.frames.get frame).getD { frame }
    { applied with frames := applied.frames.set frame (state.apply command) }
  | .memory, _, some _ =>
    { applied with
      memoryLayers := applied.memoryLayers ++ [memoryStateFromCommand command] }
  | _, _, _ => applied

/-- What a packet comes to once its commands are applied. -/
structure RuntimeControlState where
  profile : Profile
  nextFramePolicy : String
  dispatchAction : DispatchAction
  commandCount : Nat
  activeCommandCount : Nat
  frameCount : Nat
  memoryLayerCount : Nat
  appliedFrameBudgetCount : Nat
  appliedQueueBudgetCount : Nat
  appliedSchedulerModeCount : Nat
  memoryActionCount : Nat
  nextFrameBudgetMs : ℚ
  hotPathBudgetMs : ℚ
  copyQueueBudgetMs : ℚ
  preFrameWindowMs : ℚ
  totalExpectedMemoryReliefMb : ℚ
  frames : List FrameControlState
  memoryLayers : List MemoryControlState
  deriving DecidableEq, Repr

/-- `[frames[key] for key in sorted(frames)]`. -/
def frameStates (frames : OrderedDict ℤ FrameControlState) : List FrameControlState :=
  (sortBy Prod.fst frames.items).map Prod.snd

/-- `apply_runtime_control_packet`: the commands in their order, and then what is counted;
the budgets are those of the packet. -/
def applyRuntimeControlPacket (packet : RuntimeControlPacket) : RuntimeControlState :=
  let applied := packet.commands.foldl applyCommand {}
  let frames := frameStates applied.frames
  { profile := packet.profile
    nextFramePolicy := packet.nextFramePolicy
    dispatchAction := packet.dispatchAction
    commandCount := packet.commandCount
    activeCommandCount := packet.activeCommandCount
    frameCount := frames.length
    memoryLayerCount := applied.memoryLayers.length
    appliedFrameBudgetCount := countDomain packet.commands .frame
    appliedQueueBudgetCount := countDomain packet.commands .queue
    appliedSchedulerModeCount := countDomain packet.commands .scheduler
    memoryActionCount := applied.memoryLayers.countP MemoryControlState.active
    nextFrameBudgetMs := packet.nextFrameBudgetMs
    hotPathBudgetMs := packet.hotPathBudgetMs
    copyQueueBudgetMs := packet.copyQueueBudgetMs
    preFrameWindowMs := packet.preFrameWindowMs
    totalExpectedMemoryReliefMb := packet.totalExpectedMemoryReliefMb
    frames
    memoryLayers := applied.memoryLayers }

/-! ## What the commands leave -/

/-- The command is for the frame. -/
def RuntimeControlCommand.addresses (f : ℤ) (command : RuntimeControlCommand) : Bool :=
  command.domain ≠ .memory ∧ command.frame = some f

/-- One more command for a frame that may have none yet. -/
def applyFrame (f : ℤ) (state : Option FrameControlState) (command : RuntimeControlCommand) :
    Option FrameControlState :=
  some ((state.getD { frame := f }).apply command)

/-- A command sets something of a frame only if it addresses that frame. -/
theorem get_applyCommand (applied : Applied) (command : RuntimeControlCommand) (f : ℤ) :
    (applyCommand applied command).frames.get f =
      if command.addresses f then applyFrame f (applied.frames.get f) command
      else applied.frames.get f := by
  unfold applyCommand RuntimeControlCommand.addresses applyFrame
  cases command.domain <;> cases command.frame <;> cases command.memory <;>
    simp only [OrderedDict.get_set, ne_eq, reduceCtorEq, not_false_eq_true, not_true_eq_false,
      true_and, false_and, Option.some.injEq, decide_eq_true_eq, decide_false, if_false,
      Bool.false_eq_true]
  all_goals
    split_ifs with hframe
    · rw [hframe]
    · rfl

/-- A frame's state is what the commands for it leave, in their order. -/
theorem get_foldl (commands : List RuntimeControlCommand) (applied : Applied) (f : ℤ) :
    (commands.foldl applyCommand applied).frames.get f =
      (commands.filter (RuntimeControlCommand.addresses f)).foldl (applyFrame f)
        (applied.frames.get f) := by
  induction commands generalizing applied with
  | nil => rfl
  | cons command commands ih =>
      rw [List.foldl_cons, ih, get_applyCommand]
      by_cases hframe : command.addresses f = true
      · rw [if_pos hframe, List.filter_cons_of_pos hframe, List.foldl_cons]
      · rw [if_neg hframe, List.filter_cons_of_neg hframe]

/-- The state that a command adds for its memory layer. -/
def layerState (command : RuntimeControlCommand) : Option MemoryControlState :=
  if command.domain = .memory ∧ command.memory.isSome then some (memoryStateFromCommand command)
  else none

/-- A command adds the layer that it is about, if it is about one. -/
theorem memoryLayers_applyCommand (applied : Applied) (command : RuntimeControlCommand) :
    (applyCommand applied command).memoryLayers =
      applied.memoryLayers ++ (layerState command).toList := by
  unfold applyCommand layerState
  cases command.domain <;> cases command.frame <;> cases command.memory <;> simp

/-- After all commands the layers are those that the commands are about, in their order. -/
theorem memoryLayers_foldl (commands : List RuntimeControlCommand) (applied : Applied) :
    (commands.foldl applyCommand applied).memoryLayers =
      applied.memoryLayers ++ commands.filterMap layerState := by
  induction commands generalizing applied with
  | nil => exact (List.append_nil _).symm
  | cons command commands ih =>
      rw [List.foldl_cons, ih, memoryLayers_applyCommand, List.append_assoc]
      congr 1
      cases hlayer : layerState command with
      | none => rw [List.filterMap_cons_none hlayer]; rfl
      | some state => rw [List.filterMap_cons_some hlayer]; rfl

/-- The number of a command is not read when it is applied. -/
theorem applyCommand_commandPayload (applied : Applied) (i : Nat)
    (command : RuntimeControlCommand) :
    applyCommand applied (commandPayload i command) =
      applyCommand applied (commandPayload 0 command) := rfl

/-! ## One state for each frame -/

/-- Every state stands under the frame it is about. -/
def Keyed (frames : OrderedDict ℤ FrameControlState) : Prop :=
  ∀ item ∈ frames.items, item.2.frame = item.1

/-- A command leaves the state of a frame the state of that frame. -/
theorem frame_apply (state : FrameControlState) (command : RuntimeControlCommand) :
    (state.apply command).frame = state.frame := by
  unfold FrameControlState.apply
  cases command.command <;> rfl

/-- Every frame stays under its own number when a command sets it. -/
theorem keyed_set {frames : OrderedDict ℤ FrameControlState} (h : Keyed frames) (f : ℤ)
    (command : RuntimeControlCommand) :
    Keyed (frames.set f (((frames.get f).getD { frame := f }).apply command)) := by
  intro item hitem
  obtain rfl | hbefore := OrderedDict.mem_setItem hitem
  · change (((frames.get f).getD { frame := f }).apply command).frame = f
    rw [frame_apply]
    cases hstate : frames.get f with
    | none => rfl
    | some state => exact h _ (OrderedDict.mem_of_getItem hstate)
  · exact h item hbefore

/-- Every frame stays under its own number through one command. -/
theorem keyed_applyCommand {applied : Applied} (h : Keyed applied.frames)
    (command : RuntimeControlCommand) : Keyed (applyCommand applied command).frames := by
  unfold applyCommand
  split
  · exact keyed_set h _ command
  · exact keyed_set h _ command
  · exact keyed_set h _ command
  · exact h
  · exact h

/-- Every frame stays under its own number through all commands. -/
theorem keyed_foldl (commands : List RuntimeControlCommand) {applied : Applied}
    (h : Keyed applied.frames) : Keyed (commands.foldl applyCommand applied).frames := by
  induction commands generalizing applied with
  | nil => exact h
  | cons command commands ih => exact ih (keyed_applyCommand h command)

/-- The states that are reported are those of the table, sorted. -/
theorem frameStates_perm (frames : OrderedDict ℤ FrameControlState) :
    (frameStates frames).Perm frames.values :=
  (Sequencing.sortBy_perm Prod.fst frames.items).map Prod.snd

/-- No frame is reported twice. -/
theorem frameStates_nodup {frames : OrderedDict ℤ FrameControlState} (h : Keyed frames) :
    ((frameStates frames).map FrameControlState.frame).Nodup := by
  have hkeys : frames.values.map FrameControlState.frame = frames.items.map Prod.fst := by
    unfold OrderedDict.values
    rw [List.map_map]
    exact List.map_congr_left h
  have hperm := (frameStates_perm frames).map FrameControlState.frame
  exact hperm.nodup_iff.mpr (hkeys ▸ frames.nodup)

/-- **One state for each frame.** No packet leaves two states for one frame. -/
theorem applyRuntimeControlPacket_nodup (packet : RuntimeControlPacket) :
    ((applyRuntimeControlPacket packet).frames.map FrameControlState.frame).Nodup := by
  apply frameStates_nodup
  apply keyed_foldl
  intro item hitem
  cases hitem

/-! ## The state of a directive -/

section

variable (manager : RuntimeManagerDirective)

/-- The state that the six commands for a frame leave. -/
def frameState (directive : FrameManagerDirective) (dispatchAction : DispatchAction) :
    FrameControlState :=
  ((frameCommands directive dispatchAction).map (commandPayload 0)).foldl
    FrameControlState.apply { frame := directive.frame }

/-- The numbers of the commands do not matter for what they set. -/
theorem applied_commands :
    (buildControlCommands manager).foldl applyCommand {} =
      ((controlPayloads manager).map (commandPayload 0)).foldl applyCommand {} := by
  unfold buildControlCommands
  rw [List.foldl_map]
  exact Sequencing.foldl_numbered applyCommand_commandPayload {} _

/-- The commands of a frame address that frame and no other. -/
theorem addresses_frameCommands {directive : FrameManagerDirective}
    {dispatchAction : DispatchAction} {command : RuntimeControlCommand}
    (h : command ∈ (frameCommands directive dispatchAction).map (commandPayload 0)) (f : ℤ) :
    command.addresses f = decide (directive.frame = f) := by
  unfold frameCommands at h
  simp only [List.map_cons, List.map_nil, List.mem_cons, List.not_mem_nil, or_false] at h
  rcases h with rfl | rfl | rfl | rfl | rfl | rfl <;>
    simp [RuntimeControlCommand.addresses, commandPayload, frameCommand]

/-- The commands for a frame are those of the directives for it. -/
theorem filter_controlPayloads (f : ℤ) :
    ((controlPayloads manager).map (commandPayload 0)).filter
        (RuntimeControlCommand.addresses f) =
      (manager.frames.filter fun directive => directive.frame = f).flatMap fun directive =>
        (frameCommands directive manager.dispatchAction).map (commandPayload 0) := by
  have hmemory : ((manager.memoryDirectives.map fun directive =>
      memoryCommand directive manager.dispatchAction).map (commandPayload 0)).filter
        (RuntimeControlCommand.addresses f) = [] := by
    apply List.filter_eq_nil_iff.mpr
    intro command hcommand
    rw [List.map_map] at hcommand
    obtain ⟨directive, -, rfl⟩ := List.mem_map.mp hcommand
    exact Bool.false_ne_true
  unfold controlPayloads
  rw [List.map_append, List.filter_append, hmemory, List.append_nil]
  induction manager.frames with
  | nil => rfl
  | cons directive directives ih =>
      rw [List.flatMap_cons, List.map_append, List.filter_append, ih]
      by_cases hframe : directive.frame = f
      · rw [List.filter_cons_of_pos (by simpa using hframe), List.flatMap_cons]
        congr 1
        apply List.filter_eq_self.mpr
        intro command hcommand
        rw [addresses_frameCommands hcommand]
        exact decide_eq_true hframe
      · rw [List.filter_cons_of_neg (by simpa using hframe)]
        have hnone : ((frameCommands directive manager.dispatchAction).map
            (commandPayload 0)).filter (RuntimeControlCommand.addresses f) = [] := by
          apply List.filter_eq_nil_iff.mpr
          intro command hcommand
          rw [addresses_frameCommands hcommand]
          simpa using hframe
        rw [hnone, List.nil_append]

/-- The commands for one frame, applied one after the other. -/
theorem foldl_applyFrame (f : ℤ) (commands : List RuntimeControlCommand)
    (state : FrameControlState) :
    commands.foldl (applyFrame f) (some state) =
      some (commands.foldl FrameControlState.apply state) := by
  induction commands generalizing state with
  | nil => rfl
  | cons command commands ih => exact ih (state.apply command)

/-- **The state of a directive.** Where the directives are for distinct frames,
the state of a frame is what its own directive says. -/
theorem frameState_mem (hdistinct : (manager.frames.map FrameManagerDirective.frame).Nodup)
    {directive : FrameManagerDirective} (hmem : directive ∈ manager.frames) :
    frameState directive manager.dispatchAction ∈
      (applyRuntimeControlPacket (buildRuntimeControlPacket manager)).frames := by
  have hget : ((buildControlCommands manager).foldl applyCommand {}).frames.get directive.frame =
      some (frameState directive manager.dispatchAction) := by
    rw [applied_commands, get_foldl, filter_controlPayloads,
      Sequencing.filter_key_eq hdistinct hmem, List.flatMap_cons, List.flatMap_nil,
      List.append_nil]
    exact foldl_applyFrame directive.frame _ _
  have hvalue : frameState directive manager.dispatchAction ∈
      ((buildControlCommands manager).foldl applyCommand {}).frames.values :=
    List.mem_map_of_mem (OrderedDict.mem_of_getItem hget)
  exact (frameStates_perm _).mem_iff.mpr hvalue

/-- The budget of a frame arrives rounded to four decimals. -/
theorem frameState_nextFrameBudgetMs (directive : FrameManagerDirective)
    (dispatchAction : DispatchAction) :
    (frameState directive dispatchAction).nextFrameBudgetMs =
      round4 directive.nextFrameBudgetMs := rfl

/-! ## The states of the memory layers -/

/-- The commands of a frame are about no layer. -/
theorem layerState_frameCommands {directive : FrameManagerDirective}
    {dispatchAction : DispatchAction} {command : RuntimeControlCommand}
    (h : command ∈ (frameCommands directive dispatchAction).map (commandPayload 0)) :
    layerState command = none := by
  unfold frameCommands at h
  simp only [List.map_cons, List.map_nil, List.mem_cons, List.not_mem_nil, or_false] at h
  rcases h with rfl | rfl | rfl | rfl | rfl | rfl <;> rfl

/-- **The state of a layer.** The layers stand as the directives say, one state for
each directive and in the same order. -/
theorem memoryLayers_eq :
    (applyRuntimeControlPacket (buildRuntimeControlPacket manager)).memoryLayers =
      manager.memoryDirectives.map fun directive =>
        memoryStateFromCommand
          (commandPayload 0 (memoryCommand directive manager.dispatchAction)) := by
  have hframes : ((manager.frames.flatMap fun frame =>
      frameCommands frame manager.dispatchAction).map (commandPayload 0)).filterMap layerState =
        [] := by
    rw [List.filterMap_eq_nil_iff]
    intro command hcommand
    rw [List.map_flatMap] at hcommand
    obtain ⟨directive, -, hcommand⟩ := List.mem_flatMap.mp hcommand
    exact layerState_frameCommands hcommand
  calc (applyRuntimeControlPacket (buildRuntimeControlPacket manager)).memoryLayers
      = ((buildControlCommands manager).foldl applyCommand {}).memoryLayers := rfl
    _ = ((controlPayloads manager).map (commandPayload 0)).filterMap layerState := by
        rw [applied_commands, memoryLayers_foldl]
        exact List.nil_append _
    _ = manager.memoryDirectives.map fun directive =>
        memoryStateFromCommand
          (commandPayload 0 (memoryCommand directive manager.dispatchAction)) := by
        unfold controlPayloads
        rw [List.map_append, List.filterMap_append, hframes, List.nil_append, List.map_map,
          List.filterMap_map]
        exact congrFun List.filterMap_eq_map' _

end

end FluidGateway.ControlLoop
