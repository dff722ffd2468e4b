import FluidGateway.EventPayloads
import FluidGateway.GatewayFeedback

/-!
# The runtime state between cycles

`fluidgateway/state_accumulator.py`: the state that a policy update leaves for
the next cycle, the JSON object it is written as, and how it is read back.

Writing rounds every amount to four decimals and keeps everything else
(`fromDict_toDict`).  The next cycle reads only counters and frame numbers of
the state before it, so a state that was written and read again accumulates
like the original (`build_rounded`).

Amounts are exact rationals; a number that is read and is no rational (an
infinity or NaN) is outside of the model.
-/

namespace FluidGateway.ControlLoop

open FluidGateway.Runtime Adapter

/-! ## Texts -/

/-- The texts that the state keeps of the actions of a frame. -/
def FramePolicyAction.text : FramePolicyAction → String
  | .tightenFrameGuardband => "tighten-frame-guardband"
  | .continueFramePressureManagement => "continue-frame-pressure-management"
  | .preserveCycleShape => "preserve-cycle-shape"
  | .monitorCycle => "monitor-cycle"

/-- The texts of the admission policies. -/
def AdmissionPolicy.text : AdmissionPolicy → String
  | .blockNoncriticalHotPath => "block-noncritical-hot-path"
  | .prestageAndDeferNoncritical => "prestage-and-defer-noncritical"
  | .preserveBudgetedHotPath => "preserve-budgeted-hot-path"
  | .observeAdmission => "observe-admission"

/-- The texts of the scheduler modes. -/
def SchedulerMode.text : SchedulerMode → String
  | .guardbandTightening => "guardband-tightening"
  | .closedLoopAggressive => "closed-loop-aggressive"
  | .closedLoopStable => "closed-loop-stable"
  | .observe => "observe"

/-- The texts that the state keeps of the actions of the memory. -/
def MemoryPolicyAction.text : MemoryPolicyAction → String
  | .continueMemoryRelief => "continue-memory-relief"
  | .preserveMemoryHeadroom => "preserve-memory-headroom"
  | .holdMemoryResidency => "hold-memory-residency"

/-- The texts of the residency policies. -/
def ResidencyAction.text : ResidencyAction → String
  | .evictOrDeferResidency => "evict-or-defer-residency"
  | .reserveHeadroom => "reserve-headroom"
  | .holdResidency => "hold-residency"
  | .observeResidency => "observe-residency"

/-- The texts of the actions of a policy update. -/
def PolicyAction.text : PolicyAction → String
  | .tightenRuntimeGuardbandPolicy => "tighten-runtime-guardband-policy"
  | .continueRuntimePressurePolicy => "continue-runtime-pressure-policy"
  | .preserveMemoryHeadroomPolicy => "preserve-memory-headroom-policy"
  | .preserveRuntimeCyclePolicy => "preserve-runtime-cycle-policy"
  | .maintainRuntimePolicy => "maintain-runtime-policy"

/-- The texts of the profiles; a name that the program does not know stays what it is. -/
def Profile.text : Profile → String
  | .aggressive => "aggressive"
  | .stable => "stable"
  | .other name => name

/-- The texts of the convergence statuses. -/
def ConvergenceStatus.text : ConvergenceStatus → String
  | .diverging => "diverging"
  | .needsCorrection => "needs-correction"
  | .watchingHeadroom => "watching-headroom"
  | .stable => "stable"

/-- The texts of the drift risks. -/
def DriftRisk.text : DriftRisk → String
  | .low => "low"
  | .medium => "medium"
  | .high => "high"

/-! ## States -/

/-- `STATE_ACCUMULATOR_MODE`: the mode that is written. -/
def stateAccumulatorMode : String := "runtime-state-accumulator-v0.41"

/-- The modes that are read: the one that is written, and the one before it. -/
def supportedStateAccumulatorModes : List String :=
  ["runtime-state-accumulator-v0.40", stateAccumulatorMode]

/-- What is accumulated of a frame. -/
structure FrameAccumulatedState where
  frame : ℤ
  action : String
  admissionPolicy : String
  schedulerPolicy : String
  nextFrameBudgetMs : ℚ
  hotPathBudgetMs : ℚ
  copyQueueBudgetMs : ℚ
  preFrameWindowMs : ℚ
  guardbandMs : ℚ
  cycleCount : ℤ
  deriving DecidableEq, Repr

/-- What is accumulated of the memory. -/
structure MemoryAccumulatedState where
  action : String
  residencyPolicy : String
  reliefTargetMb : ℚ
  headroomTargetMb : ℚ
  memoryDeltaMb : ℚ
  active : Bool
  cycleCount : ℤ
  deriving DecidableEq, Repr

/-- The accumulated state; its counts are as they were read, and may be negative. -/
structure RuntimeStateAccumulator where
  mode : String
  profile : String
  policyAction : String
  convergenceStatus : String
  driftRisk : String
  cycleCount : ℤ
  frameStateCount : ℤ
  memoryStateCount : ℤ
  activePolicyCount : ℤ
  nextFrameBudgetMs : ℚ
  hotPathBudgetMs : ℚ
  copyQueueBudgetMs : ℚ
  preFrameWindowMs : ℚ
  memoryReliefTargetMb : ℚ
  memoryHeadroomTargetMb : ℚ
  stateDigest : String
  frames : List FrameAccumulatedState
  memory : List MemoryAccumulatedState
  deriving DecidableEq, Repr

/-! ## Accumulating -/

/-- The format `.4f`. -/
def fixed4 (x : ℚ) : String :=
  let units := (roundHalfEven (|x| * 10000)).toNat
  let digits := (toString (10000 + units % 10000)).toList.drop 1
  (if x < 0 then "-" else "") ++ toString (units / 10000) ++ "." ++ String.ofList digits

/-- `build_frame_state`: the values are those of the update, the cycles are counted on from
the previous state of the frame. -/
def buildFrameState (update : FramePolicyUpdate) (previous : Option RuntimeStateAccumulator)
    (cycleCount : ℤ) : FrameAccumulatedState :=
  let previousFrame := previous.bind fun previous =>
    previous.frames.find? fun state => decide (state.frame = update.frame)
  { frame := update.frame
    action := update.action.text
    admissionPolicy := update.admissionPolicy.text
    schedulerPolicy := update.schedulerPolicy.text
    nextFrameBudgetMs := update.nextFrameBudgetMs
    hotPathBudgetMs := update.hotPathBudgetMs
    copyQueueBudgetMs := update.copyQueueBudgetMs
    preFrameWindowMs := update.preFrameWindowMs
    guardbandMs := update.guardbandMs
    cycleCount := (previousFrame.map fun state => state.cycleCount + 1).getD cycleCount }

/-- `build_memory_state`: the cycles are counted on from the first previous state of the
memory. -/
def buildMemoryState (update : MemoryPolicyUpdate) (previous : Option RuntimeStateAccumulator)
    (cycleCount : ℤ) : MemoryAccumulatedState :=
  let previousMemory := previous.bind fun previous => previous.memory.head?
  { action := update.action.text
    residencyPolicy := update.residencyPolicy.text
    reliefTargetMb := update.reliefTargetMb
    headroomTargetMb := update.headroomTargetMb
    memoryDeltaMb := update.memoryDeltaMb
    active := decide (update.action ≠ .holdMemoryResidency)
    cycleCount := (previousMemory.map fun state => state.cycleCount + 1).getD cycleCount }

/-- `build_state_digest`: what the digest names is taken from the update and the cycle, not
from the previous amounts. -/
def buildStateDigest (update : RuntimePolicyUpdate) (cycleCount : ℤ) : String :=
  "profile:" ++ update.nextProfile.text ++ "|" ++
    "policy:" ++ update.policyAction.text ++ "|" ++
    "frames:" ++ toString update.frameUpdateCount ++ "|" ++
    "memory:" ++ fixed4 update.memoryReliefTargetMb ++ ":" ++
      fixed4 update.memoryHeadroomTargetMb ++ "|" ++
    "cycle:" ++ toString cycleCount

/-- `build_runtime_state_accumulator`: of the previous state only the counts of cycles
matter. -/
def buildRuntimeStateAccumulator (update : RuntimePolicyUpdate)
    (previous : Option RuntimeStateAccumulator) : RuntimeStateAccumulator :=
  let cycleCount := (previous.map fun previous => previous.cycleCount + 1).getD 1
  let frames := update.frameUpdates.map fun frame => buildFrameState frame previous cycleCount
  let memory := update.memoryUpdates.map fun memory => buildMemoryState memory previous cycleCount
  { mode := stateAccumulatorMode
    profile := update.nextProfile.text
    policyAction := update.policyAction.text
    convergenceStatus := update.convergenceStatus.text
    driftRisk := update.driftRisk.text
    cycleCount
    frameStateCount := frames.length
    memoryStateCount := memory.length
    activePolicyCount := update.activeUpdateCount
    nextFrameBudgetMs := update.nextFrameBudgetMs
    hotPathBudgetMs := update.hotPathBudgetMs
    copyQueueBudgetMs := update.copyQueueBudgetMs
    preFrameWindowMs := update.preFrameWindowMs
    memoryReliefTargetMb := update.memoryReliefTargetMb
    memoryHeadroomTargetMb := update.memoryHeadroomTargetMb
    stateDigest := buildStateDigest update cycleCount
    frames
    memory }

/-! ## Writing -/

/-- `round(x, 4)`, as a number of JSON. -/
def amount (x : ℚ) : Json :=
  .float (.finite (round4 x))

/-- `to_dict` of a frame; its amounts are rounded to four decimals. -/
def FrameAccumulatedState.toDict (state : FrameAccumulatedState) : Payload :=
  [("frame", .int state.frame),
    ("action", .text state.action),
    ("admission_policy", .text state.admissionPolicy),
    ("scheduler_policy", .text state.schedulerPolicy),
    ("next_frame_budget_ms", amount state.nextFrameBudgetMs),
    ("hot_path_budget_ms", amount state.hotPathBudgetMs),
    ("copy_queue_budget_ms", amount state.copyQueueBudgetMs),
    ("pre_frame_window_ms", amount state.preFrameWindowMs),
    ("guardband_ms", amount state.guardbandMs),
    ("cycle_count", .int state.cycleCount)]

/-- `to_dict` of the memory; its amounts are rounded to four decimals. -/
def MemoryAccumulatedState.toDict (state : MemoryAccumulatedState) : Payload :=
  [("action", .text state.action),
    ("residency_policy", .text state.residencyPolicy),
    ("relief_target_mb", amount state.reliefTargetMb),
    ("headroom_target_mb", amount state.headroomTargetMb),
    ("memory_delta_mb", amount state.memoryDeltaMb),
    ("active", .bool state.active),
    ("cycle_count", .int state.cycleCount)]

/-- `to_dict` of the state, with the fields in the order in which they are written. -/
def RuntimeStateAccumulator.toDict (state : RuntimeStateAccumulator) : Payload :=
  [("mode", .text state.mode),
    ("profile", .text state.profile),
    ("policy_action", .text state.policyAction),
    ("convergence_status", .text state.convergenceStatus),
    ("drift_risk", .text state.driftRisk),
    ("cycle_count", .int state.cycleCount),
    ("frame_state_count", .int state.frameStateCount),
    ("memory_state_count", .int state.memoryStateCount),
    ("active_policy_count", .int state.activePolicyCount),
    ("next_frame_budget_ms", amount state.nextFrameBudgetMs),
    ("hot_path_budget_ms", amount state.hotPathBudgetMs),
    ("copy_queue_budget_ms", amount state.copyQueueBudgetMs),
    ("pre_frame_window_ms", amount state.preFrameWindowMs),
    ("memory_relief_target_mb", amount state.memoryReliefTargetMb),
    ("memory_headroom_target_mb", amount state.memoryHeadroomTargetMb),
    ("state_digest", .text state.stateDigest),
    ("frames", .list (state.frames.map fun frame => .dict frame.toDict)),
    ("memory", .list (state.memory.map fun memory => .dict memory.toDict))]

/-! ## Reading -/

section Reading

variable (builtins : Builtins)

/-- `str(value)`; a text is its own. -/
def strOf : Json → String
  | .text s => s
  | value => builtins.str value

/-- `required_list`: what is no list is refused with the name of the field. -/
def requiredList (payload : Payload) (key : String) : Except Raised (List Json) :=
  match get payload key with
  | .list items => .ok items
  | _ => .error (.value ("Runtime state field must be a list: " ++ key))

/-- `required_str`: a missing field is refused with its name. -/
def requiredStr (payload : Payload) (key : String) : Except Raised String :=
  match get payload key with
  | .null => .error (.value ("Runtime state field is required: " ++ key))
  | value => .ok (strOf builtins value)

/-- `int` of an infinity raises an `OverflowError`, which is not caught. -/
def requiredInt (payload : Payload) (key : String) : Except Raised ℤ :=
  match get payload key with
  | .null => .error (.value ("Runtime state field is required: " ++ key))
  | .int n => .ok n
  | .float (.infinite _) => .error .conversion
  | value =>
    match builtins.int value with
    | some n => .ok n
    | none => .error (.value ("Runtime state field must be an integer: " ++ key))

/-- An integer that no float can hold raises an `OverflowError`, which is not
caught. -/
def requiredFloat (payload : Payload) (key : String) : Except Raised ℚ :=
  match get payload key with
  | .null => .error (.value ("Runtime state field is required: " ++ key))
  | .float (.finite x) => .ok x
  | value =>
    match value, builtins.float value with
    | _, some (.finite x) => .ok x
    | _, some _ => .error .conversion
    | .int _, none => .error .conversion
    | _, none => .error (.value ("Runtime state field must be numeric: " ++ key))

/-- `required_bool`: what is no boolean is refused with the name of the field. -/
def requiredBool (payload : Payload) (key : String) : Except Raised Bool :=
  match get payload key with
  | .bool value => .ok value
  | _ => .error (.value ("Runtime state field must be boolean: " ++ key))

/-- `frame_state_from_dict`: the fields are required one after the other. -/
def frameStateFromDict : Json → Except Raised FrameAccumulatedState
  | .dict payload => do
    return {
      frame := ← requiredInt builtins payload "frame"
      action := ← requiredStr builtins payload "action"
      admissionPolicy := ← requiredStr builtins payload "admission_policy"
      schedulerPolicy := ← requiredStr builtins payload "scheduler_policy"
      nextFrameBudgetMs := ← requiredFloat builtins payload "next_frame_budget_ms"
      hotPathBudgetMs := ← requiredFloat builtins payload "hot_path_budget_ms"
      copyQueueBudgetMs := ← requiredFloat builtins payload "copy_queue_budget_ms"
      preFrameWindowMs := ← requiredFloat builtins payload "pre_frame_window_ms"
      guardbandMs := ← requiredFloat builtins payload "guardband_ms"
      cycleCount := ← requiredInt builtins payload "cycle_count" }
  | _ => .error (.value "Frame state payload must be a JSON object.")

/-- `memory_state_from_dict`: the fields are required one after the other. -/
def memoryStateFromDict : Json → Except Raised MemoryAccumulatedState
  | .dict payload => do
    return {
      action := ← requiredStr builtins payload "action"
      residencyPolicy := ← requiredStr builtins payload "residency_policy"
      reliefTargetMb := ← requiredFloat builtins payload "relief_target_mb"
      headroomTargetMb := ← requiredFloat builtins payload "headroom_target_mb"
      memoryDeltaMb := ← requiredFloat builtins payload "memory_delta_mb"
      active := ← requiredBool payload "active"
      cycleCount := ← requiredInt builtins payload "cycle_count" }
  | _ => .error (.value "Memory state payload must be a JSON object.")

/-- `runtime_state_accumulator_from_dict`: the mode is checked first, then the two lists are
read, then the fields. -/
def runtimeStateAccumulatorFromDict : Json → Except Raised RuntimeStateAccumulator
  | .dict payload => do
    let mode := strOf builtins ((get payload "mode").either (.text ""))
    if mode ∉ supportedStateAccumulatorModes then
      throw (.value ("Unsupported runtime state accumulator mode: " ++ mode))
    let frames ← (← requiredList payload "frames").mapM (frameStateFromDict builtins)
    let memory ← (← requiredList payload "memory").mapM (memoryStateFromDict builtins)
    return {
      mode
      profile := ← requiredStr builtins payload "profile"
      policyAction := ← requiredStr builtins payload "policy_action"
      convergenceStatus := ← requiredStr builtins payload "convergence_status"
      driftRisk := ← requiredStr builtins payload "drift_risk"
      cycleCount := ← requiredInt builtins payload "cycle_count"
      frameStateCount := ← requiredInt builtins payload "frame_state_count"
      memoryStateCount := ← requiredInt builtins payload "memory_state_count"
      activePolicyCount := ← requiredInt builtins payload "active_policy_count"
      nextFrameBudgetMs := ← requiredFloat builtins payload "next_frame_budget_ms"
      hotPathBudgetMs := ← requiredFloat builtins payload "hot_path_budget_ms"
      copyQueueBudgetMs := ← requiredFloat builtins payload "copy_queue_budget_ms"
      preFrameWindowMs := ← requiredFloat builtins payload "pre_frame_window_ms"
      memoryReliefTargetMb := ← requiredFloat builtins payload "memory_relief_target_mb"
      memoryHeadroomTargetMb := ← requiredFloat builtins payload "memory_headroom_target_mb"
      stateDigest := ← requiredStr builtins payload "state_digest"
      frames
      memory }
  | _ => .error (.value "Runtime state payload must be a JSON object.")

end Reading

/-! ## What survives -/

/-- A frame as it comes back from its dictionary. -/
def FrameAccumulatedState.rounded (state : FrameAccumulatedState) : FrameAccumulatedState :=
  { state with
    nextFrameBudgetMs := round4 state.nextFrameBudgetMs
    hotPathBudgetMs := round4 state.hotPathBudgetMs
    copyQueueBudgetMs := round4 state.copyQueueBudgetMs
    preFrameWindowMs := round4 state.preFrameWindowMs
    guardbandMs := round4 state.guardbandMs }

/-- The memory as it comes back from its dictionary. -/
def MemoryAccumulatedState.rounded (state : MemoryAccumulatedState) : MemoryAccumulatedState :=
  { state with
    reliefTargetMb := round4 state.reliefTargetMb
    headroomTargetMb := round4 state.headroomTargetMb
    memoryDeltaMb := round4 state.memoryDeltaMb }

/-- A state as it comes back from its dictionary. -/
def RuntimeStateAccumulator.rounded (state : RuntimeStateAccumulator) : RuntimeStateAccumulator :=
  { state with
    nextFrameBudgetMs := round4 state.nextFrameBudgetMs
    hotPathBudgetMs := round4 state.hotPathBudgetMs
    copyQueueBudgetMs := round4 state.copyQueueBudgetMs
    preFrameWindowMs := round4 state.preFrameWindowMs
    memoryReliefTargetMb := round4 state.memoryReliefTargetMb
    memoryHeadroomTargetMb := round4 state.memoryHeadroomTargetMb
    frames := state.frames.map FrameAccumulatedState.rounded
    memory := state.memory.map MemoryAccumulatedState.rounded }

section RoundTrip

variable (builtins : Builtins)

/-- A frame is read back from its dictionary with its amounts rounded. -/
theorem frameStateFromDict_toDict (state : FrameAccumulatedState) :
    frameStateFromDict builtins (.dict state.toDict) = .ok state.rounded := rfl

/-- The memory is read back from its dictionary with its amounts rounded. -/
theorem memoryStateFromDict_toDict (state : MemoryAccumulatedState) :
    memoryStateFromDict builtins (.dict state.toDict) = .ok state.rounded := rfl

/-- Items that are each read as they should be are read as a list. -/
theorem mapM_eq_ok {α β γ ε : Type} {read : β → Except ε γ} {write : α → β} {result : α → γ}
    (h : ∀ a, read (write a) = .ok (result a)) (items : List α) :
    (items.map write).mapM read = .ok (items.map result) := by
  induction items with
  | nil => rfl
  | cons a items ih =>
    rw [List.map_cons, List.mapM_cons, h, ih]
    rfl

/-- **A written state is read back**, with its amounts rounded. -/
theorem fromDict_toDict {state : RuntimeStateAccumulator}
    (hmode : state.mode ∈ supportedStateAccumulatorModes) :
    runtimeStateAccumulatorFromDict builtins (.dict state.toDict) = .ok state.rounded := by
  have hname : strOf builtins ((get state.toDict "mode").either (.text "")) = state.mode := by
    change strOf builtins ((Json.text state.mode).either (.text "")) = state.mode
    unfold Json.either
    split
    · rfl
    · rename_i hempty
      simpa [Json.truthy, strOf] using hempty
  have hframes : requiredList state.toDict "frames" =
      .ok (state.frames.map fun frame => .dict frame.toDict) := rfl
  have hmemory : requiredList state.toDict "memory" =
      .ok (state.memory.map fun memory => .dict memory.toDict) := rfl
  have hframeStates := mapM_eq_ok (frameStateFromDict_toDict builtins) state.frames
  have hmemoryStates := mapM_eq_ok (memoryStateFromDict_toDict builtins) state.memory
  unfold runtimeStateAccumulatorFromDict
  dsimp only
  rw [hname, if_neg (not_not_intro hmode), hframes, hmemory]
  change ((state.frames.map _).mapM (frameStateFromDict builtins)).bind _ = _
  rw [hframeStates]
  change ((state.memory.map _).mapM (memoryStateFromDict builtins)).bind _ = _
  rw [hmemoryStates]
  rfl

end RoundTrip

/-! ## What the next cycle reads -/

section Next

variable (update : RuntimePolicyUpdate) (previous : Option RuntimeStateAccumulator)

/-- The next state of a frame does not depend on the amounts of the previous one. -/
theorem buildFrameState_rounded (frame : FramePolicyUpdate) (cycleCount : ℤ) :
    buildFrameState frame (previous.map RuntimeStateAccumulator.rounded) cycleCount =
      buildFrameState frame previous cycleCount := by
  cases previous with
  | none => rfl
  | some previous =>
    have hfound : (previous.frames.map FrameAccumulatedState.rounded).find?
        (fun state => decide (state.frame = frame.frame)) =
        (previous.frames.find? fun state => decide (state.frame = frame.frame)).map
          FrameAccumulatedState.rounded := by
      rw [List.find?_map]
      rfl
    simp only [buildFrameState, Option.map_some, Option.bind_some, RuntimeStateAccumulator.rounded,
      hfound, Option.map_map]
    rfl

/-- The next state of the memory does not depend on the amounts of the previous one. -/
theorem buildMemoryState_rounded (memory : MemoryPolicyUpdate) (cycleCount : ℤ) :
    buildMemoryState memory (previous.map RuntimeStateAccumulator.rounded) cycleCount =
      buildMemoryState memory previous cycleCount := by
  cases previous with
  | none => rfl
  | some previous =>
    simp only [buildMemoryState, Option.map_some, Option.bind_some, RuntimeStateAccumulator.rounded,
      List.head?_map, Option.map_map]
    rfl

/-- **Rounding the state before a cycle changes no state after it.** -/
theorem build_rounded :
    buildRuntimeStateAccumulator update (previous.map RuntimeStateAccumulator.rounded) =
      buildRuntimeStateAccumulator update previous := by
  have hcount : (previous.map RuntimeStateAccumulator.rounded).map
      (fun previous => previous.cycleCount + 1) =
      previous.map fun previous => previous.cycleCount + 1 := by
    rw [Option.map_map]
    rfl
  simp only [buildRuntimeStateAccumulator, hcount, buildFrameState_rounded,
    buildMemoryState_rounded]

/-- A state that was built has a mode that can be read. -/
theorem build_mode :
    (buildRuntimeStateAccumulator update previous).mode ∈ supportedStateAccumulatorModes :=
  List.mem_cons_of_mem _ (List.mem_singleton_self _)

end Next

end FluidGateway.ControlLoop
