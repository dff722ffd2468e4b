import FluidGateway.DispatchAccounts

/-!
# The frame window plan

`fluidgateway/windowing.py` gives each route directive a window relative to its
frame.  As in the dispatch plan, the slots are numbered while they are rebuilt
from their printed form, which rounds four amounts; the commands of
`fluidgateway/packet.py` are built from the slots as they are.
-/

namespace FluidGateway.ControlLoop

open FluidGateway.Runtime (round4)
open Sequencing (sortBy numbered groupBy)

/-! ## Slots -/

/-- A directive of the route plan, with the fields that the later stages read. -/
structure MemoryRouteDirective where
  directive : RouteDirective
  operationId : String
  frame : Option ℤ
  path : String
  targetResourceId : Option String
  valueMb : ℚ
  costMs : ℚ
  expectedSavedMs : ℚ
  expectedSavedMb : ℚ
  rationale : String
  expectedEffect : String
  deriving DecidableEq, Repr

/-- A slot as the plan lists it. -/
@[ext]
structure FrameWindowSlot where
  sequence : Nat
  window : Window
  phase : SlotPhase
  directive : RouteDirective
  operationId : String
  frame : Option ℤ
  path : String
  targetResourceId : Option String
  valueMb : ℚ
  costMs : ℚ
  expectedSavedMs : ℚ
  expectedSavedMb : ℚ
  rationale : String
  expectedEffect : String
  deriving DecidableEq, Repr

/-- `WINDOW_ORDER.get(window, 99)`. -/
def Window.order : Window → Nat
  | .never => 0
  | .preFrame => 1
  | .setup => 2
  | .hotPath => 3
  | .other name => if name = "post-present" then 4 else 99

/-- `classify_window`: the window and the phase of a directive; an unknown one has no
window. -/
def classifyWindow (directive : RouteDirective) : Option Window × SlotPhase :=
  match directive with
  | .suppressRedundantHop => (some .never, .suppress)
  | .reuseTransientAllocation => (some .never, .reuse)
  | .removeSyncWait => (some .never, .removeSync)
  | .prestageCrossMemoryTransfer => (some .preFrame, .prefetch)
  | .poolTransientAllocation => (some .setup, .pool)
  | .protectPresentationRoute => (some .hotPath, .present)
  | .other _ => (none, .unknown)

/-- `slot_from_directive`: a directive without a window makes no slot. -/
def slotFromDirective (directive : MemoryRouteDirective) : Option FrameWindowSlot :=
  let (window, phase) := classifyWindow directive.directive
  window.map fun window =>
    { sequence := 0
      window
      phase
      directive := directive.directive
      operationId := directive.operationId
      frame := directive.frame
      path := directive.path
      targetResourceId := directive.targetResourceId
      valueMb := directive.valueMb
      costMs := directive.costMs
      expectedSavedMs := directive.expectedSavedMs
      expectedSavedMb := directive.expectedSavedMb
      rationale := directive.rationale
      expectedEffect := directive.expectedEffect }

/-- The key of the sort: by frame, by window, by the name of the operation. -/
def slotKey (slot : FrameWindowSlot) : ℤ ×ₗ ℕ ×ₗ String :=
  toLex (slot.frame.getD (-1), toLex (slot.window.order, slot.operationId))

/-- `sort_slots`. -/
def sortSlots (slots : List FrameWindowSlot) : List FrameWindowSlot :=
  sortBy slotKey slots

/-- A slot is rebuilt from its dictionary, whose amounts are rounded. -/
def slotPayload (sequence : Nat) (slot : FrameWindowSlot) : FrameWindowSlot :=
  { slot with
    sequence
    valueMb := round4 slot.valueMb
    costMs := round4 slot.costMs
    expectedSavedMs := round4 slot.expectedSavedMs
    expectedSavedMb := round4 slot.expectedSavedMb }

/-! ## The plan -/

/-- The summary of a frame. -/
structure FrameWindowSummary where
  frame : ℤ
  slotCount : Nat
  neverCount : Nat
  preFrameCount : Nat
  setupCount : Nat
  hotPathCount : Nat
  postPresentCount : Nat
  estimatedSavedMs : ℚ
  estimatedSavedMb : ℚ
  deriving DecidableEq, Repr

/-- The plan: its slots and frames, with what is counted and summed of them. -/
structure FrameWindowPlan where
  slotCount : Nat
  frameCount : Nat
  neverCount : Nat
  preFrameCount : Nat
  setupCount : Nat
  hotPathCount : Nat
  postPresentCount : Nat
  estimatedHotPathReliefMs : ℚ
  estimatedSavedMb : ℚ
  frames : List FrameWindowSummary
  slots : List FrameWindowSlot
  deriving DecidableEq, Repr

/-- How many of the slots are in a window. -/
def countWindow (slots : List FrameWindowSlot) (window : Window) : Nat :=
  slots.countP fun slot => slot.window = window

/-- The summaries of the frames, in increasing order. -/
def summarizeWindows (slots : List FrameWindowSlot) : List FrameWindowSummary :=
  (sortBy Prod.fst (groupBy FrameWindowSlot.frame slots).items).map fun item =>
    { frame := item.1
      slotCount := item.2.length
      neverCount := countWindow item.2 .never
      preFrameCount := countWindow item.2 .preFrame
      setupCount := countWindow item.2 .setup
      hotPathCount := countWindow item.2 .hotPath
      postPresentCount := countWindow item.2 (.other "post-present")
      estimatedSavedMs := (item.2.map FrameWindowSlot.expectedSavedMs).sum
      estimatedSavedMb := (item.2.map FrameWindowSlot.expectedSavedMb).sum }

/-- The slots of a route plan before they are sorted. -/
def windowSlots (directives : List MemoryRouteDirective) : List FrameWindowSlot :=
  directives.filterMap slotFromDirective

/-- `build_frame_window_plan`: slots are sorted and then numbered from 1. -/
def buildFrameWindowPlan (directives : List MemoryRouteDirective) : FrameWindowPlan :=
  let slots := numbered slotPayload (sortSlots (windowSlots directives))
  { slotCount := slots.length
    frameCount := (slots.filterMap FrameWindowSlot.frame).dedup.length
    neverCount := countWindow slots .never
    preFrameCount := countWindow slots .preFrame
    setupCount := countWindow slots .setup
    hotPathCount := countWindow slots .hotPath
    postPresentCount := countWindow slots (.other "post-present")
    estimatedHotPathReliefMs := (slots.map FrameWindowSlot.expectedSavedMs).sum
    estimatedSavedMb := (slots.map FrameWindowSlot.expectedSavedMb).sum
    frames := summarizeWindows slots
    slots }

/-! ## The packet -/

/-- `action_for_slot`, by the phase of the slot. -/
def actionForSlot (slot : FrameWindowSlot) : CommandAction :=
  match slot.phase with
  | .suppress => .skipTransfer
  | .reuse => .reuseAllocation
  | .removeSync => .dropSyncWait
  | .prefetch => .prestageTransfer
  | .pool => .poolAllocation
  | .present => .executeProtected
  | .unknown | .other _ => .execute

/-- `command_from_slot`: the command says what the slot says, amounts as they are. -/
def commandFromSlot (sequence : Nat) (slot : FrameWindowSlot) : ExecutionCommand where
  sequence := sequence
  action := actionForSlot slot
  window := slot.window
  phase := slot.phase
  operationId := slot.operationId
  frame := slot.frame
  path := slot.path
  targetResourceId := slot.targetResourceId
  valueMb := slot.valueMb
  costMs := slot.costMs
  expectedSavedMs := slot.expectedSavedMs
  expectedSavedMb := slot.expectedSavedMb
  sourceDirective := slot.directive
  reason := slot.rationale

/-- The commands of `build_execution_packet`. -/
def executionCommands (plan : FrameWindowPlan) : List ExecutionCommand :=
  numbered commandFromSlot plan.slots

/-- The amounts of a slot, which numbering rounds. -/
def FrameWindowSlot.amounts (slot : FrameWindowSlot) : ℚ × ℚ × ℚ × ℚ :=
  (slot.valueMb, slot.costMs, slot.expectedSavedMs, slot.expectedSavedMb)

/-- The amounts of a command, which nothing rounds again. -/
def ExecutionCommand.amounts (command : ExecutionCommand) : ℚ × ℚ × ℚ × ℚ :=
  (command.valueMb, command.costMs, command.expectedSavedMs, command.expectedSavedMb)

/-- No amount is changed between the slots and the commands made of them. -/
theorem executionCommands_amounts (plan : FrameWindowPlan) :
    (executionCommands plan).map ExecutionCommand.amounts =
      plan.slots.map FrameWindowSlot.amounts :=
  Sequencing.map_numbered (f := ExecutionCommand.amounts) (g := FrameWindowSlot.amounts)
    (fun _ _ => rfl) plan.slots

/-! ## Sorting and numbering -/

/-- The four amounts of a slot, with four decimals. -/
def roundSlot (slot : FrameWindowSlot) : FrameWindowSlot :=
  { slot with
    valueMb := round4 slot.valueMb
    costMs := round4 slot.costMs
    expectedSavedMs := round4 slot.expectedSavedMs
    expectedSavedMb := round4 slot.expectedSavedMb }

/-- Numbering a slot as it is, without rounding its amounts. -/
def numberSlot (sequence : Nat) (slot : FrameWindowSlot) : FrameWindowSlot :=
  { slot with sequence }

/-- Every amount of the slot has at most four decimals. -/
def FrameWindowSlot.FourDecimals (slot : FrameWindowSlot) : Prop :=
  round4 slot.valueMb = slot.valueMb ∧ round4 slot.costMs = slot.costMs ∧
    round4 slot.expectedSavedMs = slot.expectedSavedMs ∧
    round4 slot.expectedSavedMb = slot.expectedSavedMb

/-- Rounding leaves a slot as it is exactly where its amounts have four decimals. -/
theorem roundSlot_eq_iff {slot : FrameWindowSlot} : roundSlot slot = slot ↔ slot.FourDecimals := by
  unfold roundSlot FrameWindowSlot.FourDecimals
  rw [FrameWindowSlot.ext_iff]
  simp

/-- A slot has no number before it is sorted. -/
theorem windowSlots_sequence {directives : List MemoryRouteDirective} {slot : FrameWindowSlot}
    (h : slot ∈ windowSlots directives) : numberSlot 0 slot = slot := by
  obtain ⟨directive, -, hslot⟩ := List.mem_filterMap.mp h
  unfold slotFromDirective at hslot
  obtain ⟨window, -, rfl⟩ := Option.map_eq_some_iff.mp hslot
  rfl

/-- The plan only numbers the sorted slots exactly where no amount has more than four
decimals. -/
theorem windows_resequenced_iff (directives : List MemoryRouteDirective) :
    (∃ sorted, Sequencing.StablySorted slotKey (windowSlots directives) sorted ∧
        (buildFrameWindowPlan directives).slots = numbered numberSlot sorted) ↔
      ∀ slot ∈ windowSlots directives, slot.FourDecimals := by
  have hfixed : (∃ sorted,
      Sequencing.StablySorted slotKey (windowSlots directives) sorted ∧
        numbered (fun i slot => numberSlot i (roundSlot slot))
            (sortBy slotKey (windowSlots directives)) = numbered numberSlot sorted) ↔
      ∀ slot ∈ windowSlots directives, roundSlot slot = slot :=
    Sequencing.numbered_sortBy_iff (numberSlot 0) (fun _ _ => rfl) (fun _ => rfl)
      (fun slot => by simp only [roundSlot, round4_round4]) (fun _ => windowSlots_sequence)
  simp only [roundSlot_eq_iff] at hfixed
  exact hfixed

/-- **Re-sequencing.** The slots of a window plan and the commands of a dispatch plan are
the mapped ones, stably sorted and numbered from 1 with nothing else changed, exactly when
every mapped amount has at most four decimals. -/
theorem resequenced_iff (directives : List MemoryRouteDirective)
    (arbitration : BudgetArbitrationPlan) (packet : List ExecutionCommand) :
    ((∃ sorted, Sequencing.StablySorted slotKey (windowSlots directives) sorted ∧
          (buildFrameWindowPlan directives).slots = numbered numberSlot sorted) ∧
        ∃ sorted,
          Sequencing.StablySorted dispatchKey (dispatchCommands arbitration packet) sorted ∧
          (buildRuntimeDispatchPlan arbitration packet).commands =
            numbered numberDispatch sorted) ↔
      (∀ slot ∈ windowSlots directives, slot.FourDecimals) ∧
        ∀ command ∈ dispatchCommands arbitration packet,
          round4 command.costMs = command.costMs ∧ round4 command.valueMb = command.valueMb :=
  and_congr (windows_resequenced_iff directives) (dispatch_resequenced_iff arbitration packet)

/-- A transfer whose cost has a fifth decimal. -/
def finelyTimedTransfer : MemoryRouteDirective where
  directive := .prestageCrossMemoryTransfer
  operationId := "upload_texture"
  frame := some 1
  path := "ram->vram"
  targetResourceId := some "texture"
  valueMb := 64
  costMs := 123456 / 100000
  expectedSavedMs := 0
  expectedSavedMb := 0
  rationale := "Large transfer."
  expectedEffect := "Move the transfer before the frame."

/-- Numbering the slots changes their costs. -/
theorem cost_changed_by_numbering :
    ¬ ∀ directives : List MemoryRouteDirective,
      ∃ sorted, Sequencing.StablySorted slotKey (windowSlots directives) sorted ∧
        (buildFrameWindowPlan directives).slots = numbered numberSlot sorted := by
  intro h
  have hdecimals := (windows_resequenced_iff [finelyTimedTransfer]).mp (h [finelyTimedTransfer])
  have hcost := (hdecimals _ (List.mem_singleton_self _)).2.1
  exact absurd hcost (by decide +kernel)

end FluidGateway.ControlLoop
