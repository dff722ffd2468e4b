import FluidGateway.BudgetArbitration
import FluidGateway.Lib.Histories
import FluidGateway.Lib.Sequencing

/-!
# What arbitration grants

The running totals of `build_budget_arbitration` are kept by `frame or -1` and by
window, and they count every command, granted or deferred.  So the arbitration of
a command is a function of the command, its envelope and what those before it
have charged to the same key (`commands_eq`).  Frame 0, frame -1 and no frame
share one key.
-/

namespace FluidGateway.ControlLoop

open Histories (history historyFrom within)

/-! ## Shared budgets -/

/-- Windows whose commands are charged to a budget. -/
def Window.budgeted : Window → Bool
  | .preFrame | .hotPath => true
  | _ => false

/-- The status of work that fits. -/
def Window.granted : Window → CommandStatus
  | .preFrame => .prestaged
  | _ => .admitted

/-- The limit of an envelope for a window. -/
def FrameBudgetEnvelope.limit (envelope : FrameBudgetEnvelope) : Window → ℚ
  | .preFrame => envelope.preFrameWindowMs
  | _ => envelope.maxHotPathMs

/-- The command is charged where work of the frame in the window is charged. -/
def sharing (window : Window) (frame : Option ℤ) (command : ExecutionCommand) : Bool :=
  window.budgeted && command.window = window && frameKey command.frame = frameKey frame

/-- What some commands cost together. -/
def totalCost (commands : List ExecutionCommand) : ℚ :=
  (commands.map ExecutionCommand.costMs).sum

/-- What has been charged before a command, where the command will be charged. -/
def charged (earlier : List ExecutionCommand) (command : ExecutionCommand) : ℚ :=
  totalCost (earlier.filter (sharing command.window command.frame))

/-- What the running totals say before a command. -/
def Used.before (total : Used) (command : ExecutionCommand) : ℚ :=
  match command.window with
  | .preFrame => (total.preFrame.get (frameKey command.frame)).getD 0
  | .hotPath => (total.hotPath.get (frameKey command.frame)).getD 0
  | _ => 0

/-- Running totals that say so much before a command. -/
def Used.having (command : ExecutionCommand) (amount : ℚ) : Used where
  hotPath := OrderedDict.empty.set (frameKey command.frame) amount
  preFrame := OrderedDict.empty.set (frameKey command.frame) amount

/-- The arbitration of a command before which so much has been charged. -/
def arbitrationAfter (envelope : Option FrameBudgetEnvelope) (command : ExecutionCommand)
    (before : ℚ) : CommandArbitration :=
  (arbitrateCommand command envelope (.having command before)).1

/-- Of the running totals, only what they say before the command is read. -/
theorem arbitrateCommand_fst (command : ExecutionCommand) (envelope : Option FrameBudgetEnvelope)
    (total : Used) :
    (arbitrateCommand command envelope total).1 =
      arbitrationAfter envelope command (total.before command) := by
  unfold arbitrationAfter arbitrateCommand Used.before Used.having
  cases command.window with
  | preFrame => simp only [OrderedDict.get_set, if_true, Option.getD_some]; split_ifs <;> rfl
  | hotPath => simp only [OrderedDict.get_set, if_true, Option.getD_some]; split_ifs <;> rfl
  | never => rfl
  | setup => rfl
  | other name => rfl

/-- A command is charged, whether it fits or not. -/
theorem arbitrateCommand_before (command next : ExecutionCommand)
    (envelope : Option FrameBudgetEnvelope) (total : Used) :
    (arbitrateCommand command envelope total).2.before next =
      total.before next +
        if sharing next.window next.frame command then command.costMs else 0 := by
  unfold arbitrateCommand Used.before sharing
  cases hwindow : command.window <;> cases hnext : next.window <;>
    simp only [Window.budgeted, Bool.false_and, Bool.true_and, reduceCtorEq, decide_false,
      decide_true, Bool.false_eq_true, if_false, add_zero]
  all_goals
    split_ifs <;> simp_all [OrderedDict.get_set]

/-- One command more is charged where it shares frame and window with the next, and nowhere
else. -/
theorem charged_concat (earlier : List ExecutionCommand) (command next : ExecutionCommand) :
    charged (earlier ++ [command]) next =
      charged earlier next +
        if sharing next.window next.frame command then command.costMs else 0 := by
  unfold charged totalCost
  rw [List.filter_append, List.map_append, List.sum_append]
  cases h : sharing next.window next.frame command <;> simp [h]

/-- The first command is arbitrated with the totals as they are, the others with the totals
that it leaves. -/
theorem arbitrateCommands_cons (frames : OrderedDict ℤ FrameBudgetEnvelope) (total : Used)
    (command : ExecutionCommand) (packet : List ExecutionCommand) :
    arbitrateCommands frames total (command :: packet) =
      (arbitrateCommand command (command.frame.bind frames.get) total).1 ::
        arbitrateCommands frames
          (arbitrateCommand command (command.frame.bind frames.get) total).2 packet := rfl

/-- Each command is arbitrated by what was charged before it, wherever the loop begins. The
induction is on the packet; what carries it is that the totals say of every later command
what the earlier ones were charged. -/
theorem arbitrateCommands_eq (frames : OrderedDict ℤ FrameBudgetEnvelope)
    (packet earlier : List ExecutionCommand) (total : Used)
    (h : ∀ next, total.before next = charged earlier next) :
    arbitrateCommands frames total packet =
      (historyFrom earlier packet).map fun item =>
        arbitrationAfter (item.2.frame.bind frames.get) item.2 (charged item.1 item.2) := by
  induction packet generalizing earlier total with
  | nil => rfl
  | cons command packet ih =>
      have hnext : ∀ next, (arbitrateCommand command (command.frame.bind frames.get)
          total).2.before next = charged (earlier ++ [command]) next := by
        intro next
        rw [arbitrateCommand_before, charged_concat, h]
      rw [arbitrateCommands_cons, arbitrateCommand_fst, h, ih (earlier ++ [command]) _ hnext]
      rfl

/-- **The commands of an arbitration.** Each is decided by the command, its envelope
and what has been charged before it. -/
theorem commands_eq (packet : List ExecutionCommand) (envelope : RuntimeBudgetEnvelope) :
    (buildBudgetArbitration packet envelope).commands =
      (history packet).map fun item =>
        arbitrationAfter (item.2.frame.bind (frameTable envelope.frames).get) item.2
          (charged item.1 item.2) := by
  apply arbitrateCommands_eq
  intro next
  unfold Used.before
  cases next.window <;> rfl

/-! ## One arbitration -/

/-- What a command and its arbitration have in common. -/
def ExecutionCommand.identity (command : ExecutionCommand) :
    Nat × String × Option ℤ × Window × CommandAction × ℚ :=
  (command.sequence, command.operationId, command.frame, command.window, command.action,
    command.costMs)

/-- What an arbitration repeats of its command. -/
def CommandArbitration.identity (arbitration : CommandArbitration) :
    Nat × String × Option ℤ × Window × CommandAction × ℚ :=
  (arbitration.sequence, arbitration.operationId, arbitration.frame, arbitration.window,
    arbitration.action, arbitration.costMs)

section

variable (envelope : Option FrameBudgetEnvelope) (command : ExecutionCommand) (before : ℚ)

/-- An arbitration repeats its command, whatever was charged before. -/
theorem identity_arbitrationAfter :
    (arbitrationAfter envelope command before).identity = command.identity := by
  unfold arbitrationAfter arbitrateCommand
  cases command.window with
  | preFrame => simp only; split_ifs <;> rfl
  | hotPath => simp only; split_ifs <;> rfl
  | never => rfl
  | setup => rfl
  | other name => rfl

/-- An arbitration is about the frame of its command. -/
theorem frame_arbitrationAfter :
    (arbitrationAfter envelope command before).frame = command.frame :=
  congrArg (fun identity => identity.2.2.1) (identity_arbitrationAfter envelope command before)

/-- An arbitration is about the window of its command. -/
theorem window_arbitrationAfter :
    (arbitrationAfter envelope command before).window = command.window :=
  congrArg (fun identity => identity.2.2.2.1) (identity_arbitrationAfter envelope command before)

/-- An arbitration is about the cost of its command. -/
theorem costMs_arbitrationAfter :
    (arbitrationAfter envelope command before).costMs = command.costMs :=
  congrArg (fun identity => identity.2.2.2.2.2)
    (identity_arbitrationAfter envelope command before)

variable {envelope command}

/-- In a window with a budget, what an arbitration reports as used includes its command,
also where that is deferred. -/
theorem budgetUsedMs_arbitrationAfter (h : command.window.budgeted) :
    (arbitrationAfter envelope command before).budgetUsedMs = before + command.costMs := by
  unfold arbitrationAfter arbitrateCommand Used.having
  cases hwindow : command.window <;> simp only [hwindow, Window.budgeted, Bool.false_eq_true] at h
  all_goals
    simp only [OrderedDict.get_set, if_true, Option.getD_some]
    split_ifs <;> rfl

/-- Under an envelope, work of a budgeted window is granted as long as it fits, and
deferred otherwise. -/
theorem status_arbitrationAfter {entry : FrameBudgetEnvelope} (h : command.window.budgeted) :
    (arbitrationAfter (some entry) command before).status =
      if before + command.costMs ≤ entry.limit command.window then command.window.granted
      else .deferred := by
  unfold arbitrationAfter arbitrateCommand Used.having FrameBudgetEnvelope.limit Window.granted
  cases hwindow : command.window <;> simp only [hwindow, Window.budgeted, Bool.false_eq_true] at h
  all_goals
    simp only [OrderedDict.get_set, if_true, Option.getD_some, Option.map_some]
    split_ifs <;> rfl

/-- What is granted in a window is not deferral. -/
theorem granted_ne_deferred (window : Window) : window.granted ≠ .deferred := by
  cases window <;> exact nofun

end

/-! ## Frames that share a budget -/

/-- What the other frames of the same key have charged before a command. -/
def foreignCharge (earlier : List ExecutionCommand) (command : ExecutionCommand) : ℚ :=
  totalCost (earlier.filter fun other =>
    sharing command.window command.frame other && other.frame ≠ command.frame)

/-- What other frames have charged before each command of a frame. -/
def foreignCharges (frame : Option ℤ) (packet : List ExecutionCommand) : List ℚ :=
  ((history packet).filter fun item => item.2.frame = frame).map fun item =>
    foreignCharge item.1 item.2

/-- What an arbitration says beyond its command. -/
def CommandArbitration.verdict (arbitration : CommandArbitration) :
    Decision × CommandStatus × ℚ × ℚ :=
  (arbitration.decision, arbitration.status, arbitration.budgetUsedMs,
    arbitration.budgetLimitMs)

/-- What the commands of a frame are told. -/
def verdicts (frame : Option ℤ) (plan : BudgetArbitrationPlan) :
    List (Decision × CommandStatus × ℚ × ℚ) :=
  (plan.commands.filter fun arbitration => arbitration.frame = frame).map
    CommandArbitration.verdict

/-- The verdicts of a frame, by what was charged before each of its commands. -/
theorem verdicts_eq (frame : Option ℤ) (packet : List ExecutionCommand)
    (envelope : RuntimeBudgetEnvelope) :
    verdicts frame (buildBudgetArbitration packet envelope) =
      ((history packet).filter fun item => item.2.frame = frame).map fun item =>
        (arbitrationAfter (frame.bind (frameTable envelope.frames).get) item.2
          (charged item.1 item.2)).verdict := by
  have hframe : ((fun arbitration : CommandArbitration => decide (arbitration.frame = frame)) ∘
      fun item : List ExecutionCommand × ExecutionCommand =>
        arbitrationAfter (item.2.frame.bind (frameTable envelope.frames).get) item.2
          (charged item.1 item.2)) = fun item => decide (item.2.frame = frame) := by
    funext item
    exact congrArg (fun other : Option ℤ => decide (other = frame))
      (frame_arbitrationAfter _ _ _)
  unfold verdicts
  rw [commands_eq, List.filter_map, List.map_map, hframe]
  apply List.map_congr_left
  intro item hitem
  rw [← of_decide_eq_true (List.mem_filter.mp hitem).2]
  rfl

/-- What has been charged is what the frame itself and what the others have charged. -/
theorem charged_eq (earlier : List ExecutionCommand) (command : ExecutionCommand) :
    charged earlier command =
      charged (earlier.filter fun other => other.frame = command.frame) command +
        foreignCharge earlier command := by
  unfold charged foreignCharge totalCost
  induction earlier with
  | nil => simp
  | cons other earlier ih =>
      by_cases hframe : other.frame = command.frame
      · cases hshares : sharing command.window command.frame other <;>
          simp [hframe, hshares, ih, add_assoc]
      · cases hshares : sharing command.window command.frame other <;>
          simp [hframe, hshares, ih, add_left_comm]

/-- Work that is charged to no budget shares none. -/
theorem foreignCharge_of_not_budgeted {command : ExecutionCommand}
    (h : ¬ command.window.budgeted = true) (earlier : List ExecutionCommand) :
    foreignCharge earlier command = 0 := by
  unfold foreignCharge sharing
  simp [h, totalCost]

/-- A frame with a key of its own shares no budget. -/
theorem foreignCharge_of_own_key {command : ExecutionCommand}
    (h : ∀ frame, frameKey frame = frameKey command.frame → frame = command.frame)
    (earlier : List ExecutionCommand) : foreignCharge earlier command = 0 := by
  have hnone : (earlier.filter fun other =>
      sharing command.window command.frame other && other.frame ≠ command.frame) = [] := by
    apply List.filter_eq_nil_iff.mpr
    intro other _ hshares
    simp only [sharing, Bool.and_eq_true, decide_eq_true_eq] at hshares
    exact hshares.2 (h other.frame hshares.1.2)
  unfold foreignCharge
  rw [hnone]
  rfl

/-- The key of every frame but 0 and -1 is its own. -/
theorem frameKey_injective {f : ℤ} (hzero : f ≠ 0) (hneg : f ≠ -1) (frame : Option ℤ)
    (h : frameKey frame = frameKey (some f)) : frame = some f := by
  unfold frameKey at h
  cases frame with
  | none => simp only [if_neg hzero] at h; exact absurd h.symm hneg
  | some g =>
      simp only [if_neg hzero] at h
      split_ifs at h with hg
      · exact absurd h.symm hneg
      · exact congrArg some h

/-- **Frames and shared keys.** Where two packets have the same commands for a frame and
two envelopes the same entry, the frame is told the same exactly when the frames that
share its key have charged the same before each of its commands. -/
theorem verdicts_eq_iff {packet packet' : List ExecutionCommand}
    {envelope envelope' : RuntimeBudgetEnvelope} {frame : Option ℤ}
    (hcommands : packet.filter (fun command => command.frame = frame) =
      packet'.filter fun command => command.frame = frame)
    (hentry : frame.bind (frameTable envelope.frames).get =
      frame.bind (frameTable envelope'.frames).get) :
    verdicts frame (buildBudgetArbitration packet envelope) =
        verdicts frame (buildBudgetArbitration packet' envelope') ↔
      foreignCharges frame packet = foreignCharges frame packet' := by
  rw [verdicts_eq, verdicts_eq, hentry]
  apply Histories.map_eq_map_iff (γ := List ExecutionCommand × ExecutionCommand)
  · exact (Histories.map_filter_history _ packet).trans
      ((congrArg history hcommands).trans (Histories.map_filter_history _ packet').symm)
  · intro item hitem item' hitem' hown
    obtain ⟨earlier, command⟩ := item
    obtain ⟨earlier', command'⟩ := item'
    obtain ⟨hearlier, rfl⟩ := Prod.mk.inj hown
    obtain rfl : command.frame = frame := of_decide_eq_true (List.mem_filter.mp hitem).2
    constructor
    · intro hverdict
      have hused := congrArg (fun verdict => verdict.2.2.1) hverdict
      by_cases hbudgeted : command.window.budgeted = true
      · change CommandArbitration.budgetUsedMs _ = CommandArbitration.budgetUsedMs _ at hused
        rw [budgetUsedMs_arbitrationAfter _ hbudgeted, budgetUsedMs_arbitrationAfter _ hbudgeted,
          charged_eq earlier, charged_eq earlier', hearlier] at hused
        exact add_left_cancel (add_right_cancel hused)
      · exact (foreignCharge_of_not_budgeted hbudgeted earlier).trans
          (foreignCharge_of_not_budgeted hbudgeted earlier').symm
    · intro hforeign
      have hcharged : charged earlier command = charged earlier' command := by
        rw [charged_eq earlier, charged_eq earlier', hearlier]
        exact congrArg _ hforeign
      exact congrArg (fun before => (arbitrationAfter _ command before).verdict) hcharged

/-- A command on the hot path of a frame. -/
def hotPathWork (frame : Option ℤ) (costMs : ℚ) : ExecutionCommand where
  sequence := 1
  action := .executeProtected
  window := .hotPath
  phase := .present
  operationId := "present"
  frame := frame
  path := "vram->swapchain"
  targetResourceId := none
  valueMb := 0
  costMs := costMs
  expectedSavedMs := 0
  expectedSavedMb := 0
  sourceDirective := .protectPresentationRoute
  reason := "Presentation work."

/-- Ten milliseconds of hot path for one frame. -/
def tenFor (frame : ℤ) : RuntimeBudgetEnvelope where
  profile := .stable
  nextFramePolicy := "maintain-current-envelope"
  frames := [{ frame, maxHotPathMs := 10, copyQueueBudgetMs := 0, preFrameWindowMs := 0 }]
  memoryLayers := []

/-- Work of another frame before that of frame 1 does not change the verdict on it. -/
theorem verdicts_eq_iff_frame_one :
    [hotPathWork (some 2) 8, hotPathWork (some 1) 5].filter (fun c => c.frame = some 1) =
        [hotPathWork (some 1) 5].filter (fun c => c.frame = some 1) ∧
      (verdicts (some 1) (buildBudgetArbitration [hotPathWork (some 2) 8, hotPathWork (some 1) 5]
          (tenFor 1)) =
        verdicts (some 1) (buildBudgetArbitration [hotPathWork (some 1) 5] (tenFor 1)) ↔
      foreignCharges (some 1) [hotPathWork (some 2) 8, hotPathWork (some 1) 5] =
        foreignCharges (some 1) [hotPathWork (some 1) 5]) :=
  ⟨rfl, verdicts_eq_iff rfl rfl⟩

/-- Work of no frame is charged to frame 0. -/
theorem frame_zero_charged :
    ¬ ∀ (packet packet' : List ExecutionCommand) (envelope envelope' : RuntimeBudgetEnvelope)
      (frame : Option ℤ),
      packet.filter (fun command => command.frame = frame) =
        packet'.filter (fun command => command.frame = frame) →
      frame.bind (frameTable envelope.frames).get = frame.bind (frameTable envelope'.frames).get →
      verdicts frame (buildBudgetArbitration packet envelope) =
        verdicts frame (buildBudgetArbitration packet' envelope') := by
  intro h
  have hsame := h [hotPathWork none 8, hotPathWork (some 0) 5] [hotPathWork (some 0) 5] (tenFor 0)
    (tenFor 0) (some 0) (by decide) rfl
  exact absurd hsame (by decide +kernel)

/-! ## What a frame is granted -/

/-- The arbitrations of a frame's work in a window that were granted. -/
def grantedWork (frame : ℤ) (window : Window) (commands : List CommandArbitration) :
    List CommandArbitration :=
  commands.filter fun arbitration =>
    arbitration.frame = some frame ∧ arbitration.window = window ∧
      arbitration.status = window.granted

/-- What the granted work of a frame in a window costs. -/
def grantedCost (frame : ℤ) (window : Window) (commands : List CommandArbitration) : ℚ :=
  ((grantedWork frame window commands).map CommandArbitration.costMs).sum

/-- The longest initial part of the work charged to a budget that stays within a limit. -/
def fitting (limit : ℚ) (window : Window) (frame : ℤ) (packet : List ExecutionCommand) :
    List ExecutionCommand :=
  within ExecutionCommand.costMs limit 0 (packet.filter (sharing window (some frame)))

/-- The part of it that is the frame's own. -/
def fittingOwn (limit : ℚ) (window : Window) (frame : ℤ) (packet : List ExecutionCommand) :
    List ExecutionCommand :=
  (fitting limit window frame packet).filter fun command => command.frame = some frame

/-- One command more at the end adds its arbitration and changes none of the others. -/
theorem commands_concat (packet : List ExecutionCommand) (command : ExecutionCommand)
    (envelope : RuntimeBudgetEnvelope) :
    (buildBudgetArbitration (packet ++ [command]) envelope).commands =
      (buildBudgetArbitration packet envelope).commands ++
        [arbitrationAfter (command.frame.bind (frameTable envelope.frames).get) command
          (charged packet command)] := by
  rw [commands_eq, commands_eq, Histories.history_concat, List.map_append]
  rfl

/-- Arbitration of a packet begins with the arbitration of its beginning. -/
theorem commands_append (packet later : List ExecutionCommand)
    (envelope : RuntimeBudgetEnvelope) :
    ∃ rest, (buildBudgetArbitration (packet ++ later) envelope).commands =
      (buildBudgetArbitration packet envelope).commands ++ rest := by
  rw [commands_eq, commands_eq, Histories.history_append, List.map_append]
  exact ⟨_, rfl⟩

/-- The next command fits exactly when all that has been charged leaves room for it. -/
theorem fittingOwn_concat {limit : ℚ} {window : Window} (hbudgeted : window.budgeted) (frame : ℤ)
    {packet : List ExecutionCommand} {command : ExecutionCommand}
    (hpacket : ∀ other ∈ packet, 0 ≤ other.costMs) (hcommand : 0 ≤ command.costMs) :
    fittingOwn limit window frame (packet ++ [command]) =
      fittingOwn limit window frame packet ++
        if command.frame = some frame ∧ command.window = window ∧
            charged packet command + command.costMs ≤ limit then [command] else [] := by
  have hsharing : ∀ other ∈ packet.filter (sharing window (some frame)), 0 ≤ other.costMs :=
    fun other hother => hpacket other (List.mem_filter.mp hother).1
  unfold fittingOwn fitting
  rw [List.filter_append]
  cases hshares : sharing window (some frame) command with
  | false =>
      have hother : ¬ (command.frame = some frame ∧ command.window = window ∧
          charged packet command + command.costMs ≤ limit) := by
        intro hown
        simp [sharing, hbudgeted, hown.1, hown.2.1] at hshares
      rw [List.filter_cons_of_neg (by simp [hshares]), List.filter_nil, List.append_nil,
        if_neg hother, List.append_nil]
  | true =>
      rw [List.filter_cons_of_pos hshares, List.filter_nil,
        Histories.within_concat _ _ hsharing hcommand, List.filter_append, zero_add]
      congr 1
      by_cases hframe : command.frame = some frame
      · have hwindow : command.window = window := by
          simp only [sharing, Bool.and_eq_true, decide_eq_true_eq] at hshares
          exact hshares.1.2
        have hcharged : charged packet command =
            ((packet.filter (sharing window (some frame))).map ExecutionCommand.costMs).sum := by
          unfold charged totalCost
          rw [hframe, hwindow]
        rw [← hcharged]
        by_cases hfits : charged packet command + command.costMs ≤ limit
        · rw [if_pos hfits, if_pos ⟨hframe, hwindow, hfits⟩]
          exact List.filter_cons_of_pos (decide_eq_true hframe)
        · rw [if_neg hfits, if_neg fun h => hfits h.2.2]
          rfl
      · rw [if_neg fun h : _ ∧ _ => hframe h.1]
        split_ifs
        · exact List.filter_cons_of_neg (by simpa using hframe)
        · rfl

section

variable {envelope : RuntimeBudgetEnvelope} {frame : ℤ} {entry : FrameBudgetEnvelope}
  {window : Window} (hentry : (frameTable envelope.frames).get frame = some entry)
  (hbudgeted : window.budgeted)

include hentry hbudgeted

/-- One command is granted when it is the frame's, in the window, and fits. -/
theorem grantedWork_arbitrationAfter (command : ExecutionCommand) (before : ℚ) :
    (grantedWork frame window [arbitrationAfter
        (command.frame.bind (frameTable envelope.frames).get) command before]).map
          CommandArbitration.costMs =
      (if command.frame = some frame ∧ command.window = window ∧
          before + command.costMs ≤ entry.limit window then [command] else []).map
        ExecutionCommand.costMs := by
  unfold grantedWork
  by_cases hown : command.frame = some frame ∧ command.window = window
  · obtain ⟨hframe, rfl⟩ := hown
    rw [hframe, Option.bind_some, hentry]
    by_cases hfits : before + command.costMs ≤ entry.limit command.window
    · rw [if_pos ⟨rfl, rfl, hfits⟩, List.filter_cons_of_pos]
      · exact congrArg (fun cost => [cost]) (costMs_arbitrationAfter _ _ _)
      · rw [frame_arbitrationAfter, window_arbitrationAfter,
          status_arbitrationAfter _ hbudgeted, if_pos hfits]
        exact decide_eq_true ⟨hframe, rfl, rfl⟩
    · rw [if_neg fun h => hfits h.2.2, List.filter_cons_of_neg]
      · rfl
      · rw [status_arbitrationAfter _ hbudgeted, if_neg hfits]
        simpa using fun _ _ => (granted_ne_deferred command.window).symm
  · rw [if_neg fun h => hown ⟨h.1, h.2.1⟩, List.filter_cons_of_neg]
    · rfl
    · rw [frame_arbitrationAfter, window_arbitrationAfter]
      simpa using fun hframe hwindow _ => hown ⟨hframe, hwindow⟩

/-- Where no cost is negative, a frame is granted its own part of the longest initial
part that fits. -/
theorem grantedWork_eq {packet : List ExecutionCommand}
    (hcosts : ∀ command ∈ packet, 0 ≤ command.costMs) :
    (grantedWork frame window (buildBudgetArbitration packet envelope).commands).map
        CommandArbitration.costMs =
      (fittingOwn (entry.limit window) window frame packet).map ExecutionCommand.costMs := by
  induction packet using List.reverseRecOn with
  | nil => rfl
  | append_singleton packet command ih =>
      have hpacket : ∀ other ∈ packet, 0 ≤ other.costMs := fun other hother =>
        hcosts other (List.mem_append_left _ hother)
      have hcommand : 0 ≤ command.costMs :=
        hcosts command (List.mem_append_right _ (List.mem_singleton_self command))
      have hlast := grantedWork_arbitrationAfter hentry hbudgeted command (charged packet command)
      rw [commands_concat, fittingOwn_concat hbudgeted frame hpacket hcommand, List.map_append,
        ← ih hpacket, ← hlast]
      unfold grantedWork
      rw [List.filter_append, List.map_append]

/-- What is granted to a frame in a window stays within its limit. -/
theorem grantedCost_le {packet : List ExecutionCommand}
    (hcosts : ∀ command ∈ packet, 0 ≤ command.costMs)
    (hsome : grantedWork frame window (buildBudgetArbitration packet envelope).commands ≠ []) :
    grantedCost frame window (buildBudgetArbitration packet envelope).commands ≤
      entry.limit window := by
  have hgranted := grantedWork_eq hentry hbudgeted hcosts
  have hfitting : fitting (entry.limit window) window frame packet ≠ [] := by
    intro hnone
    unfold fittingOwn at hgranted
    rw [hnone] at hgranted
    exact hsome (List.map_eq_nil_iff.mp hgranted)
  have hfits : ∀ command ∈ fitting (entry.limit window) window frame packet,
      0 ≤ command.costMs := fun command hcommand =>
    hcosts command (List.mem_filter.mp
      ((Histories.within_sublist _ _ _ _).subset hcommand)).1
  calc grantedCost frame window (buildBudgetArbitration packet envelope).commands
      = totalCost (fittingOwn (entry.limit window) window frame packet) := by
        unfold grantedCost totalCost
        rw [hgranted]
    _ ≤ totalCost (fitting (entry.limit window) window frame packet) := by
        apply List.Sublist.sum_le_sum (List.filter_sublist.map _)
        intro cost hcost
        obtain ⟨command, hcommand, rfl⟩ := List.mem_map.mp hcost
        exact hfits command hcommand
    _ ≤ entry.limit window := by
        have htotal := Histories.within_total _ _ hfitting
        rwa [zero_add] at htotal

end

/-- An enveloped frame is found under its number, where the numbers are distinct. -/
theorem frameTable_get {frames : List FrameBudgetEnvelope} {entry : FrameBudgetEnvelope}
    (hdistinct : (frames.map FrameBudgetEnvelope.frame).Nodup) (hmem : entry ∈ frames) :
    (frameTable frames).get entry.frame = some entry :=
  OrderedDict.get_foldl_set_of_mem hdistinct hmem .empty

/-- Every arbitration has one of the four statuses. -/
theorem countStatus_add (commands : List CommandArbitration) :
    countStatus commands .admitted + countStatus commands .deferred +
        countStatus commands .dropped + countStatus commands .prestaged = commands.length := by
  unfold countStatus
  induction commands with
  | nil => rfl
  | cons arbitration commands ih =>
      simp only [List.countP_cons, List.length_cons]
      cases arbitration.status <;> simp <;> omega

/-- The arbitrations repeat the commands of the packet, in their order. -/
theorem identity_commands (packet : List ExecutionCommand) (envelope : RuntimeBudgetEnvelope) :
    (buildBudgetArbitration packet envelope).commands.map CommandArbitration.identity =
      packet.map ExecutionCommand.identity := by
  rw [commands_eq, List.map_map]
  calc (history packet).map _
      = (history packet).map (ExecutionCommand.identity ∘ Prod.snd) :=
        List.map_congr_left fun item _ => identity_arbitrationAfter _ _ _
    _ = packet.map ExecutionCommand.identity := by
        rw [← List.map_map, Histories.map_history]

/-- Work that was granted is among the granted work. -/
theorem grantedWork_ne_nil {frame : ℤ} {window : Window} {commands : List CommandArbitration}
    (h : ∃ arbitration ∈ commands, arbitration.frame = some frame ∧
      arbitration.window = window ∧ arbitration.status = window.granted) :
    grantedWork frame window commands ≠ [] := by
  obtain ⟨arbitration, hmem, hown⟩ := h
  exact List.ne_nil_of_mem (List.mem_filter.mpr ⟨hmem, decide_eq_true hown⟩)

/-- **No frame is over-committed.** Where no cost is negative, what is admitted to an
enveloped frame's hot path stays within its budget, and what is prestaged for it within
its window; and every command is there once, in order, with one status. -/
theorem arbitration_within_budget {packet : List ExecutionCommand}
    {envelope : RuntimeBudgetEnvelope} (hcosts : ∀ command ∈ packet, 0 ≤ command.costMs)
    (hdistinct : (envelope.frames.map FrameBudgetEnvelope.frame).Nodup) :
    (∀ entry ∈ envelope.frames,
      ((∃ arbitration ∈ (buildBudgetArbitration packet envelope).commands,
          arbitration.frame = some entry.frame ∧ arbitration.window = .hotPath ∧
            arbitration.status = .admitted) →
        grantedCost entry.frame .hotPath (buildBudgetArbitration packet envelope).commands ≤
          entry.maxHotPathMs) ∧
      (((∃ arbitration ∈ (buildBudgetArbitration packet envelope).commands,
          arbitration.frame = some entry.frame ∧ arbitration.window = .preFrame ∧
            arbitration.status = .prestaged) ∨ 0 ≤ entry.preFrameWindowMs) →
        grantedCost entry.frame .preFrame (buildBudgetArbitration packet envelope).commands ≤
          entry.preFrameWindowMs)) ∧
    (buildBudgetArbitration packet envelope).commands.map CommandArbitration.identity =
      packet.map ExecutionCommand.identity ∧
    (buildBudgetArbitration packet envelope).admittedCount +
        (buildBudgetArbitration packet envelope).deferredCount +
        (buildBudgetArbitration packet envelope).droppedCount +
        (buildBudgetArbitration packet envelope).prestagedCount = packet.length := by
  have hidentity := identity_commands packet envelope
  refine ⟨?_, hidentity, ?_⟩
  · intro entry hmem
    have hentry := frameTable_get hdistinct hmem
    refine ⟨?_, ?_⟩
    · intro hsome
      exact grantedCost_le hentry rfl hcosts (grantedWork_ne_nil hsome)
    · intro hwindow
      by_cases hnone : grantedWork entry.frame .preFrame
          (buildBudgetArbitration packet envelope).commands = []
      · have hnonneg : 0 ≤ entry.preFrameWindowMs := by
          obtain hsome | hnonneg := hwindow
          · exact absurd hnone (grantedWork_ne_nil hsome)
          · exact hnonneg
        unfold grantedCost
        rw [hnone]
        exact hnonneg
      · exact grantedCost_le hentry rfl hcosts hnone
  · have hlength := congrArg List.length hidentity
    rw [List.length_map, List.length_map] at hlength
    exact (countStatus_add _).trans hlength

/-- Two commands of 4 and 5 are granted within a limit of 10. -/
theorem arbitration_within_budget_ten :
    grantedCost 1 .hotPath
        (buildBudgetArbitration [hotPathWork (some 1) 4, hotPathWork (some 1) 5] (tenFor 1)).commands ≤
      10 :=
  ((@arbitration_within_budget [hotPathWork (some 1) 4, hotPathWork (some 1) 5] (tenFor 1)
    (by decide) (List.nodup_singleton _)).1 _ (List.mem_singleton_self _)).1
      (by decide +kernel)

/-- A negative window is exceeded by prestaging nothing. -/
theorem negative_window_exceeded :
    ¬ ∀ (packet : List ExecutionCommand) (envelope : RuntimeBudgetEnvelope),
      (∀ command ∈ packet, 0 ≤ command.costMs) →
      (envelope.frames.map FrameBudgetEnvelope.frame).Nodup →
      ∀ entry ∈ envelope.frames,
        grantedCost entry.frame .preFrame (buildBudgetArbitration packet envelope).commands ≤
          entry.preFrameWindowMs := by
  intro h
  have hwindow := h []
    { tenFor 1 with
      frames := [{ frame := 1, maxHotPathMs := 10, copyQueueBudgetMs := 0, preFrameWindowMs := -1 }] }
    (List.forall_mem_nil _) (List.nodup_singleton _) _ (List.mem_singleton_self _)
  exact absurd hwindow (by decide)

/-! ## What is deferred -/

/-- The arbitration of a packet, around one of its commands. -/
theorem commands_split (earlier later : List ExecutionCommand) (command : ExecutionCommand)
    (envelope : RuntimeBudgetEnvelope) :
    ∃ rest, (buildBudgetArbitration (earlier ++ command :: later) envelope).commands =
      (buildBudgetArbitration earlier envelope).commands ++
        arbitrationAfter (command.frame.bind (frameTable envelope.frames).get) command
          (charged earlier command) :: rest := by
  obtain ⟨rest, hrest⟩ := commands_append (earlier ++ [command]) later envelope
  rw [commands_concat, List.append_assoc, List.append_assoc] at hrest
  exact ⟨rest, hrest⟩

/-- A command under an envelope is deferred exactly where it goes over the limit with what
was charged before it. -/
theorem deferred_arbitrationAfter {command : ExecutionCommand} {entry : FrameBudgetEnvelope}
    (hbudgeted : command.window.budgeted) (before : ℚ) :
    (arbitrationAfter (some entry) command before).status = .deferred ↔
      entry.limit command.window < before + command.costMs := by
  rw [status_arbitrationAfter _ hbudgeted, ← not_le]
  split_ifs with hfits
  · exact iff_of_false (granted_ne_deferred _) (not_not_intro hfits)
  · exact iff_of_true rfl hfits

/-- The limit that a command is held to: that of its frame, or its own cost where the
frame has no envelope. -/
def commandLimit (envelope : RuntimeBudgetEnvelope) (command : ExecutionCommand) : ℚ :=
  ((command.frame.bind (frameTable envelope.frames).get).map fun entry =>
    entry.limit command.window).getD command.costMs

/-- A command of an enveloped frame is held to its frame's limit. -/
theorem commandLimit_eq {envelope : RuntimeBudgetEnvelope} {command : ExecutionCommand}
    {frame : ℤ} {entry : FrameBudgetEnvelope} (hframe : command.frame = some frame)
    (hentry : (frameTable envelope.frames).get frame = some entry) :
    commandLimit envelope command = entry.limit command.window := by
  unfold commandLimit
  rw [hframe, Option.bind_some, hentry]
  rfl

/-- What is charged before a command defers it exactly when the sum is over its limit. -/
theorem status_deferred_iff {envelope : RuntimeBudgetEnvelope} {command : ExecutionCommand}
    (hbudgeted : command.window.budgeted) (before : ℚ) :
    (arbitrationAfter (command.frame.bind (frameTable envelope.frames).get) command
        before).status = .deferred ↔
      commandLimit envelope command < before + command.costMs := by
  unfold commandLimit
  cases command.frame.bind (frameTable envelope.frames).get with
  | some entry => exact deferred_arbitrationAfter hbudgeted before
  | none =>
      unfold arbitrationAfter arbitrateCommand Used.having
      cases hwindow : command.window <;>
        simp only [hwindow, Window.budgeted, Bool.false_eq_true] at hbudgeted
      all_goals
        simp only [OrderedDict.get_set, if_true, Option.getD_some, Option.map_none,
          Option.getD_none]
        split_ifs with hfits
        · exact iff_of_false (fun h => CommandStatus.noConfusion h) (not_lt.mpr hfits)
        · exact iff_of_true rfl (not_le.mp hfits)

/-- What was not deferred of the work that is charged with a frame's in a window. -/
def grantedCharge (frame : ℤ) (window : Window) (commands : List CommandArbitration) : ℚ :=
  ((commands.filter fun arbitration =>
    arbitration.window = window ∧ frameKey arbitration.frame = frameKey (some frame) ∧
      arbitration.status ≠ .deferred).map CommandArbitration.costMs).sum

/-- What deferring work is to do: a command is deferred only where it does not fit beside
what its frame has been granted before it, and of the budget it is told to be used,
nothing is that of deferred work. -/
structure SparesBudget (frame : ℤ) (entry : FrameBudgetEnvelope)
    (before : List CommandArbitration) (arbitration : CommandArbitration) : Prop where
  full : arbitration.status = .deferred →
    entry.limit arbitration.window <
      grantedCost frame arbitration.window before + arbitration.costMs
  spared : arbitration.budgetUsedMs =
    grantedCharge frame arbitration.window before + arbitration.costMs

/-- Whatever costs something and is charged where the command will be has kept the running
total within its limit. -/
def KeptWithin (envelope : RuntimeBudgetEnvelope) (earlier : List ExecutionCommand)
    (command : ExecutionCommand) : Prop :=
  ∀ item ∈ history earlier, sharing command.window command.frame item.2 = true →
    0 < item.2.costMs → charged item.1 item.2 + item.2.costMs ≤ commandLimit envelope item.2

/-- What the frame of a command itself has charged before it. -/
def ownCharge (earlier : List ExecutionCommand) (command : ExecutionCommand) : ℚ :=
  charged (earlier.filter fun other => other.frame = command.frame) command

/-- The work before a command has stayed within its limits, and other frames of the same
key do not make the difference between room for the command and none. -/
def StaysWithin (envelope : RuntimeBudgetEnvelope) (earlier : List ExecutionCommand)
    (command : ExecutionCommand) : Prop :=
  KeptWithin envelope earlier command ∧
    (charged earlier command + command.costMs ≤ commandLimit envelope command ∨
      commandLimit envelope command < ownCharge earlier command + command.costMs)

instance (envelope : RuntimeBudgetEnvelope) (earlier : List ExecutionCommand)
    (command : ExecutionCommand) : Decidable (KeptWithin envelope earlier command) :=
  inferInstanceAs (Decidable (∀ item ∈ history earlier, _ → _ → _))

instance (envelope : RuntimeBudgetEnvelope) (earlier : List ExecutionCommand)
    (command : ExecutionCommand) : Decidable (StaysWithin envelope earlier command) :=
  inferInstanceAs (Decidable (_ ∧ _))

section

variable {envelope : RuntimeBudgetEnvelope} {earlier : List ExecutionCommand}
  {command : ExecutionCommand} {frame : ℤ}

/-- A total over some commands, told from the histories. -/
theorem totalCost_filter (p : ExecutionCommand → Bool) (earlier : List ExecutionCommand) :
    totalCost (earlier.filter p) = ((history earlier).map fun item =>
      if p item.2 = true then item.2.costMs else 0).sum := by
  have hsum := Sequencing.sum_filter (fun other => p other = true) ExecutionCommand.costMs earlier
  simp only [Bool.decide_eq_true] at hsum
  unfold totalCost
  rw [hsum]
  nth_rewrite 1 [← Histories.map_history earlier]
  rw [List.map_map]
  rfl

/-- A total over some arbitrations of a packet, told from the histories. -/
theorem sum_commands (p : CommandArbitration → Prop) [DecidablePred p]
    (earlier : List ExecutionCommand) (envelope : RuntimeBudgetEnvelope) :
    (((buildBudgetArbitration earlier envelope).commands.filter fun arbitration =>
        p arbitration).map CommandArbitration.costMs).sum =
      ((history earlier).map fun item =>
        if p (arbitrationAfter (item.2.frame.bind (frameTable envelope.frames).get) item.2
          (charged item.1 item.2)) then item.2.costMs else 0).sum := by
  rw [Sequencing.sum_filter, commands_eq, List.map_map]
  refine congrArg List.sum (List.map_congr_left fun item _ => ?_)
  rw [Function.comp_apply, costMs_arbitrationAfter]

/-- A command is charged in a frame's window exactly where it is of that window and has the
key of the frame. -/
theorem sharing_iff {window : Window} (hbudgeted : window.budgeted) (other : ExecutionCommand) :
    sharing window (some frame) other = true ↔
      other.window = window ∧ frameKey other.frame = frameKey (some frame) := by
  unfold sharing
  rw [hbudgeted, Bool.true_and, Bool.and_eq_true, decide_eq_true_iff, decide_eq_true_iff]

/-- If no command costs less than nothing, neither does one with its history. -/
theorem history_nonneg (hcosts : ∀ other ∈ earlier, 0 ≤ other.costMs) :
    ∀ item ∈ history earlier, 0 ≤ item.2.costMs := by
  intro item hitem
  obtain ⟨later, hlater⟩ := Histories.mem_history hitem
  exact hcosts item.2 (hlater ▸ List.mem_append_right _ List.mem_cons_self)

/-- Deferred work has used up nothing exactly when what costs something has stayed within
its limits. -/
theorem grantedCharge_eq_iff (hcosts : ∀ other ∈ earlier, 0 ≤ other.costMs)
    (hbudgeted : command.window.budgeted) (hframe : command.frame = some frame) :
    grantedCharge frame command.window (buildBudgetArbitration earlier envelope).commands =
        charged earlier command ↔ KeptWithin envelope earlier command := by
  have hitem := history_nonneg hcosts
  have hshares := fun other : ExecutionCommand => @sharing_iff frame _ hbudgeted other
  have hcharged : charged earlier command = ((history earlier).map fun item =>
      if sharing command.window (some frame) item.2 = true then item.2.costMs else 0).sum := by
    rw [← hframe]
    exact totalCost_filter _ earlier
  unfold grantedCharge
  rw [sum_commands, hcharged, Sequencing.sum_map_eq_iff]
  · refine forall₂_congr fun item hmem => ?_
    simp only [window_arbitrationAfter, frame_arbitrationAfter, hframe]
    by_cases hsharing : sharing command.window (some frame) item.2 = true
    · obtain ⟨hwindow, hkey⟩ := (hshares item.2).mp hsharing
      have hfits : ¬ (arbitrationAfter (item.2.frame.bind (frameTable envelope.frames).get) item.2
          (charged item.1 item.2)).status = .deferred ↔
            charged item.1 item.2 + item.2.costMs ≤ commandLimit envelope item.2 := by
        rw [status_deferred_iff (by rw [hwindow]; exact hbudgeted), not_lt]
      simp only [hsharing, hwindow, hkey, if_true, true_and, hfits, forall_const]
      constructor
      · intro hsame hpositive
        by_contra hover
        rw [if_neg hover] at hsame
        exact hpositive.ne hsame
      · intro hkept
        split_ifs with hwithin
        · rfl
        · exact (hitem item hmem).lt_or_eq.resolve_left fun hpositive =>
            hwithin (hkept hpositive)
    · rw [if_neg hsharing, if_neg fun h => hsharing ((hshares item.2).mpr ⟨h.1, h.2.1⟩)]
      exact iff_of_true rfl fun h => absurd h hsharing
  · intro item hmem
    simp only [window_arbitrationAfter, frame_arbitrationAfter]
    split_ifs with hgranted hsharing hsharing
    · exact le_rfl
    · exact absurd ((hshares item.2).mpr ⟨hgranted.1, hgranted.2.1⟩) hsharing
    · exact hitem item hmem
    · exact le_rfl

/-- Where what costs something has stayed within its limits, a frame has been granted all
that it has charged. -/
theorem grantedCost_eq_ownCharge {entry : FrameBudgetEnvelope}
    (hcosts : ∀ other ∈ earlier, 0 ≤ other.costMs) (hbudgeted : command.window.budgeted)
    (hframe : command.frame = some frame)
    (hentry : (frameTable envelope.frames).get frame = some entry)
    (hkept : KeptWithin envelope earlier command) :
    grantedCost frame command.window (buildBudgetArbitration earlier envelope).commands =
      ownCharge earlier command := by
  have hitem := history_nonneg hcosts
  unfold grantedCost grantedWork ownCharge charged
  rw [sum_commands, List.filter_filter, totalCost_filter]
  refine congrArg List.sum (List.map_congr_left fun item hmem => ?_)
  simp only [window_arbitrationAfter, frame_arbitrationAfter, hframe, Bool.and_eq_true,
    decide_eq_true_iff, @sharing_iff frame _ hbudgeted]
  by_cases hown : item.2.frame = some frame ∧ item.2.window = command.window
  · obtain ⟨hsame, hwindow⟩ := hown
    have hlimit := commandLimit_eq hsame hentry
    have hstatus := @status_arbitrationAfter item.2 (charged item.1 item.2) entry
      (by rw [hwindow]; exact hbudgeted)
    have hcharged : sharing command.window command.frame item.2 = true := by
      rw [hframe]
      exact (sharing_iff hbudgeted item.2).mpr ⟨hwindow, by rw [hsame]⟩
    rw [hsame, Option.bind_some, hentry, hstatus, if_pos (show _ ∧ _ from ⟨⟨hwindow, rfl⟩, rfl⟩)]
    by_cases hfits : charged item.1 item.2 + item.2.costMs ≤ entry.limit item.2.window
    · rw [if_pos hfits, hwindow]
      exact if_pos ⟨rfl, rfl, rfl⟩
    · have hzero : item.2.costMs = 0 := by
        refine ((hitem item hmem).lt_or_eq.resolve_left fun hpositive => hfits ?_).symm
        rw [← hlimit]
        exact hkept item hmem hcharged hpositive
      rw [hzero, ite_self]
  · rw [if_neg fun h => hown ⟨h.1, h.2.1⟩, if_neg fun h => hown ⟨h.2, h.1.1⟩]

/-- One command more keeps within the limit exactly where the earlier ones do and it does
itself, if it is charged at all. -/
theorem keptWithin_concat (other : ExecutionCommand) :
    KeptWithin envelope (earlier ++ [other]) command ↔ KeptWithin envelope earlier command ∧
      (sharing command.window command.frame other = true → 0 < other.costMs →
        charged earlier other + other.costMs ≤ commandLimit envelope other) := by
  unfold KeptWithin
  rw [Histories.history_concat, List.forall_mem_append, List.forall_mem_singleton]

/-- Commands that cost at least nothing do so together. -/
theorem totalCost_nonneg {commands : List ExecutionCommand}
    (hcosts : ∀ command ∈ commands, 0 ≤ command.costMs) : 0 ≤ totalCost commands := by
  apply List.sum_nonneg
  intro cost hcost
  obtain ⟨command, hcommand, rfl⟩ := List.mem_map.mp hcost
  exact hcosts command hcommand

section

variable {entry : FrameBudgetEnvelope} (hcosts : ∀ other ∈ earlier, 0 ≤ other.costMs)
  (hframe : command.frame = some frame)
  (hentry : (frameTable envelope.frames).get frame = some entry)
  (hown : ∀ other ∈ earlier, frameKey other.frame = frameKey (some frame) →
    other.frame = some frame)

include hcosts hframe hentry hown

/-- The work of a frame with a key of its own has stayed within its limits exactly when
all of it is within the limit, or costs nothing. -/
theorem keptWithin_iff :
    KeptWithin envelope earlier command ↔
      charged earlier command ≤ entry.limit command.window ∨ charged earlier command = 0 := by
  induction earlier using List.reverseRecOn with
  | nil => exact iff_of_true (fun item hitem => absurd hitem List.not_mem_nil) (Or.inr rfl)
  | append_singleton earlier other ih =>
      have hother : 0 ≤ other.costMs :=
        hcosts other (List.mem_append_right _ (List.mem_singleton_self other))
      have hearlier : ∀ another ∈ earlier, 0 ≤ another.costMs := fun another hanother =>
        hcosts another (List.mem_append_left _ hanother)
      have hcharged : 0 ≤ charged earlier command :=
        totalCost_nonneg fun another hanother => hearlier another (List.mem_filter.mp hanother).1
      have hbefore := ih hearlier fun another hanother =>
        hown another (List.mem_append_left _ hanother)
      rw [keptWithin_concat, charged_concat, hbefore]
      by_cases hshares : sharing command.window command.frame other = true
      · have hkey := hshares
        simp only [sharing, Bool.and_eq_true, decide_eq_true_eq] at hkey
        have hsame : other.frame = some frame :=
          hown other (List.mem_append_right _ (List.mem_singleton_self other))
            (by rw [← hframe]; exact hkey.2)
        have hlimit : commandLimit envelope other = entry.limit command.window := by
          rw [commandLimit_eq hsame hentry, hkey.1.2]
        have htotal : charged earlier other = charged earlier command := by
          unfold charged
          rw [hkey.1.2, hsame, hframe]
        rw [hlimit, htotal, if_pos hshares]
        obtain hzero | hpositive := hother.eq_or_lt
        · rw [← hzero, add_zero]
          exact and_iff_left fun _ h => absurd h (lt_irrefl 0)
        · constructor
          · intro h
            exact Or.inl (h.2 hshares hpositive)
          · intro h
            have hwithin := h.resolve_right (add_pos_of_nonneg_of_pos hcharged hpositive).ne'
            exact ⟨Or.inl ((le_add_of_nonneg_right hother).trans hwithin), fun _ _ => hwithin⟩
      · rw [if_neg hshares, add_zero]
        exact and_iff_left fun h => absurd h hshares

/-- Where a frame shares its key with no other, that is all there is to its staying within
its limits. -/
theorem staysWithin_iff :
    StaysWithin envelope earlier command ↔
      charged earlier command ≤ entry.limit command.window ∨ charged earlier command = 0 := by
  have hsame : ownCharge earlier command = charged earlier command := by
    unfold ownCharge charged
    rw [List.filter_filter]
    refine congrArg totalCost (List.filter_congr fun other hother => ?_)
    cases hshares : sharing command.window command.frame other with
    | false => rfl
    | true =>
        simp only [sharing, Bool.and_eq_true, decide_eq_true_eq] at hshares
        rw [Bool.true_and, decide_eq_true_iff, hframe]
        exact hown other hother (by rw [← hframe]; exact hshares.2)
  rw [← keptWithin_iff hcosts hframe hentry hown]
  refine and_iff_left ?_
  rw [hsame, commandLimit_eq hframe hentry]
  exact le_or_gt _ _

end

end

/-- **Deferred work.** Where no cost is negative, a command of an enveloped frame is
deferred only where it does not fit beside what its frame has been granted, and deferred
work uses up nothing of its budget, exactly when the work before it has stayed within its
limits and it is not for the work of other frames that there is no room. -/
theorem sparesBudget_iff {packet earlier later : List ExecutionCommand}
    {command : ExecutionCommand} {envelope : RuntimeBudgetEnvelope} {frame : ℤ}
    {entry : FrameBudgetEnvelope} (hpacket : packet = earlier ++ command :: later)
    (hcosts : ∀ other ∈ packet, 0 ≤ other.costMs) (hbudgeted : command.window.budgeted)
    (hframe : command.frame = some frame)
    (hentry : (frameTable envelope.frames).get frame = some entry) :
    ∃ arbitration,
      (buildBudgetArbitration packet envelope).commands[earlier.length]? = some arbitration ∧
      arbitration.identity = command.identity ∧
      (SparesBudget frame entry
          ((buildBudgetArbitration packet envelope).commands.take earlier.length) arbitration ↔
        StaysWithin envelope earlier command) := by
  obtain ⟨rest, hcommands⟩ := commands_split earlier later command envelope
  rw [← hpacket] at hcommands
  have hlength : (buildBudgetArbitration earlier envelope).commands.length = earlier.length := by
    have hidentity := congrArg List.length (identity_commands earlier envelope)
    rwa [List.length_map, List.length_map] at hidentity
  have hearlier : ∀ other ∈ earlier, 0 ≤ other.costMs := fun other hother =>
    hcosts other (hpacket ▸ List.mem_append_left _ hother)
  rw [hcommands, List.take_left' hlength, ← hlength, List.getElem?_append_right le_rfl,
    Nat.sub_self]
  refine ⟨_, rfl, identity_arbitrationAfter _ _ _, ?_⟩
  have hspared := @grantedCharge_eq_iff envelope earlier command frame hearlier hbudgeted hframe
  have hgranted := grantedCost_eq_ownCharge hearlier hbudgeted hframe hentry
  have hlimit := commandLimit_eq hframe hentry
  have hdeferred := @status_deferred_iff envelope command hbudgeted (charged earlier command)
  constructor
  · intro h
    have hkept : KeptWithin envelope earlier command := by
      have hused := h.spared
      rw [budgetUsedMs_arbitrationAfter _ hbudgeted, window_arbitrationAfter,
        costMs_arbitrationAfter] at hused
      exact hspared.mp (add_right_cancel hused).symm
    have hfull := h.full
    rw [hdeferred, window_arbitrationAfter, costMs_arbitrationAfter, hgranted hkept,
      ← hlimit] at hfull
    exact ⟨hkept, (le_or_gt _ _).imp_right hfull⟩
  · intro h
    refine ⟨?_, ?_⟩
    · rw [hdeferred, window_arbitrationAfter, costMs_arbitrationAfter, hgranted h.1, ← hlimit]
      intro hover
      exact h.2.resolve_left (not_le.mpr hover)
    · rw [budgetUsedMs_arbitrationAfter _ hbudgeted, window_arbitrationAfter,
        costMs_arbitrationAfter, hspared.mpr h.1]

/-- Ten milliseconds for the frame that `tenFor` has. -/
def tenEntry (frame : ℤ) : FrameBudgetEnvelope :=
  { frame, maxHotPathMs := 10, copyQueueBudgetMs := 0, preFrameWindowMs := 0 }

/-- Work on the hot path of frame 1 that costs so much. -/
def worksOfOne (costs : List ℚ) : List ExecutionCommand :=
  costs.map (hotPathWork (some 1))

/-- Behind 4 and 5 of 10 milliseconds, 3 are deferred because they do not fit.  Behind a
deferred 12, 11 are deferred too, and are told that 23 have been used. -/
theorem sparesBudget_iff_ten :
    (∃ arbitration,
      (buildBudgetArbitration (worksOfOne [4, 5, 3]) (tenFor 1)).commands[2]? = some arbitration ∧
        arbitration.status = .deferred ∧
        SparesBudget 1 (tenEntry 1)
          ((buildBudgetArbitration (worksOfOne [4, 5, 3]) (tenFor 1)).commands.take 2)
          arbitration) ∧
      ∃ arbitration,
        (buildBudgetArbitration (worksOfOne [12, 11]) (tenFor 1)).commands[1]? = some arbitration ∧
          arbitration.budgetUsedMs = 23 ∧
          ¬ SparesBudget 1 (tenEntry 1)
            ((buildBudgetArbitration (worksOfOne [12, 11]) (tenFor 1)).commands.take 1)
            arbitration := by
  obtain ⟨third, hthird, -, hspares⟩ := @sparesBudget_iff (worksOfOne [4, 5, 3])
    (worksOfOne [4, 5]) [] (hotPathWork (some 1) 3) (tenFor 1) 1 (tenEntry 1) rfl
    (by decide) rfl rfl rfl
  obtain ⟨second, hsecond, -, hwastes⟩ := @sparesBudget_iff (worksOfOne [12, 11])
    (worksOfOne [12]) [] (hotPathWork (some 1) 11) (tenFor 1) 1 (tenEntry 1) rfl
    (by decide) rfl rfl rfl
  have hdeferred : ((buildBudgetArbitration (worksOfOne [4, 5, 3]) (tenFor 1)).commands[2]?).map
      CommandArbitration.status = some .deferred := by decide +kernel
  have hused : ((buildBudgetArbitration (worksOfOne [12, 11]) (tenFor 1)).commands[1]?).map
      CommandArbitration.budgetUsedMs = some 23 := by decide +kernel
  have hthird' : (buildBudgetArbitration (worksOfOne [4, 5, 3]) (tenFor 1)).commands[2]? =
    some third := hthird
  have hsecond' : (buildBudgetArbitration (worksOfOne [12, 11]) (tenFor 1)).commands[1]? =
    some second := hsecond
  rw [hthird'] at hdeferred
  rw [hsecond'] at hused
  exact ⟨⟨third, hthird, Option.some.inj hdeferred, hspares.mpr (by decide +kernel)⟩,
    ⟨second, hsecond, Option.some.inj hused, fun h => absurd (hwastes.mp h) (by decide +kernel)⟩⟩

/-- A deferred command has used up the budget of the one after it. -/
theorem deferred_though_it_fits :
    ¬ ∀ (packet earlier later : List ExecutionCommand) (command : ExecutionCommand)
      (envelope : RuntimeBudgetEnvelope) (frame : ℤ) (entry : FrameBudgetEnvelope)
      (arbitration : CommandArbitration),
      packet = earlier ++ command :: later → (∀ other ∈ packet, 0 ≤ other.costMs) →
      command.window.budgeted = true → command.frame = some frame →
      (frameTable envelope.frames).get frame = some entry →
      (buildBudgetArbitration packet envelope).commands[earlier.length]? = some arbitration →
      SparesBudget frame entry
        ((buildBudgetArbitration packet envelope).commands.take earlier.length) arbitration := by
  intro h
  have hspares := h (worksOfOne [12, 5]) (worksOfOne [12]) [] (hotPathWork (some 1) 5) (tenFor 1) 1
    (tenEntry 1) _ rfl (by decide) rfl rfl rfl rfl
  exact absurd (hspares.full (by decide +kernel)) (by decide +kernel)

end FluidGateway.ControlLoop
