import FluidGateway.RejectedEvents
import Mathlib.Logic.Relation

/-!
# What happens to a session while it processes an event

Whatever the event, and whether or not it is refused, a session gets from one
state to the next by a few kinds of moves: counters and marks are set, the
statistics of a frame are created or rewritten without touching what they say
of its operations, the policy is configured, a resource is registered or
released, an operation is accepted, the governor looks.  What every move keeps
holds after every run (`run_induction`).
-/

namespace FluidGateway.Adapter

open FluidGateway.Runtime (Casing FluidGatewayController ControllerResult RuntimeResource
  RuntimeOperation)
open Relation (ReflTransGen)

/-! ## Accounts -/

/-- What the statistics of a frame say of its operations. -/
structure FrameAccount where
  operationCount : Nat
  decisionCount : Nat
  estimatedTotalCostMs : ℚ
  estimatedSavedMs : ℚ
  estimatedSavedMb : ℚ
  transferMb : ℚ
  queueCosts : OrderedDict String ℚ

/-- The part of a frame's statistics that its operations make up. -/
def AdapterFrameStats.account (stats : AdapterFrameStats) : FrameAccount where
  operationCount := stats.operationCount
  decisionCount := stats.decisionCount
  estimatedTotalCostMs := stats.estimatedTotalCostMs
  estimatedSavedMs := stats.estimatedSavedMs
  estimatedSavedMb := stats.estimatedSavedMb
  transferMb := stats.transferMb
  queueCosts := stats.queueCosts

namespace RuntimeAdapterSession

/-- The account of a frame, also of one that was never named. -/
def account (s : RuntimeAdapterSession) (frame : ℤ) : FrameAccount :=
  (s.statsOf frame).account

variable {s t : RuntimeAdapterSession}

/-- Writing back the statistics of a frame changes its account and no other. -/
theorem account_setFrame (s : RuntimeAdapterSession) (frame other : ℤ)
    (stats : AdapterFrameStats) :
    (s.setFrame frame stats).account other =
      if frame = other then stats.account else s.account other := by
  unfold account statsOf setFrame
  rw [OrderedDict.get_set]
  by_cases h : frame = other
  · rw [if_pos h, if_pos h]
    rfl
  · rw [if_neg h, if_neg h]

/-! ## Moves -/

variable (casing : Casing) (builtins : Builtins)

/-- One thing that happens to a session while an event is processed. -/
inductive Move : RuntimeAdapterSession → RuntimeAdapterSession → Prop
  | mark {s t : RuntimeAdapterSession} (h : t = { s with
      sessionId := t.sessionId
      currentFrame := t.currentFrame
      eventsProcessed := t.eventsProcessed
      lifecycleEvents := t.lifecycleEvents
      resourceEvents := t.resourceEvents
      operationEvents := t.operationEvents
      closed := t.closed }) : Move s t
  | configure (s : RuntimeAdapterSession) (payload : Payload) :
      Move s { s with policyEngine := s.policyEngine.configure builtins payload }
  | finalize (s : RuntimeAdapterSession) :
      Move s { s with lifetimePlanner := s.lifetimePlanner.finalize }
  | stats {s : RuntimeAdapterSession} {frame : ℤ} {stats : AdapterFrameStats}
      (h : stats.account = s.account frame) : Move s (s.setFrame frame stats)
  | finishFrame (s : RuntimeAdapterSession) (frame : ℤ) (targetFrameMs totalCostMs : ℚ)
      (queueCosts : OrderedDict String ℚ) :
      Move s { s with
        policyEngine := (s.policyEngine.finishFrame frame targetFrameMs totalCostMs queueCosts).2 }
  | register {s : RuntimeAdapterSession} {resource : RuntimeResource}
      {controller : FluidGatewayController}
      (h : s.controller.registerResource resource = (.ok resource, controller)) :
      Move s { s with
        controller
        policyEngine := (s.policyEngine.registerResource resource s.currentFrame).2
        lifetimePlanner := s.lifetimePlanner.registerResource resource s.currentFrame }
  | release {s : RuntimeAdapterSession} {id : String} {resource : RuntimeResource}
      {controller : FluidGatewayController}
      (h : s.controller.releaseResource id = (some resource, controller)) :
      Move s { s with
        controller
        releasedResources := s.releasedResources ++ [id]
        policyEngine := s.policyEngine.releaseResource id
        lifetimePlanner := s.lifetimePlanner.releaseResource resource id }
  | releaseUnknown {s : RuntimeAdapterSession} {id : String}
      {controller : FluidGatewayController}
      (h : s.controller.releaseResource id = (none, controller)) :
      Move s { s with controller }
  | accept {s : RuntimeAdapterSession} {operation : RuntimeOperation}
      {result : ControllerResult} {controller : FluidGatewayController}
      (hcost : 0 ≤ operation.costMs) (hsize : 0 ≤ operation.sizeMb)
      (h : s.controller.submitOperation casing operation = (.ok result, controller))
      (eventIndex : Option Nat) :
      Move s ({ s with controller }.acceptOperation result eventIndex).2
  | govern (s : RuntimeAdapterSession) (liveCommand : Option LiveCommand) :
      Move s (s.govern liveCommand).2

/-- Any number of moves. -/
abbrev Moves : RuntimeAdapterSession → RuntimeAdapterSession → Prop :=
  ReflTransGen (Move casing builtins)

variable {casing : Casing} {builtins : Builtins} {payload : Payload} {eventIndex : Option Nat}

/-- A frame that is not in the table has the statistics of a new one. -/
theorem statsOf_of_none {frame : ℤ} (h : s.frames.get frame = none) :
    s.statsOf frame = { frame } := by
  unfold statsOf
  rw [h]
  rfl

/-- Naming a frame creates empty statistics, where there are none. -/
theorem moves_frameStats (s : RuntimeAdapterSession) (frame : ℤ) :
    Moves casing builtins s (s.frameStats frame).2 := by
  unfold frameStats
  cases hget : s.frames.get frame with
  | some stats => exact .refl
  | none =>
      have hempty : ({ frame } : AdapterFrameStats).account = s.account frame := by
        rw [account, statsOf_of_none hget]
      exact .single (.stats hempty)

/-- Looking up a frame shows the same statistics for every frame. -/
theorem statsOf_frameStats (s : RuntimeAdapterSession) (frame other : ℤ) :
    (s.frameStats frame).2.statsOf other = s.statsOf other := by
  unfold frameStats
  cases hget : s.frames.get frame with
  | some stats => rfl
  | none =>
      unfold statsOf
      dsimp only
      rw [OrderedDict.get_set]
      by_cases h : frame = other
      · rw [if_pos h, ← h, hget]
        rfl
      · rw [if_neg h]

/-- Looking up a frame changes no account. -/
theorem account_frameStats (s : RuntimeAdapterSession) (frame other : ℤ) :
    (s.frameStats frame).2.account other = s.account other :=
  congrArg AdapterFrameStats.account (statsOf_frameStats s frame other)

/-- New statistics for a frame that say the same of its operations. -/
theorem moves_restated {frame : ℤ} {stats : AdapterFrameStats}
    (h : stats.account = s.account frame) :
    Moves casing builtins s ((s.frameStats frame).2.setFrame frame stats) :=
  (moves_frameStats s frame).tail (.stats (h.trans (account_frameStats s frame frame).symm))

/-- Recording the actions of the policy is a move: no account is changed by it. -/
theorem moves_recordPolicyActions (s : RuntimeAdapterSession)
    (actions : List RuntimePolicyAction) (frame : Option ℤ) :
    Moves casing builtins s (s.recordPolicyActions actions frame) := by
  cases frame with
  | none => exact .refl
  | some frame =>
      have haccount : (s.frameStats frame).1.account = s.account frame := by
        rw [frameStats_fst]
        rfl
      exact moves_restated haccount

/-- Changing a session in its marks only is a move. -/
theorem moves_marked (h : t = { s with
      sessionId := t.sessionId
      currentFrame := t.currentFrame
      eventsProcessed := t.eventsProcessed
      lifecycleEvents := t.lifecycleEvents
      resourceEvents := t.resourceEvents
      operationEvents := t.operationEvents
      closed := t.closed }) : Moves casing builtins s t :=
  .single (.mark h)

/-! ## Events -/

/-- A session event is some moves: marks, and the configuration of the policy. -/
theorem processSessionEvent_moves :
    Moves casing builtins s (s.processSessionEvent casing builtins payload eventIndex).2 := by
  have hcounted : Moves casing builtins s
      { s with lifecycleEvents := s.lifecycleEvents + 1 } := moves_marked rfl
  unfold processSessionEvent
  dsimp only
  split
  · exact hcounted
  · have hbegun := (hcounted.tail (.configure _ payload)).trans
      (moves_marked (t := { s with
        lifecycleEvents := s.lifecycleEvents + 1
        sessionId := textOr builtins ((get payload "id").either (get payload "session_id"))
          s.sessionId
        policyEngine := s.policyEngine.configure builtins payload
        closed := false }) rfl)
    exact hbegun.tail (.govern _ none)
  · split
    · exact hcounted
    · have hclosed := (hcounted.tail (.finalize _)).trans
        (moves_marked (t := { s with
          lifecycleEvents := s.lifecycleEvents + 1
          lifetimePlanner := s.lifetimePlanner.finalize
          closed := true }) rfl)
      exact hclosed.tail (.govern _ none)

/-- A question for the state is some moves. -/
theorem processStateEvent_moves :
    Moves casing builtins s (s.processStateEvent casing builtins payload eventIndex).2 := by
  unfold processStateEvent
  split
  · exact .refl
  · exact .single (.govern _ none)

/-- The beginning of a frame is some moves; the account of the frame goes on. -/
theorem beginFrame_moves {frame : ℤ} {stats : AdapterFrameStats}
    (h : stats.account = s.account frame) :
    Moves casing builtins s (s.beginFrame builtins frame stats payload eventIndex).2 := by
  unfold beginFrame
  split
  · exact .refl
  · split
    · exact .refl
    · have hopened : Moves casing builtins s { s with currentFrame := some frame } :=
        moves_marked rfl
      let begun := { stats with
        beginEventIndex := eventIndex
        targetFrameMs := s.policyEngine.frameBudgetFrom builtins payload }
      have hset : Moves casing builtins s (setFrame { s with currentFrame := some frame } frame
          begun) := hopened.tail (.stats h)
      exact hset.tail (.govern _ none)

/-- The last steps of a frame's end. -/
theorem moves_ended (s : RuntimeAdapterSession) (frame : ℤ) (eventIndex : Option Nat) :
    Moves casing builtins s (govern (setFrame { (s.frameStats frame).2 with currentFrame := none }
      frame { (s.frameStats frame).1 with endEventIndex := eventIndex }) none).2 := by
  have hnamed : Moves casing builtins s { (s.frameStats frame).2 with currentFrame := none } :=
    (moves_frameStats s frame).trans (moves_marked rfl)
  have haccount : (s.frameStats frame).1.account = (s.frameStats frame).2.account frame := by
    rw [account_frameStats, frameStats_fst]
    rfl
  have hset : Moves casing builtins s (setFrame { (s.frameStats frame).2 with currentFrame := none }
      frame { (s.frameStats frame).1 with endEventIndex := eventIndex }) :=
    hnamed.tail (.stats haccount)
  exact hset.tail (.govern _ none)

/-- The end of a frame is some moves. -/
theorem endFrame_moves {frame : ℤ} {stats : AdapterFrameStats} :
    Moves casing builtins s (s.endFrame frame stats eventIndex).2 := by
  unfold endFrame
  split
  · exact .refl
  · have hpolicy : Moves casing builtins s _ := .single (.finishFrame s frame stats.targetFrameMs
      stats.estimatedTotalCostMs stats.queueCosts)
    have hrecorded := hpolicy.trans (moves_recordPolicyActions _ (s.policyEngine.finishFrame frame
      stats.targetFrameMs stats.estimatedTotalCostMs stats.queueCosts).1 (some frame))
    exact hrecorded.trans (moves_ended _ frame eventIndex)

/-- A frame event is some moves, also where it raises. -/
theorem processFrameEvent_moves :
    Moves casing builtins s (s.processFrameEvent casing builtins payload eventIndex).2 := by
  have hcounted : Moves casing builtins s
      { s with lifecycleEvents := s.lifecycleEvents + 1 } := moves_marked rfl
  unfold processFrameEvent
  dsimp only
  split
  · exact hcounted
  · next frame _ =>
      split
      · exact hcounted
      · next action _ =>
          refine (hcounted.trans (moves_frameStats _ frame)).trans ?_
          cases action with
          | begin =>
              apply beginFrame_moves
              rw [frameStats_fst]
              exact (account_frameStats _ frame frame).symm
          | finish => exact endFrame_moves

/-- A resource that the controller accepts comes back as it was given. -/
theorem registerResource_ok {c c' : FluidGatewayController} {resource given : RuntimeResource}
    (h : c.registerResource resource = (.ok given, c')) : given = resource := by
  unfold FluidGatewayController.registerResource at h
  split at h
  · cases h
  · cases h
    rfl

/-- A resource event is some moves, one for each way in which it can go. -/
theorem processResourceEvent_moves :
    Moves casing builtins s (s.processResourceEvent casing builtins payload eventIndex).2 := by
  have hcounted : Moves casing builtins s
      { s with resourceEvents := s.resourceEvents + 1 } := moves_marked rfl
  unfold processResourceEvent
  dsimp only
  split
  · exact hcounted
  · split
    · exact hcounted
    · refine ReflTransGen.tail (hcounted.trans ?_) (.govern _ none)
      split
      · next hreleased => exact .single (.release (Prod.ext hreleased rfl))
      · next hreleased => exact .single (.releaseUnknown (Prod.ext hreleased rfl))
  · split
    · exact hcounted
    · split
      · next hregister =>
          rw [registerResource_error hregister]
          exact hcounted
      · next hregister =>
          obtain rfl := registerResource_ok hregister
          refine ReflTransGen.tail (hcounted.trans ?_) (.govern _ none)
          exact (ReflTransGen.single (.register hregister)).trans
            (moves_recordPolicyActions _ _ _)

/-- A number that was read is not negative. -/
theorem nonnegativeNumber_nonneg {value : Json} {name : String} {number : ℚ}
    (h : nonnegativeNumber builtins value name = .ok number) : 0 ≤ number := by
  unfold nonnegativeNumber at h
  split at h
  · cases h
    exact le_refl 0
  · cases h
  · split at h
    · split at h
      · cases h
      · next hnot =>
          cases h
          exact not_lt.mp hnot
    · cases h

/-- Two steps in a row succeed only where the first does and then the second on what it
gave. -/
theorem bind_ok {α β : Type} {x : Except Raised α} {f : α → Except Raised β} {b : β}
    (h : (x >>= f) = .ok b) : ∃ a, x = .ok a ∧ f a = .ok b := by
  cases x with
  | error e => cases h
  | ok a => exact ⟨a, rfl, h⟩

/-- An operation that could be read costs nothing negative and has no negative size. -/
theorem readOperation_nonneg {frame : Option ℤ} {operation : RuntimeOperation}
    (h : readOperation casing builtins payload frame = .ok operation) :
    0 ≤ operation.costMs ∧ 0 ≤ operation.sizeMb := by
  unfold readOperation at h
  dsimp only at h
  split at h
  · cases h
  · split at h
    · cases h
    · split at h
      all_goals
        obtain ⟨frame', -, h⟩ := bind_ok h
        obtain ⟨dependsOn, -, h⟩ := bind_ok h
        split at h
        · cases h
        · obtain ⟨costMs, hcost, h⟩ := bind_ok h
          obtain ⟨sizeMb, hsize, h⟩ := bind_ok h
          cases h
          exact ⟨nonnegativeNumber_nonneg hcost, nonnegativeNumber_nonneg hsize⟩

/-- An operation event is some moves: the operation is accepted, or the session has only
counted the event. -/
theorem processOperationEvent_moves :
    Moves casing builtins s (s.processOperationEvent casing builtins payload eventIndex).2 := by
  have hcounted : Moves casing builtins s
      { s with operationEvents := s.operationEvents + 1 } := moves_marked rfl
  unfold processOperationEvent
  dsimp only
  split
  · exact hcounted
  · next hread =>
      obtain ⟨hcost, hsize⟩ := readOperation_nonneg hread
      split
      · next hsubmit =>
          rw [submitOperation_error hsubmit]
          exact hcounted
      · next hsubmit =>
          exact hcounted.tail (.accept (s := { s with operationEvents := s.operationEvents + 1 })
            hcost hsize hsubmit eventIndex)

/-- An event of any type is some moves. -/
theorem dispatch_moves {type : EventType} :
    Moves casing builtins s (s.dispatch casing builtins type payload eventIndex).2 := by
  cases type with
  | session => exact processSessionEvent_moves
  | frame => exact processFrameEvent_moves
  | resource => exact processResourceEvent_moves
  | operation => exact processOperationEvent_moves
  | state => exact processStateEvent_moves

/-- Every event is some moves, whatever raises. -/
theorem processEvent_moves {payload : Json} :
    Moves casing builtins s (s.processEvent casing builtins payload eventIndex).2 := by
  cases payload with
  | dict fields =>
      have hcounted : Moves casing builtins s
          { s with eventsProcessed := s.eventsProcessed + 1 } := moves_marked rfl
      unfold processEvent
      dsimp only
      split
      · exact hcounted
      · exact hcounted.trans dispatch_moves
  | _ => exact .refl

/-- What every move keeps is kept by any number of them. -/
theorem Moves.keeps {inv : RuntimeAdapterSession → Prop}
    (hmove : ∀ {s t}, Move casing builtins s t → inv s → inv t) (h : Moves casing builtins s t)
    (hs : inv s) : inv t := by
  induction h with
  | refl => exact hs
  | tail _ hlast ih => exact hmove hlast ih

/-- **What holds of a fresh session and is kept by every move holds after
every stream of events**, whatever raises. -/
theorem run_induction {p : RuntimeAdapterSession → Prop} (hstart : p {})
    (hmove : ∀ {s t}, Move casing builtins s t → p s → p t)
    (events : List (Json × Option Nat)) : p (run casing builtins events) := by
  induction events using List.reverseRecOn with
  | nil => exact hstart
  | append_singleton events event ih =>
      have hmoves : Moves casing builtins (run casing builtins events)
          (run casing builtins (events ++ [event])) := by
        unfold run
        rw [List.foldl_append]
        exact processEvent_moves
      exact hmoves.keeps hmove ih

end RuntimeAdapterSession

end FluidGateway.Adapter
