import FluidGateway.ManagedSession

/-!
# Rejected events

What an event that raises leaves behind.  Only a frame event that names a frame
for the first time leaves more than a counter: the statistics of the frame,
which are created before the event is checked (`rejected_untouched_iff`).
-/

namespace FluidGateway.Adapter.RuntimeAdapterSession

open FluidGateway.Runtime (Casing LifecycleAction ControllerResult)

/-! ## The open frame has statistics -/

/-- No statistics are lost and the open frame stays. -/
structure Keeps (s t : RuntimeAdapterSession) : Prop where
  currentFrame : t.currentFrame = s.currentFrame
  frames : ∀ frame, s.frames.contains frame = true → t.frames.contains frame = true

/-- A session that nothing happens to keeps its frames. -/
theorem Keeps.refl (s : RuntimeAdapterSession) : Keeps s s := ⟨rfl, fun _ h => h⟩

variable {s t : RuntimeAdapterSession}

/-- The other fields do not matter. -/
theorem Keeps.congr {u : RuntimeAdapterSession} (h : Keeps s t)
    (hcurrent : u.currentFrame = t.currentFrame) (hframes : u.frames = t.frames) : Keeps s u :=
  ⟨hcurrent.trans h.currentFrame, fun frame hframe => hframes ▸ h.frames frame hframe⟩

/-- What touches neither the open frame nor the table of frames keeps both. -/
theorem Keeps.of_same (hcurrent : t.currentFrame = s.currentFrame) (hframes : t.frames = s.frames) :
    Keeps s t :=
  (Keeps.refl s).congr hcurrent hframes

/-- Writing the statistics of a frame drops no frame, and opens and closes none. -/
theorem Keeps.setFrame (h : Keeps s t) (frame : ℤ) (stats : AdapterFrameStats) :
    Keeps s (t.setFrame frame stats) :=
  ⟨h.currentFrame, fun other hother => OrderedDict.contains_set.mpr (.inr (h.frames other hother))⟩

/-- Naming a frame can only add to the frames. -/
theorem Keeps.frameStats (h : Keeps s t) (frame : ℤ) : Keeps s (t.frameStats frame).2 := by
  unfold RuntimeAdapterSession.frameStats
  cases t.frames.get frame with
  | some stats => exact h
  | none => exact h.setFrame frame { frame }

/-- Once asked for, a frame has statistics. -/
theorem frameStats_contains (s : RuntimeAdapterSession) (frame : ℤ) :
    (s.frameStats frame).2.frames.contains frame = true := by
  unfold frameStats
  cases hget : s.frames.get frame with
  | some stats => exact Option.isSome_iff_exists.mpr ⟨stats, hget⟩
  | none => exact OrderedDict.contains_set.mpr (.inl rfl)

/-- Policy actions are recorded in the statistics of their frame, which may be new. -/
theorem Keeps.recordPolicyActions (h : Keeps s t) (actions : List RuntimePolicyAction)
    (frame : Option ℤ) : Keeps s (t.recordPolicyActions actions frame) := by
  cases frame with
  | none => exact h
  | some frame => exact (h.frameStats frame).setFrame frame _

/-- An operation is recorded in the statistics of its frame, which may be new. -/
theorem Keeps.recordOperation (h : Keeps s t) (frame : Option ℤ) (result : ControllerResult) :
    Keeps s (t.recordOperation frame result) := by
  cases frame with
  | none => exact h
  | some frame => exact (h.frameStats frame).setFrame frame _

/-- Asking for a target names a frame and does no more. -/
theorem Keeps.frameTarget (h : Keeps s t) (frame : Option ℤ) : Keeps s (t.frameTarget frame).2 := by
  cases frame with
  | none => exact h
  | some frame => exact h.frameStats frame

/-- The governor looks at the session; of the frames it at most names one. -/
theorem Keeps.govern (h : Keeps s t) (liveCommand : Option LiveCommand) :
    Keeps s (t.govern liveCommand).2 :=
  (h.frameTarget (t.currentFrame <|> liveCommand.bind LiveCommand.frame)).congr rfl rfl

/-- Answering without an operation keeps the frames, as the governor does. -/
theorem Keeps.withStateSnapshot (h : Keeps s t) (response : Response) (eventIndex : Option Nat) :
    Keeps s (t.withStateSnapshot response eventIndex).2 :=
  h.govern none

/-- Gating and admitting an operation keeps the frames, as the governor does. -/
theorem Keeps.withOperation (h : Keeps s t) (result : ControllerResult) (liveCommand : LiveCommand)
    (actions : List RuntimePolicyAction) (eventIndex : Option Nat) :
    Keeps s (t.withOperation result liveCommand actions eventIndex).2 :=
  ⟨(h.govern (some liveCommand)).currentFrame, (h.govern (some liveCommand)).frames⟩

/-- The open frame has statistics. -/
def Framed (s : RuntimeAdapterSession) : Prop :=
  ∀ frame, s.currentFrame = some frame → s.frames.contains frame = true

/-- The open frame still has statistics where frames are only added and none is opened or
closed. -/
theorem Framed.keeps (h : s.Framed) (hkeeps : Keeps s t) : t.Framed := by
  intro frame hframe
  exact hkeeps.frames frame (h frame (hkeeps.currentFrame.symm.trans hframe))

/-! ## What an event leaves behind -/

/-- Only the counters of the events may differ. -/
def Untouched (s t : RuntimeAdapterSession) : Prop :=
  t = { s with
    eventsProcessed := t.eventsProcessed
    lifecycleEvents := t.lifecycleEvents
    resourceEvents := t.resourceEvents
    operationEvents := t.operationEvents }

/-- A session that an event has not touched has the frames that it had. -/
theorem Untouched.keeps (h : Untouched s t) : Keeps s t := by
  rw [h]
  exact ⟨rfl, fun _ hframe => hframe⟩

/-- An event that raises leaves the session untouched, and one that does not
leaves statistics for the frame that is open. -/
structure Careful (s : RuntimeAdapterSession)
    (result : Except Raised Answer × RuntimeAdapterSession) : Prop where
  untouched : ∀ e, result.1 = .error e → Untouched s result.2
  framed : s.Framed → result.2.Framed

/-- An event that raises has to leave the session untouched. -/
theorem Careful.raised {e : Raised} (h : Untouched s t) : Careful s (.error e, t) :=
  ⟨fun _ _ => h, fun hframed => hframed.keeps h.keeps⟩

/-- An event that is answered has to leave the open frame with its statistics. -/
theorem Careful.answered {answer : Answer} (h : s.Framed → t.Framed) :
    Careful s (.ok answer, t) :=
  ⟨fun _ herror => (by cases herror), h⟩

variable {casing : Casing} {builtins : Builtins} {payload : Payload} {eventIndex : Option Nat}

/-- A session event checks its action and the open frame before it changes anything but a
counter. -/
theorem processSessionEvent_careful :
    Careful s (s.processSessionEvent casing builtins payload eventIndex) := by
  unfold processSessionEvent
  dsimp only
  split
  · exact .raised rfl
  · apply Careful.answered
    intro h
    apply h.keeps
    apply Keeps.withStateSnapshot
    exact .of_same rfl rfl
  · split
    · exact .raised rfl
    · apply Careful.answered
      intro h
      apply h.keeps
      apply Keeps.withStateSnapshot
      exact .of_same rfl rfl

/-- A state event raises before it looks at the session, or answers. -/
theorem processStateEvent_careful :
    Careful s (s.processStateEvent casing builtins payload eventIndex) := by
  unfold processStateEvent
  split
  · exact .raised rfl
  · apply Careful.answered
    intro h
    apply h.keeps
    exact (Keeps.refl s).govern none

/-- A resource that is refused leaves the controller as it was. -/
theorem registerResource_error {c c' : Runtime.FluidGatewayController}
    {resource : Runtime.RuntimeResource} {e : String}
    (h : c.registerResource resource = (.error e, c')) : c' = c := by
  unfold Runtime.FluidGatewayController.registerResource at h
  split at h <;> cases h
  rfl

/-- A resource event reads its fields and asks the controller before the session changes; a
resource that is refused is registered nowhere. -/
theorem processResourceEvent_careful :
    Careful s (s.processResourceEvent casing builtins payload eventIndex) := by
  unfold processResourceEvent
  dsimp only
  split
  · exact .raised rfl
  · split
    · exact .raised rfl
    · apply Careful.answered
      intro h
      apply h.keeps
      apply Keeps.withStateSnapshot
      split <;> exact .of_same rfl rfl
  · split
    · exact .raised rfl
    · split
      · next hregister =>
          rw [registerResource_error hregister]
          exact .raised rfl
      · apply Careful.answered
        intro h
        apply h.keeps
        apply Keeps.withStateSnapshot
        apply Keeps.recordPolicyActions
        exact .of_same rfl rfl

/-- An operation that the controller refuses leaves the controller as it was. -/
theorem submitOperation_error {c c' : Runtime.FluidGatewayController}
    {operation : Runtime.RuntimeOperation} {e : String}
    (h : c.submitOperation casing operation = (.error e, c')) : c' = c := by
  unfold Runtime.FluidGatewayController.submitOperation at h
  split at h <;> cases h
  rfl

/-- Issuing a command for an operation keeps the frames. -/
theorem Keeps.issue (h : Keeps s t) (liveCommand : LiveCommand) : Keeps s (t.issue liveCommand) :=
  h.congr rfl rfl

/-- What the planner and the policy engine record is no matter of the frames. -/
theorem Keeps.advise (h : Keeps s t) (result : ControllerResult) (targetFrameMs : ℚ) :
    Keeps s (t.advise result targetFrameMs).2 :=
  h.congr rfl rfl

/-- Accepting an operation keeps the frames: each of its parts does. -/
theorem Keeps.acceptOperation (h : Keeps s t) (result : ControllerResult)
    (eventIndex : Option Nat) : Keeps s (t.acceptOperation result eventIndex).2 := by
  apply Keeps.withOperation
  apply Keeps.recordPolicyActions
  apply Keeps.advise
  apply Keeps.recordOperation
  apply Keeps.issue
  exact h.frameTarget result.operation.frame

/-- An operation event is read and submitted before the session changes; once it is accepted
nothing raises any more. -/
theorem processOperationEvent_careful :
    Careful s (s.processOperationEvent casing builtins payload eventIndex) := by
  unfold processOperationEvent
  dsimp only
  split
  · exact .raised rfl
  · split
    · next hsubmit =>
        rw [submitOperation_error hsubmit]
        exact .raised rfl
    · apply Careful.answered
      intro h
      apply h.keeps
      apply Keeps.acceptOperation
      exact .of_same rfl rfl

/-! ## Frame events -/

/-- A well-formed frame event of a frame without statistics, at its end or
while another frame is open. -/
def Phantom (casing : Casing) (builtins : Builtins) (s : RuntimeAdapterSession)
    (payload : Payload) : Prop :=
  ∃ frame action, parseFrame builtins payload = .ok frame ∧
    normalizedAction casing builtins (get payload "action") lifecycleActions "begin" =
      .ok action ∧
    s.frames.contains frame = false ∧ (action = .finish ∨ s.currentFrame ≠ none)

/-- Naming a frame that has statistics changes nothing. -/
theorem frameStats_of_contains {frame : ℤ} (h : s.frames.contains frame = true) :
    (s.frameStats frame).2 = s := by
  obtain ⟨stats, hstats⟩ := Option.isSome_iff_exists.mp h
  unfold frameStats
  rw [hstats]

/-- A frame that is opened has just been given statistics. -/
theorem beginFrame_framed {frame : ℤ} {stats : AdapterFrameStats} (h : s.Framed) :
    (s.beginFrame builtins frame stats payload eventIndex).2.Framed := by
  unfold beginFrame
  dsimp only
  split
  · exact h
  · split
    · exact h
    · have hopened : ∀ stats, Framed (setFrame { s with currentFrame := some frame } frame stats) := by
        rintro stats other ⟨⟩
        exact OrderedDict.contains_set.mpr (.inl rfl)
      exact (hopened _).keeps ((Keeps.refl _).govern none)

/-- After the end of a frame none is open, and a refused end leaves the open one as it is. -/
theorem endFrame_framed {frame : ℤ} {stats : AdapterFrameStats} (h : s.Framed) :
    (s.endFrame frame stats eventIndex).2.Framed := by
  unfold endFrame
  dsimp only
  split
  · exact h
  · have hended : ∀ (t : RuntimeAdapterSession) stats,
        Framed (setFrame { t with currentFrame := none } frame stats) := by
      rintro t stats other ⟨⟩
    exact (hended _ _).keeps ((Keeps.refl _).govern none)

/-- The statistics say that a frame has begun and not ended. -/
def Begun (stats : AdapterFrameStats) : Prop :=
  stats.beginEventIndex ≠ none ∧ stats.endEventIndex = none

/-- When a frame event cannot be carried out. -/
def Refused (s : RuntimeAdapterSession) (action : LifecycleAction) (frame : ℤ)
    (stats : AdapterFrameStats) : Prop :=
  match action with
  | .begin => s.currentFrame ≠ none ∨ Begun stats
  | .finish => s.currentFrame ≠ some frame

/-- A frame action that is refused raises, and leaves the session as it is. -/
theorem runFrameAction_refused {action : LifecycleAction} {frame : ℤ} {stats : AdapterFrameStats}
    (h : s.Refused action frame stats) :
    ∃ e, s.runFrameAction builtins action frame stats payload eventIndex = (.error e, s) := by
  cases action with
  | begin =>
      unfold runFrameAction beginFrame
      rcases h with hopen | hbegun
      · obtain ⟨opened, hopened⟩ := Option.ne_none_iff_exists'.mp hopen
        rw [hopened]
        exact ⟨_, rfl⟩
      · cases s.currentFrame with
        | some opened => exact ⟨_, rfl⟩
        | none => exact ⟨_, if_pos hbegun⟩
  | finish => exact ⟨_, if_pos h⟩

/-- A frame action that is not refused is answered: the refusals are all that can raise. -/
theorem runFrameAction_carried_out {action : LifecycleAction} {frame : ℤ}
    {stats : AdapterFrameStats} (h : ¬ s.Refused action frame stats) :
    ∃ answer, (s.runFrameAction builtins action frame stats payload eventIndex).1 =
      .ok answer := by
  cases action with
  | begin =>
      obtain ⟨hclosed, hbegun⟩ := not_or.mp h
      have hfresh : ¬ (stats.beginEventIndex ≠ none ∧ stats.endEventIndex = none) := hbegun
      unfold runFrameAction beginFrame
      rw [not_not.mp hclosed]
      dsimp only
      rw [if_neg hfresh]
      exact ⟨_, rfl⟩
  | finish =>
      have hopen : ¬ s.currentFrame ≠ some frame := h
      unfold runFrameAction endFrame
      dsimp only
      rw [if_neg hopen]
      exact ⟨_, rfl⟩

/-- Whether a frame action is refused depends on the open frame and the statistics only. -/
theorem Refused.congr {action : LifecycleAction} {frame : ℤ} {stats : AdapterFrameStats}
    (h : t.currentFrame = s.currentFrame) :
    t.Refused action frame stats ↔ s.Refused action frame stats := by
  cases action <;> simp only [Refused, h]

/-- A frame event that raises leaves the session as it met it. -/
theorem runFrameAction_raised {action : LifecycleAction} {frame : ℤ} {stats : AdapterFrameStats}
    {e : Raised}
    (h : s.runFrameAction builtins action frame stats payload eventIndex = (.error e, t)) :
    s.Refused action frame stats ∧ t = s := by
  by_cases hrefused : s.Refused action frame stats
  · obtain ⟨e', hraised⟩ : ∃ e', s.runFrameAction builtins action frame stats payload eventIndex =
        (.error e', s) := runFrameAction_refused hrefused
    rw [hraised] at h
    cases h
    exact ⟨hrefused, rfl⟩
  · obtain ⟨answer, hanswer⟩ : ∃ answer,
        (s.runFrameAction builtins action frame stats payload eventIndex).1 = .ok answer :=
      runFrameAction_carried_out hrefused
    rw [h] at hanswer
    cases hanswer

/-- A frame action leaves the open frame with its statistics, by cases on begin and end. -/
theorem runFrameAction_framed {action : LifecycleAction} {frame : ℤ} {stats : AdapterFrameStats}
    (h : s.Framed) :
    (s.runFrameAction builtins action frame stats payload eventIndex).2.Framed := by
  cases action with
  | begin => exact beginFrame_framed h
  | finish => exact endFrame_framed h

/-- The statistics that a frame event looks at. -/
def statsOf (s : RuntimeAdapterSession) (frame : ℤ) : AdapterFrameStats :=
  (s.frames.get frame).getD { frame }

/-- Naming a frame returns its statistics, or new ones where it has none. -/
theorem frameStats_fst (s : RuntimeAdapterSession) (frame : ℤ) :
    (s.frameStats frame).1 = s.statsOf frame := by
  unfold frameStats statsOf
  cases s.frames.get frame <;> rfl

/-- What a well-formed frame event does. -/
theorem processFrameEvent_eq {frame : ℤ} {action : LifecycleAction}
    (hframe : parseFrame builtins payload = .ok frame)
    (haction : normalizedAction casing builtins (get payload "action") lifecycleActions "begin" =
      .ok action) :
    s.processFrameEvent casing builtins payload eventIndex =
      (frameStats { s with lifecycleEvents := s.lifecycleEvents + 1 } frame).2.runFrameAction
        builtins action frame (s.statsOf frame) payload eventIndex := by
  unfold processFrameEvent
  simp only [hframe, haction]
  rw [frameStats_fst]
  rfl

/-- A frame event leaves the open frame with its statistics, also where it is refused after
naming its frame. -/
theorem processFrameEvent_framed (h : s.Framed) :
    (s.processFrameEvent casing builtins payload eventIndex).2.Framed := by
  unfold processFrameEvent
  dsimp only
  split
  · exact h
  · split
    · exact h
    · next frame _ _ action _ =>
        exact runFrameAction_framed (h.keeps
          (Keeps.frameStats (s := s) (t := { s with lifecycleEvents := s.lifecycleEvents + 1 })
            (.of_same rfl rfl) frame))

/-- A frame that is new is refused when a frame is open, or at its end. -/
theorem refused_new {action : LifecycleAction} {frame : ℤ} (h : s.Framed)
    (hnew : s.frames.contains frame = false) :
    s.Refused action frame { frame } ↔ action = .finish ∨ s.currentFrame ≠ none := by
  cases action with
  | begin =>
      constructor
      · rintro (hopen | ⟨hbegun, _⟩)
        · exact .inr hopen
        · exact absurd rfl hbegun
      · rintro (hfinish | hopen)
        · cases hfinish
        · exact .inl hopen
  | finish =>
      refine ⟨fun _ => .inl rfl, fun _ hopen => ?_⟩
      rw [h frame hopen] at hnew
      cases hnew

/-- A frame that was never named has the statistics of a new one. -/
theorem statsOf_new {frame : ℤ} (hnew : s.frames.contains frame = false) :
    s.statsOf frame = { frame } := by
  have hget : s.frames.get frame = none := Option.isNone_iff_eq_none.mp (by
    rw [← Option.not_isSome, show (s.frames.get frame).isSome = false from hnew]
    rfl)
  unfold statsOf
  rw [hget]
  rfl

/-- **A frame event that raises leaves more than a counter exactly if it names
a new frame.** -/
theorem processFrameEvent_untouched_iff (h : s.Framed) :
    (∀ e t, s.processFrameEvent casing builtins payload eventIndex = (.error e, t) →
      Untouched s t) ↔ ¬ s.Phantom casing builtins payload := by
  constructor
  · rintro huntouched ⟨frame, action, hframe, haction, hnew, hrefused⟩
    have hevent : s.processFrameEvent casing builtins payload eventIndex = _ :=
      processFrameEvent_eq hframe haction
    rw [statsOf_new hnew] at hevent
    have hnamed := Keeps.frameStats (s := s)
      (t := { s with lifecycleEvents := s.lifecycleEvents + 1 }) (.of_same rfl rfl) frame
    have hcontains := frameStats_contains
      { s with lifecycleEvents := s.lifecycleEvents + 1 } frame
    generalize (frameStats { s with lifecycleEvents := s.lifecycleEvents + 1 } frame).2 = t
      at hevent hnamed hcontains
    have hnot : t.Refused action frame { frame } :=
      (Refused.congr hnamed.currentFrame).mpr ((refused_new h hnew).mpr hrefused)
    obtain ⟨e, hraised⟩ : ∃ e, t.runFrameAction builtins action frame { frame } payload
      eventIndex = (.error e, t) := runFrameAction_refused hnot
    have hsame := huntouched e t (hevent.trans hraised)
    rw [hsame] at hcontains
    exact absurd (hnew.symm.trans hcontains) Bool.false_ne_true
  · intro hreal e t hraised
    cases hframe : parseFrame builtins payload with
    | error e' =>
        unfold processFrameEvent at hraised
        simp only [hframe] at hraised
        cases hraised
        rfl
    | ok frame =>
        cases haction : normalizedAction casing builtins (get payload "action") lifecycleActions
            "begin" with
        | error e' =>
            unfold processFrameEvent at hraised
            simp only [hframe, haction] at hraised
            cases hraised
            rfl
        | ok action =>
            rw [processFrameEvent_eq hframe haction] at hraised
            obtain ⟨hrefused, rfl⟩ := runFrameAction_raised hraised
            cases hknown : s.frames.contains frame with
            | true =>
                rw [frameStats_of_contains (s := { s with
                  lifecycleEvents := s.lifecycleEvents + 1 }) hknown]
                rfl
            | false =>
                exfalso
                have hnamed := Keeps.frameStats (s := s)
                  (t := { s with lifecycleEvents := s.lifecycleEvents + 1 }) (.of_same rfl rfl)
                  frame
                rw [statsOf_new hknown, Refused.congr hnamed.currentFrame] at hrefused
                exact hreal ⟨frame, action, hframe, haction, hknown,
                  (refused_new h hknown).mp hrefused⟩

/-! ## Every event -/

/-- The session after a stream of events, whatever raises. -/
def run (casing : Casing) (builtins : Builtins) (events : List (Json × Option Nat)) :
    RuntimeAdapterSession :=
  events.foldl (fun s event => (s.processEvent casing builtins event.1 event.2).2) {}

/-- Every kind of event leaves the open frame with its statistics. -/
theorem dispatch_framed {type : EventType} (h : s.Framed) :
    (s.dispatch casing builtins type payload eventIndex).2.Framed := by
  cases type with
  | session => exact processSessionEvent_careful.framed h
  | frame => exact processFrameEvent_framed h
  | resource => exact processResourceEvent_careful.framed h
  | operation => exact processOperationEvent_careful.framed h
  | state => exact processStateEvent_careful.framed h

/-- Every event leaves the open frame with its statistics, also one that is no object or of
no known kind. -/
theorem processEvent_framed {payload : Json} (h : s.Framed) :
    (s.processEvent casing builtins payload eventIndex).2.Framed := by
  cases payload with
  | dict fields =>
      unfold processEvent
      dsimp only
      split
      · exact h
      · apply dispatch_framed
        exact h
  | _ => exact h

/-- After every stream of events the open frame has statistics; the induction is on the last
event. -/
theorem run_framed (events : List (Json × Option Nat)) : (run casing builtins events).Framed := by
  have hstart : Framed {} := by
    intro frame hframe
    cases hframe
  unfold run
  generalize ({} : RuntimeAdapterSession) = s at hstart
  induction events generalizing s with
  | nil => exact hstart
  | cons event events ih => exact ih _ (processEvent_framed hstart)

/-- A frame event that leaves the statistics of a new frame behind. -/
def LeavesFrame (casing : Casing) (builtins : Builtins) (s : RuntimeAdapterSession)
    (payload : Json) : Prop :=
  ∃ fields, payload = .dict fields ∧ eventType casing builtins fields = .ok .frame ∧
    s.Phantom casing builtins fields

/-- An event that raises leaves the session untouched unless it is a frame event for a
phantom frame: the other kinds are careful. -/
theorem dispatch_untouched_iff {type : EventType} (h : s.Framed) :
    (∀ e t, s.dispatch casing builtins type payload eventIndex = (.error e, t) → Untouched s t) ↔
      ¬ (type = .frame ∧ s.Phantom casing builtins payload) := by
  have hcareful : ∀ {result}, Careful s result → ∀ e t, result = (.error e, t) →
      Untouched s t := by
    rintro result hresult e t rfl
    exact hresult.untouched e rfl
  cases type with
  | frame =>
      refine (processFrameEvent_untouched_iff h).trans ?_
      rw [eq_self, true_and]
  | session => exact iff_of_true (hcareful processSessionEvent_careful) (by simp)
  | resource => exact iff_of_true (hcareful processResourceEvent_careful) (by simp)
  | operation => exact iff_of_true (hcareful processOperationEvent_careful) (by simp)
  | state => exact iff_of_true (hcareful processStateEvent_careful) (by simp)

/-- The same of an event as it arrives, in terms of what it says. -/
theorem processEvent_untouched_iff {payload : Json} (h : s.Framed) :
    (∀ e t, s.processEvent casing builtins payload eventIndex = (.error e, t) → Untouched s t) ↔
      ¬ s.LeavesFrame casing builtins payload := by
  cases payload with
  | dict fields =>
      unfold processEvent
      dsimp only
      cases htype : eventType casing builtins fields with
      | error e =>
          refine iff_of_true ?_ ?_
          · rintro _ _ ⟨⟩
            rfl
          · rintro ⟨_, ⟨⟩, hframe, _⟩
            cases htype.symm.trans hframe
      | ok type =>
          refine (dispatch_untouched_iff
            (s := { s with eventsProcessed := s.eventsProcessed + 1 }) h).trans (not_congr ?_)
          constructor
          · rintro ⟨rfl, hphantom⟩
            exact ⟨fields, rfl, htype, hphantom⟩
          · rintro ⟨_, ⟨⟩, hframe, hphantom⟩
            exact ⟨Except.ok.inj (htype.symm.trans hframe), hphantom⟩
  | _ =>
      refine iff_of_true ?_ ?_
      · rintro _ _ ⟨⟩
        rfl
      · rintro ⟨_, ⟨⟩, _⟩

/-- **A rejected event leaves the session untouched unless it is a frame event
that names a new frame**, at its end or while another frame is open. -/
theorem rejected_untouched_iff (casing : Casing) (builtins : Builtins)
    (events : List (Json × Option Nat)) (payload : Json) (eventIndex : Option Nat) :
    let s := run casing builtins events
    (∀ e t, s.processEvent casing builtins payload eventIndex = (.error e, t) → Untouched s t) ↔
      ¬ s.LeavesFrame casing builtins payload :=
  processEvent_untouched_iff (run_framed events)

/-! ### The end of a frame that never began -/

/-- The conversions, but for numbers in texts, and for the texts of floats and of
containers. -/
def plainBuiltins : Builtins where
  str
    | .text value => value
    | .int value => toString value
    | .bool value => if value then "True" else "False"
    | .null => "None"
    | _ => ""
  int
    | .int value => some value
    | .bool value => some (if value then 1 else 0)
    | .float (.finite value) => some (value.num.tdiv value.den)
    | _ => none
  float
    | .int value => some (.finite value)
    | .bool value => some (.finite (if value then 1 else 0))
    | .float value => some value
    | _ => none

/-- The end of a frame that never began. -/
def strayEnd : Json :=
  .dict [("event", .text "frame"), ("action", .text "end"), ("frame", .int 7)]

/-- The end of frame 7 is refused in a fresh session, and leaves frame 7 behind. -/
theorem stray_end_leaves_frame :
    let s := run .plain plainBuiltins []
    s.frames.contains 7 = false ∧
      ∃ e t, s.processEvent .plain plainBuiltins strayEnd none = (.error e, t) ∧
        t.frames.contains 7 = true := by
  refine ⟨rfl, ?_⟩
  exact ⟨.value "Cannot end frame 7; current open frame is None.", _, rfl, rfl⟩

end FluidGateway.Adapter.RuntimeAdapterSession
