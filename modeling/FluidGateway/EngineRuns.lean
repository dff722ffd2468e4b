import FluidGateway.EngineParity
import FluidGateway.Lib.Lockstep

/-!
# The two engines agree on every run

A session has more state than its engine: the open frame, and on the Python
side statistics of every frame.  `Paired` is the relation between the native
state and the adapter session that every event keeps, answered alike
(`paired_kept`).  So every sequence of events is answered alike
(`engines_agree`), as long as the native engine does not run into one of its
limits.
-/

namespace FluidGateway

open KeyedMap Provenance Resolution Native FluidGateway.Runtime

/-- The events are numbered by the caller, or they are not.  A frame that was
begun and not ended is the open one. -/
structure Counted (indexed : Bool) (current : Option ℤ) (frame : ℤ) (stats : AdapterFrameStats) :
    Prop where
  unnumbered : indexed = false → stats.beginEventIndex = none
  opened : stats.beginEventIndex ≠ none → stats.endEventIndex = none → current = some frame

/-- The native state and the adapter session after the same events. -/
structure Paired (indexed : Bool) (s : State) (t : RuntimeAdapterSession) : Prop where
  agree : Agree s t.controller.optimization
  valid : s.Valid
  recorded : ∃ log, Recorded s log
  reference : t.controller.optimization.Valid
  logged : ∃ log, t.controller.optimization.Logged log
  frame : s.currentFrame.map Int.ofNat = t.currentFrame
  counted : ∀ {frame stats}, t.frames.lookup frame = some stats →
    Counted indexed t.currentFrame frame stats

/-- The native engine did not run into a limit. -/
def Within (out : Except Thrown Decision) : Prop :=
  ∀ x, out = .error x → x.fatal = false

instance (out : Except Thrown Decision) : Decidable (Within out) :=
  match out with
  | .ok _ => isTrue (by intro x hx; cases hx)
  | .error x => decidable_of_iff (x.fatal = false)
      ⟨fun h y hy => by cases hy; exact h, fun h => h x rfl⟩

/-- The same answer from both sides. -/
inductive SameOutcome : Except Thrown Decision → Except String Response → Prop
  | rejected (e : Thrown) (message : String) : SameOutcome (.error e) (.error message)
  | accepted {response : Response} (plain : ∀ result, response ≠ .operation result) :
      SameOutcome (.ok {}) (.ok response)
  | executed {result : ControllerResult} (kept : result.decision = none)
      (executed : result.executed = true) :
      SameOutcome (.ok { opcode := 0, operation := true }) (.ok (.operation result))
  | eliminated {d : Decision} {result : ControllerResult} {decision : RuntimeDecision}
      (operation : d.operation = true) (removed : result.decision = some decision)
      (executed : result.executed = false) (policy : d.opcode = decision.policy.code)
      (ms : (d.savedUs : ℚ) / 1000 = decision.estimatedSavedMs)
      (mb : (d.savedBytes : ℚ) / mebibyte = decision.estimatedSavedMb) :
      SameOutcome (.ok d) (.ok (.operation result))

section Events

variable {casing : Casing} {indexed : Bool} {s : State} {t : RuntimeAdapterSession}

/-! ## Parsing -/

/-- A name is not empty, since it does not vanish when it is trimmed. -/
theorem Name.text_ne (name : Name) : name.text ≠ "" := by
  intro h
  have hvisible := name.visible
  rw [h] at hvisible
  exact hvisible rfl

/-- A text that is not empty is taken, not its default. -/
theorem orElse_of_ne {text default : String} (h : text ≠ "") : orElse text default = text :=
  if_neg h

/-- A number that is not negative is accepted as it is. -/
theorem nonnegativeNumber_of_nonneg {q : ℚ} (h : 0 ≤ q) (name : String) :
    nonnegativeNumber q name = .ok q :=
  if_neg (not_lt.mpr h)

/-- No size in megabytes is negative. -/
theorem megabytes_nonneg (n : Nat) : (0 : ℚ) ≤ n / mebibyte := by
  unfold mebibyte
  positivity

/-- An optional text that was read is not empty. -/
theorem optionalText_ne (value : Option String) : optionalText value ≠ some "" := by
  unfold optionalText
  cases value with
  | none => simp
  | some text =>
      rw [Option.bind_some]
      split_ifs with hblank
      · simp
      · simpa using hblank

/-- The operation that the adapter reads from an event while `frame` is open. -/
def OperationEvent.reference (e : OperationEvent) (frame : Option ℤ) : RuntimeOperation where
  id := strip e.id.text
  type := e.type
  source := optionalText e.source
  target := optionalText e.target
  queue := e.queue.name
  reason := e.reason.getD ""
  costMs := e.microseconds / 1000
  sizeMb := e.bytes / mebibyte
  frame := e.frame.map Int.ofNat <|> frame
  dependsOn := e.dependsOn

/-- The adapter reads the operation of an event without an error, whatever frame is open. -/
theorem parseOperation_eq (t : RuntimeAdapterSession) (e : OperationEvent) :
    parseOperation (t.framed e.payload) = .ok (e.reference t.currentFrame) := by
  have hcost : (0 : ℚ) ≤ e.microseconds / 1000 := by positivity
  have hid : strip (t.framed e.payload).id ≠ "" := e.id.visible
  unfold parseOperation
  rw [if_neg hid]
  simp only [RuntimeAdapterSession.framed, OperationEvent.payload, nonnegativeNumber_of_nonneg hcost,
    nonnegativeNumber_of_nonneg (megabytes_nonneg e.bytes), optionalText_idem,
    orElse_of_ne (Queue.name_ne e.queue)]
  rfl

/-- Both sides are asked for the same operation, once the open frame is the same for both. -/
theorem reference_request (hframe : s.currentFrame.map Int.ofNat = t.currentFrame)
    (e : OperationEvent) : SameRequest (s.framed e.native) (e.reference t.currentFrame) where
  id := by
    rw [State.framed_id]
    simp only [OperationEvent.native, OperationEvent.reference]
  source := rfl
  sourceNamed := optionalText_ne _
  target := rfl
  targetNamed := optionalText_ne _
  reason := rfl
  dependencies := rfl
  frame := by
    change (e.frame <|> s.currentFrame).map Int.ofNat = (e.frame.map Int.ofNat <|> t.currentFrame)
    rw [← hframe]
    cases e.frame <;> rfl
  bytes := rfl
  cost := rfl
  type := rfl
  queue := ⟨e.queue, rfl, rfl⟩

/-! ## One event -/

/-- Naming a frame creates its statistics. -/
theorem frameStats_counted (h : ∀ {frame stats}, t.frames.lookup frame = some stats →
      Counted indexed t.currentFrame frame stats) (frame : ℤ) :
    Counted indexed t.currentFrame frame (t.frameStats frame).1 ∧
      ∀ {k stats}, (t.frameStats frame).2.frames.lookup k = some stats →
        Counted indexed t.currentFrame k stats := by
  unfold RuntimeAdapterSession.frameStats
  cases hlook : t.frames.lookup frame with
  | some stats => exact ⟨h hlook, h⟩
  | none =>
      have hfresh : Counted indexed t.currentFrame frame { frame } :=
        ⟨fun _ => rfl, fun hne => absurd rfl hne⟩
      refine ⟨hfresh, ?_⟩
      intro k stats hk
      by_cases hkf : k = frame
      · subst hkf
        rw [AList.lookup_insert, Option.some.injEq] at hk
        exact hk ▸ hfresh
      · rw [AList.lookup_insert_ne hkf] at hk
        exact h hk

/-- Looking up a frame does not change which one is open. -/
@[simp] theorem frameStats_currentFrame (t : RuntimeAdapterSession) (frame : ℤ) :
    (t.frameStats frame).2.currentFrame = t.currentFrame := by
  unfold RuntimeAdapterSession.frameStats
  split <;> rfl

/-- Looking up a frame does not change the controller. -/
@[simp] theorem frameStats_controller (t : RuntimeAdapterSession) (frame : ℤ) :
    (t.frameStats frame).2.controller = t.controller := by
  unfold RuntimeAdapterSession.frameStats
  split <;> rfl

/-- The native half of an event: its invariants survive. -/
theorem feed_invariants (hs : s.Valid) (hrec : ∃ log, Recorded s log) (e : Grant × SessionEvent)
    (halive : Within (s.feed e).1) :
    (s.feed e).2.Valid ∧ ∃ log, Recorded (s.feed e).2 log := by
  obtain ⟨g, event⟩ := e
  unfold State.feed at halive ⊢
  cases hcall : event.call with
  | none => exact ⟨hs, hrec⟩
  | some call =>
      rw [hcall] at halive
      obtain ⟨log, hlog⟩ := hrec
      exact ⟨Native.Step.post_valid ⟨s, g, call⟩ hs,
        _, Native.Step.post_recorded ⟨s, g, call⟩ hs hlog halive⟩

/-- The adapter does not end a session with an open frame. -/
theorem feed_endSession_open (casing : Casing) {frame : ℤ} (h : t.currentFrame = some frame) (index : Option Nat) :
    ∃ message, t.feed casing (index, .endSession) = (.error message, t) := by
  simp [RuntimeAdapterSession.feed, SessionEvent.payload, RuntimeAdapterSession.processEvent,
    RuntimeAdapterSession.processSessionEvent, h]

/-- The adapter ends a session without an open frame. -/
theorem feed_endSession_closed (h : t.currentFrame = none) (index : Option Nat) :
    t.feed casing (index, .endSession) =
      (.ok (.session .finish t.sessionId true), { t with closed := true }) := by
  simp [RuntimeAdapterSession.feed, SessionEvent.payload, RuntimeAdapterSession.processEvent,
    RuntimeAdapterSession.processSessionEvent, h]

/-- Both sides end the session or refuse to, by the frame that is open. -/
theorem Paired.endSession (h : Paired indexed s t) (g : Grant) (index : Option Nat) :
    SameOutcome (s.feed (g, .endSession)).1 (t.feed casing (index, .endSession)).1 ∧
      Paired indexed (s.feed (g, .endSession)).2 (t.feed casing (index, .endSession)).2 := by
  have hframe := h.frame
  cases hs : s.currentFrame with
  | none =>
      rw [hs, Option.map_none] at hframe
      have hnative : s.feed (g, .endSession) = (.ok {}, s) := by
        simp [State.feed, SessionEvent.call, State.call, State.endSession, Native.plain, hs]
      rw [hnative, feed_endSession_closed hframe.symm]
      exact ⟨.accepted (by intro result hc; cases hc), h.agree, h.valid, h.recorded, h.reference,
        h.logged, h.frame, h.counted⟩
  | some frame =>
      rw [hs, Option.map_some] at hframe
      have hnative : ∃ x, s.feed (g, .endSession) = (.error x, s) := by
        simp [State.feed, SessionEvent.call, State.call, State.endSession, Native.plain, hs]
      obtain ⟨x, hnative⟩ := hnative
      obtain ⟨message, hreference⟩ := feed_endSession_open casing hframe.symm index
      rw [hnative, hreference]
      exact ⟨.rejected _ _, h⟩

/-- A frame event that is refused leaves at most new statistics behind. -/
theorem Paired.frameStats (h : Paired indexed s t) (frame : ℤ) :
    Paired indexed s (t.frameStats frame).2 := by
  refine ⟨?_, h.valid, h.recorded, ?_, ?_, ?_, ?_⟩
  · rw [frameStats_controller]
    exact h.agree
  · rw [frameStats_controller]
    exact h.reference
  · rw [frameStats_controller]
    exact h.logged
  · rw [frameStats_currentFrame]
    exact h.frame
  · rw [frameStats_currentFrame]
    exact (frameStats_counted h.counted frame).2

/-- A frame event that is accepted changes the open frame and the statistics of
this frame. -/
theorem Paired.setFrame (h : Paired indexed s t) (current : Option Nat) {frame : ℤ}
    {stats : AdapterFrameStats} (hone : Counted indexed (current.map Int.ofNat) frame stats)
    (hall : ∀ {k stats}, k ≠ frame → t.frames.lookup k = some stats →
      Counted indexed (current.map Int.ofNat) k stats) :
    Paired indexed { s with currentFrame := current }
      { t with currentFrame := current.map Int.ofNat, frames := t.frames.insert frame stats } := by
  have hledger : ({ s with currentFrame := current } : State).ledger = s.ledger := rfl
  obtain ⟨log, hlog⟩ := h.recorded
  refine ⟨⟨h.agree.ledger, h.agree.allocation, h.agree.buffer, h.agree.table⟩,
    ⟨h.valid.key, h.valid.copy, h.valid.allocation⟩, ⟨log, hlog.congr rfl⟩, h.reference, h.logged,
    rfl, ?_⟩
  intro k found hk
  change (t.frames.insert frame stats).lookup k = some found at hk
  by_cases hkf : k = frame
  · subst hkf
    rw [AList.lookup_insert, Option.some.injEq] at hk
    exact hk ▸ hone
  · rw [AList.lookup_insert_ne hkf] at hk
    exact hall hkf hk

/-- Both sides begin the frame or refuse to, and the statistics of the adapter say which is
open. -/
theorem Paired.beginFrame (h : Paired indexed s t) (g : Grant) (frame : Nat) {index : Option Nat}
    (hindex : index.isSome = indexed) :
    SameOutcome (s.feed (g, .beginFrame frame)).1 (t.feed casing (index, .beginFrame frame)).1 ∧
      Paired indexed (s.feed (g, .beginFrame frame)).2
        (t.feed casing (index, .beginFrame frame)).2 := by
  have hframe := h.frame
  have hnamed := h.frameStats frame
  obtain ⟨hstats, hcounted⟩ := frameStats_counted h.counted (frame : ℤ)
  cases hs : s.currentFrame with
  | some opened =>
      rw [hs, Option.map_some] at hframe
      have hnative : ∃ x, s.feed (g, .beginFrame frame) = (.error x, s) := by
        simp [State.feed, SessionEvent.call, State.call, State.beginFrame, Native.plain, hs]
      have hreference : ∃ message, t.feed casing (index, .beginFrame frame) =
          (.error message, (t.frameStats frame).2) := by
        simp [RuntimeAdapterSession.feed, SessionEvent.payload, RuntimeAdapterSession.processEvent,
          RuntimeAdapterSession.processFrameEvent, ← hframe]
      obtain ⟨x, hnative⟩ := hnative
      obtain ⟨message, hreference⟩ := hreference
      rw [hnative, hreference]
      exact ⟨.rejected _ _, hnamed⟩
  | none =>
      rw [hs, Option.map_none] at hframe
      rw [← hframe] at hstats hcounted
      have hnative : s.feed (g, .beginFrame frame) =
          (.ok {}, { s with currentFrame := some frame }) := by
        simp [State.feed, SessionEvent.call, State.call, State.beginFrame, Native.plain, hs]
      -- no frame is open, so none is begun and not ended
      have hended : ¬ ((t.frameStats frame).1.beginEventIndex ≠ none ∧
          (t.frameStats frame).1.endEventIndex = none) := by
        intro hc
        have hopen := hstats.opened hc.1 hc.2
        cases hopen
      have hreference : t.feed casing (index, .beginFrame frame) =
          (.ok (.frame .begin frame { (t.frameStats frame).1 with beginEventIndex := index }),
            { (t.frameStats frame).2 with
              currentFrame := some (frame : ℤ)
              frames := (t.frameStats frame).2.frames.insert frame
                { (t.frameStats frame).1 with beginEventIndex := index } }) := by
        simp [RuntimeAdapterSession.feed, SessionEvent.payload, RuntimeAdapterSession.processEvent,
          RuntimeAdapterSession.processFrameEvent, ← hframe, hended]
      rw [hnative, hreference]
      refine ⟨.accepted (by intro result hc; cases hc), ?_⟩
      refine hnamed.setFrame (some frame) ⟨?_, fun _ _ => rfl⟩ ?_
      · intro hunnumbered
        rw [hunnumbered] at hindex
        simpa using hindex
      · intro k stats hk hlook
        have hold := hcounted hlook
        refine ⟨hold.unnumbered, ?_⟩
        intro hbegun hnot
        have hopen := hold.opened hbegun hnot
        cases hopen

/-- Both sides end the frame or refuse to. -/
theorem Paired.endFrame (h : Paired indexed s t) (g : Grant) (frame : Nat) {index : Option Nat}
    (hindex : index.isSome = indexed) :
    SameOutcome (s.feed (g, .endFrame frame)).1 (t.feed casing (index, .endFrame frame)).1 ∧
      Paired indexed (s.feed (g, .endFrame frame)).2
        (t.feed casing (index, .endFrame frame)).2 := by
  have hframe := h.frame
  have hnamed := h.frameStats frame
  obtain ⟨hstats, hcounted⟩ := frameStats_counted h.counted (frame : ℤ)
  by_cases hs : s.currentFrame = some frame
  · rw [hs, Option.map_some] at hframe
    rw [← hframe] at hstats hcounted
    have hopened : t.currentFrame = some (frame : ℤ) := hframe.symm
    have hnative : s.feed (g, .endFrame frame) = (.ok {}, { s with currentFrame := none }) := by
      simp [State.feed, SessionEvent.call, State.call, State.endFrame, Native.plain, hs]
    have hreference : t.feed casing (index, .endFrame frame) =
        (.ok (.frame .finish frame { (t.frameStats frame).1 with endEventIndex := index }),
          { (t.frameStats frame).2 with
            currentFrame := none
            frames := (t.frameStats frame).2.frames.insert frame
              { (t.frameStats frame).1 with endEventIndex := index } }) := by
      simp [RuntimeAdapterSession.feed, SessionEvent.payload, RuntimeAdapterSession.processEvent,
        RuntimeAdapterSession.processFrameEvent, hopened]
    rw [hnative, hreference]
    refine ⟨.accepted (by intro result hc; cases hc), ?_⟩
    refine hnamed.setFrame none ⟨hstats.unnumbered, ?_⟩ ?_
    · -- without numbers the frame was never marked as begun
      intro hbegun hnot
      have hnone : index = none := hnot
      rw [hnone, Option.isSome_none] at hindex
      exact absurd (hstats.unnumbered hindex.symm) hbegun
    · intro k stats hk hlook
      have hold := hcounted hlook
      refine ⟨hold.unnumbered, ?_⟩
      intro hbegun hnot
      have hopen := hold.opened hbegun hnot
      exact absurd (Option.some.inj hopen).symm hk
  · have hnot : t.currentFrame ≠ some (frame : ℤ) := by
      rw [← hframe]
      intro hc
      exact hs (frame_inj.mp hc)
    have hnative : ∃ x, s.feed (g, .endFrame frame) = (.error x, s) := by
      simp [State.feed, SessionEvent.call, State.call, State.endFrame, Native.plain, hs]
    have hreference : ∃ message, t.feed casing (index, .endFrame frame) =
        (.error message, (t.frameStats frame).2) := by
      simp [RuntimeAdapterSession.feed, SessionEvent.payload, RuntimeAdapterSession.processEvent,
        RuntimeAdapterSession.processFrameEvent, hnot]
    obtain ⟨x, hnative⟩ := hnative
    obtain ⟨message, hreference⟩ := hreference
    rw [hnative, hreference]
    exact ⟨.rejected _ _, hnamed⟩

/-- The session after the optimization state has changed. -/
theorem Paired.of_engine {s' : State} {controller : FluidGatewayController}
    (h : Paired indexed s t) (hagree : Agree s' controller.optimization)
    (hvalid : s'.Valid ∧ ∃ log, Recorded s' log) (hreference : controller.optimization.Valid)
    (hlogged : ∃ log, controller.optimization.Logged log)
    (hframe : s'.currentFrame = s.currentFrame) : Paired indexed s' { t with controller } :=
  ⟨hagree, hvalid.1, hvalid.2, hreference, hlogged, by rw [hframe]; exact h.frame, h.counted⟩

/-- What a session makes of the answer to a registration. -/
def registered (t : RuntimeAdapterSession) :
    Except String RuntimeResource × FluidGatewayController →
      Except String Response × RuntimeAdapterSession
  | (.error e, controller) => (.error e, { t with controller })
  | (.ok resource, controller) => (.ok (.registered resource), { t with controller })

/-- What a session makes of the answer to an operation. -/
def processed (t : RuntimeAdapterSession) :
    Except String ControllerResult × FluidGatewayController →
      Except String Response × RuntimeAdapterSession
  | (.error e, controller) => (.error e, { t with controller })
  | (.ok result, controller) =>
    match result.operation.frame with
    | some frame => (.ok (.operation result), ({ t with controller }.frameStats frame).2)
    | none => (.ok (.operation result), { t with controller })

/-- Both sides register the resource, as long as the native engine is within its limits. -/
theorem Paired.register (h : Paired indexed s t) (g : Grant) (id : Name) (kind : ResourceType)
    (memory : MemoryLayer) (lifetime : String) (bytes : Nat) (aliases : List String)
    (index : Option Nat)
    (halive : Within (s.feed (g, .register id kind memory lifetime bytes aliases)).1) :
    SameOutcome (s.feed (g, .register id kind memory lifetime bytes aliases)).1
        (t.feed casing (index, .register id kind memory lifetime bytes aliases)).1 ∧
      Paired indexed (s.feed (g, .register id kind memory lifetime bytes aliases)).2
        (t.feed casing (index, .register id kind memory lifetime bytes aliases)).2 := by
  have hinvariants := feed_invariants h.valid h.recorded _ halive
  have hknown := h.agree.known_iff id.visible
  -- the resource that the adapter reads from the event
  let resource : RuntimeResource :=
    { id := strip id.text, kind, memory, sizeMb := bytes / mebibyte,
      lifetime := orElse (orElse lifetime "unknown") "unknown", aliases }
  have hparse : parseResource id.text kind memory (orElse lifetime "unknown") (bytes / mebibyte)
      aliases = .ok resource := by
    unfold parseResource
    rw [if_neg id.visible, nonnegativeNumber_of_nonneg (megabytes_nonneg bytes)]
  have hreference : t.feed casing (index, .register id kind memory lifetime bytes aliases) =
      registered t (t.controller.registerResource resource) := by
    unfold registered
    rcases hregister : t.controller.registerResource resource with ⟨out | out, controller⟩ <;>
      simp only [RuntimeAdapterSession.feed, SessionEvent.payload,
        RuntimeAdapterSession.processEvent, RuntimeAdapterSession.processResourceEvent,
        FluidGatewayController.registerResourceEvent, if_neg id.text_ne, hparse, hregister]
  by_cases hnew : s.resources.lookup (utf8 (strip id.text)) = none
  · have hfree : t.controller.optimization.resources.contains (strip id.text) = false := by
      rw [← Bool.not_eq_true, ResourceTable.contains_iff, not_not]
      exact hknown.mp hnew
    have hcall : s.feed (g, .register id kind memory lifetime bytes aliases) =
        Native.plain s (s.registerResource g (utf8 (strip id.text)) memory.code
          (aliases.map utf8)) := rfl
    have hnative : s.feed (g, .register id kind memory lifetime bytes aliases) =
        (.ok {}, { s with
          resources := s.resources.insert (utf8 (strip id.text))
            { aliases := aliases.map utf8, memory := memory.code } }) := by
      rw [hcall] at halive ⊢
      unfold State.registerResource at halive ⊢
      rw [if_neg (not_not.mpr hnew)] at halive ⊢
      by_cases hfull : s.resources.entries.length = resourceLimit
      · rw [if_pos hfull] at halive
        exact absurd (halive _ rfl) (by simp [Thrown.fatal])
      rw [if_neg hfull] at halive ⊢
      by_cases hroom : g.room = 0
      · rw [if_pos hroom] at halive
        exact absurd (halive _ rfl) (by simp)
      · rw [if_neg hroom]
        rfl
    have hregister : t.controller.registerResource resource =
        (.ok resource, { t.controller with
          optimization := { t.controller.optimization with
            resources := t.controller.optimization.resources.insert resource } }) := by
      unfold FluidGatewayController.registerResource RuntimeOptimizationState.register
      rw [hfree]
      rfl
    rw [hregister] at hreference
    rw [hnative] at hinvariants ⊢
    rw [hreference]
    obtain ⟨log, hlog⟩ := h.logged
    have hagree : Agree
        { s with
          resources := s.resources.insert (utf8 (strip id.text))
            { aliases := resource.aliases.map utf8, memory := resource.memory.code } }
        { t.controller.optimization with
          resources := t.controller.optimization.resources.insert resource } :=
      h.agree.register h.reference id.visible rfl (hknown.mp hnew)
    refine ⟨.accepted (by intro result hc; cases hc), ?_⟩
    exact h.of_engine hagree hinvariants (h.reference.register resource)
      ⟨log, hlog.register resource⟩ rfl
  · have htaken : t.controller.optimization.resources.contains (strip id.text) = true := by
      rw [ResourceTable.contains_iff]
      exact mt hknown.mpr hnew
    have hnative : ∃ x, s.feed (g, .register id kind memory lifetime bytes aliases) =
        (.error x, s) := by
      have hcall : s.feed (g, .register id kind memory lifetime bytes aliases) =
          Native.plain s (s.registerResource g (utf8 (strip id.text)) memory.code
            (aliases.map utf8)) := rfl
      rw [hcall]
      unfold State.registerResource
      rw [if_pos hnew]
      exact ⟨_, rfl⟩
    have hregister : ∃ message, t.controller.registerResource resource =
        (.error message, t.controller) := by
      unfold FluidGatewayController.registerResource RuntimeOptimizationState.register
      rw [htaken]
      exact ⟨_, rfl⟩
    obtain ⟨x, hnative⟩ := hnative
    obtain ⟨message, hregister⟩ := hregister
    rw [hregister] at hreference
    rw [hnative, hreference]
    exact ⟨.rejected _ _, h⟩

/-- Both sides release the resource and answer alike, known or not. -/
theorem Paired.release (h : Paired indexed s t) (g : Grant) (id : Name) (index : Option Nat) :
    SameOutcome (s.feed (g, .release id)).1 (t.feed casing (index, .release id)).1 ∧
      Paired indexed (s.feed (g, .release id)).2 (t.feed casing (index, .release id)).2 := by
  have hinvariants := feed_invariants h.valid h.recorded (g, .release id) (by intro x hx; cases hx)
  have hnative : s.feed (g, .release id) =
      (.ok {}, s.releaseResource (utf8 (strip id.text))) := rfl
  have hreference : ∃ released, t.feed casing (index, .release id) =
      (.ok (.released (strip id.text) released), { t with
        controller := { t.controller with
          optimization := (t.controller.optimization.releaseResource (strip id.text)).2 } }) := by
    simp only [RuntimeAdapterSession.feed, SessionEvent.payload,
      RuntimeAdapterSession.processEvent, RuntimeAdapterSession.processResourceEvent,
      if_neg id.visible]
    exact ⟨_, rfl⟩
  obtain ⟨released, hreference⟩ := hreference
  obtain ⟨log, hlog⟩ := h.logged
  rw [hnative] at hinvariants ⊢
  rw [hreference]
  refine ⟨.accepted (by intro result hc; cases hc), ?_⟩
  exact h.of_engine (h.agree.release id.visible) hinvariants (h.reference.release _)
    ⟨log, hlog.release _⟩ (State.invalidate_currentFrame _ _)

/-- Both sides decide alike about the operation: the policies agree by the lemma about one
operation, and what is saved is the same in the units of the wire. -/
theorem Paired.process (h : Paired indexed s t) (g : Grant) (e : OperationEvent)
    (index : Option Nat)
    (halive : Within (s.feed (g, .process e)).1) :
    SameOutcome (s.feed (g, .process e)).1 (t.feed casing (index, .process e)).1 ∧
      Paired indexed (s.feed (g, .process e)).2 (t.feed casing (index, .process e)).2 := by
  have hinvariants := feed_invariants h.valid h.recorded _ halive
  obtain ⟨log, hrec⟩ := h.recorded
  obtain ⟨log', hlog⟩ := h.logged
  have hnative : s.feed (g, .process e) = s.process g e.native := rfl
  rw [hnative] at halive hinvariants ⊢
  obtain ⟨hverdict, hagree⟩ := h.agree.process casing h.valid h.reference hrec hlog
    (reference_request h.frame e) g halive
  have hspec := t.controller.optimization.process_spec casing (e.reference t.currentFrame)
  have hframe := (s.process_spec g e.native).currentFrame
  have hid : (t.framed e.payload).id ≠ "" := e.id.text_ne
  have hreference : t.feed casing (index, .process e) =
      processed t (t.controller.submitOperation casing (e.reference t.currentFrame)) := by
    unfold processed
    have hsubmitted : t.controller.submitOperationEvent casing (t.framed e.payload) =
        t.controller.submitOperation casing (e.reference t.currentFrame) := by
      unfold FluidGatewayController.submitOperationEvent
      rw [if_neg hid, parseOperation_eq]
    rcases hresult : t.controller.submitOperation casing (e.reference t.currentFrame) with
      ⟨message | result, controller⟩
    · simp only [RuntimeAdapterSession.feed, SessionEvent.payload,
        RuntimeAdapterSession.processEvent, RuntimeAdapterSession.processOperationEvent,
        hsubmitted, hresult]
    · cases hf : result.operation.frame <;>
        simp only [RuntimeAdapterSession.feed, SessionEvent.payload,
          RuntimeAdapterSession.processEvent, RuntimeAdapterSession.processOperationEvent,
          hsubmitted, hresult, hf]
  unfold processed FluidGatewayController.submitOperation at hreference
  generalize t.controller.optimization.process casing (e.reference t.currentFrame) = answer
    at hverdict hagree hspec hreference
  generalize s.process g e.native = outcome at hverdict hagree hinvariants hframe ⊢
  obtain ⟨out, s'⟩ := outcome
  obtain ⟨out', optimization⟩ := answer
  have hvalid := hspec.valid h.reference
  cases hverdict with
  | rejected x message =>
      rw [hreference]
      cases hspec with
      | duplicate => exact ⟨.rejected _ _, h.of_engine hagree hinvariants hvalid h.logged hframe⟩
  | executed kept =>
      have hkept : Paired indexed s' { t with controller := { t.controller with
          optimization, executedOperations := t.controller.executedOperations ++ [kept] } } :=
        h.of_engine hagree hinvariants hvalid ⟨_, hspec.logged hlog⟩ hframe
      dsimp only at hreference
      rw [hreference]
      cases hf : kept.frame with
      | some frame => exact ⟨.executed rfl rfl, hkept.frameStats frame⟩
      | none => exact ⟨.executed rfl rfl, hkept⟩
  | @eliminated d kept decision operation policy ms mb =>
      have hkept : Paired indexed s' { t with controller := { t.controller with
          optimization, decisions := t.controller.decisions ++ [decision] } } :=
        h.of_engine hagree hinvariants hvalid ⟨_, hspec.logged hlog⟩ hframe
      dsimp only at hreference
      rw [hreference]
      cases hf : kept.frame with
      | some frame =>
          exact ⟨.eliminated operation rfl rfl policy ms mb, hkept.frameStats frame⟩
      | none => exact ⟨.eliminated operation rfl rfl policy ms mb, hkept⟩

end Events

/-! ## Every run -/

/-- What the two sides are fed: the same event, and a number for the adapter
exactly when its caller numbers events. -/
def SameInput (indexed : Bool) (e : Grant × SessionEvent) (e' : Option Nat × SessionEvent) : Prop :=
  e.2 = e'.2 ∧ e'.1.isSome = indexed

/-- Both sides answer any event alike and stay paired. The cases are the events. -/
theorem paired_feed {casing : Casing} {indexed : Bool} {s : State} {t : RuntimeAdapterSession}
    {e : Grant × SessionEvent} {e' : Option Nat × SessionEvent} (h : Paired indexed s t)
    (hin : SameInput indexed e e') (hwithin : Within (s.feed e).1) :
    SameOutcome (s.feed e).1 (t.feed casing e').1 ∧
      Paired indexed (s.feed e).2 (t.feed casing e').2 := by
  obtain ⟨g, event⟩ := e
  obtain ⟨index, event'⟩ := e'
  obtain ⟨rfl, hindex⟩ := hin
  cases event with
  | beginSession id =>
      refine ⟨.accepted (by intro result hc; cases hc), ?_⟩
      exact ⟨h.agree, h.valid, h.recorded, h.reference, h.logged, h.frame, h.counted⟩
  | endSession => exact h.endSession g index
  | beginFrame frame => exact h.beginFrame g frame hindex
  | endFrame frame => exact h.endFrame g frame hindex
  | register id kind memory lifetime bytes aliases =>
      exact h.register g id kind memory lifetime bytes aliases index hwithin
  | release id => exact h.release g id index
  | process operation => exact h.process g operation index hwithin

/-- **Every event keeps the sessions paired, and is answered alike.** -/
theorem paired_kept (casing : Casing) (indexed : Bool) :
    Lockstep.Kept State.feed (RuntimeAdapterSession.feed casing) Within (SameInput indexed)
      SameOutcome (Paired indexed) where
  answer := fun h hin hwithin => (paired_feed h hin hwithin).1
  state := fun h hin hwithin => (paired_feed h hin hwithin).2

/-- A fresh state and a fresh session are paired. -/
theorem paired_start (indexed : Bool) (sessionId : String) :
    Paired indexed {} { sessionId } := by
  refine ⟨⟨⟨?_, ?_, ?_, ?_⟩, ?_, ?_, ?_⟩, valid_empty, ⟨[], Agrees.empty, ?_, ?_⟩,
    RuntimeOptimizationState.valid_start _, ⟨[], RuntimeOptimizationState.logged_start _⟩, rfl, ?_⟩
  · intro k _
    exact .none
  · intro k _
    exact .none
  · intro k hk
    exact absurd rfl hk
  · intro k hk
    exact absurd rfl hk
  · intro id r _ hr
    cases hr
  · intro id operation _ hoperation
    cases hoperation
  · intro id
    rfl
  · intro id op hop
    cases hop
  · intro e he
    cases he
  · intro frame stats hlook
    cases hlook

/-- **The native engine and the Python reference agree on every run.**  For
every sequence of session events, as long as the native engine runs into no
limit, both accept and reject the same events, and every accepted operation
gets the same decision with the same savings. -/
theorem engines_agree (casing : Casing) (indexed : Bool) (sessionId : String)
    {events : List (Grant × SessionEvent)} {numbered : List (Option Nat × SessionEvent)}
    (hsame : List.Forall₂ (SameInput indexed) events numbered)
    (hwithin : ∀ out ∈ Lockstep.outputs State.feed {} events, Within out) :
    List.Forall₂ SameOutcome (Lockstep.outputs State.feed {} events)
      (Lockstep.outputs (RuntimeAdapterSession.feed casing) { sessionId } numbered) :=
  ((paired_kept casing indexed).outputs (paired_start indexed sessionId) hsame hwithin).1

/-- Two resources that share an alias in different layers, two equal copies in
one frame, and a wait for the second. -/
def sampleEvents : List SessionEvent :=
  let a : Name := ⟨" a ", by decide⟩
  let b : Name := ⟨"b", by decide⟩
  [.beginSession "demo", .register a .buffer .ram "frame" 64 ["shared"],
   .register b .buffer .vram "frame" 64 ["shared"], .beginFrame 1,
   .process { id := ⟨"first", by decide⟩, type := .copy, source := some "a",
              target := some "b ", bytes := 64, microseconds := 5 },
   .process { id := ⟨"second", by decide⟩, type := .copy, source := some " a",
              target := some "b", bytes := 64, microseconds := 5 },
   .process { id := ⟨"wait", by decide⟩, type := .sync, microseconds := 3,
              dependsOn := ["second"] },
   .endFrame 1, .beginFrame 1, .endSession]

/-- A run with a deduplicated copy and a session that cannot end yet. -/
theorem engines_agree_sample :
    List.Forall₂ SameOutcome
        (Lockstep.outputs State.feed {} (sampleEvents.map fun e => ({ room := 9 }, e)))
        (Lockstep.outputs (RuntimeAdapterSession.feed .plain) {}
          (sampleEvents.map fun e => (some 1, e))) ∧
      (Lockstep.outputs State.feed {} (sampleEvents.map fun e => ({ room := 9 }, e)))[5]? =
        some (.ok { opcode := 2, operation := true, savedUs := 5, savedBytes := 64 }) := by
  refine ⟨engines_agree .plain true "default" ?_ ?_, by decide⟩
  · rw [List.forall₂_map_left_iff, List.forall₂_map_right_iff, List.forall₂_same]
    intro e _
    exact ⟨rfl, rfl⟩
  · decide

end FluidGateway
