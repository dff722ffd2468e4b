import Mathlib.Data.List.Basic
import Mathlib.Logic.Function.Basic
import Mathlib.Tactic.Common

/-!
# Handing sockets over

What a listener with a fixed row of workers is for, without threads and locks.
The listener holds at most one socket and offers it to the workers in their
order.  A worker has a slot for one socket and serves at most one.  The history
of a socket, `trail`, is then determined by where the socket is (`Traced`).
-/

namespace FluidGateway.Pool

/-- A worker that has turned a socket down, with its flags at that moment. -/
structure Refusal (ω : Type) where
  worker : ω
  busy : Bool
  exiting : Bool
  deriving DecidableEq, Repr

/-- What happens to sockets: the listener accepts one, a worker turns it down or is given
it, and serves it from a beginning to an end, or the listener closes it. -/
inductive Event (ω : Type) where
  | accepted (c : Nat)
  | refused (c : Nat) (r : Refusal ω)
  | assigned (c : Nat) (w : ω)
  | closed (c : Nat)
  | began (c : Nat) (w : ω)
  | ended (c : Nat) (w : ω)
  deriving DecidableEq, Repr

/-- Where a socket is. -/
inductive Phase (ω : Type) where
  | unseen | offered
  | waiting (w : ω)
  | serving (w : ω)
  | ended (w : ω)
  | closed
  deriving DecidableEq, Repr

variable {ω : Type}

namespace Event

/-- The socket that an event is about. -/
@[grind =]
def socket : Event ω → Nat
  | accepted c | refused c _ | assigned c _ | closed c | began c _ | ended c _ => c

/-- The refusal that an event is, if it is one. -/
@[grind =]
def refusal : Event ω → Option (Refusal ω)
  | refused _ r => some r
  | _ => none

/-- The event is the beginning or the end of a connection at the worker. -/
@[grind =]
def service [DecidableEq ω] (w : ω) : Event ω → Bool
  | began _ v | ended _ v => v = w
  | _ => false

/-- Where a socket is after an event about it. -/
@[grind =]
def phase : Event ω → Phase ω
  | accepted _ | refused _ _ => .offered
  | assigned _ w => .waiting w
  | began _ w => .serving w
  | ended _ w => .ended w
  | closed _ => .closed

end Event

/-- What has happened to a socket. -/
def trail (log : List (Event ω)) (c : Nat) : List (Event ω) :=
  log.filter fun e => e.socket = c

/-- The workers that have turned a socket down, in the order of their answers. -/
def refusals (log : List (Event ω)) (c : Nat) : List (Refusal ω) :=
  (trail log c).filterMap Event.refusal

/-- Where a socket is: its last event says so. -/
def phase (log : List (Event ω)) (c : Nat) : Phase ω :=
  ((trail log c).getLast?.map Event.phase).getD .unseen

/-- The history of a socket that some workers have turned down. -/
def offered (c : Nat) (refusals : List (Refusal ω)) : List (Event ω) :=
  .accepted c :: refusals.map (.refused c)

/-- The beginnings and ends at a worker, and the connection that has not ended:
one connection at a time. -/
inductive InTurn (w : ω) : List (Event ω) → Option Nat → Prop
  | nil : InTurn w [] none
  | begin {events : List (Event ω)} (c : Nat) (h : InTurn w events none) :
      InTurn w (events ++ [.began c w]) (some c)
  | end {events : List (Event ω)} {c : Nat} (h : InTurn w events (some c)) :
      InTurn w (events ++ [.ended c w]) none

/-- The state of the abstract system: sockets are numbered as they are accepted. -/
structure Handoff (ω : Type) where
  accepted : Nat := 0
  /-- The socket that the listener holds, with the workers left to ask. -/
  hands : Option (Nat × List ω) := none
  slot : ω → Option Nat := fun _ => none
  serving : ω → Option Nat := fun _ => none

namespace Handoff

variable [DecidableEq ω] (workers : List ω)

/-- What may happen next. A worker turns a socket down only if it is busy or exiting, and is
given one only if it has none. -/
inductive Step (s : Handoff ω) : Event ω → Handoff ω → Prop
  | accept (h : s.hands = none) :
      Step s (.accepted s.accepted)
        { s with accepted := s.accepted + 1, hands := some (s.accepted, workers) }
  | refuse {c : Nat} {r : Refusal ω} {left : List ω} (h : s.hands = some (c, r.worker :: left))
      (hflags : r.busy = true ∨ r.exiting = true) :
      Step s (.refused c r) { s with hands := some (c, left) }
  | assign {c : Nat} {w : ω} {left : List ω} (h : s.hands = some (c, w :: left))
      (hslot : s.slot w = none) (hserving : s.serving w = none) :
      Step s (.assigned c w)
        { s with hands := none, slot := Function.update s.slot w (some c) }
  | close {c : Nat} (h : s.hands = some (c, [])) : Step s (.closed c) { s with hands := none }
  | begin {c : Nat} {w : ω} (hslot : s.slot w = some c) (hserving : s.serving w = none) :
      Step s (.began c w)
        { s with slot := Function.update s.slot w none,
                 serving := Function.update s.serving w (some c) }
  | end {c : Nat} {w : ω} (h : s.serving w = some c) :
      Step s (.ended c w) { s with serving := Function.update s.serving w none }

/-- The logs that are possible, with the states they lead to. -/
inductive Steps : List (Event ω) → Handoff ω → Prop
  | start : Steps [] {}
  | step {log : List (Event ω)} {e : Event ω} {s s' : Handoff ω} (h : Steps log s)
      (hstep : s.Step workers e s') : Steps (log ++ [e]) s'

end Handoff

/-! ## One more event -/

section

variable (log : List (Event ω)) (e : Event ω) (c : Nat)

/-- An event adds to the history of its socket and of no other. -/
@[grind =] theorem trail_append :
    trail (log ++ [e]) c = if e.socket = c then trail log c ++ [e] else trail log c := by
  unfold trail
  rw [List.filter_append]
  by_cases h : e.socket = c <;> simp [h]

/-- An event moves its socket and no other. -/
@[grind =] theorem phase_append :
    phase (log ++ [e]) c = if e.socket = c then e.phase else phase log c := by
  unfold phase
  rw [trail_append]
  by_cases h : e.socket = c <;> simp [h]

/-- A refusal adds to those of its socket, any other event to none. -/
@[grind =] theorem refusals_append :
    refusals (log ++ [e]) c =
      if e.socket = c then refusals log c ++ e.refusal.toList else refusals log c := by
  unfold refusals
  rw [trail_append]
  by_cases h : e.socket = c
  · rw [if_pos h, if_pos h, List.filterMap_append]
    cases e <;> rfl
  · rw [if_neg h, if_neg h]

end

/-- Every event is in the history of its socket. -/
theorem mem_trail {log : List (Event ω)} {e : Event ω} : e ∈ trail log e.socket ↔ e ∈ log := by
  simp [trail]

/-- A socket that has only been turned down was given to nobody. -/
theorem assigned_not_offered (c d : Nat) (w : ω) (refusals : List (Refusal ω)) :
    .assigned d w ∉ offered c refusals := by
  simp [offered]

/-! ## The history of a socket -/

/-- The history of a socket that is in the phase. -/
@[grind =]
def Phase.trail (c : Nat) (refusals : List (Refusal ω)) : Phase ω → List (Event ω)
  | unseen => []
  | offered => Pool.offered c refusals
  | waiting w => Pool.offered c refusals ++ [.assigned c w]
  | serving w => Pool.offered c refusals ++ [.assigned c w, .began c w]
  | ended w => Pool.offered c refusals ++ [.assigned c w, .began c w, .ended c w]
  | closed => Pool.offered c refusals ++ [.closed c]

/-- The workers that have been asked are the first ones. -/
@[grind =]
def Phase.Asked (workers asked : List ω) : Phase ω → Prop
  | waiting w | serving w | ended w => asked ++ [w] <+: workers
  | closed => asked = workers
  | unseen | offered => True

/-- What holds of a socket after any number of events. -/
structure Traced (workers : List ω) (s : Handoff ω) (log : List (Event ω)) (c : Nat) : Prop where
  unseen : phase log c = .unseen ↔ s.accepted ≤ c
  offered : phase log c = .offered ↔ s.hands.map Prod.fst = some c
  waiting : ∀ w, phase log c = .waiting w ↔ s.slot w = some c
  serving : ∀ w, phase log c = .serving w ↔ s.serving w = some c
  trail : Pool.trail log c = (phase log c).trail c (refusals log c)
  flags : ∀ r ∈ refusals log c, r.busy = true ∨ r.exiting = true
  asked : (phase log c).Asked workers ((refusals log c).map Refusal.worker)
  asking : ∀ left, s.hands = some (c, left) →
    (refusals log c).map Refusal.worker ++ left = workers

namespace Traced

variable {workers : List ω} {s s' : Handoff ω} {log : List (Event ω)} {e : Event ω} {c : Nat}

/-- Before any event a socket is unseen, and nothing is known of it. -/
theorem start : Traced workers {} [] c where
  unseen := by simp [phase, Pool.trail]
  offered := by simp [phase, Pool.trail]
  waiting _ := by simp [phase, Pool.trail]
  serving _ := by simp [phase, Pool.trail]
  trail := rfl
  flags _ h := by cases h
  asked := trivial
  asking _ h := by cases h

/-- A socket that has not been accepted has been turned down by nobody. -/
theorem refusals_unseen (ht : Traced workers s log c) (h : phase log c = .unseen) :
    refusals log c = [] := by
  have htrail := ht.trail
  rw [h] at htrail
  unfold refusals
  rw [htrail]
  rfl

/-- The workers asked so far are the first ones, with the next one after them. -/
theorem first_asked {asked left : List ω} {w : ω} (h : asked ++ w :: left = workers) :
    asked ++ [w] <+: workers :=
  ⟨left, by rw [List.append_assoc]; exact h⟩

section

variable [DecidableEq ω]

/-- A step keeps apart what has not been accepted, what the listener holds, and the rest. -/
theorem step_phase (ht : Traced workers s log c) (h : s.Step workers e s') :
    (phase (log ++ [e]) c = .unseen ↔ s'.accepted ≤ c) ∧
      (phase (log ++ [e]) c = .offered ↔ s'.hands.map Prod.fst = some c) := by
  obtain ⟨hunseen, hoffered, hwaiting, hserving, -, -, -, -⟩ := ht
  cases h <;> grind

/-- A step keeps it so that a socket waits exactly in the slot of its worker. -/
theorem step_waiting (ht : Traced workers s log c) (h : s.Step workers e s') (w : ω) :
    phase (log ++ [e]) c = .waiting w ↔ s'.slot w = some c := by
  obtain ⟨hunseen, hoffered, hwaiting, hserving, -, -, -, -⟩ := ht
  cases h <;> simp only [Function.update_apply] <;> grind

/-- A step keeps it so that a socket is served exactly by the worker that says so. -/
theorem step_serving (ht : Traced workers s log c) (h : s.Step workers e s') (w : ω) :
    phase (log ++ [e]) c = .serving w ↔ s'.serving w = some c := by
  obtain ⟨hunseen, hoffered, hwaiting, hserving, -, -, -, -⟩ := ht
  cases h <;> simp only [Function.update_apply] <;> grind

/-- A step keeps every history in one of the shapes that its phase allows. -/
theorem step_trail (ht : Traced workers s log c) (h : s.Step workers e s') :
    Pool.trail (log ++ [e]) c =
      (phase (log ++ [e]) c).trail c (refusals (log ++ [e]) c) := by
  have hnone := ht.refusals_unseen
  obtain ⟨hunseen, hoffered, hwaiting, hserving, htrail, -, -, -⟩ := ht
  cases h <;> simp only [trail_append, phase_append, refusals_append, Event.socket, Event.phase,
    Event.refusal, Option.toList_some, Option.toList_none, List.append_nil] <;> grind [Pool.offered]

/-- A step adds a refusal only by a worker that is busy or exiting. -/
theorem step_flags (ht : Traced workers s log c) (h : s.Step workers e s') :
    ∀ r ∈ refusals (log ++ [e]) c, r.busy = true ∨ r.exiting = true := by
  have hflags := ht.flags
  cases h <;> simp only [refusals_append, Event.socket, Event.refusal, Option.toList_some,
    Option.toList_none, List.append_nil] <;> grind

/-- A step keeps it so that workers are asked in their order, each once, until one takes the
socket. -/
theorem step_asked (ht : Traced workers s log c) (h : s.Step workers e s') :
    (phase (log ++ [e]) c).Asked workers ((refusals (log ++ [e]) c).map Refusal.worker) := by
  obtain ⟨-, hoffered, hwaiting, hserving, -, -, hasked, hasking⟩ := ht
  cases h <;> simp only [phase_append, refusals_append, Event.socket, Event.phase, Event.refusal,
    Option.toList_some, Option.toList_none, List.append_nil] <;> grind [first_asked]

/-- While the listener asks, the workers that have refused and those that are left are all
workers. -/
theorem step_asking (ht : Traced workers s log c) (h : s.Step workers e s') (left : List ω)
    (hands : s'.hands = some (c, left)) :
    (refusals (log ++ [e]) c).map Refusal.worker ++ left = workers := by
  have hnone := ht.refusals_unseen
  obtain ⟨hunseen, hoffered, -, -, -, -, -, hasking⟩ := ht
  cases h <;> simp only [refusals_append, Event.socket, Event.refusal, Option.toList_some,
    Option.toList_none, List.append_nil] <;> grind

/-- A step keeps all of this for every socket. -/
theorem step (ht : Traced workers s log c) (h : s.Step workers e s') :
    Traced workers s' (log ++ [e]) c :=
  ⟨(ht.step_phase h).1, (ht.step_phase h).2, ht.step_waiting h, ht.step_serving h,
    ht.step_trail h, ht.step_flags h, ht.step_asked h, ht.step_asking h⟩

end

end Traced

section

variable [DecidableEq ω] {workers : List ω} {s s' : Handoff ω} {log : List (Event ω)}
  {e : Event ω}

/-- A worker begins when it serves nothing, and ends what it serves. -/
theorem InTurn.step {w : ω} (hw : InTurn w (log.filter (Event.service w)) (s.serving w))
    (h : s.Step workers e s') :
    InTurn w ((log ++ [e]).filter (Event.service w)) (s'.serving w) := by
  rw [List.filter_append]
  cases h with
  | @begin c v hslot hserving =>
      by_cases hv : v = w
      · subst hv
        rw [hserving] at hw
        simpa [Event.service] using hw.begin c
      · simpa [Event.service, hv, Function.update_of_ne (Ne.symm hv)] using hw
  | @«end» c v hserving =>
      by_cases hv : v = w
      · subst hv
        rw [hserving] at hw
        simpa [Event.service] using hw.end
      · simpa [Event.service, hv, Function.update_of_ne (Ne.symm hv)] using hw
  | _ => simpa [Event.service] using hw

namespace Handoff.Steps

/-- It holds in every state that is reached, by induction on the log. -/
theorem traced (h : Steps workers log s) (c : Nat) : Traced workers s log c := by
  induction h with
  | start => exact Traced.start
  | step _ hstep ih => exact ih.step hstep

/-- A worker serves one connection at a time in every log. -/
theorem inTurn (h : Steps workers log s) (w : ω) :
    InTurn w (log.filter (Event.service w)) (s.serving w) := by
  induction h with
  | start => exact .nil
  | step _ hstep ih => exact ih.step hstep

/-- **The history of a socket so far.**  It has not been accepted; or the listener
holds it, or has closed it once every worker had turned it down; or one worker
has it in its slot, serves it or has served it. -/
theorem history (h : Steps workers log s) (c : Nat) :
    (s.accepted ≤ c ∧ trail log c = []) ∨
    c < s.accepted ∧ ∃ refusals : List (Refusal ω),
      (∀ r ∈ refusals, r.busy = true ∨ r.exiting = true) ∧
      ((∃ left, s.hands = some (c, left) ∧ refusals.map Refusal.worker ++ left = workers ∧
          trail log c = offered c refusals) ∨
        (refusals.map Refusal.worker = workers ∧
          trail log c = offered c refusals ++ [.closed c]) ∨
        ∃ w, refusals.map Refusal.worker ++ [w] <+: workers ∧
          ((s.slot w = some c ∧ trail log c = offered c refusals ++ [.assigned c w]) ∨
            (s.serving w = some c ∧
              trail log c = offered c refusals ++ [.assigned c w, .began c w]) ∨
            trail log c = offered c refusals ++ [.assigned c w, .began c w, .ended c w])) := by
  have ht := h.traced c
  obtain ⟨hunseen, hoffered, hwaiting, hserving, htrail, hflags, hasked, hasking⟩ := ht
  by_cases hseen : s.accepted ≤ c
  · rw [hunseen.mpr hseen] at htrail
    exact .inl ⟨hseen, htrail⟩
  · refine .inr ⟨Nat.lt_of_not_le hseen, refusals log c, hflags, ?_⟩
    cases hphase : phase log c with
    | unseen => exact absurd (hunseen.mp hphase) hseen
    | offered =>
        rw [hphase] at htrail
        obtain ⟨⟨d, left⟩, hands, rfl⟩ := Option.map_eq_some_iff.mp (hoffered.mp hphase)
        exact .inl ⟨left, hands, hasking left hands, htrail⟩
    | closed =>
        rw [hphase] at htrail hasked
        exact .inr (.inl ⟨hasked, htrail⟩)
    | waiting w =>
        rw [hphase] at htrail hasked
        exact .inr (.inr ⟨w, hasked, .inl ⟨(hwaiting w).mp hphase, htrail⟩⟩)
    | serving w =>
        rw [hphase] at htrail hasked
        exact .inr (.inr ⟨w, hasked, .inr (.inl ⟨(hserving w).mp hphase, htrail⟩)⟩)
    | ended w =>
        rw [hphase] at htrail hasked
        exact .inr (.inr ⟨w, hasked, .inr (.inr htrail)⟩)

end Handoff.Steps

end

end FluidGateway.Pool
