import FluidGateway.WorkerPool
import Mathlib.Tactic.Common

/-!
# Every accepted socket is handled once

What any number of threads keep.  A worker is marked busy from its assignment to
the end of its connection, so its slot is empty whenever it is not busy; it
exits only with an empty slot; and it never sleeps on a socket that it has not
been told of.  Hence every run of the pool is a run of `Handoff`, where the
history of a socket is known.
-/

namespace FluidGateway.Pool

variable {n : Nat}

namespace Pc

/-- The thread holds the mutex. -/
@[grind =]
def inside : Pc → Bool
  | .testing | .passed | .taken _ | .clearing => true
  | _ => false

/-- From the slot to the clearing of `busy_`. -/
@[grind =]
def occupied : Pc → Bool
  | .taken _ | .serving _ | .served | .clearing => true
  | _ => false

end Pc

/-- What the main thread has to do with a worker. -/
structure View where
  /-- It holds the mutex. -/
  inside : Bool := false
  /-- It has set `busy_` and not filled the slot yet. -/
  marks : Bool := false
  /-- It has filled the slot and not told the worker yet. -/
  fills : Bool := false
  /-- It has set `exiting_` and not told the worker yet. -/
  wakes : Bool := false
  /-- It has set `exiting_`. -/
  dismissed : Bool := false
  joined : Bool := false
  deriving DecidableEq

namespace Main

/-- What the main thread has to do with a worker, by where it stands. -/
def view : Main n → Fin n → View
  | .assigning _ v _, w | .notified v, w => { inside := v = w }
  | .marked _ v _, w => { inside := v = w, marks := v = w }
  | .placed v, w => { inside := v = w, fills := v = w }
  | .destroying left, w => { dismissed := w ∉ left, joined := w ∉ left }
  | .stopped v left, w => { dismissed := w ∉ v :: left, joined := w ∉ v :: left }
  | .flagging v left, w =>
      { inside := v = w, dismissed := w ∉ v :: left, joined := w ∉ v :: left }
  | .flagged v left, w =>
      { inside := v = w, wakes := v = w, dismissed := w ∉ left, joined := w ∉ v :: left }
  | .waking v left, w => { wakes := v = w, dismissed := w ∉ left, joined := w ∉ v :: left }
  | .joining v left, w => { dismissed := w ∉ left, joined := w ∉ v :: left }
  | .finished, _ => { dismissed := true, joined := true }
  | _, _ => {}

/-- The workers that have not been destroyed, once their destruction has begun. -/
def remaining : Main n → List (Fin n)
  | .destroying left => left
  | .stopped v left | .flagging v left | .flagged v left | .waking v left
  | .joining v left => v :: left
  | _ => []

end Main

/-- What a step of the main thread does to the worker it is at. -/
inductive Touches (x : Worker) : View → View → Worker → Prop
  | lock (h : x.mutex = none) :
      Touches x {} { inside := true } { x with mutex := some .listener }
  | unlock : Touches x { inside := true } {} { x with mutex := none }
  | mark (hbusy : x.busy = false) :
      Touches x { inside := true } { inside := true, marks := true } { x with busy := true }
  | place (c : Nat) :
      Touches x { inside := true, marks := true } { inside := true, fills := true }
        { x with pending := some c }
  | notify : Touches x { inside := true, fills := true } { inside := true } x.notify
  | flag :
      Touches x { inside := true } { inside := true, wakes := true, dismissed := true }
        { x with exiting := true }
  | unlockLast :
      Touches x { inside := true, wakes := true, dismissed := true }
        { wakes := true, dismissed := true } { x with mutex := none }
  | notifyLast : Touches x { wakes := true, dismissed := true } { dismissed := true } x.notify
  | join (h : x.pc = .exited) : Touches x { dismissed := true } { dismissed := true, joined := true } x

/-- What holds of a worker. -/
structure Worker.Sound (v : View) (x : Worker) : Prop where
  thread : x.pc.inside = true ↔ x.mutex = some .thread
  listener : v.inside = true ↔ x.mutex = some .listener
  busy : x.busy.toNat = x.pending.isSome.toNat + x.pc.occupied.toNat + v.marks.toNat
  exiting : x.exiting = v.dismissed
  passed : x.pc = .passed → x.pending ≠ none ∨ x.exiting = true
  exited : x.pc = .exited → x.pending = none ∧ x.exiting = true
  told : x.pc = .asleep → x.pending = none ∨ v.fills = true
  dismissed : x.pc = .asleep → x.exiting = false ∨ v.wakes = true
  joined : v.joined = true → x.pc = .exited

namespace Worker.Sound

variable {v v' : View} {x x' : Worker} {w : Fin n} {e : Option (Event (Fin n))}

/-- A step of the worker's own thread keeps what holds of the worker. -/
theorem runs (hs : Sound v x) (hr : Runs w x x.pc e x') : Sound v x' := by
  obtain ⟨hthread, hlistener, hbusy, hexiting, hpassed, hexited, htold, hdismissed, hjoined⟩ := hs
  have hle := Bool.toNat_le x.busy
  generalize hpc : x.pc = pc at *
  cases hr <;> constructor <;> grind

/-- A step of the main thread at a worker keeps what holds of the worker, with what the main
thread now has to do with it. -/
theorem touches (hs : Sound v x) (ht : Touches x v v' x') : Sound v' x' := by
  obtain ⟨hthread, hlistener, hbusy, hexiting, hpassed, hexited, htold, hdismissed, hjoined⟩ := hs
  have hle := Bool.toNat_le x.busy
  cases ht <;> constructor <;> grind [Worker.notify]

end Worker.Sound

namespace Server

variable {t t' : Server n} {e : Option (Event (Fin n))} {main : Main n} {v : Fin n} {x : Worker}

/-- A step at one worker changes nothing for the others. -/
theorem put_touches (hat : Touches (t.workers v) (main.view v) (t'.main.view v) x)
    (hworkers : t'.workers = Function.update t.workers v x)
    (hother : ∀ w, v ≠ w → t'.main.view w = main.view w) (w : Fin n) :
    (t'.workers w = t.workers w ∧ t'.main.view w = main.view w) ∨
      Touches (t.workers w) (main.view w) (t'.main.view w) (t'.workers w) := by
  rw [hworkers]
  by_cases hv : v = w
  · subst hv
    rw [Function.update_self]
    exact .inr hat
  · rw [Function.update_of_ne (Ne.symm hv)]
    exact .inl ⟨rfl, hother w hv⟩

/-- A step of the main thread is nothing to a worker, or touches it. -/
theorem listens_touches (hl : Listens t t.main e t') (hnodup : t.main.remaining.Nodup)
    (w : Fin n) :
    (t'.workers w = t.workers w ∧ t'.main.view w = t.main.view w) ∨
      Touches (t.workers w) (t.main.view w) (t'.main.view w) (t'.workers w) := by
  generalize t.main = main at hl hnodup ⊢
  cases hl with
  | @lock c v left h =>
      refine put_touches (by simpa [put, Main.view] using Touches.lock h) rfl (fun w hw => ?_) w
      simp [Main.view, hw]
  | @refuse c v left h =>
      refine put_touches (by simpa [put, Main.view] using Touches.unlock) rfl (fun w hw => ?_) w
      simp [Main.view, hw]
  | @mark c v left hbusy hexiting =>
      refine put_touches (by simpa [put, Main.view] using Touches.mark hbusy) rfl
        (fun w hw => ?_) w
      simp [Main.view, hw]
  | @place c v left =>
      refine put_touches (by simpa [put, Main.view] using Touches.place c) rfl (fun w hw => ?_) w
      simp [Main.view, hw]
  | @notify v =>
      refine put_touches (by simpa [put, Main.view] using Touches.notify) rfl (fun w hw => ?_) w
      simp [Main.view, hw]
  | @unlock v =>
      refine put_touches (by simpa [put, Main.view] using Touches.unlock) rfl (fun w hw => ?_) w
      simp [Main.view, hw]
  | @lockLast v left h =>
      refine put_touches (by simpa [put, Main.view] using Touches.lock h) rfl (fun w hw => ?_) w
      simp [Main.view, hw]
  | @flag v left =>
      have hleft := (List.nodup_cons.mp hnodup).1
      refine put_touches (by simpa [put, Main.view, hleft] using Touches.flag) rfl
        (fun w hw => ?_) w
      simp [Main.view, hw, Ne.symm hw]
  | @unlockLast v left =>
      have hleft := (List.nodup_cons.mp hnodup).1
      refine put_touches (by simpa [put, Main.view, hleft] using Touches.unlockLast) rfl
        (fun w hw => ?_) w
      simp [Main.view, hw]
  | @notifyLast v left =>
      have hleft := (List.nodup_cons.mp hnodup).1
      refine put_touches (by simpa [put, Main.view, hleft] using Touches.notifyLast) rfl
        (fun w hw => ?_) w
      simp [Main.view, hw]
  | @join v left h =>
      have hleft := (List.nodup_cons.mp hnodup).1
      by_cases hv : v = w
      · subst hv
        exact .inr (by simpa [Main.view, hleft] using Touches.join h)
      · exact .inl ⟨rfl, by simp [Main.view, Ne.symm hv]⟩
  | leave => exact .inl ⟨rfl, by simp [Main.view]⟩
  | finish => exact .inl ⟨rfl, by simp [Main.view]⟩
  | _ => exact .inl ⟨rfl, rfl⟩

/-- The main thread destroys no worker twice. -/
theorem listens_remaining (hl : Listens t t.main e t') (hnodup : t.main.remaining.Nodup) :
    t'.main.remaining.Nodup := by
  generalize t.main = main at hl hnodup
  cases hl with
  | leave => exact List.nodup_reverse.mpr (List.nodup_finRange n)
  | join => exact (List.nodup_cons.mp hnodup).2
  | stop | lockLast | flag | unlockLast | notifyLast => exact hnodup
  | _ => exact List.nodup_nil

end Server

/-! ## The pool hands sockets over -/

namespace Worker

/-- The socket that the worker has and does not serve yet. -/
def slot (x : Worker) : Option Nat :=
  match x.pc with
  | .taken c => some c
  | _ => x.pending

/-- The connection that a worker serves, if it serves one. -/
def connection (x : Worker) : Option Nat :=
  match x.pc with
  | .serving c => some c
  | _ => none

/-- Telling a worker does not change what waits for it. -/
theorem notify_slot (x : Worker) : x.notify.slot = x.slot := by
  unfold notify
  split_ifs with h
  · simp [slot, h]
  · rfl

/-- Telling a worker does not change what it serves. -/
theorem notify_connection (x : Worker) : x.notify.connection = x.connection := by
  unfold notify
  split_ifs with h
  · simp [connection, h]
  · rfl

/-- What is placed in an empty slot waits there. -/
theorem slot_place {x : Worker} (c : Nat) (h : x.slot = none) :
    { x with pending := some c }.slot = some c := by
  unfold slot at h ⊢
  cases hpc : x.pc with
  | taken d =>
      rw [hpc] at h
      cases h
  | _ => rfl

variable {v : View} {x x' : Worker} {w : Fin n} {e : Option (Event (Fin n))}

/-- A worker that is being given a socket has none. -/
theorem Sound.empty (hs : Sound v x) (h : v.marks = true) :
    x.slot = none ∧ x.connection = none := by
  have hbusy := hs.busy
  have hle := Bool.toNat_le x.busy
  rw [h, Bool.toNat_true] at hbusy
  have hpending : x.pending = none := by
    cases hpending : x.pending with
    | none => rfl
    | some c =>
        rw [hpending, Option.isSome_some, Bool.toNat_true] at hbusy
        omega
  have hoccupied : x.pc.occupied = false := by
    cases hoccupied : x.pc.occupied with
    | false => rfl
    | true =>
        rw [hoccupied, Bool.toNat_true] at hbusy
        omega
  unfold slot connection
  cases hpc : x.pc <;> rw [hpc] at hoccupied <;> simp_all [Pc.occupied]

/-- A step of a worker begins or ends a connection, or changes nothing that
another thread could see of its sockets. -/
theorem Sound.runs_cases (hs : Sound v x) (hr : Runs w x x.pc e x') :
    (e = none ∧ x'.slot = x.slot ∧ x'.connection = x.connection) ∨
      (∃ c, e = some (.began c w) ∧ x.slot = some c ∧ x.connection = none ∧ x'.slot = none ∧
        x'.connection = some c) ∨
      ∃ c, e = some (.ended c w) ∧ x.connection = some c ∧ x'.slot = x.slot ∧
        x'.connection = none := by
  have hbusy := hs.busy
  have hle := Bool.toNat_le x.busy
  generalize hpc : x.pc = pc at hr hbusy
  cases hr with
  | @serve c =>
      have hpending : x.pending = none := by
        cases hpending : x.pending with
        | none => rfl
        | some d => simp [hpending, Pc.occupied] at hbusy; omega
      exact .inr (.inl ⟨c, rfl, by simp [slot, hpc], by simp [connection, hpc],
        by simp [slot, hpending], rfl⟩)
  | @«return» c =>
      exact .inr (.inr ⟨c, rfl, by simp [connection, hpc], by simp [slot, hpc], rfl⟩)
  | exchange h => exact .inl ⟨rfl, by simp [slot, hpc, h], by simp [connection, hpc]⟩
  | _ => exact .inl ⟨rfl, by simp [slot, hpc], by simp [connection, hpc]⟩

end Worker

/-- The socket that the main thread holds, with the workers left to ask. -/
def Main.hands : Main n → Option (Nat × List (Fin n))
  | .offering c left => some (c, left)
  | .assigning c w left | .marked c w left => some (c, w :: left)
  | _ => none

namespace Server

/-- The abstract state of the server: what has been accepted, and where each connection is. -/
def handoff (t : Server n) : Handoff (Fin n) where
  accepted := t.accepted
  hands := t.main.hands
  slot w := (t.workers w).slot
  serving w := (t.workers w).connection

variable {t t' : Server n} {e : Option (Event (Fin n))} {a : Actor n}

/-- Changing a worker changes its own place in the abstract state and no other. -/
theorem handoff_put (t : Server n) (w : Fin n) (x : Worker) :
    (t.put w x).handoff =
      { t.handoff with
        slot := Function.update t.handoff.slot w x.slot
        serving := Function.update t.handoff.serving w x.connection } := by
  have hslot : (fun v => (Function.update t.workers w x v).slot) =
      Function.update t.handoff.slot w x.slot := by
    funext v
    exact Function.apply_update (fun _ => Worker.slot) t.workers w x v
  have hserving : (fun v => (Function.update t.workers w x v).connection) =
      Function.update t.handoff.serving w x.connection := by
    funext v
    exact Function.apply_update (fun _ => Worker.connection) t.workers w x v
  unfold handoff put
  rw [hslot, hserving]
  rfl

/-- A step that keeps the sockets of a worker. -/
theorem handoff_put_same {w : Fin n} {x : Worker} (hslot : x.slot = (t.workers w).slot)
    (hconnection : x.connection = (t.workers w).connection) :
    (t.put w x).handoff = t.handoff := by
  have hslot' : Function.update t.handoff.slot w x.slot = t.handoff.slot := by
    rw [hslot]
    exact Function.update_eq_self w t.handoff.slot
  have hserving : Function.update t.handoff.serving w x.connection = t.handoff.serving := by
    rw [hconnection]
    exact Function.update_eq_self w t.handoff.serving
  rw [handoff_put, hslot', hserving]

/-- If a worker keeps its connections, only what the listener holds may change. -/
theorem handoff_hands {w : Fin n} {x : Worker} (main : Main n)
    (hslot : x.slot = (t.workers w).slot)
    (hconnection : x.connection = (t.workers w).connection) :
    { t.put w x with main := main }.handoff = { t.handoff with hands := main.hands } := by
  rw [← handoff_put_same hslot hconnection]
  rfl

/-- If the listener keeps what it holds as well, nothing changes. -/
theorem handoff_kept {w : Fin n} {x : Worker} {main : Main n}
    (hslot : x.slot = (t.workers w).slot) (hconnection : x.connection = (t.workers w).connection)
    (hands : t.handoff.hands = main.hands) :
    { t.put w x with main := main }.handoff = t.handoff := by
  rw [handoff_hands main hslot hconnection, ← hands]

/-- What holds of the server: every worker is sound as the main thread sees it, and the main
thread destroys no worker twice. -/
structure Sound (t : Server n) : Prop where
  workers : ∀ w, Worker.Sound (t.main.view w) (t.workers w)
  nodup : t.main.remaining.Nodup

namespace Sound

/-- It holds of a new server. -/
theorem start : Sound ({} : Server n) where
  workers w := by constructor <;> simp [Pc.inside, Pc.occupied, Main.view]
  nodup := List.nodup_nil

/-- Every step keeps it: a step of a worker's thread is about that worker, a step of the
main thread about the worker it is at. -/
theorem step (hs : t.Sound) (h : t.Step a e t') : t'.Sound := by
  cases h with
  | @worker w _ x hr =>
      refine ⟨fun v => ?_, hs.nodup⟩
      change Worker.Sound (t.main.view v) ((t.put w x).workers v)
      by_cases hv : v = w
      · subst hv
        rw [put_self]
        exact (hs.workers v).runs hr
      · rw [put_other t x hv]
        exact hs.workers v
  | listener hl =>
      refine ⟨fun w => ?_, listens_remaining hl hs.nodup⟩
      rcases listens_touches hl hs.nodup w with ⟨hworker, hview⟩ | htouch
      · rw [hworker, hview]
        exact hs.workers w
      · exact (hs.workers w).touches htouch
  | console => exact ⟨hs.workers, hs.nodup⟩

/-- A step of a worker's thread is no step of the abstract system, or one, with the same
event. -/
theorem worker_handoff {w : Fin n} {x : Worker} (hs : t.Sound)
    (hr : Runs w (t.workers w) (t.workers w).pc e x) :
    e = none ∧ (t.put w x).handoff = t.handoff ∨
      ∃ event, e = some event ∧ t.handoff.Step (List.finRange n) event (t.put w x).handoff := by
  have hslot : t.handoff.slot w = (t.workers w).slot := rfl
  have hserving : t.handoff.serving w = (t.workers w).connection := rfl
  rcases (hs.workers w).runs_cases hr with ⟨rfl, hs', hc'⟩ | ⟨c, rfl, hs', hc', hs'', hc''⟩ |
    ⟨c, rfl, hc', hs'', hc''⟩
  · exact .inl ⟨rfl, handoff_put_same hs' hc'⟩
  · rw [handoff_put, hs'', hc'']
    exact .inr ⟨_, rfl, .begin (hslot.trans hs') (hserving.trans hc')⟩
  · rw [handoff_put, hs'', hc'', ← hslot, Function.update_eq_self]
    exact .inr ⟨_, rfl, .end (hserving.trans hc')⟩

/-- A step of the main thread is no step of the abstract system, or one, with the same
event. -/
theorem listener_handoff (hs : t.Sound) (hl : Listens t t.main e t') :
    e = none ∧ t'.handoff = t.handoff ∨
      ∃ event, e = some event ∧ t.handoff.Step (List.finRange n) event t'.handoff := by
  have hands : t.handoff.hands = t.main.hands := rfl
  have hworkers := hs.workers
  generalize hmain : t.main = main at hl hands hworkers
  cases hl with
  | accept => exact .inr ⟨_, rfl, .accept hands⟩
  | @refuse c w left h =>
      have hsame : { t.put w { t.workers w with mutex := none } with
          main := .offering c left }.handoff = { t.handoff with hands := some (c, left) } :=
        handoff_hands _ rfl rfl
      exact .inr ⟨_, rfl, hsame ▸ .refuse hands h⟩
  | @place c w left =>
      obtain ⟨hslot, hconnection⟩ := (hworkers w).empty (by simp [Main.view])
      have hput := handoff_put t w { t.workers w with pending := some c }
      have hkept : { t.workers w with pending := some c }.connection = t.handoff.serving w := rfl
      rw [Worker.slot_place c hslot, hkept, Function.update_eq_self] at hput
      have hsame : { t.put w { t.workers w with pending := some c } with
          main := .placed w }.handoff =
          { t.handoff with
            hands := none
            slot := Function.update t.handoff.slot w (some c) } :=
        congrArg (fun s : Handoff (Fin n) => { s with hands := none }) hput
      exact .inr ⟨_, rfl, hsame ▸ .assign hands hslot hconnection⟩
  | close => exact .inr ⟨_, rfl, .close hands⟩
  | notify | notifyLast =>
      exact .inl ⟨rfl, handoff_kept (Worker.notify_slot _) (Worker.notify_connection _) hands⟩
  | lock | mark | unlock | lockLast | flag | unlockLast =>
      exact .inl ⟨rfl, handoff_kept rfl rfl hands⟩
  | _ => exact .inl ⟨rfl, by unfold handoff; rw [hmain]; rfl⟩

/-- A step of the pool is a step of the hand-off, or none. -/
theorem step_handoff (hs : t.Sound) (h : t.Step a e t') :
    e = none ∧ t'.handoff = t.handoff ∨
      ∃ event, e = some event ∧ t.handoff.Step (List.finRange n) event t'.handoff := by
  cases h with
  | worker hr => exact hs.worker_handoff hr
  | listener hl => exact hs.listener_handoff hl
  | console => exact .inl ⟨rfl, rfl⟩

end Sound

variable {moves : List (Actor n)} {log : List (Event (Fin n))}

/-- Every run of the pool is a run of the hand-off. -/
theorem Steps.sound (h : Steps {} moves log t) :
    t.Sound ∧ Handoff.Steps (List.finRange n) log t.handoff := by
  generalize hstart : ({} : Server n) = first at h
  induction h with
  | refl =>
      subst hstart
      exact ⟨Sound.start, .start⟩
  | step _ hstep ih =>
      obtain ⟨hs, hsteps⟩ := ih
      refine ⟨hs.step hstep, ?_⟩
      rcases hs.step_handoff hstep with ⟨rfl, hsame⟩ | ⟨event, rfl, hevent⟩
      · rw [hsame, Option.toList_none, List.append_nil]
        exact hsteps
      · exact hsteps.step hevent

end Server

end FluidGateway.Pool
