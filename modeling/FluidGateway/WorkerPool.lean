import FluidGateway.Handoff
import Mathlib.Data.List.FinRange

/-!
# The worker pool

`Worker` and the accept loop of `src/native/src/server.cpp`, with any number of
workers.  Each worker has a mutex, a slot for one socket and two flags; its
thread waits on a condition variable for a socket or for the end.  The main
thread accepts sockets, offers each to the workers in turn, and at the end
destroys the workers from the last to the first.  Each locking and unlocking,
each statement under a mutex, each notification and each test is one step.

A socket is named by the number of sockets accepted before it, since the system
uses the handles of closed sockets again.  How `serve` answers a connection
plays no part here: it returns, without an exception, and closes its socket.
-/

namespace FluidGateway.Pool

/-- Whoever may hold the mutex of a worker. -/
inductive Party where
  | thread | listener
  deriving DecidableEq, Repr

/-- Where the thread of a worker stands in `run`. -/
inductive Pc where
  | starting
  /-- Under the mutex, about to test the condition of the wait. -/
  | testing
  | asleep
  /-- Notified, or woken for no reason; waits for the mutex. -/
  | woken
  /-- Under the mutex; the condition holds. -/
  | passed
  /-- Under the mutex; the socket has been taken out of the slot. -/
  | taken (c : Nat)
  | serving (c : Nat)
  /-- `serve` has returned; waits for the mutex. -/
  | served
  /-- Under the mutex, about to clear `busy_`. -/
  | clearing
  | exited
  deriving DecidableEq, Repr

structure Worker where
  mutex : Option Party := none
  pending : Option Nat := none
  busy : Bool := false
  exiting : Bool := false
  pc : Pc := .starting
  deriving DecidableEq, Repr

/-- `changed_.notify_one()`: only the worker's own thread waits there. -/
def Worker.notify (x : Worker) : Worker :=
  if x.pc = .asleep then { x with pc := .woken } else x

/-- Where the main thread stands. -/
inductive Main (n : Nat) where
  /-- About to test `stopping`. -/
  | looping
  /-- Waits for a connection. -/
  | polling
  /-- About to offer the socket to the first of the workers left. -/
  | offering (c : Nat) (left : List (Fin n))
  /-- `assign`: under the worker's mutex, before and after each statement. -/
  | assigning (c : Nat) (w : Fin n) (left : List (Fin n))
  | marked (c : Nat) (w : Fin n) (left : List (Fin n))
  | placed (w : Fin n)
  | notified (w : Fin n)
  /-- About to destroy the first of the workers left. -/
  | destroying (left : List (Fin n))
  /-- `~Worker`: before the mutex, under it, behind it, and before the join. -/
  | stopped (w : Fin n) (left : List (Fin n))
  | flagging (w : Fin n) (left : List (Fin n))
  | flagged (w : Fin n) (left : List (Fin n))
  | waking (w : Fin n) (left : List (Fin n))
  | joining (w : Fin n) (left : List (Fin n))
  | finished
  deriving DecidableEq, Repr

structure Server (n : Nat) where
  workers : Fin n → Worker := fun _ => {}
  stopping : Bool := false
  accepted : Nat := 0
  main : Main n := .looping

variable {n : Nat}

/-- What the thread of a worker does next. -/
inductive Runs (w : Fin n) (x : Worker) : Pc → Option (Event (Fin n)) → Worker → Prop
  | lock (h : x.mutex = none) :
      Runs w x .starting none { x with mutex := some .thread, pc := .testing }
  | sleep (hexiting : x.exiting = false) (hpending : x.pending = none) :
      Runs w x .testing none { x with mutex := none, pc := .asleep }
  | pass (h : x.exiting = true ∨ x.pending ≠ none) :
      Runs w x .testing none { x with pc := .passed }
  | wake : Runs w x .asleep none { x with pc := .woken }
  | relock (h : x.mutex = none) :
      Runs w x .woken none { x with mutex := some .thread, pc := .testing }
  | quit (h : x.pending = none) :
      Runs w x .passed none { x with mutex := none, pc := .exited }
  | exchange {c : Nat} (h : x.pending = some c) :
      Runs w x .passed none { x with pending := none, pc := .taken c }
  | serve {c : Nat} :
      Runs w x (.taken c) (some (.began c w)) { x with mutex := none, pc := .serving c }
  | return {c : Nat} : Runs w x (.serving c) (some (.ended c w)) { x with pc := .served }
  | lockAgain (h : x.mutex = none) :
      Runs w x .served none { x with mutex := some .thread, pc := .clearing }
  | clear : Runs w x .clearing none { x with busy := false, pc := .testing }

namespace Server

def put (t : Server n) (w : Fin n) (x : Worker) : Server n :=
  { t with workers := Function.update t.workers w x }

theorem put_self (t : Server n) (w : Fin n) (x : Worker) : (t.put w x).workers w = x := by
  unfold put
  exact Function.update_self w x t.workers

theorem put_other (t : Server n) {v w : Fin n} (x : Worker) (h : v ≠ w) :
    (t.put w x).workers v = t.workers v := by
  unfold put
  exact Function.update_of_ne h x t.workers

end Server

/-- What the main thread does next. -/
inductive Listens (t : Server n) : Main n → Option (Event (Fin n)) → Server n → Prop
  | test (h : t.stopping = false) : Listens t .looping none { t with main := .polling }
  | idle : Listens t .polling none { t with main := .looping }
  | accept : Listens t .polling (some (.accepted t.accepted))
      { t with accepted := t.accepted + 1, main := .offering t.accepted (List.finRange n) }
  -- `assign`
  | lock {c : Nat} {w : Fin n} {left : List (Fin n)} (h : (t.workers w).mutex = none) :
      Listens t (.offering c (w :: left)) none
        { t.put w { t.workers w with mutex := some .listener } with main := .assigning c w left }
  | refuse {c : Nat} {w : Fin n} {left : List (Fin n)}
      (h : (t.workers w).busy = true ∨ (t.workers w).exiting = true) :
      Listens t (.assigning c w left)
        (some (.refused c ⟨w, (t.workers w).busy, (t.workers w).exiting⟩))
        { t.put w { t.workers w with mutex := none } with main := .offering c left }
  | mark {c : Nat} {w : Fin n} {left : List (Fin n)} (hbusy : (t.workers w).busy = false)
      (hexiting : (t.workers w).exiting = false) :
      Listens t (.assigning c w left) none
        { t.put w { t.workers w with busy := true } with main := .marked c w left }
  | place {c : Nat} {w : Fin n} {left : List (Fin n)} :
      Listens t (.marked c w left) (some (.assigned c w))
        { t.put w { t.workers w with pending := some c } with main := .placed w }
  | notify {w : Fin n} :
      Listens t (.placed w) none { t.put w (t.workers w).notify with main := .notified w }
  | unlock {w : Fin n} :
      Listens t (.notified w) none
        { t.put w { t.workers w with mutex := none } with main := .looping }
  -- no worker has taken the socket
  | close {c : Nat} : Listens t (.offering c []) (some (.closed c)) { t with main := .looping }
  -- the array of workers is destroyed from its end
  | leave (h : t.stopping = true) :
      Listens t .looping none { t with main := .destroying (List.finRange n).reverse }
  | stop {w : Fin n} {left : List (Fin n)} :
      Listens t (.destroying (w :: left)) none { t with stopping := true, main := .stopped w left }
  | lockLast {w : Fin n} {left : List (Fin n)} (h : (t.workers w).mutex = none) :
      Listens t (.stopped w left) none
        { t.put w { t.workers w with mutex := some .listener } with main := .flagging w left }
  | flag {w : Fin n} {left : List (Fin n)} :
      Listens t (.flagging w left) none
        { t.put w { t.workers w with exiting := true } with main := .flagged w left }
  | unlockLast {w : Fin n} {left : List (Fin n)} :
      Listens t (.flagged w left) none
        { t.put w { t.workers w with mutex := none } with main := .waking w left }
  | notifyLast {w : Fin n} {left : List (Fin n)} :
      Listens t (.waking w left) none { t.put w (t.workers w).notify with main := .joining w left }
  | join {w : Fin n} {left : List (Fin n)} (h : (t.workers w).pc = .exited) :
      Listens t (.joining w left) none { t with main := .destroying left }
  | finish : Listens t (.destroying []) none { t with main := .finished }

inductive Actor (n : Nat) where
  | worker (w : Fin n)
  | listener
  /-- `stop_handler`. -/
  | console
  deriving DecidableEq, Repr

namespace Server

/-- One actor moves. -/
inductive Step (t : Server n) : Actor n → Option (Event (Fin n)) → Server n → Prop
  | worker {w : Fin n} {e : Option (Event (Fin n))} {x : Worker}
      (h : Runs w (t.workers w) (t.workers w).pc e x) :
      Step t (.worker w) e (t.put w x)
  | listener {e : Option (Event (Fin n))} {t' : Server n} (h : Listens t t.main e t') :
      Step t .listener e t'
  | console : Step t .console none { t with stopping := true }

/-- Any number of steps of any actors, with who has moved and what happened. -/
inductive Steps : Server n → List (Actor n) → List (Event (Fin n)) → Server n → Prop
  | refl (t : Server n) : Steps t [] [] t
  | step {t t' t'' : Server n} {moves : List (Actor n)} {log : List (Event (Fin n))} {a : Actor n}
      {e : Option (Event (Fin n))} (h : Steps t moves log t') (hstep : Step t' a e t'') :
      Steps t (moves ++ [a]) (log ++ e.toList) t''

end Server

end FluidGateway.Pool
