import Mathlib.Data.Finset.Basic
import Mathlib.Data.Finset.Card
import Mathlib.Logic.Function.Basic

/-!
# Connection slots

The permits of `RuntimeEventTCPServer` in `fluidgateway/server.py`: a bounded
semaphore, and a set of active requests with its size, both under one lock.
Any number of connections arrive; each is taken by the accepting thread, and
by a handler thread if one could be started.  A connection served without a
thread of its own takes the same steps.  Each access to the semaphore, each
locking and unlocking, and each statement under the lock is one step.

A request is closed before its permit is given back; closing does not raise.
-/

namespace FluidGateway.Slots

/-- The two threads that work on a connection. -/
inductive Role where
  | acceptor | handler
  deriving DecidableEq, Repr

/-- Whoever may hold the lock; visitors read the number of connections or close
the server. -/
inductive Actor (κ : Type) where
  | thread (role : Role) (c : κ)
  | visitor (v : Nat)
  deriving DecidableEq

/-- Where an actor stands. -/
inductive Pc where
  | idle
  /-- Turned away at saturation. -/
  | rejected
  /-- `process_request`: has a permit and waits for the lock. -/
  | acquired
  /-- `_add_active_request`: under the lock, before and after each statement. -/
  | adding | added | counted
  /-- `process_request`: about to start the handler. -/
  | starting
  /-- The handler has been started, and the acceptor has nothing left to do. -/
  | served
  | handling
  /-- `_release_connection_slot`: waits for the lock; `early` when the handler
  goes on afterwards. -/
  | entering (early : Bool)
  /-- Under the lock, before and after each statement. -/
  | checking (early : Bool) | discarded (early : Bool) | decremented (early : Bool)
  | absent (early : Bool)
  /-- About to release the semaphore. -/
  | returning (early : Bool)
  | done
  /-- A visitor under the lock. -/
  | reading | closing
  deriving DecidableEq, Repr

namespace Pc

/-- The actor holds the lock. -/
def inside : Pc → Bool
  | .adding | .added | .counted | .checking _ | .discarded _ | .decremented _ | .absent _
  | .reading | .closing => true
  | _ => false

/-- Between the permit and its registration. -/
def pending : Pc → Bool
  | .acquired | .adding => true
  | _ => false

/-- Between the deregistration and the release of the permit. -/
def leaving : Pc → Bool
  | .discarded _ | .decremented _ | .returning _ => true
  | _ => false

/-- Where a release goes on. -/
def after (early : Bool) : Pc :=
  if early then .handling else .done

end Pc

inductive Event (κ : Type) where
  | accepted (c : κ)
  | rejected (c : κ)
  | givenBack (c : κ)
  /-- `BoundedSemaphore.release` has raised. -/
  | overReleased (c : κ)
  | counted (connections : ℤ)
  | closed
  deriving DecidableEq

structure Server (κ : Type) where
  maximum : Nat
  free : Nat
  holder : Option (Actor κ)
  activeRequests : Finset κ
  activeConnectionCount : ℤ
  pcs : Actor κ → Pc

variable {κ : Type} [DecidableEq κ]

namespace Server

def start (maximum : Nat) : Server κ where
  maximum := maximum
  free := maximum
  holder := none
  activeRequests := ∅
  activeConnectionCount := 0
  pcs _ := .idle

def goto (t : Server κ) (a : Actor κ) (pc : Pc) : Server κ :=
  { t with pcs := Function.update t.pcs a pc }

/-- The actor takes the lock. -/
def lock (t : Server κ) (a : Actor κ) (pc : Pc) : Server κ :=
  { t.goto a pc with holder := some a }

/-- The actor gives the lock back. -/
def unlock (t : Server κ) (a : Actor κ) (pc : Pc) : Server κ :=
  { t.goto a pc with holder := none }

end Server

open Role

/-- What an actor does next. -/
inductive Moves (t : Server κ) : Actor κ → Pc → Option (Event κ) → Server κ → Prop
  -- `process_request`
  | accept {c : κ} (h : 0 < t.free) :
      Moves t (.thread acceptor c) .idle (some (.accepted c))
        { t.goto (.thread acceptor c) .acquired with free := t.free - 1 }
  | reject {c : κ} (h : t.free = 0) :
      Moves t (.thread acceptor c) .idle (some (.rejected c)) (t.goto (.thread acceptor c) .rejected)
  | enter {c : κ} (h : t.holder = none) :
      Moves t (.thread acceptor c) .acquired none (t.lock (.thread acceptor c) .adding)
  | add {c : κ} :
      Moves t (.thread acceptor c) .adding none
        { t.goto (.thread acceptor c) .added with
          activeRequests := insert c t.activeRequests }
  | countUp {c : κ} :
      Moves t (.thread acceptor c) .added none
        { t.goto (.thread acceptor c) .counted with
          activeConnectionCount := t.activeConnectionCount + 1 }
  | leave {c : κ} :
      Moves t (.thread acceptor c) .counted none (t.unlock (.thread acceptor c) .starting)
  | serve {c : κ} :
      Moves t (.thread acceptor c) .starting none
        ((t.goto (.thread acceptor c) .served).goto (.thread handler c) .handling)
  | startFails {c : κ} :
      Moves t (.thread acceptor c) .starting none
        (t.goto (.thread acceptor c) (.entering false))
  -- `start` may raise although the thread runs
  | startRaises {c : κ} :
      Moves t (.thread acceptor c) .starting none
        ((t.goto (.thread acceptor c) (.entering false)).goto (.thread handler c) .handling)
  -- the handler: the session says goodbye, or the handler ends in any way
  | goodbye {c : κ} :
      Moves t (.thread handler c) .handling none (t.goto (.thread handler c) (.entering true))
  | finish {c : κ} :
      Moves t (.thread handler c) .handling none (t.goto (.thread handler c) (.entering false))
  -- `_release_connection_slot`
  | enterRelease {r : Role} {c : κ} {early : Bool} (h : t.holder = none) :
      Moves t (.thread r c) (.entering early) none (t.lock (.thread r c) (.checking early))
  | discard {r : Role} {c : κ} {early : Bool} (h : c ∈ t.activeRequests) :
      Moves t (.thread r c) (.checking early) none
        { t.goto (.thread r c) (.discarded early) with
          activeRequests := t.activeRequests.erase c }
  | miss {r : Role} {c : κ} {early : Bool} (h : c ∉ t.activeRequests) :
      Moves t (.thread r c) (.checking early) none (t.goto (.thread r c) (.absent early))
  | countDown {r : Role} {c : κ} {early : Bool} :
      Moves t (.thread r c) (.discarded early) none
        { t.goto (.thread r c) (.decremented early) with
          activeConnectionCount := t.activeConnectionCount - 1 }
  | leaveRelease {r : Role} {c : κ} {early : Bool} :
      Moves t (.thread r c) (.decremented early) none (t.unlock (.thread r c) (.returning early))
  | leaveAbsent {r : Role} {c : κ} {early : Bool} :
      Moves t (.thread r c) (.absent early) none (t.unlock (.thread r c) (Pc.after early))
  | giveBack {r : Role} {c : κ} {early : Bool} (h : t.free < t.maximum) :
      Moves t (.thread r c) (.returning early) (some (.givenBack c))
        { t.goto (.thread r c) (Pc.after early) with free := t.free + 1 }
  | overRelease {r : Role} {c : κ} {early : Bool} (h : t.maximum ≤ t.free) :
      Moves t (.thread r c) (.returning early) (some (.overReleased c))
        (t.goto (.thread r c) (Pc.after early))
  -- `active_connection_count` and `server_close`
  | read {v : Nat} (h : t.holder = none) :
      Moves t (.visitor v) .idle none (t.lock (.visitor v) .reading)
  | tell {v : Nat} :
      Moves t (.visitor v) .reading (some (.counted t.activeConnectionCount))
        (t.unlock (.visitor v) .idle)
  | close {v : Nat} (h : t.holder = none) :
      Moves t (.visitor v) .idle none (t.lock (.visitor v) .closing)
  | copied {v : Nat} :
      Moves t (.visitor v) .closing (some .closed) (t.unlock (.visitor v) .idle)

namespace Server

/-- One actor moves. -/
def Step (t : Server κ) (e : Option (Event κ)) (t' : Server κ) : Prop :=
  ∃ a, Moves t a (t.pcs a) e t'

/-- Any number of steps of any actors, with what happened in them. -/
inductive Steps : Server κ → List (Event κ) → Server κ → Prop
  | refl (t : Server κ) : Steps t [] t
  | step {t t' t'' : Server κ} {log : List (Event κ)} {e : Option (Event κ)}
      (h : Steps t log t') (hstep : Step t' e t'') : Steps t (log ++ e.toList) t''

/-- A connection holds a permit: it waits for its registration, is registered,
or has been taken off the register and not given the permit back yet. -/
def Holds (t : Server κ) (c : κ) : Prop :=
  (t.pcs (.thread acceptor c)).pending = true ∨ c ∈ t.activeRequests ∨
    ∃ r, (t.pcs (.thread r c)).leaving = true

/-- The threads of a connection have nothing left to do. -/
def Finished (t : Server κ) (c : κ) : Prop :=
  (t.pcs (.thread acceptor c) = .served ∧ t.pcs (.thread handler c) = .done) ∨
    (t.pcs (.thread acceptor c) = .done ∧
      (t.pcs (.thread handler c) = .idle ∨ t.pcs (.thread handler c) = .done))

end Server

end FluidGateway.Slots
