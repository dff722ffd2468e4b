import FluidGateway.AbiSession
import FluidGateway.Lib.Registry
import Mathlib.Data.Fintype.Card

/-!
# The slot table

The concurrent part of `native/src/abi.cpp`: any number of callers create, use
and destroy sessions in eight slots.  A slot has a mutex and, apart from it, a
flag that reserves the slot.  Each access to the flag, each locking and
unlocking, and each stretch of code under a mutex is one step; a caller's
program counter says between which two of them it stands.
-/

namespace FluidGateway.Native

structure Slot (κ : Type) where
  holder : Option κ := none
  reserved : Bool := false
  generation : Nat := 0
  handle : Nat := 0
  session : Option Session := none

/-- A call that uses a session: an exchange, or a reading of the metrics. -/
inductive Use where
  | exchange (call : ExchangeCall)
  | metrics (handle : Nat)

def Use.handle : Use → Nat
  | .exchange call => call.handle
  | .metrics handle => handle

/-- What the callers are told.  An event that met a session says how it found
and left it. -/
inductive Event where
  | created (handle : Nat) (session : Session)
  | notCreated (status : Status)
  | exchanged (call : ExchangeCall) (answer : Exchanged) (found : Option (Session × Session))
  | measured (handle : Nat) (status : Status) (found : Option Session)
  | destroyed (handle : Nat) (status : Status)

/-- A use that ends without having met a session. -/
def Use.unmet (use : Use) (status : Status) : Event :=
  match use with
  | .exchange call => .exchanged call { status } none
  | .metrics handle => .measured handle status none

/-- What a use does to the session it has met. -/
def Use.run (use : Use) (s : Session) : Event × Session :=
  match use with
  | .exchange call =>
    let (answer, t) := s.exchange call
    (.exchanged call answer (some (s, t)), t)
  | .metrics handle => (.measured handle .ok (some s), s)

/-- Where a caller stands. -/
inductive Pc where
  | idle
  /-- `create`: about to try the flag of the slot. -/
  | scanning (i : Nat)
  /-- `create`: has set the flag and waits for the mutex. -/
  | reserving (i : Fin maxSessions)
  /-- `create`: under the mutex, about to look at the generation. -/
  | preparing (i : Fin maxSessions)
  /-- `create`: under the mutex, the slot is used up. -/
  | exhausted (i : Fin maxSessions)
  /-- `create`: under the mutex, on the way out without a session. -/
  | failing (i : Fin maxSessions) (status : Status)
  /-- `create`: about to give the flag back. -/
  | releasing (i : Fin maxSessions) (status : Status)
  /-- A use: about to try the mutex. -/
  | calling (i : Fin maxSessions) (use : Use)
  /-- A use: under the mutex. -/
  | holding (i : Fin maxSessions) (use : Use)
  /-- `destroy`: waits for the mutex. -/
  | closing (i : Fin maxSessions) (handle : Nat)
  /-- `destroy`: under the mutex. -/
  | entered (i : Fin maxSessions) (handle : Nat)
  /-- `destroy`: under the mutex, the session is gone and the flag still set. -/
  | cleared (i : Fin maxSessions)
  /-- Under the mutex, with nothing left to do but to unlock it. -/
  | leaving (i : Fin maxSessions)

/-- The slot whose mutex the caller holds. -/
def Pc.inside : Pc → Option (Fin maxSessions)
  | .preparing i | .exhausted i | .failing i _ | .holding i _ | .entered i _ | .cleared i
  | .leaving i => some i
  | _ => none

/-- The slot whose flag the caller has to give back or to hand on. -/
def Pc.flag : Pc → Option (Fin maxSessions)
  | .reserving i | .preparing i | .failing i _ | .releasing i _ | .cleared i => some i
  | _ => none

structure Table (κ : Type) where
  slots : Fin maxSessions → Slot κ
  pcs : κ → Pc

variable {κ : Type} [DecidableEq κ]

namespace Table

def start : Table κ where
  slots _ := {}
  pcs _ := .idle

/-- The caller moves on. -/
def goto (t : Table κ) (c : κ) (pc : Pc) : Table κ :=
  { t with pcs := Function.update t.pcs c pc }

/-- The caller changes a slot and moves on. -/
def put (t : Table κ) (c : κ) (i : Fin maxSessions) (slot : Slot κ) (pc : Pc) : Table κ where
  slots := Function.update t.slots i slot
  pcs := Function.update t.pcs c pc

end Table

/-- The first steps of a call, and the calls that end before they meet a slot. -/
inductive Calls (t : Table κ) (c : κ) : Option Event → Table κ → Prop
  | notCreated {status : Status} (h : status = .invalidArgument ∨ status = .abiMismatch) :
      Calls t c (some (.notCreated status)) t
  | create : Calls t c none (t.goto c (.scanning 0))
  | refused {call : ExchangeCall} {answer : Exchanged} (h : call.refusal = some answer) :
      Calls t c (some (.exchanged call answer none)) t
  | exchange {call : ExchangeCall} {i : Fin maxSessions} (h : call.refusal = none)
      (hi : findSlot call.handle = some i) :
      Calls t c none (t.goto c (.calling i (.exchange call)))
  | notExchanged {call : ExchangeCall} (h : call.refusal = none)
      (hi : findSlot call.handle = none) :
      Calls t c (some (Use.unmet (.exchange call) .invalidHandle)) t
  | notMeasured {handle : Nat} : Calls t c (some (Use.unmet (.metrics handle) .invalidArgument)) t
  | metrics {handle : Nat} {i : Fin maxSessions} (hi : findSlot handle = some i) :
      Calls t c none (t.goto c (.calling i (.metrics handle)))
  | unmeasured {handle : Nat} (hi : findSlot handle = none) :
      Calls t c (some (Use.unmet (.metrics handle) .invalidHandle)) t
  | destroy {handle : Nat} {i : Fin maxSessions} (hi : findSlot handle = some i) :
      Calls t c none (t.goto c (.closing i handle))
  | notDestroyed {handle : Nat} (hi : findSlot handle = none) :
      Calls t c (some (.destroyed handle .invalidHandle)) t

/-- What a caller does next, from where it stands. -/
inductive Moves (t : Table κ) (c : κ) : Pc → Option Event → Table κ → Prop
  | call {e : Option Event} {t' : Table κ} (h : Calls t c e t') : Moves t c .idle e t'
  -- `create`
  | limit {i : Nat} (h : maxSessions ≤ i) :
      Moves t c (.scanning i) (some (.notCreated .limitReached)) (t.goto c .idle)
  | taken {i : Fin maxSessions} (h : (t.slots i).reserved = true) :
      Moves t c (.scanning i) none (t.goto c (.scanning (i + 1)))
  | reserve {i : Fin maxSessions} (h : (t.slots i).reserved = false) :
      Moves t c (.scanning i) none (t.put c i { t.slots i with reserved := true } (.reserving i))
  | prepare {i : Fin maxSessions} (h : (t.slots i).holder = none) :
      Moves t c (.reserving i) none
        (t.put c i { t.slots i with holder := some c } (.preparing i))
  | unprepared {i : Fin maxSessions} :
      Moves t c (.reserving i) none (t.goto c (.releasing i .internalError))
  | exhaust {i : Fin maxSessions} (h : (t.slots i).generation = generationLimit) :
      Moves t c (.preparing i) none (t.goto c (.exhausted i))
  | skip {i : Fin maxSessions} :
      Moves t c (.exhausted i) none
        (t.put c i { t.slots i with holder := none } (.scanning (i + 1)))
  | fail {i : Fin maxSessions} {status : Status} (h : (t.slots i).generation ≠ generationLimit)
      (hstatus : status = .internalError ∨ status = .outOfMemory) :
      Moves t c (.preparing i) none (t.goto c (.failing i status))
  | unlock {i : Fin maxSessions} {status : Status} :
      Moves t c (.failing i status) none
        (t.put c i { t.slots i with holder := none } (.releasing i status))
  | release {i : Fin maxSessions} {status : Status} :
      Moves t c (.releasing i status) (some (.notCreated status))
        (t.put c i { t.slots i with reserved := false } .idle)
  | install {i : Fin maxSessions} (random : Identity)
      (h : (t.slots i).generation ≠ generationLimit) :
      Moves t c (.preparing i)
        (some (.created (slotHandle ((t.slots i).generation + 1) i)
          { protocol := .fresh (versioned random) }))
        (t.put c i { t.slots i with
          session := some { protocol := .fresh (versioned random) }
          generation := (t.slots i).generation + 1
          handle := slotHandle ((t.slots i).generation + 1) i } (.leaving i))
  -- `exchange` and `get_metrics`; a mutex may be busy without reason
  | busy {i : Fin maxSessions} {use : Use} :
      Moves t c (.calling i use) (some (use.unmet .busy)) (t.goto c .idle)
  | uncalled {i : Fin maxSessions} {use : Use} :
      Moves t c (.calling i use) (some (use.unmet .internalError)) (t.goto c .idle)
  | hold {i : Fin maxSessions} {use : Use} (h : (t.slots i).holder = none) :
      Moves t c (.calling i use) none
        (t.put c i { t.slots i with holder := some c } (.holding i use))
  | unknown {i : Fin maxSessions} {use : Use}
      (h : (t.slots i).handle ≠ use.handle ∨ (t.slots i).session = none) :
      Moves t c (.holding i use) (some (use.unmet .invalidHandle)) (t.goto c (.leaving i))
  | found {i : Fin maxSessions} {use : Use} {s : Session} (h : (t.slots i).handle = use.handle)
      (hs : (t.slots i).session = some s) :
      Moves t c (.holding i use) (some (use.run s).1)
        (t.put c i { t.slots i with session := some (use.run s).2 } (.leaving i))
  -- `destroy`
  | enter {i : Fin maxSessions} {handle : Nat} (h : (t.slots i).holder = none) :
      Moves t c (.closing i handle) none
        (t.put c i { t.slots i with holder := some c } (.entered i handle))
  | unentered {i : Fin maxSessions} {handle : Nat} :
      Moves t c (.closing i handle) (some (.destroyed handle .internalError)) (t.goto c .idle)
  | stale {i : Fin maxSessions} {handle : Nat}
      (h : (t.slots i).handle ≠ handle ∨ (t.slots i).session = none) :
      Moves t c (.entered i handle) (some (.destroyed handle .invalidHandle))
        (t.goto c (.leaving i))
  | clear {i : Fin maxSessions} {handle : Nat} (h : (t.slots i).handle = handle)
      (hs : (t.slots i).session ≠ none) :
      Moves t c (.entered i handle) (some (.destroyed handle .ok))
        (t.put c i { t.slots i with session := none, handle := 0 } (.cleared i))
  | giveBack {i : Fin maxSessions} :
      Moves t c (.cleared i) none
        (t.put c i { t.slots i with reserved := false } (.leaving i))
  -- the end of a stretch under the mutex
  | leave {i : Fin maxSessions} :
      Moves t c (.leaving i) none (t.put c i { t.slots i with holder := none } .idle)

namespace Table

/-- One caller moves. -/
def Step (t : Table κ) (e : Option Event) (t' : Table κ) : Prop :=
  ∃ c, Moves t c (t.pcs c) e t'

/-- Any number of steps of any callers, with what the callers are told. -/
inductive Steps : Table κ → List Event → Table κ → Prop
  | refl (t : Table κ) : Steps t [] t
  | step {t t' t'' : Table κ} {log : List Event} {e : Option Event} (h : Steps t log t')
      (hstep : Step t' e t'') : Steps t (log ++ e.toList) t''

end Table

end FluidGateway.Native
