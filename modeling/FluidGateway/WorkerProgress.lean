import FluidGateway.WorkerPoolRuns

/-!
# No socket is left behind

A worker that has something to do and sleeps is about to be notified; otherwise
it can move as soon as its mutex is free, and the main thread never waits under
the mutex.  A socket in the slot of a worker is served within five moves of that
worker, whatever the others do in between, and two moves after the end of a
connection the worker is free for the next one.
-/

namespace FluidGateway.Pool

variable {n : Nat}

namespace Pc

/-- How many moves a thread is away from serving what is in its slot. -/
def distance : Pc → Nat
  | .asleep => 5
  | .starting | .woken => 4
  | .testing => 3
  | .passed => 2
  | .taken _ => 1
  | _ => 0

/-- How many moves a thread is away from clearing `busy_` after a connection. -/
def lag : Pc → Nat
  | .served => 2
  | .clearing => 1
  | _ => 0

/-- A thread is at most five moves away from serving, the longest way from sleep. -/
theorem distance_le (pc : Pc) : pc.distance ≤ 5 := by
  cases pc <;> simp [distance]

end Pc

namespace Worker

variable {v v' : View} {x x' : Worker} {w : Fin n} {e : Option (Event (Fin n))} {c : Nat}

/-- The slot is empty while a connection is served or not cleared away. -/
theorem Sound.distance_pos (hs : Sound v x) (h : x.slot = some c) : 0 < x.pc.distance := by
  have hbusy := hs.busy
  have hle := Bool.toNat_le x.busy
  have hexited := hs.exited
  unfold slot at h
  cases hpc : x.pc <;> rw [hpc] at h hbusy hexited <;>
    simp_all [Pc.distance, Pc.occupied]
  all_goals omega

/-- A worker with a socket in its slot comes nearer to serving it. -/
theorem Sound.runs_distance (hs : Sound v x) (hr : Runs w x x.pc e x') (h : x.slot = some c) :
    e = some (.began c w) ∨ x'.slot = some c ∧ x'.pc.distance + 1 = x.pc.distance := by
  have hpos := hs.distance_pos h
  have hexited := hs.exited
  unfold slot at h ⊢
  generalize hpc : x.pc = pc at hr h hpos hexited ⊢
  cases hr <;> simp_all [Pc.distance]

/-- A worker that has ended a connection comes nearer to clearing `busy_`. -/
theorem runs_lag (hr : Runs w x x.pc e x') (h : 0 < x.pc.lag) :
    x'.busy = false ∨ 0 < x'.pc.lag ∧ x'.pc.lag + 1 = x.pc.lag := by
  generalize hpc : x.pc = pc at hr h ⊢
  cases hr with
  | clear => exact .inl rfl
  | lockAgain => exact .inr ⟨Nat.one_pos, rfl⟩
  | _ => cases h

/-- A worker at the end of a connection does not sleep, so a notification passes it by. -/
theorem notify_lag (x : Worker) (h : 0 < x.pc.lag) : x.notify = x := by
  unfold notify
  split_ifs with hpc
  · rw [hpc] at h
    cases h
  · rfl

/-- A worker never marks itself as busy. -/
theorem runs_busy (hr : Runs w x x.pc e x') (h : x.busy = false) : x'.busy = false := by
  generalize x.pc = pc at hr
  cases hr with
  | clear => rfl
  | _ => exact h

/-- A notification brings a worker no farther from serving. -/
theorem notify_distance (x : Worker) : x.notify.pc.distance ≤ x.pc.distance := by
  unfold notify
  split_ifs with h
  · rw [h]
    exact Nat.le_succ 4
  · exact le_rfl

/-- The main thread takes nothing out of a slot. -/
theorem Sound.touches_distance (hs : Sound v x) (ht : Touches x v v' x') (h : x.slot = some c) :
    x'.slot = some c ∧ x'.pc.distance ≤ x.pc.distance := by
  cases ht with
  | place d =>
      have hempty := (hs.empty rfl).1
      rw [h] at hempty
      cases hempty
  | notify | notifyLast => exact ⟨(notify_slot x).trans h, notify_distance x⟩
  | _ => exact ⟨h, le_rfl⟩

end Worker

namespace Server

variable {t t' : Server n} {a : Actor n} {e : Option (Event (Fin n))} {moves : List (Actor n)}
  {log : List (Event (Fin n))} {w : Fin n} {c : Nat}

/-- Soundness is an invariant of every run. -/
theorem Steps.keeps (h : Steps t moves log t') (hs : t.Sound) : t'.Sound := by
  induction h with
  | refl => exact hs
  | step _ hstep ih => exact ih.step hstep

/-! ## A socket in a slot -/

/-- One move of anyone: the socket in a slot stays there or is served, and a move of its
worker brings the worker nearer. -/
theorem Sound.step_distance (hs : t.Sound) (h : t.Step a e t')
    (hslot : (t.workers w).slot = some c) :
    e = some (.began c w) ∨ (t'.workers w).slot = some c ∧
      (t'.workers w).pc.distance + [a].count (.worker w) ≤ (t.workers w).pc.distance := by
  cases h with
  | @worker v _ x hr =>
      by_cases hv : v = w
      · subst hv
        rw [List.count_singleton_self, put_self]
        rcases (hs.workers v).runs_distance hr hslot with hbegan | ⟨hkept, hnear⟩
        · exact .inl hbegan
        · exact .inr ⟨hkept, hnear.le⟩
      · have hcount : [Actor.worker v].count (.worker w) = 0 := by simp [hv]
        rw [hcount, put_other t x (Ne.symm hv)]
        exact .inr ⟨hslot, le_rfl⟩
  | listener hl =>
      have hcount : [Actor.listener].count (.worker w) = 0 := by simp
      rw [hcount]
      rcases listens_touches hl hs.nodup w with ⟨hsame, -⟩ | htouch
      · rw [hsame]
        exact .inr ⟨hslot, le_rfl⟩
      · exact .inr ((hs.workers w).touches_distance htouch hslot)
  | console => exact .inr ⟨hslot, by simp⟩

/-- Over a run each move of the worker counts, and no other move takes one back. -/
theorem Sound.distance_run (hs : t.Sound) (h : Steps t moves log t')
    (hslot : (t.workers w).slot = some c) :
    .began c w ∈ log ∨ (t'.workers w).slot = some c ∧
      (t'.workers w).pc.distance + moves.count (.worker w) ≤ (t.workers w).pc.distance := by
  induction h with
  | refl => exact .inr ⟨hslot, by simp⟩
  | step hrun hstep ih =>
      rcases ih with hbegan | ⟨hkept, hnear⟩
      · exact .inl (List.mem_append_left _ hbegan)
      · rcases (hrun.keeps hs).step_distance hstep hkept with rfl | ⟨hkept', hnear'⟩
        · exact .inl (List.mem_append_right _ (by simp))
        · refine .inr ⟨hkept', ?_⟩
          rw [List.count_append]
          omega

/-- A socket in a slot is served before its worker has moved six times. -/
theorem Sound.served_of_moves (hs : t.Sound) (h : Steps t moves log t')
    (hslot : (t.workers w).slot = some c) (hmoves : 5 ≤ moves.count (.worker w)) :
    .began c w ∈ log := by
  rcases hs.distance_run h hslot with hbegan | ⟨hkept, hnear⟩
  · exact hbegan
  · have hpos := ((h.keeps hs).workers w).distance_pos hkept
    have hle := (t.workers w).pc.distance_le
    omega

/-! ## A socket that is offered -/

/-- No worker exits while sockets are offered. -/
theorem Sound.not_exiting {left : List (Fin n)} (hs : t.Sound)
    (hmain : t.main = .assigning c w left) : (t.workers w).exiting = false := by
  rw [(hs.workers w).exiting, hmain]
  rfl

/-- The next move of the listener marks a worker that is not busy, and no other move makes
it busy. -/
theorem Sound.step_assigning {left : List (Fin n)} (hs : t.Sound) (h : t.Step a e t')
    (hmain : t.main = .assigning c w left) (hbusy : (t.workers w).busy = false) :
    (a = .listener ∧ t'.main = .marked c w left) ∨
      (a ≠ .listener ∧ t'.main = .assigning c w left ∧ (t'.workers w).busy = false) := by
  have hexiting := hs.not_exiting hmain
  cases h with
  | @worker v _ x hr =>
      refine .inr ⟨nofun, hmain, ?_⟩
      by_cases hv : v = w
      · subst hv
        rw [put_self]
        exact Worker.runs_busy hr hbusy
      · rw [put_other t x (Ne.symm hv)]
        exact hbusy
  | listener hl =>
      rw [hmain] at hl
      cases hl with
      | refuse h =>
          rw [hbusy, hexiting] at h
          cases h <;> contradiction
      | mark => exact .inl ⟨rfl, rfl⟩
  | console => exact .inr ⟨nofun, hmain, hbusy⟩

/-- The next move of the listener hands over a connection that is marked. -/
theorem step_marked {left : List (Fin n)} (h : t.Step a e t') (hmain : t.main = .marked c w left) :
    (a = .listener ∧ e = some (.assigned c w)) ∨ (a ≠ .listener ∧ t'.main = .marked c w left) := by
  cases h with
  | worker hr => exact .inr ⟨nofun, hmain⟩
  | listener hl =>
      rw [hmain] at hl
      cases hl with
      | place => exact .inl ⟨rfl, rfl⟩
  | console => exact .inr ⟨nofun, hmain⟩

/-- Over a run the connection is handed over, or marked after one move of the listener, or
still offered after none. -/
theorem Sound.assigning_run {left : List (Fin n)} (hs : t.Sound) (h : Steps t moves log t')
    (hmain : t.main = .assigning c w left) (hbusy : (t.workers w).busy = false) :
    .assigned c w ∈ log ∨ (t'.main = .marked c w left ∧ moves.count .listener = 1) ∨
      (t'.main = .assigning c w left ∧ (t'.workers w).busy = false ∧
        moves.count .listener = 0) := by
  induction h with
  | refl => exact .inr (.inr ⟨hmain, hbusy, rfl⟩)
  | step hrun hstep ih =>
      rw [List.count_append]
      rcases ih with hassigned | ⟨hmarked, hcount⟩ | ⟨hassigning, hfree, hcount⟩
      · exact .inl (List.mem_append_left _ hassigned)
      · rcases step_marked hstep hmarked with ⟨-, rfl⟩ | ⟨hother, hmarked'⟩
        · exact .inl (List.mem_append_right _ (by simp))
        · exact .inr (.inl ⟨hmarked', by simp [hother, hcount]⟩)
      · rcases (hrun.keeps hs).step_assigning hstep hassigning hfree with ⟨rfl, hmarked⟩ |
          ⟨hother, hassigning', hfree'⟩
        · exact .inr (.inl ⟨hmarked, by simp [hcount]⟩)
        · exact .inr (.inr ⟨hassigning', hfree', by simp [hother, hcount]⟩)

/-- A socket that is offered to a worker that is not busy is assigned to it by the
next two moves of the main thread. -/
theorem Sound.assigned_of_moves {left : List (Fin n)} (hs : t.Sound) (h : Steps t moves log t')
    (hmain : t.main = .assigning c w left) (hbusy : (t.workers w).busy = false)
    (hmoves : 2 ≤ moves.count .listener) : .assigned c w ∈ log := by
  rcases hs.assigning_run h hmain hbusy with hassigned | ⟨-, hcount⟩ | ⟨-, -, hcount⟩
  · exact hassigned
  · omega
  · omega

/-! ## The end of a connection -/

/-- The worker takes sockets, or one is on its way to it. -/
def Free (t : Server n) (w : Fin n) : Prop :=
  (t.workers w).busy = false ∨ (t.main.view w).marks = true

/-- A view that is marked is the one of the worker that the listener is at. -/
theorem marked_of_view (h : (t.main.view w).marks = true) : ∃ c left, t.main = .marked c w left := by
  cases hmain : t.main with
  | marked c v left =>
      rw [hmain] at h
      obtain rfl : v = w := by simpa [Main.view] using h
      exact ⟨c, left, rfl⟩
  | _ =>
      rw [hmain] at h
      cases h

/-- A free worker stays free until it gets a socket. -/
theorem Sound.step_free (hs : t.Sound) (h : t.Step a e t') (hfree : t.Free w) :
    (∃ d, e = some (.assigned d w)) ∨ t'.Free w := by
  rcases hfree with hbusy | hmarks
  · cases h with
    | @worker v _ x hr =>
        refine .inr (.inl ?_)
        by_cases hv : v = w
        · subst hv
          rw [put_self]
          exact Worker.runs_busy hr hbusy
        · rw [put_other t x (Ne.symm hv)]
          exact hbusy
    | listener hl =>
        refine .inr ?_
        unfold Free
        rcases listens_touches hl hs.nodup w with ⟨hsame, -⟩ | htouch
        · rw [hsame]
          exact .inl hbusy
        · have hlistener := (hs.workers w).busy
          generalize t.main.view w = v, t'.main.view w = v', t'.workers w = x' at *
          cases htouch with
          | mark => exact .inr rfl
          | place d =>
              rw [hbusy] at hlistener
              simp at hlistener
          | notify | notifyLast => exact .inl (by unfold Worker.notify; split_ifs <;> exact hbusy)
          | _ => exact .inl hbusy
    | console => exact .inr (.inl hbusy)
  · obtain ⟨c, left, hmain⟩ := marked_of_view hmarks
    rcases step_marked h hmain with ⟨-, he⟩ | ⟨-, hmain'⟩
    · exact .inl ⟨c, he⟩
    · exact .inr (.inr (by rw [hmain']; simp [Main.view]))

/-- One move of anyone: the end of a connection comes no farther away, and nearer by a move
of its worker. -/
theorem Sound.step_lag (hs : t.Sound) (h : t.Step a e t') (hlag : 0 < (t.workers w).pc.lag) :
    t'.Free w ∨ 0 < (t'.workers w).pc.lag ∧
      (t'.workers w).pc.lag + [a].count (.worker w) ≤ (t.workers w).pc.lag := by
  cases h with
  | @worker v _ x hr =>
      by_cases hv : v = w
      · subst hv
        unfold Free
        rw [List.count_singleton_self, put_self]
        rcases Worker.runs_lag hr hlag with hbusy | ⟨hpos, hnear⟩
        · exact .inl (.inl hbusy)
        · exact .inr ⟨hpos, hnear.le⟩
      · have hcount : [Actor.worker v].count (.worker w) = 0 := by simp [hv]
        rw [hcount, put_other t x (Ne.symm hv)]
        exact .inr ⟨hlag, le_rfl⟩
  | listener hl =>
      have hcount : [Actor.listener].count (.worker w) = 0 := by simp
      rw [hcount]
      refine .inr ?_
      rcases listens_touches hl hs.nodup w with ⟨hsame, -⟩ | htouch
      · rw [hsame]
        exact ⟨hlag, le_rfl⟩
      · generalize t.main.view w = v, t'.main.view w = v', t'.workers w = x' at htouch ⊢
        cases htouch with
        | notify | notifyLast =>
            rw [Worker.notify_lag _ hlag]
            exact ⟨hlag, le_rfl⟩
        | _ => exact ⟨hlag, le_rfl⟩
  | console => exact .inr ⟨hlag, by simp⟩

/-- Over a run each move of the worker brings it nearer to being free, unless it was given a
connection in between. -/
theorem Sound.lag_run (hs : t.Sound) (h : Steps t moves log t')
    (hlag : 0 < (t.workers w).pc.lag) :
    (∃ d, .assigned d w ∈ log) ∨ t'.Free w ∨ 0 < (t'.workers w).pc.lag ∧
      (t'.workers w).pc.lag + moves.count (.worker w) ≤ (t.workers w).pc.lag := by
  induction h with
  | refl => exact .inr (.inr ⟨hlag, by simp⟩)
  | step hrun hstep ih =>
      have hs' := hrun.keeps hs
      rcases ih with ⟨d, hassigned⟩ | hfree | ⟨hpos, hnear⟩
      · exact .inl ⟨d, List.mem_append_left _ hassigned⟩
      · rcases hs'.step_free hstep hfree with ⟨d, rfl⟩ | hfree'
        · exact .inl ⟨d, List.mem_append_right _ (by simp)⟩
        · exact .inr (.inl hfree')
      · rcases hs'.step_lag hstep hpos with hfree | ⟨hpos', hnear'⟩
        · exact .inr (.inl hfree)
        · refine .inr (.inr ⟨hpos', ?_⟩)
          rw [List.count_append]
          omega

/-- Two moves after the end of a connection the worker is free for the next one. -/
theorem Sound.free_of_moves (hs : t.Sound) (h : Steps t moves log t')
    (hpc : (t.workers w).pc = .served) (hmoves : 2 ≤ moves.count (.worker w)) :
    (∃ d, .assigned d w ∈ log) ∨ t'.Free w := by
  have hlag : (t.workers w).pc.lag = 2 := by rw [hpc]; rfl
  have hpos : 0 < (t.workers w).pc.lag := by omega
  rcases hs.lag_run h hpos with hassigned | hfree | ⟨hpos', hnear⟩
  · exact .inl hassigned
  · exact .inr hfree
  · omega

/-! ## Nobody is stuck -/

/-- The main thread is about to notify the worker. -/
def Notifying (t : Server n) (w : Fin n) : Prop :=
  t.main = .placed w ∨ ∃ left, t.main = .flagged w left ∨ t.main = .waking w left

/-- No wake-up is lost. -/
theorem Sound.notifying (hs : t.Sound) (hpc : (t.workers w).pc = .asleep)
    (h : (t.workers w).pending ≠ none ∨ (t.workers w).exiting = true) : t.Notifying w := by
  have htold := (hs.workers w).told hpc
  have hdismissed := (hs.workers w).dismissed hpc
  have hview : (t.main.view w).fills = true ∨ (t.main.view w).wakes = true := by
    rcases h with hpending | hexiting
    · exact .inl (htold.resolve_left hpending)
    · exact .inr (hdismissed.resolve_left (by rw [hexiting]; decide))
  unfold Notifying
  cases hmain : t.main <;> rw [hmain] at hview <;> simp_all [Main.view]

/-- A thread that does not wait for a notification moves as soon as its mutex is
free of the main thread. -/
theorem Sound.thread_moves (hs : t.Sound) (hpc : (t.workers w).pc ∉ [.asleep, .exited])
    (h : (t.workers w).mutex ≠ some .listener) :
    ∃ e x, Runs w (t.workers w) (t.workers w).pc e x := by
  have hthread := (hs.workers w).thread
  have hmutex : (t.workers w).pc.inside = false → (t.workers w).mutex = none := by
    intro hinside
    rw [hinside] at hthread
    rcases hm : (t.workers w).mutex with _ | _ | _
    · rfl
    · exact absurd (hthread.mpr hm) Bool.false_ne_true
    · exact absurd hm h
  generalize hx : t.workers w = x at *
  cases hcase : x.pc <;> rw [hcase] at hpc hmutex
  case starting => exact ⟨_, _, .lock (hmutex rfl)⟩
  case testing =>
    by_cases hwait : x.exiting = true ∨ x.pending ≠ none
    · exact ⟨_, _, .pass hwait⟩
    · rw [not_or, not_not] at hwait
      exact ⟨_, _, .sleep (Bool.eq_false_iff.mpr hwait.1) hwait.2⟩
  case woken => exact ⟨_, _, .relock (hmutex rfl)⟩
  case passed =>
    cases hpending : x.pending with
    | none => exact ⟨_, _, .quit hpending⟩
    | some c => exact ⟨_, _, .exchange hpending⟩
  case taken c => exact ⟨_, _, .serve⟩
  case serving c => exact ⟨_, _, .return⟩
  case served => exact ⟨_, _, .lockAgain (hmutex rfl)⟩
  case clearing => exact ⟨_, _, .clear⟩
  all_goals simp at hpc

/-- The main thread does not wait under a mutex. -/
theorem Sound.listener_moves (hs : t.Sound) (h : (t.workers w).mutex = some .listener) :
    ∃ e t', Listens t t.main e t' := by
  have hinside := (hs.workers w).listener.mpr h
  cases hmain : t.main <;> rw [hmain] at hinside
  case assigning c v left =>
    by_cases hflags : (t.workers v).busy = true ∨ (t.workers v).exiting = true
    · exact ⟨_, _, .refuse hflags⟩
    · rw [not_or, Bool.not_eq_true, Bool.not_eq_true] at hflags
      exact ⟨_, _, .mark hflags.1 hflags.2⟩
  case marked c v left => exact ⟨_, _, .place⟩
  case placed v => exact ⟨_, _, .notify⟩
  case notified v => exact ⟨_, _, .unlock⟩
  case flagging v left => exact ⟨_, _, .flag⟩
  case flagged v left => exact ⟨_, _, .unlockLast⟩
  all_goals cases hinside

/-- Only its worker takes a socket out of a slot, to serve it. -/
theorem Sound.step_pending (hs : t.Sound) (h : t.Step a e t')
    (hpending : (t.workers w).pending = some c) :
    (t'.workers w).pending = some c ∨
      a = .worker w ∧ (t'.workers w).pending = none ∧ (t'.workers w).pc = .taken c := by
  cases h with
  | @worker v _ x hr =>
      by_cases hv : v = w
      · subst hv
        rw [put_self]
        generalize (t.workers v).pc = pc at hr
        cases hr with
        | exchange h =>
            rw [hpending] at h
            cases h
            exact .inr ⟨rfl, rfl, rfl⟩
        | _ => exact .inl hpending
      · rw [put_other t x (Ne.symm hv)]
        exact .inl hpending
  | listener hl =>
      rcases listens_touches hl hs.nodup w with ⟨hsame, -⟩ | htouch
      · rw [hsame]
        exact .inl hpending
      · have hbusy := (hs.workers w).busy
        have hle := Bool.toNat_le (t.workers w).busy
        generalize t.main.view w = v, t'.main.view w = v', t'.workers w = x' at *
        cases htouch with
        | place d =>
            rw [hpending] at hbusy
            simp at hbusy
            omega
        | notify | notifyLast =>
            exact .inl (by unfold Worker.notify; split_ifs <;> exact hpending)
        | _ => exact .inl hpending
  | console => exact .inl hpending

/-- A worker exits when it has served whatever was assigned to it. -/
theorem Steps.exited (h : Steps {} moves log t) (hpc : (t.workers w).pc = .exited)
    (hassigned : .assigned c w ∈ log) : .ended c w ∈ log := by
  obtain ⟨hs, hsteps⟩ := h.sound
  have htrail := mem_trail.mpr hassigned
  have hslot : t.handoff.slot w = none := by
    change (t.workers w).slot = none
    unfold Worker.slot
    rw [hpc]
    exact ((hs.workers w).exited hpc).1
  have hserving : t.handoff.serving w = none := by
    change (t.workers w).connection = none
    unfold Worker.connection
    rw [hpc]
  change .assigned c w ∈ trail log c at htrail
  refine mem_trail.mp (?_ : _ ∈ trail log c)
  rcases hsteps.history c with ⟨-, hnone⟩ | ⟨-, refusals, -, ⟨left, -, -, hoffered⟩ |
    ⟨-, hclosed⟩ | ⟨v, -, ⟨hv, hwaiting⟩ | ⟨hv, hbegan⟩ | hended⟩⟩
  · rw [hnone] at htrail
    cases htrail
  · rw [hoffered] at htrail
    exact absurd htrail (assigned_not_offered c c w refusals)
  · rw [hclosed] at htrail
    simp [assigned_not_offered] at htrail
  · rw [hwaiting] at htrail
    obtain rfl : w = v := by simpa [assigned_not_offered] using htrail
    rw [hslot] at hv
    cases hv
  · rw [hbegan] at htrail
    obtain rfl : w = v := by simpa [assigned_not_offered] using htrail
    rw [hserving] at hv
    cases hv
  · rw [hended] at htrail ⊢
    obtain rfl : w = v := by simpa [assigned_not_offered] using htrail
    simp

/-- When the main thread is through, every accepted socket has been closed or
served. -/
theorem Steps.finished (h : Steps {} moves log t) (hmain : t.main = .finished)
    (hc : c < t.accepted) : .closed c ∈ log ∨ ∃ w, .ended c w ∈ log := by
  obtain ⟨hs, hsteps⟩ := h.sound
  have hexited : ∀ w, (t.workers w).pc = .exited := by
    intro w
    exact (hs.workers w).joined (by rw [hmain]; rfl)
  rcases hsteps.history c with ⟨hnot, -⟩ | ⟨-, refusals, -, ⟨left, hands, -, -⟩ |
    ⟨-, hclosed⟩ | ⟨v, -, htrail⟩⟩
  · exact absurd hc (Nat.not_lt_of_le hnot)
  · change t.main.hands = _ at hands
    rw [hmain] at hands
    cases hands
  · refine .inl (mem_trail.mp (?_ : _ ∈ trail log c))
    rw [hclosed]
    simp
  · have hassigned : .assigned c v ∈ trail log c := by
      rcases htrail with ⟨-, h⟩ | ⟨-, h⟩ | h <;> rw [h] <;> simp
    exact .inr ⟨v, h.exited (hexited v) (mem_trail.mp hassigned)⟩

/-- **Every accepted socket is handled once.**  In any run its history is one of a
few: the listener holds it or has closed it, after refusals of the first or of
all workers, each busy or exiting; or the next worker has it in its slot, serves
it or has served it.  A worker serves one connection at a time, a slot is
emptied by its worker only, a worker exits with nothing left to serve, no
wake-up is lost, and a worker that is through with a connection takes the next
socket that it is offered. -/
theorem handled_once (h : Steps {} moves log t) :
    (∀ c, (t.accepted ≤ c ∧ trail log c = []) ∨
      c < t.accepted ∧ ∃ refusals : List (Refusal (Fin n)),
        (∀ r ∈ refusals, r.busy = true ∨ r.exiting = true) ∧
        ((∃ left, t.main.hands = some (c, left) ∧
            refusals.map Refusal.worker ++ left = List.finRange n ∧
            trail log c = offered c refusals) ∨
          (refusals.map Refusal.worker = List.finRange n ∧
            trail log c = offered c refusals ++ [.closed c]) ∨
          ∃ w, refusals.map Refusal.worker ++ [w] <+: List.finRange n ∧
            (((t.workers w).slot = some c ∧
                trail log c = offered c refusals ++ [.assigned c w]) ∨
              ((t.workers w).connection = some c ∧
                trail log c = offered c refusals ++ [.assigned c w, .began c w]) ∨
              trail log c =
                offered c refusals ++ [.assigned c w, .began c w, .ended c w]))) ∧
    (∀ w, InTurn w (log.filter (Event.service w)) (t.workers w).connection) ∧
    (∀ w c a e t', t.Step a e t' → (t.workers w).pending = some c →
      (t'.workers w).pending = some c ∨
        a = .worker w ∧ (t'.workers w).pending = none ∧ (t'.workers w).pc = .taken c) ∧
    (∀ w c, (t.workers w).pc = .exited → .assigned c w ∈ log → .ended c w ∈ log) ∧
    (t.main = .finished → ∀ c < t.accepted, .closed c ∈ log ∨ ∃ w, .ended c w ∈ log) ∧
    (∀ w c moves' log' t', (t.workers w).slot = some c → Steps t moves' log' t' →
      5 ≤ moves'.count (.worker w) → .began c w ∈ log') ∧
    (∀ w, ((t.workers w).pc = .asleep →
        (t.workers w).pending ≠ none ∨ (t.workers w).exiting = true → t.Notifying w) ∧
      ((t.workers w).pc ∉ [.asleep, .exited] → (t.workers w).mutex ≠ some .listener →
        ∃ e x, Runs w (t.workers w) (t.workers w).pc e x) ∧
      ((t.workers w).mutex = some .listener → ∃ e t', Listens t t.main e t')) ∧
    (∀ w moves' log' t', (t.workers w).pc = .served → Steps t moves' log' t' →
      2 ≤ moves'.count (.worker w) → (∃ d, .assigned d w ∈ log') ∨ t'.Free w) ∧
    (∀ w c left moves' log' t', t.main = .assigning c w left → (t.workers w).busy = false →
      Steps t moves' log' t' → 2 ≤ moves'.count .listener → .assigned c w ∈ log') := by
  obtain ⟨hs, hsteps⟩ := h.sound
  refine ⟨hsteps.history, hsteps.inTurn, fun w c a e t' => hs.step_pending,
    fun w c => h.exited, fun hmain c => h.finished hmain, ?_, ?_, ?_, ?_⟩
  · intro w c moves' log' t' hslot hrun
    exact hs.served_of_moves hrun hslot
  · intro w
    exact ⟨hs.notifying, hs.thread_moves, hs.listener_moves⟩
  · intro w moves' log' t' hpc hrun
    exact hs.free_of_moves hrun hpc
  · intro w c left moves' log' t' hmain hbusy hrun
    exact hs.assigned_of_moves hrun hmain hbusy

/-- The first of eight workers serves a socket. -/
theorem handled_once_first : ∃ t : Server 8, ∃ moves log, Steps {} moves log t ∧
    InTurn 0 (log.filter (Event.service 0)) none ∧ .ended 0 0 ∈ log := by
  have hrun := Steps.refl ({} : Server 8)
  have hrun := hrun.step (.listener (.test rfl))
  have hrun := hrun.step (.listener .accept)
  have hrun := hrun.step (.listener (.lock rfl))
  have hrun := hrun.step (.listener (.mark rfl rfl))
  have hrun := hrun.step (.listener .place)
  have hrun := hrun.step (.listener .notify)
  have hrun := hrun.step (.listener .unlock)
  have hrun := hrun.step (.worker (w := 0) (.lock rfl))
  have hrun := hrun.step (.worker (w := 0) (.pass (.inr nofun)))
  have hrun := hrun.step (.worker (w := 0) (.exchange rfl))
  have hrun := hrun.step (.worker (w := 0) .serve)
  have hrun := hrun.step (.worker (w := 0) .return)
  exact ⟨_, _, _, hrun, (handled_once hrun).2.1 0, by decide⟩

end Server

end FluidGateway.Pool
