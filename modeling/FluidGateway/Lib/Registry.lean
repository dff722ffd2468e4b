import Mathlib.Data.List.Nodup
import Mathlib.Data.List.Infix

/-!
# Registries of handles

A registry hands out handles for sessions, serves calls on them and takes them
back.  A history is legal when no handle is handed out twice and every call
finds exactly the session that the history puts behind its handle.
-/

namespace Registry

universe u v

/-- What happens to a registry. -/
inductive Event (η : Type u) (σ : Type v) where
  | opened (handle : η) (session : σ)
  | used (handle : η) (before after : σ)
  | closed (handle : η)
  | refused (handle : η)

variable {η : Type u} {σ : Type v} [DecidableEq η]

/-- What an event makes of the session behind a handle. -/
def Event.apply (h : η) (session : Option σ) : Event η σ → Option σ
  | .opened k after => if k = h then some after else session
  | .used k _ after => if k = h then some after else session
  | .closed k => if k = h then none else session
  | .refused _ => session

/-- The session behind a handle after a history. -/
def current (h : η) (log : List (Event η σ)) : Option σ :=
  log.foldl (Event.apply h) none

/-- The handle that an event hands out. -/
def Event.handedOut : Event η σ → Option η
  | .opened h _ => some h
  | _ => none

/-- The handles handed out in a history. -/
def handedOut (log : List (Event η σ)) : List η :=
  log.filterMap Event.handedOut

/-- The handles that have a session behind them. -/
def live (log : List (Event η σ)) : List η :=
  (handedOut log).filter fun h => (current h log).isSome

/-- An event that may follow a history. -/
def Allowed (log : List (Event η σ)) : Event η σ → Prop
  | .opened h _ => h ∉ handedOut log
  | .used h before _ => current h log = some before
  | .closed h => current h log ≠ none
  | .refused h => current h log = none

def Legal (log : List (Event η σ)) : Prop :=
  ∀ earlier e later, log = earlier ++ e :: later → Allowed earlier e

variable {log : List (Event η σ)} {e : Event η σ} {h : η}

theorem current_append (log : List (Event η σ)) (e : Event η σ) (h : η) :
    current h (log ++ [e]) = e.apply h (current h log) := by
  unfold current
  rw [List.foldl_append]
  rfl

omit [DecidableEq η] in
theorem handedOut_append (log rest : List (Event η σ)) :
    handedOut (log ++ rest) = handedOut log ++ handedOut rest :=
  List.filterMap_append

theorem legal_nil : Legal ([] : List (Event η σ)) := by
  intro earlier e later hsplit
  cases earlier <;> cases hsplit

/-- A legal history goes on with what is allowed after it. -/
theorem Legal.append (hlog : Legal log) (he : Allowed log e) : Legal (log ++ [e]) := by
  intro earlier e' later hsplit
  rcases List.eq_nil_or_concat later with rfl | ⟨later, last, rfl⟩
  · obtain ⟨rfl, hlast⟩ := List.append_inj' hsplit rfl
    cases hlast
    exact he
  · have hfront : log ++ [e] = (earlier ++ e' :: later) ++ [last] := by
      rw [hsplit, List.concat_eq_append, List.append_assoc]
      rfl
    obtain ⟨rfl, _⟩ := List.append_inj' hfront rfl
    exact hlog earlier e' later rfl

theorem Legal.of_append {rest : List (Event η σ)} (hlog : Legal (log ++ rest)) : Legal log := by
  intro earlier e later hsplit
  exact hlog earlier e (later ++ rest) (by rw [hsplit, List.append_assoc]; rfl)

/-- **No handle is handed out twice.** -/
theorem Legal.nodup_handedOut (hlog : Legal log) : (handedOut log).Nodup := by
  induction log using List.reverseRecOn with
  | nil => exact List.nodup_nil
  | append_singleton log e ih =>
      have hrest := ih hlog.of_append
      have hallowed := hlog log e [] rfl
      rw [handedOut_append]
      cases e with
      | opened k session =>
          refine List.Nodup.append hrest (List.nodup_singleton k) ?_
          intro h hmem hk
          rw [List.mem_singleton.mp hk] at hmem
          exact hallowed hmem
      | used k before after =>
          rwa [show handedOut [Event.used k before after] = [] from rfl, List.append_nil]
      | closed k =>
          rwa [show handedOut [Event.closed k] = [] from rfl, List.append_nil]
      | refused k =>
          rwa [show handedOut [Event.refused k] = [] from rfl, List.append_nil]

/-- What is behind a handle has been put there. -/
theorem Legal.handedOut_of_current (hlog : Legal log) {s : σ} (h' : current h log = some s) :
    h ∈ handedOut log := by
  induction log using List.reverseRecOn generalizing s with
  | nil => cases h'
  | append_singleton log e ih =>
      have hrest := hlog.of_append
      have hallowed := hlog log e [] rfl
      rw [handedOut_append, List.mem_append]
      rw [current_append] at h'
      cases e with
      | opened k session =>
          by_cases hk : k = h
          · right
            rw [hk]
            exact List.mem_singleton.mpr rfl
          · rw [Event.apply, if_neg hk] at h'
            exact .inl (ih hrest h')
      | used k before after =>
          left
          by_cases hk : k = h
          · rw [← hk]
            rw [hk] at hallowed
            rw [hk]
            exact ih hrest hallowed
          · rw [Event.apply, if_neg hk] at h'
            exact ih hrest h'
      | closed k =>
          left
          by_cases hk : k = h
          · rw [Event.apply, if_pos hk] at h'
            cases h'
          · rw [Event.apply, if_neg hk] at h'
            exact ih hrest h'
      | refused k => exact .inl (ih hrest h')

end Registry
