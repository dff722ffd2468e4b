import Mathlib.Tactic.SplitIfs

/-!
# Computations that see a part of the state

A stateful computation `Sees` a view of its state when states that look alike
give the same result and look alike afterwards.  Such computations compose
(`Sees.bind`).  A `Source` gives items until it has no more; a loop over its
items that depends on them only sees the same view (`Source.items_congr`).
-/

namespace Observed

variable {σ τ α β γ : Type}

theorem stateM_bind (m : StateM σ α) (f : α → StateM σ γ) (s : σ) :
    (m >>= f) s = f (m s).1 (m s).2 := rfl

/-- The computation uses and changes only what the view shows. -/
def Sees (view : σ → β) (m : StateM σ α) : Prop :=
  ∀ s s', view s = view s' → (m s).1 = (m s').1 ∧ view (m s).2 = view (m s').2

namespace Sees

variable {view : σ → β} {m : StateM σ α}

theorem pure (a : α) : Sees view (pure a : StateM σ α) :=
  fun _ _ h => ⟨rfl, h⟩

theorem bind {f : α → StateM σ γ} (hm : Sees view m) (hf : ∀ a, Sees view (f a)) :
    Sees view (m >>= f) := by
  intro s s' h
  obtain ⟨hresult, hview⟩ := hm s s' h
  have hstep := hf (m s').1 (m s).2 (m s').2 hview
  change (f (m s).1 (m s).2).1 = (f (m s').1 (m s').2).1 ∧
    view (f (m s).1 (m s).2).2 = view (f (m s').1 (m s').2).2
  rw [hresult]
  exact hstep

theorem ite {c : Prop} [Decidable c] {m' : StateM σ α} (h : Sees view m) (h' : Sees view m') :
    Sees view (if c then m else m') := by
  split_ifs
  · exact h
  · exact h'

/-- A computation that may fail, and another one if it has not. -/
theorem except_bind {ε : Type} {m : ExceptT ε (StateM σ) α} {f : α → ExceptT ε (StateM σ) γ}
    (hm : Sees view m.run) (hf : ∀ a, Sees view (f a).run) : Sees view (m >>= f).run := by
  rw [ExceptT.run_bind]
  refine hm.bind fun result => ?_
  cases result with
  | ok a => exact hf a
  | error e => exact Sees.pure _

/-- A computation that is known by what it makes of the view. -/
theorem of_eq {result : β → α} {rest : β → β} (hresult : ∀ s, (m s).1 = result (view s))
    (hrest : ∀ s, view (m s).2 = rest (view s)) : Sees view m := by
  intro s s' h
  rw [hresult s, hresult s', hrest s, hrest s', h]
  exact ⟨rfl, rfl⟩

end Sees

/-- Gives one item after the other, and fewer than its size says. -/
structure Source (σ α : Type) where
  next : σ → Option (α × σ)
  size : σ → Nat
  shrinks : ∀ {s a s'}, next s = some (a, s') → size s' < size s

namespace Source

variable (source : Source σ α) (step : τ → α → γ × Option τ)

/-- Go through the items as long as `step` goes on. -/
def items (t : τ) (s : σ) : List γ :=
  match _h : source.next s with
  | none => []
  | some (a, s') =>
    match step t a with
    | (c, none) => [c]
    | (c, some t') => c :: items t' s'
termination_by source.size s
decreasing_by exact source.shrinks _h

/-- The same, from an item on. -/
def itemsFrom (t : τ) (a : α) (s : σ) : List γ :=
  match step t a with
  | (c, none) => [c]
  | (c, some t') => c :: source.items step t' s

variable {source step}

theorem items_none {t : τ} {s : σ} (h : source.next s = none) : source.items step t s = [] := by
  rw [items]
  split
  · rfl
  · next h' => cases h.symm.trans h'

theorem items_some {t : τ} {s s' : σ} {a : α} (h : source.next s = some (a, s')) :
    source.items step t s = source.itemsFrom step t a s' := by
  rw [items]
  split
  · next h' => cases h.symm.trans h'
  · next h' =>
      cases h.symm.trans h'
      rfl

section

variable {view : σ → β}
  (hnext : ∀ s s', view s = view s' →
    (source.next s).map (fun p => (p.1, view p.2)) =
      (source.next s').map fun p => (p.1, view p.2))
include hnext

/-- **States that look alike give the same items.** -/
theorem items_congr (t : τ) (s s' : σ) (h : view s = view s') :
    source.items step t s = source.items step t s' := by
  induction hsize : source.size s using Nat.strongRecOn generalizing t s s' with
  | _ n ih =>
    have halike := hnext s s' h
    cases hs : source.next s with
    | none =>
        rw [hs] at halike
        have hs' : source.next s' = none := Option.map_eq_none_iff.mp halike.symm
        rw [items_none hs, items_none hs']
    | some p =>
        obtain ⟨a, rest⟩ := p
        rw [hs] at halike
        obtain ⟨⟨a', rest'⟩, hs', hsame⟩ := Option.map_eq_some_iff.mp halike.symm
        obtain ⟨rfl, hview⟩ := Prod.mk.inj hsame
        rw [items_some hs, items_some hs']
        have hsmall := source.shrinks hs
        unfold itemsFrom
        rcases step t a' with ⟨c, _ | t'⟩
        · rfl
        · exact congrArg (c :: ·) (ih _ (hsize ▸ hsmall) t' rest rest' hview.symm rfl)

theorem itemsFrom_congr (t : τ) (a : α) (s s' : σ) (h : view s = view s') :
    source.itemsFrom step t a s = source.itemsFrom step t a s' := by
  unfold itemsFrom
  rcases step t a with ⟨c, _ | t'⟩
  · rfl
  · exact congrArg (c :: ·) (items_congr hnext t' s s' h)

end

end Source

end Observed
