import Mathlib.Data.List.Basic
import Mathlib.Data.List.Forall2

/-!
# Readers in lockstep

A reader takes a value from the front of its input, or fails.  Two readers
agree when on related inputs either both fail, or both succeed with related
values and related rests.  Agreement is kept by sequencing (`Agree.bind`) and
by repetition (`Agree.each`), so two decoders of one format are compared
field by field.
-/

namespace Reading

universe u

variable {ε δ σ τ α β α' β' : Type u}

/-- A reader from an input of type `σ` that may fail with an error. -/
abbrev Reader (ε σ α : Type u) := StateT σ (Except ε) α

/-- Fail unless the condition holds. -/
def require (p : Prop) [Decidable p] (e : ε) : Reader ε σ PUnit :=
  fun s => if p then .ok (.unit, s) else .error e

/-- Read one value for each index, one after the other. -/
def each {ι : Type} (f : ι → Reader ε σ α) : List ι → Reader ε σ (List α)
  | [] => pure []
  | i :: is => do
    let a ← f i
    let as ← each f is
    return a :: as

/-! ## What a successful reader has read -/

/-- Two readers in a row succeed exactly where the first does and then the second on what is
left. -/
theorem bind_eq_ok {p : Reader ε σ α} {k : α → Reader ε σ β} {s : σ} {r : β × σ} :
    (p >>= k) s = .ok r ↔ ∃ a s', p s = .ok (a, s') ∧ k a s' = .ok r := by
  change ((p s).bind fun x => k x.1 x.2) = .ok r ↔ _
  cases p s with
  | error e => simp [Except.bind]
  | ok x => simp [Except.bind, Prod.ext_iff]

/-- Returning a value reads nothing. -/
theorem pure_eq_ok {a : α} {s : σ} {r : α × σ} :
    (Pure.pure a : Reader ε σ α) s = .ok r ↔ r = (a, s) := by
  change Except.ok (a, s) = .ok r ↔ _
  rw [Except.ok.injEq, eq_comm]

/-- A check reads nothing and succeeds exactly where its condition holds. -/
theorem require_eq_ok {c : Prop} [Decidable c] {e : ε} {s : σ} {r : PUnit × σ} :
    (require c e : Reader ε σ PUnit) s = .ok r ↔ c ∧ r = (.unit, s) := by
  unfold require
  split_ifs with hc <;> simp [hc, eq_comm]

/-- A check that passes is no step. -/
theorem require_bind {c : Prop} [Decidable c] {e : ε} {k : PUnit → Reader ε σ β} (h : c) :
    (require c e >>= k) = k .unit := by
  funext s
  change ((require c e : Reader ε σ PUnit) s).bind (fun x => k x.1 x.2) = _
  unfold require
  rw [if_pos h]
  rfl

/-- A check that fails is the last step. -/
theorem require_bind_error {c : Prop} [Decidable c] {e : ε} {k : PUnit → Reader ε σ β}
    (h : ¬ c) (s : σ) : (require c e >>= k) s = .error e := by
  change ((require c e : Reader ε σ PUnit) s).bind (fun x => k x.1 x.2) = _
  unfold require
  rw [if_neg h]
  rfl

/-! ## What a reader fails with -/

/-- A reader fails with errors of one kind only. -/
def Fails (kind : ε → Prop) (p : Reader ε σ α) : Prop :=
  ∀ s e, p s = .error e → kind e

namespace Fails

variable {kind : ε → Prop} {p : Reader ε σ α}

/-- Returning a value does not fail. -/
theorem pure (a : α) : Fails kind (Pure.pure a : Reader ε σ α) := by
  intro s e h
  cases h

/-- A computation fails in some way if its errors are of that kind. -/
theorem lift {x : Except ε α} (h : ∀ e, x = .error e → kind e) :
    Fails kind (liftM x : Reader ε σ α) := by
  intro s e hx
  cases x with
  | error e' =>
      cases hx
      exact h _ rfl
  | ok a => cases hx

/-- Two readers in a row fail as each of them does. -/
theorem bind {k : α → Reader ε σ β} (h : Fails kind p) (hk : ∀ a, Fails kind (k a)) :
    Fails kind (p >>= k) := by
  intro s e hs
  change ((p s).bind fun x => k x.1 x.2) = .error e at hs
  cases hp : p s with
  | error e' =>
      rw [hp] at hs
      cases hs
      exact h s e hp
  | ok x =>
      rw [hp] at hs
      exact hk x.1 x.2 e hs

/-- Changing what is read does not change how it fails. -/
theorem map {f : α → β} (h : Fails kind p) : Fails kind (f <$> p) := by
  rw [map_eq_pure_bind]
  exact h.bind fun a => .pure (f a)

/-- A check fails with its own error. -/
theorem require {c : Prop} [Decidable c] {e : ε} (h : kind e) :
    Fails kind (Reading.require c e : Reader ε σ PUnit) := by
  intro s e' hs
  unfold Reading.require at hs
  split_ifs at hs
  cases hs
  exact h

/-- Either of two readers fails as both do. -/
theorem ite {c : Prop} [Decidable c] {q : Reader ε σ α} (hp : Fails kind p) (hq : Fails kind q) :
    Fails kind (if c then p else q) := by
  split_ifs
  · exact hp
  · exact hq

/-- Reading several things fails as reading one of them does, by induction on their number. -/
theorem each {ι : Type} {f : ι → Reader ε σ α} (h : ∀ i, Fails kind (f i)) (is : List ι) :
    Fails kind (Reading.each f is) := by
  induction is with
  | nil => exact .pure []
  | cons i is ih => exact (h i).bind fun a => ih.bind fun as => .pure (a :: as)

end Fails

/-! ## Agreement -/

/-- The same outcome of two readers: related values and rests, or two related
errors. -/
inductive Same (fault : ε → δ → Prop) (rest : σ → τ → Prop) (value : α → β → Prop) :
    Except ε (α × σ) → Except δ (β × τ) → Prop
  | ok {a : α} {b : β} {s : σ} {t : τ} (values : value a b) (rests : rest s t) :
      Same fault rest value (.ok (a, s)) (.ok (b, t))
  | error {e : ε} {d : δ} (faults : fault e d) : Same fault rest value (.error e) (.error d)

/-- Two readers agree on all related inputs. -/
def Agree (fault : ε → δ → Prop) (rest : σ → τ → Prop) (value : α → β → Prop)
    (p : Reader ε σ α) (q : Reader δ τ β) : Prop :=
  ∀ s t, rest s t → Same fault rest value (p s) (q t)

variable {fault : ε → δ → Prop} {rest : σ → τ → Prop} {value : α → β → Prop}
  {value' : α' → β' → Prop} {p : Reader ε σ α} {q : Reader δ τ β}

/-- Two related values agree. -/
theorem Agree.pure {a : α} {b : β} (h : value a b) :
    Agree fault rest value (Pure.pure a : Reader ε σ α) (Pure.pure b : Reader δ τ β) := by
  intro s t hrest
  exact .ok h hrest

/-- Two related errors agree. -/
theorem Agree.fail {e : ε} {d : δ} (h : fault e d) :
    Agree fault rest value (throw e : Reader ε σ α) (throw d : Reader δ τ β) := by
  intro s t _
  exact .error h

/-- Readers that agree, followed by readers that agree on what they have read, agree. -/
theorem Agree.bind {k : α → Reader ε σ α'} {l : β → Reader δ τ β'}
    (h : Agree fault rest value p q)
    (hk : ∀ a b, value a b → Agree fault rest value' (k a) (l b)) :
    Agree fault rest value' (p >>= k) (q >>= l) := by
  intro s t hrest
  change Same fault rest value' ((p s).bind fun x => k x.1 x.2) ((q t).bind fun x => l x.1 x.2)
  have hfirst := h s t hrest
  generalize p s = x at hfirst ⊢
  generalize q t = y at hfirst ⊢
  cases hfirst with
  | ok hvalue hrest' => exact hk _ _ hvalue _ _ hrest'
  | error hfault => exact .error hfault

/-- Both readers check the same condition. -/
theorem Agree.require {c d : Prop} [Decidable c] [Decidable d] {e : ε} {f : δ} (h : c ↔ d)
    (hfault : fault e f) :
    Agree fault rest (fun _ _ => c) (Reading.require c e : Reader ε σ PUnit)
      (Reading.require d f : Reader δ τ PUnit) := by
  intro s t hrest
  unfold Reading.require
  by_cases hc : c
  · rw [if_pos hc, if_pos (h.mp hc)]
    exact .ok hc hrest
  · rw [if_neg hc, if_neg (fun hd => hc (h.mpr hd))]
    exact .error hfault

/-- Readers agree on less wherever they agree on more. -/
theorem Agree.mono {value₂ : α → β → Prop} (h : Agree fault rest value p q)
    (hvalue : ∀ a b, value a b → value₂ a b) : Agree fault rest value₂ p q := by
  intro s t hrest
  have hfirst := h s t hrest
  generalize p s = x at hfirst ⊢
  generalize q t = y at hfirst ⊢
  cases hfirst with
  | ok hval hrest' => exact .ok (hvalue _ _ hval) hrest'
  | error hfault => exact .error hfault

/-- Two choices under equivalent conditions agree if both of their branches do. -/
theorem Agree.ite {c d : Prop} [Decidable c] [Decidable d] {p₂ : Reader ε σ α}
    {q₂ : Reader δ τ β} (h : c ↔ d) (hpos : c → Agree fault rest value p q)
    (hneg : ¬ c → Agree fault rest value p₂ q₂) :
    Agree fault rest value (if c then p else p₂) (if d then q else q₂) := by
  by_cases hc : c
  · rw [if_pos hc, if_pos (h.mp hc)]
    exact hpos hc
  · rw [if_neg hc, if_neg (fun hd => hc (h.mpr hd))]
    exact hneg hc

/-- Reading several things agrees if each of them does, by induction on the pairs. -/
theorem Agree.each {ι κ : Type} {f : ι → Reader ε σ α} {g : κ → Reader δ τ β} {is : List ι}
    {js : List κ} (h : List.Forall₂ (fun i j => Agree fault rest value (f i) (g j)) is js) :
    Agree fault rest (List.Forall₂ value) (Reading.each f is) (Reading.each g js) := by
  induction h with
  | nil => exact Agree.pure .nil
  | cons hij _ ih =>
      refine Agree.bind hij ?_
      intro a b hab
      refine Agree.bind ih ?_
      intro as bs habs
      exact Agree.pure (.cons hab habs)

end Reading
