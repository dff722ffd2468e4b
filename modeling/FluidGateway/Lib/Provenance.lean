import Mathlib.Logic.Function.Basic
import Mathlib.Logic.Relation
import Mathlib.Data.Option.Basic

/-!
# Provenance records and the writes that retire them

A ledger knows a set of registered keys, each with a view (for instance a
memory layer and some alias names), and for some keys a record of the last
transfer into it.  Two registered keys are adjacent when their views share
storage.  A write through a key retires every record whose target or whose
registered source lies in the connected component of that key; a write through
an unknown key may reach anything and retires all records.

This file proves, for any keys, views and records:

* `copy_eq_some_iff`: a record is held exactly when the transfer that made it
  is in the history and nothing since then ended it;
* `endpoints_since`: the condition under which a held record also certifies
  that both of its endpoints stayed registered since;
* `Sim.step`: two ledgers that agree up to a renaming of keys and records stay
  in agreement.
-/

namespace Provenance

/-- How views share storage and which source a record names. -/
structure Machine (κ ν ρ : Type*) where
  shares : ν → ν → Prop
  source : ρ → Option κ

/-- Registered keys with their views, and the record held for each key. -/
@[ext]
structure Ledger (κ ν ρ : Type*) where
  res : κ → Option ν
  copy : κ → Option ρ

/-- What one step of the recorded system does to the ledger.  A written key is
optional: an operation may name no target at all. -/
inductive Act (κ ν ρ : Type*) where
  | register (k : κ) (v : ν)
  | release (k : κ)
  | write (x : Option κ)
  | transfer (x : Option κ) (r : ρ)
  | pass

variable {κ ν ρ : Type*} (m : Machine κ ν ρ)

/-- Both keys are registered and their views share storage. -/
def Ledger.Adjacent (L : Ledger κ ν ρ) (a b : κ) : Prop :=
  ∃ va vb, L.res a = some va ∧ L.res b = some vb ∧ m.shares va vb

/-- Connected through any chain of adjacent registered keys. -/
def Ledger.Linked (L : Ledger κ ν ρ) : κ → κ → Prop :=
  Relation.ReflTransGen (L.Adjacent m)

/-- A write through `x` retires the record `r` held for `t`. -/
def Ledger.Retires (L : Ledger κ ν ρ) (x : Option κ) (t : κ) (r : ρ) : Prop :=
  (∀ y, x = some y → L.res y = none) ∨
    ∃ y, x = some y ∧
      (L.Linked m y t ∨ ∃ s, m.source r = some s ∧ L.res s ≠ none ∧ L.Linked m y s)

open Classical in
/-- Drop every record that a write through `x` retires. -/
noncomputable def Ledger.retire (L : Ledger κ ν ρ) (x : Option κ) : Ledger κ ν ρ :=
  { L with copy := fun t => (L.copy t).filter fun r => ¬ L.Retires m x t r }

theorem Ledger.retire_copy_iff (L : Ledger κ ν ρ) {x : Option κ} {t : κ} {r : ρ} :
    (L.retire m x).copy t = some r ↔ L.copy t = some r ∧ ¬ L.Retires m x t r := by
  simp [Ledger.retire, Option.filter_eq_some_iff]

/-- A write through an unknown key retires every record. -/
theorem Ledger.retires_unknown (L : Ledger κ ν ρ) {y : κ} (hy : L.res y = none) (t : κ) (r : ρ) :
    L.Retires m (some y) t r := by
  refine Or.inl ?_
  intro z hz
  cases hz
  exact hy

/-- A write through a registered key retires what it is connected to. -/
theorem Ledger.retires_known (L : Ledger κ ν ρ) {y : κ} (hy : L.res y ≠ none) {t : κ} {r : ρ} :
    L.Retires m (some y) t r ↔
      L.Linked m y t ∨ ∃ s, m.source r = some s ∧ L.res s ≠ none ∧ L.Linked m y s := by
  constructor
  · intro h
    rcases h with h | ⟨z, hz, h⟩
    · exact absurd (h y rfl) hy
    · cases hz
      exact h
  · intro h
    exact Or.inr ⟨y, rfl, h⟩

/-- A write through `t` itself, registered or not, retires the record of `t`. -/
theorem Ledger.retires_self (L : Ledger κ ν ρ) (t : κ) (r : ρ) :
    L.Retires m (some t) t r :=
  Or.inr ⟨t, rfl, Or.inl Relation.ReflTransGen.refl⟩

/-- A write through the source retires the record, whether or not the source
is registered at that moment. -/
theorem Ledger.retires_source (L : Ledger κ ν ρ) {t s : κ} {r : ρ}
    (hs : m.source r = some s) : L.Retires m (some s) t r := by
  by_cases h : L.res s = none
  · exact L.retires_unknown m h t r
  · exact (L.retires_known m h).mpr (Or.inr ⟨s, hs, h, Relation.ReflTransGen.refl⟩)

section Steps

variable [DecidableEq κ]

open Classical in
/-- One step of the ledger. -/
noncomputable def Ledger.step (L : Ledger κ ν ρ) : Act κ ν ρ → Ledger κ ν ρ
  | .register k v =>
      { res := Function.update L.res k (some v), copy := Function.update L.copy k none }
  | .release k =>
      { res := Function.update L.res k none,
        copy := Function.update (L.retire m (some k)).copy k none }
  | .write x => L.retire m x
  | .transfer x r =>
      { L with copy := fun t =>
          if x = some t ∧ L.res t ≠ none then some r else (L.retire m x).copy t }
  | .pass => L

/-- The key through which a step writes, if it writes. -/
def Act.written : Act κ ν ρ → Option (Option κ)
  | .release k => some (some k)
  | .write x => some x
  | .transfer x _ => some x
  | _ => none

/-- The step `e.2`, taken at the ledger `e.1`, ends the record `r` of `t`. -/
def Ends (e : Ledger κ ν ρ × Act κ ν ρ) (t : κ) (r : ρ) : Prop :=
  (∃ x, e.2.written = some x ∧ e.1.Retires m x t r) ∨ ∃ v, e.2 = .register t v

/-- **One step.**  A record is held afterwards exactly when this step made it,
or it was held before and this step did not end it. -/
theorem Ledger.step_copy_iff (L : Ledger κ ν ρ) (a : Act κ ν ρ) {t : κ} {r : ρ} :
    (L.step m a).copy t = some r ↔
      (a = .transfer (some t) r ∧ L.res t ≠ none) ∨
        (L.copy t = some r ∧ ¬ Ends m (L, a) t r) := by
  cases a with
  | register k v =>
      by_cases hk : t = k
      · subst hk
        simp [Ledger.step, Ends, Act.written]
      · have hne : ∀ w : ν, ¬ Act.register k v = (Act.register t w : Act κ ν ρ) := by
          rintro w ⟨⟩
          exact hk rfl
        simp [Ledger.step, Ends, Act.written, Function.update_of_ne hk, hne]
  | release k =>
      by_cases hk : t = k
      · subst hk
        have := L.retires_self m t r
        simp [Ledger.step, Ends, Act.written, this]
      · simp [Ledger.step, Ends, Act.written, Function.update_of_ne hk, L.retire_copy_iff m]
  | write x => simp [Ledger.step, Ends, Act.written, L.retire_copy_iff m]
  | pass => simp [Ledger.step, Ends, Act.written]
  | transfer x q =>
      by_cases hx : x = some t ∧ L.res t ≠ none
      · have := L.retires_self m t r
        simp [Ledger.step, Ends, Act.written, hx.1, hx.2, this]
      · have hnew : ¬ (Act.transfer x q = (Act.transfer (some t) r : Act κ ν ρ) ∧
            L.res t ≠ none) := by
          rintro ⟨⟨⟩, h⟩
          exact hx ⟨rfl, h⟩
        simp only [Ledger.step, if_neg hx, L.retire_copy_iff m, hnew, false_or]
        simp [Ends, Act.written]

/-- Registration changes only through the two steps that name it. -/
theorem Ledger.step_res (L : Ledger κ ν ρ) (a : Act κ ν ρ) {k : κ}
    (hreg : ∀ v, a ≠ .register k v) (hrel : a ≠ .release k) :
    (L.step m a).res k = L.res k := by
  cases a with
  | register j v =>
      have hj : k ≠ j := by rintro rfl; exact hreg v rfl
      simp [Ledger.step, Function.update_of_ne hj]
  | release j =>
      have hj : k ≠ j := by rintro rfl; exact hrel rfl
      simp [Ledger.step, Function.update_of_ne hj]
  | _ => rfl

/-- Only a registration makes a key registered. -/
theorem Ledger.res_of_step (L : Ledger κ ν ρ) (a : Act κ ν ρ) {k : κ}
    (hreg : ∀ v, a ≠ .register k v) (h : (L.step m a).res k ≠ none) : L.res k ≠ none := by
  by_cases hrel : a = .release k
  · subst hrel
    simp [Ledger.step] at h
  · rwa [L.step_res m a hreg hrel] at h

/-- A run from `L₀`, with every step taken and the ledger it was taken at, the
latest first. -/
inductive Run (L₀ : Ledger κ ν ρ) :
    Ledger κ ν ρ → List (Ledger κ ν ρ × Act κ ν ρ) → Prop
  | start : Run L₀ L₀ []
  | step {L : Ledger κ ν ρ} {trail : List (Ledger κ ν ρ × Act κ ν ρ)}
      (run : Run L₀ L trail) (a : Act κ ν ρ) : Run L₀ (L.step m a) ((L, a) :: trail)

/-- A key registered now was registered at every step since its last
registration. -/
theorem registered_at {L₀ L : Ledger κ ν ρ} {newer older : List (Ledger κ ν ρ × Act κ ν ρ)}
    {e : Ledger κ ν ρ × Act κ ν ρ} (hrun : Run m L₀ L (newer ++ e :: older)) {k : κ}
    (h : L.res k ≠ none) (hnewer : ∀ x ∈ newer, ∀ v, x.2 ≠ .register k v)
    (he : ∀ v, e.2 ≠ .register k v) : e.1.res k ≠ none := by
  induction newer generalizing L with
  | nil =>
      cases hrun with
      | step _ a => exact Ledger.res_of_step m _ a he h
  | cons x newer ih =>
      cases hrun with
      | step run a =>
          have hpre := Ledger.res_of_step m _ a (hnewer _ List.mem_cons_self) h
          exact ih run hpre fun y hy => hnewer y (List.mem_cons_of_mem _ hy)

/-- **A held record is a transfer that nothing has ended since.** -/
theorem copy_eq_some_iff {L₀ L : Ledger κ ν ρ} {trail : List (Ledger κ ν ρ × Act κ ν ρ)}
    (h0 : ∀ k, L₀.copy k = none) (hrun : Run m L₀ L trail) {t : κ} {r : ρ} :
    L.copy t = some r ↔
      ∃ newer pre older, trail = newer ++ (pre, .transfer (some t) r) :: older ∧
        pre.res t ≠ none ∧ ∀ e ∈ newer, ¬ Ends m e t r := by
  induction hrun with
  | start => simp [h0]
  | @step L trail _ a ih =>
      rw [L.step_copy_iff m]
      constructor
      · rintro (⟨rfl, ht⟩ | ⟨hold, hends⟩)
        · exact ⟨[], L, trail, rfl, ht, by simp⟩
        · obtain ⟨newer, pre, older, rfl, ht, hno⟩ := ih.mp hold
          exact ⟨(L, a) :: newer, pre, older, rfl, ht, by simpa [hends] using hno⟩
      · rintro ⟨newer, pre, older, htrail, ht, hno⟩
        cases newer with
        | nil =>
            simp only [List.nil_append, List.cons.injEq, Prod.mk.injEq] at htrail
            obtain ⟨⟨rfl, rfl⟩, rfl⟩ := htrail
            exact Or.inl ⟨rfl, ht⟩
        | cons e newer =>
            simp only [List.cons_append, List.cons.injEq] at htrail
            obtain ⟨rfl, rfl⟩ := htrail
            refine Or.inr ⟨ih.mpr ⟨newer, pre, older, rfl, ht, ?_⟩, hno _ List.mem_cons_self⟩
            exact fun e he => hno e (List.mem_cons_of_mem _ he)

/-- No key was registered while some held record already named it as source. -/
def NoLateSource (trail : List (Ledger κ ν ρ × Act κ ν ρ)) : Prop :=
  ∀ e ∈ trail, ∀ k v, e.2 = .register k v → ∀ t r, e.1.copy t = some r →
    m.source r ≠ some k

/-- **What a held record certifies.**  In a run where no key is registered
under a name that a held record already uses as source, both endpoints of a
record with a registered source were registered when the transfer was made,
nothing since has ended the record, and neither endpoint has been released or
registered since. -/
theorem endpoints_since {L₀ L : Ledger κ ν ρ} {trail : List (Ledger κ ν ρ × Act κ ν ρ)}
    (h0 : ∀ k, L₀.copy k = none) (hrun : Run m L₀ L trail) (hlate : NoLateSource m trail)
    {t s : κ} {r : ρ} (hcopy : L.copy t = some r) (hs : m.source r = some s)
    (hreg : L.res s ≠ none) :
    ∃ newer pre older, trail = newer ++ (pre, .transfer (some t) r) :: older ∧
      pre.res t ≠ none ∧ pre.res s ≠ none ∧
      ∀ e ∈ newer, ¬ Ends m e t r ∧
        ∀ k, k = s ∨ k = t → e.2 ≠ .release k ∧ ∀ v, e.2 ≠ .register k v := by
  induction hrun with
  | start => simp [h0] at hcopy
  | @step L trail _ a ih =>
      rcases (L.step_copy_iff m a).mp hcopy with ⟨rfl, ht⟩ | ⟨hold, hends⟩
      · refine ⟨[], L, trail, rfl, ht, ?_, by simp⟩
        rwa [L.step_res m _ (by rintro v ⟨⟩) (by rintro ⟨⟩)] at hreg
      · -- this step keeps the record, so it touches neither endpoint
        have hkeep : ∀ k, k = s ∨ k = t → a ≠ .release k ∧ ∀ v, a ≠ .register k v := by
          rintro k (rfl | rfl)
          · refine ⟨?_, ?_⟩
            · rintro rfl
              exact hends (Or.inl ⟨_, rfl, L.retires_source m hs⟩)
            · rintro v rfl
              exact hlate _ List.mem_cons_self k v rfl t r hold hs
          · refine ⟨?_, ?_⟩
            · rintro rfl
              exact hends (Or.inl ⟨_, rfl, L.retires_self m k r⟩)
            · rintro v rfl
              exact hends (Or.inr ⟨v, rfl⟩)
        have hsame := L.step_res m a (hkeep s (Or.inl rfl)).2 (hkeep s (Or.inl rfl)).1
        obtain ⟨newer, pre, older, rfl, ht, hsrc, hno⟩ := ih
          (fun e he => hlate e (List.mem_cons_of_mem _ he)) hold (hsame ▸ hreg)
        refine ⟨(L, a) :: newer, pre, older, rfl, ht, hsrc, ?_⟩
        intro e he
        rcases List.mem_cons.mp he with rfl | he
        · exact ⟨hends, hkeep⟩
        · exact hno e he

end Steps

section Renaming

theorem rel_some_left {α β : Type*} {R : α → β → Prop} {a : α} {o : Option β} :
    Option.Rel R (some a) o ↔ ∃ b, o = some b ∧ R a b :=
  ⟨by rintro ⟨h⟩; exact ⟨_, rfl, h⟩, by rintro ⟨b, rfl, h⟩; exact .some h⟩

theorem rel_some_right {α β : Type*} {R : α → β → Prop} {b : β} {o : Option α} :
    Option.Rel R o (some b) ↔ ∃ a, o = some a ∧ R a b :=
  ⟨by rintro ⟨h⟩; exact ⟨_, rfl, h⟩, by rintro ⟨a, rfl, h⟩; exact .some h⟩

theorem rel_none_iff {α β : Type*} {R : α → β → Prop} {o : Option α} {o' : Option β}
    (h : Option.Rel R o o') : o = none ↔ o' = none := by
  cases h <;> simp

variable {κ' ν' ρ' : Type*} (m' : Machine κ' ν' ρ')

/-- How the keys, views and records of one ledger are written in another. Only
the keys satisfying `valid` are ever registered. -/
structure Renaming (κ ν ρ κ' ν' ρ' : Type*) where
  enc : κ' → κ
  valid : κ' → Prop
  view : ν → ν' → Prop
  record : ρ → ρ' → Prop

variable (e : Renaming κ ν ρ κ' ν' ρ')

/-- Two optional keys name the same valid key, or neither names one. -/
def Renaming.Key (x : Option κ) (x' : Option κ') : Prop :=
  ∀ k, e.valid k → (x = some (e.enc k) ↔ x' = some k)

/-- The renaming respects what the two machines observe. -/
structure Renaming.Lawful : Prop where
  inj : Function.Injective e.enc
  shares : ∀ {a b a' b'}, e.view a a' → e.view b b' → (m.shares a b ↔ m'.shares a' b')
  source : ∀ {r r'}, e.record r r' → e.Key (m.source r) (m'.source r')

/-- Two ledgers in agreement. -/
structure Sim (L : Ledger κ ν ρ) (L' : Ledger κ' ν' ρ') : Prop where
  res : ∀ k, e.valid k → Option.Rel e.view (L.res (e.enc k)) (L'.res k)
  copy : ∀ k, e.valid k → Option.Rel e.record (L.copy (e.enc k)) (L'.copy k)
  range : ∀ k, L.res k ≠ none → ∃ k', e.valid k' ∧ k = e.enc k'
  valid : ∀ k, L'.res k ≠ none → e.valid k

/-- Two steps in agreement. -/
inductive SimAct : Act κ ν ρ → Act κ' ν' ρ' → Prop
  | register {k : κ'} {v : ν} {v' : ν'} (hk : e.valid k) (hv : e.view v v') :
      SimAct (.register (e.enc k) v) (.register k v')
  | release {k : κ'} (hk : e.valid k) : SimAct (.release (e.enc k)) (.release k)
  | write {x : Option κ} {x' : Option κ'} (hx : e.Key x x') : SimAct (.write x) (.write x')
  | transfer {x : Option κ} {x' : Option κ'} {r : ρ} {r' : ρ'} (hx : e.Key x x')
      (hr : e.record r r') : SimAct (.transfer x r) (.transfer x' r')
  | pass : SimAct .pass .pass

variable {m m' e}
variable {L : Ledger κ ν ρ} {L' : Ledger κ' ν' ρ'}

theorem Sim.res_eq_none_iff (h : Sim e L L') {k : κ'} (hk : e.valid k) :
    L.res (e.enc k) = none ↔ L'.res k = none :=
  rel_none_iff (h.res k hk)

theorem Sim.adjacent_iff (he : e.Lawful m m') (h : Sim e L L') {a b : κ'}
    (ha : e.valid a) (hb : e.valid b) :
    L.Adjacent m (e.enc a) (e.enc b) ↔ L'.Adjacent m' a b := by
  have hra := h.res a ha
  have hrb := h.res b hb
  constructor
  · rintro ⟨va, vb, h1, h2, hs⟩
    rw [h1] at hra
    rw [h2] at hrb
    obtain ⟨va', h1', hva⟩ := rel_some_left.mp hra
    obtain ⟨vb', h2', hvb⟩ := rel_some_left.mp hrb
    exact ⟨va', vb', h1', h2', (he.shares hva hvb).mp hs⟩
  · rintro ⟨va, vb, h1, h2, hs⟩
    rw [h1] at hra
    rw [h2] at hrb
    obtain ⟨va', h1', hva⟩ := rel_some_right.mp hra
    obtain ⟨vb', h2', hvb⟩ := rel_some_right.mp hrb
    exact ⟨va', vb', h1', h2', (he.shares hva hvb).mpr hs⟩

/-- Chains of adjacent keys are the same on both sides. -/
theorem Sim.linked_iff (he : e.Lawful m m') (h : Sim e L L') {a b : κ'}
    (ha : e.valid a) :
    L.Linked m (e.enc a) (e.enc b) ↔ L'.Linked m' a b := by
  constructor
  · intro hl
    have hgo : ∀ y, L.Linked m (e.enc a) y →
        ∃ k, e.valid k ∧ y = e.enc k ∧ L'.Linked m' a k := by
      intro y hy
      induction hy with
      | refl => exact ⟨a, ha, rfl, .refl⟩
      | @tail u v _ huv ih =>
          obtain ⟨k, hk, rfl, hak⟩ := ih
          obtain ⟨vu, vv, h1, h2, hs⟩ := huv
          obtain ⟨j, hj, rfl⟩ := h.range v (by simp [h2])
          exact ⟨j, hj, rfl, hak.tail ((h.adjacent_iff he hk hj).mp ⟨vu, vv, h1, h2, hs⟩)⟩
    obtain ⟨k, -, hkb, hak⟩ := hgo _ hl
    exact he.inj hkb ▸ hak
  · intro hl
    have hgo : ∀ y, L'.Linked m' a y → L.Linked m (e.enc a) (e.enc y) ∧ e.valid y := by
      intro y hy
      induction hy with
      | refl => exact ⟨.refl, ha⟩
      | @tail u v _ huv ih =>
          have hv : e.valid v := by
            obtain ⟨_, vv, _, h2, _⟩ := huv
            exact h.valid v (by simp [h2])
          exact ⟨ih.1.tail ((h.adjacent_iff he ih.2 hv).mpr huv), hv⟩
    exact (hgo b hl).1

theorem Sim.retires_iff (he : e.Lawful m m') (h : Sim e L L') {x : Option κ} {x' : Option κ'}
    (hx : e.Key x x') {t : κ'} {r : ρ} {r' : ρ'} (hr : e.record r r') :
    L.Retires m x (e.enc t) r ↔ L'.Retires m' x' t r' := by
  have hunknown : (∀ y, x = some y → L.res y = none) ↔ (∀ y, x' = some y → L'.res y = none) := by
    constructor
    · intro hu y hy
      by_contra hne
      have hv := h.valid y hne
      exact hne ((h.res_eq_none_iff hv).mp (hu _ ((hx y hv).mpr hy)))
    · intro hu y hy
      by_contra hne
      obtain ⟨k, hk, rfl⟩ := h.range y hne
      exact hne ((h.res_eq_none_iff hk).mpr (hu k ((hx k hk).mp hy)))
  by_cases hu : ∀ y, x = some y → L.res y = none
  · exact iff_of_true (Or.inl hu) (Or.inl (hunknown.mp hu))
  · have hu' : ¬ ∀ y, x' = some y → L'.res y = none := fun hc => hu (hunknown.mpr hc)
    -- the write goes through a registered key, the same one on both sides
    obtain ⟨y, rfl, hy⟩ : ∃ y, x = some y ∧ L.res y ≠ none := by
      by_contra hc
      exact hu fun y hy => by_contra fun hne => hc ⟨y, hy, hne⟩
    obtain ⟨k, hk, rfl⟩ := h.range y hy
    obtain rfl : x' = some k := (hx k hk).mp rfl
    have hsrc := he.source hr
    have hsource : (∃ s, m.source r = some s ∧ L.res s ≠ none ∧ L.Linked m (e.enc k) s) ↔
        ∃ s, m'.source r' = some s ∧ L'.res s ≠ none ∧ L'.Linked m' k s := ?_
    · simp only [Ledger.Retires, Option.some.injEq, forall_eq', exists_eq_left',
        h.linked_iff he hk, h.res_eq_none_iff hk, hsource]
    constructor
    · rintro ⟨s, hs, hres, hl⟩
      obtain ⟨j, hj, rfl⟩ := h.range s hres
      exact ⟨j, (hsrc j hj).mp hs, fun hc => hres ((h.res_eq_none_iff hj).mpr hc),
        (h.linked_iff he hk).mp hl⟩
    · rintro ⟨s, hs, hres, hl⟩
      have hj := h.valid s hres
      exact ⟨e.enc s, (hsrc s hj).mpr hs, fun hc => hres ((h.res_eq_none_iff hj).mp hc),
        (h.linked_iff he hk).mpr hl⟩

theorem Sim.retire (he : e.Lawful m m') (h : Sim e L L') {x : Option κ} {x' : Option κ'}
    (hx : e.Key x x') : Sim e (L.retire m x) (L'.retire m' x') where
  res := h.res
  range := h.range
  valid := h.valid
  copy := by
    intro k hk
    have hc := h.copy k hk
    simp only [Ledger.retire]
    cases hl : L.copy (e.enc k) with
    | none =>
        have hc' : L'.copy k = none := (rel_none_iff hc).mp hl
        rw [hc']
        exact Option.Rel.none
    | some r =>
        rw [hl] at hc
        obtain ⟨r', hr', hrec⟩ := rel_some_left.mp hc
        have hiff : L.Retires m x (e.enc k) r ↔ L'.Retires m' x' k r' := h.retires_iff he hx hrec
        by_cases hret : L'.Retires m' x' k r'
        · simp [hr', Option.filter_some, hiff, hret]
        · simpa [hr', Option.filter_some, hiff, hret] using hrec

/-- **Agreement is kept by every pair of steps in agreement.** -/
theorem Sim.step [DecidableEq κ] [DecidableEq κ'] (he : e.Lawful m m') (h : Sim e L L') {a : Act κ ν ρ} {a' : Act κ' ν' ρ'}
    (ha : SimAct e a a') : Sim e (L.step m a) (L'.step m' a') := by
  cases ha with
  | pass => exact h
  | write hx => exact h.retire he hx
  | @register k v v' hk hv =>
      have hne : ∀ j, j ≠ k → e.enc j ≠ e.enc k := fun j hj hc => hj (he.inj hc)
      refine ⟨?_, ?_, ?_, ?_⟩
      · intro j hj
        by_cases hjk : j = k
        · subst hjk; simpa [Ledger.step] using Option.Rel.some hv
        · simpa [Ledger.step, Function.update_of_ne hjk, Function.update_of_ne (hne j hjk)]
            using h.res j hj
      · intro j hj
        by_cases hjk : j = k
        · subst hjk; simp [Ledger.step]
        · simpa [Ledger.step, Function.update_of_ne hjk, Function.update_of_ne (hne j hjk)]
            using h.copy j hj
      · intro j hj
        by_cases hjk : j = e.enc k
        · exact ⟨k, hk, hjk⟩
        · exact h.range j (by simpa [Ledger.step, Function.update_of_ne hjk] using hj)
      · intro j hj
        by_cases hjk : j = k
        · exact hjk ▸ hk
        · exact h.valid j (by simpa [Ledger.step, Function.update_of_ne hjk] using hj)
  | @release k hk =>
      have hne : ∀ j, j ≠ k → e.enc j ≠ e.enc k := fun j hj hc => hj (he.inj hc)
      have hx : e.Key (some (e.enc k)) (some k) := by
        intro j _
        simp only [Option.some.injEq]
        exact ⟨fun hc => he.inj hc, fun hc => hc ▸ rfl⟩
      have hretired := h.retire he hx
      refine ⟨?_, ?_, ?_, ?_⟩
      · intro j hj
        by_cases hjk : j = k
        · subst hjk; simp [Ledger.step]
        · simpa [Ledger.step, Function.update_of_ne hjk, Function.update_of_ne (hne j hjk)]
            using h.res j hj
      · intro j hj
        by_cases hjk : j = k
        · subst hjk; simp [Ledger.step]
        · simpa [Ledger.step, Function.update_of_ne hjk, Function.update_of_ne (hne j hjk)]
            using hretired.copy j hj
      · intro j hj
        by_cases hjk : j = e.enc k
        · exact ⟨k, hk, hjk⟩
        · exact h.range j (by simpa [Ledger.step, Function.update_of_ne hjk] using hj)
      · intro j hj
        by_cases hjk : j = k
        · exact hjk ▸ hk
        · exact h.valid j (by simpa [Ledger.step, Function.update_of_ne hjk] using hj)
  | @transfer x x' r r' hx hr =>
      have hretired := h.retire he hx
      refine ⟨h.res, ?_, h.range, h.valid⟩
      intro k hk
      have hnone := h.res_eq_none_iff hk
      have hcond : (x = some (e.enc k) ∧ L.res (e.enc k) ≠ none) ↔
          (x' = some k ∧ L'.res k ≠ none) := and_congr (hx k hk) (not_congr hnone)
      by_cases hnew : x' = some k ∧ L'.res k ≠ none
      · simp only [Ledger.step, if_pos hnew, if_pos (hcond.mpr hnew)]
        exact Option.Rel.some hr
      · simp only [Ledger.step, if_neg hnew, if_neg fun hc => hnew (hcond.mp hc)]
        exact hretired.copy k hk

end Renaming

end Provenance
