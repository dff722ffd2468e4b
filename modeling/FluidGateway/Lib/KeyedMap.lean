import Mathlib.Data.List.AList
import Mathlib.Data.List.Induction

/-!
# Finite maps and lists without repetition

Two small additions to what `AList` provides: changing every stored value at
once (`mapVal`), and keeping only some entries (`keep`).  The second part is
the list that only ever grows by a name it does not hold yet (`appendNew`),
together with the list it builds from a sequence (`firsts`): the distinct
names in the order of their first occurrence.
-/

namespace KeyedMap

variable {κ τ : Type*}

/-- A finite map from keys to values of one type. -/
abbrev Map (κ τ : Type*) := AList fun _ : κ => τ

/-- Change the value stored for every key. -/
def mapVal (f : κ → τ → τ) (s : Map κ τ) : Map κ τ where
  entries := s.entries.map fun x => ⟨x.1, f x.1 x.2⟩
  nodupKeys := List.NodupKeys.map₂ f _ s.nodupKeys

/-- Keep the entries that satisfy `p`. -/
def keep (p : κ → τ → Bool) (s : Map κ τ) : Map κ τ where
  entries := s.entries.filter fun x => p x.1 x.2
  nodupKeys := s.nodupKeys.sublist List.filter_sublist

@[simp] theorem keys_mapVal (f : κ → τ → τ) (s : Map κ τ) : (mapVal f s).keys = s.keys :=
  List.map₂_keys f s.entries

@[simp] theorem length_mapVal (f : κ → τ → τ) (s : Map κ τ) :
    (mapVal f s).entries.length = s.entries.length := by
  simp [mapVal]

variable [DecidableEq κ]

@[simp] theorem lookup_mapVal (f : κ → τ → τ) (s : Map κ τ) (k : κ) :
    (mapVal f s).lookup k = (s.lookup k).map (f k) :=
  List.dlookup_map₂ k

theorem mem_entries_iff {s : Map κ τ} {k : κ} {v : τ} :
    (⟨k, v⟩ : Σ _ : κ, τ) ∈ s.entries ↔ s.lookup k = some v :=
  AList.mem_lookup_iff.symm

@[simp] theorem lookup_keep (p : κ → τ → Bool) (s : Map κ τ) (k : κ) :
    (keep p s).lookup k = (s.lookup k).filter (p k) := by
  ext v
  rw [← mem_entries_iff, Option.filter_eq_some_iff, ← mem_entries_iff]
  simp [keep, List.mem_filter]

variable {α : Type*} [DecidableEq α]

/-- Append a name unless the list already holds it. -/
def appendNew (l : List α) (x : α) : List α :=
  if x ∈ l then l else l ++ [x]

/-- The distinct names of `xs` in the order of their first occurrence. -/
def firsts (xs : List α) : List α :=
  xs.foldl appendNew []

theorem mem_appendNew {l : List α} {x y : α} : y ∈ appendNew l x ↔ y ∈ l ∨ y = x := by
  unfold appendNew
  split
  · rename_i hx
    exact ⟨Or.inl, fun h => h.elim id fun hy => hy ▸ hx⟩
  · simp

theorem nodup_appendNew {l : List α} {x : α} (h : l.Nodup) : (appendNew l x).Nodup := by
  unfold appendNew
  split
  · exact h
  · rename_i hx
    rw [List.nodup_append]
    exact ⟨h, by simp, by rintro a ha b hb rfl; exact hx (List.mem_singleton.mp hb ▸ ha)⟩

theorem mem_foldl_appendNew {xs l : List α} {y : α} :
    y ∈ xs.foldl appendNew l ↔ y ∈ l ∨ y ∈ xs := by
  induction xs generalizing l with
  | nil => simp
  | cons x xs ih => simp [ih, mem_appendNew, or_assoc]

theorem nodup_foldl_appendNew {xs l : List α} (h : l.Nodup) : (xs.foldl appendNew l).Nodup := by
  induction xs generalizing l with
  | nil => exact h
  | cons x xs ih => exact ih (nodup_appendNew h)

@[simp] theorem mem_firsts {xs : List α} {y : α} : y ∈ firsts xs ↔ y ∈ xs := by
  simp [firsts, mem_foldl_appendNew]

theorem nodup_firsts (xs : List α) : (firsts xs).Nodup :=
  nodup_foldl_appendNew List.nodup_nil

@[simp] theorem firsts_eq_nil {xs : List α} : firsts xs = [] ↔ xs = [] := by
  constructor
  · intro h
    rw [List.eq_nil_iff_forall_not_mem] at h ⊢
    exact fun y hy => h y (mem_firsts.mpr hy)
  · rintro rfl
    rfl

/-- Removing repetitions first changes nothing. -/
theorem foldl_firsts {xs l : List α} :
    (firsts xs).foldl appendNew l = xs.foldl appendNew l := by
  induction xs using List.reverseRecOn generalizing l with
  | nil => rfl
  | append_singleton xs x ih =>
      have hsplit : firsts (xs ++ [x]) = appendNew (firsts xs) x := by
        simp [firsts]
      rw [hsplit, List.foldl_append]
      by_cases hx : x ∈ firsts xs
      · have hl : x ∈ xs.foldl appendNew l := mem_foldl_appendNew.mpr (Or.inr (mem_firsts.mp hx))
        rw [appendNew, if_pos hx, ih]
        simp [appendNew, hl]
      · rw [appendNew, if_neg hx, List.foldl_append, ih]

/-- Renaming commutes with keeping first occurrences. -/
theorem firsts_map {β : Type*} [DecidableEq β] {f : α → β} (hf : Function.Injective f)
    (xs : List α) : firsts (xs.map f) = (firsts xs).map f := by
  have happend : ∀ (l : List α) (x : α), appendNew (l.map f) (f x) = (appendNew l x).map f := by
    intro l x
    unfold appendNew
    simp only [List.mem_map_of_injective hf]
    split <;> simp
  have hfold : ∀ (xs l : List α),
      (xs.map f).foldl appendNew (l.map f) = (xs.foldl appendNew l).map f := by
    intro xs
    induction xs with
    | nil => intro l; rfl
    | cons x xs ih =>
        intro l
        rw [List.map_cons, List.foldl_cons, List.foldl_cons, happend, ih]
  exact hfold xs []

end KeyedMap
