import Mathlib.Data.List.Basic
import Mathlib.Data.List.Nodup

/-!
# The first record of each key

A collector takes a record only if it has none with the same key.  What it holds
is told by searching the records it was given (`find_collect`), so two collections
have the same records exactly when the two searches agree.
-/

namespace FirstKept

universe u v w

variable {α : Type u} {κ : Type v} [DecidableEq κ] (key : α → κ)

/-! ## Searching -/

/-- A search depends only on what is made of the records that are searched. -/
theorem findSome_congr {β : Type w} {f g : α → Option β} {records : List α}
    (h : ∀ a ∈ records, f a = g a) : records.findSome? f = records.findSome? g := by
  induction records with
  | nil => rfl
  | cons a records ih =>
      rw [List.findSome?_cons, List.findSome?_cons, h a List.mem_cons_self,
        ih fun b hb => h b (List.mem_cons_of_mem a hb)]

/-- The first record with a property, and what is made of it. -/
theorem findSome_if {β : Type w} (p : α → Prop) [DecidablePred p] (g : α → β) (records : List α) :
    (records.findSome? fun a => if p a then some (g a) else none) =
      (records.find? fun a => p a).map g := by
  induction records with
  | nil => rfl
  | cons a records ih =>
      rw [List.findSome?_cons, List.find?_cons, ih]
      by_cases ha : p a <;> simp [ha]

/-- A search ends at the first record that has something. -/
theorem findSome_eq_bind {β : Type w} (f : α → Option β) (records : List α) :
    records.findSome? f = (records.find? fun a => (f a).isSome).bind f := by
  induction records with
  | nil => rfl
  | cons a records ih =>
      rw [List.findSome?_cons, List.find?_cons, ih]
      cases ha : f a <;> simp [ha]

/-! ## Searching by key -/

/-- The first record with a key. -/
def findKey (k : κ) (records : List α) : Option α :=
  records.find? fun a => key a = k

/-- The first list is searched first. -/
theorem findKey_append (k : κ) (l l' : List α) :
    findKey key k (l ++ l') = (findKey key k l).or (findKey key k l') :=
  List.find?_append

/-- Records that come in parts are searched part by part. -/
theorem findKey_flatMap {β : Type w} (k : κ) (f : β → List α) (parts : List β) :
    findKey key k (parts.flatMap f) = parts.findSome? fun part => findKey key k (f part) :=
  List.find?_flatMap

/-- A record that is there under a condition is found under it. -/
theorem findKey_if (k : κ) (p : Prop) [Decidable p] (a : α) :
    findKey key k (if p then [a] else []) = if key a = k ∧ p then some a else none := by
  unfold findKey
  by_cases hp : p <;> by_cases hkey : key a = k <;> simp [hp, hkey]

variable {key}

/-- What is found has the key it was searched by. -/
theorem key_of_findKey {k : κ} {a : α} {records : List α} (h : findKey key k records = some a) :
    key a = k :=
  of_decide_eq_true (List.find?_some (p := fun b => decide (key b = k)) h)

/-- What is found is one of the records. -/
theorem mem_of_findKey {k : κ} {a : α} {records : List α} (h : findKey key k records = some a) :
    a ∈ records :=
  List.mem_of_find?_eq_some h

/-- A key that no record has is not found. -/
theorem findKey_of_notMem {k : κ} {records : List α} (h : k ∉ records.map key) :
    findKey key k records = none := by
  apply List.find?_eq_none.mpr
  intro a ha hkey
  exact h (of_decide_eq_true hkey ▸ List.mem_map_of_mem ha)

/-- Among records with distinct keys, each is found under its key. -/
theorem findKey_iff {k : κ} {a : α} {records : List α} (hdistinct : (records.map key).Nodup) :
    findKey key k records = some a ↔ a ∈ records ∧ key a = k := by
  constructor
  · intro h
    exact ⟨mem_of_findKey h, key_of_findKey h⟩
  · intro h
    obtain ⟨hmem, rfl⟩ := h
    induction records with
    | nil => cases hmem
    | cons b records ih =>
        obtain ⟨hfresh, hrest⟩ := List.nodup_cons.mp hdistinct
        unfold findKey
        obtain rfl | htail := List.mem_cons.mp hmem
        · exact List.find?_cons_of_pos (decide_eq_true rfl)
        · have hne : key b ≠ key a := fun hkey => hfresh (hkey ▸ List.mem_map_of_mem htail)
          rw [List.find?_cons_of_neg (by simpa using hne)]
          exact ih hrest htail

/-- Records with distinct keys are told by what is found under each key. -/
theorem perm_iff {l l' : List α} (hl : (l.map key).Nodup) (hl' : (l'.map key).Nodup) :
    l.Perm l' ↔ ∀ k, findKey key k l = findKey key k l' := by
  constructor
  · intro hperm k
    apply Option.ext
    intro a
    rw [findKey_iff hl, findKey_iff hl', hperm.mem_iff]
  · intro hfind
    apply (List.perm_ext_iff_of_nodup (List.Nodup.of_map key hl) (List.Nodup.of_map key hl')).mpr
    intro a
    have hfound := congrArg (fun found => found = some a) (hfind (key a))
    rw [findKey_iff hl, findKey_iff hl'] at hfound
    simpa using hfound

/-! ## Collecting -/

variable (key)

/-- The record is appended unless its key is known. -/
def keepFirst (kept : List α) (a : α) : List α :=
  if key a ∈ kept.map key then kept else kept ++ [a]

/-- What a collector holds after all the records. -/
def collect (records : List α) : List α :=
  records.foldl (keepFirst key) []

/-- A record with a known key changes no search, whether or not it is taken. -/
theorem findKey_keepFirst (k : κ) (kept : List α) (a : α) :
    findKey key k (keepFirst key kept a) = findKey key k (kept ++ [a]) := by
  unfold keepFirst
  split_ifs with hknown
  · rw [findKey_append]
    by_cases hkey : key a = k
    · obtain ⟨b, hb, hsame⟩ := List.mem_map.mp hknown
      have hfound : (findKey key k kept).isSome := by
        apply List.find?_isSome.mpr
        exact ⟨b, hb, decide_eq_true (hsame.trans hkey)⟩
      exact (Option.or_of_isSome hfound).symm
    · have hother : findKey key k [a] = none := findKey_of_notMem (by simpa using Ne.symm hkey)
      rw [hother, Option.or_none]
  · rfl

/-- A record is taken only with a new key. -/
theorem nodup_keepFirst {kept : List α} (h : (kept.map key).Nodup) (a : α) :
    ((keepFirst key kept a).map key).Nodup := by
  unfold keepFirst
  split_ifs with hknown
  · exact h
  · rw [List.map_append]
    apply h.append (List.nodup_singleton (key a))
    simpa using hknown

/-- What a collection has under a key is the first record given with it. -/
theorem findKey_foldl (k : κ) (kept records : List α) :
    findKey key k (records.foldl (keepFirst key) kept) = findKey key k (kept ++ records) := by
  induction records generalizing kept with
  | nil => rw [List.append_nil]; rfl
  | cons a records ih =>
      rw [List.foldl_cons, ih, findKey_append, findKey_keepFirst, ← findKey_append,
        List.append_assoc]
      rfl

/-- A collection answers every search as the records it was given. -/
theorem findKey_collect (k : κ) (records : List α) :
    findKey key k (collect key records) = findKey key k records :=
  findKey_foldl key k [] records

/-- A collector that holds distinct keys goes on to hold distinct keys. -/
theorem nodup_foldl {kept : List α} (h : (kept.map key).Nodup) (records : List α) :
    ((records.foldl (keepFirst key) kept).map key).Nodup := by
  induction records generalizing kept with
  | nil => exact h
  | cons a records ih => exact ih (nodup_keepFirst key h a)

/-- A collection has one record for each key. -/
theorem nodup_collect (records : List α) : ((collect key records).map key).Nodup := by
  apply nodup_foldl
  exact List.nodup_nil

/-- A record is collected when it is the first one of its key. -/
theorem mem_collect {a : α} {records : List α} :
    a ∈ collect key records ↔ findKey key (key a) records = some a := by
  rw [← findKey_collect, findKey_iff (nodup_collect key records)]
  simp

/-- **Records given before.** They leave the collection as it would be exactly when the
first of each key is also the first of its key among the rest. -/
theorem collect_append_perm_iff (before records : List α) :
    (collect key (before ++ records)).Perm (collect key records) ↔
      ∀ k a, findKey key k before = some a → findKey key k records = some a := by
  rw [perm_iff (nodup_collect key _) (nodup_collect key _)]
  apply forall_congr'
  intro k
  rw [findKey_collect, findKey_collect, findKey_append]
  cases findKey key k before with
  | none => simp
  | some a => simp [eq_comm]

end FirstKept
