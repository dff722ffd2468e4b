import Mathlib.Data.List.Nodup
import Mathlib.Data.List.Basic
import Mathlib.Data.List.Perm.Basic

/-!
# Dictionaries in insertion order

A dictionary lists its items in the order in which their keys were set first;
setting a key again keeps its place.
-/

universe u v w

namespace OrderedDict

variable {κ : Type u} {τ : Type v} [DecidableEq κ]

/-! ## Items -/

/-- The value of the first item under a key. -/
def getItem (k : κ) : List (κ × τ) → Option τ
  | [] => none
  | item :: items => if item.1 = k then some item.2 else getItem k items

/-- The items with a value under a key: in place, or at the end where the key is new. -/
def setItem (k : κ) (v : τ) : List (κ × τ) → List (κ × τ)
  | [] => [(k, v)]
  | item :: items => if item.1 = k then (k, v) :: items else item :: setItem k v items

/-- The value that is set is found under its key, and the others as before. -/
theorem getItem_setItem (k k' : κ) (v : τ) (items : List (κ × τ)) :
    getItem k' (setItem k v items) = if k = k' then some v else getItem k' items := by
  induction items with
  | nil => rfl
  | cons item items ih =>
      unfold setItem
      by_cases hitem : item.1 = k
      · rw [if_pos hitem]
        unfold getItem
        split_ifs with hk hitem'
        · rfl
        · exact absurd (hitem.symm.trans hitem') hk
        · rfl
      · rw [if_neg hitem]
        unfold getItem
        rw [ih]
        split_ifs with hitem' hk
        · exact absurd (hitem'.trans hk.symm) hitem
        · rfl
        · rfl
        · rfl

/-- Setting a value adds its key and no other. -/
theorem mem_keys_setItem {k k' : κ} {v : τ} {items : List (κ × τ)} :
    k' ∈ (setItem k v items).map Prod.fst ↔ k' = k ∨ k' ∈ items.map Prod.fst := by
  induction items with
  | nil => simp [setItem]
  | cons item items ih =>
      unfold setItem
      split_ifs with hitem
      · simp [hitem]
      · rw [List.map_cons, List.mem_cons, ih, List.map_cons, List.mem_cons]
        exact or_left_comm

/-- Setting a value repeats no key. -/
theorem nodup_setItem {k : κ} {v : τ} {items : List (κ × τ)}
    (h : (items.map Prod.fst).Nodup) : ((setItem k v items).map Prod.fst).Nodup := by
  induction items with
  | nil => exact List.nodup_singleton k
  | cons item items ih =>
      obtain ⟨hfresh, hrest⟩ := List.nodup_cons.mp h
      unfold setItem
      split_ifs with hitem
      · rw [List.map_cons, ← hitem]
        exact h
      · refine List.nodup_cons.mpr ⟨?_, ih hrest⟩
        rw [mem_keys_setItem]
        rintro (hk | hmem)
        · exact hitem hk
        · exact hfresh hmem

/-- An item after setting a value is the new one or an old one. -/
theorem mem_setItem {k : κ} {v : τ} {items : List (κ × τ)} {item : κ × τ}
    (h : item ∈ setItem k v items) : item = (k, v) ∨ item ∈ items := by
  induction items with
  | nil => exact Or.inl (List.mem_singleton.mp h)
  | cons first items ih =>
      unfold setItem at h
      split_ifs at h with hfirst
      · exact (List.mem_cons.mp h).imp_right (List.mem_cons_of_mem first)
      · obtain rfl | htail := List.mem_cons.mp h
        · exact Or.inr List.mem_cons_self
        · exact (ih htail).imp_right (List.mem_cons_of_mem first)

/-- A value that is found is in an item with its key. -/
theorem mem_of_getItem {k : κ} {v : τ} {items : List (κ × τ)} (h : getItem k items = some v) :
    (k, v) ∈ items := by
  induction items with
  | nil => cases h
  | cons first items ih =>
      unfold getItem at h
      split_ifs at h with hfirst
      · obtain rfl := Option.some.inj h
        exact hfirst ▸ List.mem_cons_self
      · exact List.mem_cons_of_mem first (ih h)

end OrderedDict

/-! ## Dictionaries -/

/-- Items in the order in which their keys came, no key twice. -/
structure OrderedDict (κ : Type u) (τ : Type v) where
  items : List (κ × τ)
  nodup : (items.map Prod.fst).Nodup
  deriving DecidableEq, Repr

namespace OrderedDict

variable {κ : Type u} {τ : Type v}

/-- The dictionary without items. -/
def empty : OrderedDict κ τ := ⟨[], List.nodup_nil⟩

/-- The keys in their order. -/
def keys (d : OrderedDict κ τ) : List κ :=
  d.items.map Prod.fst

/-- The values in the order of their keys. -/
def values (d : OrderedDict κ τ) : List τ :=
  d.items.map Prod.snd

/-- How many items there are. -/
def size (d : OrderedDict κ τ) : Nat :=
  d.items.length

variable [DecidableEq κ]

/-- The value under a key, if there is one. -/
def get (d : OrderedDict κ τ) (k : κ) : Option τ :=
  getItem k d.items

/-- Whether there is a value under a key. -/
def contains (d : OrderedDict κ τ) (k : κ) : Bool :=
  (d.get k).isSome

/-- The dictionary with a value under a key; a key that is there keeps its place. -/
def set (d : OrderedDict κ τ) (k : κ) (v : τ) : OrderedDict κ τ :=
  ⟨setItem k v d.items, nodup_setItem d.nodup⟩

/-- The dictionary without a key. -/
def pop (d : OrderedDict κ τ) (k : κ) : OrderedDict κ τ where
  items := d.items.filter fun item => item.1 ≠ k
  nodup := d.nodup.sublist (List.filter_sublist.map Prod.fst)

/-- The value that is set is found under its key, and the others as before. -/
theorem get_set (d : OrderedDict κ τ) (k k' : κ) (v : τ) :
    (d.set k v).get k' = if k = k' then some v else d.get k' :=
  getItem_setItem k k' v d.items

/-- What has been set is kept. -/
theorem contains_set {d : OrderedDict κ τ} {k k' : κ} {v : τ} :
    (d.set k v).contains k' = true ↔ k = k' ∨ d.contains k' = true := by
  unfold contains
  rw [get_set]
  by_cases hk : k = k' <;> simp [hk]

/-- A value is found under a key exactly where the item is there, since no key is there
twice. -/
theorem get_iff {d : OrderedDict κ τ} {k : κ} {v : τ} : d.get k = some v ↔ (k, v) ∈ d.items := by
  obtain ⟨items, hdistinct⟩ := d
  constructor
  · exact mem_of_getItem
  · intro h
    unfold get
    induction items with
    | nil => cases h
    | cons first items ih =>
        obtain ⟨hfresh, hrest⟩ := List.nodup_cons.mp hdistinct
        unfold getItem
        obtain rfl | htail := List.mem_cons.mp h
        · exact if_pos rfl
        · have hne : first.1 ≠ k := by
            intro hkey
            exact hfresh (hkey ▸ List.mem_map_of_mem htail)
          rw [if_neg hne]
          exact ih hrest htail

/-- What is popped is gone, and nothing else. -/
theorem get_pop (d : OrderedDict κ τ) (k k' : κ) :
    (d.pop k).get k' = if k = k' then none else d.get k' := by
  ext v
  by_cases hk : k = k'
  · rw [if_pos hk, get_iff]
    simp [pop, hk]
  · rw [if_neg hk, get_iff, get_iff]
    simp [pop, Ne.symm hk]

/-- Dictionaries that say the same of each key have the same items. -/
theorem items_perm {d d' : OrderedDict κ τ} (h : ∀ k, d.get k = d'.get k) :
    d.items.Perm d'.items := by
  apply (List.perm_ext_iff_of_nodup d.nodup.of_map d'.nodup.of_map).mpr
  intro item
  rw [← get_iff, ← get_iff, h]

/-- The keys are those under which there is a value. -/
theorem mem_keys {d : OrderedDict κ τ} {k : κ} : k ∈ d.keys ↔ d.contains k = true := by
  unfold keys contains
  rw [Option.isSome_iff_exists]
  constructor
  · intro h
    obtain ⟨item, hitem, rfl⟩ := List.mem_map.mp h
    exact ⟨item.2, get_iff.mpr hitem⟩
  · intro h
    obtain ⟨v, hv⟩ := h
    exact List.mem_map.mpr ⟨(k, v), get_iff.mp hv, rfl⟩

/-- A search that only one key can end ends with what is under it. -/
theorem findSome_items {β : Type w} (d : OrderedDict κ τ) (k : κ) (f : κ → τ → Option β)
    (h : ∀ k' v, k' ≠ k → f k' v = none) :
    d.items.findSome? (fun item => f item.1 item.2) = (d.get k).bind (f k) := by
  obtain ⟨items, hdistinct⟩ := d
  unfold get
  induction items with
  | nil => rfl
  | cons first items ih =>
      obtain ⟨hfresh, hrest⟩ := List.nodup_cons.mp hdistinct
      unfold getItem
      by_cases hkey : first.1 = k
      · have hothers : items.findSome? (fun item => f item.1 item.2) = none := by
          apply List.findSome?_eq_none_iff.mpr
          intro item hitem
          exact h _ _ fun hsame => hfresh (hkey.trans hsame.symm ▸ List.mem_map_of_mem hitem)
        rw [List.findSome?_cons, hothers, if_pos hkey, ← hkey, Option.bind_some]
        cases f first.1 first.2 <;> rfl
      · rw [List.findSome?_cons, h _ _ hkey, if_neg hkey]
        exact ih hrest

/-! ## A dictionary of a list -/

section

variable {α : Type w} {key : α → κ} {value : α → τ}

/-- Setting values under other keys does not change what is found under this one. -/
theorem get_foldl_set_of_notMem {k : κ} {l : List α} (h : k ∉ l.map key) (d : OrderedDict κ τ) :
    (l.foldl (fun table a => table.set (key a) (value a)) d).get k = d.get k := by
  induction l generalizing d with
  | nil => rfl
  | cons a l ih =>
      obtain ⟨hhead, htail⟩ := not_or.mp (List.mem_cons.not.mp h)
      rw [List.foldl_cons, ih htail, get_set, if_neg (Ne.symm hhead)]

/-- Where the keys are distinct, every entry is found under its own key. -/
theorem get_foldl_set_of_mem {a : α} {l : List α} (hdistinct : (l.map key).Nodup) (hmem : a ∈ l)
    (d : OrderedDict κ τ) :
    (l.foldl (fun table a => table.set (key a) (value a)) d).get (key a) = some (value a) := by
  induction l generalizing d with
  | nil => cases hmem
  | cons b l ih =>
      obtain ⟨hfresh, hrest⟩ := List.nodup_cons.mp hdistinct
      rw [List.foldl_cons]
      obtain rfl | htail := List.mem_cons.mp hmem
      · rw [get_foldl_set_of_notMem hfresh, get_set, if_pos rfl]
      · exact ih hrest htail _

/-- Where each entry updates what is under its key, a key has what its entries make of it. -/
theorem get_foldl_update (update : Option τ → α → τ) (l : List α) (d : OrderedDict κ τ) (k : κ) :
    (l.foldl (fun table a => table.set (key a) (update (table.get (key a)) a)) d).get k =
      (l.filter fun a => key a = k).foldl (fun v a => some (update v a)) (d.get k) := by
  induction l generalizing d with
  | nil => rfl
  | cons a l ih =>
      rw [List.foldl_cons, ih, get_set]
      by_cases hkey : key a = k
      · rw [if_pos hkey, List.filter_cons_of_pos (by simpa using hkey), List.foldl_cons, hkey]
      · rw [if_neg hkey, List.filter_cons_of_neg (by simpa using hkey)]

/-- Where the updates commute, the order of the entries does not matter. -/
theorem foldl_update_items_perm (update : Option τ → α → τ)
    (hcomm : ∀ v a b, update (some (update v a)) b = update (some (update v b)) a)
    {l l' : List α} (hperm : l.Perm l') :
    (l.foldl (fun table a => table.set (key a) (update (table.get (key a)) a)) empty).items.Perm
      (l'.foldl (fun table a => table.set (key a) (update (table.get (key a)) a)) empty).items := by
  apply items_perm
  intro k
  rw [get_foldl_update, get_foldl_update]
  have : RightCommutative fun v a => some (update v a) := ⟨fun v a b => congrArg some (hcomm v a b)⟩
  exact (hperm.filter _).foldl_eq _

end

end OrderedDict
