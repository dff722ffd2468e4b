import FluidGateway.Lib.OrderedDict
import Mathlib.Data.List.Basic
import Mathlib.Data.List.Forall2
import Mathlib.Data.List.Induction
import Mathlib.Data.List.Nodup
import Mathlib.Data.List.Pairwise
import Mathlib.Algebra.BigOperators.Group.List.Basic
import Mathlib.Algebra.Order.BigOperators.Group.List
import Mathlib.Order.Lattice

/-!
# Sorting, numbering and grouping records

Records are sorted by a key and then numbered from 1 while they are rebuilt.
What does not read the number is a fact about the records before: `map_numbered`
and `foldl_numbered`, and `sum_map_sortBy` for totals.  A total over the groups of
a list is a total over the records that have a group (`sum_groupBy`).
-/

namespace Sequencing

universe u v w

variable {α : Type u} {β : Type v} {γ : Type w}

/-! ## Sorting -/

/-- `sorted(records, key=key)`, which is stable. -/
def sortBy [LinearOrder γ] (key : α → γ) (records : List α) : List α :=
  records.mergeSort fun a b => decide (key a ≤ key b)

/-- Sorting loses and adds no record. -/
theorem sortBy_perm [LinearOrder γ] (key : α → γ) (records : List α) :
    (sortBy key records).Perm records :=
  List.mergeSort_perm _ _

/-- `sorted` has the records in the order of their keys, and records with one key in the
order they had. -/
structure StablySorted [LinearOrder γ] (key : α → γ) (records sorted : List α) : Prop where
  perm : sorted.Perm records
  ordered : sorted.Pairwise fun a b => key a ≤ key b
  stable : ∀ k, sorted.filter (fun a => key a = k) = records.filter fun a => key a = k

/-- The comparison of keys is transitive. -/
theorem keys_trans [LinearOrder γ] (key : α → γ) (a b c : α)
    (hab : decide (key a ≤ key b) = true) (hbc : decide (key b ≤ key c) = true) :
    decide (key a ≤ key c) = true :=
  decide_eq_true ((of_decide_eq_true hab).trans (of_decide_eq_true hbc))

/-- The comparison of keys is total. -/
theorem keys_total [LinearOrder γ] (key : α → γ) (a b : α) :
    (decide (key a ≤ key b) || decide (key b ≤ key a)) = true := by
  simpa using le_total (key a) (key b)

/-- After sorting the keys are in order. -/
theorem sortBy_ordered [LinearOrder γ] (key : α → γ) (records : List α) :
    (sortBy key records).Pairwise fun a b => key a ≤ key b := by
  have hsorted := List.pairwise_mergeSort (keys_trans key) (keys_total key) records
  exact hsorted.imp fun h => of_decide_eq_true h

/-- Sorting is stable: records with one key keep their order. -/
theorem sortBy_stable [LinearOrder γ] (key : α → γ) (records : List α) :
    StablySorted key records (sortBy key records) where
  perm := sortBy_perm key records
  ordered := sortBy_ordered key records
  stable := by
    intro k
    have hties : (records.filter fun a => key a = k).Pairwise
        fun a b => decide (key a ≤ key b) = true := by
      apply List.pairwise_of_forall_mem_list
      intro a ha b hb
      have hka := of_decide_eq_true (List.mem_filter.mp ha).2
      have hkb := of_decide_eq_true (List.mem_filter.mp hb).2
      exact decide_eq_true (hka.trans hkb.symm).le
    have hsub : (records.filter fun a => key a = k).Sublist (sortBy key records) :=
      List.sublist_mergeSort (keys_trans key) (keys_total key) hties List.filter_sublist
    have hfiltered := hsub.filter fun a => decide (key a = k)
    rw [List.filter_filter] at hfiltered
    simp only [Bool.and_self] at hfiltered
    exact (hfiltered.eq_of_length ((sortBy_perm key records).filter _).length_eq.symm).symm

/-- Sorting does not change a sum. -/
theorem sum_map_sortBy [LinearOrder γ] [AddCommMonoid β] (key : α → γ) (f : α → β)
    (records : List α) : ((sortBy key records).map f).sum = (records.map f).sum :=
  ((sortBy_perm key records).map f).sum_eq

/-- Sorting forgets the order of records that their keys tell apart. -/
theorem sortBy_eq_of_perm [LinearOrder γ] {key : α → γ} {l l' : List α} (hperm : l.Perm l')
    (hinj : ∀ a ∈ l, ∀ b ∈ l, key a = key b → a = b) : sortBy key l = sortBy key l' := by
  have hsorted : (sortBy key l).Perm (sortBy key l') :=
    (sortBy_perm key l).trans (hperm.trans (sortBy_perm key l').symm)
  refine hsorted.eq_of_pairwise ?_ (sortBy_ordered key l) (sortBy_ordered key l')
  intro a b ha hb hab hba
  have hmem : b ∈ l := hperm.mem_iff.mpr ((sortBy_perm key l').mem_iff.mp hb)
  exact hinj a ((sortBy_perm key l).mem_iff.mp ha) b hmem (le_antisymm hab hba)

/-! ## Numbering -/

/-- `[make(i, record) for i, record in enumerate(records, start=1)]`. -/
def numbered (make : Nat → α → β) (records : List α) : List β :=
  (records.zipIdx 1).map fun item => make item.2 item.1

variable {make : Nat → α → β}

/-- What does not depend on the number is the same before and after numbering. -/
theorem map_numbered {f : β → γ} {g : α → γ} (h : ∀ i a, f (make i a) = g a)
    (records : List α) : (numbered make records).map f = records.map g := by
  unfold numbered
  rw [List.map_map]
  calc (records.zipIdx 1).map (f ∘ fun item => make item.2 item.1)
      = (records.zipIdx 1).map (g ∘ Prod.fst) := List.map_congr_left fun item _ => h item.2 item.1
    _ = records.map g := by rw [← List.map_map, List.zipIdx_map_fst]

/-- What is numbered was made of a record. -/
theorem mem_numbered {b : β} {records : List α} (h : b ∈ numbered make records) :
    ∃ i, ∃ a ∈ records, make i a = b := by
  obtain ⟨item, hitem, rfl⟩ := List.mem_map.mp h
  exact ⟨item.2, item.1, List.fst_mem_of_mem_zipIdx hitem, rfl⟩

/-- Every record is numbered. -/
theorem exists_mem_numbered {a : α} {records : List α} (h : a ∈ records) :
    ∃ i, make i a ∈ numbered make records := by
  rw [← List.zipIdx_map_fst 1 records] at h
  obtain ⟨item, hitem, rfl⟩ := List.mem_map.mp h
  exact ⟨item.2, List.mem_map_of_mem hitem⟩

/-- Numbering does not change how many there are. -/
theorem length_numbered (records : List α) :
    (numbered make records).length = records.length := by
  unfold numbered
  rw [List.length_map, List.length_zipIdx]

/-- One record more is numbered next. -/
theorem numbered_concat (records : List α) (record : α) :
    numbered make (records ++ [record]) =
      numbered make records ++ [make (records.length + 1) record] := by
  unfold numbered
  rw [List.zipIdx_append, List.map_append, Nat.add_comm]
  rfl

/-- The numbers are 1, 2, 3 and so on. -/
theorem numbers_numbered {number : β → Nat} (h : ∀ i a, number (make i a) = i)
    (records : List α) : (numbered make records).map number = List.range' 1 records.length := by
  unfold numbered
  rw [List.map_map]
  calc (records.zipIdx 1).map (number ∘ fun item => make item.2 item.1)
      = (records.zipIdx 1).map Prod.snd := List.map_congr_left fun item _ => h item.2 item.1
    _ = List.range' 1 records.length := List.zipIdx_map_snd 1 records

/-- Numbering may come before or after a filter that does not read the number. -/
theorem map_filter_numbered {p : β → Bool} {q : α → Bool} (hp : ∀ i a, p (make i a) = q a)
    {f : β → γ} {g : α → γ} (h : ∀ i a, f (make i a) = g a) (records : List α) :
    ((numbered make records).filter p).map f = (records.filter q).map g := by
  induction records using List.reverseRecOn with
  | nil => rfl
  | append_singleton records record ih =>
      rw [numbered_concat, List.filter_append, List.map_append, ih, List.filter_append,
        List.map_append]
      congr 1
      cases hq : q record <;> simp [hp, hq, h]

/-- Numbering does not change how many pass a test that does not read the number. -/
theorem countP_numbered {p : β → Bool} {q : α → Bool} (hp : ∀ i a, p (make i a) = q a)
    (records : List α) : (numbered make records).countP p = records.countP q := by
  have hmap := map_filter_numbered hp (f := fun _ => ()) (g := fun _ => ()) (fun _ _ => rfl) records
  rw [List.countP_eq_length_filter, List.countP_eq_length_filter]
  simpa using congrArg List.length hmap

/-- What holds of every two records in their order holds of their numbered copies, and the
later one has the larger number. -/
theorem pairwise_numbered {R : α → α → Prop} {records : List α} (h : records.Pairwise R) :
    (numbered make records).Pairwise fun b b' =>
      ∃ i a i' a', b = make i a ∧ b' = make i' a' ∧ i < i' ∧ R a a' := by
  apply List.pairwise_iff_getElem.mpr
  intro i j hi hj hij
  have hi' : i < records.length := by rwa [length_numbered] at hi
  have hj' : j < records.length := by rwa [length_numbered] at hj
  refine ⟨i + 1, records[i], j + 1, records[j], ?_, ?_, by omega, ?_⟩
  · simp [numbered, Nat.add_comm]
  · simp [numbered, Nat.add_comm]
  · exact List.pairwise_iff_getElem.mp h i j hi' hj' hij

/-- Of two different members of a list one comes first. -/
theorem pairwise_cases {R : α → α → Prop} {records : List α} (h : records.Pairwise R) {a b : α}
    (ha : a ∈ records) (hb : b ∈ records) (hne : a ≠ b) : R a b ∨ R b a := by
  have hsymm : Std.Symm fun a b => R a b ∨ R b a := ⟨fun _ _ => Or.symm⟩
  have heither : records.Pairwise fun a b => R a b ∨ R b a := h.imp Or.inl
  exact heither.forall ha hb hne

/-- Records rebuilt through `round` while they are sorted and numbered come out as they
were, apart from their numbers, exactly when rounding changes none of them. -/
theorem numbered_sortBy_iff [LinearOrder γ] {key : α → γ} {number : Nat → α → α}
    {round : α → α} {records : List α} (strip : α → α)
    (hstrip : ∀ i a, strip (number i a) = strip a) (hround : ∀ a, strip (round a) = round (strip a))
    (hidem : ∀ a, round (round a) = round a) (hrecords : ∀ a ∈ records, strip a = a) :
    (∃ sorted, StablySorted key records sorted ∧
        numbered (fun i a => number i (round a)) (sortBy key records) = numbered number sorted) ↔
      ∀ a ∈ records, round a = a := by
  constructor
  · rintro ⟨sorted, hsorted, hsame⟩ a ha
    have hstripped : (sortBy key records).map (fun b => round (strip b)) = sorted.map strip := by
      rw [← map_numbered hstrip sorted, ← hsame]
      exact (map_numbered (fun i b => (hstrip i (round b)).trans (hround b)) _).symm
    have hmem : a ∈ sorted.map strip := by
      have hstill := List.mem_map_of_mem (f := strip) (hsorted.perm.mem_iff.mpr ha)
      rwa [hrecords a ha] at hstill
    rw [← hstripped] at hmem
    obtain ⟨b, -, rfl⟩ := List.mem_map.mp hmem
    exact hidem (strip b)
  · intro hfixed
    refine ⟨sortBy key records, sortBy_stable key records, ?_⟩
    unfold numbered
    apply List.map_congr_left
    intro item hitem
    have hmem : item.1 ∈ records :=
      (sortBy_perm key records).mem_iff.mp (List.fst_mem_of_mem_zipIdx hitem)
    exact congrArg (number item.2) (hfixed item.1 hmem)

/-- A loop that does not read the number is the same before and after numbering. -/
theorem foldl_numbered {step : γ → β → γ} {step' : γ → α → γ}
    (h : ∀ s i a, step s (make i a) = step' s a) (start : γ) (records : List α) :
    (numbered make records).foldl step start = records.foldl step' start := by
  unfold numbered
  rw [List.foldl_map]
  generalize 1 = first
  induction records generalizing start first with
  | nil => rfl
  | cons record records ih =>
      rw [List.zipIdx_cons, List.foldl_cons, List.foldl_cons, h]
      exact ih (step' start record) (first + 1)

/-! ## Two selections from the same records -/

/-- Where each record leads to two things that are related, or to nothing twice, these are
related one by one. -/
theorem forall₂_filterMap {R : β → γ → Prop} {f : α → Option β} {g : α → Option γ}
    {records : List α} (h : ∀ record ∈ records, Option.Rel R (f record) (g record)) :
    List.Forall₂ R (records.filterMap f) (records.filterMap g) := by
  induction records with
  | nil => exact .nil
  | cons record records ih =>
      have hrest := ih fun other hother => h other (List.mem_cons_of_mem record hother)
      have hfirst := h record List.mem_cons_self
      rw [List.filterMap_cons, List.filterMap_cons]
      generalize f record = b at hfirst ⊢
      generalize g record = c at hfirst ⊢
      cases hfirst with
      | none => exact hrest
      | some hrelated => exact .cons hrelated hrest

/-- Where whatever a record leads to by one selection is related to what it leads to by
the other, the first is related, one by one and in order, to a part of the second. -/
theorem sublistForall₂_filterMap {R : β → γ → Prop} {f : α → Option β} {g : α → Option γ}
    {records : List α}
    (h : ∀ record ∈ records, ∀ b, f record = some b → ∃ c, g record = some c ∧ R b c) :
    List.SublistForall₂ R (records.filterMap f) (records.filterMap g) := by
  induction records with
  | nil => exact .nil
  | cons record records ih =>
      have hrest := ih fun other hother => h other (List.mem_cons_of_mem record hother)
      have hfirst := h record List.mem_cons_self
      rw [List.filterMap_cons, List.filterMap_cons]
      cases hb : f record with
      | some b =>
          obtain ⟨c, hc, hrelated⟩ := hfirst b hb
          rw [hc]
          exact .cons hrelated hrest
      | none =>
          cases g record with
          | none => exact hrest
          | some c => exact .cons_right hrest

/-! ## Totals -/

/-- A total over some of the records is a total over all of them. -/
theorem sum_filter [AddCommMonoid β] (p : α → Prop) [DecidablePred p] (value : α → β)
    (records : List α) :
    ((records.filter fun record => p record).map value).sum =
      (records.map fun record => if p record then value record else 0).sum := by
  induction records with
  | nil => rfl
  | cons record records ih =>
      rw [List.map_cons, List.sum_cons, ← ih]
      by_cases h : p record <;> simp [h]

/-- Where no record is worth more by one measure than by another, the totals are the same
exactly when every record is worth the same. -/
theorem sum_map_eq_iff [AddCommMonoid β] [PartialOrder β] [IsOrderedCancelAddMonoid β]
    {value value' : α → β} {records : List α}
    (h : ∀ record ∈ records, value record ≤ value' record) :
    (records.map value).sum = (records.map value').sum ↔
      ∀ record ∈ records, value record = value' record := by
  induction records with
  | nil => exact iff_of_true rfl (List.forall_mem_nil _)
  | cons record records ih =>
      have hrest : ∀ other ∈ records, value other ≤ value' other := fun other hother =>
        h other (List.mem_cons_of_mem record hother)
      have hsum : (records.map value).sum ≤ (records.map value').sum :=
        List.sum_le_sum hrest
      rw [List.map_cons, List.map_cons, List.sum_cons, List.sum_cons, List.forall_mem_cons,
        add_eq_add_iff_eq_and_eq (h record List.mem_cons_self) hsum, ih hrest]

/-- A total over what some records lead to is a total over all of them. -/
theorem sum_filterMap [AddMonoid γ] (f : α → Option β) (value : β → γ) (records : List α) :
    ((records.filterMap f).map value).sum =
      (records.map fun record => ((f record).map value).getD 0).sum := by
  induction records with
  | nil => rfl
  | cons record records ih =>
      rw [List.filterMap_cons, List.map_cons, List.sum_cons, ← ih]
      cases f record with
      | none => exact (zero_add _).symm
      | some b => rfl

/-- The total over some keys of what each key's records add up to. -/
theorem sum_keys [DecidableEq γ] [AddCommMonoid β] {keys : List γ} (hdistinct : keys.Nodup)
    (key : α → Option γ) (value : α → β) {records : List α}
    (hkeys : ∀ record ∈ records, ∀ k, key record = some k → k ∈ keys) :
    (keys.map fun k => ((records.filter fun record => key record = some k).map value).sum).sum =
      ((records.filter fun record => (key record).isSome).map value).sum := by
  have hone : ∀ record ∈ records, (keys.map fun k =>
      if key record = some k then value record else 0).sum =
        if (key record).isSome then value record else 0 := by
    intro record hrecord
    cases hkey : key record with
    | none => simp
    | some k =>
        have hmem := hkeys record hrecord k hkey
        simp only [Option.some.injEq, Option.isSome_some, if_true]
        clear hkeys
        induction keys with
        | nil => cases hmem
        | cons k' keys ih =>
            obtain ⟨hfresh, hrest⟩ := List.nodup_cons.mp hdistinct
            rw [List.map_cons, List.sum_cons]
            obtain rfl | htail := List.mem_cons.mp hmem
            · have hzero : (keys.map fun k' => if k = k' then value record else 0).sum = 0 := by
                apply List.sum_eq_zero
                intro v hv
                obtain ⟨k', hk', rfl⟩ := List.mem_map.mp hv
                exact if_neg (ne_of_mem_of_not_mem hk' hfresh).symm
              rw [if_pos rfl, hzero, add_zero]
            · rw [if_neg (ne_of_mem_of_not_mem htail hfresh), zero_add, ih hrest htail]
  clear hkeys
  induction records with
  | nil => simp
  | cons record records ih =>
      have hsplit : ∀ k, (((record :: records).filter fun r => key r = some k).map value).sum =
          (if key record = some k then value record else 0) +
            ((records.filter fun r => key r = some k).map value).sum := by
        intro k
        by_cases h : key record = some k <;> simp [h]
      simp only [hsplit]
      rw [List.sum_map_add, hone record List.mem_cons_self,
        ih fun r hr => hone r (List.mem_cons_of_mem record hr)]
      cases h : key record <;> simp [h]

/-- Adding the items of a dictionary adds what it has under a key. -/
theorem getD_foldl_add [DecidableEq γ] [AddCommMonoid β] (d totals : OrderedDict γ β) (k : γ) :
    ((d.items.foldl (fun totals item =>
      totals.set item.1 ((totals.get item.1).getD 0 + item.2)) totals).get k).getD 0 =
      (totals.get k).getD 0 + (d.get k).getD 0 := by
  have hitems : ∀ (items : List (γ × β)) (totals : OrderedDict γ β),
      (items.map Prod.fst).Nodup → ((items.foldl (fun totals item =>
        totals.set item.1 ((totals.get item.1).getD 0 + item.2)) totals).get k).getD 0 =
        (totals.get k).getD 0 + (OrderedDict.getItem k items).getD 0 := by
    intro items
    induction items with
    | nil => exact fun totals _ => (add_zero _).symm
    | cons item items ih =>
        intro totals hdistinct
        obtain ⟨hfresh, hrest⟩ := List.nodup_cons.mp hdistinct
        have hget : OrderedDict.getItem k (item :: items) =
            if item.1 = k then some item.2 else OrderedDict.getItem k items := rfl
        rw [List.foldl_cons, ih _ hrest, OrderedDict.get_set, hget]
        by_cases hkey : item.1 = k
        · have hnone : OrderedDict.getItem k items = none := by
            cases hrest : OrderedDict.getItem k items with
            | none => rfl
            | some v =>
                have hmem := List.mem_map_of_mem (f := Prod.fst) (OrderedDict.mem_of_getItem hrest)
                exact absurd hmem (hkey ▸ hfresh)
          rw [if_pos hkey, if_pos hkey, hnone, hkey]
          exact add_zero _
        · rw [if_neg hkey, if_neg hkey]
  exact hitems d.items totals d.nodup

/-! ## Records with distinct keys -/

/-- Among distinct keys, what one key adds is added once. -/
theorem flatMap_if_eq [DecidableEq γ] {keys : List γ} (hdistinct : keys.Nodup) (k : γ)
    (records : γ → List α) :
    (keys.flatMap fun k' => if k = k' then records k' else []) =
      if k ∈ keys then records k else [] := by
  induction keys with
  | nil => rfl
  | cons k' keys ih =>
      obtain ⟨hfresh, hrest⟩ := List.nodup_cons.mp hdistinct
      rw [List.flatMap_cons, ih hrest]
      by_cases hk : k = k'
      · rw [hk, if_pos rfl, if_neg hfresh, if_pos List.mem_cons_self, List.append_nil]
      · simp [hk]

/-- The records with the key of one of them are that one. -/
theorem filter_key_eq [DecidableEq γ] {key : α → γ} {records : List α} {a : α}
    (hdistinct : (records.map key).Nodup) (hmem : a ∈ records) :
    records.filter (fun b => key b = key a) = [a] := by
  induction records with
  | nil => cases hmem
  | cons b records ih =>
      obtain ⟨hfresh, hrest⟩ := List.nodup_cons.mp hdistinct
      obtain rfl | htail := List.mem_cons.mp hmem
      · rw [List.filter_cons_of_pos (by simp)]
        congr 1
        apply List.filter_eq_nil_iff.mpr
        intro c hc hkey
        exact hfresh (of_decide_eq_true hkey ▸ List.mem_map_of_mem hc)
      · have hne : key b ≠ key a := fun hkey => hfresh (hkey ▸ List.mem_map_of_mem htail)
        rw [List.filter_cons_of_neg (by simpa using hne)]
        exact ih hrest htail

/-! ## Groups -/

section

variable [DecidableEq γ] (key : α → Option γ)

/-- `groups.setdefault(key, []).append(record)`. -/
def addToGroup (groups : OrderedDict γ (List α)) (record : α) : OrderedDict γ (List α) :=
  match key record with
  | none => groups
  | some k => groups.set k ((groups.get k).getD [] ++ [record])

/-- The records that have a key, by their keys. -/
def groupBy (records : List α) : OrderedDict γ (List α) :=
  records.foldl (addToGroup key) .empty

/-- One record more goes to its group, after the others. -/
theorem groupBy_concat (records : List α) (record : α) :
    groupBy key (records ++ [record]) = addToGroup key (groupBy key records) record := by
  unfold groupBy
  rw [List.foldl_append]
  rfl

/-- A group has the records of its key, in their order. -/
theorem get_groupBy (records : List α) (k : γ) :
    ((groupBy key records).get k).getD [] = records.filter fun record => key record = some k := by
  induction records using List.reverseRecOn with
  | nil => rfl
  | append_singleton records record ih =>
      rw [groupBy_concat, List.filter_append, ← ih]
      unfold addToGroup
      cases hkey : key record with
      | none => simp [hkey]
      | some k' =>
          simp only [OrderedDict.get_set]
          by_cases hsame : k' = k
          · simp [hkey, hsame]
          · simp [hkey, hsame]

/-- There is a group exactly for the keys of the records. -/
theorem contains_groupBy {records : List α} {k : γ} :
    (groupBy key records).contains k = true ↔ ∃ record ∈ records, key record = some k := by
  induction records using List.reverseRecOn with
  | nil => simp [groupBy, OrderedDict.contains, OrderedDict.get, OrderedDict.empty,
      OrderedDict.getItem]
  | append_singleton records record ih =>
      rw [groupBy_concat]
      unfold addToGroup
      cases hkey : key record with
      | none => simp [ih, hkey, or_and_right, exists_or]
      | some k' =>
          simp only [OrderedDict.contains_set, ih, List.mem_append, List.mem_singleton,
            or_and_right, exists_or, exists_eq_left, hkey, Option.some.injEq]
          exact or_comm

/-- Adding a record to a group adds its value to the sum over the groups, by induction on
the groups. -/
theorem sum_setItem [AddCommMonoid β] (value : List α → β) (hadd : ∀ l l', value (l ++ l') =
    value l + value l') (k : γ) (record : α) (items : List (γ × List α)) :
    ((OrderedDict.setItem k ((OrderedDict.getItem k items).getD [] ++ [record]) items).map
        fun item => value item.2).sum =
      (items.map fun item => value item.2).sum + value [record] := by
  induction items with
  | nil => simp [OrderedDict.setItem, OrderedDict.getItem]
  | cons item items ih =>
      by_cases hitem : item.1 = k
      · simp only [OrderedDict.setItem, OrderedDict.getItem, if_pos hitem, Option.getD_some,
          List.map_cons, List.sum_cons, hadd]
        exact add_right_comm _ _ _
      · simp only [OrderedDict.setItem, OrderedDict.getItem, if_neg hitem, List.map_cons,
          List.sum_cons, ih, add_assoc]

/-- **Totals over groups.** A total over the groups is the total over the records that
have one. -/
theorem sum_groupBy [AddCommMonoid β] (value : List α → β) (hadd : ∀ l l', value (l ++ l') =
    value l + value l') (hnil : value [] = 0) (records : List α) :
    ((groupBy key records).values.map value).sum =
      value (records.filter fun record => (key record).isSome) := by
  induction records using List.reverseRecOn with
  | nil => exact hnil.symm
  | append_singleton records record ih =>
      rw [groupBy_concat, List.filter_append, hadd, ← ih]
      unfold addToGroup OrderedDict.values
      cases hkey : key record with
      | none => simp [hkey, hnil]
      | some k =>
          rw [List.map_map, List.map_map, List.filter_cons_of_pos (by simp [hkey])]
          exact sum_setItem value hadd k record _

end

end Sequencing
