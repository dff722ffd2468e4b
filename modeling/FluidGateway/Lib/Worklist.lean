import Mathlib.Data.List.Perm.Basic
import Mathlib.Logic.Relation

/-!
# Two worklists for one connected component

A set of nodes is explored from a start node along a Boolean adjacency test.
Two hand-written traversals occur in practice and both are given here exactly
as they run:

* `grow` keeps the visited nodes in one array and the unvisited ones in
  another; a cursor walks over the visited array and every neighbour found by
  `sweep` is moved across, the gap being filled with the last unvisited node;
* `flood` keeps a set of visited nodes and a stack of pending ones.

Neither depends on the order in which the nodes are listed: `mem_grow_iff` and
`mem_flood_iff` say that both end with the nodes reachable from the start.
-/

namespace Worklist

variable {ρ : Type*}

section Arrays

variable (adj : ρ → ρ → Bool)

/-- `l[i] = l[--n]`: fill position `i` with the last entry and drop that. -/
def swapRemove (l : List ρ) (i : Nat) (r : ρ) : List ρ :=
  (l.set i (l.getLastD r)).dropLast

/-- One pass of the inner loop: every unvisited neighbour of `pivot` is moved
to the visited array.  `fuel` bounds the iterations, each of which either
advances `i` or shortens the unvisited array. -/
def sweep (pivot : ρ) : Nat → Nat → List ρ → List ρ → List ρ × List ρ
  | 0, _, affected, remaining => (affected, remaining)
  | fuel + 1, i, affected, remaining =>
    match remaining[i]? with
    | none => (affected, remaining)
    | some r =>
      if adj pivot r then sweep pivot fuel i (affected ++ [r]) (swapRemove remaining i r)
      else sweep pivot fuel (i + 1) affected remaining

/-- The outer loop: `cursor` walks over the visited array while it grows. -/
def grow : Nat → Nat → List ρ → List ρ → List ρ × List ρ
  | 0, _, affected, remaining => (affected, remaining)
  | fuel + 1, cursor, affected, remaining =>
    match affected[cursor]? with
    | none => (affected, remaining)
    | some pivot =>
      let next := sweep adj pivot remaining.length 0 affected remaining
      grow fuel (cursor + 1) next.1 next.2

/-- Dropping position `i` by the swap loses exactly the entry that was there. -/
theorem perm_swapRemove {l : List ρ} {i : Nat} {r : ρ} (h : l[i]? = some r) :
    l.Perm (r :: swapRemove l i r) := by
  obtain ⟨hi, hr⟩ := List.getElem?_eq_some_iff.mp h
  have hne : l ≠ [] := by rintro rfl; simp at hi
  obtain ⟨init, z, rfl⟩ : ∃ init z, l = init ++ [z] :=
    ⟨l.dropLast, l.getLast hne, (List.dropLast_append_getLast hne).symm⟩
  have hlast : (init ++ [z]).getLastD r = z := by simp
  by_cases hlt : i < init.length
  · have hir : init[i] = r := by rw [← hr, List.getElem_append_left hlt]
    have hset : swapRemove (init ++ [z]) i r = init.set i z := by
      rw [swapRemove, hlast, List.set_append_left _ _ hlt, List.dropLast_concat]
    rw [hset, List.set_eq_take_append_cons_drop, if_pos hlt]
    have hsplit : init = init.take i ++ r :: init.drop (i + 1) := by
      rw [← hir, List.getElem_cons_drop, List.take_append_drop]
    have hmove : ((init.take i ++ r :: init.drop (i + 1)) ++ [z]).Perm
        (r :: (init.take i ++ z :: init.drop (i + 1))) := by
      simp only [List.append_assoc, List.cons_append]
      refine List.perm_middle.trans (List.Perm.cons _ ?_)
      exact List.Perm.append_left _ (List.perm_append_singleton z _)
    rwa [← hsplit] at hmove
  · have hlen : i = init.length := by simp at hi; omega
    subst hlen
    have hzr : z = r := by simpa using hr
    have hset : swapRemove (init ++ [z]) init.length r = init := by
      simp [swapRemove]
    rw [hset, hzr]
    exact List.perm_append_singleton r init

/-- The entries in front of `i` stay where they are. -/
theorem take_swapRemove {l : List ρ} {i : Nat} {r : ρ} (h : l[i]? = some r) :
    (swapRemove l i r).take i = l.take i := by
  obtain ⟨hi, -⟩ := List.getElem?_eq_some_iff.mp h
  rw [swapRemove, List.dropLast_eq_take, List.take_take, List.length_set,
    List.take_set_of_le (by omega), Nat.min_eq_left (by omega)]

theorem length_swapRemove {l : List ρ} {i : Nat} {r : ρ} (h : l[i]? = some r) :
    (swapRemove l i r).length + 1 = l.length := by
  have := (perm_swapRemove h).length_eq
  simpa using this.symm

/-- What one inner pass does: the moved nodes are exactly the neighbours of
the pivot among the unvisited ones. -/
theorem sweep_spec (pivot : ρ) :
    ∀ (fuel i : Nat) (affected remaining : List ρ),
      remaining.length ≤ fuel + i →
      (∀ r ∈ remaining.take i, adj pivot r = false) →
      ∃ moved, (sweep adj pivot fuel i affected remaining).1 = affected ++ moved ∧
        remaining.Perm (moved ++ (sweep adj pivot fuel i affected remaining).2) ∧
        (∀ r ∈ moved, adj pivot r = true) ∧
        ∀ r ∈ (sweep adj pivot fuel i affected remaining).2, adj pivot r = false := by
  intro fuel
  induction fuel with
  | zero =>
      intro i affected remaining hfuel hfront
      refine ⟨[], by simp [sweep], by simp [sweep], by simp, ?_⟩
      rw [List.take_of_length_le (by omega)] at hfront
      simpa [sweep] using hfront
  | succ fuel ih =>
      intro i affected remaining hfuel hfront
      cases hr : remaining[i]? with
      | none =>
          have hle : remaining.length ≤ i := by simpa using hr
          refine ⟨[], by simp [sweep, hr], by simp [sweep, hr], by simp, ?_⟩
          rw [List.take_of_length_le hle] at hfront
          simpa [sweep, hr] using hfront
      | some r =>
          by_cases hadj : adj pivot r = true
          · have hlen := length_swapRemove hr
            obtain ⟨moved, h1, h2, h3, h4⟩ := ih i (affected ++ [r]) (swapRemove remaining i r)
              (by omega) (by rwa [take_swapRemove hr])
            refine ⟨r :: moved, ?_, ?_, ?_, ?_⟩
            · simp [sweep, hr, hadj, h1]
            · simp only [sweep, hr, hadj, if_true]
              exact (perm_swapRemove hr).trans (List.Perm.cons _ h2)
            · simpa [hadj] using h3
            · simpa [sweep, hr, hadj] using h4
          · have hstep : sweep adj pivot (fuel + 1) i affected remaining =
                sweep adj pivot fuel (i + 1) affected remaining := by
              simp [sweep, hr, hadj]
            rw [hstep]
            refine ih (i + 1) affected remaining (by omega) ?_
            intro x hx
            obtain ⟨hi, hri⟩ := List.getElem?_eq_some_iff.mp hr
            rw [List.take_succ_eq_append_getElem hi, List.mem_append, List.mem_singleton] at hx
            rcases hx with hx | rfl
            · exact hfront x hx
            · simpa [hri] using hadj

/-- Adjacency restricted to the nodes of `all`. -/
def Joined (all : List ρ) (a b : ρ) : Prop :=
  adj a b = true ∧ b ∈ all

/-- What holds when the cursor stands at `cursor`: the two arrays partition the
nodes, everything visited is reachable, and the part already walked over has
no unvisited neighbour. -/
structure Explored (all : List ρ) (start : ρ) (cursor : Nat)
    (affected remaining : List ρ) : Prop where
  perm : (affected ++ remaining).Perm all
  reach : ∀ x ∈ affected, Relation.ReflTransGen (Joined adj all) start x
  walked : ∀ a ∈ affected.take cursor, ∀ r ∈ remaining, adj a r = false

theorem Explored.step {all : List ρ} {start : ρ} {cursor : Nat} {affected remaining : List ρ}
    (h : Explored adj all start cursor affected remaining) {pivot : ρ}
    (hp : affected[cursor]? = some pivot) :
    Explored adj all start (cursor + 1)
      (sweep adj pivot remaining.length 0 affected remaining).1
      (sweep adj pivot remaining.length 0 affected remaining).2 := by
  obtain ⟨moved, h1, h2, h3, h4⟩ := sweep_spec adj pivot remaining.length 0 affected remaining
    (by omega) (by simp)
  obtain ⟨hlt, hpivot⟩ := List.getElem?_eq_some_iff.mp hp
  have hmem : pivot ∈ affected := hpivot ▸ List.getElem_mem hlt
  rw [h1]
  refine ⟨?_, ?_, ?_⟩
  · rw [List.append_assoc]
    exact (List.Perm.append_left _ h2.symm).trans h.perm
  · intro x hx
    rcases List.mem_append.mp hx with hx | hx
    · exact h.reach x hx
    · refine (h.reach pivot hmem).tail ⟨h3 x hx, ?_⟩
      exact h.perm.subset (List.mem_append_right _ (h2.symm.subset (List.mem_append_left _ hx)))
  · intro a ha r hr
    rw [List.take_append_of_le_length (by omega), List.take_succ_eq_append_getElem hlt,
      List.mem_append, List.mem_singleton] at ha
    rcases ha with ha | rfl
    · exact h.walked a ha r (h2.symm.subset (List.mem_append_right _ hr))
    · exact hpivot ▸ h4 r hr

/-- The loop runs to the end of the visited array before the fuel is spent. -/
theorem Explored.run {all : List ρ} {start : ρ} :
    ∀ (fuel cursor : Nat) (affected remaining : List ρ),
      Explored adj all start cursor affected remaining → all.length ≤ fuel + cursor →
      ∃ last, (grow adj fuel cursor affected remaining).1.length ≤ last ∧
        Explored adj all start last (grow adj fuel cursor affected remaining).1
          (grow adj fuel cursor affected remaining).2 := by
  intro fuel
  induction fuel with
  | zero =>
      intro cursor affected remaining h hfuel
      have hlen := h.perm.length_eq
      rw [List.length_append] at hlen
      exact ⟨cursor, by simp only [grow]; omega, h⟩
  | succ fuel ih =>
      intro cursor affected remaining h hfuel
      cases hp : affected[cursor]? with
      | none =>
          have hle : affected.length ≤ cursor := List.getElem?_eq_none_iff.mp hp
          exact ⟨cursor, by simpa [grow, hp] using hle, by simpa [grow, hp] using h⟩
      | some pivot =>
          have := ih (cursor + 1) _ _ (h.step adj hp) (by omega)
          simpa [grow, hp] using this

theorem explored_start (start : ρ) (others : List ρ) :
    Explored adj (start :: others) start 0 [start] others where
  perm := List.Perm.refl _
  reach := by
    intro x hx
    rw [List.mem_singleton.mp hx]
  walked := by simp

/-- When the cursor has walked over everything visited, the visited nodes are
the component of the start node. -/
theorem Explored.mem_iff {all : List ρ} {start : ρ} {cursor : Nat} {affected remaining : List ρ}
    (h : Explored adj all start cursor affected remaining) (hcursor : affected.length ≤ cursor)
    (hstart : start ∈ affected) {x : ρ} :
    x ∈ affected ↔ Relation.ReflTransGen (Joined adj all) start x := by
  refine ⟨h.reach x, fun hx => ?_⟩
  induction hx with
  | refl => exact hstart
  | @tail a b _ hab ih =>
      have hb := h.perm.symm.subset hab.2
      rcases List.mem_append.mp hb with hb | hb
      · exact hb
      · have hfalse := h.walked a (by rwa [List.take_of_length_le hcursor]) b hb
        rw [hab.1] at hfalse
        cases hfalse

/-- **The array worklist computes the component of its start node.** -/
theorem mem_grow_iff {start : ρ} {others : List ρ} {x : ρ} :
    x ∈ (grow adj (others.length + 1) 0 [start] others).1 ↔
      Relation.ReflTransGen (Joined adj (start :: others)) start x := by
  obtain ⟨last, hlast, h⟩ := Explored.run adj (others.length + 1) 0 [start] others
    (explored_start adj start others) (by simp)
  refine h.mem_iff adj hlast ?_
  -- the start node is never moved out of the visited array
  have hkeep : ∀ (fuel cursor : Nat) (affected remaining : List ρ), start ∈ affected →
      start ∈ (grow adj fuel cursor affected remaining).1 := by
    intro fuel
    induction fuel with
    | zero => intro _ _ _ hs; exact hs
    | succ fuel ih =>
        intro cursor affected remaining hs
        cases hp : affected[cursor]? with
        | none => simpa [grow, hp] using hs
        | some pivot =>
            obtain ⟨moved, h1, -⟩ := sweep_spec adj pivot remaining.length 0 affected
              remaining (by omega) (by simp)
            simp only [grow, hp]
            exact ih _ _ _ (by rw [h1]; exact List.mem_append_left _ hs)
  exact hkeep _ _ _ _ (by simp)

/-- What holds inside a pass, when the unvisited nodes in front of `i` were
found to be no neighbours of the pivot. -/
structure Sweeping (all : List ρ) (start : ρ) (cursor i : Nat) (pivot : ρ)
    (affected remaining : List ρ) : Prop extends
    Explored adj all start cursor affected remaining where
  here : affected[cursor]? = some pivot
  front : ∀ r ∈ remaining.take i, adj pivot r = false

section Pass

variable {adj} {all : List ρ} {start pivot r : ρ} {cursor i : Nat} {affected remaining : List ρ}

theorem Explored.sweeping (h : Explored adj all start cursor affected remaining)
    (hp : affected[cursor]? = some pivot) :
    Sweeping adj all start cursor 0 pivot affected remaining :=
  ⟨h, hp, by simp⟩

theorem Sweeping.move (h : Sweeping adj all start cursor i pivot affected remaining)
    (hr : remaining[i]? = some r) (hadj : adj pivot r = true) :
    Sweeping adj all start cursor i pivot (affected ++ [r]) (swapRemove remaining i r) := by
  obtain ⟨hlt, hpivot⟩ := List.getElem?_eq_some_iff.mp h.here
  have hmoved := perm_swapRemove hr
  have hall : (affected ++ [r] ++ swapRemove remaining i r).Perm all := by
    rw [List.append_assoc, List.singleton_append]
    exact (List.Perm.append_left affected hmoved.symm).trans h.perm
  refine ⟨⟨hall, ?_, ?_⟩, ?_, ?_⟩
  · intro x hx
    rcases List.mem_append.mp hx with hx | hx
    · exact h.reach x hx
    · rw [List.mem_singleton.mp hx]
      have hmem : r ∈ all :=
        h.perm.subset (List.mem_append_right _ (List.mem_of_getElem? hr))
      exact (h.reach pivot (List.mem_of_getElem? h.here)).tail ⟨hadj, hmem⟩
  · intro a ha x hx
    rw [List.take_append_of_le_length (by omega)] at ha
    exact h.walked a ha x (hmoved.symm.subset (List.mem_cons_of_mem _ hx))
  · rw [List.getElem?_append_left hlt]
    exact h.here
  · rw [take_swapRemove hr]
    exact h.front

theorem Sweeping.skip (h : Sweeping adj all start cursor i pivot affected remaining)
    (hr : remaining[i]? = some r) (hadj : adj pivot r = false) :
    Sweeping adj all start cursor (i + 1) pivot affected remaining := by
  refine ⟨h.toExplored, h.here, fun x hx => ?_⟩
  rw [List.take_add_one, hr, Option.toList_some] at hx
  rcases List.mem_append.mp hx with hx | hx
  · exact h.front x hx
  · rw [List.mem_singleton.mp hx]
    exact hadj

theorem Sweeping.finish (h : Sweeping adj all start cursor i pivot affected remaining)
    (hi : remaining.length ≤ i) : Explored adj all start (cursor + 1) affected remaining := by
  refine ⟨h.perm, h.reach, fun a ha x hx => ?_⟩
  rw [List.take_add_one, h.here, Option.toList_some] at ha
  rcases List.mem_append.mp ha with ha | ha
  · exact h.walked a ha x hx
  · rw [List.mem_singleton.mp ha]
    have hfront := h.front
    rw [List.take_of_length_le hi] at hfront
    exact hfront x hx

end Pass

end Arrays

section Stack

variable [DecidableEq ρ] (adj : ρ → ρ → Bool) (all : List ρ)

/-- The inner loop over all nodes: an unvisited neighbour is marked visited
and pushed on the stack. -/
def visit (near : ρ → Bool) : List ρ → List ρ → List ρ → List ρ × List ρ
  | [], affected, pending => (affected, pending)
  | other :: rest, affected, pending =>
    if other ∉ affected ∧ near other = true then
      visit near rest (other :: affected) (other :: pending)
    else visit near rest affected pending

/-- The outer loop: pop a pending node until the stack is empty. -/
def flood : Nat → List ρ → List ρ → List ρ
  | 0, affected, _ => affected
  | _ + 1, affected, [] => affected
  | fuel + 1, affected, p :: pending =>
    let next := visit (adj p) all affected pending
    flood fuel next.1 next.2

theorem visit_spec (near : ρ → Bool) :
    ∀ (rest affected pending : List ρ), ∃ fresh,
      visit near rest affected pending = (fresh ++ affected, fresh ++ pending) ∧
        (∀ x ∈ fresh, x ∈ rest ∧ near x = true ∧ x ∉ affected) ∧ fresh.Nodup ∧
        ∀ b ∈ rest, near b = true → b ∈ fresh ++ affected := by
  intro rest
  induction rest with
  | nil => intro affected pending; exact ⟨[], by simp [visit]⟩
  | cons other rest ih =>
      intro affected pending
      by_cases h : other ∉ affected ∧ near other = true
      · obtain ⟨fresh, h1, h2, h3, h4⟩ := ih (other :: affected) (other :: pending)
        refine ⟨fresh ++ [other], by simp [visit, h, h1], ?_, ?_, ?_⟩
        · intro x hx
          rcases List.mem_append.mp hx with hx | hx
          · obtain ⟨hr, hn, ha⟩ := h2 x hx
            exact ⟨List.mem_cons_of_mem _ hr, hn, fun hm => ha (List.mem_cons_of_mem _ hm)⟩
          · rw [List.mem_singleton.mp hx]
            exact ⟨List.mem_cons_self, h.2, h.1⟩
        · rw [List.nodup_append]
          refine ⟨h3, by simp, ?_⟩
          rintro x hx y hy rfl
          rw [List.mem_singleton.mp hy] at hx
          exact (h2 other hx).2.2 List.mem_cons_self
        · intro b hb hn
          rcases List.mem_cons.mp hb with rfl | hb
          · simp
          · simpa [List.append_assoc] using h4 b hb hn
      · obtain ⟨fresh, h1, h2, h3, h4⟩ := ih affected pending
        refine ⟨fresh, by simp only [visit, if_neg h, h1], ?_, h3, ?_⟩
        · intro x hx
          obtain ⟨hr, hn⟩ := h2 x hx
          exact ⟨List.mem_cons_of_mem _ hr, hn⟩
        · intro b hb hn
          rcases List.mem_cons.mp hb with rfl | hb
          · have hmem : b ∈ affected := by
              by_contra hout
              exact h ⟨hout, hn⟩
            exact List.mem_append_right _ hmem
          · exact h4 b hb hn

/-- What holds between two pops: only reachable nodes are visited, each once,
and a visited node that is no longer pending has no unvisited neighbour. -/
structure Flooded (start : ρ) (affected pending : List ρ) : Prop where
  nodup : affected.Nodup
  subset : affected ⊆ all
  pending_subset : pending ⊆ affected
  reach : ∀ x ∈ affected, Relation.ReflTransGen (Joined adj all) start x
  settled : ∀ a ∈ affected, a ∉ pending → ∀ b ∈ all, adj a b = true → b ∈ affected
  started : start ∈ affected

theorem Flooded.step {start p : ρ} {affected pending : List ρ}
    (h : Flooded adj all start affected (p :: pending)) :
    Flooded adj all start (visit (adj p) all affected pending).1
      (visit (adj p) all affected pending).2 := by
  obtain ⟨fresh, h1, h2, h3, h4⟩ := visit_spec (adj p) all affected pending
  have hp : p ∈ affected := h.pending_subset List.mem_cons_self
  rw [h1]
  refine ⟨?_, ?_, ?_, ?_, ?_, List.mem_append_right _ h.started⟩
  · rw [List.nodup_append]
    refine ⟨h3, h.nodup, ?_⟩
    rintro x hx y hy rfl
    exact (h2 x hx).2.2 hy
  · intro x hx
    rcases List.mem_append.mp hx with hx | hx
    · exact (h2 x hx).1
    · exact h.subset hx
  · intro x hx
    rcases List.mem_append.mp hx with hx | hx
    · exact List.mem_append_left _ hx
    · exact List.mem_append_right _ (h.pending_subset (List.mem_cons_of_mem _ hx))
  · intro x hx
    rcases List.mem_append.mp hx with hx | hx
    · exact (h.reach p hp).tail ⟨(h2 x hx).2.1, (h2 x hx).1⟩
    · exact h.reach x hx
  · intro a ha hpend b hb hab
    rcases List.mem_append.mp ha with ha | ha
    · exact absurd (List.mem_append_left _ ha) hpend
    · by_cases hap : a = p
      · exact h4 b hb (hap ▸ hab)
      · have hold : a ∉ p :: pending := by
          intro hmem
          rcases List.mem_cons.mp hmem with rfl | hmem
          · exact hap rfl
          · exact hpend (List.mem_append_right _ hmem)
        exact List.mem_append_right _ (h.settled a ha hold b hb hab)

/-- Every pop is paid for by a node that was visited once, so as many rounds
as there are nodes empty the stack. -/
theorem Flooded.run {start : ρ} :
    ∀ (fuel : Nat) (affected pending : List ρ), Flooded adj all start affected pending →
      all.length + pending.length ≤ fuel + affected.length →
      Flooded adj all start (flood adj all fuel affected pending) [] := by
  intro fuel
  induction fuel with
  | zero =>
      intro affected pending h hfuel
      have hle := (List.subperm_of_subset h.nodup h.subset).length_le
      have hnil : pending = [] := List.length_eq_zero_iff.mp (by omega)
      exact hnil ▸ h
  | succ fuel ih =>
      intro affected pending h hfuel
      cases pending with
      | nil => exact h
      | cons p pending =>
          obtain ⟨fresh, h1, -⟩ := visit_spec (adj p) all affected pending
          refine ih _ _ (h.step adj all) ?_
          rw [h1]
          simp only [List.length_append, List.length_cons] at hfuel ⊢
          omega

/-- **The stack worklist computes the component of its start node.** -/
theorem mem_flood_iff {start x : ρ} (hstart : start ∈ all) :
    x ∈ flood adj all all.length [start] [start] ↔
      Relation.ReflTransGen (Joined adj all) start x := by
  have hinit : Flooded adj all start [start] [start] :=
    ⟨by simp, by simpa using hstart, by simp,
      fun x hx => by rw [List.mem_singleton.mp hx], by simp, by simp⟩
  have h := hinit.run adj all all.length [start] [start] (by simp)
  refine ⟨h.reach x, fun hx => ?_⟩
  induction hx with
  | refl => exact h.started
  | @tail a b _ hab ih => exact h.settled a ih (by simp) b hab.2 hab.1

end Stack

end Worklist
