import Mathlib.Data.List.Forall2
import Mathlib.Data.List.Induction

/-!
# Two machines in lockstep

A machine answers each input and moves to a new state.  Two machines are in
lockstep when some relation between their states is kept by every pair of
related inputs with related answers.  `Kept.outputs` carries this from one
step to whole runs; a run may be cut off where an answer is no longer `good`.
`Lockstep.invariant` does the same for a property of one machine, and
`Lockstep.flag_final_iff` finds the input that has set a flag.
-/

namespace Lockstep

variable {σ τ ι κ ο π : Type*}

/-- The answers of a machine to a sequence of inputs. -/
def outputs (f : σ → ι → ο × σ) : σ → List ι → List ο
  | _, [] => []
  | s, i :: is => (f s i).1 :: outputs f (f s i).2 is

/-- The state after a sequence of inputs. -/
def final (f : σ → ι → ο × σ) (s : σ) (is : List ι) : σ :=
  is.foldl (fun s i => (f s i).2) s

@[simp] theorem outputs_nil (f : σ → ι → ο × σ) (s : σ) : outputs f s [] = [] := rfl

@[simp] theorem outputs_cons (f : σ → ι → ο × σ) (s : σ) (i : ι) (is : List ι) :
    outputs f s (i :: is) = (f s i).1 :: outputs f (f s i).2 is := rfl

@[simp] theorem final_nil (f : σ → ι → ο × σ) (s : σ) : final f s [] = s := rfl

@[simp] theorem final_cons (f : σ → ι → ο × σ) (s : σ) (i : ι) (is : List ι) :
    final f s (i :: is) = final f (f s i).2 is := rfl

@[simp] theorem outputs_length (f : σ → ι → ο × σ) (s : σ) (is : List ι) :
    (outputs f s is).length = is.length := by
  induction is generalizing s with
  | nil => rfl
  | cons i is ih => rw [outputs_cons, List.length_cons, List.length_cons, ih]

theorem outputs_append (f : σ → ι → ο × σ) (s : σ) (is js : List ι) :
    outputs f s (is ++ js) = outputs f s is ++ outputs f (final f s is) js := by
  induction is generalizing s with
  | nil => rfl
  | cons i is ih => simp [ih]

theorem final_append (f : σ → ι → ο × σ) (s : σ) (is js : List ι) :
    final f s (is ++ js) = final f (final f s is) js :=
  List.foldl_append

theorem outputs_take (f : σ → ι → ο × σ) (s : σ) (is : List ι) (n : Nat) :
    outputs f s (is.take n) = (outputs f s is).take n := by
  induction is generalizing s n with
  | nil => simp
  | cons i is ih => cases n <;> simp [ih]

/-- An answer is given in the state that the inputs before it lead to. -/
theorem outputs_getElem? (f : σ → ι → ο × σ) (s : σ) (is : List ι) (n : Nat) :
    (outputs f s is)[n]? = is[n]?.map fun i => (f (final f s (is.take n)) i).1 := by
  induction is generalizing s n with
  | nil => simp
  | cons i is ih =>
      cases n with
      | zero => simp
      | succ n => simp [ih]

theorem outputs_map (f : σ → ι → ο × σ) (g : κ → ι) (s : σ) (is : List κ) :
    outputs f s (is.map g) = outputs (fun s i => f s (g i)) s is := by
  induction is generalizing s with
  | nil => rfl
  | cons i is ih => rw [List.map_cons, outputs_cons, outputs_cons, ih]

theorem final_map (f : σ → ι → ο × σ) (g : κ → ι) (s : σ) (is : List κ) :
    final f s (is.map g) = final (fun s i => f s (g i)) s is :=
  List.foldl_map

/-- Machines that treat the inputs alike have the same run. -/
theorem run_congr {f g : σ → ι → ο × σ} {is : List ι} (h : ∀ s, ∀ i ∈ is, f s i = g s i) (s : σ) :
    outputs f s is = outputs g s is ∧ final f s is = final g s is := by
  induction is generalizing s with
  | nil => exact ⟨rfl, rfl⟩
  | cons i is ih =>
      obtain ⟨houtputs, hfinal⟩ :=
        ih (fun s j hj => h s j (List.mem_cons_of_mem _ hj)) (f s i).2
      rw [outputs_cons, outputs_cons, final_cons, final_cons, houtputs, hfinal,
        h s i List.mem_cons_self]
      exact ⟨rfl, rfl⟩

/-- **What one step keeps holds after every run**, of the state and of the
answers so far. -/
theorem invariant {f : σ → ι → ο × σ} {s : σ} {inv : σ → List ο → Prop} (hstart : inv s [])
    (hstep : ∀ t outs i, inv t outs → inv (f t i).2 (outs ++ [(f t i).1])) (is : List ι) :
    inv (final f s is) (outputs f s is) := by
  induction is using List.reverseRecOn with
  | nil => exact hstart
  | append_singleton is i ih =>
      rw [outputs_append, final_append]
      exact hstep _ _ i ih

/-- **When a flag was set.** A flag that is not set at the start, and stays set, is set
after a run exactly when one of the inputs has set it. -/
theorem flag_final_iff {f : σ → ι → ο × σ} {flag : σ → Bool} {s : σ} (hstart : flag s = false)
    {is : List ι}
    (hstays : ∀ earlier i, flag (final f s earlier) = true →
      flag (f (final f s earlier) i).2 = true) :
    flag (final f s is) = true ↔ ∃ earlier i later, is = earlier ++ i :: later ∧
      flag (final f s earlier) = false ∧ flag (f (final f s earlier) i).2 = true := by
  induction is using List.reverseRecOn with
  | nil =>
      refine iff_of_false (by rw [final_nil, hstart]; decide) fun h => ?_
      obtain ⟨earlier, i, later, hsplit, -⟩ := h
      exact absurd hsplit (List.append_ne_nil_of_right_ne_nil _ (List.cons_ne_nil i later)).symm
  | append_singleton is i ih =>
      rw [final_append, final_cons, final_nil]
      cases hflag : flag (final f s is) with
      | true =>
          obtain ⟨earlier, j, later, hsplit, hset⟩ := ih.mp hflag
          refine iff_of_true (hstays is i hflag) ⟨earlier, j, later ++ [i], ?_, hset⟩
          rw [hsplit, List.append_assoc, List.cons_append]
      | false =>
          constructor
          · intro hset
            exact ⟨is, i, [], rfl, hflag, hset⟩
          · intro h
            obtain ⟨earlier, j, later, hsplit, hclear, hset⟩ := h
            obtain rfl | ⟨later, last, rfl⟩ := List.eq_nil_or_concat later
            · obtain ⟨rfl, hlast⟩ := List.append_inj' hsplit rfl
              rw [(List.cons.inj hlast).1]
              exact hset
            · rw [List.concat_eq_append, ← List.cons_append, ← List.append_assoc] at hsplit
              have hbefore := (List.append_inj' hsplit rfl).1
              exact absurd (ih.mpr ⟨earlier, j, later, hbefore, hclear, hset⟩)
                (by rw [hflag]; decide)

/-- A relation between states that every pair of related inputs keeps, with
related answers, as long as the first answer is good. -/
structure Kept (f : σ → ι → ο × σ) (g : τ → κ → π × τ) (good : ο → Prop) (input : ι → κ → Prop)
    (output : ο → π → Prop) (rel : σ → τ → Prop) : Prop where
  answer : ∀ {s t i j}, rel s t → input i j → good (f s i).1 → output (f s i).1 (g t j).1
  state : ∀ {s t i j}, rel s t → input i j → good (f s i).1 → rel (f s i).2 (g t j).2

/-- **From one step to every run.** -/
theorem Kept.outputs {f : σ → ι → ο × σ} {g : τ → κ → π × τ} {good : ο → Prop}
    {input : ι → κ → Prop} {output : ο → π → Prop} {rel : σ → τ → Prop}
    (h : Kept f g good input output rel) {s : σ} {t : τ} (hst : rel s t) {is : List ι}
    {js : List κ} (hin : List.Forall₂ input is js) (hgood : ∀ o ∈ outputs f s is, good o) :
    List.Forall₂ output (outputs f s is) (outputs g t js) ∧ rel (final f s is) (final g t js) := by
  induction hin generalizing s t with
  | nil => exact ⟨.nil, hst⟩
  | @cons i j is js hij _ ih =>
      rw [outputs_cons] at hgood ⊢
      rw [outputs_cons, final_cons, final_cons]
      have hfirst := hgood _ List.mem_cons_self
      obtain ⟨houts, hfinal⟩ := ih (h.state hst hij hfirst)
        fun o ho => hgood o (List.mem_cons_of_mem _ ho)
      exact ⟨.cons (h.answer hst hij hfirst) houts, hfinal⟩

end Lockstep
