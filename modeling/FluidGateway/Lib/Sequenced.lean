import FluidGateway.Lib.Lockstep

/-!
# Machines that take their inputs in sequence

Every input carries a number, and the machine counts what it has taken.  It is
sequenced when an input that is not the next one changes nothing, and one that
changes something is counted (`Sequenced`).  Then a delivery that repeats inputs, or
brings them early, has the effects of the inputs in their order, each once
(`Delivered.effects`).
-/

namespace Lockstep

variable {σ ι ο : Type*} {f : σ → ι → ο × σ} {next : σ → Nat} {number : ι → Nat}

/-- Only the next input has an effect, and an effect is counted. -/
def Sequenced (f : σ → ι → ο × σ) (next : σ → Nat) (number : ι → Nat) : Prop :=
  ∀ s i, (f s i).2 = s ∨ number i = next s ∧ next (f s i).2 = next s + 1

/-- The inputs of a run that are counted, with their answers. -/
def effects (f : σ → ι → ο × σ) (next : σ → Nat) : σ → List ι → List (ι × ο)
  | _, [] => []
  | s, i :: is =>
    if next (f s i).2 = next s then effects f next (f s i).2 is
    else (i, (f s i).1) :: effects f next (f s i).2 is

theorem effects_cons (s : σ) (i : ι) (is : List ι) : effects f next s (i :: is) =
    if next (f s i).2 = next s then effects f next (f s i).2 is
    else (i, (f s i).1) :: effects f next (f s i).2 is := rfl

theorem Sequenced.ignored (h : Sequenced f next number) {s : σ} {i : ι}
    (hi : number i ≠ next s) : (f s i).2 = s :=
  (h s i).resolve_right fun hmoved => hi hmoved.1

theorem Sequenced.counted (h : Sequenced f next number) {s : σ} {i : ι}
    (hi : next (f s i).2 ≠ next s) : number i = next s ∧ next (f s i).2 = next s + 1 :=
  (h s i).resolve_left fun hsame => hi (congrArg next hsame)

/-- The counted inputs are among the inputs, in their order. -/
theorem effects_sublist (s : σ) (is : List ι) :
    ((effects f next s is).map Prod.fst).Sublist is := by
  induction is generalizing s with
  | nil => exact .slnil
  | cons i is ih =>
      rw [effects_cons]
      split
      · exact (ih _).cons i
      · exact (ih _).cons_cons i

/-- The second list brings the inputs of the first in their order, among others that
are not awaited when they come: repetitions, or inputs that come too early. -/
inductive Delivered (number : ι → Nat) : Nat → List ι → List ι → Prop
  | nil (n : Nat) : Delivered number n [] []
  | awaited {n : Nat} {i : ι} {is js : List ι} (h : number i = n)
      (rest : Delivered number (n + 1) is js) : Delivered number n (i :: is) (i :: js)
  | unawaited {n : Nat} {j : ι} {is js : List ι} (h : number j ≠ n)
      (rest : Delivered number n is js) : Delivered number n is (j :: js)

/-- All of the inputs are counted. -/
def Taken (f : σ → ι → ο × σ) (next : σ → Nat) (s : σ) (is : List ι) : Prop :=
  (effects f next s is).length = is.length

theorem effects_length_le (s : σ) (is : List ι) : (effects f next s is).length ≤ is.length := by
  have hsublist : ((effects f next s is).map Prod.fst).Sublist is := effects_sublist s is
  have hlength := hsublist.length_le
  rwa [List.length_map] at hlength

theorem Taken.cons {s : σ} {i : ι} {is : List ι} (h : Taken f next s (i :: is)) :
    next (f s i).2 ≠ next s ∧ Taken f next (f s i).2 is := by
  unfold Taken at h
  rw [effects_cons] at h
  split at h
  · have hle : (effects f next (f s i).2 is).length ≤ is.length := effects_length_le _ _
    rw [h, List.length_cons] at hle
    omega
  · next hmoved => exact ⟨hmoved, Nat.succ_inj.mp h⟩

/-- **Effects of a delivery.** However often inputs are repeated, and whatever comes
too early, the machine ends in the state, and with the effects and the answers to
them, of the inputs that it was to be given. -/
theorem Delivered.effects (hsequenced : Sequenced f next number) {s : σ} {is js : List ι}
    (h : Delivered number (next s) is js) (htaken : Taken f next s is) :
    final f s js = final f s is ∧ effects f next s js = effects f next s is := by
  generalize hn : next s = n at h
  induction h generalizing s with
  | nil => exact ⟨rfl, rfl⟩
  | @awaited n i is js _ _ ih =>
      obtain ⟨hmoved, hrest⟩ := htaken.cons
      obtain ⟨-, hnext⟩ := hsequenced.counted hmoved
      obtain ⟨hfinal, heffects⟩ := ih hrest (hnext.trans (congrArg (· + 1) hn))
      rw [final_cons, final_cons, hfinal]
      refine ⟨rfl, ?_⟩
      rw [effects_cons, effects_cons, if_neg hmoved, if_neg hmoved, heffects]
  | @unawaited n j is js hj _ ih =>
      have hsame := hsequenced.ignored (s := s) (hn.symm ▸ hj)
      obtain ⟨hfinal, heffects⟩ := ih htaken hn
      rw [final_cons, hsame, hfinal, effects_cons, if_pos (congrArg next hsame), hsame]
      exact ⟨rfl, heffects⟩

end Lockstep
