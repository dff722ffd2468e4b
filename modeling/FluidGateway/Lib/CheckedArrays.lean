import FluidGateway.Lib.Worklist

/-!
# Worklists in fixed arrays

Arrays of a fixed length whose accesses are checked: what a program does with
such an array is safe when no access fails.  An array is read as the list of
its first entries (`Holds`); appending to that list and filling a gap with the
last entry are the two writes that a worklist makes.

A loop is a step that may fail.  `run_sound` and `run_halts`
are its invariant rule and its termination rule.
-/

namespace CheckedArrays

inductive Fault where
  | outOfBounds (index : Nat)
  | badPointer
  deriving DecidableEq, Repr

section Arrays

variable {ρ : Type*} {size : Nat}

/-- An array of pointers, null where nothing was written. -/
abbrev Slots (ρ : Type*) (size : Nat) := Vector (Option ρ) size

def nulls : Slots ρ size :=
  Vector.replicate size none

def read (slots : Slots ρ size) (i : Nat) : Except Fault ρ :=
  if h : i < size then
    match slots[i] with
    | some r => .ok r
    | none => .error .badPointer
  else .error (.outOfBounds i)

def write (slots : Slots ρ size) (i : Nat) (r : ρ) : Except Fault (Slots ρ size) :=
  if h : i < size then .ok (slots.set i (some r)) else .error (.outOfBounds i)

/-- The first entries of the array are `l`. -/
def Holds (slots : Slots ρ size) (l : List ρ) : Prop :=
  slots.toList.take l.length = l.map some

variable {slots : Slots ρ size} {l : List ρ} {i : Nat} {r z : ρ}

theorem holds_nil (slots : Slots ρ size) : Holds slots [] := rfl

theorem Holds.length_le (h : Holds slots l) : l.length ≤ size := by
  have hlen := congrArg List.length h
  rw [List.length_take, List.length_map, Vector.length_toList] at hlen
  omega

theorem Holds.read (h : Holds slots l) (hi : l[i]? = some r) : read slots i = .ok r := by
  obtain ⟨hlt, -⟩ := List.getElem?_eq_some_iff.mp hi
  have hsize : i < size := Nat.lt_of_lt_of_le hlt h.length_le
  have hentry : slots.toList[i]? = some (some r) := by
    rw [← List.getElem?_take_of_lt hlt, h, List.getElem?_map, hi, Option.map_some]
  have hslot : slots[i] = some r := by
    rw [Vector.getElem?_toList, Vector.getElem?_eq_getElem hsize] at hentry
    exact Option.some.inj hentry
  unfold CheckedArrays.read
  rw [dif_pos hsize, hslot]

theorem write_eq (hi : i < size) : write slots i r = .ok (slots.set i (some r)) :=
  dif_pos hi

/-- Appending one entry. -/
theorem Holds.push (h : Holds slots l) (hi : i = l.length) (hsize : i < size) :
    Holds (slots.set i (some r)) (l ++ [r]) := by
  subst hi
  unfold Holds
  have hlt : l.length < slots.toList.length := by rwa [Vector.length_toList]
  rw [Vector.toList_set, List.length_append, List.length_singleton,
    List.take_succ_eq_append_getElem (by rwa [List.length_set]), List.getElem_set_self,
    List.take_set_of_le (Nat.le_refl _), h, List.map_append, List.map_singleton]

/-- Filling the gap at `i` with the last entry. -/
theorem Holds.swapRemove (h : Holds slots l) (hsize : i < size)
    (hlast : l[l.length - 1]? = some z) :
    Holds (slots.set i (some z)) (Worklist.swapRemove l i r) := by
  have hgap : l.getLastD r = z := by
    rw [List.getLastD_eq_getLast?, List.getLast?_eq_getElem?, hlast, Option.getD_some]
  have htake : (slots.toList.set i (some z)).take l.length = (l.set i z).map some := by
    rw [List.take_set, h, List.map_set]
  have hlen : (Worklist.swapRemove l i r).length = l.length - 1 := by
    rw [Worklist.swapRemove, List.length_dropLast, List.length_set]
  unfold Holds
  rw [hlen, Vector.toList_set, ← Nat.min_eq_left (Nat.sub_le l.length 1), ← List.take_take, htake,
    Worklist.swapRemove, hgap, List.dropLast_eq_take, List.length_set, List.map_take]

end Arrays

/-! ## Loops -/

section Loops

variable {σ ε : Type*} (step : σ → Except ε σ)

/-- So many steps, unless one of them fails. -/
def run : Nat → σ → Except ε σ
  | 0, l => .ok l
  | n + 1, l => (run n l).bind step

variable {step}

/-- A step that keeps the invariant and does not fail, taken any number of times. -/
theorem run_sound {Sound : σ → Prop}
    (hstep : ∀ l, Sound l → ∃ l', step l = .ok l' ∧ Sound l') {l : σ} (h : Sound l) (n : Nat) :
    ∃ l', run step n l = .ok l' ∧ Sound l' := by
  induction n with
  | zero => exact ⟨l, rfl, h⟩
  | succ n ih =>
    obtain ⟨m, hm, hsound⟩ := ih
    obtain ⟨l', hl', hsound'⟩ := hstep m hsound
    refine ⟨l', ?_, hsound'⟩
    rw [run, hm]
    exact hl'

/-- A step that comes closer to the end as long as the end is not reached. -/
theorem run_halts {Sound Halted : σ → Prop} {left : σ → Nat}
    (hstep : ∀ l, Sound l → ∃ l', step l = .ok l' ∧ Sound l')
    (hleft : ∀ l l', Sound l → ¬ Halted l → step l = .ok l' → left l' < left l)
    {l : σ} (h : Sound l) : ∃ n l', run step n l = .ok l' ∧ Halted l' := by
  -- after `n` steps the end is reached, or at most `left l - n` steps are left
  have hbound : ∀ n, (∃ k l', run step k l = .ok l' ∧ Halted l') ∨
      ∃ l', run step n l = .ok l' ∧ Sound l' ∧ left l' + n ≤ left l := by
    intro n
    induction n with
    | zero => exact .inr ⟨l, rfl, h, Nat.le_refl _⟩
    | succ n ih =>
      rcases ih with hhalt | ⟨m, hm, hsound, hle⟩
      · exact .inl hhalt
      · by_cases hend : Halted m
        · exact .inl ⟨n, m, hm, hend⟩
        · obtain ⟨l', hl', hsound'⟩ := hstep m hsound
          have hless := hleft m l' hsound hend hl'
          refine .inr ⟨l', ?_, hsound', by omega⟩
          rw [run, hm]
          exact hl'
  rcases hbound (left l + 1) with hhalt | ⟨l', -, -, hle⟩
  · exact hhalt
  · omega

end Loops

end CheckedArrays
