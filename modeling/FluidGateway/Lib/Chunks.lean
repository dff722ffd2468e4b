import Mathlib.Algebra.BigOperators.Group.List.Basic
import Mathlib.Algebra.GroupWithZero.Nat
import Mathlib.Data.List.Basic

/-!
# Fixed layouts

A record of fields of fixed sizes is cut out of its bytes (`cut`) and put
together again (`List.flatten`).
-/

namespace Chunks

variable {α : Type}

/-- Cut pieces of the given sizes from the front of a list. -/
def cut : (sizes : List Nat) → List α → List (List α)
  | [], _ => []
  | size :: sizes, data => data.take size :: cut sizes (data.drop size)

/-- What was put together is cut into the same pieces. -/
theorem cut_flatten (pieces : List (List α)) (rest : List α) :
    cut (pieces.map List.length) (pieces.flatten ++ rest) = pieces := by
  induction pieces with
  | nil => rfl
  | cons piece pieces ih =>
      rw [List.map_cons, List.flatten_cons, List.append_assoc, cut, List.take_left,
        List.drop_left, ih]

theorem flatten_cut {sizes : List Nat} {data : List α} (h : data.length = sizes.sum) :
    (cut sizes data).flatten = data := by
  induction sizes generalizing data with
  | nil => exact (List.length_eq_zero_iff.mp h).symm
  | cons size sizes ih =>
      have hrest : (data.drop size).length = sizes.sum := by
        rw [List.sum_cons] at h
        rw [List.length_drop]
        omega
      rw [cut, List.flatten_cons, ih hrest, List.take_append_drop]

theorem map_length_cut {sizes : List Nat} {data : List α} (h : data.length = sizes.sum) :
    (cut sizes data).map List.length = sizes := by
  induction sizes generalizing data with
  | nil => rfl
  | cons size sizes ih =>
      rw [List.sum_cons] at h
      have hrest : (data.drop size).length = sizes.sum := by
        rw [List.length_drop]
        omega
      rw [cut, List.map_cons, ih hrest, List.length_take]
      congr 1
      omega

end Chunks
