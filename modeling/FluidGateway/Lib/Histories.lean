import Mathlib.Algebra.Order.BigOperators.Group.List
import Mathlib.Data.List.Basic
import Mathlib.Data.List.Induction

/-!
# Records with their histories

A loop that carries totals gives each record a value that depends on the record
and on those before it.  `history` lists each record with the ones before it, so
that such a loop is a `map`; `within` is the longest initial part of a list whose
running total stays within a limit.
-/

namespace Histories

universe u v w

variable {α : Type u} {β : Type v} {γ : Type w} {δ : Type w}

/-! ## Records and those before them -/

def historyFrom (earlier : List α) : List α → List (List α × α)
  | [] => []
  | a :: later => (earlier, a) :: historyFrom (earlier ++ [a]) later

/-- Each record with the ones before it. -/
def history (records : List α) : List (List α × α) :=
  historyFrom [] records

theorem historyFrom_append (earlier l l' : List α) :
    historyFrom earlier (l ++ l') = historyFrom earlier l ++ historyFrom (earlier ++ l) l' := by
  induction l generalizing earlier with
  | nil => rw [List.append_nil]; rfl
  | cons a l ih =>
      change (earlier, a) :: historyFrom (earlier ++ [a]) (l ++ l') = _
      rw [ih, List.append_assoc]
      rfl

theorem history_append (l l' : List α) : history (l ++ l') = history l ++ historyFrom l l' :=
  historyFrom_append [] l l'

theorem history_concat (l : List α) (a : α) : history (l ++ [a]) = history l ++ [(l, a)] :=
  history_append l [a]

theorem map_history (records : List α) : (history records).map Prod.snd = records := by
  induction records using List.reverseRecOn with
  | nil => rfl
  | append_singleton records a ih => rw [history_concat, List.map_append, ih]; rfl

/-- The history of some of the records is what they see of each other. -/
theorem map_filter_history (p : α → Bool) (records : List α) :
    ((history records).filter fun item => p item.2).map (fun item => (item.1.filter p, item.2)) =
      history (records.filter p) := by
  induction records using List.reverseRecOn with
  | nil => rfl
  | append_singleton records a ih =>
      rw [history_concat, List.filter_append, List.map_append, ih, List.filter_append]
      cases hp : p a with
      | true =>
          rw [List.filter_cons_of_pos hp, List.filter_cons_of_pos (by simpa using hp)]
          exact (history_concat _ a).symm
      | false =>
          rw [List.filter_cons_of_neg (by simp [hp]), List.filter_cons_of_neg (by simp [hp])]
          exact (List.append_nil _).trans (congrArg history (List.append_nil _).symm)

theorem mem_history {records : List α} {item : List α × α} (h : item ∈ history records) :
    ∃ later, records = item.1 ++ item.2 :: later := by
  induction records using List.reverseRecOn with
  | nil => cases h
  | append_singleton records a ih =>
      rw [history_concat, List.mem_append, List.mem_singleton] at h
      obtain hbefore | rfl := h
      · obtain ⟨later, hlater⟩ := ih hbefore
        exact ⟨later ++ [a], by rw [hlater, List.append_assoc]; rfl⟩
      · exact ⟨[], rfl⟩

/-! ## Two lists that share a part -/

/-- Where the values of matching entries agree exactly when their extras do, the
lists of values agree exactly when the lists of extras do. -/
theorem map_eq_map_iff {own : α → γ} {value : α → β} {extra : α → δ} {l l' : List α}
    (hown : l.map own = l'.map own)
    (h : ∀ a ∈ l, ∀ b ∈ l', own a = own b → (value a = value b ↔ extra a = extra b)) :
    l.map value = l'.map value ↔ l.map extra = l'.map extra := by
  induction l generalizing l' with
  | nil =>
      obtain rfl : l' = [] := List.map_eq_nil_iff.mp hown.symm
      exact iff_of_true rfl rfl
  | cons a l ih =>
      cases l' with
      | nil => cases hown
      | cons b l' =>
          obtain ⟨hhead, htail⟩ := List.cons.inj hown
          have hrest := ih htail fun x hx y hy =>
            h x (List.mem_cons_of_mem a hx) y (List.mem_cons_of_mem b hy)
          have hfirst := h a List.mem_cons_self b List.mem_cons_self hhead
          simp only [List.map_cons, List.cons.injEq, hfirst, hrest]

/-! ## What stays within a limit -/

section

variable {K : Type v} [AddCommGroup K] [LinearOrder K] (cost : α → K)
  (limit : K)

/-- The longest initial part that, after what has been spent, stays within the limit. -/
def within (spent : K) : List α → List α
  | [] => []
  | a :: rest => if spent + cost a ≤ limit then a :: within (spent + cost a) rest else []

theorem within_total {spent : K} {l : List α} (h : within cost limit spent l ≠ []) :
    spent + ((within cost limit spent l).map cost).sum ≤ limit := by
  induction l generalizing spent with
  | nil => exact absurd rfl h
  | cons a l ih =>
      by_cases hfits : spent + cost a ≤ limit
      · simp only [within, if_pos hfits, List.map_cons, List.sum_cons]
        rw [← add_assoc]
        by_cases hrest : within cost limit (spent + cost a) l = []
        · rw [hrest, List.map_nil, List.sum_nil, add_zero]
          exact hfits
        · exact ih hrest
      · exact absurd (if_neg hfits) h

theorem within_sublist (spent : K) (l : List α) : (within cost limit spent l).Sublist l := by
  induction l generalizing spent with
  | nil => exact List.Sublist.slnil
  | cons a l ih =>
      unfold within
      split_ifs
      · exact (ih _).cons_cons a
      · exact List.nil_sublist _

/-- Among costs that are not negative, the next record is within the limit exactly when
everything up to it is. -/
theorem within_concat [IsOrderedAddMonoid K] {spent : K} {l : List α} {a : α} (hcosts : ∀ b ∈ l, 0 ≤ cost b)
    (ha : 0 ≤ cost a) :
    within cost limit spent (l ++ [a]) =
      within cost limit spent l ++
        if spent + (l.map cost).sum + cost a ≤ limit then [a] else [] := by
  induction l generalizing spent with
  | nil => simp [within]
  | cons b l ih =>
      have hrest : ∀ c ∈ l, 0 ≤ cost c := fun c hc => hcosts c (List.mem_cons_of_mem b hc)
      have hsum : 0 ≤ (l.map cost).sum := List.sum_nonneg (by simpa using hrest)
      by_cases hfits : spent + cost b ≤ limit
      · simp only [List.cons_append, within, if_pos hfits, ih hrest, List.map_cons,
          List.sum_cons, add_assoc]
      · have hover : ¬ spent + (cost b + (l.map cost).sum) + cost a ≤ limit := by
          intro hle
          apply hfits
          calc spent + cost b ≤ spent + (cost b + (l.map cost).sum) := by
                gcongr
                exact le_add_of_nonneg_right hsum
            _ ≤ spent + (cost b + (l.map cost).sum) + cost a := le_add_of_nonneg_right ha
            _ ≤ limit := hle
        simp only [List.cons_append, within, if_neg hfits, List.map_cons, List.sum_cons,
          if_neg hover, List.append_nil]

end

end Histories
