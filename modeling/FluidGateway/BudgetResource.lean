import FluidGateway.NativeCore
import Mathlib.Algebra.BigOperators.Group.List.Basic
import Mathlib.Algebra.GroupWithZero.Nat

/-!
# The memory budget of a session

`BudgetResource` of `native/src/core.cpp`, in 64-bit arithmetic.  Each of its
checks is a subtraction that would wrap if the account were wrong, so what the
checks mean rests on the invariant that they keep (`Account.Exact`): the budget
in use is the size of the live blocks, and the counters are what was granted.

The heap below the budget may refuse any request and may choose any address.
-/

namespace FluidGateway.Native

/-- A live block: where it is, its size and its alignment. -/
structure Block where
  address : UInt64
  bytes : UInt64
  alignment : UInt64
  deriving DecidableEq, Repr

/-- `BudgetResource`: the bytes in use, their peak, and the two counters that only grow. -/
structure BudgetResource where
  used : UInt64 := 0
  peak : UInt64 := 0
  allocationCount : UInt64 := 0
  allocatedBytes : UInt64 := 0
  deriving DecidableEq, Repr

namespace BudgetResource

/-- `state_limit`: what one session may hold at a time. -/
def stateLimit : UInt64 := 8 * 1024 * 1024
def uint64Max : UInt64 := 0xffffffffffffffff

/-- `do_allocate`; `heap` is the address that the default resource gives out,
if it does not throw. -/
def doAllocate (r : BudgetResource) (heap : Option UInt64) (bytes : UInt64) :
    Except Refusal UInt64 × BudgetResource :=
  if bytes > stateLimit - r.used then (.error .budget, r)
  else if r.allocationCount = uint64Max ∨ bytes > uint64Max - r.allocatedBytes then
    (.error .counter, r)
  else
    match heap with
    | none => (.error .heap, r)
    | some p =>
      let used := r.used + bytes
      (.ok p, { used
                peak := max used r.peak
                allocationCount := r.allocationCount + 1
                allocatedBytes := r.allocatedBytes + bytes })

/-- `do_deallocate`: the counters are not touched. -/
def doDeallocate (r : BudgetResource) (bytes : UInt64) : BudgetResource :=
  { r with used := r.used - bytes }

/-- The three places where a request is refused, and what a granted one does. -/
theorem doAllocate_cases (r : BudgetResource) (heap : Option UInt64) (bytes : UInt64) :
    (∃ refusal, r.doAllocate heap bytes = (.error refusal, r)) ∨
      ∃ address, heap = some address ∧ ¬ bytes > stateLimit - r.used ∧
        r.allocationCount ≠ uint64Max ∧ ¬ bytes > uint64Max - r.allocatedBytes ∧
        r.doAllocate heap bytes =
          (.ok address, {
            used := r.used + bytes
            peak := max (r.used + bytes) r.peak
            allocationCount := r.allocationCount + 1
            allocatedBytes := r.allocatedBytes + bytes }) := by
  unfold doAllocate
  by_cases hbudget : bytes > stateLimit - r.used
  · rw [if_pos hbudget]
    exact .inl ⟨_, rfl⟩
  · rw [if_neg hbudget]
    by_cases hcounter : r.allocationCount = uint64Max ∨ bytes > uint64Max - r.allocatedBytes
    · rw [if_pos hcounter]
      exact .inl ⟨_, rfl⟩
    · rw [if_neg hcounter]
      rw [not_or] at hcounter
      cases heap with
      | none => exact .inl ⟨_, rfl⟩
      | some address => exact .inr ⟨address, rfl, hbudget, hcounter.1, hcounter.2, rfl⟩

end BudgetResource

/-! ## Accounts -/

/-- The resource with the blocks that are live. -/
structure Account where
  resource : BudgetResource := {}
  live : List Block := []
  deriving DecidableEq, Repr

namespace Account

/-- The caller's side of an allocation. -/
def receive (t : Account) (bytes alignment : UInt64) :
    Except Refusal UInt64 × BudgetResource → Except Refusal Block × Account
  | (.error refusal, resource) => (.error refusal, { t with resource })
  | (.ok address, resource) =>
    (.ok ⟨address, bytes, alignment⟩, { resource, live := ⟨address, bytes, alignment⟩ :: t.live })

/-- An allocation, which the heap below answers with an address or not at all. -/
def allocate (t : Account) (heap : Option UInt64) (bytes alignment : UInt64) :
    Except Refusal Block × Account :=
  t.receive bytes alignment (t.resource.doAllocate heap bytes)

/-- A block is given back with the size it was granted with. -/
def deallocate (t : Account) (block : Block) : Account where
  resource := t.resource.doDeallocate block.bytes
  live := t.live.erase block

/-- The total size of the live blocks. -/
def total (t : Account) : Nat :=
  (t.live.map fun block => block.bytes.toNat).sum

/-- Any number of allocations, granted or refused, and of deallocations of live
blocks: the accounts on the way, the blocks that were granted, and the account
in the end. -/
inductive Run : List Account → List Block → Account → Prop
  | start : Run [{}] [] {}
  | granted {visited : List Account} {blocks : List Block} {t t' : Account} {block : Block}
      {heap : Option UInt64} {bytes alignment : UInt64} (h : Run visited blocks t)
      (hgrant : t.allocate heap bytes alignment = (.ok block, t')) :
      Run (visited ++ [t']) (blocks ++ [block]) t'
  | refused {visited : List Account} {blocks : List Block} {t t' : Account} {refusal : Refusal}
      {heap : Option UInt64} {bytes alignment : UInt64} (h : Run visited blocks t)
      (hrefuse : t.allocate heap bytes alignment = (.error refusal, t')) :
      Run (visited ++ [t']) blocks t'
  | deallocate {visited : List Account} {blocks : List Block} {t : Account} {block : Block}
      (h : Run visited blocks t) (hlive : block ∈ t.live) :
      Run (visited ++ [t.deallocate block]) blocks (t.deallocate block)

/-! ## What one step does -/

/-- The account tells what is live and what was granted. -/
structure Exact (t : Account) (blocks : List Block) : Prop where
  used : t.resource.used.toNat = t.total
  bound : t.resource.used.toNat ≤ 8 * 1024 * 1024
  count : t.resource.allocationCount.toNat = blocks.length
  bytes : t.resource.allocatedBytes.toNat = (blocks.map fun block => block.bytes.toNat).sum

variable {t t' : Account} {blocks : List Block} {block : Block} {heap : Option UInt64}
  {bytes alignment : UInt64} {refusal : Refusal}

/-- A request that is refused, wherever, leaves the account alone. -/
theorem allocate_error (h : t.allocate heap bytes alignment = (.error refusal, t')) : t' = t := by
  have hcases := t.resource.doAllocate_cases heap bytes
  have hrec : t.receive bytes alignment (t.resource.doAllocate heap bytes) = _ := h
  rcases hcases with ⟨r, hr⟩ | ⟨address, -, -, -, -, hr⟩
  · rw [hr] at hrec
    exact (Prod.mk.inj hrec).2.symm
  · rw [hr] at hrec
    exact nomatch (Prod.mk.inj hrec).1

/-- A request that is granted has passed every check. -/
theorem allocate_ok (h : t.allocate heap bytes alignment = (.ok block, t')) :
    ¬ bytes > BudgetResource.stateLimit - t.resource.used ∧
      t.resource.allocationCount ≠ BudgetResource.uint64Max ∧
      ¬ bytes > BudgetResource.uint64Max - t.resource.allocatedBytes ∧
      block.bytes = bytes ∧
      t' = { resource := {
               used := t.resource.used + bytes
               peak := max (t.resource.used + bytes) t.resource.peak
               allocationCount := t.resource.allocationCount + 1
               allocatedBytes := t.resource.allocatedBytes + bytes }
             live := block :: t.live } := by
  have hcases := t.resource.doAllocate_cases heap bytes
  have hrec : t.receive bytes alignment (t.resource.doAllocate heap bytes) = _ := h
  rcases hcases with ⟨r, hr⟩ | ⟨address, -, hbudget, hcount, hcounter, hr⟩
  · rw [hr] at hrec
    exact nomatch (Prod.mk.inj hrec).1
  · rw [hr] at hrec
    obtain ⟨hblock, haccount⟩ := Prod.mk.inj hrec
    have hblock := (Except.ok.inj hblock).symm
    rw [hblock]
    exact ⟨hbudget, hcount, hcounter, rfl, haccount.symm⟩

/-- A sum that is known to stay below `2 ^ 64`. -/
theorem toNat_add_of_lt {a b : UInt64} (h : a.toNat + b.toNat < 2 ^ 64) :
    (a + b).toNat = a.toNat + b.toNat := by
  rw [UInt64.toNat_add, Nat.mod_eq_of_lt h]

/-- What the check of the budget says: the subtraction does not wrap, since no
more than the limit is in use. -/
theorem within_limit {used : UInt64} (hbound : used.toNat ≤ 8 * 1024 * 1024)
    (h : ¬ bytes > BudgetResource.stateLimit - used) :
    used.toNat + bytes.toNat ≤ 8 * 1024 * 1024 := by
  have hle : used ≤ BudgetResource.stateLimit := UInt64.le_iff_toNat_le.mpr hbound
  have hleft := UInt64.toNat_sub_of_le _ _ hle
  have hlimit : BudgetResource.stateLimit.toNat = 8 * 1024 * 1024 := rfl
  rw [gt_iff_lt, UInt64.lt_iff_toNat_lt, hleft, hlimit] at h
  omega

/-- The check on the bytes is the one that the sum does not wrap. -/
theorem within_counter {counter : UInt64} (h : ¬ bytes > BudgetResource.uint64Max - counter) :
    counter.toNat + bytes.toNat < 2 ^ 64 := by
  have hle : counter ≤ BudgetResource.uint64Max :=
    UInt64.le_iff_toNat_le.mpr (Nat.le_of_lt_succ counter.toNat_lt)
  have hleft := UInt64.toNat_sub_of_le _ _ hle
  have hmax : BudgetResource.uint64Max.toNat = 2 ^ 64 - 1 := rfl
  have hlt := counter.toNat_lt
  rw [gt_iff_lt, UInt64.lt_iff_toNat_lt, hleft, hmax] at h
  omega

/-- The check on the count is the one that the successor does not wrap. -/
theorem below_counter {counter : UInt64} (h : counter ≠ BudgetResource.uint64Max) :
    counter.toNat + 1 < 2 ^ 64 := by
  have hmax : BudgetResource.uint64Max.toNat = 2 ^ 64 - 1 := rfl
  have hne : counter.toNat ≠ 2 ^ 64 - 1 := by
    rw [← hmax]
    exact fun heq => h (UInt64.toNat_inj.mp heq)
  have hlt := counter.toNat_lt
  omega

/-- The peak is one of the two, and the larger one. -/
theorem max_cases (a b : UInt64) : (a ≤ b ∧ max a b = b) ∨ (b ≤ a ∧ max a b = a) := by
  by_cases hle : a ≤ b
  · exact .inl ⟨hle, if_pos hle⟩
  · exact .inr ⟨(UInt64.le_total a b).resolve_left hle, if_neg hle⟩

namespace Exact

/-- The accounts of a new session are exact. -/
theorem start : Exact {} [] :=
  ⟨rfl, Nat.zero_le _, rfl, rfl⟩

/-- A granted block is added to the use and to both counters, and nothing wraps. -/
theorem granted (h : t.Exact blocks) (hgrant : t.allocate heap bytes alignment = (.ok block, t')) :
    t'.Exact (blocks ++ [block]) := by
  obtain ⟨hbudget, hcount, hcounter, hbytes, rfl⟩ := allocate_ok hgrant
  have hroom := within_limit h.bound hbudget
  have hused : (t.resource.used + bytes).toNat = t.resource.used.toNat + bytes.toNat :=
    toNat_add_of_lt (by omega)
  refine ⟨?_, ?_, ?_, ?_⟩
  · dsimp only
    rw [hused, h.used, ← hbytes]
    simp only [total, List.map_cons, List.sum_cons]
    omega
  · dsimp only
    rw [hused]
    exact hroom
  · have hone : (t.resource.allocationCount + 1).toNat = t.resource.allocationCount.toNat + 1 :=
      toNat_add_of_lt (below_counter hcount)
    dsimp only
    rw [hone, h.count, List.length_append, List.length_singleton]
  · dsimp only
    rw [toNat_add_of_lt (within_counter hcounter), h.bytes, List.map_append, List.sum_append,
      List.map_singleton, List.sum_singleton, hbytes]

/-- A live block is part of what is in use, so that its release does not wrap. -/
theorem released (h : t.Exact blocks) (hlive : block ∈ t.live) :
    block.bytes ≤ t.resource.used ∧
      (t.deallocate block).resource.used.toNat + block.bytes.toNat = t.resource.used.toNat := by
  have hsum := List.sum_map_erase (fun block : Block => block.bytes.toNat) hlive
  have hle : block.bytes ≤ t.resource.used := by
    rw [UInt64.le_iff_toNat_le, h.used, total, ← hsum]
    exact Nat.le_add_right _ _
  refine ⟨hle, ?_⟩
  have hsub : (t.deallocate block).resource.used.toNat = _ := UInt64.toNat_sub_of_le _ _ hle
  rw [hsub]
  exact Nat.sub_add_cancel (UInt64.le_iff_toNat_le.mp hle)

/-- A live block is part of the use, so taking it away does not wrap. -/
theorem deallocate (h : t.Exact blocks) (hlive : block ∈ t.live) :
    (t.deallocate block).Exact blocks := by
  obtain ⟨-, hused⟩ := h.released hlive
  have hsum := List.sum_map_erase (fun block : Block => block.bytes.toNat) hlive
  have htotal : (t.deallocate block).total + block.bytes.toNat = t.total :=
    (Nat.add_comm _ _).trans hsum
  have hbefore := h.used
  have hbound := h.bound
  exact ⟨by omega, by omega, h.count, h.bytes⟩

end Exact

/-! ## Runs -/

namespace Run

variable {visited : List Account}

/-- In every run the accounts are exact, refusals and deallocations included. -/
theorem exact (h : Run visited blocks t) : t.Exact blocks := by
  induction h with
  | start => exact .start
  | granted _ hgrant ih => exact ih.granted hgrant
  | refused _ hrefuse ih => exact allocate_error hrefuse ▸ ih
  | deallocate _ hlive ih => exact ih.deallocate hlive

/-- The last account of a run is one of those on the way. -/
theorem mem_visited (h : Run visited blocks t) : t ∈ visited := by
  cases h with
  | start => exact List.mem_singleton_self _
  | granted _ _ => exact List.mem_concat_self
  | refused _ _ => exact List.mem_concat_self
  | deallocate _ _ => exact List.mem_concat_self

theorem below_concat {peak : UInt64} (h : ∀ s ∈ visited, s.resource.used ≤ peak)
    (ht : t.resource.used ≤ peak) : ∀ s ∈ visited ++ [t], s.resource.used ≤ peak :=
  List.forall_mem_append.mpr ⟨h, List.forall_mem_singleton.mpr ht⟩

/-- The peak is the budget in use of some account on the way, and of none less. -/
theorem peak (h : Run visited blocks t) :
    (∀ s ∈ visited, s.resource.used ≤ t.resource.peak) ∧
      ∃ s ∈ visited, s.resource.used = t.resource.peak := by
  induction h with
  | start =>
    exact ⟨List.forall_mem_singleton.mpr (UInt64.le_refl _), {}, List.mem_singleton_self _, rfl⟩
  | @granted visited blocks t t' block heap bytes alignment h hgrant ih =>
    obtain ⟨habove, s, hs, hpeak⟩ := ih
    obtain ⟨-, -, -, -, ht⟩ := allocate_ok hgrant
    have hnext : t'.resource.peak = max t'.resource.used t.resource.peak := by rw [ht]
    rw [hnext]
    rcases max_cases t'.resource.used t.resource.peak with ⟨hle, hmax⟩ | ⟨hle, hmax⟩
    · -- the peak stays
      rw [hmax]
      exact ⟨below_concat habove hle, s, List.mem_append_left _ hs, hpeak⟩
    · -- a new peak
      rw [hmax]
      have hold : ∀ u ∈ visited, u.resource.used ≤ t'.resource.used :=
        fun u hu => UInt64.le_trans (habove u hu) hle
      exact ⟨below_concat hold (UInt64.le_refl _), t', List.mem_concat_self, rfl⟩
  | refused h hrefuse ih =>
    obtain ⟨habove, s, hs, hpeak⟩ := ih
    rw [allocate_error hrefuse]
    exact ⟨below_concat habove (habove _ h.mem_visited), s, List.mem_append_left _ hs, hpeak⟩
  | @deallocate visited blocks t block h hlive ih =>
    obtain ⟨habove, s, hs, hpeak⟩ := ih
    have hless : (t.deallocate block).resource.used ≤ t.resource.used :=
      UInt64.le_iff_toNat_le.mpr ((h.exact.released hlive).2 ▸ Nat.le_add_right _ _)
    have hlast := UInt64.le_trans hless (habove t h.mem_visited)
    exact ⟨below_concat habove hlast, s, List.mem_append_left _ hs, hpeak⟩

/-- The budget is exact in every account that allocations and releases reach. -/
theorem budget_exact (h : Run visited blocks t) :
    (t.resource.used.toNat = t.total ∧ t.resource.used.toNat ≤ 8 * 1024 * 1024) ∧
      (∀ block ∈ t.live, block.bytes ≤ t.resource.used ∧
        (t.deallocate block).resource.used.toNat + block.bytes.toNat = t.resource.used.toNat) ∧
      ((∀ s ∈ visited, s.resource.used ≤ t.resource.peak) ∧
        ∃ s ∈ visited, s.resource.used = t.resource.peak) ∧
      t.resource.allocationCount.toNat = blocks.length ∧
      t.resource.allocatedBytes.toNat = (blocks.map fun block => block.bytes.toNat).sum ∧
      ∀ (heap : Option UInt64) (bytes alignment : UInt64) (refusal : Refusal) (t' : Account),
        t.allocate heap bytes alignment = (.error refusal, t') → t' = t :=
  ⟨⟨h.exact.used, h.exact.bound⟩, fun _ hlive => h.exact.released hlive, h.peak, h.exact.count,
    h.exact.bytes, fun _ _ _ _ _ hrefuse => allocate_error hrefuse⟩

/-- All of the budget in one block, one byte more refused, and the block released. -/
theorem budget_exact_full :
    let block : Block := ⟨4096, 8388608, 16⟩
    let full : Account := ⟨⟨8388608, 8388608, 1, 8388608⟩, [block]⟩
    let released : Account := ⟨⟨0, 8388608, 1, 8388608⟩, []⟩
    Run [{}, full, full, released] [block] released ∧
      (released.resource.used.toNat = released.total ∧
        released.resource.used.toNat ≤ 8 * 1024 * 1024) ∧
      released.resource.allocationCount.toNat = [block].length := by
  intro block full released
  have hgrant : ({} : Account).allocate (some 4096) 8388608 16 = (.ok block, full) := by decide
  have hrefuse : full.allocate (some 8192) 1 16 = (.error .budget, full) := by decide
  have hrelease : full.deallocate block = released := by decide
  have hrun : Run [{}, full, full, released] [block] released :=
    hrelease ▸ Run.deallocate (.refused (.granted .start hgrant) hrefuse) (List.mem_singleton_self _)
  obtain ⟨hused, -, -, hcount, -⟩ := budget_exact hrun
  exact ⟨hrun, hused, hcount⟩

end Run

end Account

end FluidGateway.Native
