import FluidGateway.RuntimeOptimizer
import FluidGateway.Lib.Provenance
import FluidGateway.Lib.Resolution

/-!
# The reference optimizer as a provenance ledger

The Python state remembers one transfer for each target in a dictionary.  It is
an instance of the same abstract ledger as the native engine: `process` and
`releaseResource` are ledger steps.  Its dictionaries of replacements and
removed ids form the same kind of table of flattened lists.
-/

namespace FluidGateway.Runtime

open KeyedMap Provenance

/-- The memory that a resource names, and its aliases there. -/
abbrev View := MemoryLayer × List String

/-- What two resources are compared by when a write through one is to reach the other. -/
def RuntimeResource.view (r : RuntimeResource) : View := (r.memory, r.aliases)

/-- The reference optimizer as a ledger: two resources share when they have the memory and a
name in common, and a transfer reads its source. -/
def machine : Machine String View RuntimeOperation where
  shares a b := a.1 = b.1 ∧ ∃ name ∈ a.2, name ∈ b.2
  source op := op.source

/-- Sharing a name is symmetric; the walk over aliases may start at either end. -/
theorem shares_symm {a b : View} (h : machine.shares a b) : machine.shares b a := by
  obtain ⟨hmemory, name, ha, hb⟩ := h
  exact ⟨hmemory.symm, name, hb, ha⟩

namespace ResourceTable

/-- A resource is found under its id after it was registered. -/
@[simp] theorem get_insert (resources : ResourceTable) (r : RuntimeResource) :
    (resources.insert r).get r.id = some r :=
  AList.lookup_insert _

/-- Registering a resource leaves the others as they are. -/
theorem get_insert_ne (resources : ResourceTable) (r : RuntimeResource) {id : String}
    (h : id ≠ r.id) : (resources.insert r).get id = resources.get id :=
  AList.lookup_insert_ne h

/-- A resource is gone after it was released. -/
@[simp] theorem get_pop (resources : ResourceTable) (id : String) :
    (resources.pop id).get id = none :=
  AList.lookup_erase _ _

/-- Releasing a resource leaves the others as they are. -/
theorem get_pop_ne (resources : ResourceTable) {id k : String} (h : k ≠ id) :
    (resources.pop id).get k = resources.get k :=
  AList.lookup_erase_ne h

/-- `in` asks whether the table has an entry. -/
theorem contains_iff (resources : ResourceTable) (id : String) :
    resources.contains id = true ↔ resources.get id ≠ none := by
  unfold contains
  rw [Option.isSome_iff_ne_none]

/-- The ids that the values of the dictionary carry are its keys. -/
theorem mem_ids_iff (resources : ResourceTable) (id : String) :
    id ∈ resources.values.map RuntimeResource.id ↔ resources.get id ≠ none := by
  unfold values
  rw [List.map_map, List.mem_map]
  constructor
  · intro h
    obtain ⟨⟨k, r⟩, hentry, rfl⟩ := h
    have hlook := mem_entries_iff.mp hentry
    have hk : r.id = k := resources.keyed k r hlook
    change resources.get r.id ≠ none
    rw [hk, get, hlook]
    simp
  · intro h
    obtain ⟨r, hr⟩ := Option.ne_none_iff_exists'.mp h
    exact ⟨⟨id, r⟩, mem_entries_iff.mpr hr, resources.keyed id r hr⟩

end ResourceTable

/-- The comparison of two alias lists in the same memory is the sharing of the ledger. -/
theorem aliasesMeet_iff {a b : RuntimeResource} (hmemory : a.memory = b.memory) :
    aliasesMeet a b = true ↔ machine.shares a.view b.view := by
  simp [aliasesMeet, machine, RuntimeResource.view, hmemory]

namespace RuntimeOptimizationState

/-- Registered ids with their views, and the last executed transfer that is
still remembered for each. -/
def ledger (s : RuntimeOptimizationState) : Ledger String View RuntimeOperation where
  res id := (s.resources.get id).map RuntimeResource.view
  copy id := s.lastCopyByTarget.lookup id

/-- The ledger knows the resources that are registered, and no others. -/
theorem ledger_res_eq_none {s : RuntimeOptimizationState} {id : String} :
    s.ledger.res id = none ↔ s.resources.get id = none :=
  Option.map_eq_none_iff

/-- What the ledger knows of a resource is its view. -/
theorem ledger_res (s : RuntimeOptimizationState) (id : String) :
    s.ledger.res id = (s.resources.get id).map RuntimeResource.view := rfl

/-- One step of the walk over aliases is one step of the ledger. -/
theorem joined_iff {s : RuntimeOptimizationState} {a b : String} :
    s.joined a b = true ↔ s.ledger.Adjacent machine a b := by
  unfold joined Ledger.Adjacent
  rw [ledger_res, ledger_res]
  cases s.resources.get a with
  | none => simp
  | some ra =>
      cases s.resources.get b with
      | none => simp
      | some rb =>
          simp only [Option.map_some, Option.some.injEq, Bool.and_eq_true, beq_iff_eq]
          constructor
          · intro h
            exact ⟨_, _, rfl, rfl, shares_symm ((aliasesMeet_iff h.1).mp h.2)⟩
          · intro h
            obtain ⟨_, _, rfl, rfl, h⟩ := h
            have hmemory : rb.memory = ra.memory := h.1.symm
            exact ⟨hmemory, (aliasesMeet_iff hmemory).mpr (shares_symm h)⟩

/-- What is linked to a registered id is registered. -/
theorem registered_of_linked {s : RuntimeOptimizationState} {a b : String}
    (ha : s.resources.get a ≠ none) (h : s.ledger.Linked machine a b) :
    s.resources.get b ≠ none := by
  cases h with
  | refl => exact ha
  | tail _ hstep =>
      obtain ⟨_, vb, -, hb, -⟩ := hstep
      intro hnone
      simp [ledger, hnone] at hb

/-- **The stack of pending ids finds exactly the linked resources.** -/
theorem mem_affected_iff {s : RuntimeOptimizationState} {id name : String}
    (hid : s.resources.get id ≠ none) :
    name ∈ s.affected id ↔ s.ledger.Linked machine id name := by
  have hflood : name ∈ s.affected id ↔
      Relation.ReflTransGen
        (Worklist.Joined s.joined (s.resources.values.map RuntimeResource.id)) id name :=
    Worklist.mem_flood_iff _ _ ((s.resources.mem_ids_iff id).mpr hid)
  have hstep : Worklist.Joined s.joined (s.resources.values.map RuntimeResource.id) =
      s.ledger.Adjacent machine := by
    funext a b
    refine propext ?_
    unfold Worklist.Joined
    rw [joined_iff, s.resources.mem_ids_iff]
    refine and_iff_left_of_imp ?_
    intro h
    obtain ⟨_, vb, -, hb, -⟩ := h
    intro hnone
    simp [ledger, hnone] at hb
  rw [hstep] at hflood
  exact hflood

/-! ## One lemma for each update -/

/-- Invalidation forgets transfers; it leaves the resources as they are. -/
@[simp] theorem invalidateResource_resources (s : RuntimeOptimizationState) (x : Option String) :
    (s.invalidateResource x).resources = s.resources := by
  unfold invalidateResource
  cases x with
  | none => rfl
  | some id => dsimp only; split <;> rfl

/-- Invalidation forgets transfers; it leaves the reusable buffers as they are. -/
@[simp] theorem invalidateResource_activeBuffers (s : RuntimeOptimizationState)
    (x : Option String) : (s.invalidateResource x).activeBuffers = s.activeBuffers := by
  unfold invalidateResource
  cases x with
  | none => rfl
  | some id => dsimp only; split <;> rfl

/-- The names that `process` has seen, with what is stored for each. -/
structure Names where
  replacements : Map String (List String)
  removedIds : Finset String
  operationIds : Finset String

/-- What the optimizer knows of names of operations. -/
def names (s : RuntimeOptimizationState) : Names :=
  ⟨s.replacements, s.removedIds, s.operationIds⟩

/-- Invalidation forgets transfers; it leaves the names of operations as they are. -/
@[simp] theorem invalidateResource_names (s : RuntimeOptimizationState) (x : Option String) :
    (s.invalidateResource x).names = s.names := by
  unfold invalidateResource
  cases x with
  | none => rfl
  | some id => dsimp only; split <;> rfl

/-- **Invalidation is the retirement of the ledger.** -/
theorem ledger_invalidate (s : RuntimeOptimizationState) (x : Option String) :
    (s.invalidateResource x).ledger = s.ledger.retire machine x := by
  ext k op
  · simp only [ledger, invalidateResource_resources, Ledger.retire]
  rw [s.ledger.retire_copy_iff machine]
  unfold invalidateResource
  cases x with
  | none =>
      refine iff_of_false (by simp [ledger]) ?_
      intro h
      exact h.2 (Or.inl (by intro y hy; cases hy))
  | some id =>
      dsimp only
      by_cases hid : s.resources.contains id = true
      · have hreg := (s.resources.contains_iff id).mp hid
        have hknown : s.ledger.res id ≠ none := mt ledger_res_eq_none.mp hreg
        rw [if_pos hid]
        simp only [ledger, lookup_keep, Option.filter_eq_some_iff]
        refine and_congr_right ?_
        intro _
        have hsource : (op.source.any fun source => decide (source ∈ s.affected id)) = true ↔
            ∃ t, machine.source op = some t ∧ s.ledger.res t ≠ none ∧
              s.ledger.Linked machine id t := by
          simp only [Option.any_eq_true, decide_eq_true_eq, mem_affected_iff hreg]
          constructor
          · intro h
            obtain ⟨t, ht, hlink⟩ := h
            exact ⟨t, ht, mt ledger_res_eq_none.mp (registered_of_linked hreg hlink), hlink⟩
          · intro h
            obtain ⟨t, ht, -, hlink⟩ := h
            exact ⟨t, ht, hlink⟩
        change _ ↔ ¬ s.ledger.Retires machine (some id) k op
        rw [s.ledger.retires_known machine hknown, ← hsource, ← mem_affected_iff hreg]
        simp
      · have hnone : s.ledger.res id = none := by
          rw [ledger_res_eq_none]
          by_contra hne
          exact hid ((s.resources.contains_iff id).mpr hne)
        rw [if_neg hid]
        refine iff_of_false (by simp [ledger]) ?_
        intro h
        exact h.2 (s.ledger.retires_unknown machine hnone k op)

/-- What is remembered is about known targets: a transfer under its own target,
an allocation under its own target and size, one for each target. -/
structure Valid (s : RuntimeOptimizationState) : Prop where
  copyTarget : ∀ {t op}, s.lastCopyByTarget.lookup t = some op →
    op.target = some t ∧ s.resources.get t ≠ none
  bufferKey : ∀ {key op}, s.activeBuffers.lookup key = some op →
    op.target = key.1 ∧ op.sizeMb = key.2
  bufferTarget : ∀ {key op}, s.activeBuffers.lookup key = some op →
    ∃ t, key.1 = some t ∧ s.resources.get t ≠ none
  bufferUnique : ∀ {t a b}, s.activeBuffers.lookup (t, a) ≠ none →
    s.activeBuffers.lookup (t, b) ≠ none → a = b

/-- A state stays valid when transfers are forgotten: those that are left were there before. -/
theorem Valid.invalidate {s : RuntimeOptimizationState} (hs : s.Valid) (x : Option String) :
    (s.invalidateResource x).Valid where
  copyTarget := by
    intro t op h
    have hcopy : (s.invalidateResource x).ledger.copy t = some op := h
    rw [ledger_invalidate, Ledger.retire_copy_iff] at hcopy
    rw [invalidateResource_resources]
    exact hs.copyTarget hcopy.1
  bufferKey := by
    intro key op h
    rw [invalidateResource_activeBuffers] at h
    exact hs.bufferKey h
  bufferTarget := by
    intro key op h
    rw [invalidateResource_activeBuffers] at h
    rw [invalidateResource_resources]
    exact hs.bufferTarget h
  bufferUnique := by
    intro t a b ha hb
    rw [invalidateResource_activeBuffers] at ha hb
    exact hs.bufferUnique ha hb

/-- A write makes the buffers with its target unusable, and no others. -/
theorem dropBuffers_lookup (s : RuntimeOptimizationState) (target : Option String)
    (key : Option String × ℚ) :
    (s.dropBuffers target).activeBuffers.lookup key =
      if key.1 = target then none else s.activeBuffers.lookup key := by
  unfold dropBuffers
  rw [lookup_keep]
  cases s.activeBuffers.lookup key <;> by_cases hkey : key.1 = target <;> simp [hkey]

/-- A state stays valid when buffers are dropped. -/
theorem Valid.dropBuffers {s : RuntimeOptimizationState} (hs : s.Valid) (target : Option String) :
    (s.dropBuffers target).Valid := by
  have hold : ∀ {key}, (s.dropBuffers target).activeBuffers.lookup key ≠ none →
      (s.dropBuffers target).activeBuffers.lookup key = s.activeBuffers.lookup key := by
    intro key h
    rw [dropBuffers_lookup] at h ⊢
    split
    · rename_i hkey
      simp [hkey] at h
    · rfl
  refine ⟨hs.copyTarget, ?_, ?_, ?_⟩
  · intro key op h
    exact hs.bufferKey ((hold (by simp [h])).symm.trans h)
  · intro key op h
    exact hs.bufferTarget ((hold (by simp [h])).symm.trans h)
  · intro t a b ha hb
    exact hs.bufferUnique (hold ha ▸ ha) (hold hb ▸ hb)

/-- Releasing a resource is the release of the ledger: every view of its memory is
invalidated first. -/
theorem ledger_release (s : RuntimeOptimizationState) (id : String) :
    (s.releaseResource id).2.ledger = s.ledger.step machine (.release id) := by
  have hinv := s.ledger_invalidate (some id)
  have hcopy : ∀ k, (s.releaseResource id).2.ledger.copy k =
      (s.ledger.retire machine (some id)).copy k := by
    intro k
    rw [← hinv]
    rfl
  ext k v
  · by_cases hk : k = id
    · subst hk
      simp [ledger_res, releaseResource, Ledger.step]
    · have hres : (s.releaseResource id).2.resources.get k = s.resources.get k := by
        unfold releaseResource dropBuffers
        rw [invalidateResource_resources]
        exact ResourceTable.get_pop_ne _ hk
      simp only [Ledger.step, Function.update_of_ne hk, ledger_res, hres]
  · rw [hcopy]
    by_cases hk : k = id
    · subst hk
      -- the record of the released target itself is retired
      have hown := s.ledger.retires_self machine k v
      simp only [Ledger.step, Function.update_self, reduceCtorEq, iff_false]
      rw [s.ledger.retire_copy_iff machine]
      exact fun h => h.2 hown
    · simp [Ledger.step, Function.update_of_ne hk]

/-- Registering a new resource is the registration of the ledger. -/
theorem ledger_register {s : RuntimeOptimizationState} (hs : s.Valid) {r : RuntimeResource}
    (hnew : s.resources.get r.id = none) :
    ({ s with resources := s.resources.insert r } : RuntimeOptimizationState).ledger =
      s.ledger.step machine (.register r.id r.view) := by
  ext k v
  · by_cases hk : k = r.id
    · subst hk
      simp [ledger_res, Ledger.step]
    · simp [ledger_res, Ledger.step, Function.update_of_ne hk, ResourceTable.get_insert_ne _ _ hk]
  · by_cases hk : k = r.id
    · subst hk
      have hfree : s.lastCopyByTarget.lookup r.id = none := by
        by_contra hne
        obtain ⟨op, hop⟩ := Option.ne_none_iff_exists'.mp hne
        exact (hs.copyTarget hop).2 hnew
      simp [ledger, Ledger.step, hfree]
    · simp [ledger, Ledger.step, Function.update_of_ne hk]

/-- A state stays valid when a resource is registered under its own id. -/
theorem Valid.register {s : RuntimeOptimizationState} (hs : s.Valid) (r : RuntimeResource) :
    ({ s with resources := s.resources.insert r } : RuntimeOptimizationState).Valid := by
  have hkeep : ∀ {t}, s.resources.get t ≠ none → (s.resources.insert r).get t ≠ none := by
    intro t ht
    by_cases hr : t = r.id
    · subst hr
      simp
    · rwa [ResourceTable.get_insert_ne _ _ hr]
  refine ⟨?_, hs.bufferKey, ?_, hs.bufferUnique⟩
  · intro t op h
    exact ⟨(hs.copyTarget h).1, hkeep (hs.copyTarget h).2⟩
  · intro key op h
    obtain ⟨t, ht, hreg⟩ := hs.bufferTarget h
    exact ⟨t, ht, hkeep hreg⟩

/-- A state stays valid when a resource is released and what rested on it is forgotten. -/
theorem Valid.release {s : RuntimeOptimizationState} (hs : s.Valid) (id : String) :
    (s.releaseResource id).2.Valid := by
  have hclear := (hs.invalidate (some id)).dropBuffers (some id)
  have hres : ∀ {t}, t ≠ id →
      (s.releaseResource id).2.resources.get t = s.resources.get t := by
    intro t ht
    unfold releaseResource RuntimeOptimizationState.dropBuffers
    rw [invalidateResource_resources]
    exact ResourceTable.get_pop_ne _ ht
  refine ⟨?_, hclear.bufferKey, ?_, hclear.bufferUnique⟩
  · intro t op h
    have hcopy : (s.invalidateResource (some id)).ledger.copy t = some op := h
    rw [ledger_invalidate, Ledger.retire_copy_iff] at hcopy
    have ht : t ≠ id := by
      intro ht
      exact hcopy.2 (ht ▸ s.ledger.retires_self machine t op)
    rw [hres ht]
    exact hs.copyTarget hcopy.1
  · intro key op h
    have h' : ((s.invalidateResource (some id)).dropBuffers (some id)).activeBuffers.lookup key =
        some op := h
    obtain ⟨t, ht, -⟩ := hclear.bufferTarget h'
    rw [dropBuffers_lookup, invalidateResource_activeBuffers] at h'
    split at h'
    · cases h'
    · rename_i hkey
      have hne : t ≠ id := by
        intro heq
        exact hkey (by rw [ht, heq])
      obtain ⟨t', ht', hreg⟩ := hs.bufferTarget h'
      obtain rfl : t = t' := Option.some.inj (ht.symm.trans ht')
      exact ⟨t, ht, by rwa [hres hne]⟩

/-! ## Executed operations -/

/-- What an executed operation does to the ledger. -/
def effect (operation : RuntimeOperation) : Act String View RuntimeOperation :=
  if operation.type.transfers then .transfer operation.target operation
  else if operation.type.writes then .write operation.target
  else .pass

/-- The state in which an executed operation is remembered. -/
def cleared (s : RuntimeOptimizationState) (operation : RuntimeOperation) :
    RuntimeOptimizationState :=
  if operation.type.writes then s.invalidateResource operation.target else s

/-- What an operation clears is no resource. -/
@[simp] theorem cleared_resources (s : RuntimeOptimizationState) (operation : RuntimeOperation) :
    (s.cleared operation).resources = s.resources := by
  unfold cleared
  split <;> simp

/-- What an operation clears is no name of an operation. -/
@[simp] theorem cleared_names (s : RuntimeOptimizationState) (operation : RuntimeOperation) :
    (s.cleared operation).names = s.names := by
  unfold cleared
  split <;> simp

/-- What an operation clears of the buffers are those that it writes. -/
@[simp] theorem cleared_activeBuffers (s : RuntimeOptimizationState)
    (operation : RuntimeOperation) :
    (s.cleared operation).activeBuffers = s.activeBuffers := by
  unfold cleared
  split <;> simp

/-- Executing an operation is three things in this order: its write clears, a transfer is
remembered, a buffer is remembered. -/
theorem execute_eq (s : RuntimeOptimizationState) (operation : RuntimeOperation) :
    s.execute operation = ((s.cleared operation).rememberCopy operation).rememberBuffer operation :=
  rfl

/-- Remembering a buffer registers nothing. -/
@[simp] theorem rememberBuffer_resources (s : RuntimeOptimizationState)
    (operation : RuntimeOperation) : (s.rememberBuffer operation).resources = s.resources := by
  unfold rememberBuffer
  split <;> rfl

/-- Remembering a buffer names no operation. -/
@[simp] theorem rememberBuffer_names (s : RuntimeOptimizationState)
    (operation : RuntimeOperation) : (s.rememberBuffer operation).names = s.names := by
  unfold rememberBuffer
  split <;> rfl

/-- Remembering a buffer forgets no transfer. -/
@[simp] theorem rememberBuffer_lastCopy (s : RuntimeOptimizationState)
    (operation : RuntimeOperation) :
    (s.rememberBuffer operation).lastCopyByTarget = s.lastCopyByTarget := by
  unfold rememberBuffer
  split <;> rfl

/-- Remembering a transfer registers nothing. -/
@[simp] theorem rememberCopy_resources (s : RuntimeOptimizationState)
    (operation : RuntimeOperation) : (s.rememberCopy operation).resources = s.resources := by
  unfold rememberCopy
  cases operation.target with
  | none => rfl
  | some t => dsimp only; split <;> rfl

/-- Remembering a transfer names no operation. -/
@[simp] theorem rememberCopy_names (s : RuntimeOptimizationState)
    (operation : RuntimeOperation) : (s.rememberCopy operation).names = s.names := by
  unfold rememberCopy
  cases operation.target with
  | none => rfl
  | some t => dsimp only; split <;> rfl

/-- Remembering a transfer leaves the buffers as they are. -/
@[simp] theorem rememberCopy_activeBuffers (s : RuntimeOptimizationState)
    (operation : RuntimeOperation) :
    (s.rememberCopy operation).activeBuffers = s.activeBuffers := by
  unfold rememberCopy
  cases operation.target with
  | none => rfl
  | some t => dsimp only; split <;> rfl

/-- Executing an operation neither registers nor releases a resource. -/
@[simp] theorem execute_resources (s : RuntimeOptimizationState) (operation : RuntimeOperation) :
    (s.execute operation).resources = s.resources := by
  simp [execute_eq]

/-- Executing an operation names none: its name was taken when it was submitted. -/
@[simp] theorem execute_names (s : RuntimeOptimizationState) (operation : RuntimeOperation) :
    (s.execute operation).names = s.names := by
  simp [execute_eq]

/-- A transfer writes its target. -/
theorem writes_of_transfers {type : OperationType} (h : type.transfers = true) :
    type.writes = true := by
  cases type <;> first | rfl | cases h

/-- The remembered copies after `rememberCopy`. -/
theorem rememberCopy_lookup (s : RuntimeOptimizationState) (operation : RuntimeOperation)
    (t : String) :
    (s.rememberCopy operation).lastCopyByTarget.lookup t =
      if operation.type.transfers = true ∧ operation.target = some t ∧
          s.resources.get t ≠ none then some operation
      else s.lastCopyByTarget.lookup t := by
  unfold rememberCopy
  cases htarget : operation.target with
  | none => simp
  | some k =>
      dsimp only
      have hknown := s.resources.contains_iff k
      by_cases hremember : operation.type.transfers = true ∧ s.resources.contains k = true
      · rw [if_pos hremember]
        by_cases hk : t = k
        · subst hk
          rw [if_pos ⟨hremember.1, rfl, hknown.mp hremember.2⟩]
          exact AList.lookup_insert _
        · rw [if_neg (by intro h; exact hk (Option.some.inj h.2.1).symm)]
          exact AList.lookup_insert_ne hk
      · rw [if_neg hremember, if_neg]
        intro h
        obtain rfl : k = t := Option.some.inj h.2.1
        exact hremember ⟨h.1, hknown.mpr h.2.2⟩

/-- **An executed operation is one step of the ledger.** -/
theorem ledger_execute (s : RuntimeOptimizationState) (operation : RuntimeOperation) :
    (s.execute operation).ledger = s.ledger.step machine (effect operation) := by
  have hcopy : ∀ k, (s.execute operation).ledger.copy k =
      if operation.type.transfers = true ∧ operation.target = some k ∧ s.resources.get k ≠ none
      then some operation else (s.cleared operation).ledger.copy k := by
    intro k
    have hlook := (s.cleared operation).rememberCopy_lookup operation k
    rw [cleared_resources] at hlook
    change (s.execute operation).lastCopyByTarget.lookup k = _
    rw [execute_eq, rememberBuffer_lastCopy, hlook]
    rfl
  have hcleared : (s.cleared operation).ledger =
      if operation.type.writes then s.ledger.retire machine operation.target else s.ledger := by
    unfold cleared
    split
    · exact s.ledger_invalidate operation.target
    · rfl
  ext k v
  · rw [ledger_res, execute_resources, ← ledger_res]
    unfold effect
    split_ifs <;> rfl
  · rw [hcopy, hcleared]
    unfold effect
    by_cases ht : operation.type.transfers = true
    · rw [if_pos ht, if_pos (writes_of_transfers ht)]
      simp only [Ledger.step, ht, true_and, ne_eq, ledger_res_eq_none]
    · rw [if_neg ht]
      simp only [ht, false_and, Bool.false_eq_true, if_false]
      split_ifs <;> rfl

/-- The remembered allocations after an executed operation. -/
theorem execute_buffers (s : RuntimeOptimizationState) (operation : RuntimeOperation)
    (key : Option String × ℚ) :
    (s.execute operation).activeBuffers.lookup key =
      if operation.type = .allocate ∧ s.knows operation.target = true ∧
          key.1 = operation.target then
        if key.2 = operation.sizeMb then some operation else none
      else s.activeBuffers.lookup key := by
  have hres : ((s.cleared operation).rememberCopy operation).resources = s.resources := by simp
  have hbuffers : ((s.cleared operation).rememberCopy operation).activeBuffers =
      s.activeBuffers := by simp
  rw [execute_eq]
  generalize (s.cleared operation).rememberCopy operation = q at hres hbuffers ⊢
  have hknows : q.knows operation.target = s.knows operation.target := by
    simp [knows, hres]
  unfold rememberBuffer
  rw [hknows]
  obtain ⟨target, size⟩ := key
  by_cases hremember : operation.type = .allocate ∧ s.knows operation.target = true
  · rw [if_pos hremember]
    dsimp only
    by_cases hkey : target = operation.target
    · rw [if_pos ⟨hremember.1, hremember.2, hkey⟩]
      by_cases hsize : size = operation.sizeMb
      · rw [if_pos hsize, hkey, hsize]
        exact AList.lookup_insert _
      · have hne : (target, size) ≠ (operation.target, operation.sizeMb) := by
          intro h
          exact hsize (congrArg Prod.snd h)
        rw [if_neg hsize, AList.lookup_insert_ne hne, dropBuffers_lookup, if_pos hkey]
    · have hne : (target, size) ≠ (operation.target, operation.sizeMb) := by
        intro h
        exact hkey (congrArg Prod.fst h)
      rw [if_neg (fun h => hkey h.2.2), AList.lookup_insert_ne hne, dropBuffers_lookup,
        if_neg hkey, hbuffers]
  · rw [if_neg hremember, if_neg (fun h => hremember ⟨h.1, h.2.1⟩), hbuffers]

/-- An operation has a known target when it names one and that is registered. -/
theorem knows_iff (s : RuntimeOptimizationState) (target : Option String) :
    s.knows target = true ↔ ∃ t, target = some t ∧ s.resources.get t ≠ none := by
  simp [knows, Option.any_eq_true, s.resources.contains_iff]

/-- A state stays valid when an operation is executed: it stays valid through clearing and
remembering. -/
theorem Valid.execute {s : RuntimeOptimizationState} (hs : s.Valid)
    (operation : RuntimeOperation) : (s.execute operation).Valid := by
  refine ⟨?_, ?_, ?_, ?_⟩
  · intro t op h
    rw [execute_resources]
    have hcopy : (s.execute operation).ledger.copy t = some op := h
    rw [ledger_execute, Ledger.step_copy_iff] at hcopy
    rcases hcopy with ⟨hnew, hreg⟩ | ⟨hold, -⟩
    · unfold effect at hnew
      split_ifs at hnew
      rw [Act.transfer.injEq] at hnew
      exact ⟨hnew.2 ▸ hnew.1, mt ledger_res_eq_none.mpr hreg⟩
    · exact hs.copyTarget hold
  · intro key op h
    rw [execute_buffers] at h
    split_ifs at h with hnow hsize
    · obtain rfl := Option.some.inj h
      exact ⟨hnow.2.2.symm, hsize.symm⟩
    · exact hs.bufferKey h
  · intro key op h
    rw [execute_resources]
    rw [execute_buffers] at h
    split_ifs at h with hnow hsize
    · obtain ⟨t, ht, hreg⟩ := (s.knows_iff _).mp hnow.2.1
      exact ⟨t, hnow.2.2.trans ht, hreg⟩
    · exact hs.bufferTarget h
  · intro t a b ha hb
    rw [execute_buffers] at ha hb
    split_ifs at ha with hnow ha'
    · rw [if_pos hnow] at hb
      split_ifs at hb with hb'
      · exact ha'.trans hb'.symm
      · exact absurd rfl hb
    · exact absurd rfl ha
    · rw [if_neg hnow] at hb
      exact hs.bufferUnique ha hb

end RuntimeOptimizationState

end FluidGateway.Runtime
