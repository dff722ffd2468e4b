import FluidGateway.NativeCore
import FluidGateway.Lib.Provenance

/-!
# The native state as a provenance ledger

What `State` remembers about transfers is an instance of the abstract ledger:
the keys are resource ids, a view is a memory layer with its alias names, and
the record of a resource is the operation its `copy` pointer leads to.

Every call is one ledger step (`call_ledger`), so a run of calls is a ledger
run (`run_ledger`).  The cases of `State.process` are collected once in
`Processed`; the invariants of the session state are then read off from it.
-/

namespace FluidGateway.Native

open KeyedMap Provenance

/-- What two resources must have in common to share storage. -/
abbrev View := UInt8 × List Text

/-- What decides whether two resources share storage. -/
def Resource.view (r : Resource) : View := (r.memory, r.aliases)

/-- The engine as a machine of the library: resources share storage through a common alias,
and an operation has one source. -/
def machine : Machine Text View StoredOperation where
  shares a b := a.1 = b.1 ∧ ∃ name ∈ a.2, name ∈ b.2
  source op := some op.source

/-- The engine's test for a common alias is the sharing of the machine. -/
theorem aliasesIntersect_iff {a b : Resource} :
    aliasesIntersect a b = true ↔ machine.shares a.view b.view := by
  simp [aliasesIntersect, machine, Resource.view]

namespace State

/-- Registered ids with their views, and the transfer each one remembers. -/
def ledger (s : State) : Ledger Text View StoredOperation where
  res id := (s.resources.lookup id).map Resource.view
  copy id := (s.resources.lookup id).bind fun r => s.deref r.copy

/-- Both ids are registered and the two resources share an alias in the same
memory layer. -/
def Adjacent (s : State) (a b : Text) : Prop :=
  ∃ ra rb, s.resources.lookup a = some ra ∧ s.resources.lookup b = some rb ∧
    aliasesIntersect ra rb = true

/-- Connected through any chain of registered resources. -/
def Connected (s : State) : Text → Text → Prop :=
  Relation.ReflTransGen s.Adjacent

/-- The ledger knows the resources that the state has, and no others. -/
theorem ledger_res_eq_none {s : State} {id : Text} :
    s.ledger.res id = none ↔ s.resources.lookup id = none :=
  Option.map_eq_none_iff

/-- Two identities are neighbours in the ledger where they are in the state. -/
theorem ledger_adjacent {s : State} {a b : Text} :
    s.ledger.Adjacent machine a b ↔ s.Adjacent a b := by
  constructor
  · intro h
    obtain ⟨va, vb, ha, hb, hs⟩ := h
    obtain ⟨ra, hra, rfl⟩ := Option.map_eq_some_iff.mp ha
    obtain ⟨rb, hrb, rfl⟩ := Option.map_eq_some_iff.mp hb
    exact ⟨ra, rb, hra, hrb, aliasesIntersect_iff.mpr hs⟩
  · intro h
    obtain ⟨ra, rb, hra, hrb, hs⟩ := h
    exact ⟨ra.view, rb.view, by simp [ledger, hra], by simp [ledger, hrb],
      aliasesIntersect_iff.mp hs⟩

/-- Two identities are linked in the ledger where a chain connects them in the state. -/
theorem ledger_linked {s : State} {a b : Text} :
    s.ledger.Linked machine a b ↔ s.Connected a b := by
  have hadj : s.ledger.Adjacent machine = s.Adjacent := by
    funext a b
    exact propext ledger_adjacent
  unfold Ledger.Linked Connected
  rw [hadj]

/-- **The alias walk of `invalidate` finds exactly the connected resources.** -/
theorem mem_affected_iff {s : State} {id name : Text} {first : Resource}
    (hfirst : s.resources.lookup id = some first) :
    name ∈ (s.affected id first).map Sigma.fst ↔ s.Connected id name := by
  have hall : ∀ b : Σ _ : Text, Resource,
      b ∈ ⟨id, first⟩ :: s.resources.entries.filter (fun entry => entry.1 ≠ id) ↔
        s.resources.lookup b.1 = some b.2 := by
    intro b
    obtain ⟨k, r⟩ := b
    rw [List.mem_cons, List.mem_filter, mem_entries_iff]
    by_cases hk : k = id
    · subst hk
      simp [hfirst, eq_comm]
    · simp [hk]
  have hwalk : ∀ x, x ∈ s.affected id first ↔
      Relation.ReflTransGen (Worklist.Joined (fun a b => aliasesIntersect a.2 b.2)
        (⟨id, first⟩ :: s.resources.entries.filter (fun entry => entry.1 ≠ id)))
        ⟨id, first⟩ x := fun x => Worklist.mem_grow_iff _
  simp only [List.mem_map, hwalk]
  constructor
  · intro h
    obtain ⟨x, hx, rfl⟩ := h
    suffices hgo : s.Connected id x.1 ∧ s.resources.lookup x.1 = some x.2 from hgo.1
    induction hx with
    | refl => exact ⟨.refl, hfirst⟩
    | @tail u v _ huv ih =>
        have hv := (hall v).mp huv.2
        exact ⟨ih.1.tail ⟨u.2, v.2, ih.2, hv, huv.1⟩, hv⟩
  · intro h
    suffices hgo : ∃ r, s.resources.lookup name = some r ∧
        Relation.ReflTransGen (Worklist.Joined (fun a b => aliasesIntersect a.2 b.2)
          (⟨id, first⟩ :: s.resources.entries.filter (fun entry => entry.1 ≠ id)))
          ⟨id, first⟩ ⟨name, r⟩ by
      obtain ⟨r, -, hr⟩ := hgo
      exact ⟨⟨name, r⟩, hr, rfl⟩
    induction h with
    | refl => exact ⟨first, hfirst, .refl⟩
    | @tail u v _ huv ih =>
        obtain ⟨ru, hu, hpath⟩ := ih
        obtain ⟨ru', rv, hu', hv, hs⟩ := huv
        obtain rfl : ru = ru' := Option.some.inj (hu.symm.trans hu')
        exact ⟨rv, hv, hpath.tail ⟨hs, (hall ⟨v, rv⟩).mpr hv⟩⟩

/-! ## One lemma for each update -/

/-- Invalidating a resource forgets pointers to operations and no operation. -/
@[simp] theorem invalidate_operations (s : State) (id : Text) :
    (s.invalidate id).operations = s.operations := by
  unfold invalidate
  split <;> rfl

/-- Invalidating a resource does not touch the frame. -/
@[simp] theorem invalidate_currentFrame (s : State) (id : Text) :
    (s.invalidate id).currentFrame = s.currentFrame := by
  unfold invalidate
  split <;> rfl

/-- Invalidation only forgets `copy` pointers, those that the ledger retires. -/
theorem lookup_invalidate (s : State) (id k : Text) :
    ∃ keep : Resource → Bool,
      (s.invalidate id).resources.lookup k =
        (s.resources.lookup k).map (fun r => { r with copy := if keep r then r.copy else none }) ∧
      ∀ r op, s.resources.lookup k = some r → s.deref r.copy = some op →
        (keep r = true ↔ ¬ s.ledger.Retires machine (some id) k op) := by
  unfold invalidate
  cases hid : s.resources.lookup id with
  | none =>
      refine ⟨fun _ => false, by simp, ?_⟩
      intro r op _ _
      have hunknown := s.ledger.retires_unknown machine (ledger_res_eq_none.mpr hid) k op
      simp [hunknown]
  | some first =>
      have hknown : s.ledger.res id ≠ none := by
        intro h
        rw [ledger_res_eq_none.mp h] at hid
        cases hid
      refine ⟨fun r => (s.deref r.copy).all fun op =>
        !decide (k ∈ (s.affected id first).map Sigma.fst ∨
          (s.resources.lookup op.source ≠ none ∧
            op.source ∈ (s.affected id first).map Sigma.fst)), ?_, ?_⟩
      · rw [lookup_mapVal]
        congr 1
        funext r
        beta_reduce
        cases hr : s.deref r.copy with
        | none => rfl
        | some op =>
            simp only [Option.all_some, Bool.not_eq_true', decide_eq_false_iff_not, ite_not]
            split <;> rfl
      · intro r op _ hop
        simp only [hop, Option.all_some, mem_affected_iff hid, Bool.not_eq_true',
          decide_eq_false_iff_not]
        refine not_congr ?_
        rw [s.ledger.retires_known machine hknown, ledger_linked]
        refine or_congr_right ?_
        constructor
        · intro h
          exact ⟨op.source, rfl, mt ledger_res_eq_none.mp h.1, ledger_linked.mpr h.2⟩
        · intro h
          obtain ⟨source, hsource, hres, hlink⟩ := h
          cases hsource
          exact ⟨mt ledger_res_eq_none.mpr hres, ledger_linked.mp hlink⟩

/-- **Invalidation is the retirement of the ledger.** -/
theorem ledger_invalidate (s : State) (id : Text) :
    (s.invalidate id).ledger = s.ledger.retire machine (some id) := by
  have hderef : (s.invalidate id).deref = s.deref := by
    funext p
    simp [deref]
  ext k v
  · obtain ⟨keep, hlook, -⟩ := s.lookup_invalidate id k
    simp only [ledger, hlook, Ledger.retire, Option.map_map]
    rfl
  · obtain ⟨keep, hlook, hkeep⟩ := s.lookup_invalidate id k
    rw [s.ledger.retire_copy_iff machine]
    simp only [ledger, hlook, hderef]
    cases hk : s.resources.lookup k with
    | none => simp
    | some r =>
        simp only [Option.map_some, Option.bind_some]
        by_cases hr : keep r = true
        · rw [if_pos hr]
          exact ⟨fun h => ⟨h, (hkeep r v hk h).mp hr⟩, fun h => h.1⟩
        · rw [if_neg hr]
          refine iff_of_false (by simp [deref]) ?_
          intro h
          exact hr ((hkeep r v hk h.1).mpr h.2)

/-- Releasing a resource is the release of the ledger: transfers from and to all that share
its storage are forgotten. -/
theorem ledger_release (s : State) (id : Text) :
    (s.releaseResource id).ledger = s.ledger.step machine (.release id) := by
  have hinv := s.ledger_invalidate id
  ext k v
  · by_cases hk : k = id
    · subst hk
      simp [ledger, releaseResource, Ledger.step]
    · have hres := congrArg (fun L => L.res k) hinv
      simp only [ledger, Ledger.retire] at hres
      simp [ledger, releaseResource, Ledger.step, Function.update_of_ne hk,
        AList.lookup_erase_ne hk, hres]
  · by_cases hk : k = id
    · subst hk
      simp [ledger, releaseResource, Ledger.step]
    · have hcopy := congrArg (fun L => L.copy k) hinv
      simp only [ledger] at hcopy
      simp only [ledger, releaseResource, Ledger.step, Function.update_of_ne hk,
        AList.lookup_erase_ne hk]
      rw [← hcopy]
      rfl

/-- Registering a resource changes its entry in the ledger and no other. -/
theorem ledger_register (s : State) (id : Text) (memory : UInt8) (aliases : List Text) :
    ({ s with resources := s.resources.insert id { aliases, memory } } : State).ledger =
      s.ledger.step machine (.register id (memory, aliases)) := by
  ext k v
  · by_cases hk : k = id
    · subst hk
      simp [ledger, Ledger.step, Resource.view]
    · simp [ledger, Ledger.step, Function.update_of_ne hk, AList.lookup_insert_ne hk]
  · by_cases hk : k = id
    · subst hk
      simp [ledger, Ledger.step, deref]
    · simp only [ledger, Ledger.step, Function.update_of_ne hk, AList.lookup_insert_ne hk]
      rfl

/-! ## Pointers lead to recorded operations -/

/-- The pointer leads to an executed operation with this target. -/
def Points (s : State) (target p : Text) : Prop :=
  ∃ op, s.operations.lookup p = some op ∧ op.eliminated = false ∧ op.target = target

/-- An operation is recorded under its own id, and every pointer of a resource
leads to an executed operation into that resource. -/
structure Valid (s : State) : Prop where
  key : ∀ {id op}, s.operations.lookup id = some op → op.id = id
  copy : ∀ {t r p}, s.resources.lookup t = some r → r.copy = some p → s.Points t p
  allocation : ∀ {t r p}, s.resources.lookup t = some r → r.allocation = some p → s.Points t p

/-- Recording a new operation leaves every pointer where it was. -/
theorem deref_record {s : State} {t p : Text} {op : StoredOperation}
    (hfresh : s.operations.lookup op.id = none) (hp : s.Points t p) :
    (s.record op).deref (some p) = s.deref (some p) := by
  obtain ⟨q, hq, -⟩ := hp
  have hne : p ≠ op.id := by
    intro h
    rw [h, hfresh] at hq
    cases hq
  simp [deref, record, AList.lookup_insert_ne hne]

/-- A pointer still points at its operation when another one is recorded. -/
theorem Points.record {s : State} {t p : Text} {op : StoredOperation}
    (hfresh : s.operations.lookup op.id = none) (hp : s.Points t p) :
    (s.record op).Points t p := by
  have hsame := deref_record hfresh hp
  obtain ⟨q, hq, hrest⟩ := hp
  exact ⟨q, by simpa [deref, hq] using hsame, hrest⟩

/-- Recording an operation that no pointer names yet leaves the ledger as it is. -/
theorem ledger_record {s : State} (hs : s.Valid) (op : StoredOperation)
    (hfresh : s.operations.lookup op.id = none) : (s.record op).ledger = s.ledger := by
  ext k v
  · rfl
  · simp only [ledger, record]
    cases hk : s.resources.lookup k with
    | none => simp
    | some r =>
        simp only [Option.bind_some]
        cases hp : r.copy with
        | none => rfl
        | some p =>
            have hsame := deref_record hfresh (hs.copy hk hp)
            rw [← hsame]
            rfl

/-- A state stays valid when an operation with a new identity is recorded. -/
theorem Valid.record {s : State} (hs : s.Valid) (op : StoredOperation)
    (hfresh : s.operations.lookup op.id = none) : (s.record op).Valid where
  key := by
    intro id q hq
    by_cases hid : id = op.id
    · subst hid
      rw [State.record, AList.lookup_insert, Option.some.injEq] at hq
      exact hq ▸ rfl
    · rw [State.record, AList.lookup_insert_ne hid] at hq
      exact hs.key hq
  copy := fun hr hp => (hs.copy hr hp).record hfresh
  allocation := fun hr hp => (hs.allocation hr hp).record hfresh

/-- A state stays valid when pointers are forgotten. -/
theorem Valid.invalidate {s : State} (hs : s.Valid) (id : Text) : (s.invalidate id).Valid where
  key := by
    intro k op hop
    rw [invalidate_operations] at hop
    exact hs.key hop
  copy := by
    intro t r p hr hp
    obtain ⟨keep, hlook, -⟩ := s.lookup_invalidate id t
    rw [hlook, Option.map_eq_some_iff] at hr
    obtain ⟨q, hq, rfl⟩ := hr
    have hcopy : q.copy = some p := by
      by_cases hk : keep q = true
      · simpa [hk] using hp
      · simp [hk] at hp
    simpa [Points] using hs.copy hq hcopy
  allocation := by
    intro t r p hr hp
    obtain ⟨keep, hlook, -⟩ := s.lookup_invalidate id t
    rw [hlook, Option.map_eq_some_iff] at hr
    obtain ⟨q, hq, rfl⟩ := hr
    simpa [Points] using hs.allocation hq hp

/-- A state stays valid when a resource is released. -/
theorem Valid.release {s : State} (hs : s.Valid) (id : Text) : (s.releaseResource id).Valid := by
  have hinv := hs.invalidate id
  have hold : ∀ {t r}, (s.releaseResource id).resources.lookup t = some r →
      (s.invalidate id).resources.lookup t = some r := by
    intro t r hr
    by_cases ht : t = id
    · subst ht
      simp [releaseResource] at hr
    · rwa [releaseResource, AList.lookup_erase_ne ht] at hr
  exact ⟨hinv.key, fun hr hp => hinv.copy (hold hr) hp, fun hr hp => hinv.allocation (hold hr) hp⟩

/-- A state stays valid when a resource is registered; it remembers nothing yet. -/
theorem Valid.register {s : State} (hs : s.Valid) (id : Text) (memory : UInt8)
    (aliases : List Text) :
    ({ s with resources := s.resources.insert id { aliases, memory } } : State).Valid := by
  refine ⟨hs.key, ?_, ?_⟩
  · intro t r p hr hp
    by_cases ht : t = id
    · subst ht
      rw [AList.lookup_insert, Option.some.injEq] at hr
      subst hr
      cases hp
    · rw [AList.lookup_insert_ne ht] at hr
      exact hs.copy hr hp
  · intro t r p hr hp
    by_cases ht : t = id
    · subst ht
      rw [AList.lookup_insert, Option.some.injEq] at hr
      subst hr
      cases hp
    · rw [AList.lookup_insert_ne ht] at hr
      exact hs.allocation hr hp

/-! ## The effect of an executed operation -/

/-- What an executed operation does to the ledger, given its record. -/
def effect (op : Operation) (r : StoredOperation) : Act Text View StoredOperation :=
  if op.type = 1 ∨ op.type = 4 then .transfer (some op.target) r
  else if writes op.type then .write (some op.target)
  else .pass

/-- The two pointer updates that follow the invalidation. -/
def point (op : Operation) (name : Text) (r : Resource) : Resource :=
  if name = op.target then
    { r with
      copy := if op.type = 1 ∨ op.type = 4 then some op.id else r.copy
      allocation := if op.type = 3 then some op.id else r.allocation }
  else r

/-- The state in which the pointers are updated. -/
def cleared (s : State) (op : Operation) : State :=
  if writes op.type then s.invalidate op.target else s

/-- An executed operation first clears what its write makes stale, and then points the
target at itself. -/
theorem settle_eq (s : State) (op : Operation) :
    s.settle op =
      { s.cleared op with resources := mapVal (point op) (s.cleared op).resources } := rfl

/-- A resource afterwards is the one that was left by the clearing, with its pointers set if
it is the target. -/
theorem lookup_settle (s : State) (op : Operation) (k : Text) :
    (s.settle op).resources.lookup k = ((s.cleared op).resources.lookup k).map (point op k) := by
  rw [settle_eq]
  exact lookup_mapVal _ _ _

/-- Clearing forgets no operation. -/
@[simp] theorem cleared_operations (s : State) (op : Operation) :
    (s.cleared op).operations = s.operations := by
  unfold cleared
  split <;> simp

/-- Settling forgets no operation. -/
@[simp] theorem settle_operations (s : State) (op : Operation) :
    (s.settle op).operations = s.operations := by
  simp [settle_eq]

/-- Settling does not touch the frame. -/
@[simp] theorem settle_currentFrame (s : State) (op : Operation) :
    (s.settle op).currentFrame = s.currentFrame := by
  simp only [settle_eq, cleared]
  split <;> simp

/-- A copy and an upload write. -/
theorem writes_of_transfer {type : UInt8} (h : type = 1 ∨ type = 4) : writes type = true := by
  rcases h with rfl | rfl <;> rfl

/-- Clearing is the ledger's retirement of the target, for an operation that writes. -/
theorem ledger_cleared (s : State) (op : Operation) :
    (s.cleared op).ledger =
      if writes op.type then s.ledger.retire machine (some op.target) else s.ledger := by
  unfold cleared
  split
  · exact s.ledger_invalidate op.target
  · rfl

/-- **An executed operation is one step of the ledger.** -/
theorem ledger_settle {s : State} {op : Operation} {r : StoredOperation}
    (hr : s.operations.lookup op.id = some r) :
    (s.settle op).ledger = s.ledger.step machine (effect op r) := by
  have hderef : (s.settle op).deref = (s.cleared op).deref := rfl
  have hcleared := s.ledger_cleared op
  have hres : (s.settle op).ledger.res = s.ledger.res := by
    have hsame : (s.cleared op).ledger.res = s.ledger.res := by
      rw [hcleared]
      split <;> rfl
    rw [← hsame]
    funext k
    simp only [ledger, lookup_settle, Option.map_map]
    congr 1
    funext q
    simp only [Function.comp_apply, point]
    split <;> rfl
  by_cases ht : op.type = 1 ∨ op.type = 4
  · rw [if_pos (writes_of_transfer ht)] at hcleared
    ext k v
    · rw [hres]
      simp [effect, ht, Ledger.step]
    · have hcopy := congrArg (fun L => L.copy k) hcleared
      simp only [effect, if_pos ht, Ledger.step, Option.some.injEq]
      have hnone : s.ledger.res k = none ↔ (s.cleared op).resources.lookup k = none := by
        rw [← hres, ledger_res_eq_none, lookup_settle, Option.map_eq_none_iff]
      by_cases hk : op.target = k ∧ s.ledger.res k ≠ none
      · rw [if_pos hk]
        obtain ⟨q, hq⟩ := Option.ne_none_iff_exists'.mp (mt hnone.mpr hk.2)
        simp [ledger, lookup_settle, hq, point, hk.1, ht, deref, hr]
      · rw [if_neg hk, ← hcopy]
        simp only [ledger, lookup_settle, hderef]
        cases hq : (s.cleared op).resources.lookup k with
        | none => simp
        | some q =>
            have hne : ¬ k = op.target := by
              intro h
              refine hk ⟨h.symm, ?_⟩
              rw [ne_eq, hnone, hq]
              simp
            simp [point, hne]
  · have hstep : s.ledger.step machine (effect op r) = (s.cleared op).ledger := by
      rw [hcleared]
      simp only [effect, if_neg ht]
      split <;> rfl
    rw [hstep]
    ext k v
    · rw [hres, hcleared]
      split <;> rfl
    · simp only [ledger, lookup_settle, hderef]
      cases hq : (s.cleared op).resources.lookup k with
      | none => simp
      | some q =>
          have hsame : (point op k q).copy = q.copy := by
            simp only [point, if_neg ht]
            split <;> rfl
          simp [hsame]

/-- A state stays valid when an operation is settled whose record is there: the pointers
that are set name that record. -/
theorem Valid.settle {s : State} (hs : s.Valid) {op : Operation} (r : StoredOperation)
    (hr : s.operations.lookup op.id = some r) (hlive : r.eliminated = false)
    (htarget : r.target = op.target) : (s.settle op).Valid := by
  have hclear : (s.cleared op).Valid := by
    unfold cleared
    split
    · exact hs.invalidate op.target
    · exact hs
  have hnew : (s.settle op).Points op.target op.id :=
    ⟨r, by rw [settle_operations]; exact hr, hlive, htarget⟩
  have hold : ∀ {t p}, (s.cleared op).Points t p → (s.settle op).Points t p := id
  refine ⟨?_, ?_, ?_⟩
  · intro id q hq
    rw [settle_operations] at hq
    exact hs.key hq
  · intro t q p hq hp
    rw [lookup_settle, Option.map_eq_some_iff] at hq
    obtain ⟨q', hq', rfl⟩ := hq
    by_cases hnow : t = op.target ∧ (op.type = 1 ∨ op.type = 4)
    · obtain ⟨rfl, htype⟩ := hnow
      simp only [point, if_pos htype, if_true, Option.some.injEq] at hp
      exact hp ▸ hnew
    · have hsame : (point op t q').copy = q'.copy := by
        unfold point
        split
        · rename_i ht
          exact if_neg fun htype => hnow ⟨ht, htype⟩
        · rfl
      exact hold (hclear.copy hq' (hsame ▸ hp))
  · intro t q p hq hp
    rw [lookup_settle, Option.map_eq_some_iff] at hq
    obtain ⟨q', hq', rfl⟩ := hq
    by_cases hnow : t = op.target ∧ op.type = 3
    · obtain ⟨rfl, htype⟩ := hnow
      simp only [point, if_pos htype, if_true, Option.some.injEq] at hp
      exact hp ▸ hnew
    · have hsame : (point op t q').allocation = q'.allocation := by
        unfold point
        split
        · rename_i ht
          exact if_neg fun htype => hnow ⟨ht, htype⟩
        · rfl
      exact hold (hclear.allocation hq' (hsame ▸ hp))

end State

end FluidGateway.Native
