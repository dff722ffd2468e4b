import FluidGateway.EngineAgreement
import FluidGateway.Lib.CheckedArrays
import Mathlib.Tactic.Ring

/-!
# The loops of `State::invalidate`

The alias walk of `native/src/core.cpp` one loop iteration at a time, with its
two arrays of fixed length and its pointers.  Every access is checked, so that
an index outside an array or a pointer to no resource would be a fault.

Resources move from `remaining` to `affected`, and the gap is filled with the
last of those that remain, so what was compared with the pivot already stays in
front of `i` (`Sweeping`).  Both arrays together always hold every resource
once; this is also what keeps the indices in bounds.

`State.affected` is the same walk on lists.
-/

namespace FluidGateway.Native

open KeyedMap CheckedArrays Worklist Provenance

/-- The loop that runs next, with its variables. -/
inductive Point where
  | collect (rest : List Text)
  | walk (cursor : Nat)
  | scan (cursor i : Nat)
  | done
  deriving DecidableEq, Repr

/-- The local variables of `invalidate`.  A pointer to a resource is its id. -/
structure Locals where
  affected : Slots Text resourceLimit
  remaining : Slots Text resourceLimit
  count : Nat
  remainingCount : Nat
  point : Point

namespace State

/-- Follow a pointer to a resource. -/
def resource (s : State) (p : Text) : Except Fault Resource :=
  match s.resources.lookup p with
  | some r => .ok r
  | none => .error .badPointer

/-- The locals in front of the loops; `order` is the order in which the range
loop visits the entries of `resources_`. -/
def enter (id : Text) (order : List Text) : Except Fault Locals := do
  let affected ← write nulls 0 id
  pure { affected, remaining := nulls, count := 1, remainingCount := 0, point := .collect order }

/-- One iteration of the loop that runs next. -/
def iterate (s : State) (l : Locals) : Except Fault Locals :=
  match l.point with
  | .collect [] => .ok { l with point := .walk 0 }
  | .collect (name :: rest) => do
    let first ← read l.affected 0
    if name ≠ first then
      let remaining ← write l.remaining l.remainingCount name
      pure { l with remaining, remainingCount := l.remainingCount + 1, point := .collect rest }
    else pure { l with point := .collect rest }
  | .walk cursor =>
    if cursor < l.count then .ok { l with point := .scan cursor 0 }
    else .ok { l with point := .done }
  | .scan cursor i =>
    if i < l.remainingCount then do
      let pivot ← read l.affected cursor
      let pivot ← s.resource pivot
      let r ← read l.remaining i
      let other ← s.resource r
      if aliasesIntersect pivot other = true then
        let affected ← write l.affected l.count r
        let last ← read l.remaining (l.remainingCount - 1)
        let remaining ← write l.remaining i last
        pure { affected, remaining, count := l.count + 1,
               remainingCount := l.remainingCount - 1, point := .scan cursor i }
      else pure { l with point := .scan cursor (i + 1) }
    else .ok { l with point := .walk (cursor + 1) }
  | .done => .ok l

/-- The locals after so many iterations. -/
def walk (s : State) (id : Text) (order : List Text) (n : Nat) : Except Fault Locals := do
  let l ← enter id order
  run s.iterate n l

/-- Two pointers lead to resources that share an alias. -/
def aliased (s : State) (a b : Text) : Bool :=
  match s.resources.lookup a, s.resources.lookup b with
  | some a, some b => aliasesIntersect a b
  | _, _ => false

/-- The test of the loops is the adjacency of the graph of aliases. -/
theorem aliased_iff {s : State} {a b : Text} : s.aliased a b = true ↔ s.Adjacent a b := by
  unfold aliased Adjacent
  cases s.resources.lookup a with
  | none => simp
  | some ra => cases s.resources.lookup b <;> simp

/-- Where both pointers are valid the test is `aliases_intersect`. -/
theorem aliased_eq {s : State} {a b : Text} {ra rb : Resource} (ha : s.resources.lookup a = some ra)
    (hb : s.resources.lookup b = some rb) : s.aliased a b = aliasesIntersect ra rb := by
  unfold aliased
  rw [ha, hb]

end State

/-! ## The invariant -/

/-- What the arrays hold, each up to its count. -/
structure Locals.Shows (l : Locals) (hits others : List Text) : Prop where
  affected : Holds l.affected hits
  remaining : Holds l.remaining others
  count : l.count = hits.length
  remainingCount : l.remainingCount = others.length

/-- What holds in front of each iteration. -/
inductive Sound (s : State) (id : Text) (order : List Text) : Locals → Prop
  | collect {l : Locals} {seen rest : List Text} (shows : l.Shows [id] (seen.filter (· ≠ id)))
      (point : l.point = .collect rest) (visited : order = seen ++ rest) : Sound s id order l
  | walk {l : Locals} {hits others : List Text} {cursor : Nat}
      (shows : l.Shows hits others) (point : l.point = .walk cursor)
      (explored : Explored s.aliased order id cursor hits others)
      (started : id ∈ hits) : Sound s id order l
  | scan {l : Locals} {hits others : List Text} {cursor i : Nat} {pivot : Text}
      (shows : l.Shows hits others) (point : l.point = .scan cursor i)
      (sweeping : Sweeping s.aliased order id cursor i pivot hits others)
      (started : id ∈ hits) : Sound s id order l
  | done {l : Locals} {hits others : List Text} {cursor : Nat}
      (shows : l.Shows hits others) (point : l.point = .done)
      (explored : Explored s.aliased order id cursor hits others)
      (started : id ∈ hits) (walked : hits.length ≤ cursor) : Sound s id order l

/-- A bound on the iterations that are left, with `n` resources. -/
def Locals.left (n : Nat) (l : Locals) : Nat :=
  match l.point with
  | .collect rest => rest.length + n * (n + 2) + 3
  | .walk cursor => (n - cursor) * (n + 2) + 2
  | .scan cursor i => (n - cursor - 1) * (n + 2) + (l.remainingCount - i) + 3
  | .done => 0

/-- The resources as the loops meet them: each id once, in any order. -/
structure Listed (s : State) (id : Text) (order : List Text) : Prop where
  perm : order.Perm s.resources.keys
  registered : id ∈ s.resources
  limit : s.resources.entries.length ≤ resourceLimit

section Iterations

variable {s : State} {id : Text} {order : List Text} {l : Locals}

/-- No resource is met twice. -/
theorem Listed.nodup (h : Listed s id order) : order.Nodup :=
  h.perm.nodup_iff.mpr s.resources.keys_nodup

/-- All resources are met. -/
theorem Listed.length (h : Listed s id order) : order.length = s.resources.entries.length := by
  rw [h.perm.length_eq]
  exact List.length_map _

/-- The resource that is invalidated is met too. -/
theorem Listed.mem (h : Listed s id order) : id ∈ order :=
  h.perm.mem_iff.mpr (AList.mem_keys.mp h.registered)

/-- Every pointer in the arrays leads to a resource. -/
theorem Listed.resource (h : Listed s id order) {p : Text} (hp : p ∈ order) :
    ∃ r, s.resources.lookup p = some r ∧ s.resource p = .ok r := by
  have hkey : p ∈ s.resources := AList.mem_keys.mpr (h.perm.mem_iff.mp hp)
  obtain ⟨r, hr⟩ := Option.isSome_iff_exists.mp (AList.lookup_isSome.mpr hkey)
  refine ⟨r, hr, ?_⟩
  unfold State.resource
  rw [hr]

/-- In front of the first iteration. -/
theorem Sound.enter (hlimit : 0 < resourceLimit) :
    ∃ l, State.enter id order = .ok l ∧ Sound s id order l := by
  have hwrite : write nulls 0 id = .ok _ := write_eq (r := id) hlimit
  refine ⟨_, by rw [State.enter, hwrite]; rfl, ?_⟩
  have hstart : order = [] ++ order := rfl
  refine .collect ⟨?_, holds_nil _, rfl, rfl⟩ rfl hstart
  exact (holds_nil (nulls : Slots Text resourceLimit)).push rfl hlimit

/-- Only the point changes. -/
theorem Locals.Shows.goto {hits others : List Text} (h : l.Shows hits others) (point : Point) :
    ({ l with point } : Locals).Shows hits others :=
  ⟨h.affected, h.remaining, h.count, h.remainingCount⟩

/-- The range loop has collected every other resource. -/
theorem Listed.explored (h : Listed s id order) :
    Explored s.aliased order id 0 [id] (order.filter (· ≠ id)) where
  perm := by
    have herase : order.erase id = order.filter (· ≠ id) := by
      rw [h.nodup.erase_eq_filter]
      exact List.filter_congr fun name _ => by simp [bne, beq_eq_decide]
    rw [← herase]
    exact (List.perm_cons_erase h.mem).symm
  reach x hx := List.mem_singleton.mp hx ▸ .refl
  walked a ha := by cases ha

/-- The next iteration does not fail, keeps the invariant and is one of
finitely many. -/
def Advances (s : State) (id : Text) (order : List Text) (l : Locals) : Prop :=
  ∃ l', s.iterate l = .ok l' ∧ Sound s id order l' ∧
    (l.point = .done ∨ l'.left order.length < l.left order.length)

/-- The first loop: what has been met is the first entry and the remaining ones. -/
theorem Listed.collect (h : Listed s id order) {seen rest : List Text}
    (hshows : l.Shows [id] (seen.filter (· ≠ id))) (hpoint : l.point = .collect rest)
    (horder : order = seen ++ rest) : Advances s id order l := by
  have hfirst : read l.affected 0 = .ok id := hshows.affected.read rfl
  unfold Advances State.iterate Locals.left
  rw [hpoint]
  cases rest with
  | nil =>
    rw [List.append_nil] at horder
    refine ⟨_, rfl, .walk (hshows.goto _) rfl (horder ▸ h.explored) (List.mem_singleton_self _), .inr ?_⟩
    simp only [List.length_nil, Nat.sub_zero]
    omega
  | cons name rest =>
    have hnext : order = (seen ++ [name]) ++ rest := by
      rw [horder, List.append_assoc, List.singleton_append]
    by_cases hname : name = id
    · have hfilter : (seen ++ [name]).filter (· ≠ id) = seen.filter (· ≠ id) := by
        simp [hname]
      refine ⟨{ l with point := .collect rest }, ?_, .collect (hfilter ▸ hshows.goto _) rfl hnext, .inr ?_⟩
      · dsimp only
        rw [hfirst]
        exact if_neg (not_not_intro hname)
      · simp only [List.length_cons]
        omega
    · have hfilter : (seen ++ [name]).filter (· ≠ id) = seen.filter (· ≠ id) ++ [name] := by
        simp [hname]
      have hroom : (seen.filter (· ≠ id)).length < resourceLimit := by
        have hlen := h.length.trans_le h.limit
        have hle := List.length_filter_le (fun x => decide (x ≠ id)) seen
        rw [horder, List.length_append, List.length_cons] at hlen
        omega
      rw [← hshows.remainingCount] at hroom
      have hwrite : write l.remaining l.remainingCount name = .ok _ := write_eq hroom
      refine ⟨{ l with
        remaining := l.remaining.set l.remainingCount (some name)
        remainingCount := l.remainingCount + 1
        point := .collect rest }, ?_, .collect ?_ rfl hnext, .inr ?_⟩
      · dsimp only
        rw [hfirst]
        change (if name ≠ id then _ else _) = _
        rw [if_pos hname, hwrite]
        rfl
      · rw [hfilter]
        refine ⟨hshows.affected, hshows.remaining.push hshows.remainingCount hroom, hshows.count, ?_⟩
        rw [List.length_append, ← hshows.remainingCount]
        rfl
      · simp only [List.length_cons]
        omega

variable {hits others : List Text} {cursor i : Nat} {pivot : Text}

/-- The arrays share out what is listed. -/
theorem Listed.shared (h : Listed s id order)
    (explored : Explored s.aliased order id cursor hits others) :
    hits.length + others.length = order.length ∧ order.length ≤ resourceLimit := by
  have hlen := explored.perm.length_eq
  rw [List.length_append] at hlen
  exact ⟨hlen, h.length.trans_le h.limit⟩

/-- The head of the outer loop: it starts a scan, or the cursor has come to the end of what
is affected. -/
theorem Listed.walk (h : Listed s id order) (hshows : l.Shows hits others)
    (hpoint : l.point = .walk cursor)
    (explored : Explored s.aliased order id cursor hits others) (started : id ∈ hits) :
    Advances s id order l := by
  obtain ⟨hlen, -⟩ := h.shared explored
  have hcount := hshows.count
  have hremaining := hshows.remainingCount
  unfold Advances State.iterate Locals.left
  rw [hpoint]
  by_cases hcursor : cursor < l.count
  · have hlt : cursor < hits.length := hcount ▸ hcursor
    have hpivot : hits[cursor]? = some hits[cursor] := List.getElem?_eq_getElem hlt
    refine ⟨{ l with point := .scan cursor 0 }, if_pos hcursor,
      .scan (hshows.goto _) rfl (explored.sweeping hpivot) started, .inr ?_⟩
    -- a pass costs fewer iterations than the cursor's step is worth
    obtain ⟨k, hk⟩ : ∃ k, order.length - cursor = k + 1 := ⟨order.length - cursor - 1, by omega⟩
    dsimp only
    rw [hk, Nat.add_sub_cancel, Nat.succ_mul]
    omega
  · refine ⟨{ l with point := .done }, if_neg hcursor,
      .done (hshows.goto _) rfl explored started (by omega), .inr ?_⟩
    dsimp only
    omega

/-- One comparison with the pivot, when every access of it is served. -/
theorem State.iterate_scan {r : Text} {a b : Resource} (hpoint : l.point = .scan cursor i)
    (hi : i < l.remainingCount) (hpivot : read l.affected cursor = .ok pivot)
    (hother : read l.remaining i = .ok r) (ha : s.resource pivot = .ok a)
    (hb : s.resource r = .ok b) :
    s.iterate l =
      if aliasesIntersect a b = true then do
        let affected ← write l.affected l.count r
        let last ← read l.remaining (l.remainingCount - 1)
        let remaining ← write l.remaining i last
        pure { affected, remaining, count := l.count + 1,
               remainingCount := l.remainingCount - 1, point := .scan cursor i }
      else .ok { l with point := .scan cursor (i + 1) } := by
  unfold State.iterate
  rw [hpoint]
  dsimp only
  rw [if_pos hi, hpivot, hother]
  change (s.resource pivot).bind _ = _
  rw [ha]
  change (s.resource r).bind _ = _
  rw [hb]
  rfl

/-- The locals after `remaining[i]` has moved to the end of `affected`. -/
theorem Locals.Shows.move {r z : Text} (h : l.Shows hits others) (hr : others[i]? = some r)
    (hlast : others[others.length - 1]? = some z) (hcount : l.count < resourceLimit)
    (hi : i < resourceLimit) :
    ({ affected := l.affected.set l.count (some r)
       remaining := l.remaining.set i (some z)
       count := l.count + 1
       remainingCount := l.remainingCount - 1
       point := .scan cursor i } : Locals).Shows (hits ++ [r]) (swapRemove others i r) where
  affected := h.affected.push h.count hcount
  remaining := h.remaining.swapRemove hi hlast
  count := by
    rw [List.length_append, ← h.count]
    rfl
  remainingCount := by
    have hlen := length_swapRemove hr
    have hbefore := h.remainingCount
    dsimp only
    omega

/-- The inner loop: a hit moves from the remaining to the affected, and anything else is
passed by. -/
theorem Listed.scan (h : Listed s id order) (hshows : l.Shows hits others)
    (hpoint : l.point = .scan cursor i)
    (sweeping : Sweeping s.aliased order id cursor i pivot hits others) (started : id ∈ hits) :
    Advances s id order l := by
  obtain ⟨hlen, hlimit⟩ := h.shared sweeping.toExplored
  have hcount := hshows.count
  have hremaining := hshows.remainingCount
  obtain ⟨hcursor, -⟩ := List.getElem?_eq_some_iff.mp sweeping.here
  unfold Advances
  by_cases hi : i < l.remainingCount
  · have hlt : i < others.length := hremaining ▸ hi
    obtain ⟨r, hr⟩ : ∃ r, others[i]? = some r := ⟨_, List.getElem?_eq_getElem hlt⟩
    have hmem : ∀ p ∈ hits ++ others, p ∈ order := fun p hp => sweeping.perm.subset hp
    obtain ⟨a, ha, hpa⟩ := h.resource
      (hmem pivot (List.mem_append_left _ (List.mem_of_getElem? sweeping.here)))
    obtain ⟨b, hb, hpb⟩ := h.resource
      (hmem r (List.mem_append_right _ (List.mem_of_getElem? hr)))
    have haliased := State.aliased_eq ha hb
    rw [State.iterate_scan hpoint hi (hshows.affected.read sweeping.here)
      (hshows.remaining.read hr) hpa hpb]
    unfold Locals.left
    rw [hpoint]
    by_cases hadj : aliasesIntersect a b = true
    · -- `remaining[i]` moves, and `i` stays
      obtain ⟨z, hz⟩ : ∃ z, others[others.length - 1]? = some z :=
        ⟨_, List.getElem?_eq_getElem (by omega)⟩
      have hroom : l.count < resourceLimit := by omega
      have hslot : i < resourceLimit := by omega
      have hlast : read l.remaining (l.remainingCount - 1) = .ok z :=
        hshows.remaining.read (hremaining ▸ hz)
      refine ⟨_, ?_, .scan (hshows.move hr hz hroom hslot) rfl
        (sweeping.move hr (haliased.trans hadj)) (List.mem_append_left _ started), .inr ?_⟩
      · rw [if_pos hadj, write_eq hroom, hlast]
        change (write l.remaining i z).bind _ = _
        rw [write_eq hslot]
        rfl
      · dsimp only
        omega
    · -- `remaining[i]` stays
      refine ⟨{ l with point := .scan cursor (i + 1) }, if_neg hadj, .scan (hshows.goto _) rfl
        (sweeping.skip hr (haliased.trans (Bool.eq_false_iff.mpr hadj))) started, .inr ?_⟩
      dsimp only
      omega
  · unfold State.iterate Locals.left
    rw [hpoint]
    refine ⟨{ l with point := .walk (cursor + 1) }, if_neg hi,
      .walk (hshows.goto _) rfl (sweeping.finish (by omega)) started, .inr ?_⟩
    dsimp only
    rw [Nat.sub_sub]
    omega

/-- **One iteration**, of whichever loop runs next. -/
theorem Sound.iterate (h : Listed s id order) (hsound : Sound s id order l) :
    Advances s id order l := by
  cases hsound with
  | collect shows point visited => exact h.collect shows point visited
  | walk shows point explored started => exact h.walk shows point explored started
  | scan shows point sweeping started => exact h.scan shows point sweeping started
  | done shows point explored started walked =>
    refine ⟨l, ?_, .done shows point explored started walked, .inl point⟩
    unfold State.iterate
    rw [point]

end Iterations

/-! ## The walk -/

/-- The first loop is still running. -/
def Locals.Collecting (l : Locals) : Prop :=
  ∃ rest, l.point = .collect rest

section Walk

variable {s : State} {id : Text} {order : List Text} {l : Locals}

/-- Neighbours among what is listed are the neighbours in the state. -/
theorem Listed.joined (h : Listed s id order) : Joined s.aliased order = s.Adjacent := by
  funext a b
  refine propext ⟨fun hab => State.aliased_iff.mp hab.1, fun hab => ⟨State.aliased_iff.mpr hab, ?_⟩⟩
  obtain ⟨-, r, -, hr, -⟩ := hab
  have hkey : b ∈ s.resources := AList.lookup_isSome.mp (hr ▸ rfl)
  exact h.perm.mem_iff.mpr (AList.mem_keys.mp hkey)

/-- Once the other resources are collected, the arrays share out the resources. -/
theorem Sound.shares (h : Listed s id order) (hsound : Sound s id order l)
    (hcollected : ¬ l.Collecting) :
    ∃ hits others, l.Shows hits others ∧ (hits ++ others).Perm s.resources.keys ∧
      (l.point = .done → ∀ name, name ∈ hits ↔ s.Connected id name) := by
  cases hsound with
  | collect shows point visited => exact absurd ⟨_, point⟩ hcollected
  | @walk hits others cursor shows point explored started =>
    refine ⟨hits, others, shows, explored.perm.trans h.perm, fun hdone => ?_⟩
    rw [point] at hdone
    cases hdone
  | @scan hits others cursor i pivot shows point sweeping started =>
    refine ⟨hits, others, shows, sweeping.perm.trans h.perm, fun hdone => ?_⟩
    rw [point] at hdone
    cases hdone
  | @done hits others cursor shows point explored started walked =>
    refine ⟨hits, others, shows, explored.perm.trans h.perm, fun _ name => ?_⟩
    rw [explored.mem_iff s.aliased walked started, h.joined]
    rfl

/-- The walk never fails, and its invariant holds throughout. -/
theorem Listed.walk_sound (h : Listed s id order) (n : Nat) :
    ∃ l, s.walk id order n = .ok l ∧ Sound s id order l := by
  obtain ⟨start, hstart, hsound⟩ : ∃ l, State.enter id order = .ok l ∧ Sound s id order l :=
    Sound.enter (by decide)
  have hstep : ∀ l, Sound s id order l → ∃ l', s.iterate l = .ok l' ∧ Sound s id order l' :=
    fun l hl => (hl.iterate h).imp fun _ hl' => ⟨hl'.1, hl'.2.1⟩
  obtain ⟨l, hl, hsound'⟩ := run_sound hstep hsound n
  refine ⟨l, ?_, hsound'⟩
  rw [State.walk, hstart]
  exact hl

/-- The walk comes to its end. -/
theorem Listed.walk_halts (h : Listed s id order) :
    ∃ n l, s.walk id order n = .ok l ∧ l.point = .done := by
  obtain ⟨start, hstart, hsound⟩ : ∃ l, State.enter id order = .ok l ∧ Sound s id order l :=
    Sound.enter (by decide)
  have hstep : ∀ l, Sound s id order l → ∃ l', s.iterate l = .ok l' ∧ Sound s id order l' :=
    fun l hl => (hl.iterate h).imp fun _ hl' => ⟨hl'.1, hl'.2.1⟩
  have hleft : ∀ l l', Sound s id order l → ¬ l.point = .done → s.iterate l = .ok l' →
      l'.left order.length < l.left order.length := by
    intro l l' hl hgoing hl'
    obtain ⟨next, hnext, -, hless⟩ := hl.iterate h
    rw [Except.ok.inj (hl'.symm.trans hnext)]
    exact hless.resolve_left hgoing
  obtain ⟨n, l, hl, hdone⟩ := run_halts hstep hleft hsound
  refine ⟨n, l, ?_, hdone⟩
  rw [State.walk, hstart]
  exact hl

/-- The list walk of `State.affected` ends with the same resources. -/
theorem Listed.affected {first : Resource} (hfirst : s.resources.lookup id = some first)
    {hits : List Text} (hhits : ∀ name, name ∈ hits ↔ s.Connected id name) (name : Text) :
    name ∈ hits ↔ name ∈ (s.affected id first).map Sigma.fst :=
  (hhits name).trans (State.mem_affected_iff hfirst).symm

end Walk

/-! ## The reference -/

/-- The same ids are registered in both engines, with the same views. -/
structure SameResources (s : State) (t : Runtime.RuntimeOptimizationState) : Prop where
  view : ∀ id, Option.Rel engineNames.view (s.ledger.res (utf8 id)) (t.ledger.res id)
  named : ∀ name, s.resources.lookup name ≠ none → ∃ id, name = utf8 id

/-- Ids and views as `engineNames` relates them; records play no part here. -/
def resourceNames : Renaming Text Native.View StoredOperation String Runtime.View
    Runtime.RuntimeOperation where
  enc := utf8
  valid _ := True
  view := engineNames.view
  record _ _ := False

/-- The renaming keeps what the walk looks at: ids, memory and aliases. -/
theorem resourceNames_lawful : resourceNames.Lawful Native.machine Runtime.machine where
  inj := utf8_injective
  shares := engineNames_lawful.shares
  source h := h.elim

section Reference

variable {s : State} {t : Runtime.RuntimeOptimizationState} {id : String}

/-- Registered resources alone make a simulation of the two ledgers. -/
theorem SameResources.sim (h : SameResources s t) :
    Sim resourceNames { s.ledger with copy := fun _ => none }
      { t.ledger with copy := fun _ => none } where
  res k _ := h.view k
  copy _ _ := .none
  range k hk := by
    obtain ⟨name, hname⟩ := h.named k (mt State.ledger_res_eq_none.mpr hk)
    exact ⟨name, trivial, hname⟩
  valid _ _ := trivial

/-- The components are the same, name by name. -/
theorem SameResources.connected_iff (h : SameResources s t) {name : String} :
    s.Connected (utf8 id) (utf8 name) ↔ t.ledger.Linked Runtime.machine id name := by
  rw [← State.ledger_linked]
  exact h.sim.linked_iff resourceNames_lawful trivial

/-- Whatever is reached in the native state has a name in the Python state. -/
theorem SameResources.named_of_connected (h : SameResources s t) {name : Text}
    (hname : s.Connected (utf8 id) name) : ∃ name', name = utf8 name' := by
  cases hname with
  | refl => exact ⟨id, rfl⟩
  | tail _ hlast =>
    obtain ⟨-, r, -, hr, -⟩ := hlast
    exact h.named name (by rw [hr]; exact Option.some_ne_none r)

/-- **Both engines retire the same resources.** -/
theorem SameResources.affected_iff (h : SameResources s t)
    (hid : s.resources.lookup (utf8 id) ≠ none) {name : Text} :
    s.Connected (utf8 id) name ↔ ∃ name' ∈ t.affected id, name = utf8 name' := by
  have hknown : t.resources.get id ≠ none := by
    have hres := rel_none_iff (h.view id)
    rw [State.ledger_res_eq_none, Runtime.RuntimeOptimizationState.ledger_res_eq_none] at hres
    exact mt hres.mpr hid
  constructor
  · intro hname
    obtain ⟨name', rfl⟩ := h.named_of_connected hname
    have hlinked := h.connected_iff.mp hname
    exact ⟨name', (Runtime.RuntimeOptimizationState.mem_affected_iff hknown).mpr hlinked, rfl⟩
  · rintro ⟨name', hname', rfl⟩
    exact h.connected_iff.mpr
      ((Runtime.RuntimeOptimizationState.mem_affected_iff hknown).mp hname')

end Reference

/-- The alias walk of `invalidate` is exact and stays in bounds, in whatever
order the resources are visited. -/
theorem alias_walk_exact {s : State} {id : Text} {order : List Text} (h : Listed s id order) :
    (∃ n l, s.walk id order n = .ok l ∧ l.point = .done) ∧
      ∀ n, ∃ l, s.walk id order n = .ok l ∧
        (l.Collecting ∨ ∃ hits others, l.Shows hits others ∧
          l.count + l.remainingCount = s.resources.entries.length ∧
          (hits ++ others).Perm s.resources.keys ∧ (hits ++ others).Nodup ∧
          (l.point = .done → (∀ name, name ∈ hits ↔ s.Connected id name) ∧
            ∀ (t : Runtime.RuntimeOptimizationState) (id' : String), SameResources s t →
              id = utf8 id' → ∀ name, name ∈ hits ↔ ∃ name' ∈ t.affected id', name = utf8 name')) := by
  refine ⟨h.walk_halts, fun n => ?_⟩
  obtain ⟨l, hl, hsound⟩ := h.walk_sound n
  refine ⟨l, hl, or_iff_not_imp_left.mpr fun hcollected => ?_⟩
  obtain ⟨hits, others, hshows, hperm, hdone⟩ := hsound.shares h hcollected
  have hcount : l.count + l.remainingCount = s.resources.entries.length := by
    have hlen := hperm.length_eq
    rw [List.length_append, ← hshows.count, ← hshows.remainingCount] at hlen
    exact hlen.trans (List.length_map _)
  refine ⟨hits, others, hshows, hcount, hperm, hperm.nodup_iff.mpr s.resources.keys_nodup,
    fun hend => ⟨hdone hend, ?_⟩⟩
  intro t id' hsame hid name
  subst hid
  have hregistered : s.resources.lookup (utf8 id') ≠ none :=
    Option.isSome_iff_ne_none.mp (AList.lookup_isSome.mpr h.registered)
  exact (hdone hend name).trans (hsame.affected_iff hregistered)

/-- Two views of one buffer that meet in a third, and a resource apart. -/
def chained : State where
  resources := (((AList.singleton (literal "a") ⟨[literal "x"], 1, none, none⟩).insert
    (literal "b") ⟨[literal "x", literal "y"], 1, none, none⟩).insert
    (literal "c") ⟨[literal "y"], 1, none, none⟩).insert (literal "d") ⟨[], 1, none, none⟩

/-- The walk over `chained`, whose third view is met through the second. -/
theorem alias_walk_exact_chained :
    Listed chained (literal "a") [literal "d", literal "a", literal "c", literal "b"] ∧
      ∃ n l, chained.walk (literal "a") [literal "d", literal "a", literal "c", literal "b"] n =
        .ok l ∧ l.point = .done := by
  have hlisted : Listed chained (literal "a")
      [literal "d", literal "a", literal "c", literal "b"] :=
    ⟨by decide, by decide, by decide⟩
  exact ⟨hlisted, (alias_walk_exact hlisted).1⟩

end FluidGateway.Native
