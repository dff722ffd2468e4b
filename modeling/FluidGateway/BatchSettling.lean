import FluidGateway.BatchExpansion
import FluidGateway.WaitResolution

/-!
# A batch settles after one operation

The items of a batch differ in their ids only, and the id of an operation plays
no part in what is decided.  Whatever the first item changes, every later item
finds the state that it needs: the opcode from the second item on is known
before the batch begins (`State.settled`), and accepting an item leads to a state
in which it is the opcode of the next one (`Processed.settles`).
-/

namespace FluidGateway.Native

open Lockstep KeyedMap

namespace State

/-! ## The opcode of an item -/

/-- The opcode of an item, whatever its id. -/
def verdict (s : State) (template : Operation) : UInt8 :=
  (s.choose (s.framed template)).1

/-- The opcode of an item that follows another one. -/
def settled (s : State) (template : Operation) : UInt8 :=
  if template.type = 1 ∨ template.type = 4 then
    match s.resources.lookup template.source, s.resources.lookup template.target with
    | some source, some target =>
      if template.source = template.target then 1
      else if aliasesIntersect source target then 3
      else 2
    | _, _ => 0
  else if template.type = 2 then s.verdict template
  else if template.type = 3 then
    if s.resources.lookup template.target ≠ none ∧ transient template.reason then 6 else 0
  else 0

/-- The decision that goes with an opcode. -/
def decisionOf (template : Operation) (opcode : UInt8) : Decision where
  opcode := opcode
  operation := true
  savedUs := if opcode = 0 then 0 else template.microseconds
  savedBytes := if opcode = 0 ∨ template.type = 2 then 0 else template.bytes

section

variable {s : State} {t : Operation}

/-- The choice for a transfer of known resources: a copy to itself, to an alias, of what was
transferred, or none. -/
theorem choose_transfer {op : Operation} {source target : Resource}
    (htype : op.type = 1 ∨ op.type = 4) (hsource : s.resources.lookup op.source = some source)
    (htarget : s.resources.lookup op.target = some target) :
    (s.choose op).1 = if op.source = op.target then 1
      else if aliasesIntersect source target then 3
      else if (s.deref target.copy).any (sameTransfer op) then 2 else 0 := by
  unfold choose
  rw [if_pos htype, hsource, htarget]
  dsimp only
  split_ifs <;> rfl

/-- A transfer of an unknown resource is executed. -/
theorem choose_missing {op : Operation} (htype : op.type = 1 ∨ op.type = 4)
    (h : s.resources.lookup op.source = none ∨ s.resources.lookup op.target = none) :
    (s.choose op).1 = 0 := by
  unfold choose
  rw [if_pos htype]
  cases hsource : s.resources.lookup op.source with
  | none => rfl
  | some source =>
      rw [hsource] at h
      rw [h.resolve_left (Option.some_ne_none _)]

/-- The choice for a wait: an orphan, an empty one, or none. -/
theorem choose_sync {op : Operation} (htype : op.type = 2) :
    (s.choose op).1 = if s.allRemoved op.dependencies then 4
      else if op.microseconds = 0 ∧ op.dependencies = [] then 5 else 0 := by
  have hnot : ¬ (op.type = 1 ∨ op.type = 4) := by
    rw [htype]
    decide
  unfold choose
  rw [if_neg hnot, if_pos htype]
  split_ifs <;> rfl

/-- The choice for an allocation: a reuse where the target remembers the same one, or none. -/
theorem choose_allocate {op : Operation} (htype : op.type = 3) :
    (s.choose op).1 = if (s.resources.lookup op.target).any fun target =>
      (s.deref target.allocation).any (sameAllocation op) then 6 else 0 := by
  have hnot : ¬ (op.type = 1 ∨ op.type = 4) := by
    rw [htype]
    decide
  have hsync : ¬ op.type = 2 := by
    rw [htype]
    decide
  unfold choose
  rw [if_neg hnot, if_neg hsync, if_pos htype]
  cases s.resources.lookup op.target with
  | none => rfl
  | some target =>
      dsimp only [Option.any_some]
      split_ifs <;> rfl

/-- The same choice for an item of a batch, whatever its id. -/
theorem verdict_transfer {source target : Resource} (htype : t.type = 1 ∨ t.type = 4)
    (hsource : s.resources.lookup t.source = some source)
    (htarget : s.resources.lookup t.target = some target) :
    s.verdict t = if t.source = t.target then 1
      else if aliasesIntersect source target then 3
      else if (s.deref target.copy).any (sameTransfer (s.framed t)) then 2 else 0 :=
  @choose_transfer s (s.framed t) _ _ htype hsource htarget

/-- An item that transfers an unknown resource is executed, whatever its id. -/
theorem verdict_missing (htype : t.type = 1 ∨ t.type = 4)
    (h : s.resources.lookup t.source = none ∨ s.resources.lookup t.target = none) :
    s.verdict t = 0 :=
  @choose_missing s (s.framed t) htype h

/-- The choice for an item that waits does not depend on its id. -/
theorem verdict_sync (htype : t.type = 2) :
    s.verdict t = if s.allRemoved t.dependencies then 4
      else if t.microseconds = 0 ∧ t.dependencies = [] then 5 else 0 :=
  @choose_sync s (s.framed t) htype

/-- The choice for an item that allocates does not depend on its id. -/
theorem verdict_allocate (htype : t.type = 3) :
    s.verdict t = if (s.resources.lookup t.target).any fun target =>
      (s.deref target.allocation).any (sameAllocation (s.framed t)) then 6 else 0 :=
  @choose_allocate s (s.framed t) htype

/-- An item of any other type is executed. -/
theorem verdict_other (htransfer : ¬ (t.type = 1 ∨ t.type = 4)) (hsync : t.type ≠ 2)
    (hallocate : t.type ≠ 3) : s.verdict t = 0 := by
  have htransfer' : ¬ ((s.framed t).type = 1 ∨ (s.framed t).type = 4) := htransfer
  have hsync' : (s.framed t).type ≠ 2 := hsync
  have hallocate' : (s.framed t).type ≠ 3 := hallocate
  unfold verdict choose
  rw [if_neg htransfer', if_neg hsync', if_neg hallocate']

/-- An item that is eliminated leaves the next one to be eliminated alike. -/
theorem settled_of_verdict (h : s.verdict t ≠ 0) : s.settled t = s.verdict t := by
  unfold settled
  by_cases htransfer : t.type = 1 ∨ t.type = 4
  · rw [if_pos htransfer]
    cases hsource : s.resources.lookup t.source with
    | none => exact absurd (verdict_missing htransfer (.inl hsource)) h
    | some source =>
        cases htarget : s.resources.lookup t.target with
        | none => exact absurd (verdict_missing htransfer (.inr htarget)) h
        | some target =>
            rw [verdict_transfer htransfer hsource htarget] at h ⊢
            dsimp only
            split_ifs at h ⊢ <;> first | rfl | exact absurd rfl h
  rw [if_neg htransfer]
  by_cases hsync : t.type = 2
  · rw [if_pos hsync]
  rw [if_neg hsync]
  by_cases hallocate : t.type = 3
  · rw [if_pos hallocate]
    rw [verdict_allocate hallocate] at h ⊢
    by_cases hsame : ((s.resources.lookup t.target).any fun target =>
        (s.deref target.allocation).any (sameAllocation (s.framed t))) = true
    · obtain ⟨target, htarget, hprevious⟩ := (Option.any_eq_true _ _).mp hsame
      obtain ⟨previous, -, hprevious⟩ := (Option.any_eq_true _ _).mp hprevious
      have htransient : transient t.reason = true := by
        simp only [sameAllocation, Bool.and_eq_true] at hprevious
        exact hprevious.2
      have hregistered : s.resources.lookup t.target ≠ none := by
        rw [htarget]
        exact Option.some_ne_none _
      rw [if_pos hsame, if_pos ⟨hregistered, htransient⟩]
    · rw [if_neg hsame] at h
      exact absurd rfl h
  · exact absurd (verdict_other htransfer hsync hallocate) h

/-! ## What an item leaves -/

/-- The resources are the same, whatever they remember. -/
def SameViews (s s' : State) : Prop :=
  ∀ k, (s'.resources.lookup k).map Resource.view = (s.resources.lookup k).map Resource.view

/-- The test for a common alias reads the views of its resources only. -/
theorem aliasesIntersect_view {a b a' b' : Resource} (ha : a'.view = a.view)
    (hb : b'.view = b.view) : aliasesIntersect a' b' = aliasesIntersect a b := by
  rw [Bool.eq_iff_iff, aliasesIntersect_iff, aliasesIntersect_iff, ha, hb]

/-- An item that follows is decided by the views alone, unless it waits. -/
theorem SameViews.settled {s' : State} (h : SameViews s s') (hsync : t.type ≠ 2) :
    s'.settled t = s.settled t := by
  have hnone : ∀ k, s'.resources.lookup k = none ↔ s.resources.lookup k = none := by
    intro k
    rw [← Option.map_eq_none_iff (f := Resource.view), h k, Option.map_eq_none_iff]
  unfold State.settled
  by_cases htransfer : t.type = 1 ∨ t.type = 4
  · rw [if_pos htransfer, if_pos htransfer]
    have hs := h t.source
    have ht := h t.target
    cases hsource : s.resources.lookup t.source with
    | none => rw [(hnone _).mpr hsource]
    | some source =>
        rw [hsource] at hs
        obtain ⟨source', hsource', hview⟩ := Option.map_eq_some_iff.mp hs
        rw [hsource']
        cases htarget : s.resources.lookup t.target with
        | none => rw [(hnone _).mpr htarget]
        | some target =>
            rw [htarget] at ht
            obtain ⟨target', htarget', hview'⟩ := Option.map_eq_some_iff.mp ht
            rw [htarget']
            dsimp only
            rw [aliasesIntersect_view hview hview']
  · rw [if_neg htransfer, if_neg htransfer, if_neg hsync, if_neg hsync]
    simp only [ne_eq, hnone]

/-- Clearing drops remembered transfers and changes nothing else of a resource. -/
theorem lookup_cleared (s : State) (op : Operation) (k : Text) : ∃ keep : Resource → Bool,
    (s.cleared op).resources.lookup k = (s.resources.lookup k).map fun r =>
      { r with copy := if keep r then r.copy else none } := by
  unfold cleared
  split_ifs
  · obtain ⟨keep, hkeep, -⟩ := s.lookup_invalidate op.target k
    exact ⟨keep, hkeep⟩
  · exact ⟨fun _ => true, by simp⟩

/-- What an executed operation leaves of a resource. -/
theorem lookup_executed {op : Operation} {k : Text} {r : Resource} (record : StoredOperation)
    (h : s.resources.lookup k = some r) : ∃ r' : Resource,
      ((s.record record).settle op).resources.lookup k = some (point op k r') ∧
        r'.view = r.view := by
  obtain ⟨keep, hkeep⟩ := (s.record record).lookup_cleared op k
  have hr : (s.record record).resources.lookup k = some r := h
  rw [hr] at hkeep
  refine ⟨{ r with copy := if keep r then r.copy else none }, ?_, rfl⟩
  rw [lookup_settle, hkeep]
  rfl

/-- Setting the pointers of a resource does not change its view. -/
theorem point_view (op : Operation) (k : Text) (r : Resource) : (point op k r).view = r.view := by
  unfold point
  split_ifs <;> rfl

/-- A transfer is remembered by its target. -/
theorem point_copy {op : Operation} (htype : op.type = 1 ∨ op.type = 4) (r : Resource) :
    (point op op.target r).copy = some op.id := by
  unfold point
  rw [if_pos rfl]
  exact if_pos htype

/-- An allocation is remembered by its target. -/
theorem point_allocation {op : Operation} (htype : op.type = 3) (r : Resource) :
    (point op op.target r).allocation = some op.id := by
  unfold point
  rw [if_pos rfl]
  exact if_pos htype

/-- Executing an operation changes no view. -/
theorem sameViews_executed (op : Operation) (record : StoredOperation) :
    SameViews s ((s.record record).settle op) := by
  intro k
  obtain ⟨keep, hkeep⟩ := (s.record record).lookup_cleared op k
  have hsame : (s.record record).resources = s.resources := rfl
  rw [lookup_settle, hkeep, hsame, Option.map_map, Option.map_map]
  refine congrArg (fun f => Option.map f _) (funext fun r => ?_)
  exact point_view op k _

/-- A recorded operation is found again after another one is recorded. -/
theorem lookup_kept {record x : StoredOperation} {k : Text}
    (hfresh : s.operations.lookup record.id = none) (h : s.operations.lookup k = some x) :
    (s.record record).operations.lookup k = some x := by
  have hne : k ≠ record.id := by
    rintro rfl
    rw [hfresh] at h
    cases h
  rw [State.record, AList.lookup_insert_ne hne]
  exact h

/-- What a pointer finds is still found when another operation is recorded. -/
theorem deref_any_kept {record : StoredOperation} {p : Option Text} {test : StoredOperation → Bool}
    (hfresh : s.operations.lookup record.id = none) (h : (s.deref p).any test = true) :
    ((s.record record).deref p).any test = true := by
  cases p with
  | none => cases h
  | some k =>
      change (s.operations.lookup k).any test = true at h
      change ((s.record record).operations.lookup k).any test = true
      cases hfound : s.operations.lookup k with
      | none =>
          rw [hfound] at h
          cases h
      | some x =>
          rw [hfound] at h
          rw [lookup_kept hfresh hfound]
          exact h

/-- All dependencies of a wait stay removed. -/
theorem allRemoved_kept {record : StoredOperation} {dependencies : List Text}
    (hfresh : s.operations.lookup record.id = none) (h : s.allRemoved dependencies = true) :
    (s.record record).allRemoved dependencies = true := by
  unfold allRemoved at h ⊢
  rw [Bool.and_eq_true, List.all_eq_true] at h ⊢
  refine ⟨h.1, fun k hk => ?_⟩
  have hremoved := h.2 k hk
  cases hfound : s.operations.lookup k with
  | none =>
      rw [hfound] at hremoved
      cases hremoved
  | some x =>
      rw [hfound] at hremoved
      rw [lookup_kept hfresh hfound]
      exact hremoved

/-- An operation that is not removed makes no dependencies removed. -/
theorem allRemoved_of_record {record : StoredOperation} {dependencies : List Text}
    (hkept : record.removed = false)
    (h : (s.record record).allRemoved dependencies = true) : s.allRemoved dependencies = true := by
  unfold allRemoved at h ⊢
  rw [Bool.and_eq_true, List.all_eq_true] at h ⊢
  refine ⟨h.1, fun k hk => ?_⟩
  have hremoved := h.2 k hk
  by_cases hne : k = record.id
  · rw [hne, State.record, AList.lookup_insert, Option.any_some, hkept] at hremoved
    cases hremoved
  · rwa [State.record, AList.lookup_insert_ne hne] at hremoved

/-- An eliminated item leaves the opcode of the next one as it was. -/
theorem verdict_eliminated {record : StoredOperation}
    (hfresh : s.operations.lookup record.id = none) (h : s.verdict t ≠ 0) :
    (s.record record).verdict t = s.verdict t := by
  have hresources : (s.record record).resources = s.resources := rfl
  by_cases htransfer : t.type = 1 ∨ t.type = 4
  · cases hsource : s.resources.lookup t.source with
    | none => exact absurd (verdict_missing htransfer (.inl hsource)) h
    | some source =>
        cases htarget : s.resources.lookup t.target with
        | none => exact absurd (verdict_missing htransfer (.inr htarget)) h
        | some target =>
            rw [← hresources] at hsource htarget
            rw [verdict_transfer htransfer hsource htarget]
            rw [hresources] at hsource htarget
            rw [verdict_transfer htransfer hsource htarget] at h ⊢
            split_ifs at h with hself halias hsame
            · rw [if_pos hself, if_pos hself]
            · rw [if_neg hself, if_neg hself, if_pos halias, if_pos halias]
            · have hframed : (s.record record).framed t = s.framed t := rfl
              rw [hframed, if_neg hself, if_neg hself, if_neg halias, if_neg halias, if_pos hsame,
                if_pos (deref_any_kept hfresh hsame)]
            · exact absurd rfl h
  by_cases hsync : t.type = 2
  · rw [verdict_sync hsync] at h ⊢
    rw [verdict_sync hsync]
    split_ifs at h with hremoved hempty
    · rw [if_pos hremoved, if_pos (allRemoved_kept hfresh hremoved)]
    · have hnone : ¬ (s.record record).allRemoved t.dependencies = true := by
        rw [hempty.2]
        exact Bool.false_ne_true
      rw [if_neg hremoved, if_neg hnone]
    · exact absurd rfl h
  by_cases hallocate : t.type = 3
  · rw [verdict_allocate hallocate] at h ⊢
    rw [verdict_allocate hallocate, hresources]
    split_ifs at h with hsame
    · obtain ⟨target, htarget, hprevious⟩ := (Option.any_eq_true _ _).mp hsame
      have hsame' : (s.resources.lookup t.target).any (fun target =>
          ((s.record record).deref target.allocation).any
            (sameAllocation ((s.record record).framed t))) = true :=
        (Option.any_eq_true _ _).mpr ⟨target, htarget, deref_any_kept hfresh hprevious⟩
      rw [if_pos hsame, if_pos hsame']
    · exact absurd rfl h
  · exact absurd (verdict_other htransfer hsync hallocate) h

/-- The state behind an executed item. -/
def afterItem (s : State) (t : Operation) (id : Text) : State :=
  (s.record (s.executedRecord { t with id })).settle (s.framed { t with id })

/-- After an item its own record is found under its id. -/
theorem deref_afterItem (id : Text) : (s.afterItem t id).deref (some id) =
    some (s.executedRecord { t with id }) := by
  change (s.afterItem t id).operations.lookup id = _
  unfold afterItem
  rw [settle_operations]
  exact AList.lookup_insert (a := id) _

/-- After an item the next one is given the same frame. -/
theorem framed_afterItem (id : Text) : (s.afterItem t id).framed t = s.framed t := by
  unfold afterItem framed
  rw [settle_currentFrame]
  rfl

/-- After an executed item the next one has the opcode that all later ones have. -/
theorem verdict_afterItem (id : Text) (h : s.verdict t = 0) :
    (s.afterItem t id).verdict t = s.settled t := by
  have hviews : SameViews s (s.afterItem t id) := sameViews_executed _ _
  have hlookup : ∀ {k r}, s.resources.lookup k = some r → ∃ r' : Resource,
      (s.afterItem t id).resources.lookup k =
        some (point (s.framed { t with id }) k r') ∧ r'.view = r.view :=
    fun hr => lookup_executed _ hr
  have hnone : ∀ {k}, s.resources.lookup k = none → (s.afterItem t id).resources.lookup k = none := by
    intro k hk
    have hview := hviews k
    rw [hk] at hview
    exact Option.map_eq_none_iff.mp hview
  by_cases htransfer : t.type = 1 ∨ t.type = 4
  · unfold settled
    rw [if_pos htransfer]
    cases hsource : s.resources.lookup t.source with
    | none => exact verdict_missing htransfer (.inl (hnone hsource))
    | some source =>
        cases htarget : s.resources.lookup t.target with
        | none => exact verdict_missing htransfer (.inr (hnone htarget))
        | some target =>
            obtain ⟨source', hsource', hview⟩ := hlookup hsource
            obtain ⟨target', htarget', hview'⟩ := hlookup htarget
            rw [verdict_transfer htransfer hsource htarget] at h
            rw [verdict_transfer htransfer hsource' htarget']
            have hcopy : (point (s.framed { t with id }) t.target target').copy = some id :=
              @point_copy (s.framed { t with id }) htransfer target'
            have hsame : sameTransfer (s.framed t) (s.executedRecord { t with id }) = true := by
              simp [sameTransfer, executedRecord, stored, framed]
            rw [aliasesIntersect_view ((point_view _ _ _).trans hview)
              ((point_view _ _ _).trans hview'), hcopy, deref_afterItem, framed_afterItem,
              Option.any_some, if_pos hsame]
  by_cases hsync : t.type = 2
  · have hsettled : s.settled t = s.verdict t := by
      unfold settled
      rw [if_neg htransfer, if_pos hsync]
    rw [hsettled, h]
    rw [verdict_sync hsync] at h ⊢
    split_ifs at h with hremoved hempty
    · exact absurd h (by decide)
    · exact absurd h (by decide)
    · have hkept : ¬ (s.afterItem t id).allRemoved t.dependencies = true := by
        intro hall
        have hnot : (s.executedRecord { t with id }).removed = false := rfl
        refine hremoved (allRemoved_of_record hnot ?_)
        unfold allRemoved at hall ⊢
        unfold afterItem at hall
        rwa [settle_operations] at hall
      rw [if_neg hkept, if_neg hempty]
  by_cases hallocate : t.type = 3
  · unfold settled
    rw [if_neg htransfer, if_neg hsync, if_pos hallocate, verdict_allocate hallocate]
    cases htarget : s.resources.lookup t.target with
    | none =>
        rw [hnone htarget]
        rfl
    | some target =>
        obtain ⟨target', htarget', -⟩ := hlookup htarget
        have hallocation : (point (s.framed { t with id }) t.target target').allocation =
            some id := @point_allocation (s.framed { t with id }) hallocate target'
        have hsame : sameAllocation (s.framed t) (s.executedRecord { t with id }) =
            transient t.reason := by
          simp [sameAllocation, executedRecord, stored, framed]
        rw [htarget', Option.any_some, hallocation, deref_afterItem, framed_afterItem,
          Option.any_some, hsame]
        simp
  · unfold settled
    rw [if_neg htransfer, if_neg hsync, if_neg hallocate]
    exact verdict_other htransfer hsync hallocate

/-- **Accepting an item settles the batch.**  What is decided goes with the opcode
of the state before, the next item has the settled opcode, and it stays settled. -/
theorem Processed.settles {s' : State} {id : Text} {d : Decision}
    (h : s.Processed { t with id } (.ok d) s') :
    d = decisionOf t (s.verdict t) ∧ s'.verdict t = s.settled t ∧ s'.settled t = s.settled t := by
  -- a wait is settled when its own opcode is
  have hwait : ∀ {s' : State}, t.type = 2 → s'.settled t = s'.verdict t := by
    intro s' hsync
    have hnot : ¬ (t.type = 1 ∨ t.type = 4) := by
      rw [hsync]
      decide
    unfold settled
    rw [if_neg hnot, if_pos hsync]
  cases h with
  | executed fresh choice =>
      have hverdict : s.verdict t = 0 := choice
      have hnext : (s.afterItem t id).verdict t = s.settled t := verdict_afterItem id hverdict
      refine ⟨?_, hnext, ?_⟩
      · rw [hverdict]
        simp [decisionOf]
      · by_cases hsync : t.type = 2
        · exact (hwait hsync).trans hnext
        · exact SameViews.settled (sameViews_executed _ _) hsync
  | eliminated fresh choice =>
      have hverdict : s.verdict t ≠ 0 := choice
      have hnext : (s.record (s.eliminatedRecord { t with id })).verdict t = s.verdict t :=
        verdict_eliminated fresh hverdict
      have hsettled := settled_of_verdict hverdict
      refine ⟨?_, hnext.trans hsettled.symm, ?_⟩
      · have hopcode : (s.choose (s.framed { t with id })).1 = s.verdict t := rfl
        rw [hopcode]
        unfold decisionOf
        simp [hverdict]
      · by_cases hsync : t.type = 2
        · rw [hwait hsync, hnext, hsettled]
        · exact SameViews.settled (fun _ => rfl) hsync

end

end State

/-! ## The run of a batch -/

/-- An item that is accepted. -/
theorem submitItem_settles {m : Memory} {batch : BatchRequest} {s : State} {i : Nat} {d : Decision}
    (h : (submitItem m batch s i).1 = .ok d) :
    d = State.decisionOf batch.template (s.verdict batch.template) ∧
      (submitItem m batch s i).2.verdict batch.template = s.settled batch.template ∧
      (submitItem m batch s i).2.settled batch.template = s.settled batch.template := by
  have hspec := s.process_spec (m.grants i) { batch.template with id := itemId batch.id i }
  unfold submitItem at h ⊢
  rw [h] at hspec
  exact State.Processed.settles hspec

/-- The items of a settled batch are all decided alike. -/
theorem outputs_settled {m : Memory} {batch : BatchRequest} {items : List Nat} {s : State}
    {decisions : List Decision} {opcode : UInt8}
    (h : outputs (submitItem m batch) s items = decisions.map .ok)
    (hverdict : s.verdict batch.template = opcode) (hsettled : s.settled batch.template = opcode) :
    ∀ x ∈ decisions, x = State.decisionOf batch.template opcode := by
  induction items generalizing s decisions with
  | nil =>
      obtain rfl := List.map_eq_nil_iff.mp h.symm
      simp
  | cons i items ih =>
      rw [outputs_cons] at h
      cases decisions with
      | nil => cases h
      | cons d decisions =>
          obtain ⟨hd, hrest⟩ := List.cons.inj h
          obtain ⟨hdecision, hnext, hkept⟩ := submitItem_settles hd
          rw [hsettled] at hnext hkept
          rw [List.forall_mem_cons]
          exact ⟨hdecision.trans (by rw [hverdict]), ih hrest hnext hkept⟩

/-- The first item has the opcode of the state, and the others have the settled
one. -/
theorem outputs_decisions {m : Memory} {batch : BatchRequest} {items : List Nat} {s : State}
    {decisions : List Decision} (h : outputs (submitItem m batch) s items = decisions.map .ok) :
    (∀ x ∈ decisions.head?, x = State.decisionOf batch.template (s.verdict batch.template)) ∧
      ∀ x ∈ decisions.tail, x = State.decisionOf batch.template (s.settled batch.template) := by
  cases items with
  | nil =>
      obtain rfl := List.map_eq_nil_iff.mp h.symm
      simp
  | cons i items =>
      rw [outputs_cons] at h
      cases decisions with
      | nil => cases h
      | cons d decisions =>
          obtain ⟨hd, hrest⟩ := List.cons.inj h
          obtain ⟨hdecision, hnext, hkept⟩ := submitItem_settles hd
          refine ⟨?_, outputs_settled hrest hnext hkept⟩
          rintro x hx
          cases hx
          exact hdecision

section

variable {s : State} {t : Operation}

/-- A transfer between two resources that share nothing is eliminated from the second item
on, as the repetition of the first. -/
theorem State.settled_transfer (htype : t.type = 1 ∨ t.type = 4) {source target : Resource}
    (hsource : s.resources.lookup t.source = some source)
    (htarget : s.resources.lookup t.target = some target) (hne : t.source ≠ t.target)
    (halias : aliasesIntersect source target = false) : s.settled t = 2 := by
  unfold settled
  rw [if_pos htype, hsource, htarget]
  dsimp only
  rw [if_neg hne, halias]
  rfl

/-- A transfer of an unknown resource is executed in every item. -/
theorem State.settled_missing (htype : t.type = 1 ∨ t.type = 4)
    (h : s.resources.lookup t.source = none ∨ s.resources.lookup t.target = none) :
    s.settled t = 0 := by
  unfold settled
  rw [if_pos htype]
  cases hsource : s.resources.lookup t.source with
  | none => rfl
  | some source =>
      rw [hsource] at h
      rw [h.resolve_left (Option.some_ne_none _)]

/-- A transient allocation of a known resource is a reuse from the second item on. -/
theorem State.settled_allocate (htype : t.type = 3) (h : s.resources.lookup t.target ≠ none)
    (htransient : transient t.reason = true) : s.settled t = 6 := by
  have hnot : ¬ (t.type = 1 ∨ t.type = 4) := by
    rw [htype]
    decide
  have hsync : ¬ t.type = 2 := by
    rw [htype]
    decide
  unfold settled
  rw [if_neg hnot, if_neg hsync, if_pos htype, if_pos ⟨h, htransient⟩]

end

namespace ProtocolSession

/-- **A batch settles after one operation.**  Whatever the state, the decisions of
a batch that succeeds are all the same from the second one on.  A transfer
between two registered resources that share no storage is then a duplicate, a
transient allocation of a registered resource reuses the buffer, and a transfer
with an endpoint that is not registered is executed every time. -/
theorem batch_settles (s : ProtocolSession) (m : Memory) (batch : BatchRequest) {payload : Bytes}
    {state : State} (h : s.items m batch = (.ok payload, state)) :
    let template := batch.template
    ∃ decisions : List Decision, decisions.length = batch.count ∧
      payload = batch.id ++ Writer.integer batch.count 2 ++ decisions.flatMap itemEntry ∧
      outputs (submitItem m batch) s.state (List.range batch.count) = decisions.map .ok ∧
      (∃ d, ∀ x ∈ decisions.tail, x = d) ∧
      ((template.type = 1 ∨ template.type = 4) → ∀ source target,
        s.state.resources.lookup template.source = some source →
        s.state.resources.lookup template.target = some target →
        template.source ≠ template.target → aliasesIntersect source target = false →
        ∀ x ∈ decisions.tail, x = { opcode := 2, operation := true,
                                    savedUs := template.microseconds,
                                    savedBytes := template.bytes }) ∧
      (template.type = 3 → s.state.resources.lookup template.target ≠ none →
        State.transient template.reason = true →
        ∀ x ∈ decisions.tail, x = { opcode := 6, operation := true,
                                    savedUs := template.microseconds,
                                    savedBytes := template.bytes }) ∧
      ((template.type = 1 ∨ template.type = 4) →
        (s.state.resources.lookup template.source = none ∨
          s.state.resources.lookup template.target = none) →
        ∀ x ∈ decisions, x = { opcode := 0, operation := true }) := by
  intro template
  obtain ⟨-, decisions, hanswers, hpayload⟩ := batchItems_ok h
  rw [← List.range_eq_range'] at hanswers
  obtain ⟨hhead, htail⟩ := outputs_decisions hanswers
  have hlength := congrArg List.length hanswers
  rw [outputs_length, List.length_range, List.length_map] at hlength
  refine ⟨decisions, hlength.symm, hpayload, hanswers, ⟨_, htail⟩, ?_, ?_, ?_⟩
  · intro htype source target hsource htarget hne halias x hx
    have hsync : template.type ≠ 2 := by
      rcases htype with htype | htype <;> rw [htype] <;> decide
    rw [htail x hx, State.settled_transfer htype hsource htarget hne halias]
    simp [State.decisionOf, template, hsync]
  · intro htype htarget htransient x hx
    have hsync : template.type ≠ 2 := by
      rw [htype]
      decide
    rw [htail x hx, State.settled_allocate htype htarget htransient]
    simp [State.decisionOf, template, hsync]
  · intro htype hmissing x hx
    have hzero : State.decisionOf template 0 = { opcode := 0, operation := true } := by
      simp [State.decisionOf]
    cases decisions with
    | nil => cases hx
    | cons first rest =>
        rcases List.mem_cons.mp hx with rfl | hx
        · rw [hhead x rfl, State.verdict_missing htype hmissing, hzero]
        · rw [htail x hx, State.settled_missing htype hmissing, hzero]

/-- A session in which the two resources of an upload are registered. -/
def uploading : ProtocolSession :=
  { fresh (Vector.replicate 16 1) with
    state := { resources := (AList.insert (literal "vram") { aliases := [], memory := 2 }
      (AList.insert (literal "ram") { aliases := [], memory := 1 } ∅)) } }

/-- Two uploads of four bytes each. -/
def uploads : BatchRequest where
  id := List.replicate 16 7
  count := 2
  template := { source := literal "ram", target := literal "vram", bytes := 4, microseconds := 9,
                type := 4, queue := 2 }

/-- The batch succeeds, and its second upload is dropped. -/
theorem batch_settles_two_uploads :
    ∃ payload state, ∃ decisions : List Decision, uploading.items .ample uploads = (.ok payload, state) ∧
      payload = uploads.id ++ Writer.integer uploads.count 2 ++ decisions.flatMap itemEntry ∧
      outputs (submitItem .ample uploads) uploading.state (List.range uploads.count) =
        decisions.map .ok ∧
      decisions.length = 2 ∧
      ∀ x ∈ decisions.tail, x = { opcode := 2, operation := true, savedUs := 9, savedBytes := 4 } := by
  have hok : (uploading.items .ample uploads).1.isOk = true := by decide
  rcases hitems : uploading.items .ample uploads with ⟨e | payload, state⟩
  · rw [hitems] at hok
    cases hok
  · obtain ⟨decisions, hlength, hpayload, hanswers, -, htransfer, -, -⟩ :=
      uploading.batch_settles .ample uploads hitems
    exact ⟨payload, state, decisions, rfl, hpayload, hanswers, hlength,
      htransfer (by decide) _ _ rfl rfl (by decide) (by decide)⟩

end ProtocolSession

end FluidGateway.Native
