import FluidGateway.Lib.Histories
import FluidGateway.LifetimePlanner

/-!
# Runs of the lifetime planner

The planner keeps the first action that any `finalize` asked for under a name.
So the plan at the end of a run is what the tables ask for at its end only where
no earlier `finalize` asked for something else: `plan_unchanged_iff` says when,
resource by resource and transfer by transfer, and `released_after_use_iff` when a
release is late enough.
-/

namespace FluidGateway.FramePlanning

open FirstKept (findKey collect)
open FluidGateway.Runtime (MemoryLayer RuntimeOperation RuntimeResource)
open Histories (history)
open Sequencing (sortBy)

/-! ## Earlier finalizes -/

/-- The calls before each `finalize`. -/
def earlierFinalizes (calls : List LifetimeCall) : List (List LifetimeCall) :=
  ((history calls).filter fun item => item.2 = .finalize).map Prod.fst

/-- What the tables asked for at these points of a run. -/
def dueAt (points : List (List LifetimeCall)) : List LifetimePlanAction :=
  points.flatMap fun before => (tablesAfter before).dueActions

/-- The calls that a planner receives when nobody asks it for an earlier plan. -/
def withoutFinalizes (calls : List LifetimeCall) : List LifetimeCall :=
  calls.filter fun call => call ≠ .finalize

/-- One call more adds a point only if it is a `finalize`; the point is what came before it. -/
theorem earlierFinalizes_concat (calls : List LifetimeCall) (call : LifetimeCall) :
    earlierFinalizes (calls ++ [call]) =
      earlierFinalizes calls ++ if call = .finalize then [calls] else [] := by
  unfold earlierFinalizes
  rw [Histories.history_concat, List.filter_append, List.map_append]
  by_cases hcall : call = .finalize <;> simp [hcall]

/-- What came before a `finalize` is a prefix of the calls. -/
theorem prefix_of_mem {calls before : List LifetimeCall} (h : before ∈ earlierFinalizes calls) :
    ∃ rest, calls = before ++ rest := by
  obtain ⟨item, hitem, rfl⟩ := List.mem_map.mp h
  obtain ⟨later, hlater⟩ := Histories.mem_history (List.mem_of_mem_filter hitem)
  exact ⟨item.2 :: later, hlater⟩

/-- **The actions of a planner.** They are the first of each name that some `finalize`
asked for. -/
theorem plannerAfter_actions (calls : List LifetimeCall) :
    (plannerAfter calls).actions = collect actionKey (dueAt (earlierFinalizes calls)) := by
  induction calls using List.reverseRecOn with
  | nil => rfl
  | append_singleton calls call ih =>
      have hrun : plannerAfter (calls ++ [call]) = (plannerAfter calls).call call := by
        unfold plannerAfter
        rw [List.foldl_append]
        rfl
      rw [hrun, earlierFinalizes_concat]
      cases call with
      | finalize =>
          have hnow : (plannerAfter calls).dueActions = (tablesAfter calls).dueActions :=
            congrArg LifetimeTables.dueActions (plannerAfter_tables calls)
          change (plannerAfter calls).finalize.1.actions = _
          rw [finalize_actions, ih, hnow, if_pos rfl]
          unfold collect dueAt
          rw [List.flatMap_append, List.foldl_append, List.flatMap_singleton]
      | registerResource => exact ih.trans (by simp)
      | releaseResource => exact ih.trans (by simp)
      | recordOperation => exact ih.trans (by simp)

/-- A plan collects the first action for each key that any `finalize` so far has asked for. -/
theorem planAfter_eq (calls : List LifetimeCall) :
    planAfter calls =
      lifetimePlan (collect actionKey (dueAt (earlierFinalizes calls ++ [calls]))) := by
  have hactions := plannerAfter_actions (calls ++ [.finalize])
  rw [earlierFinalizes_concat, if_pos rfl] at hactions
  unfold plannerAfter at hactions
  rw [List.foldl_append] at hactions
  exact congrArg lifetimePlan hactions

/-- What is recorded is the same without the earlier `finalize` calls. -/
theorem tablesAfter_withoutFinalizes (calls : List LifetimeCall) :
    tablesAfter (withoutFinalizes calls) = tablesAfter calls := by
  unfold tablesAfter withoutFinalizes
  generalize LifetimeTables.empty = tables
  induction calls generalizing tables with
  | nil => rfl
  | cons call calls ih =>
      by_cases hcall : call = .finalize
      · rw [List.filter_cons_of_neg (by simpa using hcall), ih, hcall]
        rfl
      · rw [List.filter_cons_of_pos (by simpa using hcall)]
        exact ih _

/-- Without the earlier `finalize` calls only the last one asks for actions. -/
theorem earlierFinalizes_withoutFinalizes (calls : List LifetimeCall) :
    earlierFinalizes (withoutFinalizes calls) = [] := by
  induction calls using List.reverseRecOn with
  | nil => rfl
  | append_singleton calls call ih =>
      unfold withoutFinalizes at ih ⊢
      rw [List.filter_append]
      by_cases hcall : call = .finalize
      · rw [List.filter_cons_of_neg (by simpa using hcall), List.filter_nil, List.append_nil]
        exact ih
      · rw [List.filter_cons_of_pos (by simpa using hcall), List.filter_nil,
          earlierFinalizes_concat, ih, if_neg hcall]
        rfl

/-- The plan of a planner that was not asked before. -/
theorem planAfter_withoutFinalizes (calls : List LifetimeCall) :
    planAfter (withoutFinalizes calls) =
      lifetimePlan (collect actionKey (tablesAfter calls).dueActions) := by
  rw [planAfter_eq, earlierFinalizes_withoutFinalizes]
  unfold dueAt
  rw [List.nil_append, List.flatMap_singleton, tablesAfter_withoutFinalizes]

/-! ## Keys -/

/-- Moved transfers name the operation twice. -/
def keyOf (action : LifetimeAction) (resourceId : String) :
    LifetimeAction × String × Option String :=
  match action with
  | .keepResident | .releaseAfterFrame => (action, resourceId, none)
  | .prefetchBeforeFrame | .deferUpload => (action, resourceId, some resourceId)

/-- The key of an action is its kind with what it is about: a resource for two kinds, an
operation for the other two. -/
theorem actionKey_eq {tables : LifetimeTables} {action : LifetimePlanAction}
    (h : action ∈ tables.dueActions) : actionKey action = keyOf action.action action.resourceId := by
  obtain hresource | htransfer := List.mem_append.mp h
  · obtain ⟨item, -, hitem⟩ := List.mem_flatMap.mp hresource
    obtain hresident | hrelease := List.mem_append.mp hitem
    · split_ifs at hresident with hdue
      · obtain rfl := List.mem_singleton.mp hresident
        rfl
      · cases hresident
    · split_ifs at hrelease with hdue
      · obtain rfl := List.mem_singleton.mp hrelease
        rfl
      · cases hrelease
  · obtain ⟨operation, -, hoperation⟩ := List.mem_flatMap.mp htransfer
    unfold LifetimeTables.transferActions at hoperation
    split_ifs at hoperation with hdue
    · obtain rfl | hdefer := List.mem_cons.mp hoperation
      · rfl
      · obtain rfl := List.mem_singleton.mp hdefer
        rfl
    · cases hoperation

/-- Kinds of actions have different texts, by which the plan is sorted. -/
theorem text_injective {action other : LifetimeAction} (h : action.text = other.text) :
    action = other := by
  cases action <;> cases other <;> first | rfl | exact absurd h (by decide)

/-- The same of every action that a plan collects. -/
theorem actionKey_of_mem {points : List (List LifetimeCall)} {action : LifetimePlanAction}
    (h : action ∈ collect actionKey (dueAt points)) :
    actionKey action = keyOf action.action action.resourceId := by
  have hdue := FirstKept.mem_of_findKey ((FirstKept.mem_collect actionKey).mp h)
  obtain ⟨before, -, hmem⟩ := List.mem_flatMap.mp hdue
  exact actionKey_eq hmem

/-- No two actions of a plan are sorted alike. -/
theorem planKey_injective {points : List (List LifetimeCall)} :
    ∀ a ∈ collect actionKey (dueAt points), ∀ b ∈ collect actionKey (dueAt points),
      planKey a = planKey b → a = b := by
  intro a ha b hb hsorted
  obtain ⟨-, hrest⟩ := Prod.mk.inj (toLex_inj.mp hsorted)
  obtain ⟨htext, hresource⟩ := Prod.mk.inj (toLex_inj.mp hrest)
  have hkey : actionKey a = actionKey b := by
    rw [actionKey_of_mem ha, actionKey_of_mem hb, text_injective htext, hresource]
  exact List.inj_on_of_nodup_map (FirstKept.nodup_collect actionKey _) ha hb hkey

/-! ## Plans of the same actions -/

/-- The reduced transfers are summed over a table, whose total does not depend on the order
of the actions. -/
theorem reducedTransfer_perm {l l' : List LifetimePlanAction} (h : l.Perm l') :
    (reducedTransferMbByOperation l).values.sum = (reducedTransferMbByOperation l').values.sum := by
  have hitems : (reducedTransferMbByOperation l).items.Perm
      (reducedTransferMbByOperation l').items := by
    apply OrderedDict.foldl_update_items_perm
      (fun v (action : LifetimePlanAction) => max action.sizeMb (v.getD 0))
    · intro v a b
      exact max_left_comm _ _ _
    · exact h.filter _
  exact (hitems.map Prod.snd).sum_eq

/-- Two plans are equal when they list the same actions: the order and all totals follow
from these. -/
theorem lifetimePlan_eq_iff {points points' : List (List LifetimeCall)} :
    lifetimePlan (collect actionKey (dueAt points)) =
        lifetimePlan (collect actionKey (dueAt points')) ↔
      (collect actionKey (dueAt points)).Perm (collect actionKey (dueAt points')) := by
  constructor
  · intro hplan
    have hsorted : sortBy planKey (collect actionKey (dueAt points)) =
        sortBy planKey (collect actionKey (dueAt points')) :=
      congrArg ResourceLifetimePlan.actions hplan
    apply (Sequencing.sortBy_perm planKey _).symm.trans
    rw [hsorted]
    exact Sequencing.sortBy_perm planKey _
  · intro hperm
    unfold lifetimePlan releaseMb
    rw [hperm.length_eq, reducedTransfer_perm hperm, ((hperm.filter _).map _).sum_eq,
      Sequencing.sortBy_eq_of_perm hperm planKey_injective]

/-! ## What a plan reads -/

namespace LifetimeTables

variable (tables : LifetimeTables)

/-- Whether a resource to keep resident is a texture, and its size. -/
def residency (resourceId : String) : Option (Bool × ℚ) :=
  (tables.resources.get resourceId).bind fun resource =>
    if residentResource resource ∧ (tables.firstUseFrame.get resourceId).isSome then
      some (resource.kind = .texture, resource.sizeMb)
    else none

/-- Memory, size and last recorded use of a transient resource. -/
def retirement (resourceId : String) : Option (MemoryLayer × ℚ × Option ℤ) :=
  (tables.resources.get resourceId).bind fun resource =>
    if resource.lifetime = "transient" then
      some (resource.memory, resource.sizeMb, tables.lastUseFrame.get resourceId)
    else none

/-- The first large transfer of this name. -/
def transfer (operationId : String) : Option RuntimeOperation :=
  tables.transferOperations.find? fun operation =>
    operation.id = operationId ∧ largeTransfer operation

/-- The memory that it writes to. -/
def landing (operationId : String) : Option (Option MemoryLayer) :=
  (tables.transfer operationId).map tables.targetMemory

/-- The action of a name that the tables ask for. -/
def due (action : LifetimeAction) (resourceId : String) : Option LifetimePlanAction :=
  findKey actionKey (keyOf action resourceId) tables.dueActions

variable {tables}

/-- Among the actions of a resource, the residency of a name is that of the resource itself. -/
theorem findKey_resident (resourceId name : String) (resource : RuntimeResource) :
    findKey actionKey (keyOf .keepResident resourceId) (tables.resourceActions name resource) =
      if name = resourceId ∧ residentResource resource ∧
          (tables.firstUseFrame.get name).isSome then
        some (residentAction name (resource.kind = .texture) resource.sizeMb
          (tables.firstUseFrame.get name))
      else none := by
  unfold resourceActions
  rw [FirstKept.findKey_append, FirstKept.findKey_if, FirstKept.findKey_if]
  simp [actionKey, keyOf, residentAction, releaseAction]

/-- Among the actions of a resource, the release of a name is that of the resource itself. -/
theorem findKey_release (resourceId name : String) (resource : RuntimeResource) :
    findKey actionKey (keyOf .releaseAfterFrame resourceId)
        (tables.resourceActions name resource) =
      if name = resourceId ∧ resource.lifetime = "transient" then
        some (releaseAction name resource.memory resource.sizeMb (tables.lastUseFrame.get name))
      else none := by
  unfold resourceActions
  rw [FirstKept.findKey_append, FirstKept.findKey_if, FirstKept.findKey_if]
  simp [actionKey, keyOf, residentAction, releaseAction]

/-- Among the actions of a transfer, the prefetch for an id is that of the transfer itself. -/
theorem findKey_prefetch (operationId : String) (operation : RuntimeOperation) :
    findKey actionKey (keyOf .prefetchBeforeFrame operationId)
        (tables.transferActions operation) =
      if operation.id = operationId ∧ largeTransfer operation then
        some (prefetchAction operation (tables.targetMemory operation))
      else none := by
  unfold findKey transferActions
  split_ifs <;> simp_all [actionKey, keyOf, prefetchAction, deferAction]

/-- Among the actions of a transfer, the deferral for an id is that of the transfer itself. -/
theorem findKey_defer (operationId : String) (operation : RuntimeOperation) :
    findKey actionKey (keyOf .deferUpload operationId) (tables.transferActions operation) =
      if operation.id = operationId ∧ largeTransfer operation then
        some (deferAction operation (tables.targetMemory operation))
      else none := by
  unfold findKey transferActions
  split_ifs <;> simp_all [actionKey, keyOf, prefetchAction, deferAction]

/-- Resources ask for no moved transfer. -/
theorem findKey_resources_of_transfer {action : LifetimeAction} {name : String}
    (h : action = .prefetchBeforeFrame ∨ action = .deferUpload) :
    findKey actionKey (keyOf action name)
      (tables.resources.items.flatMap fun item => tables.resourceActions item.1 item.2) = none := by
  rw [FirstKept.findKey_flatMap]
  apply List.findSome?_eq_none_iff.mpr
  intro item _
  unfold resourceActions
  rw [FirstKept.findKey_append, FirstKept.findKey_if, FirstKept.findKey_if]
  obtain rfl | rfl := h <;> simp [actionKey, keyOf, residentAction, releaseAction]

/-- Transfers ask for nothing of a resource. -/
theorem findKey_transfers_of_resource {action : LifetimeAction} {name : String}
    (h : action = .keepResident ∨ action = .releaseAfterFrame) :
    findKey actionKey (keyOf action name)
      (tables.transferOperations.flatMap tables.transferActions) = none := by
  rw [FirstKept.findKey_flatMap]
  apply List.findSome?_eq_none_iff.mpr
  intro operation _
  unfold findKey transferActions
  obtain rfl | rfl := h <;> split_ifs <;> simp [actionKey, keyOf, prefetchAction, deferAction]

/-- What is asked of a resource under its own name. -/
theorem findKey_resources (action : LifetimeAction) (resourceId : String) :
    findKey actionKey (keyOf action resourceId)
        (tables.resources.items.flatMap fun item => tables.resourceActions item.1 item.2) =
      (tables.resources.get resourceId).bind fun resource =>
        findKey actionKey (keyOf action resourceId)
          (tables.resourceActions resourceId resource) := by
  rw [FirstKept.findKey_flatMap]
  apply OrderedDict.findSome_items tables.resources resourceId fun name resource =>
    findKey actionKey (keyOf action resourceId) (tables.resourceActions name resource)
  intro name resource hne
  unfold resourceActions
  rw [FirstKept.findKey_append, FirstKept.findKey_if, FirstKept.findKey_if]
  cases action <;> simp [actionKey, keyOf, residentAction, releaseAction, hne]

/-- What `finalize` asks for to keep a resource, as it is read off the tables. -/
theorem due_keepResident (resourceId : String) :
    tables.due .keepResident resourceId =
      (tables.residency resourceId).map fun read =>
        residentAction resourceId read.1 read.2 (tables.firstUseFrame.get resourceId) := by
  unfold due dueActions residency
  rw [FirstKept.findKey_append, findKey_transfers_of_resource (Or.inl rfl), Option.or_none,
    findKey_resources]
  simp only [findKey_resident, true_and]
  cases tables.resources.get resourceId with
  | none => rfl
  | some resource =>
      rw [Option.bind_some, Option.bind_some]
      split_ifs <;> rfl

/-- What `finalize` asks for to release a resource, as it is read off the tables. -/
theorem due_releaseAfterFrame (resourceId : String) :
    tables.due .releaseAfterFrame resourceId =
      (tables.retirement resourceId).map fun read =>
        releaseAction resourceId read.1 read.2.1 read.2.2 := by
  unfold due dueActions retirement
  rw [FirstKept.findKey_append, findKey_transfers_of_resource (Or.inr rfl), Option.or_none,
    findKey_resources]
  simp only [findKey_release, true_and]
  cases tables.resources.get resourceId with
  | none => rfl
  | some resource =>
      rw [Option.bind_some, Option.bind_some]
      split_ifs <;> rfl

/-- What `finalize` asks for to prefetch a transfer, as it is read off the tables. -/
theorem due_prefetchBeforeFrame (operationId : String) :
    tables.due .prefetchBeforeFrame operationId =
      (tables.transfer operationId).map fun operation =>
        prefetchAction operation (tables.targetMemory operation) := by
  unfold due dueActions
  rw [FirstKept.findKey_append, findKey_resources_of_transfer (Or.inl rfl), Option.none_or,
    FirstKept.findKey_flatMap]
  simp only [findKey_prefetch]
  exact FirstKept.findSome_if _ _ _

/-- What `finalize` asks for to defer a transfer, as it is read off the tables. -/
theorem due_deferUpload (operationId : String) :
    tables.due .deferUpload operationId =
      (tables.transfer operationId).map fun operation =>
        deferAction operation (tables.targetMemory operation) := by
  unfold due dueActions
  rw [FirstKept.findKey_append, findKey_resources_of_transfer (Or.inr rfl), Option.none_or,
    FirstKept.findKey_flatMap]
  simp only [findKey_defer]
  exact FirstKept.findSome_if _ _ _

end LifetimeTables

/-! ## What later calls leave -/

/-- A first use stays, and so does a recorded transfer. -/
structure LifetimeTables.Grows (before after : LifetimeTables) : Prop where
  firstUse : ∀ name frame, before.firstUseFrame.get name = some frame →
    after.firstUseFrame.get name = some frame
  transfers : before.transferOperations <+: after.transferOperations

namespace LifetimeTables.Grows

/-- Tables have what they have. -/
theorem refl (tables : LifetimeTables) : Grows tables tables :=
  ⟨fun _ _ h => h, List.prefix_rfl⟩

/-- What tables keep through two calls they keep through both. -/
theorem trans {first middle last : LifetimeTables} (h : Grows first middle)
    (h' : Grows middle last) : Grows first last :=
  ⟨fun name frame hfirst => h'.firstUse name frame (h.firstUse name frame hfirst),
    h.transfers.trans h'.transfers⟩

/-- Recording a use keeps the first frames of all resources. -/
theorem recordUse (tables : LifetimeTables) (resourceId : String) (frame : ℤ) :
    Grows tables (tables.recordUse resourceId frame) := by
  refine ⟨?_, List.prefix_rfl⟩
  intro name first hfirst
  unfold LifetimeTables.recordUse
  split_ifs with hused
  · exact hfirst
  · have hne : resourceId ≠ name := by
      intro hsame
      rw [hsame] at hused
      exact hused (congrArg Option.isSome hfirst)
    exact (OrderedDict.get_set _ _ _ _).trans ((if_neg hne).trans hfirst)

/-- Recording the uses of an operation keeps the first frames, one use after the other. -/
theorem recordUses (tables : LifetimeTables) (operation : RuntimeOperation) :
    Grows tables (tables.recordUses operation) := by
  unfold LifetimeTables.recordUses
  cases operation.frame with
  | none => exact refl tables
  | some frame =>
      simp only
      generalize usedResources operation = names
      induction names generalizing tables with
      | nil => exact refl tables
      | cons name names ih => exact (recordUse tables name frame).trans (ih _)

/-- Every call keeps the first frames and the transfers that were recorded. -/
theorem call (tables : LifetimeTables) (call : LifetimeCall) :
    Grows tables (tables.call call) := by
  cases call with
  | finalize => exact refl tables
  | registerResource resource frame =>
      cases frame with
      | none => exact ⟨fun _ _ h => h, List.prefix_rfl⟩
      | some frame =>
          have hresources : Grows tables
              { tables with resources := tables.resources.set resource.id resource } :=
            ⟨fun _ _ h => h, List.prefix_rfl⟩
          exact hresources.trans (recordUse _ resource.id frame)
  | releaseResource resource resourceId =>
      cases resource with
      | none => exact refl tables
      | some resource => exact ⟨fun _ _ h => h, List.prefix_rfl⟩
  | recordOperation operation executed =>
      change Grows tables (tables.recordOperation operation executed)
      unfold LifetimeTables.recordOperation
      split_ifs with hexecuted htransfer
      · exact (recordUses tables operation).trans ⟨fun _ _ h => h, List.prefix_append _ _⟩
      · exact recordUses tables operation
      · exact refl tables

/-- Tables only grow along the calls; the induction is on the calls that follow. -/
theorem run (before rest : List LifetimeCall) :
    Grows (tablesAfter before) (tablesAfter (before ++ rest)) := by
  unfold tablesAfter
  rw [List.foldl_append]
  generalize before.foldl LifetimeTables.call .empty = tables
  induction rest generalizing tables with
  | nil => exact refl tables
  | cons first rest ih => exact (call tables first).trans (ih _)

/-- A transfer that was found under an id is found again: later ones come behind it. -/
theorem transfer {before after : LifetimeTables} (h : Grows before after) {operationId : String}
    {operation : RuntimeOperation} (hfound : before.transfer operationId = some operation) :
    after.transfer operationId = some operation :=
  h.transfers.find?_eq_some hfound

end LifetimeTables.Grows

/-! ## Plans and earlier plans -/

/-- What the first earlier `finalize` read that read anything is still read. -/
def Kept {β : Type} (read : LifetimeTables → Option β) (calls : List LifetimeCall) : Prop :=
  ∀ x, (earlierFinalizes calls).findSome? (fun before => read (tablesAfter before)) = some x →
    read (tablesAfter calls) = some x

/-- Everything that an earlier `finalize` read is still so at the end of the run. -/
structure Settled (calls : List LifetimeCall) : Prop where
  residency : ∀ resourceId, Kept (fun tables => tables.residency resourceId) calls
  retirement : ∀ resourceId, Kept (fun tables => tables.retirement resourceId) calls
  landing : ∀ operationId, Kept (fun tables => tables.landing operationId) calls

section

variable {β γ : Type} {calls : List LifetimeCall}

/-- Keeping what is read of the tables is keeping the action that is made of it, where
different readings make different actions. -/
theorem kept_map_iff {read : LifetimeTables → Option β} {due : LifetimeTables → Option γ}
    (make : β → γ) (hmake : Function.Injective make)
    (hdue : ∀ before rest, calls = before ++ rest →
      due (tablesAfter before) = (read (tablesAfter before)).map make) :
    Kept due calls ↔ Kept read calls := by
  have hearlier : (earlierFinalizes calls).findSome? (fun before => due (tablesAfter before)) =
      ((earlierFinalizes calls).findSome? fun before => read (tablesAfter before)).map make := by
    rw [List.map_findSome?]
    apply FirstKept.findSome_congr
    intro before hbefore
    obtain ⟨rest, hrest⟩ := prefix_of_mem hbefore
    exact hdue before rest hrest
  unfold Kept
  rw [hearlier, hdue calls [] (List.append_nil calls).symm]
  constructor
  · intro h x hx
    have hmade := h (make x) (congrArg (Option.map make) hx)
    obtain ⟨y, hy, hsame⟩ := Option.map_eq_some_iff.mp hmade
    rw [hy, hmake hsame]
  · intro h a ha
    obtain ⟨x, hx, rfl⟩ := Option.map_eq_some_iff.mp ha
    rw [h x hx]
    rfl

/-- A resource that is kept resident was used in some frame. -/
theorem used_of_residency {tables : LifetimeTables} {resourceId : String} {read : Bool × ℚ}
    (h : tables.residency resourceId = some read) :
    ∃ frame, tables.firstUseFrame.get resourceId = some frame := by
  obtain ⟨resource, -, hread⟩ := Option.bind_eq_some_iff.mp h
  split_ifs at hread with hresident
  exact Option.isSome_iff_exists.mp hresident.2

/-- A residency stays as it was first asked for exactly where the kind and the size of its
resource do: its frame is the first use, which stays. -/
theorem kept_keepResident_iff (resourceId : String) :
    Kept (fun tables => tables.due .keepResident resourceId) calls ↔
      Kept (fun tables => tables.residency resourceId) calls := by
  apply kept_map_iff fun read : Bool × ℚ =>
    residentAction resourceId read.1 read.2 ((tablesAfter calls).firstUseFrame.get resourceId)
  · intro read read' hsame
    have hsize := congrArg LifetimePlanAction.sizeMb hsame
    have hpriority : (if read.1 = true then 85 else 70 : ℤ) = if read'.1 = true then 85 else 70 :=
      congrArg LifetimePlanAction.priority hsame
    have htexture : read.1 = read'.1 := by
      cases htexture : read.1 <;> cases htexture' : read'.1 <;> simp_all
    exact Prod.ext htexture hsize
  · intro before rest hcalls
    rw [LifetimeTables.due_keepResident]
    cases hread : (tablesAfter before).residency resourceId with
    | none => rfl
    | some read =>
        obtain ⟨frame, hframe⟩ := used_of_residency hread
        have hlater := (LifetimeTables.Grows.run before rest).firstUse resourceId frame hframe
        rw [← hcalls] at hlater
        rw [hframe, hlater]

/-- A release stays as it was first asked for exactly where the memory, the size and the
last use of its resource do. -/
theorem kept_releaseAfterFrame_iff (resourceId : String) :
    Kept (fun tables => tables.due .releaseAfterFrame resourceId) calls ↔
      Kept (fun tables => tables.retirement resourceId) calls := by
  apply kept_map_iff fun read : MemoryLayer × ℚ × Option ℤ =>
    releaseAction resourceId read.1 read.2.1 read.2.2
  · intro read read' hsame
    have hmemory := Option.some.inj (congrArg LifetimePlanAction.memory hsame)
    have hsize := congrArg LifetimePlanAction.sizeMb hsame
    have hframe := congrArg LifetimePlanAction.targetFrame hsame
    exact Prod.ext hmemory (Prod.ext hsize hframe)
  · intro before rest _
    exact LifetimeTables.due_releaseAfterFrame resourceId

/-- What is asked for a transfer depends on the run only through the memory it lands in. -/
theorem kept_transfer_iff {action : LifetimeAction} {operationId : String}
    {make : RuntimeOperation → Option MemoryLayer → LifetimePlanAction}
    (hdue : ∀ tables : LifetimeTables, tables.due action operationId =
      (tables.transfer operationId).map fun operation =>
        make operation (tables.targetMemory operation))
    (hmake : ∀ operation memory, (make operation memory).memory = memory) :
    Kept (fun tables => tables.due action operationId) calls ↔
      Kept (fun tables => tables.landing operationId) calls := by
  apply kept_map_iff fun memory =>
    make (((tablesAfter calls).transfer operationId).getD { id := operationId, type := .copy })
      memory
  · intro memory memory' hsame
    have hmemory := congrArg LifetimePlanAction.memory hsame
    rwa [hmake, hmake] at hmemory
  · intro before rest hcalls
    rw [hdue]
    unfold LifetimeTables.landing
    cases hfound : (tablesAfter before).transfer operationId with
    | none => rfl
    | some operation =>
        have hlater := (LifetimeTables.Grows.run before rest).transfer hfound
        rw [← hcalls] at hlater
        rw [hlater]
        rfl

end

/-- What several `finalize` calls ask for, one after the other. -/
theorem dueAt_append (points points' : List (List LifetimeCall)) :
    dueAt (points ++ points') = dueAt points ++ dueAt points' :=
  List.flatMap_append

/-- Nothing is found under a key that no action has. -/
theorem kept_findKey_iff (calls : List LifetimeCall) :
    (∀ key action, findKey actionKey key (dueAt (earlierFinalizes calls)) = some action →
        findKey actionKey key (tablesAfter calls).dueActions = some action) ↔
      ∀ action name, Kept (fun tables => tables.due action name) calls := by
  constructor
  · intro h action name asked hasked
    apply h
    unfold dueAt
    rw [FirstKept.findKey_flatMap]
    exact hasked
  · intro h key asked hasked
    obtain ⟨before, -, hmem⟩ := List.mem_flatMap.mp (FirstKept.mem_of_findKey hasked)
    obtain rfl : keyOf asked.action asked.resourceId = key :=
      (actionKey_eq hmem).symm.trans (FirstKept.key_of_findKey hasked)
    apply h
    unfold dueAt at hasked
    rw [FirstKept.findKey_flatMap] at hasked
    exact hasked

/-- **Asking for a plan.** The earlier plans of a run change its last plan exactly when
something that the first of them to read it read is not so at the end. -/
theorem plan_unchanged_iff (calls : List LifetimeCall) :
    planAfter calls = planAfter (withoutFinalizes calls) ↔ Settled calls := by
  have hnow : dueAt [calls] = (tablesAfter calls).dueActions := List.flatMap_singleton _ _
  have hwithout : planAfter (withoutFinalizes calls) =
      lifetimePlan (collect actionKey (dueAt [calls])) := by
    rw [planAfter_withoutFinalizes, hnow]
  rw [planAfter_eq, hwithout, lifetimePlan_eq_iff, dueAt_append,
    FirstKept.collect_append_perm_iff, hnow, kept_findKey_iff]
  constructor
  · intro h
    refine ⟨?_, ?_, ?_⟩
    · intro resourceId
      exact (kept_keepResident_iff resourceId).mp (h _ _)
    · intro resourceId
      exact (kept_releaseAfterFrame_iff resourceId).mp (h _ _)
    · intro operationId
      exact (kept_transfer_iff (fun tables => tables.due_prefetchBeforeFrame operationId)
        fun _ _ => rfl).mp (h _ _)
  · intro h action name
    cases action with
    | keepResident => exact (kept_keepResident_iff name).mpr (h.residency name)
    | releaseAfterFrame => exact (kept_releaseAfterFrame_iff name).mpr (h.retirement name)
    | prefetchBeforeFrame =>
        exact (kept_transfer_iff (fun tables => tables.due_prefetchBeforeFrame name)
          fun _ _ => rfl).mpr (h.landing name)
    | deferUpload =>
        exact (kept_transfer_iff (fun tables => tables.due_deferUpload name)
          fun _ _ => rfl).mpr (h.landing name)

/-- A transient buffer, and work that uses it. -/
def scratch : RuntimeResource where
  id := "scratch"
  kind := .buffer
  memory := .staging
  sizeMb := 8
  lifetime := "transient"

/-- Work in a frame that reads the scratch buffer. -/
def scratchWork (id : String) (frame : ℤ) : RuntimeOperation where
  id := id
  type := .compute
  source := some "scratch"
  frame := some frame

/-- The plan asked for in frame 1 is still followed after the use in frame 2. -/
theorem earlier_plan_kept :
    ¬ ∀ calls : List LifetimeCall, planAfter calls = planAfter (withoutFinalizes calls) := by
  intro h
  have hplan := h [.registerResource scratch (some 1), .finalize,
    .recordOperation (scratchWork "blur" 2) true]
  have htargets := congrArg (fun plan : ResourceLifetimePlan =>
    plan.actions.map LifetimePlanAction.targetFrame) hplan
  exact absurd htargets (by decide +kernel)

/-! ## Releases -/

/-- The frame in which a call uses a resource. -/
def useOf (name : String) : LifetimeCall → Option ℤ
  | .registerResource resource frame => if resource.id = name then frame else none
  | .recordOperation operation executed =>
      if executed = true ∧ name ∈ LifetimeTables.usedResources operation then operation.frame
      else none
  | .releaseResource _ _ | .finalize => none

/-- The frame of the last call that used the resource. -/
def latestUse (name : String) (calls : List LifetimeCall) : Option ℤ :=
  (calls.filterMap (useOf name)).getLast?

/-- An executed operation of the frame has the resource as source or target. -/
def UsedIn (calls : List LifetimeCall) (name : String) (frame : ℤ) : Prop :=
  ∃ operation, .recordOperation operation true ∈ calls ∧ operation.frame = some frame ∧
    (operation.source = some name ∨ operation.target = some name)

/-- No release of the plan comes before a use of the resource. -/
def ReleasedAfterUse (calls : List LifetimeCall) : Prop :=
  ∀ action ∈ (planAfter calls).actions, action.action = .releaseAfterFrame →
    ∀ frame, UsedIn calls action.resourceId frame →
      ∃ target, action.targetFrame = some target ∧ frame ≤ target

/-- The calls before the first `finalize`, of the run or after it, that finds the resource
transient. -/
def firstRetiring (calls : List LifetimeCall) (name : String) : Option (List LifetimeCall) :=
  (earlierFinalizes calls ++ [calls]).find? fun before =>
    ((tablesAfter before).retirement name).isSome

/-- The last use of a name is the frame of the operation, if it is one of its resources. -/
theorem lastUse_recordUses (tables : LifetimeTables) (operation : RuntimeOperation)
    (name : String) :
    (tables.recordUses operation).lastUseFrame.get name =
      (if name ∈ LifetimeTables.usedResources operation then operation.frame else none).or
        (tables.lastUseFrame.get name) := by
  unfold LifetimeTables.recordUses
  cases operation.frame with
  | none => simp
  | some frame =>
      simp only
      generalize LifetimeTables.usedResources operation = names
      induction names generalizing tables with
      | nil => rfl
      | cons first names ih =>
          rw [List.foldl_cons, ih]
          unfold LifetimeTables.recordUse
          rw [OrderedDict.get_set]
          by_cases hname : name ∈ names
          · simp [hname]
          · by_cases hfirst : first = name
            · simp [hfirst, hname]
            · simp [hfirst, Ne.symm hfirst, hname]

/-- The last use of a name after one call more: that of the call, if it is a use. -/
theorem lastUse_call (tables : LifetimeTables) (call : LifetimeCall) (name : String) :
    (tables.call call).lastUseFrame.get name =
      (useOf name call).or (tables.lastUseFrame.get name) := by
  cases call with
  | finalize => rfl
  | releaseResource resource resourceId => cases resource <;> rfl
  | registerResource resource frame =>
      change _ = (if resource.id = name then frame else none).or _
      cases frame with
      | none => rw [ite_self]; rfl
      | some frame =>
          change (OrderedDict.set _ _ _).get name = _
          rw [OrderedDict.get_set]
          split_ifs <;> rfl
  | recordOperation operation executed =>
      cases executed with
      | false => rfl
      | true =>
          change _ = (if true = true ∧ name ∈ LifetimeTables.usedResources operation then
            operation.frame else none).or _
          simp only [true_and]
          rw [← lastUse_recordUses]
          change (tables.recordOperation operation true).lastUseFrame.get name = _
          unfold LifetimeTables.recordOperation
          rw [if_pos rfl]
          split_ifs <;> rfl

/-- The table of last uses has the frame of the last call, not the largest one. -/
theorem lastUse_eq (calls : List LifetimeCall) (name : String) :
    (tablesAfter calls).lastUseFrame.get name = latestUse name calls := by
  induction calls using List.reverseRecOn with
  | nil => rfl
  | append_singleton calls call ih =>
      have hrun : tablesAfter (calls ++ [call]) = (tablesAfter calls).call call := by
        unfold tablesAfter
        rw [List.foldl_append]
        rfl
      unfold latestUse at ih ⊢
      rw [hrun, lastUse_call, ih, List.filterMap_append, List.getLast?_append]
      cases huse : useOf name call <;> simp [huse]

/-- What the plan has to release a resource is what the first `finalize` that found it
transient asked for. -/
theorem findKey_releases (calls : List LifetimeCall) (name : String) :
    findKey actionKey (keyOf .releaseAfterFrame name)
        (dueAt (earlierFinalizes calls ++ [calls])) =
      ((firstRetiring calls name).bind fun before =>
        (tablesAfter before).retirement name).map fun read =>
          releaseAction name read.1 read.2.1 read.2.2 := by
  unfold dueAt firstRetiring
  rw [FirstKept.findKey_flatMap, ← FirstKept.findSome_eq_bind, List.map_findSome?]
  apply FirstKept.findSome_congr
  intro before _
  exact LifetimeTables.due_releaseAfterFrame name

/-- An action is in the plan exactly when it was the first that was asked for under its key. -/
theorem mem_plan {calls : List LifetimeCall} {action : LifetimePlanAction} :
    action ∈ (planAfter calls).actions ↔
      findKey actionKey (actionKey action) (dueAt (earlierFinalizes calls ++ [calls])) =
        some action := by
  rw [planAfter_eq]
  exact (Sequencing.sortBy_perm planKey _).mem_iff.trans (FirstKept.mem_collect actionKey)

/-- The frame of a release that is asked for is that of the latest use by then. -/
theorem lastUse_of_retirement {calls : List LifetimeCall} {name : String}
    {read : MemoryLayer × ℚ × Option ℤ} (h : (tablesAfter calls).retirement name = some read) :
    read.2.2 = latestUse name calls := by
  obtain ⟨resource, -, hread⟩ := Option.bind_eq_some_iff.mp h
  split_ifs at hread with htransient
  obtain rfl := Option.some.inj hread
  exact lastUse_eq calls name

/-- A release of the plan is for the last call that had used the resource at that
`finalize`. -/
theorem release_target {calls : List LifetimeCall} {action : LifetimePlanAction}
    (hmem : action ∈ (planAfter calls).actions) (hrelease : action.action = .releaseAfterFrame) :
    ∃ before, firstRetiring calls action.resourceId = some before ∧
      action.targetFrame = latestUse action.resourceId before := by
  have hfound := mem_plan.mp hmem
  obtain ⟨point, -, hdue⟩ := List.mem_flatMap.mp (FirstKept.mem_of_findKey hfound)
  rw [actionKey_eq hdue, hrelease, findKey_releases] at hfound
  obtain ⟨read, hread, haction⟩ := Option.map_eq_some_iff.mp hfound
  obtain ⟨before, hfirst, hretired⟩ := Option.bind_eq_some_iff.mp hread
  refine ⟨before, hfirst, ?_⟩
  rw [← lastUse_of_retirement hretired]
  exact (congrArg LifetimePlanAction.targetFrame haction).symm

/-- A resource that was ever to be released is released after its latest use at that point. -/
theorem exists_release {calls before : List LifetimeCall} {name : String}
    (hfirst : firstRetiring calls name = some before) :
    ∃ action ∈ (planAfter calls).actions, action.action = .releaseAfterFrame ∧
      action.resourceId = name ∧ action.targetFrame = latestUse name before := by
  have hsome : ((tablesAfter before).retirement name).isSome = true :=
    List.find?_some (p := fun before => ((tablesAfter before).retirement name).isSome) hfirst
  obtain ⟨read, hread⟩ := Option.isSome_iff_exists.mp hsome
  refine ⟨releaseAction name read.1 read.2.1 read.2.2, mem_plan.mpr ?_, rfl, rfl,
    lastUse_of_retirement hread⟩
  change findKey actionKey (keyOf .releaseAfterFrame name) _ = _
  rw [findKey_releases, hfirst, Option.bind_some, hread]
  rfl

/-- **Releases.** No release comes before a use of its resource exactly when, for each
resource, the last call that used it before the first `finalize` that finds it transient
is of a frame at least as large as every frame of the run that uses it. -/
theorem released_after_use_iff (calls : List LifetimeCall) :
    ReleasedAfterUse calls ↔
      ∀ name before, firstRetiring calls name = some before → ∀ frame, UsedIn calls name frame →
        ∃ last, latestUse name before = some last ∧ frame ≤ last := by
  constructor
  · intro h name before hfirst frame hused
    obtain ⟨action, hmem, hrelease, rfl, htarget⟩ := exists_release hfirst
    rw [← htarget]
    exact h action hmem hrelease frame hused
  · intro h action hmem hrelease frame hused
    obtain ⟨before, hfirst, htarget⟩ := release_target hmem hrelease
    rw [htarget]
    exact h action.resourceId before hfirst frame hused

/-- Work of frame 3 that is recorded after work of frame 5 moves the release to frame 3. -/
theorem released_before_use : ¬ ∀ calls : List LifetimeCall, ReleasedAfterUse calls := by
  intro h
  obtain ⟨target, htarget, hle⟩ := h [.registerResource scratch none,
      .recordOperation (scratchWork "blur" 5) true, .recordOperation (scratchWork "glow" 3) true]
    (releaseAction "scratch" .staging 8 (some 3)) (by decide +kernel) rfl 5
    ⟨scratchWork "blur" 5, by simp, rfl, Or.inl rfl⟩
  obtain rfl := Option.some.inj htarget
  exact absurd hle (by decide)

end FluidGateway.FramePlanning
