import FluidGateway.Lib.FirstKept
import FluidGateway.Lib.OrderedDict
import FluidGateway.Lib.Sequencing
import FluidGateway.RuntimeOptimizer
import Mathlib.Data.Prod.Lex
import Mathlib.Data.String.Basic

/-!
# The resource lifetime planner

`fluidgateway/lifetime.py`: a planner is told of resources and operations, and
`finalize` makes a residency plan of what it has been told.  `finalize` adds its
actions to those of the planner, one for each action name, resource and source
operation, and the plan lists all of them.

`LifetimeTables` is what the calls record; only `finalize` changes the rest of
the planner.
-/

namespace FluidGateway.FramePlanning

open FluidGateway.Runtime (MemoryLayer OperationType ResourceType RuntimeOperation RuntimeResource)
open Sequencing (sortBy)

/-! ## Plan actions -/

/-- The actions of a lifetime plan. -/
inductive LifetimeAction where
  | keepResident | releaseAfterFrame | prefetchBeforeFrame | deferUpload
  deriving DecidableEq, Repr

/-- The text of an action, as `action_key` and the plan hold it. -/
def LifetimeAction.text : LifetimeAction → String
  | keepResident => "keep-resident"
  | releaseAfterFrame => "release-after-frame"
  | prefetchBeforeFrame => "prefetch-before-frame"
  | deferUpload => "defer-upload"

/-- `memory` is `none` for `"unknown"`. -/
structure LifetimePlanAction where
  action : LifetimeAction
  resourceId : String
  targetFrame : Option ℤ
  memory : Option MemoryLayer
  sizeMb : ℚ
  priority : ℤ
  rationale : String
  expectedEffect : String
  sourceOperationId : Option String := none
  deriving DecidableEq, Repr

/-- `ResourceLifetimePlan`. -/
structure ResourceLifetimePlan where
  planActionCount : Nat
  estimatedReducedTransferMb : ℚ
  estimatedReleaseMb : ℚ
  actions : List LifetimePlanAction
  deriving DecidableEq, Repr

/-- `(action.action, action.resource_id, action.source_operation_id)`. -/
def actionKey (action : LifetimePlanAction) : LifetimeAction × String × Option String :=
  (action.action, action.resourceId, action.sourceOperationId)

/-! ## What is recorded -/

/-- The fields of `ResourceLifetimePlanner` that the calls between two plans write to. -/
structure LifetimeTables where
  resources : OrderedDict String RuntimeResource
  firstUseFrame : OrderedDict String ℤ
  lastUseFrame : OrderedDict String ℤ
  releasedResources : OrderedDict String RuntimeResource
  transferOperations : List RuntimeOperation
  deriving DecidableEq, Repr

namespace LifetimeTables

/-- The tables of a new planner. -/
def empty : LifetimeTables where
  resources := .empty
  firstUseFrame := .empty
  lastUseFrame := .empty
  releasedResources := .empty
  transferOperations := []

/-- `_record_use`: the first call sets the first frame, every call sets the last, whatever
frame it names. -/
def recordUse (tables : LifetimeTables) (resourceId : String) (frame : ℤ) : LifetimeTables :=
  { tables with
    firstUseFrame := if tables.firstUseFrame.contains resourceId then tables.firstUseFrame
      else tables.firstUseFrame.set resourceId frame
    lastUseFrame := tables.lastUseFrame.set resourceId frame }

/-- `register_resource`: a resource that is registered within a frame is used in that frame. -/
def registerResource (tables : LifetimeTables) (resource : RuntimeResource) (frame : Option ℤ) :
    LifetimeTables :=
  let tables := { tables with resources := tables.resources.set resource.id resource }
  match frame with
  | some frame => tables.recordUse resource.id frame
  | none => tables

/-- `release_resource`: nothing is kept of a release without a resource. -/
def releaseResource (tables : LifetimeTables) (resource : Option RuntimeResource)
    (resourceId : String) : LifetimeTables :=
  match resource with
  | some resource =>
      { tables with releasedResources := tables.releasedResources.set resourceId resource }
  | none => tables

/-- The names of an operation that are not empty. -/
def usedResources (operation : RuntimeOperation) : List String :=
  [operation.source, operation.target].filterMap fun name => name.filter fun name => name ≠ ""

/-- The part of `record_operation` about the frame of the operation. -/
def recordUses (tables : LifetimeTables) (operation : RuntimeOperation) : LifetimeTables :=
  match operation.frame with
  | some frame =>
      (usedResources operation).foldl (fun tables name => tables.recordUse name frame) tables
  | none => tables

/-- `record_operation`: an operation that was not executed leaves no trace. -/
def recordOperation (tables : LifetimeTables) (operation : RuntimeOperation) (executed : Bool) :
    LifetimeTables :=
  if executed then
    let tables := tables.recordUses operation
    if operation.type = .copy ∨ operation.type = .upload then
      { tables with transferOperations := tables.transferOperations ++ [operation] }
    else tables
  else tables

end LifetimeTables

/-! ## What a plan calls for -/

/-- The action that keeps a resource in VRAM from the frame of its first use. -/
def residentAction (resourceId : String) (texture : Bool) (sizeMb : ℚ) (firstFrame : Option ℤ) :
    LifetimePlanAction where
  action := .keepResident
  resourceId := resourceId
  targetFrame := firstFrame
  memory := some .vram
  sizeMb := sizeMb
  priority := if texture then 85 else 70
  rationale := "Resource is consumed from VRAM during frame work and should avoid late re-upload."
  expectedEffect :=
    "Lower copy pressure before draw/compute work and fewer RAM to VRAM transfers."

/-- The action that releases a transient resource after the frame of its last use. -/
def releaseAction (resourceId : String) (memory : MemoryLayer) (sizeMb : ℚ)
    (lastFrame : Option ℤ) : LifetimePlanAction where
  action := .releaseAfterFrame
  resourceId := resourceId
  targetFrame := lastFrame
  memory := some memory
  sizeMb := sizeMb
  priority := 80
  rationale := "Transient resource should not stay resident after its last observed frame use."
  expectedEffect := "Reduce memory pressure and make staging/scratch capacity available earlier."

/-- The action that moves a large transfer ahead of its frame. -/
def prefetchAction (operation : RuntimeOperation) (memory : Option MemoryLayer) :
    LifetimePlanAction where
  action := .prefetchBeforeFrame
  resourceId := operation.id
  targetFrame := operation.frame
  memory := memory
  sizeMb := operation.sizeMb
  priority := if 4 ≤ operation.costMs then 90 else 75
  rationale := "Transfer is large enough to be scheduled before frame-critical work."
  expectedEffect := "Move upload/copy pressure away from the frame's draw-critical path."
  sourceOperationId := some operation.id

/-- The action that delays the same transfer, if its frame does not need it. -/
def deferAction (operation : RuntimeOperation) (memory : Option MemoryLayer) :
    LifetimePlanAction where
  action := .deferUpload
  resourceId := operation.id
  targetFrame := operation.frame
  memory := memory
  sizeMb := operation.sizeMb
  priority := 65
  rationale :=
    "If the resource is not needed by the current frame, this transfer should be delayed."
  expectedEffect := "Avoid moving data that could be unused, overwritten, or better batched later."
  sourceOperationId := some operation.id

/-- A texture or buffer in VRAM that lives for the frame. -/
def residentResource (resource : RuntimeResource) : Prop :=
  resource.memory = .vram ∧ (resource.kind = .texture ∨ resource.kind = .buffer) ∧
    (resource.lifetime = "frame" ∨ resource.lifetime = "transient")

instance : DecidablePred residentResource := fun resource =>
  inferInstanceAs (Decidable (resource.memory = .vram ∧ (_ ∨ _) ∧ (_ ∨ _)))

/-- A transfer of a frame that is worth moving. -/
def largeTransfer (operation : RuntimeOperation) : Prop :=
  operation.frame.isSome ∧ (1 ≤ operation.costMs ∨ 16 ≤ operation.sizeMb)

instance : DecidablePred largeTransfer := fun operation =>
  inferInstanceAs (Decidable (operation.frame.isSome = true ∧ (_ ∨ _)))

namespace LifetimeTables

variable (tables : LifetimeTables)

/-- The loop of `finalize` over resources: the two tests are independent of each other. -/
def resourceActions (resourceId : String) (resource : RuntimeResource) :
    List LifetimePlanAction :=
  (if residentResource resource ∧ (tables.firstUseFrame.get resourceId).isSome then
    [residentAction resourceId (resource.kind = .texture) resource.sizeMb
      (tables.firstUseFrame.get resourceId)]
  else []) ++
    if resource.lifetime = "transient" then
      [releaseAction resourceId resource.memory resource.sizeMb
        (tables.lastUseFrame.get resourceId)]
    else []

/-- The memory of the resource that the operation writes to, if it is known. -/
def targetMemory (operation : RuntimeOperation) : Option MemoryLayer :=
  (tables.resources.get (operation.target.getD "")).map RuntimeResource.memory

/-- The loop of `finalize` over transfers: a large one is given both actions. -/
def transferActions (operation : RuntimeOperation) : List LifetimePlanAction :=
  if largeTransfer operation then
    [prefetchAction operation (tables.targetMemory operation),
      deferAction operation (tables.targetMemory operation)]
  else []

/-- The actions that the two loops of `finalize` ask for, in their order. -/
def dueActions : List LifetimePlanAction :=
  tables.resources.items.flatMap (fun item => tables.resourceActions item.1 item.2) ++
    tables.transferOperations.flatMap tables.transferActions

end LifetimeTables

/-! ## The planner -/

/-- `actionKeys` is a set: it is asked only what it has. -/
structure ResourceLifetimePlanner extends LifetimeTables where
  actions : List LifetimePlanAction
  actionKeys : List (LifetimeAction × String × Option String)
  keyed : actionKeys = actions.map actionKey
  nodup : actionKeys.Nodup

/-- `action.source_operation_id or action.resource_id`. -/
def transferKey (action : LifetimePlanAction) : String :=
  match action.sourceOperationId with
  | some name => if name = "" then action.resourceId else name
  | none => action.resourceId

/-- The actions whose size counts as a transfer that is taken out of a frame. -/
def LifetimePlanAction.movesTransfer (action : LifetimePlanAction) : Bool :=
  action.action = .prefetchBeforeFrame || action.action = .deferUpload

/-- The largest size for each operation, so that its prefetch and its deferral count once. -/
def reducedTransferMbByOperation (actions : List LifetimePlanAction) : OrderedDict String ℚ :=
  (actions.filter LifetimePlanAction.movesTransfer).foldl
    (fun table action => table.set (transferKey action)
      (max action.sizeMb ((table.get (transferKey action)).getD 0)))
    .empty

/-- What the releases of a plan add up to. -/
def releaseMb (actions : List LifetimePlanAction) : ℚ :=
  ((actions.filter fun action => action.action = .releaseAfterFrame).map
    LifetimePlanAction.sizeMb).sum

/-- `(-action.priority, action.action, action.resource_id)`. -/
def planKey (action : LifetimePlanAction) : ℤ ×ₗ String ×ₗ String :=
  toLex (-action.priority, toLex (action.action.text, action.resourceId))

/-- The plan of some actions: its estimates, and the actions in the order of the sort. -/
def lifetimePlan (actions : List LifetimePlanAction) : ResourceLifetimePlan where
  planActionCount := actions.length
  estimatedReducedTransferMb := (reducedTransferMbByOperation actions).values.sum
  estimatedReleaseMb := releaseMb actions
  actions := sortBy planKey actions

namespace ResourceLifetimePlanner

/-- A new planner. -/
def new : ResourceLifetimePlanner :=
  { LifetimeTables.empty with
    actions := []
    actionKeys := []
    keyed := rfl
    nodup := List.nodup_nil }

/-- `_add_action`: an action whose key is known is dropped, also where its other fields
differ. -/
def addAction (planner : ResourceLifetimePlanner) (action : LifetimePlanAction) :
    ResourceLifetimePlanner :=
  if hknown : actionKey action ∈ planner.actionKeys then planner
  else
    { planner with
      actions := planner.actions ++ [action]
      actionKeys := planner.actionKeys ++ [actionKey action]
      keyed := by rw [planner.keyed, List.map_append]; rfl
      nodup := planner.nodup.append (List.nodup_singleton _) (by simpa using hknown) }

/-- `finalize`: what is due is added to what earlier plans have added, and the plan is made
of all of it. -/
def finalize (planner : ResourceLifetimePlanner) :
    ResourceLifetimePlanner × ResourceLifetimePlan :=
  let planner := planner.dueActions.foldl addAction planner
  (planner, lifetimePlan planner.actions)

end ResourceLifetimePlanner

/-! ## Runs -/

/-- The calls that a session makes on its planner. -/
inductive LifetimeCall where
  | registerResource (resource : RuntimeResource) (frame : Option ℤ)
  | releaseResource (resource : Option RuntimeResource) (resourceId : String)
  | recordOperation (operation : RuntimeOperation) (executed : Bool)
  | finalize
  deriving DecidableEq, Repr

/-- What a call does to the tables; `finalize` only reads them. -/
def LifetimeTables.call (tables : LifetimeTables) : LifetimeCall → LifetimeTables
  | .registerResource resource frame => tables.registerResource resource frame
  | .releaseResource resource resourceId => tables.releaseResource resource resourceId
  | .recordOperation operation executed => tables.recordOperation operation executed
  | .finalize => tables

/-- What a call does to the planner. -/
def ResourceLifetimePlanner.call (planner : ResourceLifetimePlanner) (call : LifetimeCall) :
    ResourceLifetimePlanner :=
  match call with
  | .finalize => planner.finalize.1
  | _ => { planner with toLifetimeTables := planner.toLifetimeTables.call call }

/-- The planner after some calls on a new one. -/
def plannerAfter (calls : List LifetimeCall) : ResourceLifetimePlanner :=
  calls.foldl ResourceLifetimePlanner.call .new

/-- The plan that `finalize` returns after the calls. -/
def planAfter (calls : List LifetimeCall) : ResourceLifetimePlan :=
  (plannerAfter calls).finalize.2

/-- What the calls record. -/
def tablesAfter (calls : List LifetimeCall) : LifetimeTables :=
  calls.foldl LifetimeTables.call .empty

/-! ## Adding actions -/

section

variable (planner : ResourceLifetimePlanner)

/-- An action is added to the list where its key is new: `keepFirst` says which of several
with one key stays. -/
theorem addAction_actions (action : LifetimePlanAction) :
    (planner.addAction action).actions =
      FirstKept.keepFirst actionKey planner.actions action := by
  unfold ResourceLifetimePlanner.addAction FirstKept.keepFirst
  rw [← planner.keyed]
  split_ifs <;> rfl

/-- Adding an action leaves the tables alone. -/
theorem addAction_tables (action : LifetimePlanAction) :
    (planner.addAction action).toLifetimeTables = planner.toLifetimeTables := by
  unfold ResourceLifetimePlanner.addAction
  split_ifs <;> rfl

/-- Adding several actions keeps the first of each key, by induction on the actions. -/
theorem addActions_actions (actions : List LifetimePlanAction) :
    (actions.foldl ResourceLifetimePlanner.addAction planner).actions =
      actions.foldl (FirstKept.keepFirst actionKey) planner.actions := by
  induction actions generalizing planner with
  | nil => rfl
  | cons action actions ih =>
      rw [List.foldl_cons, ih, addAction_actions]
      rfl

/-- Adding several actions leaves the tables alone. -/
theorem addActions_tables (actions : List LifetimePlanAction) :
    (actions.foldl ResourceLifetimePlanner.addAction planner).toLifetimeTables =
      planner.toLifetimeTables := by
  induction actions generalizing planner with
  | nil => rfl
  | cons action actions ih => rw [List.foldl_cons, ih, addAction_tables]

/-- A plan adds what is due, and keeps the first of each key among all plans so far. -/
theorem finalize_actions :
    planner.finalize.1.actions =
      planner.dueActions.foldl (FirstKept.keepFirst actionKey) planner.actions :=
  addActions_actions planner _

/-- The tables follow the calls without the actions, since `finalize` only reads them. -/
theorem call_tables (call : LifetimeCall) :
    (planner.call call).toLifetimeTables = planner.toLifetimeTables.call call := by
  cases call with
  | finalize => exact addActions_tables planner _
  | registerResource => rfl
  | releaseResource => rfl
  | recordOperation => rfl

end

/-- What is recorded does not depend on `finalize`. -/
theorem plannerAfter_tables (calls : List LifetimeCall) :
    (plannerAfter calls).toLifetimeTables = tablesAfter calls := by
  unfold plannerAfter tablesAfter
  induction calls using List.reverseRecOn with
  | nil => rfl
  | append_singleton calls call ih =>
      rw [List.foldl_append, List.foldl_append, ← ih]
      exact call_tables _ call

end FluidGateway.FramePlanning
