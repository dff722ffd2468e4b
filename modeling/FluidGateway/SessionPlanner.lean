import FluidGateway.LifetimePlanner
import FluidGateway.SessionMoves

/-!
# The planner of a session

The lifetime planner is modelled twice: `LifetimePlanner` has it alone, with the texts
of its actions, and `SessionPolicy` has it as the managed session keeps it, without
them.  The planner of a session is the first after the calls that the session makes
(`run_planned`), so that what is proved of its plans holds of those of a session.
-/

namespace FluidGateway.Adapter

open FluidGateway.Runtime (Casing FluidGatewayController ControllerResult RuntimeResource
  RuntimeOperation)

/-! ## The planner without its texts -/

/-- The kind of an action in the other model. -/
def actionKind : FramePlanning.LifetimeAction → LifetimeActionKind
  | .keepResident => .keepResident
  | .releaseAfterFrame => .releaseAfterFrame
  | .prefetchBeforeFrame => .prefetchBeforeFrame
  | .deferUpload => .deferUpload

/-- An action without its texts. -/
def briefAction (action : FramePlanning.LifetimePlanAction) : LifetimePlanAction where
  action := actionKind action.action
  resourceId := action.resourceId
  targetFrame := action.targetFrame
  memory := action.memory
  sizeMb := action.sizeMb
  priority := action.priority.toNat
  sourceOperationId := action.sourceOperationId

/-- The planner as a session keeps it; it needs no keys beside its actions. -/
def briefPlanner (planner : FramePlanning.ResourceLifetimePlanner) : ResourceLifetimePlanner where
  resources := planner.resources
  firstUseFrame := planner.firstUseFrame
  lastUseFrame := planner.lastUseFrame
  releasedResources := planner.releasedResources
  transferOperations := planner.transferOperations
  actions := planner.actions.map briefAction

/-- Actions of different kinds stay different. -/
theorem actionKind_injective {action other : FramePlanning.LifetimeAction} :
    actionKind action = actionKind other ↔ action = other := by
  cases action <;> cases other <;> decide

/-- The planner adds an action under the same condition with its texts and without. -/
theorem map_keepFirst (actions : List FramePlanning.LifetimePlanAction)
    (action : FramePlanning.LifetimePlanAction) :
    (FirstKept.keepFirst FramePlanning.actionKey actions action).map briefAction =
      ResourceLifetimePlanner.addAction (actions.map briefAction) (briefAction action) := by
  have hknown : (FramePlanning.actionKey action ∈ actions.map FramePlanning.actionKey) ↔
      (actions.map briefAction).any (fun other =>
        decide (other.action = (briefAction action).action ∧
          other.resourceId = (briefAction action).resourceId ∧
          other.sourceOperationId = (briefAction action).sourceOperationId)) = true := by
    simp only [List.mem_map, List.any_eq_true, decide_eq_true_eq, exists_exists_and_eq_and]
    refine exists_congr fun other => and_congr_right fun _ => ?_
    unfold FramePlanning.actionKey briefAction
    simp only [Prod.mk.injEq, actionKind_injective]
  unfold FirstKept.keepFirst ResourceLifetimePlanner.addAction
  by_cases h : FramePlanning.actionKey action ∈ actions.map FramePlanning.actionKey
  · rw [if_pos h, if_pos (hknown.mp h)]
  · rw [if_neg h, if_neg fun hany => h (hknown.mpr hany), List.map_append]
    rfl

/-- Adding many actions: the induction is on those still to be added. -/
theorem map_keepAll (due actions : List FramePlanning.LifetimePlanAction) :
    (due.foldl (FirstKept.keepFirst FramePlanning.actionKey) actions).map briefAction =
      (due.map briefAction).foldl ResourceLifetimePlanner.addAction
        (actions.map briefAction) := by
  induction due generalizing actions with
  | nil => rfl
  | cons action due ih => rw [List.foldl_cons, ih, map_keepFirst, List.map_cons, List.foldl_cons]

/-- Every resource is kept under its own id. -/
def Keyed (resources : OrderedDict String RuntimeResource) : Prop :=
  ∀ item ∈ resources.items, item.1 = item.2.id

section

variable (planner : FramePlanning.ResourceLifetimePlanner)

/-- The priority of keeping a resource is the same number. -/
theorem brief_residentAction (resource : RuntimeResource) (frame : Option ℤ) :
    briefAction (FramePlanning.residentAction resource.id (resource.kind = .texture)
      resource.sizeMb frame) =
        { action := .keepResident
          resourceId := resource.id
          targetFrame := frame
          memory := some .vram
          sizeMb := resource.sizeMb
          priority := if resource.kind = .texture then 85 else 70 } := by
  by_cases h : resource.kind = .texture
  all_goals simp [briefAction, FramePlanning.residentAction, actionKind, h]

/-- The priority of a prefetch is the same number. -/
theorem brief_prefetchAction (operation : RuntimeOperation) (memory : Option Runtime.MemoryLayer) :
    briefAction (FramePlanning.prefetchAction operation memory) =
      { action := .prefetchBeforeFrame
        resourceId := operation.id
        targetFrame := operation.frame
        memory
        sizeMb := operation.sizeMb
        priority := if operation.costMs ≥ 4 then 90 else 75
        sourceOperationId := some operation.id } := by
  by_cases h : 4 ≤ operation.costMs
  all_goals simp [briefAction, FramePlanning.prefetchAction, actionKind, h]

/-- A resource calls for the same actions in both models. -/
theorem brief_resourceActions (resource : RuntimeResource) :
    (planner.toLifetimeTables.resourceActions resource.id resource).map briefAction =
      (briefPlanner planner).resourceActions resource := by
  have hresident : FramePlanning.residentResource resource ∧
      (planner.firstUseFrame.get resource.id).isSome ↔
        resource.memory = .vram ∧ (resource.kind = .texture ∨ resource.kind = .buffer) ∧
          (resource.lifetime = "frame" ∨ resource.lifetime = "transient") ∧
          planner.firstUseFrame.get resource.id ≠ none := by
    unfold FramePlanning.residentResource
    rw [Option.isSome_iff_ne_none]
    tauto
  unfold FramePlanning.LifetimeTables.resourceActions ResourceLifetimePlanner.resourceActions
  rw [List.map_append, if_congr hresident rfl rfl, apply_ite (List.map briefAction),
    apply_ite (List.map briefAction), List.map_singleton, brief_residentAction]
  dsimp only [briefPlanner]
  congr 1
  refine if_ctx_congr Iff.rfl (fun h => ?_) fun _ => rfl
  rw [h.1]

/-- A transfer calls for the same actions in both models. -/
theorem brief_transferActions (operation : RuntimeOperation) :
    (planner.toLifetimeTables.transferActions operation).map briefAction =
      (briefPlanner planner).transferActions operation := by
  have hlarge : FramePlanning.largeTransfer operation ↔
      operation.frame ≠ none ∧ (operation.costMs ≥ 1 ∨ operation.sizeMb ≥ 16) := by
    unfold FramePlanning.largeTransfer
    rw [Option.isSome_iff_ne_none]
  unfold FramePlanning.LifetimeTables.transferActions ResourceLifetimePlanner.transferActions
  rw [apply_ite (List.map briefAction), if_congr hlarge rfl rfl, List.map_cons,
    brief_prefetchAction]
  rfl

/-- `finalize` adds the same actions in both models, where every resource is kept under
its own id. -/
theorem brief_finalize (hkeyed : Keyed planner.resources) :
    briefPlanner planner.finalize.1 = (briefPlanner planner).finalize := by
  have hresources : (planner.resources.items.flatMap fun item =>
      planner.toLifetimeTables.resourceActions item.1 item.2).map briefAction =
        planner.resources.values.flatMap (briefPlanner planner).resourceActions := by
    unfold OrderedDict.values
    rw [List.map_flatMap, List.flatMap_map]
    refine List.flatMap_congr fun item hitem => ?_
    rw [hkeyed item hitem]
    exact brief_resourceActions planner item.2
  have htransfers : (planner.transferOperations.flatMap
      planner.toLifetimeTables.transferActions).map briefAction =
        planner.transferOperations.flatMap (briefPlanner planner).transferActions := by
    rw [List.map_flatMap]
    exact List.flatMap_congr fun operation _ => brief_transferActions planner operation
  have htables : planner.finalize.1.toLifetimeTables = planner.toLifetimeTables :=
    FramePlanning.addActions_tables planner _
  have hactions : planner.finalize.1.actions.map briefAction =
      ((briefPlanner planner).finalize).actions := by
    rw [FramePlanning.finalize_actions, map_keepAll]
    unfold FramePlanning.LifetimeTables.dueActions
    rw [List.map_append, hresources, htransfers]
    rfl
  unfold briefPlanner
  rw [htables, hactions]
  rfl

/-- A use is recorded alike in both models. -/
theorem brief_recordUse (name : String) (frame : ℤ) :
    briefPlanner { planner with
      toLifetimeTables := planner.toLifetimeTables.recordUse name frame } =
        (briefPlanner planner).recordUse name frame :=
  rfl

/-- The names of an operation that are not empty, as one loop visits them. -/
theorem usedResources_eq (operation : RuntimeOperation) :
    FramePlanning.LifetimeTables.usedResources operation =
      (operation.source.toList ++ operation.target.toList).filter fun id => id ≠ "" := by
  have hpair : ∀ first second : Option String,
      [first, second].filterMap id = first.toList ++ second.toList := by
    intro first second
    cases first <;> cases second <;> rfl
  rw [List.filter_append, ← Option.toList_filter, ← Option.toList_filter]
  exact hpair _ _

/-- The uses of an operation are recorded alike; one model skips the empty names
beforehand, the other as it meets them. -/
theorem brief_recordUses (names : List String) (frame : ℤ) :
    briefPlanner { planner with
      toLifetimeTables := (names.filter fun id => id ≠ "").foldl
        (fun tables name => tables.recordUse name frame) planner.toLifetimeTables } =
      names.foldl (fun planner id => if id = "" then planner else planner.recordUse id frame)
        (briefPlanner planner) := by
  induction names generalizing planner with
  | nil => rfl
  | cons name names ih =>
      rw [List.foldl_cons]
      by_cases h : name = ""
      · rw [if_pos h, ← ih, List.filter_cons_of_neg (by simpa using h)]
      · rw [if_neg h, ← brief_recordUse, ← ih, List.filter_cons_of_pos (by simpa using h),
          List.foldl_cons]

/-- An operation is recorded alike in both models. -/
theorem brief_recordOperation (operation : RuntimeOperation) (executed : Bool) :
    briefPlanner (planner.call (.recordOperation operation executed)) =
      (briefPlanner planner).recordOperation operation executed := by
  cases executed with
  | false => rfl
  | true =>
      -- the uses are recorded first, and then the transfer, if it is one
      have htransfer : ∀ recorded : ResourceLifetimePlanner,
          briefPlanner { planner with
            toLifetimeTables := planner.toLifetimeTables.recordUses operation } = recorded →
          briefPlanner (planner.call (.recordOperation operation true)) =
            if operation.type.transfers then
              { recorded with transferOperations := recorded.transferOperations ++ [operation] }
            else recorded := by
        intro recorded huses
        rw [← huses]
        unfold FramePlanning.ResourceLifetimePlanner.call
        dsimp only [FramePlanning.LifetimeTables.call]
        unfold FramePlanning.LifetimeTables.recordOperation
        cases operation.type <;> rfl
      unfold ResourceLifetimePlanner.recordOperation
      refine htransfer _ ?_
      unfold FramePlanning.LifetimeTables.recordUses
      cases operation.frame with
      | none => rfl
      | some frame =>
          rw [usedResources_eq]
          exact brief_recordUses planner _ frame

/-- A resource is registered alike in both models. -/
theorem brief_registerResource (resource : RuntimeResource) (frame : Option ℤ) :
    briefPlanner (planner.call (.registerResource resource frame)) =
      (briefPlanner planner).registerResource resource frame := by
  cases frame <;> rfl

/-- Recording an operation registers nothing. -/
theorem recordOperation_resources (tables : FramePlanning.LifetimeTables)
    (operation : RuntimeOperation) (executed : Bool) :
    (tables.recordOperation operation executed).resources = tables.resources := by
  have huses : ∀ (names : List String) (tables : FramePlanning.LifetimeTables) (frame : ℤ),
      (names.foldl (fun tables name => tables.recordUse name frame) tables).resources =
        tables.resources := by
    intro names
    induction names with
    | nil => exact fun _ _ => rfl
    | cons name names ih => exact fun tables frame => ih _ frame
  have hframe : (tables.recordUses operation).resources = tables.resources := by
    unfold FramePlanning.LifetimeTables.recordUses
    split
    · exact huses _ tables _
    · rfl
  unfold FramePlanning.LifetimeTables.recordOperation
  split_ifs
  · exact hframe
  · exact hframe
  · rfl

/-- Every call keeps resources under their own ids. -/
theorem keyed_call (call : FramePlanning.LifetimeCall) (hkeyed : Keyed planner.resources) :
    Keyed (planner.call call).resources := by
  have htables := FramePlanning.call_tables planner call
  rw [htables]
  cases call with
  | finalize => exact hkeyed
  | releaseResource resource => cases resource <;> exact hkeyed
  | registerResource resource frame =>
      have hset : Keyed (planner.resources.set resource.id resource) := by
        intro item hitem
        obtain rfl | hold := OrderedDict.mem_setItem hitem
        · rfl
        · exact hkeyed item hold
      cases frame <;> exact hset
  | recordOperation operation executed =>
      have hsame := recordOperation_resources planner.toLifetimeTables operation executed
      exact fun item hitem => hkeyed item (hsame ▸ hitem)

end

/-- After every list of calls each resource is kept under its own id. -/
theorem keyed_plannerAfter (calls : List FramePlanning.LifetimeCall) :
    Keyed (FramePlanning.plannerAfter calls).resources := by
  induction calls using List.reverseRecOn with
  | nil => exact fun item hitem => by cases hitem
  | append_singleton calls call ih =>
      unfold FramePlanning.plannerAfter
      rw [List.foldl_append]
      exact keyed_call _ call ih

/-! ## What both sessions keep -/

/-- What decides about events; the statistics of a frame that was never named are
those of a new one. -/
structure SessionCore where
  sessionId : String
  controller : FluidGatewayController
  currentFrame : Option ℤ
  frames : ℤ → Runtime.AdapterFrameStats
  closed : Bool

/-- The events at which a frame began and ended. -/
def AdapterFrameStats.marks (stats : AdapterFrameStats) : Runtime.AdapterFrameStats where
  frame := stats.frame
  beginEventIndex := stats.beginEventIndex
  endEventIndex := stats.endEventIndex

namespace RuntimeAdapterSession

/-- What a session keeps that decides about events. -/
def core (s : RuntimeAdapterSession) : SessionCore where
  sessionId := s.sessionId
  controller := s.controller
  currentFrame := s.currentFrame
  frames := fun frame => (s.statsOf frame).marks
  closed := s.closed

/-- The core of a session and its planner. -/
def kept (s : RuntimeAdapterSession) : SessionCore × ResourceLifetimePlanner :=
  (s.core, s.lifetimePlanner)

variable (s : RuntimeAdapterSession)

/-- Statistics with the same marks for every frame change nothing here. -/
theorem kept_frames {frames : OrderedDict ℤ AdapterFrameStats}
    (h : ∀ frame, (statsOf { s with frames } frame).marks = (s.statsOf frame).marks) :
    kept { s with frames } = s.kept := by
  unfold kept core
  rw [funext h]

/-- Creating the statistics of a frame changes nothing here. -/
theorem kept_frameStats (frame : ℤ) : (s.frameStats frame).2.kept = s.kept := by
  have hstats := statsOf_frameStats s frame
  unfold frameStats at hstats ⊢
  split at hstats
  · rfl
  · exact s.kept_frames fun other => congrArg AdapterFrameStats.marks (hstats other)

/-- Asking for the target of a frame at most creates its statistics. -/
theorem kept_frameTarget (frame : Option ℤ) : (s.frameTarget frame).2.kept = s.kept := by
  cases frame with
  | none => rfl
  | some frame => exact s.kept_frameStats frame

/-- Statistics with the same marks change nothing here. -/
theorem kept_setFrame {frame : ℤ} {stats : AdapterFrameStats}
    (h : stats.marks = (s.statsOf frame).marks) : (s.setFrame frame stats).kept = s.kept := by
  refine s.kept_frames fun other => ?_
  unfold statsOf
  rw [OrderedDict.get_set]
  by_cases hother : frame = other
  · rw [if_pos hother, ← hother]
    exact h
  · rw [if_neg hother]

/-- Statistics that were looked up and are written back with the same marks. -/
theorem kept_restated {frame : ℤ} {stats : AdapterFrameStats}
    (h : stats.marks = (s.frameStats frame).1.marks) :
    ((s.frameStats frame).2.setFrame frame stats).kept = s.kept := by
  rw [frameStats_fst] at h
  have hsame := statsOf_frameStats s frame frame
  rw [← hsame] at h
  exact ((s.frameStats frame).2.kept_setFrame h).trans (s.kept_frameStats frame)

/-- Policy actions are counted beside the marks. -/
theorem kept_recordPolicyActions (actions : List RuntimePolicyAction) (frame : Option ℤ) :
    (s.recordPolicyActions actions frame).kept = s.kept := by
  cases frame with
  | none => rfl
  | some frame => exact s.kept_restated rfl

/-- An operation is counted beside the marks. -/
theorem kept_recordOperation (frame : Option ℤ) (result : ControllerResult) :
    (s.recordOperation frame result).kept = s.kept := by
  cases frame with
  | none => rfl
  | some frame =>
      refine s.kept_restated ?_
      unfold AdapterFrameStats.record
      cases result.executed <;> cases result.decision <;> rfl

/-- The governor looks at the session, and changes nothing here. -/
theorem kept_govern (liveCommand : Option LiveCommand) :
    (s.govern liveCommand).2.kept = s.kept :=
  s.kept_frameTarget _

/-- Accepting an operation, the planner records it and the core stays. -/
theorem kept_acceptOperation (result : ControllerResult) (eventIndex : Option Nat) :
    (s.acceptOperation result eventIndex).2.kept =
      (s.core, s.lifetimePlanner.recordOperation result.operation result.executed) := by
  have hadmitted : ∀ (t : RuntimeAdapterSession) (liveCommand : LiveCommand)
      (policyActions : List RuntimePolicyAction),
      (t.withOperation result liveCommand policyActions eventIndex).2.kept = t.kept :=
    fun t liveCommand _ => t.kept_govern (some liveCommand)
  have hadvised : ∀ (t : RuntimeAdapterSession) (target : ℚ), (t.advise result target).2.kept =
      (t.kept.1, t.kept.2.recordOperation result.operation result.executed) :=
    fun _ _ => rfl
  have hissued : ∀ (t : RuntimeAdapterSession) (liveCommand : LiveCommand),
      (t.issue liveCommand).kept = t.kept := fun _ _ => rfl
  unfold acceptOperation
  dsimp only
  rw [hadmitted, kept_recordPolicyActions, hadvised, kept_recordOperation, hissued,
    kept_frameTarget]
  rfl

/-! ## The calls of a session -/

/-- The planner of a session is the lifetime planner after some calls. -/
def Planned (s : RuntimeAdapterSession) : Prop :=
  ∃ calls, s.lifetimePlanner = briefPlanner (FramePlanning.plannerAfter calls)

/-- One more call of the planner. -/
theorem Planned.call {s t : RuntimeAdapterSession} (hs : s.Planned)
    (call : FramePlanning.LifetimeCall)
    (hcalled : ∀ planner : FramePlanning.ResourceLifetimePlanner, Keyed planner.resources →
      s.lifetimePlanner = briefPlanner planner →
        t.lifetimePlanner = briefPlanner (planner.call call)) : t.Planned := by
  obtain ⟨calls, hcalls⟩ := hs
  refine ⟨calls ++ [call], ?_⟩
  unfold FramePlanning.plannerAfter
  rw [List.foldl_append]
  exact hcalled _ (keyed_plannerAfter calls) hcalls

/-- A move makes at most one call of the planner. -/
theorem Planned.move {casing : Casing} {builtins : Builtins} {s t : RuntimeAdapterSession}
    (hs : s.Planned) (hmove : Move casing builtins s t) : t.Planned := by
  cases hmove with
  | mark h =>
      unfold Planned
      rw [congrArg lifetimePlanner h]
      exact hs
  | configure | stats | finishFrame | releaseUnknown => exact hs
  | govern liveCommand =>
      have hsame : (s.govern liveCommand).2.lifetimePlanner = s.lifetimePlanner :=
        congrArg Prod.snd (s.kept_govern liveCommand)
      unfold Planned
      rw [hsame]
      exact hs
  | finalize =>
      refine hs.call .finalize fun planner hkeyed hsame => ?_
      dsimp only
      rw [hsame]
      exact (brief_finalize planner hkeyed).symm
  | @register resource =>
      refine hs.call (.registerResource resource s.currentFrame) fun planner _ hsame => ?_
      dsimp only
      rw [hsame]
      exact (brief_registerResource planner resource s.currentFrame).symm
  | @release id resource =>
      refine hs.call (.releaseResource (some resource) id) fun planner _ hsame => ?_
      dsimp only
      rw [hsame]
      rfl
  | @accept operation result controller _ _ _ eventIndex =>
      refine hs.call (.recordOperation result.operation result.executed)
        fun planner _ hsame => ?_
      refine (congrArg Prod.snd (kept_acceptOperation { s with controller } result
        eventIndex)).trans ?_
      dsimp only
      rw [hsame]
      exact (brief_recordOperation planner result.operation result.executed).symm

/-- **The planner of a session.** After every stream of events the planner of the
session is the lifetime planner after some calls, but for the texts of its actions. -/
theorem run_planned (casing : Casing) (builtins : Builtins) (events : List (Json × Option Nat)) :
    ∃ calls, (run casing builtins events).lifetimePlanner =
      briefPlanner (FramePlanning.plannerAfter calls) :=
  run_induction (p := Planned) ⟨[], rfl⟩ (fun hmove hs => hs.move hmove) events

end RuntimeAdapterSession

end FluidGateway.Adapter
