import FluidGateway.SessionBooks
import FluidGateway.Lib.Sequencing

/-!
# The snapshot of a session

The governor decides on a snapshot that is put together from three places: the
statistics of the frames, the policy engine's own table of resources, and the
controller.  After every stream of events the three agree, so a snapshot says
what the session holds (`Prepared.describes`).
-/

namespace FluidGateway.Adapter

open FluidGateway.Runtime
open Sequencing

/-! ## The policy engine -/

namespace RuntimePolicyEngine

variable (engine : RuntimePolicyEngine)

/-- The policy engine after it was given these actions to emit once. -/
def emitAll (given : List (RuntimePolicyAction × PolicyKey)) : RuntimePolicyEngine :=
  given.foldl (fun engine item => (engine.emitOnce item.1 item.2).2) engine

/-- Checking a layer emits an action or none, and changes nothing else. -/
theorem checkMemoryBudget_emits (memory : MemoryLayer) (frame : Option ℤ) :
    ∃ given, (engine.checkMemoryBudget memory frame).2 = engine.emitAll given := by
  unfold checkMemoryBudget
  dsimp only
  split
  · exact ⟨[], rfl⟩
  · split
    · exact ⟨[], rfl⟩
    · exact ⟨[(_, _)], rfl⟩

/-- Recording an operation emits an action or none, and changes nothing else. -/
theorem recordOperation_emits (result : ControllerResult) (frame : Option ℤ) (targetFrameMs : ℚ) :
    ∃ given, (engine.recordOperation result frame targetFrameMs).2 = engine.emitAll given := by
  unfold recordOperation
  dsimp only
  split
  · exact ⟨[], rfl⟩
  · split
    · exact ⟨[], rfl⟩
    · exact ⟨[(_, _)], rfl⟩

/-- Ending a frame emits up to two actions, and changes nothing else. -/
theorem finishFrame_emits (frame : ℤ) (targetFrameMs totalCostMs : ℚ)
    (queueCosts : OrderedDict String ℚ) :
    ∃ given, (engine.finishFrame frame targetFrameMs totalCostMs queueCosts).2 =
      engine.emitAll given := by
  unfold finishFrame
  by_cases hbudget : totalCostMs > targetFrameMs
  · rw [if_pos hbudget]
    cases busiestQueue queueCosts with
    | none => exact ⟨[(_, _)], rfl⟩
    | some busiest =>
        dsimp only
        split
        · exact ⟨[(_, _), (_, _)], rfl⟩
        · exact ⟨[(_, _)], rfl⟩
  · rw [if_neg hbudget]
    cases busiestQueue queueCosts with
    | none => exact ⟨[], rfl⟩
    | some busiest =>
        dsimp only
        split
        · exact ⟨[(_, _)], rfl⟩
        · exact ⟨[], rfl⟩

/-- What every action that is emitted once keeps. -/
theorem emitAll_keeps {p : RuntimePolicyEngine → Prop}
    (honce : ∀ engine action key, p engine → p (engine.emitOnce action key).2)
    {engine : RuntimePolicyEngine} (h : p engine)
    (given : List (RuntimePolicyAction × PolicyKey)) : p (engine.emitAll given) := by
  induction given generalizing engine with
  | nil => exact h
  | cons item given ih => exact ih (honce engine item.1 item.2 h)

/-- Emitting actions changes neither the active resources nor their totals. -/
theorem emitAll_resources (given : List (RuntimePolicyAction × PolicyKey)) :
    (engine.emitAll given).activeResources = engine.activeResources ∧
      (engine.emitAll given).memoryTotalsMb = engine.memoryTotalsMb := by
  apply emitAll_keeps (p := fun e => e.activeResources = engine.activeResources ∧
    e.memoryTotalsMb = engine.memoryTotalsMb) _ ⟨rfl, rfl⟩
  intro e action key h
  unfold emitOnce
  dsimp only
  split <;> exact h

/-- Configuring budgets changes neither the active resources nor their totals. -/
theorem configure_resources (builtins : Builtins) (payload : Payload) :
    (engine.configure builtins payload).activeResources = engine.activeResources ∧
      (engine.configure builtins payload).memoryTotalsMb = engine.memoryTotalsMb := by
  unfold configure
  dsimp only
  split <;> exact ⟨rfl, rfl⟩

/-- Configuring budgets emits nothing. -/
theorem configure_emitted (builtins : Builtins) (payload : Payload) :
    (engine.configure builtins payload).emitted = engine.emitted ∧
      (engine.configure builtins payload).actions = engine.actions := by
  unfold configure
  dsimp only
  split <;> exact ⟨rfl, rfl⟩

end RuntimePolicyEngine

/-! ## Resources -/

/-- The memory totals are those of these resources. -/
def memoryTotals (resources : OrderedDict String RuntimeResource) : OrderedDict MemoryLayer ℚ :=
  resources.values.foldl (fun totals resource =>
    totals.set resource.memory ((totals.get resource.memory).getD 0 + resource.sizeMb)) .empty

/-- The policy engine's table has the resources of the controller. -/
structure Mirrored (engine : RuntimePolicyEngine) (controller : FluidGatewayController) :
    Prop where
  resources : ∀ id, engine.activeResources.get id = controller.optimization.resources.get id
  totals : engine.memoryTotalsMb = memoryTotals engine.activeResources

/-- The tables agree after actions were emitted. -/
theorem Mirrored.emitAll {engine : RuntimePolicyEngine} {controller : FluidGatewayController}
    (h : Mirrored engine controller) (given : List (RuntimePolicyAction × PolicyKey)) :
    Mirrored (engine.emitAll given) controller := by
  obtain ⟨hactive, htotals⟩ := engine.emitAll_resources given
  refine ⟨?_, ?_⟩
  · rw [hactive]
    exact h.resources
  · rw [hactive, htotals]
    exact h.totals

variable {casing : Casing}

/-- The tables agree with any controller that has the same resources. -/
theorem Mirrored.sameTable {engine : RuntimePolicyEngine} {c c' : FluidGatewayController}
    (h : Mirrored engine c) (hsame : c'.optimization.resources = c.optimization.resources) :
    Mirrored engine c' := by
  refine ⟨fun id => ?_, h.totals⟩
  rw [hsame]
  exact h.resources id

/-- The tables agree after a resource was registered with both. -/
theorem Mirrored.register {engine : RuntimePolicyEngine} {c c' : FluidGatewayController}
    {resource given : RuntimeResource} (h : Mirrored engine c)
    (hregister : c.registerResource resource = (.ok given, c')) (frame : Option ℤ) :
    Mirrored (engine.registerResource resource frame).2 c' := by
  obtain ⟨emitted, hemitted⟩ := RuntimePolicyEngine.checkMemoryBudget_emits
    { engine with activeResources :=
        engine.activeResources.set resource.id resource }.recalculateMemoryTotals
    resource.memory frame
  unfold RuntimePolicyEngine.registerResource
  rw [hemitted]
  apply Mirrored.emitAll
  have htable : c'.optimization.resources = c.optimization.resources.insert resource := by
    unfold FluidGatewayController.registerResource RuntimeOptimizationState.register at hregister
    split at hregister
    · cases hregister
    · next hknown =>
        split at hknown
        · cases hknown
        · cases hknown
          cases hregister
          rfl
  refine ⟨fun id => ?_, rfl⟩
  rw [htable]
  change (engine.activeResources.set resource.id resource).get id = _
  rw [OrderedDict.get_set]
  by_cases hid : resource.id = id
  · rw [if_pos hid, ← hid, ResourceTable.get_insert]
  · rw [if_neg hid, ResourceTable.get_insert_ne _ _ (Ne.symm hid)]
    exact h.resources id

/-- A release takes the resource off the controller's table. -/
theorem releaseResource_table (c : FluidGatewayController) (id : String) :
    (c.releaseResource id).2.optimization.resources = c.optimization.resources.pop id := by
  change (((c.optimization.invalidateResource (some id)).dropBuffers (some id)).resources.pop id) = _
  change (c.optimization.invalidateResource (some id)).resources.pop id = _
  rw [RuntimeOptimizationState.invalidateResource_resources]

/-- A release returns the resource that was there. -/
theorem releaseResource_found (c : FluidGatewayController) (id : String) :
    (c.releaseResource id).1 = c.optimization.resources.get id := by
  change (c.optimization.invalidateResource (some id)).resources.get id = _
  rw [RuntimeOptimizationState.invalidateResource_resources]

/-- The tables agree after a resource was released from both. -/
theorem Mirrored.release {engine : RuntimePolicyEngine} {c c' : FluidGatewayController}
    {id : String} {released : Option RuntimeResource} (h : Mirrored engine c)
    (hrelease : c.releaseResource id = (released, c')) :
    Mirrored (engine.releaseResource id) c' := by
  obtain rfl : (c.releaseResource id).2 = c' := congrArg Prod.snd hrelease
  refine ⟨fun other => ?_, rfl⟩
  rw [releaseResource_table]
  change (engine.activeResources.pop id).get other = _
  rw [OrderedDict.get_pop]
  by_cases hid : id = other
  · rw [if_pos hid, hid, ResourceTable.get_pop]
  · rw [if_neg hid, ResourceTable.get_pop_ne _ (Ne.symm hid)]
    exact h.resources other

/-- An unknown id is released without a trace. -/
theorem Mirrored.releaseUnknown {engine : RuntimePolicyEngine} {c c' : FluidGatewayController}
    {id : String} (h : Mirrored engine c) (hrelease : c.releaseResource id = (none, c')) :
    Mirrored engine c' := by
  obtain rfl : (c.releaseResource id).2 = c' := congrArg Prod.snd hrelease
  have hunknown : c.optimization.resources.get id = none := by
    rw [← releaseResource_found]
    exact congrArg Prod.fst hrelease
  refine ⟨fun other => ?_, h.totals⟩
  rw [releaseResource_table, h.resources]
  by_cases hid : id = other
  · rw [← hid, ResourceTable.get_pop, hunknown]
  · rw [ResourceTable.get_pop_ne _ (Ne.symm hid)]

/-- Every move of the session keeps the tables in agreement. Only a registration and a
release touch them. -/
theorem Mirrored.move {builtins : Builtins} {s t : RuntimeAdapterSession}
    (hmove : RuntimeAdapterSession.Move casing builtins s t)
    (h : Mirrored s.policyEngine s.controller) : Mirrored t.policyEngine t.controller := by
  cases hmove with
  | mark hmark =>
      rw [hmark]
      exact h
  | configure payload =>
      obtain ⟨hactive, htotals⟩ := s.policyEngine.configure_resources builtins payload
      refine ⟨fun id => ?_, ?_⟩
      · rw [hactive]
        exact h.resources id
      · rw [hactive, htotals]
        exact h.totals
  | finalize => exact h
  | stats => exact h
  | finishFrame frame targetFrameMs totalCostMs queueCosts =>
      obtain ⟨given, hgiven⟩ := s.policyEngine.finishFrame_emits frame targetFrameMs totalCostMs
        queueCosts
      dsimp only
      rw [hgiven]
      exact h.emitAll given
  | register hregister => exact h.register hregister s.currentFrame
  | release hrelease => exact h.release hrelease
  | releaseUnknown hrelease => exact h.releaseUnknown hrelease
  | @accept operation result controller hcost hsize hsubmit eventIndex =>
      have haccepted := RuntimeAdapterSession.acceptOperation_accepted
        { s with controller } result eventIndex
      obtain ⟨targetFrameMs, hpolicy⟩ := haccepted.policy
      obtain ⟨given, hgiven⟩ :=
        s.policyEngine.recordOperation_emits result result.operation.frame targetFrameMs
      rw [hpolicy, haccepted.controller]
      dsimp only
      rw [hgiven]
      exact (h.sameTable (submitOperation_settled hsubmit).resources).emitAll given
  | govern liveCommand =>
      obtain ⟨frames, governor, directives, hgovern, -, -⟩ := s.govern_frames liveCommand
      rw [hgovern]
      exact h

/-- The tables agree after every run. -/
theorem run_mirrored (casing : Casing) (builtins : Builtins) (events : List (Json × Option Nat)) :
    Mirrored (RuntimeAdapterSession.run casing builtins events).policyEngine
      (RuntimeAdapterSession.run casing builtins events).controller := by
  apply RuntimeAdapterSession.run_induction
    (p := fun s => Mirrored s.policyEngine s.controller) _ Mirrored.move
  exact ⟨fun _ => rfl, rfl⟩

/-- The total of a layer is the sum of the sizes of its resources; the induction is on the
resources as they are added up. -/
theorem getD_memoryTotals (resources : OrderedDict String RuntimeResource) (layer : MemoryLayer) :
    ((memoryTotals resources).get layer).getD 0 =
      ((resources.values.filter fun resource => resource.memory = layer).map
        RuntimeResource.sizeMb).sum := by
  have hfold : ∀ (l : List RuntimeResource) (totals : OrderedDict MemoryLayer ℚ),
      ((l.foldl (fun totals resource => totals.set resource.memory
        ((totals.get resource.memory).getD 0 + resource.sizeMb)) totals).get layer).getD 0 =
        (totals.get layer).getD 0 +
          ((l.filter fun resource => resource.memory = layer).map RuntimeResource.sizeMb).sum := by
    intro l
    induction l with
    | nil => exact fun totals => (add_zero _).symm
    | cons resource l ih =>
        intro totals
        rw [List.foldl_cons, ih, OrderedDict.get_set]
        by_cases hmemory : resource.memory = layer
        · rw [if_pos hmemory, List.filter_cons_of_pos (by simpa using hmemory), List.map_cons,
            List.sum_cons, ← add_assoc, hmemory]
          rfl
        · rw [if_neg hmemory, List.filter_cons_of_neg (by simpa using hmemory)]
  refine (hfold resources.values .empty).trans ?_
  exact zero_add _

/-- The resources of the two tables are the same, in some order. -/
theorem Mirrored.perm {engine : RuntimePolicyEngine} {controller : FluidGatewayController}
    (h : Mirrored engine controller) :
    engine.activeResources.values.Perm controller.optimization.resources.values := by
  let table := controller.optimization.resources.table
  have hkeys : (table.entries.map fun entry => (entry.1, entry.2)).map Prod.fst = table.keys := by
    rw [List.map_map]
    rfl
  let listed : OrderedDict String RuntimeResource :=
    ⟨table.entries.map fun entry => (entry.1, entry.2), hkeys ▸ table.keys_nodup⟩
  have hget : ∀ id, engine.activeResources.get id = listed.get id := by
    intro id
    rw [h.resources]
    ext resource
    rw [OrderedDict.get_iff, List.mem_map]
    change table.lookup id = some resource ↔ _
    rw [← KeyedMap.mem_entries_iff]
    constructor
    · intro hmem
      exact ⟨_, hmem, rfl⟩
    · intro hmem
      obtain ⟨entry, hentry, hsame⟩ := hmem
      obtain ⟨rfl, rfl⟩ := Prod.mk.inj hsame
      exact hentry
  have hvalues : controller.optimization.resources.values = listed.values := by
    change table.entries.map Sigma.snd = (table.entries.map _).map Prod.snd
    rw [List.map_map]
    rfl
  rw [hvalues]
  exact (OrderedDict.items_perm hget).map Prod.snd

/-! ## The snapshot -/

/-- What was executed in a frame is what was executed and names that frame. -/
theorem executedOf_reportsOf (s : RuntimeAdapterSession) (frame : ℤ) :
    executedOf (reportsOf s frame) =
      (executedOf s.results).filter fun operation => operation.frame = some frame := by
  unfold executedOf reportsOf
  induction s.results with
  | nil => rfl
  | cons report reports ih =>
      by_cases hframe : report.result.operation.frame = some frame
      · rw [List.filter_cons_of_pos (by simpa using hframe), List.filterMap_cons,
          List.filterMap_cons, ih]
        unfold OperationReport.executedOperation
        cases report.result.executed with
        | false => rfl
        | true => exact (List.filter_cons_of_pos (by simpa using hframe)).symm
      · rw [List.filter_cons_of_neg (by simpa using hframe), List.filterMap_cons, ih]
        unfold OperationReport.executedOperation
        cases report.result.executed with
        | false => rfl
        | true => exact (List.filter_cons_of_neg (by simpa using hframe)).symm

/-- What a snapshot is put together from, is what these reports and this
controller say. -/
structure Prepared (b t : RuntimeAdapterSession) : Prop where
  accounts : ∀ frame, Accounts (b.account frame) (reportsOf t frame)
  mirrored : Mirrored b.policyEngine t.controller
  controller : b.controller = t.controller
  liveCommands : b.liveCommands = t.liveCommands
  currentFrame : b.currentFrame = t.currentFrame

/-- The snapshot says what the session holds. -/
structure LiveStateSnapshot.Describes (snapshot : LiveStateSnapshot) (s : RuntimeAdapterSession) :
    Prop where
  queues : ∀ queue, (snapshot.queueCostsMs.get queue).getD 0 =
    (((executedOf s.results).filter fun operation =>
      operation.frame.isSome ∧ operation.queue = queue).map RuntimeOperation.costMs).sum
  memory : ∀ layer, (snapshot.memoryTotalsMb.get layer).getD 0 =
    ((s.controller.optimization.resources.values.filter fun resource =>
      resource.memory = layer).map RuntimeResource.sizeMb).sum
  resources : snapshot.activeResourceCount = s.controller.optimization.resources.values.length
  decisions : snapshot.decisionsCount = (decisionsOf s.results).length
  liveCommands : snapshot.liveCommandCount = s.results.length
  currentCost : snapshot.estimatedTotalCostMsCurrentFrame =
    (((executedOf s.results).filter fun operation =>
      operation.frame.isSome ∧ operation.frame = s.currentFrame).map RuntimeOperation.costMs).sum
  currentTransfer : snapshot.transferMbCurrentFrame =
    (((executedOf s.results).filter fun operation => operation.type.transfers ∧
      operation.frame.isSome ∧ operation.frame = s.currentFrame).map RuntimeOperation.sizeMb).sum

namespace Prepared

variable {b t : RuntimeAdapterSession}

/-- A frame with a report was named. -/
theorem named (h : Prepared b t) {operation : RuntimeOperation}
    (hmem : operation ∈ executedOf t.results) {frame : ℤ} (hframe : operation.frame = some frame) :
    frame ∈ b.frames.keys := by
  rw [OrderedDict.mem_keys]
  by_contra hnot
  have hnone : b.frames.get frame = none := Option.not_isSome_iff_eq_none.mp hnot
  have hcount := (h.accounts frame).1
  rw [RuntimeAdapterSession.account, RuntimeAdapterSession.statsOf_of_none hnone] at hcount
  have hempty : reportsOf t frame = [] := List.length_eq_zero_iff.mp hcount.symm
  have hsome : operation ∈ executedOf (reportsOf t frame) := by
    rw [executedOf_reportsOf]
    exact List.mem_filter.mpr ⟨hmem, by simpa using hframe⟩
  rw [hempty] at hsome
  cases hsome

/-- The costs of a queue, frame by frame. -/
theorem queueCosts_eq (b : RuntimeAdapterSession) (queue : String) :
    (b.buildStateSnapshot.queueCostsMs.get queue).getD 0 =
      (b.frames.keys.map fun frame =>
        ((b.account frame).queueCosts.get queue).getD 0).sum := by
  have hfold : ∀ (l : List AdapterFrameStats) (costs : OrderedDict String ℚ),
      ((l.foldl (fun costs stats => stats.queueCosts.items.foldl (fun costs item =>
        costs.set item.1 ((costs.get item.1).getD 0 + item.2)) costs) costs).get queue).getD 0 =
        (costs.get queue).getD 0 + (l.map fun stats => (stats.queueCosts.get queue).getD 0).sum := by
    intro l
    induction l with
    | nil => exact fun costs => (add_zero _).symm
    | cons stats l ih =>
        intro costs
        rw [List.foldl_cons, ih, getD_foldl_add, List.map_cons, List.sum_cons, add_assoc]
  refine (hfold b.frames.values .empty).trans ((zero_add _).trans ?_)
  unfold OrderedDict.values OrderedDict.keys
  rw [List.map_map, List.map_map]
  refine congrArg List.sum (List.map_congr_left ?_)
  intro item hitem
  have hget : b.frames.get item.1 = some item.2 := OrderedDict.get_iff.mpr hitem
  unfold RuntimeAdapterSession.account RuntimeAdapterSession.statsOf
  simp only [Function.comp_apply, hget]
  rfl

/-- A number of the open frame, which has none before it is named. -/
theorem current_eq (b : RuntimeAdapterSession) (value : AdapterFrameStats → ℚ)
    (hzero : ∀ frame, value { frame } = 0) :
    ((b.currentFrame.bind b.frames.get).map value).getD 0 =
      (b.currentFrame.map fun frame => value (b.statsOf frame)).getD 0 := by
  cases b.currentFrame with
  | none => rfl
  | some frame =>
      rw [Option.bind_some, Option.map_some, Option.getD_some]
      unfold RuntimeAdapterSession.statsOf
      cases b.frames.get frame with
      | none => exact (hzero frame).symm
      | some stats => rfl

/-- The operations of the open frame. -/
theorem current_operations (operations : List RuntimeOperation) (value : RuntimeOperation → ℚ)
    (currentFrame : Option ℤ) :
    (currentFrame.map fun frame =>
      ((operations.filter fun operation => operation.frame = some frame).map value).sum).getD 0 =
      ((operations.filter fun operation =>
        operation.frame.isSome ∧ operation.frame = currentFrame).map value).sum := by
  have hsame : ∀ operation : RuntimeOperation,
      (operation.frame.isSome ∧ operation.frame = currentFrame) ↔
        currentFrame.isSome ∧ operation.frame = currentFrame := by
    intro operation
    constructor <;> exact fun h => ⟨h.2 ▸ h.1, h.2⟩
  simp only [hsame]
  cases currentFrame with
  | none => simp
  | some frame => simp

/-- A snapshot of a prepared session describes the journal: costs and queues are sums over
executed operations, totals are sums over registered resources. -/
theorem describes (h : Prepared b t) (hjournal : Journaled t) :
    b.buildStateSnapshot.Describes t := by
  refine ⟨fun queue => ?_, fun layer => ?_, ?_, ?_, ?_, ?_, ?_⟩
  · rw [queueCosts_eq]
    have hqueued : ∀ frame, ((b.account frame).queueCosts.get queue).getD 0 =
        ((((executedOf t.results).filter fun operation => operation.queue = queue).filter
          fun operation => operation.frame = some frame).map RuntimeOperation.costMs).sum := by
      intro frame
      rw [(h.accounts frame).2.queued, executedOf_reportsOf, List.filter_comm]
    have hkeys : ∀ operation ∈ (executedOf t.results).filter fun operation =>
        operation.queue = queue, ∀ frame, operation.frame = some frame →
          frame ∈ b.frames.keys := by
      intro operation hmem frame hframe
      exact h.named (List.mem_filter.mp hmem).1 hframe
    simp only [hqueued]
    refine (sum_keys b.frames.nodup _ _ hkeys).trans ?_
    rw [List.filter_filter]
    simp only [Bool.decide_and, Bool.decide_eq_true]
  · change (b.policyEngine.memoryTotalsMb.get layer).getD 0 = _
    rw [h.mirrored.totals, getD_memoryTotals]
    exact ((h.mirrored.perm.filter _).map _).sum_eq
  · change b.controller.optimization.resources.values.length = _
    rw [h.controller]
  · change b.controller.decisions.length = _
    rw [h.controller, hjournal.decided]
  · change b.liveCommands.length = _
    rw [h.liveCommands, hjournal.liveCommands, List.length_map]
  · have hcost : ∀ frame, (b.statsOf frame).estimatedTotalCostMs =
        (((executedOf t.results).filter fun operation => operation.frame = some frame).map
          RuntimeOperation.costMs).sum := by
      intro frame
      rw [← executedOf_reportsOf]
      exact (h.accounts frame).2.cost
    refine (current_eq b AdapterFrameStats.estimatedTotalCostMs fun _ => rfl).trans ?_
    simp only [hcost, h.currentFrame]
    exact current_operations _ _ _
  · have htransferred : ∀ frame, (b.statsOf frame).transferMb =
        ((((executedOf t.results).filter fun operation => operation.type.transfers).filter
          fun operation => operation.frame = some frame).map RuntimeOperation.sizeMb).sum := by
      intro frame
      rw [List.filter_comm, ← executedOf_reportsOf]
      exact (h.accounts frame).2.transferred
    refine (current_eq b AdapterFrameStats.transferMb fun _ => rfl).trans ?_
    simp only [htransferred, h.currentFrame]
    refine (current_operations _ _ _).trans ?_
    rw [List.filter_filter]
    congr 3
    funext operation
    simp [Bool.and_comm]

end Prepared

end FluidGateway.Adapter
