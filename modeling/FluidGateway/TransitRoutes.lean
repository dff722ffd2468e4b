import FluidGateway.AdmissionPlan
import FluidGateway.FrameWindowPlan

/-!
# From the results of a session to routes

`fluidgateway/transit.py` maps the results of a session to hops between memories,
and `routing.py` the hops to directives.  What the controller decided about an
operation stays with it: a report whose operation was eliminated becomes one
directive that removes it and saves what the decision saves, any other at most one
that saves nothing (`Routed`).  So hops and directives account for the decisions
(`routes_account`).
-/

namespace FluidGateway

open FluidGateway.Runtime (MemoryLayer OperationType Policy RuntimeOperation RuntimeDecision
  RuntimeResource RuntimeOptimizationState Casing orElse optionalText)

/-- The name of a memory layer. -/
def Runtime.MemoryLayer.name : MemoryLayer → String
  | .ram => "ram"
  | .vram => "vram"
  | .shared => "shared"
  | .staging => "staging"
  | .swapchain => "swapchain"
  | .display => "display"

namespace Adapter

open Sequencing
open FluidGateway.ControlLoop (MemoryRouteDirective RouteDirective slotFromDirective)

/-! ## Hops -/

/-- How a hop is classified: six for work that was eliminated, one for each policy, and five
for work that was kept. -/
inductive Classification where
  | duplicateTransfer | sameLayerAliasedCopy | selfTransfer | redundantAllocation
  | orphanSync | emptySync
  | allocation | synchronization | presentationPath | sameMemoryTransfer | crossMemoryTransfer
  deriving DecidableEq, Repr

/-- One operation as a hop from one memory to another. -/
structure MemoryTransitHop where
  operationId : String
  operationType : OperationType
  frame : Option ℤ
  queue : String
  sourceResourceId : Option String
  targetResourceId : Option String
  sourceMemory : String
  targetMemory : String
  path : String
  sizeMb : ℚ
  costMs : ℚ
  executed : Bool
  avoided : Bool
  classification : Classification
  wastePolicy : Option Policy
  rationale : String
  deriving DecidableEq, Repr

/-- What the hops of one path add up to. -/
structure MemoryPathSummary where
  path : String
  hopCount : Nat
  executedHopCount : Nat
  avoidedHopCount : Nat
  attemptedMb : ℚ
  executedMb : ℚ
  avoidedMb : ℚ
  costMs : ℚ
  avoidedCostMs : ℚ
  deriving DecidableEq, Repr

/-- `MemoryTransitMap`: the hops, and what they add up to. -/
structure MemoryTransitMap where
  hopCount : Nat
  executedHopCount : Nat
  avoidedHopCount : Nat
  attemptedTransferMb : ℚ
  executedTransferMb : ℚ
  avoidedTransferMb : ℚ
  estimatedAvoidableCostMs : ℚ
  paths : List MemoryPathSummary
  hops : List MemoryTransitHop
  deriving DecidableEq, Repr

/-- The types whose operations always are hops. -/
def transitType : OperationType → Bool
  | .copy | .upload | .allocate | .draw | .present | .sync => true
  | .compute => false

/-- `is_transit_operation`: its type moves memory, or it names a resource. -/
def isTransitOperation (operationType : OperationType) (sourceId targetId : Option String) :
    Bool :=
  transitType operationType || sourceId.isSome || targetId.isSome

/-- The memory of a resource that is known. -/
def knownMemory (resources : OrderedDict String RuntimeResource) (id : Option String) : String :=
  ((id.bind resources.get).map fun resource => resource.memory.name).getD "unknown"

/-- `resolve_source_memory`: where a hop starts; allocations and waits start nowhere. -/
def resolveSourceMemory (operationType : OperationType) (sourceId : Option String)
    (resources : OrderedDict String RuntimeResource) : String :=
  match operationType with
  | .allocate => "allocation"
  | .sync => "sync"
  | _ => knownMemory resources sourceId

/-- `resolve_target_memory`: where a hop ends; a wait ends at its queue. -/
def resolveTargetMemory (operationType : OperationType) (targetId : Option String)
    (queue : String) (resources : OrderedDict String RuntimeResource) : String :=
  match operationType with
  | .sync => queue
  | _ => knownMemory resources targetId

/-- `policy_classifications`, which has every policy. -/
def policyClassification : Policy → Classification
  | .deduplicateIdenticalTransfer => .duplicateTransfer
  | .collapseAliasedResourceCopy => .sameLayerAliasedCopy
  | .eliminateSelfCopy => .selfTransfer
  | .reuseTransientBuffer => .redundantAllocation
  | .removeOrphanSync => .orphanSync
  | .removeEmptySync => .emptySync

/-- `classify`: a decision is classified by its policy, and what was kept by its type. -/
def classify (operationType : OperationType) (sourceMemory targetMemory : String)
    (decision : Option RuntimeDecision) : Classification :=
  match decision with
  | some decision => policyClassification decision.policy
  | none =>
    match operationType with
    | .allocate => .allocation
    | .sync => .synchronization
    | .draw | .present => .presentationPath
    | _ => if sourceMemory = targetMemory then .sameMemoryTransfer else .crossMemoryTransfer

/-- `transit_size_mb`: work that gives no size is taken to move all of its target. -/
def transitSizeMb (operation : RuntimeOperation) (targetId : Option String)
    (resources : OrderedDict String RuntimeResource) : ℚ :=
  if operation.sizeMb > 0 then operation.sizeMb
  else
    match operation.type with
    | .draw | .present | .compute =>
      ((targetId.bind resources.get).map RuntimeResource.sizeMb).getD 0
    | _ => 0

/-- `build_hop`. -/
def buildHop (resources : OrderedDict String RuntimeResource) (report : OperationReport) :
    Option MemoryTransitHop :=
  let operation := report.result.operation
  let sourceId := optionalText operation.source
  let targetId := optionalText operation.target
  if isTransitOperation operation.type sourceId targetId then
    let queue := orElse operation.queue "unknown"
    let decision := report.result.decision
    let executed := report.result.executed
    let sourceMemory := resolveSourceMemory operation.type sourceId resources
    let targetMemory := resolveTargetMemory operation.type targetId queue resources
    some {
      operationId := operation.id
      operationType := operation.type
      frame := operation.frame
      queue
      sourceResourceId := sourceId
      targetResourceId := targetId
      sourceMemory, targetMemory
      path := sourceMemory ++ "->" ++ targetMemory
      sizeMb := transitSizeMb operation targetId resources
      costMs := operation.costMs
      executed
      avoided := decision.isSome || !executed
      classification := classify operation.type sourceMemory targetMemory decision
      wastePolicy := decision.map RuntimeDecision.policy
      rationale := orElse (orElse ((decision.map RuntimeDecision.rationale).getD "")
        operation.reason) "Observed runtime data movement." }
  else none

/-- A sum over hops. -/
def sumHops (hops : List MemoryTransitHop) (value : MemoryTransitHop → ℚ) : ℚ :=
  (hops.map value).sum

/-- The hops that were executed. -/
def executedHops (hops : List MemoryTransitHop) : List MemoryTransitHop :=
  hops.filter fun hop => hop.executed

/-- The hops that a decision avoided. -/
def avoidedHops (hops : List MemoryTransitHop) : List MemoryTransitHop :=
  hops.filter fun hop => hop.avoided

/-- One round of the loop of `summarize_paths`. -/
def pathSummary (path : String) (hops : List MemoryTransitHop) : MemoryPathSummary where
  path := path
  hopCount := hops.length
  executedHopCount := (executedHops hops).length
  avoidedHopCount := (avoidedHops hops).length
  attemptedMb := sumHops hops MemoryTransitHop.sizeMb
  executedMb := sumHops (executedHops hops) MemoryTransitHop.sizeMb
  avoidedMb := sumHops (avoidedHops hops) MemoryTransitHop.sizeMb
  costMs := sumHops hops MemoryTransitHop.costMs
  avoidedCostMs := sumHops (avoidedHops hops) MemoryTransitHop.costMs

/-- `summarize_paths`, in the order of the paths' names. -/
def summarizePaths (hops : List MemoryTransitHop) : List MemoryPathSummary :=
  (sortBy Prod.fst (groupBy (fun hop : MemoryTransitHop => some hop.path) hops).items).map
    fun item => pathSummary item.1 item.2

/-- `build_memory_transit_map`: a hop for each report of an operation that is a transit. -/
def buildMemoryTransitMap (results : List OperationReport)
    (resources : OrderedDict String RuntimeResource) : MemoryTransitMap :=
  let hops := results.filterMap (buildHop resources)
  { hopCount := hops.length
    executedHopCount := (executedHops hops).length
    avoidedHopCount := (avoidedHops hops).length
    attemptedTransferMb := sumHops hops MemoryTransitHop.sizeMb
    executedTransferMb := sumHops (executedHops hops) MemoryTransitHop.sizeMb
    avoidedTransferMb := sumHops (avoidedHops hops) MemoryTransitHop.sizeMb
    estimatedAvoidableCostMs := sumHops (avoidedHops hops) MemoryTransitHop.costMs
    paths := summarizePaths hops
    hops }

/-! ## Directives -/

/-- `MemoryRoutePlan`: the directives, and what they save. -/
structure MemoryRoutePlan where
  directiveCount : Nat
  suppressCount : Nat
  prefetchCount : Nat
  residencyCount : Nat
  syncCount : Nat
  estimatedSavedMs : ℚ
  estimatedSavedMb : ℚ
  directives : List MemoryRouteDirective
  deriving DecidableEq, Repr

/-- An executed transfer between two memories that are known. -/
def isCrossMemoryTransfer (hop : MemoryTransitHop) : Bool :=
  hop.classification = .crossMemoryTransfer && hop.executed &&
    hop.sourceMemory ≠ "unknown" && hop.targetMemory ≠ "unknown"

/-- Of at least 16 MB, or of at least one millisecond. -/
def isLargeOrExpensive (hop : MemoryTransitHop) : Bool :=
  hop.sizeMb ≥ 16 || hop.costMs ≥ 1

/-- A directive keeps of its hop what the windows read. -/
def routeDirective (hop : MemoryTransitHop) (directive : RouteDirective)
    (expectedSavedMs expectedSavedMb : ℚ) (rationale expectedEffect : String) :
    MemoryRouteDirective where
  directive := directive
  operationId := hop.operationId
  frame := hop.frame
  path := hop.path
  targetResourceId := hop.targetResourceId
  valueMb := hop.sizeMb
  costMs := hop.costMs
  expectedSavedMs := expectedSavedMs
  expectedSavedMb := expectedSavedMb
  rationale := rationale
  expectedEffect := expectedEffect

/-- `directive_from_hop`: what was eliminated is dropped for good, and what was kept is at
most moved or protected. -/
def directiveFromHop (hop : MemoryTransitHop) : Option MemoryRouteDirective :=
  match hop.classification with
  | .duplicateTransfer | .sameLayerAliasedCopy | .selfTransfer =>
    some (routeDirective hop .suppressRedundantHop hop.costMs hop.sizeMb
      "Suppress a data movement hop already proven redundant."
      "Remove useless transfer pressure from the CPU/GPU memory path.")
  | .redundantAllocation =>
    some (routeDirective hop .reuseTransientAllocation hop.costMs hop.sizeMb
      "Reuse an equivalent transient allocation instead of allocating again."
      "Reduce allocator churn and transient VRAM/RAM pressure.")
  | .orphanSync | .emptySync =>
    some (routeDirective hop .removeSyncWait hop.costMs 0
      "Remove synchronization that no longer gates useful work."
      "Lower CPU/GPU wait time caused by useless synchronization.")
  | _ =>
    if isCrossMemoryTransfer hop && isLargeOrExpensive hop then
      some (routeDirective hop .prestageCrossMemoryTransfer 0 0
        "Route this cross-memory movement before draw-critical work."
        "Move RAM/VRAM traffic out of the hot frame path.")
    else if hop.classification = .allocation ∧ hop.sizeMb ≥ 16 then
      some (routeDirective hop .poolTransientAllocation 0 0
        "Pool this allocation shape for reuse across nearby frames."
        "Reduce late allocation work and memory allocator pressure.")
    else if hop.classification = .presentationPath then
      some (routeDirective hop .protectPresentationRoute 0 0
        "Protect the final frame presentation path from extra hops."
        "Keep display-facing work predictable and avoid late copies.")
    else none

/-- The priority that a directive is given. -/
def routePriority : RouteDirective → ℤ
  | .suppressRedundantHop => 96
  | .reuseTransientAllocation => 88
  | .removeSyncWait => 92
  | .prestageCrossMemoryTransfer => 82
  | .poolTransientAllocation => 72
  | .protectPresentationRoute => 70
  | .other _ => 0

/-- The order of the directives: the most urgent first, then by frame and by operation. -/
def routeKey (directive : MemoryRouteDirective) : ℤ ×ₗ ℤ ×ₗ String :=
  toLex (-routePriority directive.directive,
    toLex (directive.frame.getD (-1), directive.operationId))

/-- How many directives have one of these names. -/
def countDirectives (directives : List MemoryRouteDirective) (names : List RouteDirective) : Nat :=
  directives.countP fun directive => directive.directive ∈ names

/-- `build_memory_route_plan`: a directive for each hop that calls for one. -/
def buildMemoryRoutePlan (transit : MemoryTransitMap) : MemoryRoutePlan :=
  let directives := sortBy routeKey (transit.hops.filterMap directiveFromHop)
  { directiveCount := directives.length
    suppressCount := countDirectives directives [.suppressRedundantHop, .reuseTransientAllocation]
    prefetchCount := countDirectives directives [.prestageCrossMemoryTransfer]
    residencyCount := countDirectives directives [.protectPresentationRoute]
    syncCount := countDirectives directives [.removeSyncWait]
    estimatedSavedMs := (directives.map MemoryRouteDirective.expectedSavedMs).sum
    estimatedSavedMb := (directives.map MemoryRouteDirective.expectedSavedMb).sum
    directives }

/-! ## One report -/

/-- The operations that a policy eliminates. -/
def policyTypes : Policy → List OperationType
  | .deduplicateIdenticalTransfer | .collapseAliasedResourceCopy | .eliminateSelfCopy =>
    [.copy, .upload]
  | .reuseTransientBuffer => [.allocate]
  | .removeOrphanSync | .removeEmptySync => [.sync]

/-- A decision is about the operation of its report and of a kind that fits it. -/
def OperationReport.Fitted (report : OperationReport) : Prop :=
  ∀ decision, report.result.decision = some decision →
    decision.operationId = report.result.operation.id ∧
      report.result.operation.type ∈ policyTypes decision.policy

/-- A decision is about the operation that was submitted, and its policy fits the type. -/
theorem decideOperation_fits {casing : Casing} {s : RuntimeOptimizationState}
    {operation : RuntimeOperation} {decision : RuntimeDecision}
    (h : Runtime.decideOperation casing s operation = some decision) :
    decision.operationId = operation.id ∧ operation.type ∈ policyTypes decision.policy := by
  have htransfer : ∀ {source target : RuntimeResource},
      operation.type ∈ [OperationType.copy, OperationType.upload] →
      Runtime.decideTransfer s operation source target = some decision →
        decision.operationId = operation.id ∧
          operation.type ∈ policyTypes decision.policy := by
    intro source target htype h
    unfold Runtime.decideTransfer at h
    split_ifs at h <;> cases h <;> exact ⟨rfl, htype⟩
  unfold Runtime.decideOperation at h
  cases htype : operation.type with
  | copy | upload =>
      rw [htype] at h
      dsimp only at h
      split at h
      · rw [← htype]
        exact htransfer (by rw [htype]; simp) h
      · cases h
  | sync =>
      rw [htype] at h
      dsimp only [Runtime.decideSync] at h
      split_ifs at h <;> cases h <;> exact ⟨rfl, List.mem_singleton_self _⟩
  | allocate =>
      rw [htype] at h
      dsimp only [Runtime.decideAllocate] at h
      split_ifs at h
      cases h
      exact ⟨rfl, List.mem_singleton_self _⟩
  | present | compute | draw =>
      rw [htype] at h
      cases h

/-- In every run, the decision of a report is about its own operation. -/
theorem run_fitted (casing : Casing) (builtins : Builtins) (events : List (Json × Option Nat)) :
    ∀ report ∈ (RuntimeAdapterSession.run casing builtins events).results, report.Fitted := by
  refine run_reports (fun {c c' operation report} _ _ hsettled decision hdecision => ?_) events
  obtain ⟨eventIndex, result, liveCommand, gate, admission, impact⟩ := report
  dsimp only at hsettled hdecision ⊢
  cases hsettled with
  | eliminated choice =>
      obtain rfl := Option.some.inj hdecision
      have hfits := decideOperation_fits choice
      exact hfits
  | executed => cases hdecision

/-- Whether a directive removes work. -/
def removes (directive : MemoryRouteDirective) : Bool :=
  directive.directive ∈ [RouteDirective.suppressRedundantHop, .reuseTransientAllocation,
    .removeSyncWait]

/-- What becomes of a report: a decision becomes a directive that removes the
operation, and what was executed gets a directive that saves nothing, if any. -/
inductive Routed (report : OperationReport) : Option MemoryRouteDirective → Prop
  | removed {decision : RuntimeDecision} {directive : MemoryRouteDirective}
      (decided : report.result.decision = some decision)
      (removing : removes directive = true)
      (named : directive.operationId = decision.operationId)
      (cost : directive.costMs = decision.estimatedSavedMs)
      (savedMs : directive.expectedSavedMs = decision.estimatedSavedMs)
      (savedMb : directive.expectedSavedMb = decision.estimatedSavedMb) :
      Routed report (some directive)
  | kept {directive : MemoryRouteDirective}
      (executed : report.result.decision = none)
      (windowed : (slotFromDirective directive).isSome)
      (keeping : removes directive = false)
      (named : directive.operationId = report.result.operation.id)
      (savedMs : directive.expectedSavedMs = 0)
      (savedMb : directive.expectedSavedMb = 0) :
      Routed report (some directive)
  | silent (executed : report.result.decision = none) : Routed report none

/-- No hop that was kept is classified like one that was eliminated. -/
theorem classify_decided {operationType : OperationType} {sourceMemory targetMemory : String}
    (policy : Policy) :
    classify operationType sourceMemory targetMemory none ≠ policyClassification policy := by
  unfold classify
  cases operationType <;> dsimp only <;> (try split) <;> cases policy <;> simp [policyClassification]

/-- What was eliminated gets a directive that removes it, and saves what the hop would have
cost; a wait saves no memory. -/
theorem directiveFromHop_removed {hop : MemoryTransitHop} {policy : Policy}
    (h : hop.classification = policyClassification policy) :
    ∃ directive, directiveFromHop hop = some directive ∧ removes directive = true ∧
      directive.operationId = hop.operationId ∧ directive.costMs = hop.costMs ∧
      directive.expectedSavedMs = hop.costMs ∧
      directive.expectedSavedMb =
        if OperationType.sync ∈ policyTypes policy then 0 else hop.sizeMb := by
  unfold directiveFromHop
  rw [h]
  cases policy <;> exact ⟨_, rfl, rfl, rfl, rfl, rfl, rfl⟩

/-- A directive for what was kept takes a slot and saves nothing. -/
theorem directiveFromHop_kept {hop : MemoryTransitHop} {directive : MemoryRouteDirective}
    (h : ∀ policy, hop.classification ≠ policyClassification policy)
    (hdirective : directiveFromHop hop = some directive) :
    (slotFromDirective directive).isSome ∧ removes directive = false ∧
      directive.operationId = hop.operationId ∧ directive.expectedSavedMs = 0 ∧
      directive.expectedSavedMb = 0 := by
  unfold directiveFromHop at hdirective
  cases hclass : hop.classification with
  | duplicateTransfer => exact absurd hclass (h .deduplicateIdenticalTransfer)
  | sameLayerAliasedCopy => exact absurd hclass (h .collapseAliasedResourceCopy)
  | selfTransfer => exact absurd hclass (h .eliminateSelfCopy)
  | redundantAllocation => exact absurd hclass (h .reuseTransientBuffer)
  | orphanSync => exact absurd hclass (h .removeOrphanSync)
  | emptySync => exact absurd hclass (h .removeEmptySync)
  | allocation | synchronization | presentationPath | sameMemoryTransfer | crossMemoryTransfer =>
      rw [hclass] at hdirective
      dsimp only at hdirective
      split_ifs at hdirective <;> cases hdirective <;> exact ⟨rfl, rfl, rfl, rfl, rfl⟩

/-- The directive that a report leads to. -/
def directiveOf (resources : OrderedDict String RuntimeResource) (report : OperationReport) :
    Option MemoryRouteDirective :=
  (buildHop resources report).bind directiveFromHop

/-- Every operation that a policy eliminates is a hop. -/
theorem transitType_of_mem {operationType : OperationType} {policy : Policy}
    (h : operationType ∈ policyTypes policy) : transitType operationType = true := by
  unfold policyTypes at h
  cases operationType <;> first | rfl | (cases policy <;> simp at h)

/-- Waits are eliminated by policies of their own. -/
theorem sync_mem_policyTypes {operationType : OperationType} {policy : Policy}
    (h : operationType ∈ policyTypes policy) :
    OperationType.sync ∈ policyTypes policy ↔ operationType = .sync := by
  unfold policyTypes at h ⊢
  cases policy <;> cases operationType <;> simp at h ⊢

/-- What was eliminated is counted with its own size: no policy eliminates work that is
given the size of its target. -/
theorem transitSizeMb_eliminated {operation : RuntimeOperation} {policy : Policy}
    (h : operation.type ∈ policyTypes policy) (hsize : 0 ≤ operation.sizeMb)
    (targetId : Option String) (resources : OrderedDict String RuntimeResource) :
    transitSizeMb operation targetId resources = operation.sizeMb := by
  unfold transitSizeMb
  split
  · rfl
  · next hzero =>
      rw [le_antisymm (not_lt.mp hzero) hsize]
      unfold policyTypes at h
      cases htype : operation.type with
      | copy | upload | allocate | sync => rfl
      | draw | compute | present =>
          rw [htype] at h
          cases policy <;> simp at h

/-- The directive of a report, by what its hop is. -/
theorem routed {report : OperationReport} (hfitted : report.Fitted) (hpriced : report.Priced)
    (resources : OrderedDict String RuntimeResource) :
    Routed report (directiveOf resources report) := by
  unfold directiveOf buildHop
  dsimp only
  cases hdecision : report.result.decision with
  | none =>
      split
      · rw [Option.bind_some]
        generalize hhop : ({ operationId := _, operationType := _, .. } : MemoryTransitHop) = hop
        have hclass : ∀ policy, hop.classification ≠ policyClassification policy := by
          intro policy
          rw [← hhop]
          exact classify_decided policy
        have hid : hop.operationId = report.result.operation.id := by
          rw [← hhop]
        cases hdirective : directiveFromHop hop with
        | none => exact .silent hdecision
        | some directive =>
            obtain ⟨hwindow, hkeeps, hnamed, hms, hmb⟩ := directiveFromHop_kept hclass hdirective
            exact .kept hdecision hwindow hkeeps (hnamed.trans hid) hms hmb
      · exact .silent hdecision
  | some decision =>
      obtain ⟨hnamed, hfits⟩ := hfitted decision hdecision
      obtain ⟨hms, hmb⟩ := hpriced.saved decision hdecision
      have hhop : ∀ sourceId targetId : Option String, isTransitOperation
          report.result.operation.type sourceId targetId = true := by
        intro sourceId targetId
        unfold isTransitOperation
        rw [transitType_of_mem hfits]
        rfl
      rw [if_pos (hhop _ _), Option.bind_some]
      generalize hhop : ({ operationId := _, operationType := _, .. } : MemoryTransitHop) = hop
      have hclass : hop.classification = policyClassification decision.policy := by
        rw [← hhop]
        rfl
      obtain ⟨directive, hdirective, hremoves, hid, hcost, hsavedMs, hsavedMb⟩ :=
        directiveFromHop_removed hclass
      rw [hdirective]
      refine .removed hdecision hremoves ?_ ?_ ?_ ?_
      · rw [hid, ← hhop, hnamed]
      · rw [hcost, ← hhop, hms]
      · rw [hsavedMs, ← hhop, hms]
      · rw [hsavedMb, hmb, ← hhop]
        simp only [sync_mem_policyTypes hfits, transitSizeMb_eliminated hfits hpriced.size]

/-! ## The hops -/

/-- What a hop says of the report that it is built from. -/
structure MemoryTransitHop.About (hop : MemoryTransitHop) (report : OperationReport) : Prop where
  named : hop.operationId = report.result.operation.id
  type : hop.operationType = report.result.operation.type
  frame : hop.frame = report.result.operation.frame
  cost : hop.costMs = report.result.operation.costMs
  executed : hop.executed = report.result.executed
  avoided : hop.avoided = (report.result.decision.isSome || !report.result.executed)
  policy : hop.wastePolicy = report.result.decision.map RuntimeDecision.policy
  decided : ∀ decision, report.result.decision = some decision →
    hop.classification = policyClassification decision.policy
  size : ∀ policy, report.result.operation.type ∈ policyTypes policy →
    0 ≤ report.result.operation.sizeMb → hop.sizeMb = report.result.operation.sizeMb

/-- A hop is built with the fields of its report. -/
theorem buildHop_about {report : OperationReport} {hop : MemoryTransitHop}
    {resources : OrderedDict String RuntimeResource}
    (h : buildHop resources report = some hop) : hop.About report := by
  unfold buildHop at h
  dsimp only at h
  split at h
  · cases h
    refine ⟨rfl, rfl, rfl, rfl, rfl, rfl, rfl, fun decision hdecision => ?_,
      fun policy htype hsize => transitSizeMb_eliminated htype hsize _ _⟩
    dsimp only
    rw [hdecision]
    rfl
  · cases h

/-- Every operation of a type that can be eliminated is a hop. -/
theorem buildHop_isSome {report : OperationReport} {policy : Policy}
    (h : report.result.operation.type ∈ policyTypes policy)
    (resources : OrderedDict String RuntimeResource) :
    (buildHop resources report).isSome = true := by
  unfold buildHop isTransitOperation
  dsimp only
  rw [transitType_of_mem h, Bool.true_or, Bool.true_or, if_pos rfl]
  rfl

/-- The hop of an eliminated operation: it stands for the decision, and costs what the
decision saves. -/
structure MemoryTransitHop.AvoidedBy (hop : MemoryTransitHop) (decision : RuntimeDecision) :
    Prop where
  named : hop.operationId = decision.operationId
  policy : hop.wastePolicy = some decision.policy
  classified : hop.classification = policyClassification decision.policy
  spared : hop.executed = false
  savedMs : hop.costMs = decision.estimatedSavedMs
  savedMb : decision.estimatedSavedMb = if hop.operationType = .sync then 0 else hop.sizeMb

/-- The hop of an operation that was executed, and saves nothing. -/
structure MemoryTransitHop.MadeBy (hop : MemoryTransitHop) (operation : RuntimeOperation) :
    Prop where
  named : hop.operationId = operation.id
  type : hop.operationType = operation.type
  frame : hop.frame = operation.frame
  cost : hop.costMs = operation.costMs
  executed : hop.executed = true
  policy : hop.wastePolicy = none

section

variable {report : OperationReport} (hconsistent : report.Consistent)
  (resources : OrderedDict String RuntimeResource)

include hconsistent

/-- A decision leads to an avoided hop, and nothing else does. -/
theorem avoidedBy_decision (hfitted : report.Fitted) (hpriced : report.Priced) :
    Option.Rel MemoryTransitHop.AvoidedBy
      ((buildHop resources report).filter MemoryTransitHop.avoided) report.result.decision := by
  cases hdecision : report.result.decision with
  | none =>
      have hnone : (buildHop resources report).filter MemoryTransitHop.avoided = none := by
        refine Option.filter_eq_none_iff.mpr fun hop hhop => ?_
        have habout := buildHop_about hhop
        rw [habout.avoided, hconsistent.executed, hdecision]
        decide
      rw [hnone]
      exact .none
  | some decision =>
      obtain ⟨hnamed, hfits⟩ := hfitted decision hdecision
      obtain ⟨hms, hmb⟩ := hpriced.saved decision hdecision
      obtain ⟨hop, hhop⟩ := Option.isSome_iff_exists.mp (buildHop_isSome hfits resources)
      have habout := buildHop_about hhop
      have havoided : hop.avoided = true := by
        rw [habout.avoided, hdecision]
        rfl
      rw [hhop, Option.filter_some, if_pos havoided]
      refine .some ⟨habout.named.trans hnamed.symm, ?_, habout.decided decision hdecision, ?_,
        habout.cost.trans hms.symm, ?_⟩
      · rw [habout.policy, hdecision]
        rfl
      · rw [habout.executed, hconsistent.executed, hdecision]
        rfl
      · rw [hmb, habout.type, habout.size _ hfits hpriced.size]

/-- Any other hop is that of an operation that was executed. -/
theorem madeBy_executed {hop : MemoryTransitHop}
    (h : (buildHop resources report).filter (fun hop => !hop.avoided) = some hop) :
    ∃ operation, report.executedOperation = some operation ∧ hop.MadeBy operation := by
  obtain ⟨hhop, hkept⟩ := Option.filter_eq_some_iff.mp h
  have habout := buildHop_about hhop
  rw [habout.avoided, hconsistent.executed] at hkept
  have hdecision : report.result.decision = none := by
    cases hdecision : report.result.decision with
    | none => rfl
    | some decision =>
        rw [hdecision] at hkept
        exact absurd hkept (by simp)
  refine ⟨report.result.operation, ?_, habout.named, habout.type, habout.frame, habout.cost, ?_, ?_⟩
  · unfold OperationReport.executedOperation
    rw [hconsistent.executed, hdecision]
    rfl
  · rw [habout.executed, hconsistent.executed, hdecision]
    rfl
  · rw [habout.policy, hdecision]
    rfl

end

/-- What a field of the path summaries adds up to. -/
theorem sum_paths {β : Type} [AddCommMonoid β] {field : MemoryPathSummary → β}
    (value : List MemoryTransitHop → β)
    (hfield : ∀ path hops, field (pathSummary path hops) = value hops)
    (hadd : ∀ hops hops', value (hops ++ hops') = value hops + value hops')
    (hnil : value [] = 0) (hops : List MemoryTransitHop) :
    ((summarizePaths hops).map field).sum = value hops := by
  let groups := groupBy (fun hop : MemoryTransitHop => some hop.path) hops
  have htotal : (groups.values.map value).sum = value hops := by
    have hgroups := sum_groupBy (fun hop : MemoryTransitHop => some hop.path) value hadd hnil hops
    have hall : hops.filter (fun hop => (some hop.path).isSome) = hops :=
      List.filter_eq_self.mpr fun _ _ => rfl
    rw [hall] at hgroups
    exact hgroups
  calc ((summarizePaths hops).map field).sum
      = ((sortBy Prod.fst groups.items).map fun item => value item.2).sum := by
        unfold summarizePaths
        rw [List.map_map]
        exact congrArg List.sum (List.map_congr_left fun item _ => hfield item.1 item.2)
    _ = (groups.items.map fun item => value item.2).sum := sum_map_sortBy _ _ _
    _ = (groups.values.map value).sum := by
        rw [OrderedDict.values, List.map_map]
        rfl
    _ = value hops := htotal

/-- Sums over hops add up along a list of hops. -/
theorem sumHops_append (value : MemoryTransitHop → ℚ) (hops hops' : List MemoryTransitHop) :
    sumHops (hops ++ hops') value = sumHops hops value + sumHops hops' value := by
  unfold sumHops
  rw [List.map_append, List.sum_append]

/-- The avoided hops of a list are those of its parts. -/
theorem avoidedHops_append (hops hops' : List MemoryTransitHop) :
    avoidedHops (hops ++ hops') = avoidedHops hops ++ avoidedHops hops' :=
  List.filter_append _ _

section

variable {reports : List OperationReport} (resources : OrderedDict String RuntimeResource)

/-- The avoided hops are the decisions, one each and in their order. -/
theorem avoidedHops_decisions
    (h : ∀ report ∈ reports, report.Consistent ∧ report.Fitted ∧ report.Priced) :
    List.Forall₂ MemoryTransitHop.AvoidedBy
      (avoidedHops (reports.filterMap (buildHop resources))) (decisionsOf reports) := by
  unfold avoidedHops decisionsOf
  rw [List.filter_filterMap]
  refine forall₂_filterMap fun report hreport => ?_
  obtain ⟨hconsistent, hfitted, hpriced⟩ := h report hreport
  exact avoidedBy_decision hconsistent resources hfitted hpriced

/-- The others are executed operations, one each and in their order. -/
theorem keptHops_operations (h : ∀ report ∈ reports, report.Consistent) :
    List.SublistForall₂ MemoryTransitHop.MadeBy
      ((reports.filterMap (buildHop resources)).filter fun hop => !hop.avoided)
      (executedOf reports) := by
  unfold executedOf
  rw [List.filter_filterMap]
  exact sublistForall₂_filterMap fun report hreport hop hhop =>
    madeBy_executed (h report hreport) resources hhop

/-- A hop is avoided or executed. -/
theorem avoidedHops_eq (h : ∀ report ∈ reports, report.Consistent) :
    avoidedHops (reports.filterMap (buildHop resources)) =
      (reports.filterMap (buildHop resources)).filter fun hop => !hop.executed := by
  refine List.filter_congr fun hop hhop => ?_
  obtain ⟨report, hreport, hbuilt⟩ := List.mem_filterMap.mp hhop
  have habout := buildHop_about hbuilt
  rw [habout.avoided, habout.executed, (h report hreport).executed]
  cases report.result.decision <;> rfl

end

/-! ## The routes of a session -/

/-- The map of all that a session has reported, over the resources its planner knows. -/
def memoryTransitMap (s : RuntimeAdapterSession) : MemoryTransitMap :=
  buildMemoryTransitMap s.results s.lifetimePlanner.resources

/-- The routes of that map. -/
def memoryRoutePlan (s : RuntimeAdapterSession) : MemoryRoutePlan :=
  buildMemoryRoutePlan (memoryTransitMap s)

/-- The hops of a session are its decisions and operations, and what they add up to. -/
structure MemoryTransitMap.Accounts (transit : MemoryTransitMap) (s : RuntimeAdapterSession) :
    Prop where
  removed : List.Forall₂ MemoryTransitHop.AvoidedBy (avoidedHops transit.hops)
    s.controller.decisions
  kept : List.SublistForall₂ MemoryTransitHop.MadeBy
    (transit.hops.filter fun hop => !hop.avoided) s.controller.executedOperations
  hops : transit.executedHopCount + transit.avoidedHopCount = transit.hopCount
  sizes : transit.executedTransferMb + transit.avoidedTransferMb = transit.attemptedTransferMb
  avoided : transit.avoidedHopCount = s.controller.decisions.length
  avoidable : transit.estimatedAvoidableCostMs =
    (s.controller.decisions.map RuntimeDecision.estimatedSavedMs).sum
  pathHops : (transit.paths.map MemoryPathSummary.hopCount).sum = transit.hopCount
  pathAvoided : (transit.paths.map MemoryPathSummary.avoidedHopCount).sum =
    transit.avoidedHopCount
  pathSizes : (transit.paths.map MemoryPathSummary.attemptedMb).sum = transit.attemptedTransferMb
  pathCosts : (transit.paths.map MemoryPathSummary.avoidedCostMs).sum =
    transit.estimatedAvoidableCostMs

/-- What a directive saves, and of which operation. -/
def directiveSaving (directive : MemoryRouteDirective) : String × ℚ × ℚ :=
  (directive.operationId, directive.expectedSavedMs, directive.expectedSavedMb)

/-- What a decision saves, and of which operation. -/
def decisionSaving (decision : RuntimeDecision) : String × ℚ × ℚ :=
  (decision.operationId, decision.estimatedSavedMs, decision.estimatedSavedMb)

/-- The directives of a session are its decisions and operations, and what they add up to. -/
structure MemoryRoutePlan.Accounts (plan : MemoryRoutePlan) (s : RuntimeAdapterSession) :
    Prop where
  removed : ((plan.directives.filter removes).map directiveSaving).Perm
    (s.controller.decisions.map decisionSaving)
  kept : ∀ directive ∈ plan.directives, removes directive = false →
    (∃ operation ∈ s.controller.executedOperations, operation.id = directive.operationId) ∧
      directive.expectedSavedMs = 0 ∧ directive.expectedSavedMb = 0
  counts : plan.suppressCount + plan.syncCount = s.controller.decisions.length
  savedMs : plan.estimatedSavedMs =
    (s.controller.decisions.map RuntimeDecision.estimatedSavedMs).sum
  savedMb : plan.estimatedSavedMb =
    (s.controller.decisions.map RuntimeDecision.estimatedSavedMb).sum

/-- Suppressed hops, reused allocations and removed waits are what is removed. -/
theorem countDirectives_removes (directives : List MemoryRouteDirective) :
    countDirectives directives [.suppressRedundantHop, .reuseTransientAllocation] +
      countDirectives directives [.removeSyncWait] = (directives.filter removes).length := by
  unfold countDirectives
  rw [← List.countP_eq_length_filter]
  induction directives with
  | nil => rfl
  | cons directive directives ih =>
      rw [List.countP_cons, List.countP_cons, List.countP_cons, ← ih]
      unfold removes
      cases directive.directive <;> simp <;> omega

section

variable {s : RuntimeAdapterSession}

/-- The map of a session accounts for its decisions and for its executed operations. -/
theorem memoryTransitMap_accounts (hjournal : Journaled s)
    (hfitted : ∀ report ∈ s.results, report.Fitted)
    (hpriced : ∀ report ∈ s.results, report.Priced) : (memoryTransitMap s).Accounts s := by
  have hremoved := avoidedHops_decisions s.lifetimePlanner.resources fun report hreport =>
    ⟨hjournal.consistent report hreport, hfitted report hreport, hpriced report hreport⟩
  have hkept := keptHops_operations s.lifetimePlanner.resources hjournal.consistent
  have havoided := avoidedHops_eq s.lifetimePlanner.resources hjournal.consistent
  rw [← hjournal.decided] at hremoved
  rw [← hjournal.executed] at hkept
  unfold memoryTransitMap buildMemoryTransitMap
  generalize s.results.filterMap (buildHop s.lifetimePlanner.resources) = hops
    at hremoved hkept havoided ⊢
  have hcosts : (avoidedHops hops).map MemoryTransitHop.costMs =
      s.controller.decisions.map RuntimeDecision.estimatedSavedMs := by
    refine List.forall₂_eq_eq_eq ▸ ?_
    exact List.forall₂_map_left_iff.mpr (List.forall₂_map_right_iff.mpr
      (hremoved.imp fun _ _ h => h.savedMs))
  refine ⟨hremoved, hkept, ?_, ?_, hremoved.length_eq, congrArg List.sum hcosts, ?_, ?_, ?_, ?_⟩
  · change (executedHops hops).length + (avoidedHops hops).length = hops.length
    rw [havoided]
    exact (List.length_eq_length_filter_add fun hop : MemoryTransitHop => hop.executed).symm
  · have hperm := List.filter_append_perm (fun hop : MemoryTransitHop => hop.executed) hops
    have htotal := (hperm.map MemoryTransitHop.sizeMb).sum_eq
    change sumHops (executedHops hops) _ + sumHops (avoidedHops hops) _ = sumHops hops _
    rw [havoided, ← sumHops_append]
    exact htotal
  · exact sum_paths List.length (fun _ _ => rfl) (fun _ _ => List.length_append) rfl hops
  · refine sum_paths (fun hops => (avoidedHops hops).length) (fun _ _ => rfl) ?_ rfl hops
    intro hops hops'
    rw [avoidedHops_append, List.length_append]
  · exact sum_paths (fun hops => sumHops hops MemoryTransitHop.sizeMb) (fun _ _ => rfl)
      (sumHops_append _) rfl hops
  · refine sum_paths (fun hops => sumHops (avoidedHops hops) MemoryTransitHop.costMs)
      (fun _ _ => rfl) ?_ rfl hops
    intro hops hops'
    rw [avoidedHops_append, sumHops_append]

/-- The directives are those of the reports, in another order. -/
theorem directives_perm (s : RuntimeAdapterSession) : (memoryRoutePlan s).directives.Perm
    (s.results.filterMap (directiveOf s.lifetimePlanner.resources)) := by
  have hsorted := sortBy_perm routeKey ((memoryTransitMap s).hops.filterMap directiveFromHop)
  change (memoryRoutePlan s).directives.Perm _ at hsorted
  refine hsorted.trans (List.Perm.of_eq ?_)
  exact List.filterMap_filterMap

/-- The routes of a session account for its decisions. -/
theorem memoryRoutePlan_accounts (hjournal : Journaled s)
    (hrouted : ∀ report ∈ s.results,
      Routed report (directiveOf s.lifetimePlanner.resources report)) :
    (memoryRoutePlan s).Accounts s := by
  have hperm := directives_perm s
  have hremoved : (((s.results.filterMap (directiveOf s.lifetimePlanner.resources)).filter
      removes).map directiveSaving) = s.controller.decisions.map decisionSaving := by
    rw [hjournal.decided, decisionsOf, List.filter_filterMap, List.map_filterMap,
      List.map_filterMap]
    refine List.filterMap_congr fun report hreport => ?_
    have hroute := hrouted report hreport
    generalize directiveOf s.lifetimePlanner.resources report = directive at hroute ⊢
    cases hroute with
    | removed decided removing named _ savedMs savedMb =>
        simp [decided, removing, directiveSaving, decisionSaving, named, savedMs, savedMb]
    | kept executed _ keeping => simp [executed, keeping]
    | silent executed => simp [executed]
  have hsaved : ∀ {value : MemoryRouteDirective → ℚ} {saved : RuntimeDecision → ℚ},
      (∀ report ∈ s.results,
        ((directiveOf s.lifetimePlanner.resources report).map value).getD 0 =
          ((report.result.decision).map saved).getD 0) →
      ((memoryRoutePlan s).directives.map value).sum =
        (s.controller.decisions.map saved).sum := by
    intro value saved hsame
    rw [(hperm.map value).sum_eq, sum_filterMap, hjournal.decided, decisionsOf, sum_filterMap]
    exact congrArg List.sum (List.map_congr_left hsame)
  have hfilter := (hperm.filter removes).map directiveSaving
  rw [hremoved] at hfilter
  refine ⟨hfilter, ?_, ?_, hsaved ?_, hsaved ?_⟩
  · intro directive hdirective hkeeps
    obtain ⟨report, hreport, hof⟩ := List.mem_filterMap.mp (hperm.mem_iff.mp hdirective)
    have hroute := hrouted report hreport
    rw [hof] at hroute
    cases hroute with
    | removed _ removing => exact absurd (hkeeps.symm.trans removing) Bool.false_ne_true
    | kept executed _ _ named savedMs savedMb =>
        refine ⟨⟨report.result.operation, ?_, named.symm⟩, savedMs, savedMb⟩
        rw [hjournal.executed]
        refine List.mem_filterMap.mpr ⟨report, hreport, ?_⟩
        unfold OperationReport.executedOperation
        rw [(hjournal.consistent report hreport).executed, executed]
        rfl
  · rw [← List.length_map (f := decisionSaving), ← hfilter.length_eq, List.length_map]
    exact countDirectives_removes _
  · intro report hreport
    have hroute := hrouted report hreport
    generalize directiveOf s.lifetimePlanner.resources report = directive at hroute ⊢
    cases hroute with
    | removed decided _ _ _ savedMs => simp [decided, savedMs]
    | kept executed _ _ _ savedMs => simp [executed, savedMs]
    | silent executed => simp [executed]
  · intro report hreport
    have hroute := hrouted report hreport
    generalize directiveOf s.lifetimePlanner.resources report = directive at hroute ⊢
    cases hroute with
    | removed decided _ _ _ _ savedMb => simp [decided, savedMb]
    | kept executed _ _ _ _ savedMb => simp [executed, savedMb]
    | silent executed => simp [executed]

end

/-- In every run, each report has the directive that its hop calls for. -/
theorem run_routed (casing : Casing) (builtins : Builtins) (events : List (Json × Option Nat)) :
    let s := RuntimeAdapterSession.run casing builtins events
    ∀ report ∈ s.results, Routed report (directiveOf s.lifetimePlanner.resources report) :=
  fun report hreport => routed (run_fitted casing builtins events report hreport)
    (run_priced casing builtins events report hreport) _

/-- **Routes account for the decisions.** After every stream of events, whatever
raises, the avoided hops and the directives that remove work are the controller's
decisions, one each, and save what these save; every other directive is about an
operation that was executed and saves nothing. -/
theorem routes_account (casing : Casing) (builtins : Builtins)
    (events : List (Json × Option Nat)) :
    let s := RuntimeAdapterSession.run casing builtins events
    (memoryTransitMap s).Accounts s ∧ (memoryRoutePlan s).Accounts s :=
  have hjournal := run_journaled casing builtins events
  ⟨memoryTransitMap_accounts hjournal (run_fitted casing builtins events)
    (run_priced casing builtins events),
    memoryRoutePlan_accounts hjournal (run_routed casing builtins events)⟩

end Adapter

end FluidGateway
