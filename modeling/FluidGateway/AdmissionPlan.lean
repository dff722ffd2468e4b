import FluidGateway.SessionBooks
import FluidGateway.Lib.Sequencing
import Mathlib.Algebra.Order.BigOperators.Group.List
import Mathlib.Tactic.Linarith
import Mathlib.Tactic.Positivity

/-!
# The admission plan and the efficiency ledger

`build_admission_plan` of `fluidgateway/admission.py` and `build_efficiency_ledger`
of `efficiency.py`, over the results of a session.  The plan counts every report
once and its costs are those of the controller's books (`plan_balanced`); the
frames of the ledger are the frames that have reports, each with the numbers of
the session's own statistics (`ledger_agrees`).
-/

namespace FluidGateway.Adapter

open FluidGateway.Runtime (Casing FluidGatewayController ControllerResult RuntimeOperation
  RuntimeDecision RuntimeOptimizationState OperationType)
open Sequencing

/-! ## The plan -/

/-- `AdmissionPlan`: what is counted and summed over the slots, with the slots. -/
structure AdmissionPlan where
  operationCount : Nat
  immediateCount : Nat
  prefetchCount : Nat
  deferredCount : Nat
  reusedCount : Nat
  heldCount : Nat
  estimatedHotPathCostMs : ℚ
  estimatedPrestagedCostMs : ℚ
  estimatedPrestagedTransferMb : ℚ
  estimatedAvoidedCostMs : ℚ
  estimatedAvoidedTransferMb : ℚ
  estimatedHeldCostMs : ℚ
  estimatedHeldTransferMb : ℚ
  slots : List AdmissionDecision
  deriving DecidableEq, Repr

/-- `count`: how many of the slots have an action. -/
def countAction (slots : List AdmissionDecision) (action : AdmissionAction) : Nat :=
  (slots.filter fun slot => slot.action = action).length

/-- `sum_cost`: what the slots of a contribution cost. -/
def sumCost (slots : List AdmissionDecision) (contribution : Contribution) : ℚ :=
  ((slots.filter fun slot => slot.contribution = contribution).map AdmissionDecision.costMs).sum

/-- `sum_size`: what the slots of a contribution transfer. -/
def sumSize (slots : List AdmissionDecision) (contribution : Contribution) : ℚ :=
  ((slots.filter fun slot => slot.contribution = contribution).map AdmissionDecision.sizeMb).sum

/-- `build_admission_plan`; every result of a session has its operation. -/
def buildAdmissionPlan (results : List OperationReport) : AdmissionPlan :=
  let slots := results.map fun report =>
    buildAdmissionDecision report.result.operation report.executionGate
  { operationCount := slots.length
    immediateCount := countAction slots .admitNow
    prefetchCount := countAction slots .admitPrefetch
    deferredCount := countAction slots .rejectRedundant
    reusedCount := countAction slots .reuseExisting
    heldCount := countAction slots .holdNextFrame
    estimatedHotPathCostMs := sumCost slots .hotPath
    estimatedPrestagedCostMs := sumCost slots .prestaged
    estimatedPrestagedTransferMb := sumSize slots .prestaged
    estimatedAvoidedCostMs := sumCost slots .avoided + sumCost slots .reused
    estimatedAvoidedTransferMb := sumSize slots .avoided + sumSize slots .reused
    estimatedHeldCostMs := sumCost slots .held
    estimatedHeldTransferMb := sumSize slots .held
    slots }

/-! ## The ledger -/

/-- `FrameEfficiency`. -/
structure FrameEfficiency where
  frame : ℤ
  operationCount : Nat
  hotPathCostMs : ℚ
  shiftedCostMs : ℚ
  avoidedCostMs : ℚ
  heldCostMs : ℚ
  transferReliefMb : ℚ
  efficiencyScore : ℚ
  deriving DecidableEq, Repr

/-- `EfficiencyLedger`. -/
structure EfficiencyLedger where
  operationCount : Nat
  hotPathCostMs : ℚ
  shiftedCostMs : ℚ
  avoidedCostMs : ℚ
  heldCostMs : ℚ
  transferReliefMb : ℚ
  managedCostMs : ℚ
  reliefCostMs : ℚ
  efficiencyScore : ℚ
  frames : List FrameEfficiency
  deriving DecidableEq, Repr

/-- `score`: the share of relief in what is managed, in percent. -/
def score (reliefCostMs managedCostMs : ℚ) : ℚ :=
  if managedCostMs ≤ 0 then 0 else reliefCostMs / managedCostMs * 100

/-- One round of the loop of `build_frame_efficiency`. -/
def frameEfficiency (frame : ℤ) (slots : List AdmissionDecision) : FrameEfficiency :=
  let hotPath := sumCost slots .hotPath
  let shifted := sumCost slots .prestaged
  let avoided := ((slots.filter fun slot =>
    slot.contribution = .avoided ∨ slot.contribution = .reused).map AdmissionDecision.costMs).sum
  let held := sumCost slots .held
  let relief := shifted + avoided + held
  { frame
    operationCount := slots.length
    hotPathCostMs := hotPath
    shiftedCostMs := shifted
    avoidedCostMs := avoided
    heldCostMs := held
    transferReliefMb := ((slots.filter fun slot =>
      slot.contribution ∈ [.prestaged, .avoided, .reused, .held]).map
        AdmissionDecision.sizeMb).sum
    efficiencyScore := score relief (hotPath + relief) }

/-- `build_frame_efficiency`: the slots by frame, in increasing order of frames. -/
def buildFrameEfficiency (slots : List AdmissionDecision) : List FrameEfficiency :=
  (sortBy Prod.fst (groupBy AdmissionDecision.frame slots).items).map fun item =>
    frameEfficiency item.1 item.2

/-- `build_efficiency_ledger`: what reuse saves counts as avoided. -/
def buildEfficiencyLedger (plan : AdmissionPlan) : EfficiencyLedger :=
  let relief := plan.estimatedPrestagedCostMs + plan.estimatedAvoidedCostMs +
    plan.estimatedHeldCostMs
  let managed := plan.estimatedHotPathCostMs + relief
  { operationCount := plan.operationCount
    hotPathCostMs := plan.estimatedHotPathCostMs
    shiftedCostMs := plan.estimatedPrestagedCostMs
    avoidedCostMs := plan.estimatedAvoidedCostMs
    heldCostMs := plan.estimatedHeldCostMs
    transferReliefMb := plan.estimatedPrestagedTransferMb + plan.estimatedAvoidedTransferMb +
      plan.estimatedHeldTransferMb
    managedCostMs := managed
    reliefCostMs := relief
    efficiencyScore := score relief managed
    frames := buildFrameEfficiency plan.slots }

/-! ## What the reports of a session say -/

/-- A decision saves the whole cost of its operation, and its size unless it
drops a wait. -/
theorem decideOperation_savings {casing : Casing} {s : RuntimeOptimizationState}
    {operation : RuntimeOperation} {decision : RuntimeDecision} (hcost : 0 ≤ operation.costMs)
    (h : Runtime.decideOperation casing s operation = some decision) :
    decision.estimatedSavedMs = operation.costMs ∧
      decision.estimatedSavedMb = if operation.type = .sync then 0 else operation.sizeMb := by
  have htransfer : ∀ {source target : Runtime.RuntimeResource},
      Runtime.decideTransfer s operation source target = some decision →
        decision.estimatedSavedMs = operation.costMs ∧
          decision.estimatedSavedMb = operation.sizeMb := by
    intro source target h
    unfold Runtime.decideTransfer at h
    split_ifs at h <;> cases h <;> exact ⟨rfl, rfl⟩
  unfold Runtime.decideOperation at h
  cases htype : operation.type with
  | copy | upload =>
      rw [htype] at h
      dsimp only at h
      split at h
      · exact htransfer h
      · cases h
  | sync =>
      rw [htype] at h
      dsimp only [Runtime.decideSync] at h
      split_ifs at h with hremoved hempty
      · cases h
        exact ⟨rfl, rfl⟩
      · cases h
        exact ⟨le_antisymm hcost hempty.1, rfl⟩
  | allocate =>
      rw [htype] at h
      dsimp only [Runtime.decideAllocate] at h
      split_ifs at h
      cases h
      exact ⟨rfl, rfl⟩
  | present | compute | draw =>
      rw [htype] at h
      cases h

/-- The numbers of a report are not negative, and a decision saves them. -/
structure OperationReport.Priced (report : OperationReport) : Prop where
  cost : 0 ≤ report.result.operation.costMs
  size : 0 ≤ report.result.operation.sizeMb
  saved : ∀ decision, report.result.decision = some decision →
    decision.estimatedSavedMs = report.result.operation.costMs ∧
      decision.estimatedSavedMb =
        if report.result.operation.type = .sync then 0 else report.result.operation.sizeMb

/-- Every report of a run has a price: no cost and no saving is negative. -/
theorem run_priced (casing : Casing) (builtins : Builtins) (events : List (Json × Option Nat)) :
    ∀ report ∈ (RuntimeAdapterSession.run casing builtins events).results, report.Priced := by
  refine run_reports (fun {c c' operation report} hcost hsize hsettled => ?_) events
  obtain ⟨eventIndex, result, liveCommand, gate, admission, impact⟩ := report
  dsimp only at hsettled
  cases hsettled with
  | eliminated choice =>
      refine ⟨hcost, hsize, fun decision hdecision => ?_⟩
      obtain rfl := Option.some.inj hdecision
      have hsavings := decideOperation_savings hcost choice
      exact hsavings
  | executed => exact ⟨hcost, hsize, fun decision hdecision => by cases hdecision⟩

/-! ## Every report once -/

/-- The slots of the plan. -/
def slotsOf (reports : List OperationReport) : List AdmissionDecision :=
  reports.map OperationReport.admissionDecision

/-- The slots of a plan are the admissions of the reports. -/
theorem slots_eq {reports : List OperationReport} (h : ∀ report ∈ reports, report.Consistent) :
    (buildAdmissionPlan reports).slots = slotsOf reports :=
  List.map_congr_left fun report hreport => (h report hreport).admission.symm

/-- The action of a slot says what it contributes, and its cost and size are those of the
operation. -/
theorem contribution_of_action (operation : RuntimeOperation) (gate : ExecutionGateDecision) :
    let slot := buildAdmissionDecision operation gate
    slot.costMs = operation.costMs ∧ slot.frame = operation.frame ∧
      (slot.action = .admitNow ↔ slot.contribution = .hotPath) ∧
      (slot.action = .admitPrefetch ↔ slot.contribution = .prestaged) ∧
      (slot.action = .rejectRedundant ↔ slot.contribution = .avoided) ∧
      (slot.action = .reuseExisting ↔ slot.contribution = .reused) ∧
      (slot.action = .holdNextFrame ↔ slot.contribution = .held) := by
  dsimp only
  unfold buildAdmissionDecision
  cases gate.action <;> simp

/-- What a slot costs, if it contributes in this way. -/
theorem sumCost_eq (slots : List AdmissionDecision) (contribution : Contribution) :
    sumCost slots contribution =
      (slots.map fun slot => if slot.contribution = contribution then slot.costMs else 0).sum :=
  sum_filter _ _ _

/-- The costs of these reports are split between the executed and the
eliminated operations. -/
structure Balanced (reports : List OperationReport) : Prop where
  executed : sumCost (slotsOf reports) .hotPath + sumCost (slotsOf reports) .prestaged +
    sumCost (slotsOf reports) .held = ((executedOf reports).map RuntimeOperation.costMs).sum
  avoided : sumCost (slotsOf reports) .avoided + sumCost (slotsOf reports) .reused =
    ((decisionsOf reports).map RuntimeDecision.estimatedSavedMs).sum
  eliminated : countAction (slotsOf reports) .rejectRedundant +
    countAction (slotsOf reports) .reuseExisting = (decisionsOf reports).length
  nonneg : ∀ contribution, 0 ≤ sumCost (slotsOf reports) contribution

/-- One slot more adds its cost where it has the contribution. -/
theorem sumCost_cons (slot : AdmissionDecision) (slots : List AdmissionDecision)
    (contribution : Contribution) : sumCost (slot :: slots) contribution =
      (if slot.contribution = contribution then slot.costMs else 0) +
        sumCost slots contribution := by
  rw [sumCost_eq, sumCost_eq, List.map_cons, List.sum_cons]

/-- One slot more is counted where it has the action. -/
theorem countAction_cons (slot : AdmissionDecision) (slots : List AdmissionDecision)
    (action : AdmissionAction) : countAction (slot :: slots) action =
      (if slot.action = action then 1 else 0) + countAction slots action := by
  unfold countAction
  by_cases h : slot.action = action
  · rw [List.filter_cons_of_pos (by simpa using h), List.length_cons, if_pos h, Nat.add_comm]
  · rw [List.filter_cons_of_neg (by simpa using h), if_neg h, Nat.zero_add]

/-- One report more adds its cost to what was executed, if it was. -/
theorem executedCost_cons (report : OperationReport) (reports : List OperationReport) :
    ((executedOf (report :: reports)).map RuntimeOperation.costMs).sum =
      (if report.result.executed then report.result.operation.costMs else 0) +
        ((executedOf reports).map RuntimeOperation.costMs).sum := by
  unfold executedOf
  rw [List.filterMap_cons]
  unfold OperationReport.executedOperation
  cases report.result.executed <;> simp

/-- One report more adds its cost to what was saved, if it was not executed. -/
theorem savedCost_cons {report : OperationReport} (hconsistent : report.Consistent)
    (hpriced : report.Priced) (reports : List OperationReport) :
    ((decisionsOf (report :: reports)).map RuntimeDecision.estimatedSavedMs).sum =
      (if report.result.executed then 0 else report.result.operation.costMs) +
        ((decisionsOf reports).map RuntimeDecision.estimatedSavedMs).sum := by
  unfold decisionsOf
  rw [List.filterMap_cons, hconsistent.executed]
  cases hdecision : report.result.decision with
  | none => simp
  | some decision => simp [(hpriced.saved decision hdecision).1]

/-- One report more keeps the plan in balance with the books: its cost goes to the same side
of both. -/
theorem balanced_cons {report : OperationReport} {reports : List OperationReport}
    (hconsistent : report.Consistent) (hpriced : report.Priced) (h : Balanced reports) :
    Balanced (report :: reports) := by
  have hslot := contribution_of_action report.result.operation report.executionGate
  dsimp only at hslot
  rw [← hconsistent.admission] at hslot
  have hslots : slotsOf (report :: reports) = report.admissionDecision :: slotsOf reports := rfl
  have hcost := hpriced.cost
  refine ⟨?_, ?_, ?_, fun contribution => ?_⟩
  · rw [hslots, sumCost_cons, sumCost_cons, sumCost_cons, executedCost_cons, ← h.executed,
      hslot.1]
    have havoided := hconsistent.avoided
    generalize report.admissionDecision.contribution = contribution at havoided ⊢
    generalize report.result.executed = executed at havoided ⊢
    cases executed <;> cases contribution <;> simp at havoided ⊢ <;> ring
  · rw [hslots, sumCost_cons, sumCost_cons, savedCost_cons hconsistent hpriced, ← h.avoided,
      hslot.1]
    have havoided := hconsistent.avoided
    generalize report.admissionDecision.contribution = contribution at havoided ⊢
    generalize report.result.executed = executed at havoided ⊢
    cases executed <;> cases contribution <;> simp at havoided ⊢ <;> ring
  · have hdecided : (decisionsOf (report :: reports)).length =
        (if report.result.executed then 0 else 1) + (decisionsOf reports).length := by
      unfold decisionsOf
      rw [List.filterMap_cons, hconsistent.executed]
      cases report.result.decision <;> simp [Nat.add_comm]
    rw [hslots, countAction_cons, countAction_cons, hdecided, ← h.eliminated]
    obtain ⟨-, -, -, -, hrejected, hreused, -⟩ := hslot
    simp only [hrejected, hreused]
    have havoided := hconsistent.avoided
    generalize report.admissionDecision.contribution = contribution at havoided ⊢
    generalize report.result.executed = executed at havoided ⊢
    cases executed <;> cases contribution <;> simp at havoided ⊢ <;> omega
  · rw [hslots, sumCost_cons, hslot.1]
    have hrest := h.nonneg contribution
    split
    · exact add_nonneg hcost hrest
    · exact (zero_add (sumCost (slotsOf reports) contribution)).symm ▸ hrest

/-- The plan of consistent and priced reports is in balance, by induction on them. -/
theorem balanced {reports : List OperationReport}
    (h : ∀ report ∈ reports, report.Consistent ∧ report.Priced) : Balanced reports := by
  induction reports with
  | nil => exact ⟨(add_zero _).trans (add_zero _), add_zero _, rfl, fun _ => le_refl 0⟩
  | cons report reports ih =>
      obtain ⟨hconsistent, hpriced⟩ := h report List.mem_cons_self
      exact balanced_cons hconsistent hpriced
        (ih fun other hother => h other (List.mem_cons_of_mem report hother))

/-- Every slot has one of the five actions. -/
theorem countAction_total (slots : List AdmissionDecision) :
    countAction slots .admitNow + countAction slots .admitPrefetch +
      countAction slots .rejectRedundant + countAction slots .reuseExisting +
      countAction slots .holdNextFrame = slots.length := by
  induction slots with
  | nil => rfl
  | cons slot slots ih =>
      simp only [countAction_cons, List.length_cons, ← ih]
      cases slot.action <;> simp <;> omega

/-- A score lies between 0 and 100. -/
theorem score_range {relief managed : ℚ} (hrelief : 0 ≤ relief) (h : relief ≤ managed) :
    0 ≤ score relief managed ∧ score relief managed ≤ 100 := by
  unfold score
  split
  · exact ⟨le_refl 0, by norm_num⟩
  · next hpos =>
      have hmanaged : 0 < managed := not_le.mp hpos
      have hratio : relief / managed ≤ 1 := (div_le_one hmanaged).mpr h
      have hnonneg : 0 ≤ relief / managed := div_nonneg hrelief hmanaged.le
      constructor <;> linarith

/-- What a plan says of the controller's books. -/
structure PlanBalanced (plan : AdmissionPlan) (s : RuntimeAdapterSession) : Prop where
  count : plan.operationCount = s.results.length
  counts : plan.immediateCount + plan.prefetchCount + plan.deferredCount + plan.reusedCount +
    plan.heldCount = plan.operationCount
  eliminated : plan.deferredCount + plan.reusedCount = s.controller.decisions.length
  executed : plan.estimatedHotPathCostMs + plan.estimatedPrestagedCostMs +
    plan.estimatedHeldCostMs =
      (s.controller.executedOperations.map RuntimeOperation.costMs).sum
  avoided : plan.estimatedAvoidedCostMs =
    (s.controller.decisions.map RuntimeDecision.estimatedSavedMs).sum
  score : 0 ≤ (buildEfficiencyLedger plan).efficiencyScore ∧
    (buildEfficiencyLedger plan).efficiencyScore ≤ 100

/-- **The admission plan balances.** After every stream of events, whatever
raises, the five counts of the plan add up to the reports, those of eliminated
work to the controller's decisions; its costs on, before and held out of the hot
path add up to the costs of the operations that the controller executed, and its
avoided costs to what the decisions saved. -/
theorem plan_balanced (casing : Casing) (builtins : Builtins)
    (events : List (Json × Option Nat)) :
    PlanBalanced (buildAdmissionPlan (RuntimeAdapterSession.run casing builtins events).results)
      (RuntimeAdapterSession.run casing builtins events) := by
  have hjournal := run_journaled casing builtins events
  have hpriced := run_priced casing builtins events
  generalize RuntimeAdapterSession.run casing builtins events = s at hjournal hpriced ⊢
  have hbalanced := balanced fun report hreport =>
    ⟨hjournal.consistent report hreport, hpriced report hreport⟩
  have hslots := slots_eq hjournal.consistent
  change (s.results.map fun report =>
    buildAdmissionDecision report.result.operation report.executionGate) = _ at hslots
  unfold buildAdmissionPlan
  rw [hslots]
  refine ⟨List.length_map _, countAction_total _, ?_, ?_, ?_, ?_⟩
  · rw [hjournal.decided]
    exact hbalanced.eliminated
  · rw [hjournal.executed]
    exact hbalanced.executed
  · rw [hjournal.decided]
    exact hbalanced.avoided
  · have hnonneg := hbalanced.nonneg
    apply score_range
    · exact add_nonneg (add_nonneg (hnonneg _) (add_nonneg (hnonneg _) (hnonneg _))) (hnonneg _)
    · exact le_add_of_nonneg_left (hnonneg _)

/-! ## Every frame once -/

/-- The entry has the numbers of the session's own statistics of the frame. -/
structure FrameEfficiency.Agrees (entry : FrameEfficiency) (stats : AdapterFrameStats) : Prop where
  operations : entry.operationCount = stats.operationCount
  executed : entry.hotPathCostMs + entry.shiftedCostMs + entry.heldCostMs =
    stats.estimatedTotalCostMs
  avoided : entry.avoidedCostMs = stats.estimatedSavedMs
  score : 0 ≤ entry.efficiencyScore ∧ entry.efficiencyScore ≤ 100

/-- The slots of a frame are those of its reports. -/
theorem slotsOf_reportsOf {s : RuntimeAdapterSession}
    (h : ∀ report ∈ s.results, report.Consistent) (frame : ℤ) :
    (slotsOf s.results).filter (fun slot => slot.frame = some frame) =
      slotsOf (reportsOf s frame) := by
  unfold slotsOf reportsOf
  rw [List.filter_map]
  refine congrArg (List.map _) (List.filter_congr fun report hreport => ?_)
  have hslot := contribution_of_action report.result.operation report.executionGate
  rw [← (h report hreport).admission] at hslot
  exact decide_eq_decide.mpr (iff_of_eq (congrArg (· = some frame) hslot.2.1))

/-- What is avoided or reused costs what is avoided and what is reused. -/
theorem avoided_eq (slots : List AdmissionDecision) :
    ((slots.filter fun slot => slot.contribution = .avoided ∨ slot.contribution = .reused).map
      AdmissionDecision.costMs).sum = sumCost slots .avoided + sumCost slots .reused := by
  rw [sum_filter, sumCost_eq, sumCost_eq, ← List.sum_map_add]
  refine congrArg List.sum (List.map_congr_left fun slot _ => ?_)
  cases slot.contribution <;> simp

/-- The ledger's entry for a frame agrees with what the session has counted for it: both are
totals over the reports of the frame. -/
theorem frameEfficiency_agrees {s : RuntimeAdapterSession} (hjournal : Journaled s)
    (haccounted : Accounted s) (hpriced : ∀ report ∈ s.results, report.Priced) (frame : ℤ) :
    (frameEfficiency frame (slotsOf (reportsOf s frame))).Agrees (s.statsOf frame) := by
  have hreports : ∀ report ∈ reportsOf s frame, report.Consistent ∧ report.Priced := by
    intro report hreport
    have hmem := (List.mem_filter.mp hreport).1
    exact ⟨hjournal.consistent report hmem, hpriced report hmem⟩
  obtain ⟨hexecuted, havoided, -, hnonneg⟩ := balanced hreports
  obtain ⟨hcount, htotals⟩ := haccounted frame
  unfold frameEfficiency
  dsimp only
  rw [avoided_eq]
  refine ⟨?_, ?_, ?_, ?_⟩
  · exact (List.length_map _).trans hcount.symm
  · exact hexecuted.trans htotals.cost.symm
  · exact havoided.trans htotals.savedMs.symm
  · apply score_range
    · exact add_nonneg (add_nonneg (hnonneg _) (add_nonneg (hnonneg _) (hnonneg _))) (hnonneg _)
    · exact le_add_of_nonneg_left (hnonneg _)

/-- **The efficiency ledger agrees with the session.** After every stream of
events, whatever raises, the ledger lists exactly the frames that have reports,
once each and in their order, and each with the numbers that the session itself
kept for that frame. -/
theorem ledger_agrees (casing : Casing) (builtins : Builtins)
    (events : List (Json × Option Nat)) :
    let s := RuntimeAdapterSession.run casing builtins events
    let ledger := buildEfficiencyLedger (buildAdmissionPlan s.results)
    (ledger.frames.map FrameEfficiency.frame).Pairwise (· < ·) ∧
      (∀ frame, frame ∈ ledger.frames.map FrameEfficiency.frame ↔ reportsOf s frame ≠ []) ∧
      ∀ entry ∈ ledger.frames, entry.Agrees (s.statsOf entry.frame) := by
  intro s ledger
  have hjournal : Journaled s := run_journaled casing builtins events
  have haccounted : Accounted s := run_accounted casing builtins events
  have hpriced : ∀ report ∈ s.results, report.Priced := run_priced casing builtins events
  let groups := groupBy AdmissionDecision.frame (slotsOf s.results)
  have hframes : ledger.frames =
      (sortBy Prod.fst groups.items).map fun item => frameEfficiency item.1 item.2 :=
    congrArg buildFrameEfficiency (slots_eq hjournal.consistent)
  have hgroup : ∀ item ∈ groups.items, item.2 = slotsOf (reportsOf s item.1) := by
    intro item hitem
    have hget := get_groupBy AdmissionDecision.frame (slotsOf s.results) item.1
    rw [OrderedDict.get_iff.mpr hitem, slotsOf_reportsOf hjournal.consistent] at hget
    exact hget
  have hkeys : ledger.frames.map FrameEfficiency.frame =
      (sortBy Prod.fst groups.items).map Prod.fst := by
    rw [hframes, List.map_map]
    rfl
  have hperm := sortBy_perm Prod.fst groups.items
  refine ⟨?_, fun frame => ?_, fun entry hentry => ?_⟩
  · rw [hkeys]
    have hordered := List.pairwise_map.mpr (sortBy_ordered Prod.fst groups.items)
    have hdistinct : ((sortBy Prod.fst groups.items).map Prod.fst).Nodup :=
      (hperm.map Prod.fst).nodup_iff.mpr groups.nodup
    exact (hordered.and hdistinct).imp fun h => lt_of_le_of_ne h.1 h.2
  · rw [hkeys, (hperm.map Prod.fst).mem_iff]
    change frame ∈ groups.keys ↔ _
    rw [OrderedDict.mem_keys, contains_groupBy]
    constructor
    · intro h
      obtain ⟨slot, hslot, hframe⟩ := h
      have hmem : slot ∈ slotsOf (reportsOf s frame) := by
        rw [← slotsOf_reportsOf hjournal.consistent]
        exact List.mem_filter.mpr ⟨hslot, by simpa using hframe⟩
      intro hempty
      rw [hempty] at hmem
      cases hmem
    · intro h
      obtain ⟨report, hreport⟩ := List.exists_mem_of_ne_nil _ h
      have hmem : report.admissionDecision ∈ slotsOf (reportsOf s frame) :=
        List.mem_map_of_mem hreport
      rw [← slotsOf_reportsOf hjournal.consistent] at hmem
      obtain ⟨hslot, hframe⟩ := List.mem_filter.mp hmem
      exact ⟨_, hslot, by simpa using hframe⟩
  · rw [hframes] at hentry
    obtain ⟨item, hitem, rfl⟩ := List.mem_map.mp hentry
    rw [hgroup item (hperm.mem_iff.mp hitem)]
    exact frameEfficiency_agrees hjournal haccounted hpriced item.1

end FluidGateway.Adapter
