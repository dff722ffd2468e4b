import FluidGateway.BackedRuns

/-!
# Integers of the wire in the reference

The reference keeps costs and sizes as doubles and compares sizes as doubles.
As long as no copy, upload or allocation is larger than 2^53 bytes, what it
saves is sent back to the byte and no two transfers of different sizes are
taken for one another (`Sized`); the next size is already sent back as 2^53.
-/

namespace FluidGateway

namespace Runtime

variable {casing : Casing}

/-- Everything that submitting an operation to the controller can do. -/
inductive Disposal (casing : Casing) (c : FluidGatewayController)
    (operation : RuntimeOperation) :
    Except String ControllerResult × FluidGatewayController → Prop
  | refused (message : String) : Disposal casing c operation (.error message, c)
  | eliminated {decision : RuntimeDecision} (fresh : operation.id ∉ c.optimization.operationIds)
      (choice : decideOperation casing c.optimization operation = some decision) :
      Disposal casing c operation
        (.ok { operation := c.optimization.rewritten operation, decision := some decision,
               executed := false },
          { c with
            optimization := (c.optimization.submitted operation).eliminate
              (c.optimization.rewritten operation) decision (c.optimization.dependencies operation)
            decisions := c.decisions ++ [decision] })
  | executed (fresh : operation.id ∉ c.optimization.operationIds)
      (choice : decideOperation casing c.optimization operation = none) :
      Disposal casing c operation
        (.ok { operation := c.optimization.rewritten operation, decision := none,
               executed := true },
          { c with
            optimization := (c.optimization.submitted operation).execute
              (c.optimization.rewritten operation)
            executedOperations := c.executedOperations ++ [c.optimization.rewritten operation] })

theorem submitOperation_spec (c : FluidGatewayController) (operation : RuntimeOperation) :
    Disposal casing c operation (c.submitOperation casing operation) := by
  unfold FluidGatewayController.submitOperation
  by_cases hknown : operation.id ∈ c.optimization.operationIds
  · rw [RuntimeOptimizationState.process_duplicate casing hknown]
    exact .refused _
  cases hchoice : decideOperation casing c.optimization operation with
  | some decision =>
      rw [RuntimeOptimizationState.process_eliminated casing hknown hchoice]
      exact .eliminated hknown hchoice
  | none =>
      rw [RuntimeOptimizationState.process_executed casing hknown hchoice]
      exact .executed hknown hchoice

/-- What is remembered for a target after an executed operation. -/
theorem execute_lookup {s : RuntimeOptimizationState} {operation r : RuntimeOperation}
    {target : String} (h : (s.execute operation).lastCopyByTarget.lookup target = some r) :
    operation.type.transfers = true ∧ r = operation ∨
      s.lastCopyByTarget.lookup target = some r := by
  have hcopy : (s.execute operation).ledger.copy target = some r := h
  rw [RuntimeOptimizationState.ledger_execute, Provenance.Ledger.step_copy_iff] at hcopy
  rcases hcopy with ⟨hnew, -⟩ | ⟨hold, -⟩
  · unfold RuntimeOptimizationState.effect at hnew
    split_ifs at hnew with htransfers
    rw [Provenance.Act.transfer.injEq] at hnew
    exact .inl ⟨htransfers, hnew.2.symm⟩
  · exact .inr hold

theorem release_lookup {s : RuntimeOptimizationState} {id target : String} {r : RuntimeOperation}
    (h : (s.releaseResource id).2.lastCopyByTarget.lookup target = some r) :
    s.lastCopyByTarget.lookup target = some r := by
  have hcopy : (s.invalidateResource (some id)).ledger.copy target = some r := h
  rw [RuntimeOptimizationState.ledger_invalidate, Provenance.Ledger.retire_copy_iff] at hcopy
  exact hcopy.1

theorem execute_operationIds (s : RuntimeOptimizationState) (operation : RuntimeOperation) :
    (s.execute operation).operationIds = s.operationIds :=
  congrArg RuntimeOptimizationState.Names.operationIds (s.execute_names operation)

theorem release_operationIds (s : RuntimeOptimizationState) (id : String) :
    (s.releaseResource id).2.operationIds = s.operationIds :=
  congrArg RuntimeOptimizationState.Names.operationIds (s.invalidateResource_names (some id))

end Runtime

namespace FluidLink

open FluidGateway.Adapter (RuntimeAdapterSession Builtins)
open FluidGateway.Runtime (Casing FluidGatewayController RuntimeOperation RuntimeDecision)
open Native (Bytes)

/-! ## The log of accepted operations -/

/-- The operation may be eliminated for the bytes that it moves or takes. -/
def WireOperation.moves (o : WireOperation) : Prop :=
  o.type = .copy ∨ o.type = .upload ∨ o.type = .allocate

/-- What is moved or taken is at most `limit` bytes. -/
def WireOperation.Within (limit : ℕ) (o : WireOperation) : Prop :=
  o.moves → o.sizeBytes ≤ limit

/-- Every id was accepted with one size only, and every transfer that is
remembered was accepted with the size that is remembered of it. -/
structure Sized (limit : ℕ) (log : List (String × WireOperation)) (c : FluidGatewayController) :
    Prop where
  ids : ∀ {id o}, (id, o) ∈ log → id ∈ c.optimization.operationIds
  unique : ∀ {id o o'}, (id, o) ∈ log → (id, o') ∈ log → o = o'
  copies : ∀ {target r}, c.optimization.lastCopyByTarget.lookup target = some r →
    ∃ o : WireOperation, (r.id, o) ∈ log ∧ o.sizeBytes ≤ limit ∧
      r.sizeMb = trueDivide o.sizeBytes mebibyte

variable {casing : Casing} {limit : ℕ} {log : List (String × WireOperation)}
  {c : FluidGatewayController}

theorem Sized.start : Sized limit [] {} := by
  constructor
  · intro id o h
    cases h
  · intro id o o' h
    cases h
  · intro target r h
    cases h

theorem Sized.rearranged {c' : FluidGatewayController} (h : Sized limit log c)
    (hc : RuntimeAdapterSession.Rearranged c c') : Sized limit log c' := by
  cases hc with
  | same => exact h
  | registered resource =>
      have hkept : (c.registerResource resource).2.optimization.operationIds =
            c.optimization.operationIds ∧
          (c.registerResource resource).2.optimization.lastCopyByTarget =
            c.optimization.lastCopyByTarget := by
        unfold FluidGatewayController.registerResource
          Runtime.RuntimeOptimizationState.register
        by_cases hknown : c.optimization.resources.contains resource.id = true
        · rw [if_pos hknown]
          exact ⟨rfl, rfl⟩
        · rw [if_neg hknown]
          exact ⟨rfl, rfl⟩
      refine ⟨?_, h.unique, ?_⟩
      · intro id o hmem
        rw [hkept.1]
        exact h.ids hmem
      · intro target r hlookup
        rw [hkept.2] at hlookup
        exact h.copies hlookup
  | released id =>
      refine ⟨?_, h.unique, fun hlookup => h.copies (Runtime.release_lookup hlookup)⟩
      intro id' o hmem
      have hids := Runtime.release_operationIds c.optimization id
      exact hids ▸ h.ids hmem

/-- A new id is logged beside the others. -/
theorem Sized.logged {o : WireOperation} {id : String} {c' : FluidGatewayController}
    (h : Sized limit log c) (hfresh : id ∉ c.optimization.operationIds)
    (hids : c'.optimization.operationIds = insert id c.optimization.operationIds)
    (hcopies : ∀ {target r}, c'.optimization.lastCopyByTarget.lookup target = some r →
      c.optimization.lastCopyByTarget.lookup target = some r ∨
        r.id = id ∧ o.sizeBytes ≤ limit ∧ r.sizeMb = trueDivide o.sizeBytes mebibyte) :
    Sized limit (log ++ [(id, o)]) c' := by
  have hsplit : ∀ {k : String} {p : WireOperation}, (k, p) ∈ log ++ [(id, o)] →
      (k, p) ∈ log ∨ k = id ∧ p = o := by
    intro k p hmem
    simpa using hmem
  refine ⟨?_, ?_, ?_⟩
  · intro k p hmem
    rw [hids]
    rcases hsplit hmem with hold | ⟨rfl, -⟩
    · exact Finset.mem_insert_of_mem (h.ids hold)
    · exact Finset.mem_insert_self _ _
  · intro k p p' hp hp'
    rcases hsplit hp with hold | ⟨rfl, rfl⟩
    · rcases hsplit hp' with hold' | ⟨rfl, -⟩
      · exact h.unique hold hold'
      · exact absurd (h.ids hold) hfresh
    · rcases hsplit hp' with hold' | ⟨-, rfl⟩
      · exact absurd (h.ids hold') hfresh
      · rfl
  · intro target r hlookup
    rcases hcopies hlookup with hold | ⟨rfl, hsize, hmb⟩
    · obtain ⟨p, hp, hsize, hmb⟩ := h.copies hold
      exact ⟨p, List.mem_append_left _ hp, hsize, hmb⟩
    · exact ⟨o, List.mem_append_right _ List.mem_cons_self, hsize, hmb⟩

/-- An id need not be logged when its operation was eliminated. -/
theorem Sized.forget {c' : FluidGatewayController} (h : Sized limit log c)
    (hids : c.optimization.operationIds ⊆ c'.optimization.operationIds)
    (hcopies : c'.optimization.lastCopyByTarget = c.optimization.lastCopyByTarget) :
    Sized limit log c' := by
  refine ⟨fun hmem => hids (h.ids hmem), h.unique, ?_⟩
  intro target r hlookup
  rw [hcopies] at hlookup
  exact h.copies hlookup

/-- **An operation keeps the sizes apart**, whether its decision is sent or
not. -/
theorem Sized.submitted {o : WireOperation} {id : String} {frame : Option ℤ}
    {result : Runtime.ControllerResult} {c' : FluidGatewayController} (h : Sized limit log c)
    (hsize : o.Within limit)
    (hc : c.submitOperation casing (o.operation id frame) = (.ok result, c')) :
    Sized limit (log ++ [(strip id, o)]) c' ∧
      (result.executed = false → Sized limit log c') := by
  have hspec : Runtime.Disposal casing c (o.operation id frame)
      (c.submitOperation casing (o.operation id frame)) := Runtime.submitOperation_spec c _
  rw [hc] at hspec
  cases hspec with
  | @eliminated decision fresh choice =>
      refine ⟨h.logged fresh rfl fun hlookup => .inl hlookup, fun _ => ?_⟩
      exact h.forget (Finset.subset_insert _ _) rfl
  | executed fresh choice =>
      refine ⟨h.logged fresh ?_ ?_, fun hexecuted => by cases hexecuted⟩
      · exact Runtime.execute_operationIds _ _
      · intro target r hlookup
        rcases Runtime.execute_lookup hlookup with ⟨htransfers, rfl⟩ | hold
        · have hmoves : o.moves := by
            have htype : o.type.transfers = true := htransfers
            unfold WireOperation.moves
            revert htype
            cases o.type <;> simp [Runtime.OperationType.transfers]
          exact .inr ⟨rfl, hsize hmoves, rfl⟩
        · exact .inl hold

/-! ## One request -/

section

variable {builtins : Builtins} (hbuiltins : builtins.Faithful) (conversionText : String)

/-- The link is closed for good, or sizes are kept apart. -/
def Apart (limit : ℕ) (log : List (String × WireOperation))
    (s : FluidLinkV2ServerSession × RuntimeAdapterSession) : Prop :=
  s.1.closed = true ∨ Sized limit log s.2.controller

/-- What a request submits is within the limit. -/
def RequestWithin (limit : ℕ) (request : Bytes × FluidLinkV2Frame) : Prop :=
  ∀ item ∈ submissions request.2, item.2.Within limit

include hbuiltins

/-- An event that is no operation rearranges the resources at most. -/
theorem handler_quiet {type : Adapter.EventType} (htype : type ≠ .operation) {wire : WireEvent}
    (s : RuntimeAdapterSession) :
    RuntimeAdapterSession.Rearranged s.controller
      (RuntimeAdapterSession.handler casing builtins conversionText
        (wire.fields ++ [("event", .text (eventName type))]) s).2.controller := by
  have hquiet : RuntimeAdapterSession.Quiet { s with eventsProcessed := s.eventsProcessed + 1 }
      (RuntimeAdapterSession.dispatch casing builtins
        { s with eventsProcessed := s.eventsProcessed + 1 } type
        (wire.fields ++ [("event", .text (eventName type))]) none) :=
    RuntimeAdapterSession.dispatch_quiet htype
  unfold RuntimeAdapterSession.handler RuntimeAdapterSession.processEvent
  dsimp only
  rw [eventType_eq casing hbuiltins (get_event wire (eventName type))]
  dsimp only
  generalize RuntimeAdapterSession.dispatch casing builtins _ type _ none = out at hquiet ⊢
  obtain ⟨answer, t⟩ := out
  cases answer <;> exact hquiet.controller

end

/-- A decision that is written is sent. -/
theorem runtimeDecision_ok {s : FluidLinkV2ServerSession} {request : FluidLinkV2Frame}
    {type : Adapter.EventType} {response : Adapter.Payload} {opcode : ℕ}
    {compact : CompactResponse} {payload : Bytes}
    (hcompact : compactRuntimeResponse type response = .ok (opcode, compact))
    (hencode : encodeRuntimeDecisionPayload compact = .ok payload) :
    s.runtimeDecision request type (.ok response) =
      .ok (fluidlinkV2Response request 11 s.sessionId payload request.subjectOpcode opcode) := by
  have hdecided : ∀ {k : ℕ × CompactResponse → Except PyException (ℕ × Bytes)}
      {r : Except PyException (ℕ × Bytes)}, k (opcode, compact) = r →
      (Except.ok response).bind (fun response => (compactRuntimeResponse type response).bind k) =
        r := by
    intro k r hk
    change (compactRuntimeResponse type response).bind k = r
    rw [hcompact]
    exact hk
  unfold FluidLinkV2ServerSession.runtimeDecision
  dsimp only [bind]
  rw [hdecided (r := .ok (opcode, payload)) (by dsimp only; rw [hencode]; rfl)]

/-- The decision about an executed operation is always sent. -/
theorem runtimeDecision_executed {s : FluidLinkV2ServerSession} {request : FluidLinkV2Frame}
    {answer : Adapter.Answer} {operation : RuntimeOperation}
    (h : answer.result = some { operation, decision := none, executed := true }) :
    ¬ Undecided (s.runtimeDecision request .operation (.ok answer.dict)) := by
  have hmaximum : maximumU64 < 10 ^ decimalDigits := by decide
  have hencode : encodeRuntimeDecisionPayload { accepted := true, executed := some true } = _ :=
    encodeRuntimeDecisionPayload_eq (scaledDecimal_zero 1000 maximumU64 "milliseconds" hmaximum)
      (scaledDecimal_zero mebibyte maximumU64 "saved_mb" hmaximum) (Nat.zero_le _) (Nat.zero_le _)
  intro hundecided
  exact hundecided _ (runtimeDecision_ok (compact_executed h) hencode) rfl

theorem decoded_fields {type : Adapter.EventType} {payload : Bytes} {fields : Adapter.Payload}
    (h : decodeRuntimeEventPayload type payload = .ok fields) :
    ∃ wire : WireEvent, fields = wire.fields ++ [("event", .text (eventName type))] := by
  unfold decodeRuntimeEventPayload at h
  cases hrun : (readEvent type).run payload with
  | error e =>
      rw [hrun] at h
      cases h
  | ok wire =>
      rw [hrun] at h
      cases h
      exact ⟨wire, rfl⟩

theorem eventOfOpcode_spec {opcode : ℕ} {type : Adapter.EventType}
    (h : eventOfOpcode opcode = some type) :
    opcode ≠ 105 ∧ (type = .operation ↔ opcode = 103) := by
  unfold eventOfOpcode at h
  split at h <;> cases h <;> simp

section

variable {builtins : Builtins} (hbuiltins : builtins.Faithful) (conversionText : String)
  {s : FluidLinkV2ServerSession × RuntimeAdapterSession}

include hbuiltins

/-- A single operation keeps the sizes apart. -/
theorem Sized.operation {t : FluidLinkV2ServerSession} {runtime : RuntimeAdapterSession}
    {request : FluidLinkV2Frame} {payload : Adapter.Payload} {id : String} {o : WireOperation}
    (h : Sized limit log runtime.controller) (hholds : Holds payload id o)
    (hid : strip id ≠ "") (hread : o.Read) (hsize : o.Within limit)
    (hsubmissions : submissions request = [(strip id, o)]) :
    Sized limit
      (log ++ accepted request (t.runtimeDecision request .operation
        (RuntimeAdapterSession.handler casing builtins conversionText payload runtime).1))
      (RuntimeAdapterSession.handler casing builtins conversionText payload runtime).2.controller := by
  have hanswer := handler_operation casing hbuiltins conversionText hholds hid hread.typed runtime
  generalize RuntimeAdapterSession.handler casing builtins conversionText payload runtime = out
    at hanswer ⊢
  cases hanswer with
  | @refused message after _ controller =>
      have hundecided : Undecided (t.runtimeDecision request .operation (.error (.other message))) :=
        t.error_undecided request .runtimeEventRejected message
      rw [accepted_of_undecided hundecided, List.append_nil, controller]
      exact h
  | @accepted answer result c after accepts hresult controller =>
      obtain ⟨hlogged, hforgotten⟩ := h.submitted hsize accepts
      rw [controller]
      by_cases hundecided : Undecided (t.runtimeDecision request .operation (.ok answer.dict))
      · rw [accepted_of_undecided hundecided, List.append_nil]
        -- a decision that is not sent is one about an eliminated operation
        apply hforgotten
        have hspec : Runtime.Disposal casing runtime.controller
            (o.operation id runtime.currentFrame)
            (runtime.controller.submitOperation casing (o.operation id runtime.currentFrame)) :=
          Runtime.submitOperation_spec _ _
        rw [accepts] at hspec
        cases hspec with
        | eliminated => rfl
        | executed => exact absurd hundecided (runtimeDecision_executed hresult)
      · have hsent : accepted request (t.runtimeDecision request .operation (.ok answer.dict)) =
            [(strip id, o)] := by
          unfold Undecided at hundecided
          push Not at hundecided
          obtain ⟨frame, hframe, hopcode⟩ := hundecided
          unfold accepted
          rw [hframe]
          exact (if_pos hopcode).trans hsubmissions
        rw [hsent]
        exact hlogged

/-- The items of a batch that is answered keep the sizes apart. -/
theorem Sized.batch {batch : WireBatch} (hread : batch.operation.Read)
    (hsize : batch.operation.Within limit) {remaining ordinal : ℕ}
    {decisions answered : List (ℕ × CompactResponse)} {runtime after : RuntimeAdapterSession}
    (h : Sized limit log runtime.controller)
    (hdecided : batchDecisions (RuntimeAdapterSession.handler casing builtins conversionText) batch
      remaining ordinal decisions runtime = (.ok answered, after)) :
    Sized limit
      (log ++ (List.range' ordinal remaining).map fun k =>
        (strip (batch.itemId k), batch.operation)) after.controller := by
  induction remaining generalizing log ordinal decisions runtime with
  | zero =>
      cases hdecided
      simpa using h
  | succ remaining ih =>
      have hanswer := handler_operation casing hbuiltins conversionText (holds_item batch ordinal)
        (itemId_visible batch ordinal) hread.typed runtime
      unfold batchDecisions at hdecided
      generalize RuntimeAdapterSession.handler casing builtins conversionText (batch.event ordinal)
        runtime = out at hanswer hdecided
      cases hanswer with
      | refused => cases hdecided
      | @accepted answer result c next accepts _ controller =>
          dsimp only at hdecided
          split at hdecided
          · cases hdecided
          · have hnext := (h.submitted hsize accepts).1
            rw [← controller] at hnext
            have hrest := ih hnext hdecided
            rw [List.append_assoc] at hrest
            exact hrest

/-- **A request keeps the sizes apart.** -/
theorem Apart.step {request : Bytes × FluidLinkV2Frame} (hwithin : RequestWithin limit request)
    (h : Apart limit log s) :
    Apart limit (log ++ accepted request.2 (serve casing builtins conversionText s request).1)
      (serve casing builtins conversionText s request).2 := by
  have hhandled : FluidLinkV2ServerSession.Handled
      (RuntimeAdapterSession.handler casing builtins conversionText) s.1 request.2 s.2
      (serve casing builtins conversionText s request) :=
    FluidLinkV2ServerSession.process_handled request.1
  generalize serve casing builtins conversionText s request = out at hhandled ⊢
  have hsized : s.1.closed = false → Sized limit log s.2.controller := by
    intro hopened
    rcases h with hclosed | hsized
    · rw [hopened] at hclosed
      cases hclosed
    · exact hsized
  cases hhandled with
  | aside undecided closed =>
      rw [accepted_of_undecided undecided, List.append_nil]
      exact h.imp closed id
  | @event type payload t opened subject decoded =>
      obtain ⟨hbatch, hoperation⟩ := eventOfOpcode_spec subject
      right
      by_cases htype : type = .operation
      · subst htype
        obtain ⟨id, o, hof, hid, hread, hholds⟩ := operationOf_decoded decoded
        have hsubmissions : submissions request.2 = [(strip id, o)] := by
          unfold submissions
          rw [if_pos (hoperation.mp rfl), hof]
          rfl
        have hsize : o.Within limit := hwithin (strip id, o) (by simp [hsubmissions])
        exact (hsized opened).operation hbuiltins conversionText hholds hid hread hsize
          hsubmissions
      · have hsubmissions : submissions request.2 = [] := by
          unfold submissions
          rw [if_neg (fun h => htype (hoperation.mpr h)), if_neg hbatch]
        have hnone : ∀ response, accepted request.2 response = [] := by
          intro response
          unfold accepted
          split
          · rw [hsubmissions, ite_self]
          · rfl
        obtain ⟨wire, rfl⟩ := decoded_fields decoded
        rw [hnone, List.append_nil]
        exact (hsized opened).rearranged (handler_quiet hbuiltins conversionText htype s.2)
  | @batch batch decisions payload after t opened subject decoded decided =>
      have hsubmissions : submissions request.2 =
          (List.range batch.operationCount).map fun ordinal =>
            (strip (batch.itemId ordinal), batch.operation) := by
        unfold submissions
        rw [if_neg (by omega), if_pos subject, decoded]
      obtain ⟨hread, hcount⟩ := decodedBatch_read decoded
      have hsize : batch.operation.Within limit := by
        refine hwithin (strip (batch.itemId 0), batch.operation) ?_
        rw [hsubmissions]
        exact List.mem_map_of_mem (List.mem_range.mpr hcount)
      right
      have hbatch := (hsized opened).batch hbuiltins conversionText hread hsize decided
      have hsent : accepted request.2
          (.ok (fluidlinkV2Response request.2 11 t.sessionId payload 105 7)) =
            submissions request.2 := rfl
      rw [hsent, hsubmissions, List.range_eq_range']
      exact hbatch
  | broken _ _ closed => exact .inl closed

end

/-! ## What is saved, and what is taken for the same -/

/-- When a request eliminates an operation that is no synchronization, the
decision is sent with the cost and the size of the wire; and a transfer that
is taken for an earlier one has its size. -/
def KeepsIntegers (casing : Casing) (builtins : Builtins) (conversionText : String)
    (log : List (String × WireOperation)) (s : FluidLinkV2ServerSession × RuntimeAdapterSession)
    (request : Bytes × FluidLinkV2Frame) : Prop :=
  let out := serve casing builtins conversionText s request
  ∀ id o decision, request.2.subjectOpcode = 103 → operationOf request.2.payload = some (id, o) →
    o.type ≠ .sync → out.2.2.controller.decisions = s.2.controller.decisions ++ [decision] →
      (∃ frame decoded, out.1 = .ok frame ∧ frame.opcode = 11 ∧
        frame.decisionOpcode = policyOpcode decision.policy ∧
        decodeRuntimeDecisionPayload frame.payload = .ok decoded ∧
        decoded.savedUs = o.costUs ∧ decoded.savedBytes = o.sizeBytes) ∧
      (decision.policy = .deduplicateIdenticalTransfer →
        ∃ previous, (Runtime.optionalText o.target).bind
            s.2.controller.optimization.lastCopyByTarget.lookup = some previous ∧
          (∃ earlier, (previous.id, earlier) ∈ log) ∧
          ∀ earlier, (previous.id, earlier) ∈ log → earlier.sizeBytes = o.sizeBytes)

/-- What is eliminated, and is no synchronization, moves or takes bytes. -/
theorem moves_of_decided {o : WireOperation} {id : String} {frame : Option ℤ}
    {state : Runtime.RuntimeOptimizationState} {decision : RuntimeDecision}
    (h : Runtime.Decided state (o.operation id frame) decision) (hsync : o.type ≠ .sync) :
    o.moves := by
  have htransfers : o.type.transfers = true → o.moves := by
    unfold WireOperation.moves
    cases o.type <;> simp [Runtime.OperationType.transfers]
  cases h with
  | selfCopy _ transfers => exact htransfers transfers
  | aliased _ transfers => exact htransfers transfers
  | repeated _ transfers => exact htransfers transfers
  | orphan _ sync => exact absurd sync hsync
  | empty _ sync => exact absurd sync hsync
  | reuse _ allocates => exact .inr (.inr allocates)

/-- The size of a transfer that is taken for an earlier one. -/
theorem Sized.repeated {o : WireOperation} {id : String} {frame : Option ℤ}
    {decision : RuntimeDecision} (h : Sized limit log c) (hlimit : limit ≤ 2 ^ 53)
    (hsize : o.sizeBytes ≤ limit)
    (hdecided : Runtime.Decided c.optimization (o.operation id frame) decision)
    (hpolicy : decision.policy = .deduplicateIdenticalTransfer) :
    ∃ previous, (Runtime.optionalText o.target).bind c.optimization.lastCopyByTarget.lookup =
        some previous ∧ (∃ earlier, (previous.id, earlier) ∈ log) ∧
      ∀ earlier, (previous.id, earlier) ∈ log → earlier.sizeBytes = o.sizeBytes := by
  cases hdecided with
  | @repeated a b ra rb previous _ _ _ target _ _ _ _ copy same =>
      obtain ⟨first, hfirst, hfirstSize, hmb⟩ := h.copies copy
      have htarget : Runtime.optionalText o.target = some b := target
      have hsame : previous.sizeMb = trueDivide o.sizeBytes mebibyte := by
        unfold Runtime.sameTransfer at same
        simp only [Bool.and_eq_true, beq_iff_eq] at same
        exact same.1.1.2
      have hbytes : first.sizeBytes = o.sizeBytes :=
        trueDivide_mebibyte_inj (hfirstSize.trans hlimit) (hsize.trans hlimit)
          (hmb.symm.trans hsame)
      refine ⟨previous, ?_, ⟨first, hfirst⟩, ?_⟩
      · rw [htarget]
        exact copy
      · intro earlier hearlier
        rw [h.unique hearlier hfirst]
        exact hbytes
  | selfCopy policy => cases policy.symm.trans hpolicy
  | aliased policy => cases policy.symm.trans hpolicy
  | orphan policy => cases policy.symm.trans hpolicy
  | empty policy => cases policy.symm.trans hpolicy
  | reuse policy => cases policy.symm.trans hpolicy

/-- The decision about an operation within the limit is sent as it was read. -/
theorem runtimeDecision_exact {t : FluidLinkV2ServerSession} {request : FluidLinkV2Frame}
    {answer : Adapter.Answer} {operation : RuntimeOperation} {decision : RuntimeDecision}
    {o : WireOperation} (hcost : o.costUs < 2 ^ 32) (hsize : o.sizeBytes ≤ 2 ^ 53)
    (hms : decision.estimatedSavedMs = trueDivide o.costUs 1000)
    (hmb : decision.estimatedSavedMb = trueDivide o.sizeBytes mebibyte)
    (h : answer.result = some { operation, decision := some decision, executed := false }) :
    ∃ frame decoded, t.runtimeDecision request .operation (.ok answer.dict) = .ok frame ∧
      frame.opcode = 11 ∧ frame.decisionOpcode = policyOpcode decision.policy ∧
      decodeRuntimeDecisionPayload frame.payload = .ok decoded ∧
      decoded.savedUs = o.costUs ∧ decoded.savedBytes = o.sizeBytes := by
  have hcost64 : o.costUs ≤ maximumU64 := by
    unfold maximumU64
    omega
  have hsize64 : o.sizeBytes ≤ maximumU64 := by
    unfold maximumU64
    omega
  have hcompact := compact_eliminated (hms ▸ trueDivide_nonneg _ _) (hmb ▸ trueDivide_nonneg _ _) h
  rw [hms, hmb] at hcompact
  have hencode : encodeRuntimeDecisionPayload
      { accepted := true, executed := some false
        savedMs := .finite (trueDivide o.costUs 1000)
        savedMb := .finite (trueDivide o.sizeBytes mebibyte) } = _ :=
    encodeRuntimeDecisionPayload_eq (scaledDecimal_cost "milliseconds" hcost hcost64 (by decide))
      (scaledDecimal_size "saved_mb" hsize) hcost64 hsize64
  exact ⟨_, _, runtimeDecision_ok hcompact hencode, rfl, rfl,
    decode_decisionBytes hcost64 hsize64, rfl, rfl⟩

/-- **Within 2^53 bytes a request keeps the integers of the wire.** -/
theorem Apart.keepsIntegers {builtins : Builtins} (hbuiltins : builtins.Faithful)
    (conversionText : String) {s : FluidLinkV2ServerSession × RuntimeAdapterSession}
    {request : Bytes × FluidLinkV2Frame} (hlimit : limit ≤ 2 ^ 53)
    (hwithin : RequestWithin limit request) (h : Apart limit log s) :
    KeepsIntegers casing builtins conversionText log s request := by
  have hhandled : FluidLinkV2ServerSession.Handled
      (RuntimeAdapterSession.handler casing builtins conversionText) s.1 request.2 s.2
      (serve casing builtins conversionText s request) :=
    FluidLinkV2ServerSession.process_handled request.1
  unfold KeepsIntegers
  dsimp only
  generalize serve casing builtins conversionText s request = out at hhandled ⊢
  intro id o decision hsubject hof hsync hdecisions
  cases hhandled with
  | aside undecided closed => exact absurd hdecisions (by simp)
  | batch opened subject => omega
  | broken subject => omega
  | @event type payload t opened subject decoded =>
      obtain ⟨-, hoperation⟩ := eventOfOpcode_spec subject
      obtain rfl := hoperation.mpr hsubject
      obtain ⟨id', o', hof', hid, hread, hholds⟩ := operationOf_decoded decoded
      cases hof.symm.trans hof'
      have hsized : Sized limit log s.2.controller :=
        h.resolve_left (by rw [opened]; exact Bool.false_ne_true)
      have hanswer := handler_operation casing hbuiltins conversionText hholds hid hread.typed s.2
      dsimp only at hdecisions ⊢
      generalize RuntimeAdapterSession.handler casing builtins conversionText payload s.2 = answered
        at hanswer hdecisions ⊢
      cases hanswer with
      | refused _ controller =>
          rw [controller] at hdecisions
          exact absurd hdecisions (by simp)
      | @accepted answer result c' after accepts hresult controller =>
          have hspec : Runtime.Disposal casing s.2.controller
              (o.operation id s.2.currentFrame)
              (s.2.controller.submitOperation casing (o.operation id s.2.currentFrame)) :=
            Runtime.submitOperation_spec _ _
          rw [accepts] at hspec
          rw [controller] at hdecisions
          cases hspec with
          | executed => exact absurd hdecisions (by simp)
          | @eliminated decided fresh choice =>
              obtain rfl : decided = decision := by simpa using hdecisions
              have hdecided := Runtime.decideOperation_spec casing choice
              have hmoves := moves_of_decided hdecided hsync
              have hwire : (strip id, o) ∈ submissions request.2 := by
                unfold submissions
                rw [if_pos hsubject, hof]
                exact List.mem_cons_self
              have hsize : o.sizeBytes ≤ limit := hwithin _ hwire hmoves
              obtain ⟨hms, hmb⟩ := (Runtime.decideOperation_saved choice).resolve_left hsync
              refine ⟨?_, hsized.repeated hlimit hsize hdecided⟩
              exact runtimeDecision_exact hread.cost (hsize.trans hlimit) hms hmb hresult

/-- Requests within the limit keep the sizes apart in every run. -/
theorem Apart.run {builtins : Builtins} (hbuiltins : builtins.Faithful) (conversionText : String)
    {serverName serverVersion : String} {requests : List (Bytes × FluidLinkV2Frame)}
    (hwithin : ∀ request ∈ requests, RequestWithin limit request) :
    Apart limit (acceptedBy casing builtins conversionText (fresh serverName serverVersion) requests)
      (Lockstep.final (serve casing builtins conversionText) (fresh serverName serverVersion)
        requests) := by
  have hstart : Apart limit [] (fresh serverName serverVersion) := .inr .start
  have hrun := run_invariant casing builtins conversionText (RequestWithin limit) (Apart limit)
    (fun log s request hgood hinv => hinv.step hbuiltins conversionText hgood)
    hwithin hstart
  rwa [List.nil_append] at hrun

end FluidLink

end FluidGateway
