import FluidGateway.ReferenceSession
import FluidGateway.RejectedEvents

/-!
# The session behind the reference server

The FluidLink v2 session of `fluidgateway/server.py`: events that the link has
decoded are handed to a `RuntimeAdapterSession`, whose responses it sends.  Of
a response only the fields that are sent are written down here.
-/

namespace FluidGateway.Adapter

open FluidGateway.Runtime (Casing ControllerResult FluidGatewayController Policy RuntimeDecision
  RuntimeOperation)
open FluidGateway.FluidLink (PyException EventHandler FluidLinkV2ServerSession FluidLinkV2Frame)
open Native (Bytes)

/-- The policy of a decision. -/
def policyName : Policy → String
  | .eliminateSelfCopy => "eliminate-self-copy"
  | .collapseAliasedResourceCopy => "collapse-aliased-resource-copy"
  | .deduplicateIdenticalTransfer => "deduplicate-identical-transfer"
  | .removeOrphanSync => "remove-orphan-sync"
  | .removeEmptySync => "remove-empty-sync"
  | .reuseTransientBuffer => "reuse-transient-buffer"

/-- `to_dict` of a decision. -/
def decisionDict (decision : RuntimeDecision) : Payload :=
  [("operation_id", .text decision.operationId), ("policy", .text (policyName decision.policy)),
    ("rationale", .text decision.rationale),
    ("estimated_saved_ms", .float (.finite decision.estimatedSavedMs)),
    ("estimated_saved_mb", .float (.finite decision.estimatedSavedMb))]

/-- `to_dict` of a result. -/
def resultDict (result : ControllerResult) : Payload :=
  [("decision", match result.decision with
      | some decision => .dict (decisionDict decision)
      | none => .null),
    ("executed", .bool result.executed)]

/-- The result that a response reports. -/
def Answer.result (answer : Answer) : Option ControllerResult :=
  match answer.response with
  | .operation report _ => some report.result
  | _ => none

/-- The response as it is returned. -/
def Answer.dict (answer : Answer) : Payload :=
  ("ok", .bool true) ::
    match answer.result with
    | some result => [("result", .dict (resultDict result))]
    | none => []

/-- An exception of the runtime; the text of a failed conversion is Python's. -/
def Raised.exception (conversionText : String) : Raised → PyException
  | .value message => .other message
  | .conversion => .other conversionText

namespace RuntimeAdapterSession

variable (casing : Casing) (builtins : Builtins) (conversionText : String)

/-- `process_adapter_event_payload`. -/
def handler : EventHandler RuntimeAdapterSession := fun payload s =>
  match s.processEvent casing builtins (.dict payload) none with
  | (.error e, s) => (.error (e.exception conversionText), s)
  | (.ok answer, s) => (.ok answer.dict, s)

/-! ## What becomes of the controller -/

/-- What an event that is no operation does to the controller. -/
inductive Rearranged (c : FluidGatewayController) : FluidGatewayController → Prop
  | same : Rearranged c c
  | registered (resource : Runtime.RuntimeResource) : Rearranged c (c.registerResource resource).2
  | released (id : String) : Rearranged c (c.releaseResource id).2

variable {casing builtins} {s : RuntimeAdapterSession} {payload : Payload}
  {eventIndex : Option Nat}

/-- Looking up the statistics of a frame may make new ones, but leaves the controller alone. -/
theorem frameStats_controller (s : RuntimeAdapterSession) (frame : ℤ) :
    (s.frameStats frame).2.controller = s.controller := by
  unfold frameStats
  split <;> rfl

/-- Asking for the target of a frame leaves the controller alone, whether the frame is known
or not. -/
theorem frameTarget_controller (s : RuntimeAdapterSession) (frame : Option ℤ) :
    (s.frameTarget frame).2.controller = s.controller := by
  cases frame with
  | none => rfl
  | some frame => exact frameStats_controller s frame

/-- The actions of a policy are counted in the frame's statistics only. -/
theorem recordPolicyActions_controller (s : RuntimeAdapterSession)
    (actions : List RuntimePolicyAction) (frame : Option ℤ) :
    (s.recordPolicyActions actions frame).controller = s.controller := by
  cases frame with
  | none => rfl
  | some frame => exact frameStats_controller s frame

/-- An operation that the controller has answered is counted in the frame's statistics only. -/
theorem recordOperation_controller (s : RuntimeAdapterSession) (frame : Option ℤ)
    (result : ControllerResult) : (s.recordOperation frame result).controller = s.controller := by
  cases frame with
  | none => rfl
  | some frame => exact frameStats_controller s frame

/-- The governor reads the session; of its own it writes to the frame's statistics at most. -/
theorem govern_controller (s : RuntimeAdapterSession) (liveCommand : Option LiveCommand) :
    (s.govern liveCommand).2.controller = s.controller :=
  frameTarget_controller s _

/-- Attaching a snapshot to an answer leaves the controller alone. -/
theorem withStateSnapshot_controller (s : RuntimeAdapterSession) (response : Response)
    (eventIndex : Option Nat) :
    (s.withStateSnapshot response eventIndex).2.controller = s.controller :=
  govern_controller s none

/-- Attaching a live command to an answer leaves the controller alone. -/
theorem withOperation_controller (s : RuntimeAdapterSession) (result : ControllerResult)
    (liveCommand : LiveCommand) (actions : List RuntimePolicyAction) (eventIndex : Option Nat) :
    (s.withOperation result liveCommand actions eventIndex).2.controller = s.controller :=
  govern_controller s (some liveCommand)

/-- The advisor and the policy engine have states of their own beside the controller. -/
theorem advise_controller (s : RuntimeAdapterSession) (result : ControllerResult)
    (targetFrameMs : ℚ) : (s.advise result targetFrameMs).2.controller = s.controller := rfl

/-- All that follows the controller's decision on an operation leaves the controller as the
decision left it. The functions are undone from the outside in, each by its own lemma. -/
theorem acceptOperation_controller (s : RuntimeAdapterSession) (result : ControllerResult)
    (eventIndex : Option Nat) :
    (s.acceptOperation result eventIndex).2.controller = s.controller := by
  unfold acceptOperation
  dsimp only
  rw [withOperation_controller, recordPolicyActions_controller, advise_controller,
    recordOperation_controller]
  exact frameTarget_controller s result.operation.frame

/-- An event that is no operation rearranges the resources at most, and reports
no operation. -/
structure Quiet (s : RuntimeAdapterSession)
    (out : Except Raised Answer × RuntimeAdapterSession) : Prop where
  controller : Rearranged s.controller out.2.controller
  result : ∀ answer, out.1 = .ok answer → answer.result = none

variable {t : RuntimeAdapterSession}

/-- An event that raises is quiet if it rearranges the resources at most; it answers
nothing. -/
theorem Quiet.raised {e : Raised} (h : Rearranged s.controller t.controller) :
    Quiet s (.error e, t) :=
  ⟨h, fun _ hanswer => (by cases hanswer)⟩

/-- An event whose answer is none of an operation is quiet if it rearranges the resources at
most, since the snapshot adds no result. -/
theorem Quiet.answered {response : Response} (h : Rearranged s.controller t.controller)
    (hresponse : ∀ report actions, response ≠ .operation report actions) :
    Quiet s (.ok (t.withStateSnapshot response eventIndex).1,
      (t.withStateSnapshot response eventIndex).2) := by
  refine ⟨?_, ?_⟩
  · rw [withStateSnapshot_controller]
    exact h
  · rintro _ ⟨⟩
    cases response with
    | operation report actions => exact absurd rfl (hresponse report actions)
    | _ => rfl

/-- An event about the session itself does not reach the controller. -/
theorem processSessionEvent_quiet :
    Quiet s (s.processSessionEvent casing builtins payload eventIndex) := by
  unfold processSessionEvent
  dsimp only
  split
  · exact .raised .same
  · exact .answered .same (by simp)
  · split
    · exact .raised .same
    · exact .answered .same (by simp)

/-- A question for the state does not reach the controller. -/
theorem processStateEvent_quiet :
    Quiet s (s.processStateEvent casing builtins payload eventIndex) := by
  unfold processStateEvent
  split
  · exact .raised .same
  · exact .answered .same (by simp)

/-- The beginning of a frame sets what is counted for it and nothing in the controller. -/
theorem beginFrame_quiet {frame : ℤ} {stats : AdapterFrameStats}
    (h : Rearranged s.controller t.controller) :
    Quiet s (t.beginFrame builtins frame stats payload eventIndex) := by
  unfold beginFrame
  dsimp only
  split
  · exact .raised h
  · split
    · exact .raised h
    · exact .answered h (by simp)

/-- The end of a frame closes what is counted for it and changes nothing in the controller. -/
theorem endFrame_quiet {frame : ℤ} {stats : AdapterFrameStats}
    (h : Rearranged s.controller t.controller) :
    Quiet s (t.endFrame frame stats eventIndex) := by
  unfold endFrame
  dsimp only
  split
  · exact .raised h
  · refine .answered ?_ (by simp)
    unfold setFrame
    dsimp only
    rw [frameStats_controller, recordPolicyActions_controller]
    exact h

/-- A frame event raises on a bad phase or frame, and otherwise begins or ends the frame;
none of these reaches the controller. -/
theorem processFrameEvent_quiet :
    Quiet s (s.processFrameEvent casing builtins payload eventIndex) := by
  unfold processFrameEvent
  dsimp only
  split
  · exact .raised .same
  · next frame _ =>
      split
      · exact .raised .same
      · next action _ =>
          have hkept := frameStats_controller { s with lifecycleEvents := s.lifecycleEvents + 1 }
            frame
          have hsame : Rearranged s.controller (frameStats
              { s with lifecycleEvents := s.lifecycleEvents + 1 } frame).2.controller := by
            rw [hkept]
            exact .same
          cases action with
          | begin => exact beginFrame_quiet hsame
          | finish => exact endFrame_quiet hsame

/-- A resource event is the one that rearranges: it registers or releases a resource, and
decides nothing. -/
theorem processResourceEvent_quiet :
    Quiet s (s.processResourceEvent casing builtins payload eventIndex) := by
  unfold processResourceEvent
  dsimp only
  split
  · exact .raised .same
  · split
    · exact .raised .same
    · refine .answered ?_ (by simp)
      split <;> exact .released _
  · split
    · exact .raised .same
    · next resource _ =>
        have hregistered := Rearranged.registered (c := s.controller) resource
        split
        · next hregister =>
            rw [hregister] at hregistered
            exact .raised hregistered
        · next hregister =>
            rw [hregister] at hregistered
            refine .answered ?_ (by simp)
            rw [recordPolicyActions_controller]
            exact hregistered

/-- Of the event types only an operation makes the controller decide; the others are quiet,
case by case. -/
theorem dispatch_quiet {type : EventType} (h : type ≠ .operation) :
    Quiet s (s.dispatch casing builtins type payload eventIndex) := by
  cases type with
  | session => exact processSessionEvent_quiet
  | frame => exact processFrameEvent_quiet
  | resource => exact processResourceEvent_quiet
  | operation => exact absurd rfl h
  | state => exact processStateEvent_quiet

/-- What an operation that has been read is answered with. -/
inductive Submitted (casing : Casing) (s : RuntimeAdapterSession) (operation : RuntimeOperation) :
    Except Raised Answer × RuntimeAdapterSession → Prop
  | refused {message : String} {t : RuntimeAdapterSession}
      (refuses : s.controller.submitOperation casing operation = (.error message, s.controller))
      (controller : t.controller = s.controller) :
      Submitted casing s operation (.error (.value message), t)
  | accepted {answer : Answer} {result : ControllerResult} {c : FluidGatewayController}
      {t : RuntimeAdapterSession}
      (accepts : s.controller.submitOperation casing operation = (.ok result, c))
      (result : answer.result = some result) (controller : t.controller = c) :
      Submitted casing s operation (.ok answer, t)

/-- An operation that could be read is submitted to the controller once, and the answer
carries what the controller said. -/
theorem processOperationEvent_spec {operation : RuntimeOperation}
    (hread : readOperation casing builtins payload s.currentFrame = .ok operation) :
    Submitted casing s operation (s.processOperationEvent casing builtins payload eventIndex) := by
  unfold processOperationEvent
  dsimp only
  rw [hread]
  dsimp only
  split
  · next e c hsubmit =>
      obtain rfl := submitOperation_error hsubmit
      exact .refused hsubmit rfl
  · next result c hsubmit =>
      exact .accepted hsubmit rfl (acceptOperation_controller _ result eventIndex)

end RuntimeAdapterSession

end FluidGateway.Adapter
