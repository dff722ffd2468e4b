import FluidGateway.ReferenceReading
import FluidGateway.WireExactness

/-!
# The largest size that is kept

The reference keeps the integers of the wire in every run exactly when no copy,
upload or allocation is larger than 2^53 bytes (`integersKept_iff`).  A transfer
of one byte more is eliminated, and reported with one byte less.
-/

namespace FluidGateway

namespace Adapter.RuntimeAdapterSession

open FluidGateway.Runtime (Casing RuntimeResource)

variable {casing : Casing} {builtins : Builtins} {s : RuntimeAdapterSession} {payload : Payload}
  {eventIndex : Option Nat}

/-- What a new resource is registered as. -/
theorem processResourceEvent_registers {resource : RuntimeResource}
    (haction : normalizedAction casing builtins (get payload "action") resourceActions "register" =
      .ok .register)
    (hread : readResource casing builtins payload = .ok resource)
    (hnew : s.controller.optimization.resources.contains resource.id = false) :
    (s.processResourceEvent casing builtins payload eventIndex).2.controller =
      { s.controller with
        optimization := { s.controller.optimization with
          resources := s.controller.optimization.resources.insert resource } } := by
  have hregister : s.controller.registerResource resource = (.ok resource,
      { s.controller with
        optimization := { s.controller.optimization with
          resources := s.controller.optimization.resources.insert resource } }) := by
    unfold Runtime.FluidGatewayController.registerResource
      Runtime.RuntimeOptimizationState.register
    rw [if_neg (by rw [hnew]; exact Bool.false_ne_true)]
  unfold processResourceEvent
  dsimp only
  rw [haction]
  dsimp only
  rw [hread]
  dsimp only
  rw [hregister]
  dsimp only
  rw [withStateSnapshot_controller, recordPolicyActions_controller]

end Adapter.RuntimeAdapterSession

namespace FluidLink

open FluidGateway.Adapter (RuntimeAdapterSession Builtins Json)
open FluidGateway.Runtime (Casing RuntimeResource orElse keyword)
open Native (Bytes)

/-! ## Events of a negotiated session -/

/-- An event of a negotiated session reaches the runtime. -/
theorem process_event {σ : Type} {s : FluidLinkV2ServerSession} {handler : EventHandler σ}
    {request : FluidLinkV2Frame} {runtime : σ} {type : Adapter.EventType}
    {payload : Adapter.Payload} {uuid id : Bytes} (hkind : request.kind = .request)
    (hsequence : request.sequence = s.expectedSequence) (hsession : s.sessionId = some id)
    (hidentity : request.sessionId = some id) (hopened : s.closed = false)
    (hdecision : request.decisionOpcode = 0) (hopcode : request.opcode = 10)
    (hcapable : s.acceptedCapabilities &&& FluidLinkV2ServerSession.requiredCapabilities =
      FluidLinkV2ServerSession.requiredCapabilities)
    (hsubject : eventOfOpcode request.subjectOpcode = some type)
    (hdecoded : decodeRuntimeEventPayload type request.payload = .ok payload) :
    s.process uuid handler request runtime =
      ({ s with expectedSequence := s.expectedSequence + 1 }.runtimeDecision request type
          (handler payload runtime).1,
        { s with expectedSequence := s.expectedSequence + 1 }, (handler payload runtime).2) := by
  have hbatch := (eventOfOpcode_spec hsubject).1
  unfold FluidLinkV2ServerSession.process
  rw [if_neg (by simp [hkind]), if_neg (by simp [hsequence]), if_neg (by simp [hsession]),
    if_neg (by simp [hsession, hidentity]), if_neg (by simp [hopened])]
  unfold FluidLinkV2ServerSession.dispatch
  rw [if_neg (by simp [hdecision]), if_pos hopcode]
  unfold FluidLinkV2ServerSession.handleRuntimeEvent
  rw [if_neg (by simp [hcapable]), if_neg hbatch, hsubject]
  dsimp only
  rw [hdecoded]

/-- **The runtime reads the resource that is on the wire.** -/
theorem readResource_register (casing : Casing) {builtins : Builtins}
    (hbuiltins : builtins.Faithful) {id : String} (hid : strip id ≠ "")
    (kind memory lifetime : String) (sizeBytes : ℕ) (aliases : List String) :
    ∃ resource : RuntimeResource, resource.id = strip id ∧
      Adapter.readResource casing builtins
        ((WireEvent.register id kind memory lifetime sizeBytes aliases).fields ++
          [("event", .text (eventName .resource))]) = .ok resource := by
  have hne : id ≠ "" := by
    rintro rfl
    exact hid rfl
  generalize hpayload : (WireEvent.register id kind memory lifetime sizeBytes aliases).fields ++
    [("event", Json.text (eventName .resource))] = payload
  have hfield : Adapter.get payload "id" = .text id ∧
      Adapter.get payload "aliases" = texts aliases ∧
      Adapter.get payload "size_mb" = megabytes sizeBytes := by
    subst hpayload
    exact ⟨rfl, rfl, rfl⟩
  unfold Adapter.readResource
  rw [hfield.1, hfield.2.1, hfield.2.2]
  simp only [Json.either, Json.truthy, hne, ne_eq, not_false_eq_true, decide_true, if_true,
    Bool.true_eq_false, if_false, asStringList_texts hbuiltins, hbuiltins.text, hid, megabytes,
    nonnegativeNumber_float hbuiltins (trueDivide_nonneg _ _)]
  exact ⟨_, rfl, rfl⟩

/-- A resource of the wire is registered, if its id is new. -/
theorem handler_register (casing : Casing) {builtins : Builtins} (hbuiltins : builtins.Faithful)
    (conversionText : String) {id : String} (hid : strip id ≠ "")
    (kind memory lifetime : String) (sizeBytes : ℕ) (aliases : List String)
    {s : RuntimeAdapterSession}
    (hnew : s.controller.optimization.resources.get (strip id) = none) :
    ∃ resource : RuntimeResource, resource.id = strip id ∧
      (RuntimeAdapterSession.handler casing builtins conversionText
        ((WireEvent.register id kind memory lifetime sizeBytes aliases).fields ++
          [("event", .text (eventName .resource))]) s).2.controller =
        { s.controller with
          optimization := { s.controller.optimization with
            resources := s.controller.optimization.resources.insert resource } } := by
  obtain ⟨resource, hresource, hread⟩ :=
    readResource_register casing hbuiltins hid kind memory lifetime sizeBytes aliases
  refine ⟨resource, hresource, ?_⟩
  have hevent := get_event (.register id kind memory lifetime sizeBytes aliases)
    (eventName .resource)
  have haction : Adapter.normalizedAction casing builtins
      (Adapter.get ((WireEvent.register id kind memory lifetime sizeBytes aliases).fields ++
        [("event", .text (eventName .resource))]) "action") Adapter.resourceActions "register" =
        .ok .register := by
    have hget : Adapter.get ((WireEvent.register id kind memory lifetime sizeBytes aliases).fields ++
        [("event", .text (eventName .resource))]) "action" = .text "register" := rfl
    have hkeyword : keyword "register" = true := by decide
    have htext : Adapter.textOr builtins (.text "register") "register" = "register" :=
      textOr_text hbuiltins "register" "register"
    unfold Adapter.normalizedAction
    rw [hget, htext]
    dsimp only
    rw [Runtime.keyword_lower casing hkeyword]
    rfl
  have hfresh : s.controller.optimization.resources.contains resource.id = false := by
    rw [hresource, Runtime.ResourceTable.contains, hnew]
    rfl
  have hregisters : (RuntimeAdapterSession.processResourceEvent casing builtins
      { s with eventsProcessed := s.eventsProcessed + 1 } _ none).2.controller = _ :=
    RuntimeAdapterSession.processResourceEvent_registers haction hread hfresh
  unfold RuntimeAdapterSession.handler RuntimeAdapterSession.processEvent
  dsimp only
  rw [eventType_eq casing hbuiltins hevent]
  unfold RuntimeAdapterSession.dispatch
  dsimp only
  generalize RuntimeAdapterSession.processResourceEvent casing builtins
    { s with eventsProcessed := s.eventsProcessed + 1 } _ none = out at hregisters ⊢
  obtain ⟨answer, t⟩ := out
  cases answer <;> exact hregisters

/-! ## The next size -/

/-- The conversions of Python of texts, whole numbers and floats; other
conversions are not made here. -/
def plainConversions : Builtins where
  str
    | .text value => value
    | _ => ""
  int
    | .int value => some value
    | _ => none
  float
    | .float value => some value
    | _ => none

theorem faithful_plainConversions : plainConversions.Faithful :=
  ⟨fun _ => rfl, fun _ => rfl, fun _ => rfl⟩

/-- A request of a client. -/
def clientRequest (opcode subjectOpcode sequence : ℕ) (sessionId : Option Bytes) (payload : Bytes) :
    FluidLinkV2Frame where
  kind := .request
  opcode := opcode
  subjectOpcode := subjectOpcode
  decisionOpcode := 0
  flags := if sessionId.isSome then 2 else 0
  sequence := sequence
  messageId := List.replicate 16 1
  sessionId := sessionId
  payload := payload

def exampleId : Bytes :=
  List.replicate 16 7

/-- The digest of the base contract. -/
def baseDigest : Bytes :=
  [0x0d, 0x24, 0xd9, 0x6a, 0xec, 0x32, 0xd7, 0x4e, 0x12, 0x3f, 0x9e, 0x19, 0x8e, 0x51, 0xad, 0xde,
    0x74, 0xdd, 0xf1, 0x90, 0xe8, 0xc4, 0x0b, 0x0a, 0xc1, 0x8b, 0xdd, 0xf5, 0xc4, 0x10, 0x8b, 0x2f]

def helloRequest : Bytes × FluidLinkV2Frame :=
  (exampleId, clientRequest 1 0 1 none (baseDigest ++
    [27, 0, 0, 0, 0, 0, 0, 0, 27, 0, 0, 0, 0, 0, 0, 0, 1, 0x63, 1, 0x31]))

/-- A buffer `r` of no bytes. -/
def registerRequest : Bytes × FluidLinkV2Frame :=
  (exampleId, clientRequest 10 102 2 (some exampleId)
    [1, 1, 0, 0x72, 1, 1, 0, 0, 0, 0, 0, 0, 0, 0, 0, 0])

/-- An upload of 2^53 + 1 bytes from `r` to `r`. -/
def uploadRequest : Bytes × FluidLinkV2Frame :=
  (exampleId, clientRequest 10 103 3 (some exampleId)
    [4, 0, 3, 1, 0, 0x75, 1, 0, 0x72, 1, 0, 0x72, 0, 0, 0, 0, 1, 0, 0, 0, 0, 0, 0x20, 0, 0])

def upload : WireOperation where
  operationType := "upload"
  queue := "unknown"
  source := some "r"
  target := some "r"
  reason := none
  costUs := 0
  sizeBytes := 2 ^ 53 + 1
  frame := none
  dependsOn := []

/-- What is decided about it: the size is a double. -/
def uploadDecision : Runtime.RuntimeDecision :=
  Runtime.remove (upload.operation "u" none) .eliminateSelfCopy
    "Source and target are the same resource; the transfer does no useful movement."
    (trueDivide 0 1000) (trueDivide (2 ^ 53 + 1) mebibyte)

theorem hello_decoded : ∃ hello, decodeHelloPayload helloRequest.2.payload = .ok hello ∧
    hello.contractDigest = baseDigest ∧ hello.requestedCapabilities = 27 ∧
    hello.requiredCapabilities = 27 := by
  have hdecoded : decodeHelloPayload helloRequest.2.payload =
      .ok ⟨baseDigest, 27, 27, "c", "1"⟩ := by
    decide
  exact ⟨_, hdecoded, rfl, rfl, rfl⟩

section

variable (casing : Casing) {builtins : Builtins} (conversionText serverName serverVersion : String)

/-- The session after the handshake. -/
def negotiated (sequence : ℕ) : FluidLinkV2ServerSession where
  serverName := serverName
  serverVersion := serverVersion
  sessionId := some exampleId
  contractDigest := some baseDigest
  expectedSequence := sequence
  acceptedCapabilities := 27

theorem serve_hello : (serve casing builtins conversionText (fresh serverName serverVersion)
    helloRequest).2 = (negotiated serverName serverVersion 2, {}) := by
  obtain ⟨hello, hdecoded, hdigest, hrequested, hrequired⟩ := hello_decoded
  have hbase : contractDigestOf Native.baseHash baseDigest := by decide
  have hbatch : ¬ contractDigestOf Native.batchHash baseDigest := by decide
  have havailable : FluidLinkV2ServerSession.availableCapabilities baseDigest = some 0x7F :=
    if_pos hbase
  have hkind : helloRequest.2.kind = .request := rfl
  have hsequence : helloRequest.2.sequence = 1 := rfl
  have hopcode : helloRequest.2.opcode = 1 := rfl
  unfold serve fresh FluidLinkV2ServerSession.process
  dsimp only
  rw [if_neg (by simp [hkind]), if_neg (by simp [hsequence]), if_pos rfl,
    if_neg (by simp [hopcode])]
  unfold FluidLinkV2ServerSession.handleHello
  rw [if_neg (by decide), hdecoded]
  dsimp only
  rw [hdigest, havailable]
  dsimp only
  rw [if_neg (fun h => hbatch h.1), hrequested, hrequired, if_neg (by decide)]
  rfl

theorem decide_upload {state : Runtime.RuntimeOptimizationState} {resource : RuntimeResource}
    (hget : state.resources.get "r" = some resource) (frame : Option ℤ) :
    Runtime.decideOperation casing state (upload.operation "u" frame) =
      some uploadDecision := by
  have hoperation : (upload.operation "u" frame).type = .upload ∧
      (upload.operation "u" frame).source = some "r" ∧
      (upload.operation "u" frame).target = some "r" := by
    have hr : Runtime.optionalText (some "r") = some "r" := by decide
    exact ⟨rfl, hr, hr⟩
  unfold Runtime.decideOperation
  rw [hoperation.1, hoperation.2.1, hoperation.2.2]
  simp only [Option.bind_some, hget]
  unfold Runtime.decideTransfer
  rw [if_pos (hoperation.2.1.trans hoperation.2.2.symm)]
  rfl

theorem negotiated_capable (sequence : ℕ) :
    (negotiated serverName serverVersion sequence).acceptedCapabilities &&&
        FluidLinkV2ServerSession.requiredCapabilities =
      FluidLinkV2ServerSession.requiredCapabilities :=
  (by decide : 27 &&& 27 = 27)

variable (hbuiltins : builtins.Faithful)

include hbuiltins

theorem serve_register : ∃ (resource : RuntimeResource) (t : RuntimeAdapterSession),
    resource.id = "r" ∧
    (serve casing builtins conversionText (negotiated serverName serverVersion 2, {})
      registerRequest).2 = (negotiated serverName serverVersion 3, t) ∧
    t.controller =
      { optimization := { resources := Runtime.ResourceTable.empty.insert resource } } := by
  have hr : strip "r" = "r" := by decide
  have hread : (readEvent .resource).run registerRequest.2.payload =
      .ok (.register "r" "buffer" "ram" "unknown" 0 []) := by
    decide
  have hdecoded : decodeRuntimeEventPayload .resource registerRequest.2.payload =
      .ok ((WireEvent.register "r" "buffer" "ram" "unknown" 0 []).fields ++
        [("event", .text (eventName .resource))]) := by
    unfold decodeRuntimeEventPayload
    rw [hread]
    rfl
  have hvisible : strip "r" ≠ "" := by
    rw [hr]
    decide
  obtain ⟨resource, hresource, hcontroller⟩ := handler_register casing hbuiltins conversionText
    hvisible "buffer" "ram" "unknown" 0 [] (s := {}) rfl
  refine ⟨resource, _, hresource.trans hr, ?_, hcontroller⟩
  unfold serve
  rw [process_event rfl rfl rfl rfl rfl rfl rfl (negotiated_capable _ _ _) rfl hdecoded]
  rfl

/-- The upload is eliminated, and one byte of it is lost. -/
theorem serve_upload {resource : RuntimeResource} {s : RuntimeAdapterSession}
    (hid : resource.id = "r")
    (hs : s.controller =
      { optimization := { resources := Runtime.ResourceTable.empty.insert resource } }) :
    ∃ (decision : Runtime.RuntimeDecision) (frame : FluidLinkV2Frame)
      (t : FluidLinkV2ServerSession) (after : RuntimeAdapterSession),
      serve casing builtins conversionText (negotiated serverName serverVersion 3, s)
        uploadRequest = (.ok frame, t, after) ∧
      after.controller.decisions = s.controller.decisions ++ [decision] ∧
      frame.payload = decisionBytes 3 0 (2 ^ 53) := by
  have htype : upload.Typed := by
    unfold WireOperation.Typed
    decide
  have hu : strip "u" ≠ "" := by decide
  have hread : (readEvent .operation).run uploadRequest.2.payload = .ok (.operation "u" upload) := by
    decide
  have hdecoded : decodeRuntimeEventPayload .operation uploadRequest.2.payload =
      .ok ((WireEvent.operation "u" upload).fields ++
        [("event", .text (eventName .operation))]) := by
    unfold decodeRuntimeEventPayload
    rw [hread]
    rfl
  have hget : s.controller.optimization.resources.get "r" = some resource := by
    rw [hs, ← hid]
    exact Runtime.ResourceTable.get_insert _ _
  have hdecided := decide_upload casing hget s.currentFrame
  have hfresh : (upload.operation "u" s.currentFrame).id ∉ s.controller.optimization.operationIds := by
    rw [hs]
    exact Finset.notMem_empty _
  have hsubmit : ∃ c', s.controller.submitOperation casing (upload.operation "u" s.currentFrame) =
      (.ok { operation := s.controller.optimization.rewritten
               (upload.operation "u" s.currentFrame)
             decision := some uploadDecision
             executed := false }, c') ∧
      c'.decisions = s.controller.decisions ++ [uploadDecision] := by
    unfold Runtime.FluidGatewayController.submitOperation
    rw [Runtime.RuntimeOptimizationState.process_eliminated casing hfresh hdecided]
    exact ⟨_, rfl, rfl⟩
  obtain ⟨c', hsubmit, hdecisions⟩ := hsubmit
  have hanswer := handler_operation casing hbuiltins conversionText (holds_operation "u" upload) hu
    htype s
  unfold serve
  rw [process_event rfl rfl rfl rfl rfl rfl rfl (negotiated_capable _ _ _) rfl hdecoded]
  dsimp only
  generalize RuntimeAdapterSession.handler casing builtins conversionText _ s = answered
    at hanswer ⊢
  cases hanswer with
  | refused refuses => cases refuses.symm.trans hsubmit
  | accepted accepts hresult controller =>
      cases accepts.symm.trans hsubmit
      have hcompact := compact_eliminated (trueDivide_nonneg 0 1000)
        (trueDivide_nonneg (2 ^ 53 + 1) mebibyte) hresult
      -- the size is the double of 2^53, and is written as such
      have hsize : scaledDecimal (.finite (trueDivide (2 ^ 53 + 1) mebibyte)) mebibyte maximumU64
          "saved_mb" = .ok (2 ^ 53) := by
        rw [trueDivide_collision]
        exact scaledDecimal_size "saved_mb" le_rfl
      have hencode : encodeRuntimeDecisionPayload
          { accepted := true, executed := some false
            savedMs := .finite (trueDivide 0 1000)
            savedMb := .finite (trueDivide (2 ^ 53 + 1) mebibyte) } = _ :=
        encodeRuntimeDecisionPayload_eq
          (scaledDecimal_cost "milliseconds" (by decide) (Nat.zero_le _) (by decide)) hsize
          (Nat.zero_le _) (by decide)
      have hsent : (negotiated serverName serverVersion 4).runtimeDecision uploadRequest.2
          .operation _ = _ := runtimeDecision_ok hcompact hencode
      refine ⟨uploadDecision, _, _, _, congrArg (·, _) hsent, ?_, rfl⟩
      rw [controller]
      exact hdecisions

/-- After the handshake and the buffer, the upload is not kept. -/
theorem upload_not_kept (log : List (String × WireOperation)) :
    ¬ KeepsIntegers casing builtins conversionText log
      (Lockstep.final (serve casing builtins conversionText) (fresh serverName serverVersion)
        [helloRequest, registerRequest]) uploadRequest := by
  obtain ⟨resource, s, hid, hregister, hs⟩ :=
    serve_register casing conversionText serverName serverVersion hbuiltins
  have hstate : Lockstep.final (serve casing builtins conversionText)
      (fresh serverName serverVersion) [helloRequest, registerRequest] =
        (negotiated serverName serverVersion 3, s) := by
    rw [Lockstep.final_cons, Lockstep.final_cons, Lockstep.final_nil, serve_hello, hregister]
  obtain ⟨decision, frame, t, after, hserve, hdecisions, hpayload⟩ :=
    serve_upload casing conversionText serverName serverVersion hbuiltins hid hs
  have hoperation : operationOf uploadRequest.2.payload = some ("u", upload) := by decide
  have hsync : upload.type ≠ .sync := by decide
  rw [hstate]
  intro hkeeps
  have hkept := hkeeps "u" upload decision rfl hoperation hsync
    (by rw [hserve]; exact hdecisions)
  rw [hserve] at hkept
  obtain ⟨⟨frame', decoded, hframe, -, -, hdecoded, -, hbytes⟩, -⟩ := hkept
  cases hframe
  have hread : decodeRuntimeDecisionPayload (decisionBytes 3 0 (2 ^ 53)) =
      .ok (.of 3 0 (2 ^ 53)) := by
    decide +kernel
  rw [hpayload, hread] at hdecoded
  cases hdecoded
  exact absurd hbytes (by decide)

end

/-- In every run whose copies, uploads and allocations have no more than so many bytes
each, the integers of the wire are kept. -/
def KeepsUpTo (limit : ℕ) : Prop :=
  ∀ (casing : Casing) (builtins : Builtins) (conversionText serverName serverVersion : String)
    (requests : List (Bytes × FluidLinkV2Frame)) (request : Bytes × FluidLinkV2Frame),
    builtins.Faithful → (∀ r ∈ requests, RequestWithin limit r) → RequestWithin limit request →
      KeepsIntegers casing builtins conversionText
        (acceptedBy casing builtins conversionText (fresh serverName serverVersion) requests)
        (Lockstep.final (serve casing builtins conversionText) (fresh serverName serverVersion)
          requests) request

theorem keepsUpTo_iff (limit : ℕ) : KeepsUpTo limit ↔ limit ≤ 2 ^ 53 := by
  constructor
  · intro hkeeps
    by_contra hlarge
    have hwithin : ∀ item ∈ submissions uploadRequest.2, item.2.Within limit := by
      have hsubmissions : submissions uploadRequest.2 = [("u", upload)] := by decide
      intro item hitem _
      rw [hsubmissions, List.mem_singleton] at hitem
      subst hitem
      change 2 ^ 53 + 1 ≤ limit
      omega
    have hquiet : ∀ r ∈ [helloRequest, registerRequest], RequestWithin limit r := by
      intro r hr
      have hsubmissions : submissions r.2 = [] := by
        revert r
        decide
      intro item hitem
      rw [hsubmissions] at hitem
      cases hitem
    exact upload_not_kept .plain "" "server" "1" faithful_plainConversions _
      (hkeeps .plain plainConversions "" "server" "1" _ _ faithful_plainConversions hquiet hwithin)
  · intro hlimit casing builtins conversionText serverName serverVersion requests request
      hbuiltins hrequests hrequest
    exact (Apart.run hbuiltins conversionText hrequests).keepsIntegers hbuiltins conversionText
      hlimit hrequest

/-- **The integers of the wire are kept in every run in which no copy, upload or
allocation has more than 2^53 bytes**, and no larger bound is enough for every run. -/
theorem integersKept_iff (limit : ℕ) :
    KeepsUpTo (2 ^ 53) ∧ (KeepsUpTo limit ↔ limit ≤ 2 ^ 53) :=
  ⟨(keepsUpTo_iff _).mpr le_rfl, keepsUpTo_iff limit⟩

/-- A size of 2^53 + 1 bytes is not kept. -/
theorem next_size_lost : ¬ KeepsIntegers .plain plainConversions ""
    (acceptedBy .plain plainConversions "" (fresh "server" "1") [helloRequest, registerRequest])
    (Lockstep.final (serve .plain plainConversions "") (fresh "server" "1")
      [helloRequest, registerRequest]) uploadRequest :=
  upload_not_kept .plain "" "server" "1" faithful_plainConversions _

end FluidLink

end FluidGateway
