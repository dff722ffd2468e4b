import FluidGateway.PayloadEncoding

/-!
# The codecs of the handshake

The encoders and the decoders of the hello, the welcome and the nonce, of
`fluidgateway/fluidlink_v2.py`.  Both sides of a codec are described by the same
format, so that they are inverse (`Reading.Inverse`).
-/

namespace FluidGateway.FluidLink

open Reading PayloadReader
open PyWriter (ofText)
open Native (Bytes)

/-- A text within its limit takes no more bytes than the limit and the width of its length
field; the bounds on whole payloads add these up. -/
theorem PayloadReader.textBytes_length_le {width maximumBytes : ℕ} {allowEmpty : Bool}
    {value : String} (h : TextFits width maximumBytes allowEmpty value) :
    (textBytes width value).length ≤ width + maximumBytes := by
  have hsize := h.size
  rw [textBytes, List.length_append, integerBytes_length]
  omega

/-! ## Capability masks -/

/-- `FLUIDLINK_V2_CAPABILITIES`. -/
def capabilities : ℕ := 0x7F

/-- `FLUIDLINK_V2_REQUIRED_CAPABILITIES`. -/
def requiredCapabilities : ℕ := 0x1B

/-- `_encode_capability_mask`. -/
def encodeCapabilityMask (value : PyValue) (name : String) : Except PyException ℕ :=
  match value with
  | .int mask =>
    if mask / 256 * 256 ≠ 0 then refusal s!"FluidLink v2 {name} contains unknown bits."
    else .ok mask.toNat
  | _ => refusal s!"FluidLink v2 {name} must be an integer mask."

/-- The writer of a mask passes on an integer that has known bits only and refuses
everything else. -/
theorem encodeCapabilityMask_iff {value : PyValue} {name : String} {mask : ℕ} :
    encodeCapabilityMask value name = .ok mask ↔ value = .int mask ∧ mask < 256 := by
  cases value with
  | int n =>
      unfold encodeCapabilityMask
      rw [guarded_iff, not_not, Except.ok.injEq, PyValue.int.injEq]
      omega
  | _ =>
      refine iff_of_false (fun h => nomatch h) ?_
      rintro ⟨h, -⟩
      cases h

/-- The reader of a mask accepts the eight bytes of a value with known bits only, and no
other bytes. -/
theorem capabilityMask_exact : Exact capabilityMask (· < 256) (integerBytes 8) := by
  refine (Exact.bind id (integer_exact 8) (fun value _ => Exact.guard fun _ => Exact.pure value)
    fun value other _ h => h.2).congr (fun value => ?_) fun value _ => List.append_nil _
  constructor
  · rintro ⟨-, hknown, -⟩
    simp only [id] at hknown
    omega
  · intro hvalue
    exact ⟨by simp only [id]; omega, by simp only [id]; omega, rfl⟩

/-! ## Hello -/

/-- The hellos that are on the wire. -/
structure FluidLinkV2Hello.Valid (hello : FluidLinkV2Hello) : Prop where
  digest : hello.contractDigest.length = 32
  requested : hello.requestedCapabilities < 256
  required : hello.requiredCapabilities < 256
  name : TextFits 1 128 false hello.clientName
  version : TextFits 1 64 false hello.clientVersion

/-- The fields in the order of the wire: the digest, the two masks and the two texts. -/
def FluidLinkV2Hello.bytes (hello : FluidLinkV2Hello) : Bytes :=
  hello.contractDigest ++ integerBytes 8 hello.requestedCapabilities ++
    integerBytes 8 hello.requiredCapabilities ++ textBytes 1 hello.clientName ++
      textBytes 1 hello.clientVersion

/-- A hello is far below the limit of a payload, so the writer's last check never fails on a
valid one. -/
theorem FluidLinkV2Hello.Valid.length_le {hello : FluidLinkV2Hello} (h : hello.Valid) :
    hello.bytes.length ≤ Native.maxPayload := by
  have hdigest := h.digest
  have hname := textBytes_length_le h.name
  have hversion := textBytes_length_le h.version
  simp only [FluidLinkV2Hello.bytes, List.length_append, integerBytes_length, Native.maxPayload]
  omega

/-- Reading a hello accepts the bytes of the valid hellos and no others, each with the one
value it is written from. -/
theorem readHello_exact :
    Exact readHello FluidLinkV2Hello.Valid FluidLinkV2Hello.bytes := by
  refine (Exact.bind FluidLinkV2Hello.contractDigest (take_exact 32) (fun _ _ =>
    Exact.bind FluidLinkV2Hello.requestedCapabilities capabilityMask_exact (fun _ _ =>
    Exact.bind FluidLinkV2Hello.requiredCapabilities capabilityMask_exact (fun _ _ =>
    Exact.bind FluidLinkV2Hello.clientName (text_exact 1 128 false) (fun _ _ =>
    Exact.bind FluidLinkV2Hello.clientVersion (text_exact 1 64 false) (fun _ _ => Exact.pure _)
    ?_) ?_) ?_) ?_) ?_).congr (fun hello => ?_) fun hello _ => ?_
  · exact fun _ _ _ h => congrArg FluidLinkV2Hello.clientVersion h
  · exact fun _ _ _ h => congrArg FluidLinkV2Hello.clientName h.2
  · exact fun _ _ _ h => congrArg FluidLinkV2Hello.requiredCapabilities h.2.2
  · exact fun _ _ _ h => congrArg FluidLinkV2Hello.requestedCapabilities h.2.2.2
  · exact fun _ _ _ h => congrArg FluidLinkV2Hello.contractDigest h.2.2.2.2
  · constructor
    · rintro ⟨hdigest, hrequested, hrequired, hname, hversion, -⟩
      exact ⟨hdigest, hrequested, hrequired, hname, hversion⟩
    · rintro ⟨hdigest, hrequested, hrequired, hname, hversion⟩
      exact ⟨hdigest, hrequested, hrequired, hname, hversion, rfl⟩
  · simp only [FluidLinkV2Hello.bytes, id, List.append_assoc, List.append_nil]

/-- The arguments of `encode_hello_payload`. -/
structure HelloArguments where
  clientName : PyValue
  clientVersion : PyValue
  requestedCapabilities : PyValue := .int capabilities
  requiredCapabilities : PyValue := .int requiredCapabilities
  contractDigest : PyValue

/-- `encode_hello_payload`: both masks are checked before anything is written, so their
errors come first. -/
def encodeHelloPayload (arguments : HelloArguments) : Except PyException Bytes := do
  let requestedMask ← encodeCapabilityMask arguments.requestedCapabilities "requested_capabilities"
  let requiredMask ← encodeCapabilityMask arguments.requiredCapabilities "required_capabilities"
  let contractDigest ← PyWriter.raw arguments.contractDigest 32
  let requested ← PyWriter.u64 requestedMask
  let required ← PyWriter.u64 requiredMask
  let clientName ← PyWriter.text8 arguments.clientName 128
  let clientVersion ← PyWriter.text8 arguments.clientVersion 64
  PyWriter.finish (contractDigest ++ requested ++ required ++ clientName ++ clientVersion)

/-- The arguments with which a hello is encoded. -/
def FluidLinkV2Hello.arguments (hello : FluidLinkV2Hello) : HelloArguments where
  clientName := ofText hello.clientName
  clientVersion := ofText hello.clientVersion
  requestedCapabilities := .int hello.requestedCapabilities
  requiredCapabilities := .int hello.requiredCapabilities
  contractDigest := .bytes hello.contractDigest

/-- The encoder succeeds exactly on the arguments of a valid hello, and then writes its
bytes. -/
theorem encodeHelloPayload_iff {arguments : HelloArguments} {payload : Bytes} :
    encodeHelloPayload arguments = .ok payload ↔
      ∃ hello : FluidLinkV2Hello, hello.Valid ∧ arguments = hello.arguments ∧
        payload = hello.bytes := by
  obtain ⟨clientName, clientVersion, requested, required, digest⟩ := arguments
  unfold encodeHelloPayload PyWriter.u64
  simp only [bound_iff, encodeCapabilityMask_iff, PyWriter.raw_iff, PyWriter.integer_iff,
    PyWriter.text8_iff, PyWriter.finish_iff]
  constructor
  · rintro ⟨requestedMask, ⟨rfl, hrequested⟩, requiredMask, ⟨rfl, hrequired⟩, contractDigest,
      ⟨rfl, hdigest⟩, _, ⟨-, rfl⟩, _, ⟨-, rfl⟩, _, ⟨name, rfl, hname, rfl⟩, _,
      ⟨version, rfl, hversion, rfl⟩, -, rfl⟩
    exact ⟨⟨contractDigest, requestedMask, requiredMask, name, version⟩,
      ⟨hdigest, hrequested, hrequired, hname, hversion⟩, rfl, rfl⟩
  · rintro ⟨hello, hvalid, harguments, rfl⟩
    obtain ⟨rfl, rfl, rfl, rfl, rfl⟩ := HelloArguments.mk.inj harguments
    have hrequested := hvalid.requested
    have hrequired := hvalid.required
    exact ⟨_, ⟨rfl, hrequested⟩, _, ⟨rfl, hrequired⟩, _, ⟨rfl, hvalid.digest⟩, _, ⟨by omega, rfl⟩,
      _, ⟨by omega, rfl⟩, _, ⟨_, rfl, hvalid.name, rfl⟩, _, ⟨_, rfl, hvalid.version, rfl⟩,
      hvalid.length_le, rfl⟩

/-- The decoder succeeds exactly on the bytes of a valid hello, and then returns that hello. -/
theorem decodeHelloPayload_iff {payload : Bytes} {hello : FluidLinkV2Hello} :
    decodeHelloPayload payload = .ok hello ↔ ∃ valid : FluidLinkV2Hello, valid.Valid ∧
      hello = valid ∧ payload = valid.bytes := by
  unfold decodeHelloPayload
  rw [run_exact readHello_exact]
  constructor
  · exact fun h => ⟨hello, h.1, rfl, h.2⟩
  · rintro ⟨_, hvalid, rfl, hpayload⟩
    exact ⟨hvalid, hpayload⟩

/-- The two codecs of a hello undo each other: what is written is read back, and what is
read is written with the same bytes. -/
theorem hello_inverse :
    Inverse encodeHelloPayload decodeHelloPayload FluidLinkV2Hello.arguments :=
  Inverse.of_format (fun _ _ => decodeHelloPayload_iff) (fun _ _ => encodeHelloPayload_iff)
    fun _ _ => rfl

/-! ## Welcome -/

/-- `FluidLinkV2Welcome`, as it is read from a payload. -/
structure FluidLinkV2Welcome where
  contractDigest : Bytes
  availableCapabilities : ℕ
  acceptedCapabilities : ℕ
  maxPayloadBytes : ℕ
  serverName : String
  serverVersion : String
  deriving DecidableEq, Repr

/-- The limits of the fields of a welcome. -/
structure FluidLinkV2Welcome.Fields (welcome : FluidLinkV2Welcome) : Prop where
  digest : welcome.contractDigest.length = 32
  available : welcome.availableCapabilities < 256
  accepted : welcome.acceptedCapabilities < 256
  size : welcome.maxPayloadBytes < 256 ^ 4
  name : TextFits 1 128 false welcome.serverName
  version : TextFits 1 64 false welcome.serverVersion

/-- The welcomes that are on the wire. -/
structure FluidLinkV2Welcome.Valid (welcome : FluidLinkV2Welcome) : Prop extends
    welcome.Fields where
  subset : welcome.acceptedCapabilities &&& welcome.availableCapabilities =
    welcome.acceptedCapabilities
  limit : 1 ≤ welcome.maxPayloadBytes ∧ welcome.maxPayloadBytes ≤ Native.maxPayload

/-- The fields in the order of the wire: the digest, the two masks, the limit and the two
texts. -/
def FluidLinkV2Welcome.bytes (welcome : FluidLinkV2Welcome) : Bytes :=
  welcome.contractDigest ++ integerBytes 8 welcome.availableCapabilities ++
    integerBytes 8 welcome.acceptedCapabilities ++ integerBytes 4 welcome.maxPayloadBytes ++
      textBytes 1 welcome.serverName ++ textBytes 1 welcome.serverVersion

/-- The bound needs the widths of the fields only, not the relation between the two masks. -/
theorem FluidLinkV2Welcome.Fields.length_le {welcome : FluidLinkV2Welcome} (h : welcome.Fields) :
    welcome.bytes.length ≤ Native.maxPayload := by
  have hdigest := h.digest
  have hname := textBytes_length_le h.name
  have hversion := textBytes_length_le h.version
  simp only [FluidLinkV2Welcome.bytes, List.length_append, integerBytes_length, Native.maxPayload]
  omega

/-- The fields of a welcome, each checked on its own; what relates them is checked by the
decoder. -/
def readWelcome : PayloadReader FluidLinkV2Welcome := do
  let contractDigest ← take 32
  let availableCapabilities ← capabilityMask
  let acceptedCapabilities ← capabilityMask
  let maxPayloadBytes ← u32
  let serverName ← PayloadReader.text8 128
  let serverVersion ← PayloadReader.text8 64
  return {
    contractDigest, availableCapabilities, acceptedCapabilities, maxPayloadBytes, serverName
    serverVersion }

/-- Reading a welcome accepts the bytes of every welcome whose fields fit, each with the one
value it is written from. -/
theorem readWelcome_exact :
    Exact readWelcome FluidLinkV2Welcome.Fields FluidLinkV2Welcome.bytes := by
  refine (Exact.bind FluidLinkV2Welcome.contractDigest (take_exact 32) (fun _ _ =>
    Exact.bind FluidLinkV2Welcome.availableCapabilities capabilityMask_exact (fun _ _ =>
    Exact.bind FluidLinkV2Welcome.acceptedCapabilities capabilityMask_exact (fun _ _ =>
    Exact.bind FluidLinkV2Welcome.maxPayloadBytes (integer_exact 4) (fun _ _ =>
    Exact.bind FluidLinkV2Welcome.serverName (text_exact 1 128 false) (fun _ _ =>
    Exact.bind FluidLinkV2Welcome.serverVersion (text_exact 1 64 false) (fun _ _ => Exact.pure _)
    ?_) ?_) ?_) ?_) ?_) ?_).congr (fun welcome => ?_) fun welcome _ => ?_
  · exact fun _ _ _ h => congrArg FluidLinkV2Welcome.serverVersion h
  · exact fun _ _ _ h => congrArg FluidLinkV2Welcome.serverName h.2
  · exact fun _ _ _ h => congrArg FluidLinkV2Welcome.maxPayloadBytes h.2.2
  · exact fun _ _ _ h => congrArg FluidLinkV2Welcome.acceptedCapabilities h.2.2.2
  · exact fun _ _ _ h => congrArg FluidLinkV2Welcome.availableCapabilities h.2.2.2.2
  · exact fun _ _ _ h => congrArg FluidLinkV2Welcome.contractDigest h.2.2.2.2.2
  · constructor
    · rintro ⟨hdigest, havailable, haccepted, hsize, hname, hversion, -⟩
      exact ⟨hdigest, havailable, haccepted, hsize, hname, hversion⟩
    · rintro ⟨hdigest, havailable, haccepted, hsize, hname, hversion⟩
      exact ⟨hdigest, havailable, haccepted, hsize, hname, hversion, rfl⟩
  · simp only [FluidLinkV2Welcome.bytes, id, List.append_assoc, List.append_nil]

/-- `decode_welcome_payload`: after the last field, the accepted mask is compared with the
available one and the limit is checked. -/
def decodeWelcomePayload (payload : Bytes) : Except FluidLinkProtocolError FluidLinkV2Welcome :=
  match readWelcome.run payload with
  | .error e => .error e
  | .ok result =>
    if result.acceptedCapabilities &&& result.availableCapabilities ≠
        result.acceptedCapabilities then
      .error (invalidPayload
        "FluidLink v2 accepted capabilities must be a subset of available capabilities.")
    else if ¬ (1 ≤ result.maxPayloadBytes ∧ result.maxPayloadBytes ≤ Native.maxPayload) then
      .error (invalidPayload "FluidLink v2 welcome payload limit is invalid.")
    else .ok result

/-- The decoder succeeds exactly on the bytes of a valid welcome, and then returns that
welcome. -/
theorem decodeWelcomePayload_iff {payload : Bytes} {welcome : FluidLinkV2Welcome} :
    decodeWelcomePayload payload = .ok welcome ↔ ∃ valid : FluidLinkV2Welcome, valid.Valid ∧
      welcome = valid ∧ payload = valid.bytes := by
  have hread : ∀ result, readWelcome.run payload = .ok result ↔
      result.Fields ∧ payload = result.bytes := fun _ => run_exact readWelcome_exact
  unfold decodeWelcomePayload
  cases hresult : readWelcome.run payload with
  | error e =>
      refine iff_of_false (fun h => nomatch h) ?_
      rintro ⟨valid, hvalid, rfl, rfl⟩
      rw [(hread _).mpr ⟨hvalid.toFields, rfl⟩] at hresult
      cases hresult
  | ok result =>
      obtain ⟨hfields, rfl⟩ := (hread _).mp hresult
      have hsame : (∃ valid : FluidLinkV2Welcome, valid.Valid ∧ welcome = valid ∧
          result.bytes = valid.bytes) ↔ welcome = result ∧ result.Valid := by
        constructor
        · rintro ⟨valid, hvalid, rfl, hbytes⟩
          have hagain := (hread welcome).mpr ⟨hvalid.toFields, hbytes⟩
          rw [hresult] at hagain
          cases hagain
          exact ⟨rfl, hvalid⟩
        · rintro ⟨rfl, hvalid⟩
          exact ⟨_, hvalid, rfl, rfl⟩
      rw [hsame]
      dsimp only
      by_cases hsubset : result.acceptedCapabilities &&& result.availableCapabilities ≠
          result.acceptedCapabilities
      · rw [if_pos hsubset]
        exact iff_of_false (fun h => nomatch h) fun h => hsubset h.2.subset
      · rw [if_neg hsubset]
        by_cases hlimit : ¬ (1 ≤ result.maxPayloadBytes ∧
            result.maxPayloadBytes ≤ Native.maxPayload)
        · rw [if_pos hlimit]
          exact iff_of_false (fun h => nomatch h) fun h => hlimit h.2.limit
        · rw [if_neg hlimit, Except.ok.injEq]
          constructor
          · rintro rfl
            exact ⟨rfl, hfields, not_not.mp hsubset, not_not.mp hlimit⟩
          · exact fun h => h.1.symm

/-- The arguments of `encode_welcome_payload`. -/
structure WelcomeArguments where
  availableCapabilities : PyValue
  acceptedCapabilities : PyValue
  serverName : PyValue
  serverVersion : PyValue
  maxPayloadBytes : PyValue := .int Native.maxPayload
  contractDigest : PyValue

section

variable (py : Interpreter)

/-- `encode_welcome_payload`, of any arguments. -/
def WelcomeArguments.encode (arguments : WelcomeArguments) : Except PyException Bytes := do
  let availableMask ← encodeCapabilityMask arguments.availableCapabilities "available_capabilities"
  let acceptedMask ← encodeCapabilityMask arguments.acceptedCapabilities "accepted_capabilities"
  if acceptedMask &&& availableMask ≠ acceptedMask then
    refusal "FluidLink v2 accepted capabilities must be a subset of available capabilities."
  else
    let maximumPayload ←
      arguments.maxPayloadBytes.unsigned py Native.maxPayload "max_payload_bytes"
    if maximumPayload = 0 then
      refusal "FluidLink v2 max_payload_bytes must be greater than zero."
    else
      let contractDigest ← PyWriter.raw arguments.contractDigest 32
      let available ← PyWriter.u64 availableMask
      let accepted ← PyWriter.u64 acceptedMask
      let maximum ← PyWriter.u32 maximumPayload
      let serverName ← PyWriter.text8 arguments.serverName 128
      let serverVersion ← PyWriter.text8 arguments.serverVersion 64
      PyWriter.finish
        (contractDigest ++ available ++ accepted ++ maximum ++ serverName ++ serverVersion)

/-- The arguments are the fields of a welcome. -/
structure WelcomeArguments.Means (arguments : WelcomeArguments) (welcome : FluidLinkV2Welcome) :
    Prop where
  available : arguments.availableCapabilities = .int welcome.availableCapabilities
  accepted : arguments.acceptedCapabilities = .int welcome.acceptedCapabilities
  name : arguments.serverName = ofText welcome.serverName
  version : arguments.serverVersion = ofText welcome.serverVersion
  maximum : arguments.maxPayloadBytes.IsUnsigned Native.maxPayload welcome.maxPayloadBytes
  digest : arguments.contractDigest = .bytes welcome.contractDigest

/-- The encoder succeeds exactly where the arguments mean a valid welcome, and then writes
its bytes. The arguments may leave out what has a default. -/
theorem WelcomeArguments.encode_iff {arguments : WelcomeArguments} {payload : Bytes} :
    arguments.encode py = .ok payload ↔ ∃ welcome : FluidLinkV2Welcome, welcome.Valid ∧
      arguments.Means welcome ∧ payload = welcome.bytes := by
  obtain ⟨available, accepted, serverName, serverVersion, maxPayloadBytes, digest⟩ := arguments
  unfold encode PyWriter.u64 PyWriter.u32
  simp only [bound_iff, guarded_iff, encodeCapabilityMask_iff, PyValue.unsigned_iff,
    PyWriter.raw_iff, PyWriter.integer_iff, PyWriter.text8_iff, PyWriter.finish_iff]
  constructor
  · rintro ⟨availableMask, ⟨rfl, havailable⟩, acceptedMask, ⟨rfl, haccepted⟩, hsubset,
      maximumPayload, hmaximum, hzero, contractDigest, ⟨rfl, hdigest⟩, _, ⟨-, rfl⟩, _, ⟨-, rfl⟩,
      _, ⟨hsize, rfl⟩, _, ⟨name, rfl, hname, rfl⟩, _, ⟨version, rfl, hversion, rfl⟩, -, rfl⟩
    refine ⟨⟨contractDigest, availableMask, acceptedMask, maximumPayload, name, version⟩,
      ⟨⟨hdigest, havailable, haccepted, hsize, hname, hversion⟩, not_not.mp hsubset,
        Nat.pos_of_ne_zero hzero, hmaximum.2⟩, ⟨rfl, rfl, rfl, rfl, hmaximum, rfl⟩, rfl⟩
  · rintro ⟨welcome, hvalid, ⟨rfl, rfl, rfl, rfl, hmaximum, rfl⟩, rfl⟩
    have havailable := hvalid.available
    have haccepted := hvalid.accepted
    have hlimit := hvalid.limit
    exact ⟨_, ⟨rfl, havailable⟩, _, ⟨rfl, haccepted⟩, not_not.mpr hvalid.subset, _, hmaximum,
      by omega, _, ⟨rfl, hvalid.digest⟩, _, ⟨by omega, rfl⟩, _, ⟨by omega, rfl⟩,
      _, ⟨hvalid.size, rfl⟩, _, ⟨_, rfl, hvalid.name, rfl⟩, _, ⟨_, rfl, hvalid.version, rfl⟩,
      hvalid.length_le, rfl⟩

/-- The arguments with which a welcome is encoded. -/
def FluidLinkV2Welcome.arguments (welcome : FluidLinkV2Welcome) : WelcomeArguments where
  availableCapabilities := .int welcome.availableCapabilities
  acceptedCapabilities := .int welcome.acceptedCapabilities
  serverName := ofText welcome.serverName
  serverVersion := ofText welcome.serverVersion
  maxPayloadBytes := .int welcome.maxPayloadBytes
  contractDigest := .bytes welcome.contractDigest

/-- The arguments that spell out a valid welcome mean that welcome. -/
theorem FluidLinkV2Welcome.arguments_mean {welcome : FluidLinkV2Welcome} (h : welcome.Valid) :
    welcome.arguments.Means welcome :=
  ⟨rfl, rfl, rfl, rfl, ⟨rfl, h.limit.2⟩, rfl⟩

/-- The two codecs of a welcome undo each other. -/
theorem welcome_inverse : Inverse (WelcomeArguments.encode py) decodeWelcomePayload
    FluidLinkV2Welcome.arguments :=
  Inverse.of_format (fun _ _ => decodeWelcomePayload_iff)
    (fun _ _ => WelcomeArguments.encode_iff py) fun _ h => FluidLinkV2Welcome.arguments_mean h

end

/-! ## Nonce -/

/-- `encode_nonce_payload`, of any value. -/
def PyValue.encodeNonce (nonce : PyValue) : Except PyException Bytes := do
  let field ← PyWriter.text8 nonce 128
  PyWriter.finish field

/-- A nonce is written exactly where it is a text within its limits; the payload is that
text with its length before it. -/
theorem PyValue.encodeNonce_iff {value : PyValue} {payload : Bytes} :
    value.encodeNonce = .ok payload ↔ ∃ nonce, TextFits 1 128 false nonce ∧
      value = ofText nonce ∧ payload = textBytes 1 nonce := by
  unfold encodeNonce
  simp only [bound_iff, PyWriter.text8_iff, PyWriter.finish_iff]
  constructor
  · rintro ⟨_, ⟨nonce, rfl, hnonce, rfl⟩, -, rfl⟩
    exact ⟨nonce, hnonce, rfl, rfl⟩
  · rintro ⟨nonce, hnonce, rfl, rfl⟩
    have hlength := textBytes_length_le hnonce
    exact ⟨_, ⟨nonce, rfl, hnonce, rfl⟩, hlength.trans (by decide), rfl⟩

/-- A nonce is read exactly from the bytes of a text within its limits. -/
theorem decodeNoncePayload_iff {payload : Bytes} {nonce : String} :
    decodeNoncePayload payload = .ok nonce ↔ ∃ valid, TextFits 1 128 false valid ∧
      nonce = valid ∧ payload = textBytes 1 valid := by
  unfold decodeNoncePayload
  rw [PayloadReader.text8, run_exact (text_exact 1 128 false)]
  constructor
  · exact fun h => ⟨nonce, h.1, rfl, h.2⟩
  · rintro ⟨_, hvalid, rfl, hpayload⟩
    exact ⟨hvalid, hpayload⟩

/-- The two codecs of a nonce undo each other. -/
theorem nonce_inverse : Inverse PyValue.encodeNonce decodeNoncePayload ofText :=
  Inverse.of_format (fun _ _ => decodeNoncePayload_iff) (fun _ _ => PyValue.encodeNonce_iff)
    fun _ _ => rfl

end FluidGateway.FluidLink
