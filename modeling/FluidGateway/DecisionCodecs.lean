import FluidGateway.HandshakeCodecs
import FluidGateway.BackedOperations

/-!
# The codecs of decisions

The encoders and the decoders of a runtime decision and of the decisions on a
batch of operations, of `fluidgateway/fluidlink_v2.py`.  An encoder is given a
dictionary; the dictionary that a decoder returns is encoded to the same bytes.
-/

namespace FluidGateway.FluidLink

open Reading PayloadReader
open PyWriter (ofText)
open Native (Bytes)

/-! ## Decisions -/

namespace DecodedDecision

/-- The flags of a decision. -/
def flags (decision : DecodedDecision) : ℕ :=
  (if decision.accepted then 1 else 0) ||| (if decision.executed.isSome then 2 else 0) |||
    (if decision.executed = some true then 4 else 0)

/-- The decisions that are on the wire: the double values are those of the
integers. -/
structure Valid (decision : DecodedDecision) : Prop where
  us : decision.savedUs < 256 ^ 8
  bytes : decision.savedBytes < 256 ^ 8
  ms : decision.savedMs = trueDivide decision.savedUs 1000
  mb : decision.savedMb = trueDivide decision.savedBytes mebibyte

/-- The flags in one byte, then the two savings in eight bytes each. -/
def bytes (decision : DecodedDecision) : Bytes :=
  decisionBytes decision.flags decision.savedUs decision.savedBytes

/-- The flags of a decision have no unknown bit and never say executed without saying that
this is known; these are the decoder's two checks. -/
theorem flags_valid (decision : DecodedDecision) : ¬ (decision.flags &&& 0xF8 ≠ 0 ∨
    decision.flags &&& 4 ≠ 0 ∧ decision.flags &&& 2 = 0) := by
  obtain ⟨accepted, _, _, _, _, executed⟩ := decision
  cases accepted <;> rcases executed with _ | _ | _ <;> simp [flags]

/-- The flags fit one byte. -/
theorem flags_lt (decision : DecodedDecision) : decision.flags < 256 := by
  obtain ⟨accepted, _, _, _, _, executed⟩ := decision
  cases accepted <;> rcases executed with _ | _ | _ <;> simp [flags]

set_option maxRecDepth 10000 in
/-- Flags that are accepted are those of the decision that they make. -/
theorem flags_of {flags : ℕ} (hlt : flags < 256)
    (hvalid : ¬ (flags &&& 0xF8 ≠ 0 ∨ flags &&& 4 ≠ 0 ∧ flags &&& 2 = 0))
    (savedUs savedBytes : ℕ) : (of flags savedUs savedBytes).flags = flags := by
  have hall : ∀ f < 256, ¬ (f &&& 0xF8 ≠ 0 ∨ f &&& 4 ≠ 0 ∧ f &&& 2 = 0) → (of f 0 0).flags = f := by
    decide
  exact hall flags hlt hvalid

/-- A valid decision is what its own flags and savings are read as. -/
theorem of_flags {decision : DecodedDecision} (h : decision.Valid) :
    of decision.flags decision.savedUs decision.savedBytes = decision := by
  have hms := h.ms
  have hmb := h.mb
  obtain ⟨accepted, savedUs, savedBytes, savedMs, savedMb, executed⟩ := decision
  dsimp only at hms hmb
  subst hms hmb
  cases accepted <;> rcases executed with _ | _ | _ <;> simp [of, flags]

/-- What is read from any flags is valid once both savings fit eight bytes. -/
theorem of_valid {flags savedUs savedBytes : ℕ} (hus : savedUs < 256 ^ 8)
    (hbytes : savedBytes < 256 ^ 8) : (of flags savedUs savedBytes).Valid :=
  ⟨hus, hbytes, rfl, rfl⟩

/-- Every decision takes 17 bytes, so that one inside a batch can be cut out before it is
read. -/
theorem bytes_length (decision : DecodedDecision) : decision.bytes.length = 17 := by
  simp [bytes, decisionBytes]

end DecodedDecision

/-- The decoder of one decision accepts the bytes of the valid decisions and no others. -/
theorem decodeRuntimeDecisionPayload_iff {payload : Bytes} {decision : DecodedDecision} :
    decodeRuntimeDecisionPayload payload = .ok decision ↔
      decision.Valid ∧ payload = decision.bytes := by
  have hfields : ∀ {width : ℕ} {data rest : Bytes} {value : ℕ},
      integer width data = .ok (value, rest) ↔
        value < 256 ^ width ∧ data = integerBytes width value ++ rest := integer_exact _ _ _ _
  have hread : ∀ x, readRuntimeDecision payload = .ok x ↔
      x.1.Valid ∧ payload = x.1.bytes ∧ x.2 = [] := by
    rintro ⟨result, rest⟩
    unfold readRuntimeDecision u8 u64
    simp only [Reading.bind_eq_ok, hfields]
    constructor
    · rintro ⟨flags, _, ⟨hflags, rfl⟩, savedUs, _, ⟨hus, rfl⟩, savedBytes, last, ⟨hbytes, rfl⟩,
        _, final, hfinish, _, _, hrequire, hreturn⟩
      obtain ⟨hvalid, hsame⟩ := require_eq_ok.mp hrequire
      cases hsame
      cases Reading.pure_eq_ok.mp hreturn
      unfold finish at hfinish
      split_ifs at hfinish with hempty
      cases hfinish
      refine ⟨DecodedDecision.of_valid hus hbytes, ?_, hempty⟩
      rw [hempty, List.append_nil, DecodedDecision.bytes, DecodedDecision.flags_of hflags hvalid]
      exact (List.append_assoc _ _ _).symm
    · rintro ⟨hvalid, rfl, hempty⟩
      obtain rfl : rest = [] := hempty
      refine ⟨result.flags, _, ⟨result.flags_lt, ?_⟩, result.savedUs, _, ⟨hvalid.us, rfl⟩,
        result.savedBytes, [], ⟨hvalid.bytes, rfl⟩, (), [], rfl, PUnit.unit, [],
        require_eq_ok.mpr ⟨result.flags_valid, rfl⟩, ?_⟩
      · rw [List.append_nil]
        exact List.append_assoc _ _ _
      · rw [DecodedDecision.of_flags hvalid]
        rfl
  unfold decodeRuntimeDecisionPayload
  change (readRuntimeDecision payload).map Prod.fst = .ok decision ↔ _
  constructor
  · intro h
    cases hresult : readRuntimeDecision payload with
    | error e =>
        rw [hresult] at h
        cases h
    | ok x =>
        rw [hresult] at h
        cases h
        obtain ⟨hvalid, hpayload, -⟩ := (hread x).mp hresult
        exact ⟨hvalid, hpayload⟩
  · rintro ⟨hvalid, hpayload⟩
    rw [(hread (decision, [])).mpr ⟨hvalid, hpayload, rfl⟩]
    rfl

/-- The dictionary that is returned for a decision. -/
def DecodedDecision.dict (decision : DecodedDecision) : PyDict :=
  [("accepted", .bool decision.accepted), ("saved_us", .int decision.savedUs),
    ("saved_bytes", .int decision.savedBytes), ("saved_ms", .float (.finite decision.savedMs)),
    ("saved_mb", .float (.finite decision.savedMb))] ++
  match decision.executed with
  | some executed => [("executed", .bool executed)]
  | none => []

/-- `decode_runtime_decision_payload`, with the dictionary that it returns. -/
def decodeDecisionDict (payload : Bytes) : Except FluidLinkProtocolError PyDict :=
  (decodeRuntimeDecisionPayload payload).map DecodedDecision.dict

/-- `value is True`. -/
def PyValue.isTrue : PyValue → Bool
  | .bool value => value
  | _ => false

namespace PyDict

/-- The flags that are written for a decision. -/
def decisionFlags (compact : PyDict) : ℕ :=
  (if (compact.get "accepted").isTrue then 1 else 0) |||
    (if compact.has "executed" && !(compact.get "executed").isNone then 2 else 0) |||
      (if (compact.get "executed").isTrue then 4 else 0)

variable (py : Interpreter)

/-- `encode_runtime_decision_payload`, of any dictionary. -/
def encodeDecision (compact : PyDict) : Except PyException Bytes := do
  let savedUs ← timeValue py compact "saved_us" "saved_ms" maximumU64
  let savedBytes ← memoryValue py compact "saved_bytes" "saved_mb"
  let flags ← PyWriter.u8 compact.decisionFlags
  let us ← PyWriter.u64 savedUs
  let bytes ← PyWriter.u64 savedBytes
  PyWriter.finish (flags ++ us ++ bytes)

/-- The dictionary says what is decided. -/
structure Decides (compact : PyDict) (decision : DecodedDecision) : Prop where
  flags : compact.decisionFlags = decision.flags
  us : timeValue py compact "saved_us" "saved_ms" maximumU64 = .ok decision.savedUs
  bytes : memoryValue py compact "saved_bytes" "saved_mb" = .ok decision.savedBytes

/-- A field that reads as something is present; a field that is absent reads as `None`. -/
theorem has_of_get {d : PyDict} {key : String} (h : d.get key ≠ .none) : d.has key = true := by
  unfold get at h
  unfold has
  cases hlookup : List.lookup key d with
  | none =>
      rw [hlookup] at h
      exact absurd rfl h
  | some value => rfl

/-- The flags as one expression: accepted, known to be executed or not, executed. -/
theorem decisionFlags_eq (compact : PyDict) : compact.decisionFlags =
    ((if (compact.get "accepted").isTrue then 1 else 0) |||
      (if !(compact.get "executed").isNone then 2 else 0) |||
        (if (compact.get "executed").isTrue then 4 else 0)) := by
  unfold decisionFlags
  by_cases hnone : compact.get "executed" = .none
  · rw [hnone]
    simp [PyValue.isNone]
  · rw [has_of_get hnone, Bool.true_and]

/-- What the flags of a dictionary say. -/
theorem flags_of_decisionFlags (compact : PyDict) (savedUs savedBytes : ℕ) :
    (DecodedDecision.of compact.decisionFlags savedUs savedBytes).flags = compact.decisionFlags := by
  rw [decisionFlags_eq]
  apply DecodedDecision.flags_of
  · split_ifs <;> decide
  · cases compact.get "executed" with
    | none => split_ifs <;> simp [PyValue.isTrue, PyValue.isNone] at *
    | bool executed => cases executed <;> split_ifs <;> simp [PyValue.isTrue, PyValue.isNone] at *
    | _ => split_ifs <;> simp [PyValue.isTrue, PyValue.isNone] at *

end PyDict

/-- A whole number of microseconds that fits is taken as it is, and the scaled field is not
read. -/
theorem timeValue_int {py : Interpreter} {d : PyDict} {wholeKey : String} {n maximum : ℕ}
    (h : List.lookup wholeKey d = some (.int n)) (hn : n ≤ maximum) (scaledKey : String) :
    timeValue py d wholeKey scaledKey maximum = .ok n := by
  unfold timeValue
  rw [h]
  exact (PyValue.unsigned_iff py).mpr ⟨rfl, hn⟩

/-- A whole number of bytes that fits is taken as it is, and the scaled field is not read. -/
theorem memoryValue_int {py : Interpreter} {d : PyDict} {wholeKey : String} {n : ℕ}
    (h : List.lookup wholeKey d = some (.int n)) (hn : n ≤ maximumU64) (scaledKey : String) :
    memoryValue py d wholeKey scaledKey = .ok n := by
  unfold memoryValue
  rw [h]
  exact (PyValue.unsigned_iff py).mpr ⟨rfl, hn⟩

/-- The encoder succeeds exactly where the dictionary says a valid decision, and then writes
its bytes. -/
theorem PyDict.encodeDecision_iff {py : Interpreter} {compact : PyDict} {payload : Bytes} :
    compact.encodeDecision py = .ok payload ↔ ∃ decision : DecodedDecision, decision.Valid ∧
      compact.Decides py decision ∧ payload = decision.bytes := by
  unfold encodeDecision PyWriter.u8 PyWriter.u64
  simp only [bound_iff, PyWriter.integer_iff, PyWriter.finish_iff]
  constructor
  · rintro ⟨savedUs, hus, savedBytes, hbytes, _, ⟨-, rfl⟩, _, ⟨hus64, rfl⟩, _, ⟨hbytes64, rfl⟩, -,
      rfl⟩
    have hflags := compact.flags_of_decisionFlags savedUs savedBytes
    refine ⟨_, DecodedDecision.of_valid hus64 hbytes64, ⟨hflags.symm, hus, hbytes⟩, ?_⟩
    rw [DecodedDecision.bytes, hflags]
    rfl
  · rintro ⟨decision, hvalid, ⟨hflags, hus, hbytes⟩, rfl⟩
    refine ⟨_, hus, _, hbytes, _, ⟨?_, rfl⟩, _, ⟨hvalid.us, rfl⟩, _, ⟨hvalid.bytes, rfl⟩, ?_, ?_⟩
    · rw [hflags]
      exact decision.flags_lt
    · simp [Native.maxPayload]
    · rw [hflags]
      rfl

/-- A dictionary that was returned says the decision it was made of. -/
theorem DecodedDecision.dict_decides {py : Interpreter} {decision : DecodedDecision}
    (h : decision.Valid) : decision.dict.Decides py decision := by
  have hus := h.us
  have hbytes := h.bytes
  obtain ⟨accepted, savedUs, savedBytes, savedMs, savedMb, executed⟩ := decision
  constructor
  · rw [PyDict.decisionFlags_eq]
    rcases executed with _ | executed
    · simp [dict, PyDict.get, List.lookup_cons, PyValue.isTrue, PyValue.isNone, flags]
    · simp [dict, PyDict.get, List.lookup_cons, PyValue.isTrue, PyValue.isNone, flags]
  · refine timeValue_int ?_ (Nat.lt_succ_iff.mp hus) _
    rfl
  · refine memoryValue_int ?_ (Nat.lt_succ_iff.mp hbytes) _
    rfl

/-- The decoder returns exactly the dictionaries of valid decisions, each from its own
bytes. -/
theorem decodeDecisionDict_iff {payload : Bytes} {compact : PyDict} :
    decodeDecisionDict payload = .ok compact ↔ ∃ decision : DecodedDecision, decision.Valid ∧
      compact = decision.dict ∧ payload = decision.bytes := by
  unfold decodeDecisionDict
  constructor
  · intro h
    cases hdecode : decodeRuntimeDecisionPayload payload with
    | error e =>
        rw [hdecode] at h
        cases h
    | ok decision =>
        rw [hdecode] at h
        cases h
        obtain ⟨hvalid, hpayload⟩ := decodeRuntimeDecisionPayload_iff.mp hdecode
        exact ⟨decision, hvalid, rfl, hpayload⟩
  · rintro ⟨decision, hvalid, rfl, hpayload⟩
    rw [decodeRuntimeDecisionPayload_iff.mpr ⟨hvalid, hpayload⟩]
    rfl

/-- The two codecs of a decision undo each other, for any reading of texts as numbers: what
the decoder returns has whole fields only. -/
theorem decision_inverse (py : Interpreter) :
    Inverse (PyDict.encodeDecision py) decodeDecisionDict id :=
  Inverse.of_format (fun _ _ => decodeDecisionDict_iff) (fun _ _ => PyDict.encodeDecision_iff)
    fun _ h => DecodedDecision.dict_decides h

/-! ## The identity of a batch -/

/-- The value of a hexadecimal digit. -/
def hexDigit? (c : CodePoint) : Option ℕ :=
  if '0'.toNat ≤ c.val ∧ c.val ≤ '9'.toNat then some (c.val - '0'.toNat)
  else if 'a'.toNat ≤ c.val ∧ c.val ≤ 'f'.toNat then some (c.val - 'a'.toNat + 10)
  else if 'A'.toNat ≤ c.val ∧ c.val ≤ 'F'.toNat then some (c.val - 'A'.toNat + 10)
  else none

/-- The bytes of pairs of digits. -/
def hexPairs : List ℕ → Bytes
  | high :: low :: digits => UInt8.ofNat (16 * high + low) :: hexPairs digits
  | _ => []

/-- `bytes.fromhex`, of a text of digits. -/
def fromHex (t : PyText) : Bytes :=
  hexPairs (t.filterMap hexDigit?)

/-- `_batch_id_bytes`. -/
def batchIdBytes (value : PyValue) : Except PyException Bytes :=
  match value with
  | .text t =>
    if t.length ≠ 32 ∨ t.any fun c => (hexDigit? c).isNone then
      refusal "FluidLink v2 batch_id must contain exactly 16 hexadecimal bytes."
    else if (fromHex t).length ≠ 16 ∨ anyByte (fromHex t) = false then
      refusal "FluidLink v2 batch_id must contain 16 nonzero-identity bytes."
    else .ok (fromHex t)
  | _ => refusal "FluidLink v2 batch_id must contain exactly 16 hexadecimal bytes."

/-- The identities of batches. -/
def BatchId (data : Bytes) : Prop :=
  data.length = 16 ∧ anyByte data = true

/-- Identity bytes that were accepted are 16 and not all zero. -/
theorem batchId_of_ok {value : PyValue} {data : Bytes} (h : batchIdBytes value = .ok data) :
    BatchId data := by
  cases value with
  | text t =>
      unfold batchIdBytes at h
      obtain ⟨-, h⟩ := guarded_iff.mp h
      obtain ⟨hvalid, h⟩ := guarded_iff.mp h
      cases h
      rw [not_or, not_not, Bool.not_eq_false] at hvalid
      exact hvalid
  | _ => cases h

/-- The two digits of a byte. -/
def byteDigits (n : ℕ) : List Char :=
  let digits := Nat.toDigits 16 n
  List.replicate (2 - digits.length) '0' ++ digits

/-- The two digits that a byte is written as are read as its two halves. -/
theorem byteDigits_read (byte : UInt8) :
    ((byteDigits byte.toNat).map CodePoint.ofChar).map hexDigit? =
      [some (byte.toNat / 16), some (byte.toNat % 16)] := by
  have hall : ∀ n < 256, ((byteDigits n).map CodePoint.ofChar).map hexDigit? =
      [some (n / 16), some (n % 16)] := by
    decide +kernel
  exact hall byte.toNat byte.toNat_lt

/-- The halves of bytes. -/
def nibbles (data : Bytes) : List ℕ :=
  data.flatMap fun byte => [byte.toNat / 16, byte.toNat % 16]

/-- The digits of a text of bytes. -/
theorem hexText_digits (data : Bytes) :
    (PyText.ofString (hexText data)).map hexDigit? = (nibbles data).map some := by
  unfold PyText.ofString hexText
  rw [String.toList_join]
  induction data with
  | nil => rfl
  | cons byte data ih =>
      have hbyte := byteDigits_read byte
      unfold byteDigits at hbyte
      simp only [List.map_cons, List.flatMap_cons, List.map_append, String.toList_ofList, nibbles]
        at ih hbyte ⊢
      rw [ih, hbyte]
      rfl

/-- Joining the halves of bytes in pairs gives the bytes back. -/
theorem hexPairs_nibbles (data : Bytes) : hexPairs (nibbles data) = data := by
  induction data with
  | nil => rfl
  | cons byte data ih =>
      have hbyte : 16 * (byte.toNat / 16) + byte.toNat % 16 = byte.toNat := Nat.div_add_mod _ _
      change UInt8.ofNat _ :: hexPairs (nibbles data) = _
      rw [ih, hbyte, UInt8.ofNat_toNat]

/-- Every byte has two halves. -/
theorem nibbles_length (data : Bytes) : (nibbles data).length = 2 * data.length := by
  induction data with
  | nil => rfl
  | cons byte data ih =>
      change (nibbles data).length + 2 = _
      rw [ih, List.length_cons]
      omega

/-- The text of bytes in hexadecimal is read as the bytes it was written from. -/
theorem fromHex_hexText (data : Bytes) : fromHex (PyText.ofString (hexText data)) = data := by
  have hfilter : (PyText.ofString (hexText data)).filterMap hexDigit? =
      ((PyText.ofString (hexText data)).map hexDigit?).filterMap id := by
    rw [List.filterMap_map]
    rfl
  rw [fromHex, hfilter, hexText_digits, List.filterMap_map]
  change hexPairs ((nibbles data).filterMap some) = data
  rw [List.filterMap_some, hexPairs_nibbles]

/-- The text of an identity is read back. -/
theorem batchIdBytes_hexText {data : Bytes} (h : BatchId data) :
    batchIdBytes (ofText (hexText data)) = .ok data := by
  have hdigits := hexText_digits data
  have hlength : (PyText.ofString (hexText data)).length = 32 := by
    have hcount := congrArg List.length hdigits
    rw [List.length_map, List.length_map, nibbles_length, h.1] at hcount
    exact hcount
  have hall : ¬ (PyText.ofString (hexText data)).any (fun c => (hexDigit? c).isNone) = true := by
    rw [List.any_eq_true]
    rintro ⟨c, hc, hnone⟩
    have hmem := List.mem_map_of_mem (f := hexDigit?) hc
    rw [hdigits] at hmem
    obtain ⟨digit, -, hdigit⟩ := List.mem_map.mp hmem
    rw [← hdigit] at hnone
    cases hnone
  unfold ofText batchIdBytes
  refine guarded_iff.mpr ⟨fun hbad => hbad.elim (fun hne => hne hlength) hall, ?_⟩
  rw [fromHex_hexText]
  refine guarded_iff.mpr ⟨?_, rfl⟩
  rw [not_or, not_not, Bool.not_eq_false]
  exact h

/-! ## The decisions on a batch -/

/-- `_batch_count`. -/
def batchCount (value : PyValue) : Except PyException ℕ :=
  match value with
  | .int n =>
    if ¬ (1 ≤ n ∧ n ≤ 256) then
      refusal "FluidLink v2 operation batch count must be between 1 and 256."
    else .ok n.toNat
  | _ => refusal "FluidLink v2 operation batch count must be between 1 and 256."

/-- The count of a batch is accepted exactly where it is an integer from 1 to 256. -/
theorem batchCount_iff {value : PyValue} {n : ℕ} :
    batchCount value = .ok n ↔ value = .int n ∧ 1 ≤ n ∧ n ≤ 256 := by
  cases value with
  | int m =>
      unfold batchCount
      rw [guarded_iff, not_not, Except.ok.injEq, PyValue.int.injEq]
      omega
  | _ =>
      refine iff_of_false (fun h => nomatch h) ?_
      rintro ⟨h, -⟩
      cases h

/-- `_validate_batch_decision`. -/
def validateBatchDecision (opcode : PyValue) (compact : PyDict) : Except PyException ℕ :=
  match opcode with
  | .int n =>
    if ¬ (0 ≤ n ∧ n ≤ 6) then
      refusal "FluidLink v2 operation batch contains an invalid decision opcode."
    else
      match compact.get "executed" with
      | .bool executed =>
        if executed ≠ decide (n = 0) then
          refusal
            "FluidLink v2 operation batch decision execution state and opcode disagree."
        else .ok n.toNat
      | _ =>
        refusal "FluidLink v2 operation batch decision execution state and opcode disagree."
  | _ => refusal "FluidLink v2 operation batch contains an invalid decision opcode."

/-- An entry is accepted exactly where its opcode is known and it says executed for opcode 0
and for no other. -/
theorem validateBatchDecision_iff {opcode : PyValue} {compact : PyDict} {n : ℕ} :
    validateBatchDecision opcode compact = .ok n ↔
      opcode = .int n ∧ n ≤ 6 ∧ compact.get "executed" = .bool (decide (n = 0)) := by
  cases opcode with
  | int m =>
      unfold validateBatchDecision
      rw [guarded_iff, not_not, PyValue.int.injEq]
      cases hexecuted : compact.get "executed" with
      | bool executed =>
          dsimp only
          rw [guarded_iff, not_not, Except.ok.injEq, PyValue.bool.injEq]
          constructor
          · rintro ⟨hrange, hflag, hn⟩
            have hzero : m = 0 ↔ n = 0 := by omega
            exact ⟨by omega, by omega, by rw [hflag, decide_eq_decide]; exact hzero⟩
          · rintro ⟨rfl, hn, hflag⟩
            refine ⟨by omega, ?_, by omega⟩
            rw [hflag, decide_eq_decide]
            exact Nat.cast_eq_zero.symm
      | _ =>
          refine iff_of_false (fun h => nomatch h.2) ?_
          rintro ⟨-, -, h⟩
          cases h
  | _ =>
      refine iff_of_false (fun h => nomatch h) ?_
      rintro ⟨h, -⟩
      cases h

/-- A decision on an item of a batch, with its opcode. -/
structure BatchEntry where
  opcode : ℕ
  decision : DecodedDecision

namespace BatchEntry

/-- The entries that are on the wire. -/
structure Valid (e : BatchEntry) : Prop where
  opcode : e.opcode ≤ 6
  decision : e.decision.Valid
  executed : e.decision.executed = some (decide (e.opcode = 0))

/-- The opcode in one byte, then the decision. -/
def bytes (e : BatchEntry) : Bytes :=
  integerBytes 1 e.opcode ++ e.decision.bytes

/-- `{"decision_opcode": opcode, **compact}`. -/
def dict (e : BatchEntry) : PyDict :=
  ("decision_opcode", .int e.opcode) :: e.decision.dict

end BatchEntry

/-- One turn of the decoder's loop: the opcode and the 17 bytes of the decision are taken
before either is checked. -/
def readBatchEntry : PayloadReader BatchEntry := do
  let opcode ← u8
  let data ← take 17
  match decodeRuntimeDecisionPayload data with
  | .error e => throw e
  | .ok decision => do
    require (opcode ≤ 6)
      (invalidPayload "FluidLink v2 operation batch contains an invalid decision opcode.")
    require (decision.executed = some (decide (opcode = 0)))
      (invalidPayload
        "FluidLink v2 operation batch decision execution state and opcode disagree.")
    return { opcode, decision }

/-- Reading an entry accepts the bytes of the valid entries and no others. -/
theorem readBatchEntry_exact : Exact readBatchEntry BatchEntry.Valid BatchEntry.bytes := by
  have hdecision : ∀ (opcode : ℕ) (data : Bytes), Exact
      (match decodeRuntimeDecisionPayload data with
        | .error e => throw e
        | .ok decision => do
          require (opcode ≤ 6)
            (invalidPayload "FluidLink v2 operation batch contains an invalid decision opcode.")
          require (decision.executed = some (decide (opcode = 0)))
            (invalidPayload
              "FluidLink v2 operation batch decision execution state and opcode disagree.")
          return { opcode, decision } : PayloadReader BatchEntry)
      (fun e => e.opcode = opcode ∧ e.Valid ∧ data = e.decision.bytes) fun _ => [] := by
    intro opcode data
    cases hdecode : decodeRuntimeDecisionPayload data with
    | error e =>
        refine (Exact.fail _).congr (fun entry => iff_of_false id ?_) fun _ _ => rfl
        rintro ⟨-, hvalid, rfl⟩
        rw [decodeRuntimeDecisionPayload_iff.mpr ⟨hvalid.decision, rfl⟩] at hdecode
        cases hdecode
    | ok decision =>
        obtain ⟨hvalid, rfl⟩ := decodeRuntimeDecisionPayload_iff.mp hdecode
        refine (Exact.guard fun _ => Exact.guard fun _ => Exact.pure _).congr (fun entry => ?_)
          fun _ _ => rfl
        constructor
        · rintro ⟨hopcode, hexecuted, rfl⟩
          exact ⟨rfl, ⟨hopcode, hvalid, hexecuted⟩, rfl⟩
        · rintro ⟨rfl, hentry, hbytes⟩
          have hagain := decodeRuntimeDecisionPayload_iff.mpr ⟨hentry.decision, hbytes⟩
          rw [hdecode] at hagain
          obtain ⟨opcode, other⟩ := entry
          cases hagain
          exact ⟨hentry.opcode, hentry.executed, rfl⟩
  refine (Exact.bind BatchEntry.opcode (integer_exact 1) (fun opcode _ =>
    Exact.bind (fun e => e.decision.bytes) (take_exact 17) (fun data _ => hdecision opcode data)
      ?_) ?_).congr (fun e => ?_) fun e _ => ?_
  · exact fun _ _ _ h => h.2.2.symm
  · exact fun _ _ _ h => h.2.1
  · constructor
    · exact fun h => h.2.2.2.1
    · intro hvalid
      have hopcode := hvalid.opcode
      exact ⟨by omega, e.decision.bytes_length, rfl, hvalid, rfl⟩
  · simp only [BatchEntry.bytes, id, List.append_nil]

section

variable (py : Interpreter)

/-- What is written of an entry. -/
def PyDict.encodeEntry (compact : PyDict) : Except PyException Bytes := do
  let opcode ← validateBatchDecision (compact.get "decision_opcode") compact
  let first ← PyWriter.u8 opcode
  let decision ← compact.encodeDecision py
  let rest ← PyWriter.raw (.bytes decision) 17
  return first ++ rest

/-- `_batch_decision`, and what is written of it. -/
def encodeBatchEntry (value : PyValue) : Except PyException Bytes :=
  match value with
  | .dict compact => PyDict.encodeEntry py compact
  | _ => refusal "FluidLink v2 operation batch decision entry must be an object."

/-- The items of a list or a tuple. -/
def PyValue.items? : PyValue → Option (List PyValue)
  | .list items | .tuple items => some items
  | _ => Option.none

/-- `encode_operation_batch_decision_payload`, once the argument is known to be a
dictionary. -/
def PyDict.encodeDecisions (d : PyDict) : Except PyException Bytes := do
  let batchId ← batchIdBytes (d.get "batch_id")
  match (d.get "decisions").items? with
  | none => refusal "FluidLink v2 operation batch decisions must be a list."
  | some decisions => do
    let _ ← batchCount (.int decisions.length)
    let identity ← PyWriter.raw (.bytes batchId) 16
    let count ← PyWriter.u16 decisions.length
    let entries ← PyWriter.each (encodeBatchEntry py) decisions
    PyWriter.finish (identity ++ count ++ entries)

/-- `encode_operation_batch_decision_payload`, of any value. -/
def PyValue.encodeBatchDecision (payload : PyValue) : Except PyException Bytes :=
  match payload with
  | .dict d => PyDict.encodeDecisions py d
  | _ => refusal "FluidLink v2 operation batch decision must be an object."

/-- The value is the dictionary of an entry. -/
def BatchEntry.Means (value : PyValue) (e : BatchEntry) : Prop :=
  ∃ compact : PyDict, value = .dict compact ∧ compact.get "decision_opcode" = .int e.opcode ∧
    compact.get "executed" = .bool (decide (e.opcode = 0)) ∧ compact.Decides py e.decision

/-- What the flags say is what the dictionary says. -/
theorem PyDict.Decides.executed {py : Interpreter} {compact : PyDict} {decision : DecodedDecision}
    (h : compact.Decides py decision) {executed : Bool}
    (hexecuted : compact.get "executed" = .bool executed) : decision.executed = some executed := by
  have hflags := h.flags
  rw [decisionFlags_eq, hexecuted] at hflags
  obtain ⟨accepted, _, _, _, _, other⟩ := decision
  generalize (compact.get "accepted").isTrue = bit at hflags
  cases bit <;> cases executed <;> cases accepted <;> rcases other with _ | _ | _ <;>
    simp [PyValue.isTrue, PyValue.isNone, DecodedDecision.flags] at hflags ⊢

variable {py}

/-- An entry is written exactly where the value means a valid one, and then as its bytes. -/
theorem encodeBatchEntry_iff {value : PyValue} {data : Bytes} :
    encodeBatchEntry py value = .ok data ↔ ∃ e : BatchEntry, e.Valid ∧ BatchEntry.Means py value e ∧
      data = e.bytes := by
  cases value with
  | dict compact =>
      unfold encodeBatchEntry PyDict.encodeEntry PyWriter.u8
      simp only [bound_iff, validateBatchDecision_iff, PyWriter.integer_iff,
        PyDict.encodeDecision_iff, PyWriter.raw_iff]
      constructor
      · rintro ⟨opcode, ⟨hopcode, hle, hexecuted⟩, _, ⟨-, rfl⟩, _, ⟨decision, hvalid, hdecides, rfl⟩,
          _, ⟨hsame, -⟩, h⟩
        cases hsame
        cases h
        exact ⟨⟨opcode, decision⟩, ⟨hle, hvalid, hdecides.executed hexecuted⟩,
          ⟨compact, rfl, hopcode, hexecuted, hdecides⟩, rfl⟩
      · rintro ⟨e, hvalid, ⟨_, hsame, hopcode, hexecuted, hdecides⟩, rfl⟩
        cases hsame
        have hle := hvalid.opcode
        exact ⟨e.opcode, ⟨hopcode, hle, hexecuted⟩, _, ⟨by omega, rfl⟩, _,
          ⟨e.decision, hvalid.decision, hdecides, rfl⟩, _, ⟨rfl, e.decision.bytes_length⟩, rfl⟩
  | _ =>
      refine iff_of_false (fun h => nomatch h) ?_
      rintro ⟨e, -, ⟨compact, h, -⟩, -⟩
      cases h

/-- The dictionary of an entry is the value of the entry. -/
theorem BatchEntry.dict_means {e : BatchEntry} (h : e.Valid) : Means py (.dict e.dict) e := by
  have hexecuted := h.executed
  have hdecision : e.decision.dict.Decides py e.decision := DecodedDecision.dict_decides h.decision
  refine ⟨e.dict, rfl, rfl, ?_, hdecision.flags, hdecision.us, hdecision.bytes⟩
  unfold dict DecodedDecision.dict
  rw [hexecuted]
  simp [PyDict.get, List.lookup_cons]

end

/-- The decisions on the items of a batch. -/
structure WireDecisions where
  batchId : Bytes
  decisions : List BatchEntry

namespace WireDecisions

/-- The decisions that are on the wire. -/
structure Valid (w : WireDecisions) : Prop where
  batchId : BatchId w.batchId
  count : 1 ≤ w.decisions.length ∧ w.decisions.length ≤ 256
  decisions : ∀ e ∈ w.decisions, e.Valid

/-- The identity, the count in two bytes, then the entries in their order. -/
def bytes (w : WireDecisions) : Bytes :=
  w.batchId ++ integerBytes 2 w.decisions.length ++ (w.decisions.map BatchEntry.bytes).flatten

/-- The dictionary that is returned for the decisions. -/
def dict (w : WireDecisions) : PyDict :=
  [("batch_id", ofText (hexText w.batchId)),
    ("decisions", .list (w.decisions.map fun e => .dict e.dict))]

/-- 256 entries of 18 bytes stay below the limit of a payload, so the writer's last check
never fails. -/
theorem Valid.length_le {w : WireDecisions} (h : w.Valid) :
    w.bytes.length ≤ Native.maxPayload := by
  have hid := h.batchId.1
  have hcount := h.count
  have hentries : (w.decisions.map BatchEntry.bytes).flatten.length = 18 * w.decisions.length := by
    induction w.decisions with
    | nil => rfl
    | cons e entries ih =>
        rw [List.map_cons, List.flatten_cons, List.length_append, ih, BatchEntry.bytes,
          List.length_append, integerBytes_length, DecodedDecision.bytes_length, List.length_cons]
        omega
  simp only [bytes, List.length_append, integerBytes_length, hentries, Native.maxPayload]
  omega

end WireDecisions

/-- The identity and the count are checked before the entries are read. -/
def readBatchDecision : PayloadReader WireDecisions := do
  let batchId ← take 16
  require (anyByte batchId = true)
    (invalidPayload "FluidLink v2 batch_id must contain 16 nonzero-identity bytes.")
  let decisionCount ← u16
  require (1 ≤ decisionCount ∧ decisionCount ≤ 256)
    (invalidPayload "FluidLink v2 operation batch count must be between 1 and 256.")
  let decisions ← each (fun _ => readBatchEntry) (List.range decisionCount)
  return { batchId, decisions }

/-- Reading the decisions of a batch accepts the bytes of the valid ones and no others; the
entries are exact one by one. -/
theorem readBatchDecision_exact :
    Exact readBatchDecision WireDecisions.Valid WireDecisions.bytes := by
  refine (Exact.bind WireDecisions.batchId (take_exact 16) (fun _ _ => Exact.guard fun _ =>
    Exact.bind (fun w => w.decisions.length) (integer_exact 2) (fun count _ => Exact.guard fun _ =>
    Exact.bind WireDecisions.decisions (Exact.replicate readBatchEntry_exact count)
      (fun _ _ => Exact.pure _)
    ?_) ?_) ?_).congr (fun w => ?_) fun w _ => ?_
  · exact fun _ _ _ h => congrArg WireDecisions.decisions h
  · exact fun _ _ _ h => h.2.1.1
  · exact fun _ _ _ h => congrArg WireDecisions.batchId h.2.2.2.2
  · constructor
    · rintro ⟨hlength, hany, -, hcount, ⟨-, hentries⟩, -⟩
      exact ⟨⟨hlength, hany⟩, hcount, hentries⟩
    · rintro ⟨⟨hlength, hany⟩, hcount, hentries⟩
      exact ⟨hlength, hany, by omega, hcount, ⟨rfl, hentries⟩, rfl⟩
  · simp only [WireDecisions.bytes, id, List.append_assoc, List.append_nil]

/-- `decode_operation_batch_decision_payload`. -/
def decodeBatchDecision (payload : Bytes) : Except FluidLinkProtocolError PyDict :=
  (readBatchDecision.run payload).map WireDecisions.dict

/-- The decoder returns exactly the dictionaries of valid batches of decisions, each from
its own bytes. -/
theorem decodeBatchDecision_iff {payload : Bytes} {d : PyDict} :
    decodeBatchDecision payload = .ok d ↔ ∃ w : WireDecisions, w.Valid ∧ d = w.dict ∧
      payload = w.bytes := by
  unfold decodeBatchDecision
  constructor
  · intro h
    cases hread : readBatchDecision.run payload with
    | error e =>
        rw [hread] at h
        cases h
    | ok w =>
        rw [hread] at h
        cases h
        obtain ⟨hvalid, hpayload⟩ := (run_exact readBatchDecision_exact).mp hread
        exact ⟨w, hvalid, rfl, hpayload⟩
  · rintro ⟨w, hvalid, rfl, hpayload⟩
    rw [(run_exact readBatchDecision_exact).mpr ⟨hvalid, hpayload⟩]
    rfl

section

variable {py : Interpreter}

/-- The value is the dictionary of decisions on a batch. -/
def WireDecisions.Means (py : Interpreter) (value : PyValue) (w : WireDecisions) : Prop :=
  ∃ (d : PyDict) (items : List PyValue), value = .dict d ∧
    batchIdBytes (d.get "batch_id") = .ok w.batchId ∧ (d.get "decisions").items? = some items ∧
      List.Forall₂ (BatchEntry.Means py) items w.decisions

/-- The encoder succeeds exactly where the value means a valid batch of decisions, and then
writes its bytes. -/
theorem encodeBatchDecision_iff {value : PyValue} {payload : Bytes} :
    value.encodeBatchDecision py = .ok payload ↔ ∃ w : WireDecisions, w.Valid ∧
      w.Means py value ∧ payload = w.bytes := by
  cases value with
  | dict d =>
      unfold PyValue.encodeBatchDecision PyDict.encodeDecisions PyWriter.u16
      rw [bound_iff]
      constructor
      · rintro ⟨batchId, hid, h⟩
        cases hitems : PyValue.items? (PyDict.get d "decisions") with
        | none =>
            rw [hitems] at h
            cases h
        | some items =>
            rw [hitems] at h
            simp only [bound_iff, batchCount_iff, PyWriter.raw_iff, PyWriter.integer_iff,
              PyWriter.each_iff encodeBatchEntry_iff, PyWriter.finish_iff] at h
            obtain ⟨n, ⟨hn, hcount⟩, _, ⟨hsame, -⟩, _, ⟨-, rfl⟩, _, ⟨entries, hentries, hvalid, rfl⟩,
              -, rfl⟩ := h
            cases hsame
            rw [PyValue.int.injEq, Int.natCast_inj] at hn
            subst hn
            have hlength := hentries.length_eq
            refine ⟨⟨batchId, entries⟩, ⟨batchId_of_ok hid, ?_, hvalid⟩,
              ⟨d, items, rfl, hid, hitems, hentries⟩, ?_⟩
            · rwa [hlength] at hcount
            · simp only [WireDecisions.bytes, hlength]
      · rintro ⟨w, hvalid, ⟨_, items, hsame, hid, hitems, hentries⟩, rfl⟩
        cases hsame
        refine ⟨w.batchId, hid, ?_⟩
        rw [hitems]
        have hlength := hentries.length_eq
        have hcount := hvalid.count
        simp only [bound_iff, batchCount_iff, PyWriter.raw_iff, PyWriter.integer_iff,
          PyWriter.each_iff encodeBatchEntry_iff, PyWriter.finish_iff]
        refine ⟨items.length, ⟨rfl, by omega, by omega⟩, _, ⟨rfl, hvalid.batchId.1⟩, _,
          ⟨by omega, rfl⟩, _, ⟨w.decisions, hentries, hvalid.decisions, rfl⟩, ?_⟩
        rw [hlength]
        exact ⟨hvalid.length_le, rfl⟩
  | _ =>
      refine iff_of_false (fun h => nomatch h) ?_
      rintro ⟨w, -, ⟨d, items, h, -⟩, -⟩
      cases h

/-- The dictionary that the decoder returns means the decisions it was read from. -/
theorem WireDecisions.dict_means {w : WireDecisions} (h : w.Valid) :
    w.Means py (.dict w.dict) := by
  refine ⟨w.dict, w.decisions.map fun e => .dict e.dict, rfl, batchIdBytes_hexText h.batchId, rfl,
    ?_⟩
  rw [List.forall₂_map_left_iff, List.forall₂_same]
  exact fun e he => BatchEntry.dict_means (h.decisions e he)

/-- The two codecs of a batch's decisions undo each other, for any reading of texts as
numbers. -/
theorem batchDecision_inverse :
    Inverse (PyValue.encodeBatchDecision py) decodeBatchDecision PyValue.dict :=
  Inverse.of_format (fun _ _ => decodeBatchDecision_iff) (fun _ _ => encodeBatchDecision_iff)
    fun _ h => WireDecisions.dict_means h

end

end FluidGateway.FluidLink
