import FluidGateway.ExchangeStatus

/-!
# The socket server and the library

The loop of one connection of `native/src/server.cpp`, on the bytes that have
arrived, next to a caller of the C interface who sends the same frames one by
one.  They are the same gateway (`server_matches`) as long as no counter of the
metrics overflows, which only the library keeps.

Clocks are left out: nothing times out and nobody disconnects, so a connection
that has not received all of a frame waits.
-/

namespace FluidGateway.Native

/-! ## The server -/

/-- A connection of the server: its session, whether its first frame is still to come, and
the bytes that have arrived. -/
structure Connection where
  session : ProtocolSession
  first : Bool := true
  incoming : Bytes

/-- What a turn of the loop comes to: more bytes are needed, the connection is closed, or a
frame is answered. -/
inductive Turn where
  | waiting
  | ended
  | answered (data : Bytes) (c : Connection)

/-- Take what has arrived, once all of it has. -/
def receive (count : Nat) (incoming : Bytes) : Option (Bytes × Bytes) :=
  if incoming.length < count then none else some (incoming.take count, incoming.drop count)

/-- One turn of the loop of `serve`.  The version is looked at before the rest
of the first header has arrived, and a size before the payload. -/
def Connection.turn (m : Memory) (c : Connection) : Turn :=
  if c.session.closed then .ended
  else
    let leading := if c.first then 5 else 1
    match receive leading c.incoming with
    | none => .waiting
    | some (front, incoming) =>
      if c.first ∧ front ≠ literal "FLNK" ++ [2] then .ended
      else
        match receive (headerSize - leading) incoming with
        | none => .waiting
        | some (header, incoming) =>
          match payloadSize (front ++ header) with
          | .error _ => .ended
          | .ok size =>
            match receive size incoming with
            | none => .waiting
            | some (payload, incoming) =>
              match decodeFrame (front ++ header ++ payload) with
              | .error _ => .ended
              | .ok frame =>
                let (response, session) := c.session.process m frame
                match encodeFrame response with
                | .error _ => .ended
                | .ok data => .answered data { session, first := false, incoming }

/-- What is received is the front of what arrived, of the length that was asked for. -/
theorem receive_some {count : Nat} {incoming front rest : Bytes}
    (h : receive count incoming = some (front, rest)) :
    incoming = front ++ rest ∧ front.length = count := by
  unfold receive at h
  split_ifs at h with hlength
  cases h
  refine ⟨(List.take_append_drop count incoming).symm, ?_⟩
  rw [List.length_take]
  omega

/-- What an answered turn does: a frame is taken from the front of what arrived, processed,
and its response is written. -/
theorem Connection.turn_answered {m : Memory} {c c' : Connection} {data : Bytes}
    (h : c.turn m = .answered data c') :
    ∃ (bytes : Bytes) (frame : Frame), bytes ≠ [] ∧ c.incoming = bytes ++ c'.incoming ∧
      decodeFrame bytes = .ok frame ∧
      encodeFrame (c.session.process m frame).1 = .ok data ∧
      c'.session = (c.session.process m frame).2 := by
  unfold turn at h
  split at h
  · cases h
  dsimp only at h
  split at h
  · cases h
  next front incoming hfront =>
  split at h
  · cases h
  split at h
  · cases h
  next header incoming' hheader =>
  split at h
  · cases h
  next size hsize =>
  split at h
  · cases h
  next payload incoming'' hpayload =>
  split at h
  · cases h
  next frame hframe =>
  split at h
  · cases h
  next hencode =>
  cases h
  obtain ⟨hfront, hlength⟩ := receive_some hfront
  have hpos : 0 < front.length := by
    rw [hlength]
    split <;> decide
  refine ⟨front ++ header ++ payload, frame, ?_, ?_, hframe, hencode, rfl⟩
  · intro hnil
    rw [List.append_eq_nil_iff, List.append_eq_nil_iff] at hnil
    rw [hnil.1.1] at hpos
    exact absurd hpos (Nat.lt_irrefl 0)
  · rw [hfront, (receive_some hheader).1, (receive_some hpayload).1, List.append_assoc,
      List.append_assoc]

/-- A frame that is answered has been taken from what arrived, so the loop comes to an end. -/
theorem Connection.turn_shorter {m : Memory} {c c' : Connection} {data : Bytes}
    (h : c.turn m = .answered data c') : c'.incoming.length < c.incoming.length := by
  obtain ⟨bytes, frame, hbytes, hincoming, -⟩ := turn_answered h
  rw [hincoming, List.length_append]
  exact Nat.lt_add_of_pos_left (List.length_pos_iff.mpr hbytes)

/-- The loop: the frames that it writes, and whether the connection has ended.
`memory` is granted to one request after the other. -/
def Connection.serve (memory : Nat → Memory) (c : Connection) : List Bytes × Bool :=
  match _h : c.turn (memory 0) with
  | .waiting => ([], false)
  | .ended => ([], true)
  | .answered data c' =>
    let (written, ended) := c'.serve fun k => memory (k + 1)
    (data :: written, ended)
termination_by c.incoming.length
decreasing_by exact turn_shorter _h

/-- A connection that waits has sent nothing more and stays open. -/
theorem Connection.serve_waiting {memory : Nat → Memory} {c : Connection}
    (h : c.turn (memory 0) = .waiting) : c.serve memory = ([], false) := by
  rw [serve]
  split
  · rfl
  · next h' => cases h'.symm.trans h
  · next h' => cases h'.symm.trans h

/-- A connection that ends has sent nothing more and is closed. -/
theorem Connection.serve_ended {memory : Nat → Memory} {c : Connection}
    (h : c.turn (memory 0) = .ended) : c.serve memory = ([], true) := by
  rw [serve]
  split
  · next h' => cases h'.symm.trans h
  · rfl
  · next h' => cases h'.symm.trans h

/-- A turn that answers is followed by the turns on what it has left, each with the memory
of its own turn. -/
theorem Connection.serve_answered {memory : Nat → Memory} {c c' : Connection} {data : Bytes}
    (h : c.turn (memory 0) = .answered data c') :
    c.serve memory = (data :: (c'.serve fun k => memory (k + 1)).1,
      (c'.serve fun k => memory (k + 1)).2) := by
  rw [serve]
  split
  · next h' => cases h'.symm.trans h
  · next h' => cases h'.symm.trans h
  · next h' =>
      cases h'.symm.trans h
      rfl

/-! ## The library -/

/-- `fgn_session_exchange` of the only caller of a session. -/
def Session.request (s : Session) (call : ExchangeCall) : Exchanged × Session :=
  match call.refusal with
  | some answer => (answer, s)
  | none => s.exchange call

/-- One exchange after the other. -/
def Session.requests : Session → List ExchangeCall → List Exchanged × Session
  | s, [] => ([], s)
  | s, call :: calls =>
    let (answer, s) := s.request call
    let (answers, s) := s.requests calls
    (answer :: answers, s)

/-- Valid disjoint buffers of full capacity, and the memory of the request. -/
structure ExchangeCall.Ready (call : ExchangeCall) (m : Memory) : Prop where
  request : call.request.address ≠ 0
  output : call.output.address ≠ 0
  outputSize : call.outputSize ≠ 0
  capacity : maxFrameBytes ≤ call.output.size
  disjoint : overlaps call.request call.output = false
  request_disjoint : overlaps call.request ⟨call.outputSize, 4⟩ = false
  output_disjoint : overlaps call.output ⟨call.outputSize, 4⟩ = false
  surroundings : call.surroundings = { memory := m }

/-- A connection on which the requests of these calls have arrived, and no more. -/
def Connection.sent (session : ProtocolSession) (calls : List ExchangeCall)
    (first : Bool := true) : Connection where
  session := session
  first := first
  incoming := (calls.map (·.bytes)).flatten

/-- What several calls send arrives one call after the other. -/
theorem Connection.sent_cons (session : ProtocolSession) (call : ExchangeCall)
    (calls : List ExchangeCall) (first : Bool) : (sent session (call :: calls) first).incoming =
      call.bytes ++ (calls.map (·.bytes)).flatten := rfl

/-- A header and as many bytes as it declares. -/
def Complete (bytes : Bytes) : Prop :=
  headerSize ≤ bytes.length ∧
    bytes.length = headerSize + LittleEndian.decode ((bytes.take headerSize).drop 52)

/-- What the counters come to with one more exchange of these bytes. -/
def Metrics.plus (metrics : Metrics) (request response : Bytes) : Metrics where
  exchanges := metrics.exchanges + 1
  requestBytes := metrics.requestBytes + request.length
  responseBytes := metrics.responseBytes + response.length
  wirePayloadCopyBytes := metrics.wirePayloadCopyBytes +
    ((request.length - headerSize) + (response.length - headerSize))
  wirePayloadCopyCount := metrics.wirePayloadCopyCount +
    ((if request.length = headerSize then 0 else 1) +
      (if response.length = headerSize then 0 else 1))

/-- The counters of the exchanges of these requests and responses. -/
def Metrics.total (metrics : Metrics) (exchanged : List (Bytes × Bytes)) : Metrics :=
  exchanged.foldl (fun metrics pair => metrics.plus pair.1 pair.2) metrics

/-- No counter has overflown. -/
structure Metrics.Fits (metrics : Metrics) : Prop where
  exchanges : metrics.exchanges ≤ counterMax
  requestBytes : metrics.requestBytes ≤ counterMax
  responseBytes : metrics.responseBytes ≤ counterMax
  wirePayloadCopyBytes : metrics.wirePayloadCopyBytes ≤ counterMax
  wirePayloadCopyCount : metrics.wirePayloadCopyCount ≤ counterMax

/-- A call with its buffers in place and a whole frame to send is not refused before it is
looked at. -/
theorem ExchangeCall.Ready.refusal {call : ExchangeCall} {m : Memory} (h : call.Ready m)
    (hcomplete : Complete call.bytes) : call.refusal = none := by
  have hsize : call.request.size ≠ 0 := by
    rw [← call.bytes_length]
    have hlength := hcomplete.1
    unfold headerSize at hlength
    omega
  have hcapacity := h.capacity
  unfold ExchangeCall.refusal
  simp only [h.request, h.output, h.outputSize, hsize, h.disjoint, h.request_disjoint,
    h.output_disjoint, Bool.false_eq_true, or_self, if_false, Nat.not_lt.mpr hcapacity]

/-- The bytes of a frame are complete: the size in the header is the size of the payload. -/
theorem complete_frameBytes {f : Frame} (h : f.payload.length < 256 ^ 4) :
    Complete (frameBytes f) := by
  have hfront := f.front_length
  have hheader : (frameBytes f).take headerSize =
      f.front ++ LittleEndian.encode f.payload.length 4 := by
    rw [frameBytes_eq, ← List.append_assoc]
    apply List.take_left'
    rw [List.length_append, hfront, LittleEndian.encode_length]
    rfl
  unfold Complete
  rw [hheader, List.drop_left' hfront, LittleEndian.decode_encode h, frameBytes_length]
  exact ⟨Nat.le_add_right _ _, rfl⟩

/-! ## Counting -/

namespace Metrics

variable {m n : Metrics}

/-- A counter is added to without an error exactly where the sum fits; what follows decides
the rest. -/
theorem add_eq_none {counter : Metrics → Nat} {store : Metrics → Nat → Metrics} {value : Nat}
    {next : Metrics → Option Error × Metrics} (h : counter m ≤ counterMax) :
    add counter store value next m = (none, n) ↔
      counter m + value ≤ counterMax ∧ next (store m (counter m + value)) = (none, n) := by
  unfold add
  split_ifs with hover
  · constructor
    · intro h
      cases h
    · intro h
      omega
  · constructor
    · intro h
      exact ⟨by omega, h⟩
    · intro h
      exact h.2

/-- **Counting succeeds exactly when the counters fit.** -/
theorem count_eq_none {frame response : Frame} (hfits : m.Fits) :
    m.count (frameBytes frame).length frame response = (none, n) ↔
      n = m.plus (frameBytes frame) (frameBytes response) ∧ n.Fits := by
  have hpayload : ∀ f : Frame, headerSize + f.payload.length = headerSize ↔ f.payload = [] := by
    intro f
    rw [← List.length_eq_zero_iff]
    omega
  unfold count
  simp only [add_eq_none, hfits.exchanges, hfits.requestBytes, hfits.responseBytes,
    hfits.wirePayloadCopyBytes, hfits.wirePayloadCopyCount]
  have hplus : m.plus (frameBytes frame) (frameBytes response) =
      { exchanges := m.exchanges + 1
        requestBytes := m.requestBytes + (frameBytes frame).length
        responseBytes := m.responseBytes + (headerSize + response.payload.length)
        wirePayloadCopyBytes :=
          m.wirePayloadCopyBytes + (frame.payload.length + response.payload.length)
        wirePayloadCopyCount := m.wirePayloadCopyCount +
          ((if frame.payload = [] then 0 else 1) + (if response.payload = [] then 0 else 1)) } := by
    unfold plus
    simp only [hpayload, frameBytes_length, Nat.add_sub_cancel_left]
  rw [hplus]
  constructor
  · intro h
    obtain ⟨h₁, h₂, h₃, h₄, h₅, hn⟩ := h
    cases hn
    exact ⟨rfl, h₁, h₂, h₃, h₄, h₅⟩
  · intro h
    obtain ⟨rfl, hn⟩ := h
    exact ⟨hn.exchanges, hn.requestBytes, hn.responseBytes, hn.wirePayloadCopyBytes,
      hn.wirePayloadCopyCount, rfl⟩

/-- Counters that fit after an exchange did so before it, since they only grow. -/
theorem Fits.of_plus {request response : Bytes} (h : (m.plus request response).Fits) :
    m.Fits where
  exchanges := Nat.le_of_add_right_le h.exchanges
  requestBytes := Nat.le_of_add_right_le h.requestBytes
  responseBytes := Nat.le_of_add_right_le h.responseBytes
  wirePayloadCopyBytes := Nat.le_of_add_right_le h.wirePayloadCopyBytes
  wirePayloadCopyCount := Nat.le_of_add_right_le h.wirePayloadCopyCount

/-- What fits with more exchanges fits without them. -/
theorem Fits.of_total {exchanged : List (Bytes × Bytes)} (h : (m.total exchanged).Fits) :
    m.Fits := by
  induction exchanged generalizing m with
  | nil => exact h
  | cons pair rest ih => exact (ih h).of_plus

end Metrics

/-! ## One frame -/

/-- Every frame begins with the five bytes that the server checks on a new connection. -/
theorem frameBytes_take_five (f : Frame) : (frameBytes f).take 5 = literal "FLNK" ++ [2] := by
  have hmagic : (literal "FLNK").length = 4 := by decide
  rw [frameBytes_eq]
  unfold Frame.front
  simp only [List.append_assoc]
  rw [List.take_append, hmagic, List.take_of_length_le (by rw [hmagic]; omega)]
  rfl

/-- A frame is decoded only if it declares its own length. -/
theorem decodeFrame_error {bytes : Bytes} {e : Error}
    (h : payloadSize (bytes.take headerSize) = .error e) : ∃ e', decodeFrame bytes = .error e' := by
  unfold decodeFrame
  split_ifs
  · exact ⟨_, rfl⟩
  · exact ⟨e, by rw [h]; rfl⟩

/-- **One turn on a complete frame** does what the library does with it. -/
theorem Connection.turn_complete {m : Memory} {c : Connection} {bytes rest : Bytes}
    (hcomplete : Complete bytes) (hincoming : c.incoming = bytes ++ rest)
    (hopen : c.session.closed = false) :
    c.turn m = match decodeFrame bytes with
      | .error _ => .ended
      | .ok frame =>
        match encodeFrame (c.session.process m frame).1 with
        | .error _ => .ended
        | .ok data => .answered data
            { session := (c.session.process m frame).2, first := false, incoming := rest } := by
  obtain ⟨hheader, hdeclared⟩ := hcomplete
  obtain ⟨leading, hleading⟩ : ∃ n, n = if c.first then 5 else 1 := ⟨_, rfl⟩
  have hle : leading ≤ headerSize := by
    rw [hleading]
    split <;> decide
  have hfront : receive leading c.incoming =
      some (bytes.take leading, bytes.drop leading ++ rest) := by
    unfold receive
    rw [hincoming, if_neg (by rw [List.length_append]; omega),
      List.take_append_of_le_length (by omega), List.drop_append_of_le_length (by omega)]
  have hrest : receive (headerSize - leading) (bytes.drop leading ++ rest) =
      some ((bytes.take headerSize).drop leading, bytes.drop headerSize ++ rest) := by
    have hlength : headerSize - leading ≤ (bytes.drop leading).length := by
      rw [List.length_drop]
      omega
    unfold receive
    rw [if_neg (by rw [List.length_append]; omega), List.take_append_of_le_length hlength,
      List.drop_append_of_le_length hlength, List.drop_drop, ← List.drop_take,
      Nat.add_sub_cancel' hle]
  have hwhole : bytes.take leading ++ (bytes.take headerSize).drop leading =
      bytes.take headerSize := by
    have htake := List.take_append_drop leading (bytes.take headerSize)
    rwa [List.take_take, Nat.min_eq_left hle] at htake
  unfold turn
  rw [if_neg (by rw [hopen]; exact Bool.false_ne_true)]
  simp only [← hleading, hfront, hrest, hwhole]
  split_ifs with hmagic
  · -- the wrong version, seen at once or in the decoder
    cases hdecode : decodeFrame bytes with
    | error e => rfl
    | ok frame =>
        exfalso
        rw [if_pos hmagic.1] at hleading
        apply hmagic.2
        rw [hleading, (decodeFrame_eq_ok.mp hdecode).2, frameBytes_take_five]
  cases hsize : payloadSize (bytes.take headerSize) with
  | error e =>
      obtain ⟨e', hdecode⟩ := decodeFrame_error hsize
      rw [hdecode]
  | ok size =>
      have hpayload : size = (bytes.drop headerSize).length := by
        obtain ⟨_, hlimit, hencode⟩ := payloadSize_eq_ok.mp hsize
        have hlt : size < 256 ^ 4 := Nat.lt_of_le_of_lt hlimit (by decide)
        rw [hencode, LittleEndian.decode_encode hlt] at hdeclared
        rw [List.length_drop]
        omega
      have hreceive : receive size (bytes.drop headerSize ++ rest) =
          some (bytes.drop headerSize, rest) := by
        unfold receive
        rw [if_neg (by rw [List.length_append]; omega), hpayload, List.take_left, List.drop_left]
      simp only [hreceive, List.take_append_drop]

/-- An exchange counts what a turn of the server writes. -/
theorem Session.request_open {s : Session} {call : ExchangeCall} {m : Memory}
    (hready : call.Ready m) (hcomplete : Complete call.bytes) (hopen : s.protocol.closed = false)
    {frame : Frame} (hdecode : decodeFrame call.bytes = .ok frame) {data : Bytes}
    (hencode : encodeFrame (s.protocol.process m frame).1 = .ok data) (hfits : s.metrics.Fits)
    (hplus : (s.metrics.plus call.bytes data).Fits) :
    s.request call = ({ status := .ok, outputSize := some data.length, output := some data },
      { protocol := (s.protocol.process m frame).2
        metrics := s.metrics.plus call.bytes data }) := by
  have hbytes := (decodeFrame_eq_ok.mp hdecode).2
  have hinto : encodeFrameInto (s.protocol.process m frame).1 call.output.size = .ok data := by
    have hlimit := (encodeFrame_eq_ok.mp hencode).1
    have hcapacity := hready.capacity
    have hmax : maxFrameBytes = headerSize + maxPayload := by decide
    rw [(encodeFrame_eq_ok.mp hencode).2]
    unfold encodeFrameInto
    rw [if_neg (by omega), if_neg (by omega)]
  have hcount : s.metrics.count call.request.size frame (s.protocol.process m frame).1 =
      (none, s.metrics.plus call.bytes data) := by
    rw [hbytes, (encodeFrame_eq_ok.mp hencode).2] at hplus
    rw [← call.bytes_length, hbytes, (encodeFrame_eq_ok.mp hencode).2]
    exact (Metrics.count_eq_none hfits).mpr ⟨rfl, hplus⟩
  have hprocess : s.protocol.processOrThrow call.surroundings frame =
      (.ok (s.protocol.process m frame).1, (s.protocol.process m frame).2) := by
    rw [hready.surroundings]
    rfl
  have hdecoding : call.surroundings.decoding = none := by rw [hready.surroundings]
  unfold request
  rw [hready.refusal hcomplete]
  simp only [exchange, hopen, Bool.false_eq_true, if_false, hdecode, hdecoding, hprocess, hcount,
    hinto]

/-- A request to a closed session is refused and changes nothing. -/
theorem Session.request_closed {s : Session} {call : ExchangeCall} {m : Memory}
    (hready : call.Ready m) (hcomplete : Complete call.bytes) (hclosed : s.protocol.closed = true) :
    s.request call = ({ status := .sessionClosed }, s) := by
  unfold request exchange
  rw [hready.refusal hcomplete]
  exact if_pos hclosed

/-- An exchange that a turn of the server does not answer retires its session. -/
theorem Session.request_refused {s : Session} {call : ExchangeCall} {m : Memory}
    (hready : call.Ready m) (hcomplete : Complete call.bytes)
    (hrefused : (∃ e, decodeFrame call.bytes = .error e) ∨
      ∃ frame e, decodeFrame call.bytes = .ok frame ∧
        encodeFrame (s.protocol.process m frame).1 = .error e) :
    (s.request call).1.output = none ∧ (s.request call).2.protocol.closed = true := by
  have hspec := s.exchange_spec call
  have hrequest : s.request call = s.exchange call := by
    unfold request
    rw [hready.refusal hcomplete]
  rw [← hrequest] at hspec
  generalize s.request call = result at hspec
  obtain ⟨answer, t⟩ := result
  cases hspec with
  | closed hclosed => exact ⟨rfl, hclosed⟩
  | broken _ hclosed => exact ⟨rfl, hclosed⟩
  | @answered frame response protocol data _ hdecode hprocess hdata =>
      exfalso
      rcases hrefused with ⟨e, herror⟩ | ⟨frame', e, hframe, herror⟩
      · cases herror.symm.trans hdecode
      · cases hframe.symm.trans hdecode
        rw [hready.surroundings] at hprocess
        change s.protocol.process m frame = _ at hprocess
        have hlimit : response.payload.length ≤ maxPayload := by
          unfold encodeFrameInto at hdata
          split_ifs at hdata with hlimit
          omega
        rw [hprocess, encodeFrame_eq_ok.mpr ⟨hlimit, rfl⟩] at herror
        cases herror

/-! ## The same gateway -/

/-- Requests are made one after the other, each to the session that the last one left. -/
theorem Session.requests_cons (s : Session) (call : ExchangeCall) (calls : List ExchangeCall) :
    s.requests (call :: calls) = ((s.request call).1 :: ((s.request call).2.requests calls).1,
      ((s.request call).2.requests calls).2) := rfl

/-- Every request of a list finds valid buffers and holds a complete frame. -/
def Sendable (memory : Nat → Memory) (calls : List ExchangeCall) : Prop :=
  ∀ k (call : ExchangeCall), calls[k]? = some call → call.Ready (memory k) ∧ Complete call.bytes

/-- The first of some sendable calls is ready in the memory of its own turn. -/
theorem Sendable.head {memory : Nat → Memory} {call : ExchangeCall} {calls : List ExchangeCall}
    (h : Sendable memory (call :: calls)) : call.Ready (memory 0) ∧ Complete call.bytes :=
  h 0 call rfl

/-- What follows a sendable call is sendable in the memory of the later turns. -/
theorem Sendable.tail {memory : Nat → Memory} {call : ExchangeCall} {calls : List ExchangeCall}
    (h : Sendable memory (call :: calls)) : Sendable (fun k => memory (k + 1)) calls :=
  fun k => h (k + 1)

/-- The first few of some sendable calls are sendable. -/
theorem Sendable.take {memory : Nat → Memory} {calls : List ExchangeCall}
    (h : Sendable memory calls) (n : Nat) : Sendable memory (calls.take n) := by
  intro k call hk
  rw [List.getElem?_take] at hk
  split_ifs at hk
  exact h k call hk

/-- Nothing is answered any more by a closed session. -/
theorem Session.requests_closed {s : Session} {calls : List ExchangeCall} {memory : Nat → Memory}
    (h : Sendable memory calls) (hclosed : s.protocol.closed = true) :
    (s.requests calls).1.filterMap (·.output) = [] ∧ (s.requests calls).2 = s := by
  induction calls generalizing memory with
  | nil => exact ⟨rfl, rfl⟩
  | cons call calls ih =>
      rw [requests_cons, request_closed h.head.1 h.head.2 hclosed]
      exact ih h.tail

/-- The responses of a caller's exchanges, and whether the session is closed. -/
def Session.answers (s : Session) (calls : List ExchangeCall) : List Bytes × Bool :=
  ((s.requests calls).1.filterMap (·.output), (s.requests calls).2.protocol.closed)

/-- A connection on which nothing has arrived waits, or has ended if its session is closed. -/
theorem Connection.serve_nothing (session : ProtocolSession) (first : Bool)
    (memory : Nat → Memory) : (sent session [] first).serve memory = ([], session.closed) := by
  cases hclosed : session.closed with
  | true =>
      apply serve_ended
      unfold turn
      exact if_pos hclosed
  | false =>
      have hwaiting : (sent session [] first).turn (memory 0) = .waiting := by
        have hreceive : receive (if first then 5 else 1) [] = none := by
          cases first <;> rfl
        unfold turn
        rw [if_neg (by rw [sent, hclosed]; exact Bool.false_ne_true)]
        simp only [sent, List.map_nil, List.flatten_nil, hreceive]
      exact serve_waiting hwaiting

/-- What becomes of a frame, on either way. -/
inductive Session.Met (s : Session) (call : ExchangeCall) (m : Memory) (first : Bool) : Prop
  | ended (hturn : ∀ rest, (Connection.sent s.protocol (call :: rest) first).turn m = .ended)
      (hsilent : (s.request call).1.output = none)
      (hclosed : (s.request call).2.protocol.closed = true)
  | answered (data : Bytes) (protocol : ProtocolSession)
      (hturn : ∀ rest, (Connection.sent s.protocol (call :: rest) first).turn m =
        .answered data (.sent protocol rest false))
      (hrequest : s.metrics.Fits → (s.metrics.plus call.bytes data).Fits →
        s.request call = ({ status := .ok, outputSize := some data.length, output := some data },
          { protocol, metrics := s.metrics.plus call.bytes data }))

/-- One ready call meets the server: either both sides answer it with the same bytes, or
neither answers. The cases follow what `core.cpp` checks before the frame is processed. -/
theorem Session.met (s : Session) {call : ExchangeCall} {m : Memory} (first : Bool)
    (hready : call.Ready m) (hcomplete : Complete call.bytes) : s.Met call m first := by
  cases hclosed : s.protocol.closed with
  | true =>
      have hrequest := s.request_closed hready hcomplete hclosed
      refine .ended (fun rest => ?_) (by rw [hrequest]) (by rw [hrequest]; exact hclosed)
      unfold Connection.turn
      exact if_pos hclosed
  | false =>
      have hturn : ∀ rest : List ExchangeCall,
          (Connection.sent s.protocol (call :: rest) first).turn m = _ := fun rest =>
        Connection.turn_complete hcomplete (Connection.sent_cons _ _ _ _) hclosed
      cases hdecode : decodeFrame call.bytes with
      | error e =>
          obtain ⟨hsilent, hretired⟩ := s.request_refused hready hcomplete (.inl ⟨e, hdecode⟩)
          refine .ended (fun rest => ?_) hsilent hretired
          rw [hturn, hdecode]
      | ok frame =>
          cases hencode : encodeFrame (s.protocol.process m frame).1 with
          | error e =>
              obtain ⟨hsilent, hretired⟩ :=
                s.request_refused hready hcomplete (.inr ⟨frame, e, hdecode, hencode⟩)
              refine .ended (fun rest => ?_) hsilent hretired
              rw [hturn, hdecode]
              simp only [Connection.sent, hencode]
          | ok data =>
              refine .answered data (s.protocol.process m frame).2 (fun rest => ?_)
                (s.request_open hready hcomplete hclosed hdecode hencode)
              rw [hturn, hdecode]
              simp only [Connection.sent, hencode]

/-- **The server and the library do the same** from any session on. -/
theorem Session.serve_matches {s : Session} {calls : List ExchangeCall} {memory : Nat → Memory}
    {first : Bool} (h : Sendable memory calls)
    (hcounters : (s.metrics.total ((calls.map (·.bytes)).zip
      ((Connection.sent s.protocol calls first).serve memory).1)).Fits) (k : Nat) :
    (Connection.sent s.protocol (calls.take k) first).serve memory =
      s.answers (calls.take k) := by
  induction calls generalizing s memory first k with
  | nil =>
      rw [List.take_nil, Connection.serve_nothing]
      rfl
  | cons call calls ih =>
      cases k with
      | zero =>
          rw [List.take_zero, Connection.serve_nothing]
          rfl
      | succ k =>
          rw [List.take_succ_cons]
          cases s.met first h.head.1 h.head.2 with
          | ended hturn hsilent hclosed =>
              obtain ⟨hnothing, hsame⟩ := requests_closed (h.tail.take k) hclosed
              rw [Connection.serve_ended (hturn _)]
              unfold answers
              rw [requests_cons, List.filterMap_cons_none hsilent, hnothing, hsame, hclosed]
          | answered data protocol hturn hrequest =>
              rw [Connection.serve_answered (hturn calls), List.map_cons,
                List.zip_cons_cons] at hcounters
              have hplus : (s.metrics.plus call.bytes data).Fits :=
                Metrics.Fits.of_total hcounters
              have hfits : s.metrics.Fits := hplus.of_plus
              have hrest := ih (s := { protocol, metrics := s.metrics.plus call.bytes data })
                h.tail hcounters k
              rw [Connection.serve_answered (hturn _), hrest]
              unfold answers
              rw [requests_cons, hrequest hfits hplus]
              rfl

/-- **The library and the server are the same gateway** for frames whose
counters fit, after every number of frames. -/
theorem server_matches (identity : Identity) {calls : List ExchangeCall}
    {memory : Nat → Memory} (h : Sendable memory calls)
    (hcounters : (Metrics.total {} ((calls.map (·.bytes)).zip
      ((Connection.sent (.fresh identity) calls).serve memory).1)).Fits) (k : Nat) :
    (Connection.sent (.fresh identity) (calls.take k)).serve memory =
      Session.answers { protocol := .fresh identity } (calls.take k) :=
  Session.serve_matches (s := { protocol := .fresh identity }) h hcounters k

/-! ### A request out of turn, again and again -/

/-- A frame with an opcode that is answered by an error, sent before any hello. -/
def lateFrame : Frame where
  opcode := 20
  sequence := 2
  message := Vector.replicate 16 1

/-- The call that sends it, with a buffer that takes every answer. -/
def lateCall : ExchangeCall where
  handle := 257
  request := ⟨0x1000, 56⟩
  bytes := frameBytes lateFrame
  output := ⟨0x2000, maxFrameBytes⟩
  outputSize := 0x100
  surroundings := { memory := .ample }
  bytes_length := by rw [frameBytes_length]; rfl

/-- The call sends the bytes of the frame and nothing else. -/
theorem lateCall_bytes : lateCall.bytes = frameBytes lateFrame := rfl

/-- The bytes of the frame decode to the frame. -/
theorem decode_late : decodeFrame lateCall.bytes = .ok lateFrame := by
  refine decodeFrame_eq_ok.mpr ⟨?_, lateCall_bytes⟩
  constructor <;> decide

/-- The bytes of the frame are complete. -/
theorem complete_late : Complete lateCall.bytes := by
  rw [lateCall_bytes]
  exact complete_frameBytes (by decide)

/-- The call is ready as long as memory lasts. -/
theorem lateCall_ready : lateCall.Ready .ample := by
  constructor
  all_goals first | rfl | decide

/-- The call can be sent any number of times. -/
theorem lateCall_sendable (n : Nat) :
    Sendable (fun _ => .ample) (List.replicate n lateCall) := by
  intro k call hk
  obtain rfl : call = lateCall := List.eq_of_mem_replicate (List.mem_of_getElem? hk)
  exact ⟨lateCall_ready, complete_late⟩

/-- The session answers the frame with an error and stays as new; the error is in a frame of
its own. -/
theorem process_late (identity : Identity) (m : Memory) :
    ∃ response, encodeFrame response = .ok (frameBytes response) ∧
      (ProtocolSession.fresh identity).process m lateFrame = (response, .fresh identity) :=
  ⟨_, rfl, rfl⟩

/-- A session whose counters overflow is retired. -/
theorem Session.request_overflow {s : Session} {call : ExchangeCall} {m : Memory}
    (hready : call.Ready m) (hcomplete : Complete call.bytes) {frame : Frame}
    (hdecode : decodeFrame call.bytes = .ok frame) {data : Bytes}
    (hencode : encodeFrame (s.protocol.process m frame).1 = .ok data) (hfits : s.metrics.Fits)
    (hplus : ¬ (s.metrics.plus call.bytes data).Fits) :
    (s.request call).2.protocol.closed = true := by
  cases hclosed : s.protocol.closed with
  | true =>
      rw [s.request_closed hready hcomplete hclosed]
      exact hclosed
  | false =>
      have hcount : ∃ e metrics, s.metrics.count call.request.size frame
          (s.protocol.process m frame).1 = (some e, metrics) := by
        rcases hresult : s.metrics.count call.request.size frame (s.protocol.process m frame).1
          with ⟨_ | e, metrics⟩
        · exfalso
          rw [← call.bytes_length, (decodeFrame_eq_ok.mp hdecode).2] at hresult
          obtain ⟨rfl, hmetrics⟩ := (Metrics.count_eq_none hfits).mp hresult
          apply hplus
          rw [(decodeFrame_eq_ok.mp hdecode).2, (encodeFrame_eq_ok.mp hencode).2]
          exact hmetrics
        · exact ⟨e, metrics, rfl⟩
      obtain ⟨e, metrics, hcount⟩ := hcount
      have hprocess : s.protocol.processOrThrow call.surroundings frame =
          (.ok (s.protocol.process m frame).1, (s.protocol.process m frame).2) := by
        rw [hready.surroundings]
        rfl
      have hdecoding : call.surroundings.decoding = none := by rw [hready.surroundings]
      unfold request
      rw [hready.refusal hcomplete]
      simp only [exchange, hclosed, Bool.false_eq_true, if_false, hdecode, hdecoding, hprocess,
        hcount, retire]

/-- The server answers, and the session is as before. -/
theorem turn_late (identity : Identity) : ∃ data : Bytes, data.length ≤ maxFrameBytes ∧
    ∀ calls first, (Connection.sent (.fresh identity) (lateCall :: calls) first).turn .ample =
      .answered data (.sent (.fresh identity) calls false) := by
  obtain ⟨response, hencode, hprocess⟩ := process_late identity .ample
  have hlimit := (encodeFrame_eq_ok.mp hencode).1
  have hmax : maxFrameBytes = headerSize + maxPayload := by decide
  refine ⟨frameBytes response, by rw [frameBytes_length]; omega, ?_⟩
  intro calls first
  rw [Connection.turn_complete complete_late (Connection.sent_cons _ _ _ _) rfl, decode_late]
  simp only [Connection.sent, hprocess, hencode]

/-- The server goes on after any number of these frames. -/
theorem serve_late (identity : Identity) (n : Nat) (first : Bool) :
    ((Connection.sent (.fresh identity) (List.replicate n lateCall) first).serve
      fun _ => .ample).2 = false := by
  induction n generalizing first with
  | zero =>
      rw [List.replicate_zero, Connection.serve_nothing]
      rfl
  | succ n ih =>
      obtain ⟨data, _, hturn⟩ := turn_late identity
      rw [List.replicate_succ,
        @Connection.serve_answered (fun _ => .ample) _ _ _ (hturn (List.replicate n lateCall) first)]
      exact ih false

/-- The library counts the bytes of the requests as long as it answers. -/
theorem requests_late {identity : Identity} (n : Nat) :
    ∀ {s : Session}, s.protocol = .fresh identity → s.metrics.Fits →
      (s.requests (List.replicate n lateCall)).2.protocol.closed = false →
      s.metrics.requestBytes + 56 * n ≤ counterMax := by
  induction n with
  | zero =>
      intro s _ hfits _
      exact hfits.requestBytes
  | succ n ih =>
      intro s hs hfits hopen
      obtain ⟨response, hencode, hprocess⟩ := process_late identity .ample
      have hsent : encodeFrame (s.protocol.process .ample lateFrame).1 =
          .ok (frameBytes response) := by
        rw [hs, hprocess]
        exact hencode
      rw [List.replicate_succ, Session.requests_cons] at hopen
      by_cases hplus : (s.metrics.plus lateCall.bytes (frameBytes response)).Fits
      · have hrequest := s.request_open lateCall_ready complete_late (by rw [hs]; rfl) decode_late
          hsent hfits hplus
        rw [hrequest, hs, hprocess] at hopen
        have hcounted : s.metrics.requestBytes + lateCall.bytes.length + 56 * n ≤ counterMax :=
          ih rfl hplus hopen
        rw [lateCall.bytes_length] at hcounted
        change s.metrics.requestBytes + 56 + 56 * n ≤ counterMax at hcounted
        omega
      · exfalso
        have hretired := s.request_overflow lateCall_ready complete_late decode_late hsent hfits
          hplus
        rw [(Session.requests_closed (lateCall_sendable n) hretired).2, hretired] at hopen
        cases hopen

/-- Once the bytes of the requests overflow their counter, the two sides part: the library
retires the session, the server goes on. -/
theorem late_frames_differ (identity : Identity) {n : Nat} (hn : counterMax < 56 * n) :
    (Connection.sent (.fresh identity) (List.replicate n lateCall)).serve (fun _ => .ample) ≠
      Session.answers { protocol := .fresh identity } (List.replicate n lateCall) := by
  intro hsame
  have hserved := serve_late identity n true
  rw [hsame] at hserved
  have hfits : Metrics.Fits {} := by constructor <;> exact Nat.zero_le _
  have hcounted := requests_late n rfl hfits hserved
  omega

/-- The library retires a session that the server goes on with. -/
theorem late_frames_retire :
    Sendable (fun _ => .ample) (List.replicate (2 ^ 59) lateCall) ∧
      (Connection.sent (.fresh (versioned (Vector.replicate 16 0)))
          (List.replicate (2 ^ 59) lateCall)).serve (fun _ => .ample) ≠
        Session.answers { protocol := .fresh (versioned (Vector.replicate 16 0)) }
          (List.replicate (2 ^ 59) lateCall) :=
  ⟨lateCall_sendable _, late_frames_differ _ (by decide)⟩

/-! ### Counters that fit -/

/-- What so many exchanges come to at the most. -/
structure Metrics.Under (metrics : Metrics) (n : Nat) : Prop where
  exchanges : metrics.exchanges ≤ n
  requestBytes : metrics.requestBytes ≤ n * maxFrameBytes
  responseBytes : metrics.responseBytes ≤ n * maxFrameBytes
  wirePayloadCopyBytes : metrics.wirePayloadCopyBytes ≤ n * (2 * maxFrameBytes)
  wirePayloadCopyCount : metrics.wirePayloadCopyCount ≤ n * 2

namespace Metrics

/-- One more exchange of frames within the limit stays under one more than before. -/
theorem Under.plus {m : Metrics} {n : Nat} (h : m.Under n) {request response : Bytes}
    (hrequest : request.length ≤ maxFrameBytes) (hresponse : response.length ≤ maxFrameBytes) :
    (m.plus request response).Under (n + 1) := by
  obtain ⟨hexchanges, hrequests, hresponses, hbytes, hcount⟩ := h
  unfold Metrics.plus
  constructor
  · exact Nat.succ_le_succ hexchanges
  · rw [Nat.succ_mul]
    exact Nat.add_le_add hrequests hrequest
  · rw [Nat.succ_mul]
    exact Nat.add_le_add hresponses hresponse
  · rw [Nat.succ_mul]
    dsimp only
    omega
  · dsimp only
    split_ifs <;> omega

/-- The bound on one exchange, added up over all of them by induction on what was exchanged. -/
theorem Under.total {m : Metrics} {n : Nat} (h : m.Under n) {exchanged : List (Bytes × Bytes)}
    (hsize : ∀ pair ∈ exchanged,
      pair.1.length ≤ maxFrameBytes ∧ pair.2.length ≤ maxFrameBytes) :
    (m.total exchanged).Under (n + exchanged.length) := by
  induction exchanged generalizing m n with
  | nil => exact h
  | cons pair rest ih =>
      have hpair := hsize pair List.mem_cons_self
      have hrest := ih (h.plus hpair.1 hpair.2) fun other hother =>
        hsize other (List.mem_cons_of_mem _ hother)
      rwa [List.length_cons, Nat.add_comm rest.length, ← Nat.add_assoc]

/-- **No counter overflows within 2^32 exchanges.** -/
theorem total_fits {exchanged : List (Bytes × Bytes)} (hlength : exchanged.length ≤ 2 ^ 32)
    (hsize : ∀ pair ∈ exchanged,
      pair.1.length ≤ maxFrameBytes ∧ pair.2.length ≤ maxFrameBytes) :
    (total {} exchanged).Fits := by
  have hstart : Metrics.Under {} 0 := by constructor <;> decide
  have hunder := hstart.total hsize
  rw [Nat.zero_add] at hunder
  have hmax : maxFrameBytes = 65591 := by decide
  have hlimit : counterMax = 2 ^ 64 - 1 := rfl
  obtain ⟨hexchanges, hrequests, hresponses, hbytes, hcount⟩ := hunder
  rw [hmax] at hrequests hresponses hbytes
  constructor <;> omega

end Metrics

/-- Every frame that the server sends is within the limit on frames. -/
theorem Connection.serve_bounded (memory : Nat → Memory) (c : Connection) :
    ∀ data ∈ (c.serve memory).1, data.length ≤ maxFrameBytes := by
  induction memory, c using Connection.serve.induct with
  | case1 memory c hturn =>
      rw [serve_waiting hturn]
      exact fun data hdata => by cases hdata
  | case2 memory c hturn =>
      rw [serve_ended hturn]
      exact fun data hdata => by cases hdata
  | case3 memory c data c' hturn written ended hserve ih =>
      rw [serve_answered hturn]
      intro other hother
      obtain rfl | hother := List.mem_cons.mp hother
      · obtain ⟨bytes, frame, -, -, -, hencode, -⟩ := turn_answered hturn
        obtain ⟨hlimit, hbytes⟩ := encodeFrame_eq_ok.mp hencode
        have hmax : maxFrameBytes = headerSize + maxPayload := by decide
        rw [hbytes, frameBytes_length]
        omega
      · exact ih other hother

/-- Within 2^32 requests, no counter stands in the way. -/
theorem served_fits (identity : Identity) {calls : List ExchangeCall} (memory : Nat → Memory)
    (hcalls : calls.length ≤ 2 ^ 32) (hsize : ∀ call ∈ calls, call.bytes.length ≤ maxFrameBytes) :
    (Metrics.total {} ((calls.map (·.bytes)).zip
      ((Connection.sent (.fresh identity) calls).serve memory).1)).Fits := by
  apply Metrics.total_fits
  · rw [List.length_zip, List.length_map]
    exact (Nat.min_le_left _ _).trans hcalls
  · intro pair hpair
    obtain ⟨hrequest, hresponse⟩ := List.of_mem_zip hpair
    obtain ⟨call, hcall, hbytes⟩ := List.mem_map.mp hrequest
    exact ⟨hbytes ▸ hsize call hcall, Connection.serve_bounded memory _ _ hresponse⟩

/-- The begin of a frame, in the session of the hello. -/
def beginFive : Frame where
  opcode := 10
  subject := 101
  flags := 2
  sequence := 2
  message := Vector.replicate 16 1
  session := versioned (Vector.replicate 16 0)
  payload := [1, 0, 5, 0, 0, 0, 0, 0, 0, 0]

/-- A hello, an event, a frame of version 1, and a request that comes after it. -/
def lastCalls : List ExchangeCall :=
  [frameBytes Table.baseHello, frameBytes beginFive, (frameBytes lateFrame).set 4 1,
    frameBytes lateFrame].map Table.firstExchange

/-- The buffers of small requests do not meet. -/
theorem firstExchange_ready {bytes : Bytes} (h : bytes.length ≤ 0x1000) :
    (Table.firstExchange bytes).Ready .ample := by
  have hlimit : uintptrMax = 2 ^ 64 - 1 := rfl
  have happart : ∀ other : Buffer, 0x1000 + bytes.length ≤ other.address ∨
      other.address + other.size ≤ 0x1000 → other.address + other.size ≤ uintptrMax →
      overlaps ⟨0x1000, bytes.length⟩ other = false := by
    intro other hother hfits
    unfold overlaps
    rw [if_neg (by dsimp only; omega), Bool.and_eq_false_iff, decide_eq_false_iff_not,
      decide_eq_false_iff_not]
    dsimp only
    omega
  exact { request := (by decide : 0x1000 ≠ 0), output := (by decide : 0x2000 ≠ 0),
          outputSize := (by decide : 0x100 ≠ 0), capacity := le_rfl,
          disjoint := happart ⟨0x2000, maxFrameBytes⟩ (by dsimp only; omega) (by decide),
          request_disjoint := happart ⟨0x100, 4⟩ (by dsimp only; omega) (by decide),
          output_disjoint := (by decide : overlaps ⟨0x2000, maxFrameBytes⟩ ⟨0x100, 4⟩ = false),
          surroundings := rfl }

/-- The three calls can be sent as long as memory lasts. -/
theorem lastCalls_sendable : Sendable (fun _ => .ample) lastCalls := by
  have hall : ∀ call ∈ lastCalls, call.bytes.length ≤ 0x1000 ∧ Complete call.bytes := by
    unfold Complete
    decide +kernel
  intro k call hk
  have hcall := List.mem_of_getElem? hk
  obtain ⟨bytes, -, rfl⟩ := List.mem_map.mp hcall
  exact ⟨firstExchange_ready (hall _ hcall).1, (hall _ hcall).2⟩

/-- The hello and the event are answered, and the third frame ends it all. -/
theorem server_matches_last :
    let identity := versioned (Vector.replicate 16 0)
    (Connection.sent (.fresh identity) lastCalls).serve (fun _ => .ample) =
        Session.answers { protocol := .fresh identity } lastCalls ∧
      (Session.answers { protocol := .fresh identity } lastCalls).1.map
          (fun data => (decodeFrame data).toOption.map (·.opcode)) = [some 2, some 11] ∧
      (Session.answers { protocol := .fresh identity } lastCalls).2 = true := by
  intro identity
  have hfits := @served_fits identity lastCalls (fun _ => .ample) (by decide) (by decide +kernel)
  exact ⟨server_matches identity lastCalls_sendable hfits 4, by decide +kernel, by decide +kernel⟩

end FluidGateway.Native
