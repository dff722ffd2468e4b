import FluidGateway.ReferenceFrames
import FluidGateway.Lib.Observed
import Mathlib.Data.List.Infix

/-!
# Reading from a socket

`_DeadlineSocketReader` of `fluidgateway/server.py`, on a socket that delivers
what the peer has sent piece by piece, until the end.  A line is looked for in a
buffer; `read` takes what is in the buffer, or else what arrives next.  Nothing
times out here.

Whatever the pieces are, the reader gives what it would give on their
concatenation: `read_spec`, `readline_spec`, `readExact_spec`.
-/

namespace FluidGateway.Streams

open Native (Bytes literal)
open FluidLink (FluidLinkProtocolError)

/-- What the peer sends, in the pieces in which it arrives. -/
structure Socket where
  segments : List Bytes
  nonempty : ∀ segment ∈ segments, segment ≠ []

namespace Socket

/-- All that is still to arrive. -/
def bytes (s : Socket) : Bytes :=
  s.segments.flatten

/-- The segments behind the first one are not empty. -/
theorem nonempty_tail {segment : Bytes} {rest : List Bytes}
    (h : ∀ s ∈ segment :: rest, s ≠ []) : ∀ s ∈ rest, s ≠ [] :=
  fun s hs => h s (List.mem_cons_of_mem segment hs)

/-- A segment of which a part is left is not empty. -/
theorem nonempty_cut {segment : Bytes} {rest : List Bytes} {size : Nat}
    (h : ∀ s ∈ segment :: rest, s ≠ []) (hsize : ¬ segment.length ≤ size) :
    ∀ s ∈ segment.drop size :: rest, s ≠ [] := by
  intro s hs
  rcases List.mem_cons.mp hs with rfl | hs
  · rw [ne_eq, List.drop_eq_nil_iff]
    exact hsize
  · exact nonempty_tail h s hs

/-- `recv(size)`: at most `size` bytes of the next piece, and nothing at the end. -/
def recv (size : Nat) : Socket → Bytes × Socket
  | ⟨[], h⟩ => ([], ⟨[], h⟩)
  | ⟨segment :: rest, h⟩ =>
    if hsize : segment.length ≤ size then (segment, ⟨rest, nonempty_tail h⟩)
    else (segment.take size, ⟨segment.drop size :: rest, nonempty_cut h hsize⟩)

section

variable {size : Nat} {segment : Bytes} {rest : List Bytes}

/-- A segment that fits is received as a whole. -/
theorem recv_whole (h : ∀ s ∈ segment :: rest, s ≠ []) (hsize : segment.length ≤ size) :
    recv size ⟨segment :: rest, h⟩ = (segment, ⟨rest, nonempty_tail h⟩) :=
  dif_pos hsize

/-- Of a larger segment as much is received as was asked for. -/
theorem recv_part (h : ∀ s ∈ segment :: rest, s ≠ []) (hsize : ¬ segment.length ≤ size) :
    recv size ⟨segment :: rest, h⟩ =
      (segment.take size, ⟨segment.drop size :: rest, nonempty_cut h hsize⟩) :=
  dif_neg hsize

end

/-- What is received and what is left make up what was to arrive. -/
theorem recv_bytes (size : Nat) (s : Socket) :
    (s.recv size).1 ++ (s.recv size).2.bytes = s.bytes := by
  rcases s with ⟨_ | ⟨segment, rest⟩, h⟩
  · rfl
  · by_cases hsize : segment.length ≤ size
    · rw [recv_whole h hsize]
      rfl
    · rw [recv_part h hsize]
      dsimp only [bytes]
      rw [List.flatten_cons, List.flatten_cons, ← List.append_assoc, List.take_append_drop]

/-- No more is received than was asked for. -/
theorem recv_length (size : Nat) (s : Socket) : (s.recv size).1.length ≤ size := by
  rcases s with ⟨_ | ⟨segment, rest⟩, h⟩
  · exact Nat.zero_le size
  · by_cases hsize : segment.length ≤ size
    · rw [recv_whole h hsize]
      exact hsize
    · rw [recv_part h hsize]
      exact List.length_take_le size segment

/-- Only at the end is nothing received. -/
theorem recv_nil {size : Nat} {s : Socket} (hpos : 0 < size) (hnil : (s.recv size).1 = []) :
    s.bytes = [] := by
  rcases s with ⟨_ | ⟨segment, rest⟩, h⟩
  · rfl
  · have hsegment := h segment List.mem_cons_self
    by_cases hsize : segment.length ≤ size
    · rw [recv_whole h hsize] at hnil
      exact absurd hnil hsegment
    · rw [recv_part h hsize, List.take_eq_nil_iff] at hnil
      rcases hnil with hzero | hnil
      · omega
      · exact absurd hnil hsegment

end Socket

/-- `_DeadlineSocketReader`: what it has buffered, and its socket. Its deadline is left out:
no read times out here. -/
structure DeadlineSocketReader where
  buffer : Bytes := []
  socket : Socket

namespace DeadlineSocketReader

/-- What has been received and not used, and what is still to come. -/
def content (r : DeadlineSocketReader) : Bytes :=
  r.buffer ++ r.socket.bytes

/-- The byte that ends a line. -/
def newline : UInt8 := 10

/-- `read`, of a number of bytes that is not negative. -/
def read (r : DeadlineSocketReader) (size : Nat) : Bytes × DeadlineSocketReader :=
  if size = 0 then ([], r)
  else if r.buffer ≠ [] then
    let count := min size r.buffer.length
    (r.buffer.take count, { r with buffer := r.buffer.drop count })
  else
    let (chunk, socket) := r.socket.recv size
    (chunk, { r with socket })

/-- `readline`, with a limit that is not 0. -/
def readline (r : DeadlineSocketReader) (limit : Nat) : Bytes × DeadlineSocketReader :=
  match r.buffer.findIdx? (· = newline) with
  | some found =>
    let count := min (found + 1) limit
    (r.buffer.take count, { r with buffer := r.buffer.drop count })
  | none =>
    if limit ≤ r.buffer.length then
      (r.buffer.take limit, { r with buffer := r.buffer.drop limit })
    else
      let received := r.socket.recv (min 4096 (limit - r.buffer.length))
      if received.1 = [] then (r.buffer, { buffer := [], socket := received.2 })
      else readline { buffer := r.buffer ++ received.1, socket := received.2 } limit
termination_by r.socket.bytes.length
decreasing_by
  have hbytes := congrArg List.length
    (r.socket.recv_bytes (min 4096 (limit - r.buffer.length)))
  have hpos := List.length_pos_iff.mpr ‹¬ received.1 = []›
  rw [List.length_append] at hbytes
  dsimp only [received] at hpos ⊢
  omega

/-! ## What the reader gives -/

/-- A read returns the front of what is to come, of at most the size; it returns nothing
only at the end. -/
theorem read_spec {size : Nat} (hsize : 0 < size) (r : DeadlineSocketReader) :
    (r.read size).1 ++ (r.read size).2.content = r.content ∧ (r.read size).1.length ≤ size ∧
      ((r.read size).1 = [] → r.content = []) := by
  unfold read
  rw [if_neg (Nat.ne_of_gt hsize)]
  by_cases hbuffer : r.buffer ≠ []
  · rw [if_pos hbuffer]
    refine ⟨?_, ?_, fun h => ?_⟩
    · dsimp only [content]
      rw [← List.append_assoc, List.take_append_drop]
    · exact (List.length_take_le _ _).trans (Nat.min_le_left _ _)
    · have hpos := List.length_pos_iff.mpr hbuffer
      have hlength := congrArg List.length h
      rw [List.length_take, List.length_nil] at hlength
      omega
  · rw [if_neg hbuffer]
    have hempty : r.buffer = [] := not_not.mp hbuffer
    refine ⟨?_, r.socket.recv_length size, fun h => ?_⟩
    · dsimp only [content]
      rw [hempty]
      exact r.socket.recv_bytes size
    · unfold content
      rw [hempty]
      exact Socket.recv_nil hsize h

/-- Where the next line ends: behind a newline, at the limit or at the end. -/
def lineEnd (limit : Nat) (data : Bytes) : Nat :=
  min limit (data.findIdx (· = newline) + 1)

/-- A line that ends in the part that is there. -/
theorem lineEnd_append {limit : Nat} {data : Bytes} (rest : Bytes)
    (h : lineEnd limit data ≤ data.length) : lineEnd limit (data ++ rest) = lineEnd limit data := by
  unfold lineEnd at h ⊢
  rw [List.findIdx_append]
  have hle : data.findIdx (fun b => decide (b = newline)) ≤ data.length := List.findIdx_le_length
  split_ifs with hfound
  · rfl
  · have hend := le_antisymm hle (Nat.le_of_not_lt hfound)
    omega

/-- A line without an end is cut at the limit, or at the end of what is there. -/
theorem lineEnd_of_none {data : Bytes} (h : data.findIdx? (· = newline) = none) (limit : Nat) :
    lineEnd limit data = min limit (data.length + 1) := by
  unfold lineEnd
  rw [List.findIdx?_eq_none_iff_findIdx_eq.mp h]

/-- A line with an end is cut behind it, or at the limit. -/
theorem lineEnd_of_some {data : Bytes} {found : Nat}
    (h : data.findIdx? (· = newline) = some found) (limit : Nat) :
    lineEnd limit data = min (found + 1) limit ∧ found + 1 ≤ data.length := by
  obtain ⟨hlt, hfound⟩ := List.findIdx?_eq_some_iff_findIdx_eq.mp h
  unfold lineEnd
  rw [hfound, Nat.min_comm]
  exact ⟨rfl, hlt⟩

/-- A line is the front of what is to come up to its end, and depends on nothing else: not
on the buffer and not on how the bytes arrive. -/
theorem readline_spec (r : DeadlineSocketReader) (limit : Nat) :
    (r.readline limit).1 = r.content.take (lineEnd limit r.content) ∧
      (r.readline limit).2.content = r.content.drop (lineEnd limit r.content) := by
  fun_induction readline r limit with
  | case1 r found hfound count =>
      obtain ⟨hend, hle⟩ := lineEnd_of_some hfound limit
      have hcount : lineEnd limit r.buffer ≤ r.buffer.length := by
        rw [hend]
        omega
      unfold content
      rw [lineEnd_append _ hcount, hend, List.take_append_of_le_length (hend ▸ hcount),
        List.drop_append_of_le_length (hend ▸ hcount)]
      exact ⟨rfl, rfl⟩
  | case2 r hnone hlimit =>
      have hend : lineEnd limit r.buffer = limit := by
        rw [lineEnd_of_none hnone]
        omega
      unfold content
      rw [lineEnd_append _ (hend.trans_le hlimit), hend, List.take_append_of_le_length hlimit,
        List.drop_append_of_le_length hlimit]
      exact ⟨rfl, rfl⟩
  | case3 r hnone hlimit received hnil =>
      have hsize : 0 < min 4096 (limit - r.buffer.length) := by omega
      have hbytes := Socket.recv_nil hsize hnil
      have hrest := r.socket.recv_bytes (min 4096 (limit - r.buffer.length))
      rw [hbytes] at hrest
      have hcontent : r.content = r.buffer := by
        unfold content
        rw [hbytes, List.append_nil]
      have hle : r.buffer.length ≤ lineEnd limit r.buffer := by
        rw [lineEnd_of_none hnone]
        omega
      rw [hcontent, List.take_of_length_le hle, List.drop_of_length_le hle]
      exact ⟨rfl, (List.append_eq_nil_iff.mp hrest).2⟩
  | case4 r hnone hlimit received hne ih =>
      have hcontent : (mk (r.buffer ++ received.1) received.2).content = r.content := by
        unfold content
        rw [List.append_assoc, r.socket.recv_bytes]
      rw [hcontent] at ih
      exact ih

/-! ## Whole pieces -/

/-- The error for a stream that ends within a frame. -/
def truncated : FluidLinkProtocolError :=
  ⟨"truncated_frame", "FluidLink peer closed before the complete frame arrived."⟩

/-- The loop of `read_exact`. -/
def readRemaining (size : Nat) (allowEof : Bool) (r : DeadlineSocketReader) (chunks : Bytes)
    (remaining : Nat) : Except FluidLinkProtocolError (Option Bytes) × DeadlineSocketReader :=
  if remaining = 0 then (.ok (some chunks), r)
  else
    let received := r.read remaining
    if received.1 = [] then
      if allowEof ∧ remaining = size then (.ok none, received.2) else (.error truncated, received.2)
    else
      readRemaining size allowEof received.2 (chunks ++ received.1)
        (remaining - received.1.length)
termination_by remaining
decreasing_by
  have hpos := List.length_pos_iff.mpr ‹¬ received.1 = []›
  dsimp only [received] at hpos ⊢
  omega

/-- `read_exact`: the loop from nothing read. -/
def readExact (size : Nat) (allowEof : Bool) :
    StateM DeadlineSocketReader (Except FluidLinkProtocolError (Option Bytes)) := fun r =>
  readRemaining size allowEof r [] size

/-- What `readExact` gives for the bytes that are there. -/
def exactly (size : Nat) (allowEof : Bool) (data : Bytes) :
    Except FluidLinkProtocolError (Option Bytes) :=
  if size ≤ data.length then .ok (some (data.take size))
  else if allowEof ∧ data = [] then .ok none
  else .error truncated

/-- The loop reads on until it has enough or the stream ends; the induction is on what
remains. -/
theorem readRemaining_spec {size : Nat} {allowEof : Bool} (r : DeadlineSocketReader)
    (chunks : Bytes) {remaining : Nat} (h : remaining ≤ size) :
    (readRemaining size allowEof r chunks remaining).1 =
        (if remaining ≤ r.content.length then
          .ok (some (chunks ++ r.content.take remaining))
        else if allowEof ∧ remaining = size ∧ r.content = [] then .ok none
        else .error truncated) ∧
      (readRemaining size allowEof r chunks remaining).2.content = r.content.drop remaining := by
  fun_induction readRemaining size allowEof r chunks remaining with
  | case1 r chunks => simp
  | case2 r chunks remaining hremaining received hchunk heof =>
      obtain ⟨hbytes, -, hnil⟩ := r.read_spec (Nat.pos_of_ne_zero hremaining)
      have hcontent := hnil hchunk
      have hrest : received.2.content = [] := by
        rw [hcontent] at hbytes
        exact (List.append_eq_nil_iff.mp hbytes).2
      have hsize := heof.2 ▸ hremaining
      simp [hcontent, hrest, hsize, heof]
  | case3 r chunks remaining hremaining received hchunk heof =>
      obtain ⟨hbytes, -, hnil⟩ := r.read_spec (Nat.pos_of_ne_zero hremaining)
      have hcontent := hnil hchunk
      have hrest : received.2.content = [] := by
        rw [hcontent] at hbytes
        exact (List.append_eq_nil_iff.mp hbytes).2
      simp [hcontent, hrest, hremaining]
      simpa using heof
  | case4 r chunks remaining hremaining received hchunk ih =>
      obtain ⟨hbytes, hlength, -⟩ := r.read_spec (Nat.pos_of_ne_zero hremaining)
      have hpos := List.length_pos_iff.mpr hchunk
      obtain ⟨hresult, hrest⟩ := ih (by omega)
      -- what is left to read is at most the size, less what has been read
      have hnot : remaining - received.1.length ≠ size := by omega
      have hcontent : r.content = received.1 ++ received.2.content := hbytes.symm
      have hnonempty : r.content ≠ [] := by
        rw [hcontent]
        simp [hchunk]
      have hle : remaining ≤ r.content.length ↔
          remaining - received.1.length ≤ received.2.content.length := by
        rw [hcontent, List.length_append]
        omega
      have htake : r.content.take remaining =
          received.1 ++ received.2.content.take (remaining - received.1.length) := by
        rw [hcontent, List.take_append, List.take_of_length_le hlength]
      have hdrop : r.content.drop remaining =
          received.2.content.drop (remaining - received.1.length) := by
        rw [hcontent, List.drop_append, List.drop_of_length_le hlength, List.nil_append]
      rw [hresult, hrest, htake, hdrop, ← List.append_assoc]
      simp only [hle, hnot, hnonempty, false_and, and_false, if_false, and_true]

/-- Reading a count of bytes returns the front of what is to come, and depends on nothing
else. -/
theorem readExact_spec (size : Nat) (allowEof : Bool) (r : DeadlineSocketReader) :
    (readExact size allowEof r).1 = exactly size allowEof r.content ∧
      (readExact size allowEof r).2.content = r.content.drop size := by
  obtain ⟨hresult, hrest⟩ := @readRemaining_spec size allowEof r [] size le_rfl
  refine ⟨hresult.trans ?_, hrest⟩
  unfold exactly
  simp only [List.nil_append, true_and]

end DeadlineSocketReader

end FluidGateway.Streams
