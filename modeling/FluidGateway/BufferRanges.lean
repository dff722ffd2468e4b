import FluidGateway.AbiSession
import Mathlib.Order.Interval.Set.Basic
import Mathlib.Order.CompletePartialOrder
import Mathlib.Order.Disjoint
import Mathlib.Data.Set.Lattice

/-!
# The buffers of an exchange

The comparison of two buffers of `native/src/abi.cpp`, in the 64-bit arithmetic
of the processor, and the order in which an exchange applies it to its three
buffers.  The subtractions come first, so that no sum wraps where it is used:
the machine computes what the comparison of `overlaps` computes on numbers
(`Words.overlaps_eq`), and that decides whether two buffers share an address
(`overlaps_iff`).
-/

namespace FluidGateway.Native

namespace Buffer

def range (b : Buffer) : Set Nat :=
  Set.Ico b.address (b.address + b.size)

/-- The buffer ends within the address space. -/
def Fits (b : Buffer) : Prop :=
  b.address + b.size ≤ uintptrMax

theorem mem_range {b : Buffer} {x : Nat} :
    x ∈ b.range ↔ b.address ≤ x ∧ x < b.address + b.size :=
  Set.mem_Ico

/-- Two buffers share an address when each begins before the other ends. -/
theorem shared_iff {first second : Buffer} (hfirst : 0 < first.size) (hsecond : 0 < second.size) :
    (∃ x, x ∈ first.range ∧ x ∈ second.range) ↔
      first.address < second.address + second.size ∧
        second.address < first.address + first.size := by
  simp only [mem_range]
  constructor
  · intro h
    obtain ⟨x, ⟨hfirst, hfirst'⟩, hsecond, hsecond'⟩ := h
    exact ⟨by omega, by omega⟩
  · intro h
    -- the later of the two beginnings is in both
    exact ⟨max first.address second.address, ⟨by omega, by omega⟩, by omega, by omega⟩

theorem disjoint_range_iff {first second : Buffer} :
    Disjoint first.range second.range ↔ ¬ ∃ x, x ∈ first.range ∧ x ∈ second.range := by
  rw [Set.disjoint_left]
  push Not
  rfl

end Buffer

theorem overlaps_iff {first second : Buffer} (hfirst : 0 < first.size)
    (hsecond : 0 < second.size) :
    overlaps first second = true ↔
      uintptrMax < first.address + first.size ∨ uintptrMax < second.address + second.size ∨
        ∃ x, x ∈ first.range ∧ x ∈ second.range := by
  rw [Buffer.shared_iff hfirst hsecond]
  unfold overlaps
  split
  · simp only [true_iff]
    omega
  · simp only [Bool.and_eq_true, decide_eq_true_eq]
    omega

/-- Buffers that do not overlap end within the address space, and apart. -/
theorem apart_of_not_overlaps {first second : Buffer} (hfirst : 0 < first.size)
    (hsecond : 0 < second.size) (h : ¬ overlaps first second = true) :
    first.Fits ∧ second.Fits ∧ Disjoint first.range second.range := by
  rw [overlaps_iff hfirst hsecond, not_or, not_or, not_lt, not_lt] at h
  exact ⟨h.1, h.2.1, Buffer.disjoint_range_iff.mpr h.2.2⟩

/-- The four bytes of `output_size`. -/
def ExchangeCall.outputSizeBuffer (call : ExchangeCall) : Buffer :=
  ⟨call.outputSize, 4⟩

/-- A call that passes its checks has three buffers that lie apart. -/
theorem ExchangeCall.buffers_apart {call : ExchangeCall} (h : call.refusal = none) :
    call.request.Fits ∧ call.output.Fits ∧ call.outputSizeBuffer.Fits ∧
      Disjoint call.request.range call.output.range ∧
      Disjoint call.request.range call.outputSizeBuffer.range ∧
      Disjoint call.output.range call.outputSizeBuffer.range := by
  unfold ExchangeCall.refusal at h
  dsimp only at h
  split_ifs at h with hsize hrequest hcapacity houtput
  rw [not_or, not_or] at hsize hrequest
  have hfull : 0 < call.request.size := Nat.pos_of_ne_zero hrequest.2.1
  have hroom : 0 < call.output.size := lt_of_lt_of_le (by decide) (not_lt.mp hcapacity)
  have hfour : 0 < call.outputSizeBuffer.size := Nat.succ_pos 3
  obtain ⟨hfits, hfits', hdisjoint⟩ := apart_of_not_overlaps hfull hroom hrequest.2.2
  obtain ⟨-, hfits'', hdisjoint'⟩ := apart_of_not_overlaps hfull hfour hsize.2.1
  obtain ⟨-, -, hdisjoint''⟩ := apart_of_not_overlaps hroom hfour hsize.2.2
  exact ⟨hfits, hfits', hfits'', hdisjoint, hdisjoint', hdisjoint''⟩

/-! ## On the machine -/

namespace Words

def uintptrMax : UInt64 := 0xffffffffffffffff

/-- `overlaps`, whose sums wrap. -/
def overlaps (first firstSize second secondSize : UInt64) : Bool :=
  if firstSize > uintptrMax - first ∨ secondSize > uintptrMax - second then true
  else first < second + secondSize && second < first + firstSize

/-- The arguments of `fgn_session_exchange`. -/
structure ExchangeArguments where
  handle : UInt64
  request : UInt64
  requestSize : UInt32
  output : UInt64
  outputCapacity : UInt32
  outputSize : UInt64
  deriving DecidableEq, Repr

/-- The checks before any session is looked up: the status that is returned,
and what is stored through `output_size` first. -/
def ExchangeArguments.refusal (args : ExchangeArguments) : Option (Status × Option UInt32) :=
  if args.outputSize = 0 ∨ overlaps args.request args.requestSize.toUInt64 args.outputSize 4 ∨
      overlaps args.output args.outputCapacity.toUInt64 args.outputSize 4 then
    some (.invalidArgument, none)
  else if args.request = 0 ∨ args.requestSize = 0 ∨
      overlaps args.request args.requestSize.toUInt64 args.output args.outputCapacity.toUInt64 then
    some (.invalidArgument, some 0)
  else if args.outputCapacity < UInt32.ofNat maxFrameBytes then
    some (.bufferTooSmall, some (UInt32.ofNat maxFrameBytes))
  else if args.output = 0 then some (.invalidArgument, some 0)
  else none

/-- What a call that is refused comes to. -/
def answer (refusal : Status × Option UInt32) : Exchanged where
  status := refusal.1
  outputSize := refusal.2.map UInt32.toNat

/-- A range of the caller's memory. -/
def buffer (address size : UInt64) : Buffer :=
  ⟨address.toNat, size.toNat⟩

namespace ExchangeArguments

def requestBuffer (args : ExchangeArguments) : Buffer :=
  buffer args.request args.requestSize.toUInt64

def outputBuffer (args : ExchangeArguments) : Buffer :=
  buffer args.output args.outputCapacity.toUInt64

def outputSizeBuffer (args : ExchangeArguments) : Buffer :=
  buffer args.outputSize 4

/-- The call that hands over these arguments. -/
def call (args : ExchangeArguments) (surroundings : Surroundings) (bytes : Bytes)
    (h : bytes.length = args.requestBuffer.size) : ExchangeCall where
  handle := args.handle.toNat
  request := args.requestBuffer
  bytes := bytes
  output := args.outputBuffer
  outputSize := args.outputSize.toNat
  surroundings := surroundings
  bytes_length := h

end ExchangeArguments

/-- What is left above an address does not wrap. -/
theorem toNat_left (address : UInt64) :
    (uintptrMax - address).toNat = Native.uintptrMax - address.toNat := by
  have hle : address ≤ uintptrMax := by
    rw [UInt64.le_iff_toNat_le]
    exact Nat.le_of_lt_succ address.toNat_lt
  exact UInt64.toNat_sub_of_le _ _ hle

/-- The end of a buffer that fits does not wrap. -/
theorem toNat_end {address size : UInt64}
    (h : ¬ Native.uintptrMax - address.toNat < size.toNat) :
    (address + size).toNat = address.toNat + size.toNat := by
  rw [UInt64.toNat_add]
  have hlt := address.toNat_lt
  unfold Native.uintptrMax at h
  omega

theorem overlaps_eq (first firstSize second secondSize : UInt64) :
    overlaps first firstSize second secondSize =
      Native.overlaps (buffer first firstSize) (buffer second secondSize) := by
  have hlarge : (firstSize > uintptrMax - first ∨ secondSize > uintptrMax - second) ↔
      Native.uintptrMax - first.toNat < firstSize.toNat ∨
        Native.uintptrMax - second.toNat < secondSize.toNat := by
    rw [gt_iff_lt, gt_iff_lt, UInt64.lt_iff_toNat_lt, UInt64.lt_iff_toNat_lt, toNat_left, toNat_left]
  unfold overlaps Native.overlaps buffer
  simp only [hlarge]
  split
  · rfl
  · rename_i hfits
    rw [not_or] at hfits
    simp only [UInt64.lt_iff_toNat_lt, toNat_end hfits.1, toNat_end hfits.2]

namespace ExchangeArguments

variable {args : ExchangeArguments}

/-- The machine refuses what the checks on numbers refuse, in the same way. -/
theorem refusal_eq (surroundings : Surroundings) (bytes : Bytes)
    (h : bytes.length = args.requestBuffer.size) :
    (args.call surroundings bytes h).refusal = args.refusal.map answer := by
  have hsize : args.outputSize.toNat = 0 ↔ args.outputSize = 0 := by
    rw [← UInt64.toNat_inj]
    rfl
  have hrequest : args.request.toNat = 0 ↔ args.request = 0 := by
    rw [← UInt64.toNat_inj]
    rfl
  have houtput : args.output.toNat = 0 ↔ args.output = 0 := by
    rw [← UInt64.toNat_inj]
    rfl
  have hempty : args.requestSize.toUInt64.toNat = 0 ↔ args.requestSize = 0 := by
    rw [UInt32.toNat_toUInt64, ← UInt32.toNat_inj]
    rfl
  have hcapacity : args.outputCapacity.toUInt64.toNat < maxFrameBytes ↔
      args.outputCapacity < UInt32.ofNat maxFrameBytes := by
    rw [UInt32.toNat_toUInt64, UInt32.lt_iff_toNat_lt]
    rfl
  unfold ExchangeCall.refusal refusal
  simp only [apply_ite (Option.map answer), overlaps_eq]
  exact if_congr (or_congr_left hsize) rfl
    (if_congr (or_congr hrequest (or_congr_left hempty)) rfl
      (if_congr hcapacity rfl (if_congr houtput rfl rfl)))

theorem buffers_apart (h : args.refusal = none) :
    args.requestBuffer.Fits ∧ args.outputBuffer.Fits ∧ args.outputSizeBuffer.Fits ∧
      Disjoint args.requestBuffer.range args.outputBuffer.range ∧
      Disjoint args.requestBuffer.range args.outputSizeBuffer.range ∧
      Disjoint args.outputBuffer.range args.outputSizeBuffer.range := by
  have hlength : (List.replicate args.requestBuffer.size (0 : UInt8)).length =
      args.requestBuffer.size :=
    List.length_replicate
  have hnone : (args.call { memory := .ample } _ hlength).refusal = none := by
    rw [refusal_eq, h]
    rfl
  exact ExchangeCall.buffers_apart hnone

end ExchangeArguments

/-- **The comparison of buffers is exact**, and an exchange that passes its
checks has three buffers that end within the address space and share nothing. -/
theorem overlaps_exact :
    (∀ first firstSize second secondSize : UInt64, 0 < firstSize → 0 < secondSize →
      (overlaps first firstSize second secondSize = true ↔
        2 ^ 64 - 1 < first.toNat + firstSize.toNat ∨
          2 ^ 64 - 1 < second.toNat + secondSize.toNat ∨
          ∃ address : Nat,
            (first.toNat ≤ address ∧ address < first.toNat + firstSize.toNat) ∧
              second.toNat ≤ address ∧ address < second.toNat + secondSize.toNat)) ∧
    ∀ args : ExchangeArguments, args.refusal = none →
      args.requestBuffer.Fits ∧ args.outputBuffer.Fits ∧ args.outputSizeBuffer.Fits ∧
        Disjoint args.requestBuffer.range args.outputBuffer.range ∧
        Disjoint args.requestBuffer.range args.outputSizeBuffer.range ∧
        Disjoint args.outputBuffer.range args.outputSizeBuffer.range := by
  refine ⟨fun first firstSize second secondSize hfirst hsecond => ?_, fun _ h => ExchangeArguments.buffers_apart h⟩
  have hfirst' : 0 < (buffer first firstSize).size := UInt64.lt_iff_toNat_lt.mp hfirst
  have hsecond' : 0 < (buffer second secondSize).size := UInt64.lt_iff_toNat_lt.mp hsecond
  rw [overlaps_eq, overlaps_iff hfirst' hsecond']
  simp only [Buffer.mem_range]
  rfl

/-- Two ranges that touch, and an exchange whose buffers do. -/
theorem overlaps_exact_touching :
    overlaps 0x1000 0x40 0x1040 4 = false ∧
      Disjoint (buffer 0x1000 0x40).range (buffer 0x1040 65591).range := by
  constructor
  · rw [Bool.eq_false_iff, Ne, overlaps_exact.1 0x1000 0x40 0x1040 4 (by decide) (by decide)]
    rintro (h | h | ⟨address, ⟨-, hlow⟩, hhigh, -⟩)
    · exact absurd h (by decide)
    · exact absurd h (by decide)
    · exact absurd (lt_of_le_of_lt hhigh hlow) (by decide)
  · exact (overlaps_exact.2 ⟨1, 0x1000, 0x40, 0x1040, 65591, 0x100000⟩ (by decide)).2.2.2.1

end Words

end FluidGateway.Native
