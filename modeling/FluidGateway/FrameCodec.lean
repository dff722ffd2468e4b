import FluidGateway.WireReading

/-!
# The native frame codec

`decodeFrame` accepts exactly the bytes of the frames that obey the header
rules (`decodeFrame_eq_ok`), so decoding and encoding are inverse to each other.
-/

namespace FluidGateway.Native

open Reading

/-- The header rules. -/
structure Frame.Valid (f : Frame) : Prop where
  kind : 1 ≤ f.kind ∧ f.kind ≤ 2
  flags : f.flags &&& ~~~3 = 0
  sequence : f.sequence ≠ 0
  sequence_lt : f.sequence < 256 ^ 8
  message : nonzero f.message.toList = true
  session : f.flags &&& 2 ≠ 0 ↔ nonzero f.session.toList = true
  request : ¬ (f.kind = 1 ∧ f.flags &&& 1 ≠ 0)
  payload : f.payload.length ≤ maxPayload

instance (f : Frame) : Decidable f.Valid :=
  decidable_of_iff ((1 ≤ f.kind ∧ f.kind ≤ 2) ∧ f.flags &&& ~~~3 = 0 ∧ f.sequence ≠ 0 ∧
      f.sequence < 256 ^ 8 ∧ nonzero f.message.toList = true ∧
      (f.flags &&& 2 ≠ 0 ↔ nonzero f.session.toList = true) ∧
      ¬ (f.kind = 1 ∧ f.flags &&& 1 ≠ 0) ∧ f.payload.length ≤ maxPayload)
    ⟨fun ⟨kind, flags, sequence, sequence_lt, message, session, request, payload⟩ =>
      ⟨kind, flags, sequence, sequence_lt, message, session, request, payload⟩,
    fun h => ⟨h.kind, h.flags, h.sequence, h.sequence_lt, h.message, h.session, h.request,
      h.payload⟩⟩

/-- The header of a frame, up to the size of the payload. -/
def Frame.front (f : Frame) : Bytes :=
  literal "FLNK" ++ [2, f.kind, f.opcode, f.subject, f.decision, f.flags, 0, 0] ++
    Writer.integer f.sequence 8 ++ f.message.toList ++ f.session.toList

theorem Frame.front_length (f : Frame) : f.front.length = 52 := by
  have hmagic : (literal "FLNK").length = 4 := by decide
  unfold Frame.front Writer.integer
  simp only [List.length_append, hmagic, List.length_cons, List.length_nil,
    LittleEndian.encode_length, Vector.length_toList]

theorem frameBytes_eq (f : Frame) :
    frameBytes f = f.front ++ (LittleEndian.encode f.payload.length 4 ++ f.payload) := by
  unfold frameBytes Frame.front Writer.integer
  rw [List.append_assoc]

theorem frameBytes_length (f : Frame) : (frameBytes f).length = headerSize + f.payload.length := by
  rw [frameBytes_eq, List.length_append, List.length_append, f.front_length,
    LittleEndian.encode_length]
  unfold headerSize
  omega

/-- The header declares the size of the payload. -/
theorem payloadSize_eq_ok {header : Bytes} {size : Nat} :
    payloadSize header = .ok size ↔
      header.length = headerSize ∧ size ≤ maxPayload ∧
        header.drop 52 = LittleEndian.encode size 4 := by
  unfold payloadSize
  split_ifs with hlength
  · constructor
    · intro h
      cases h
    · intro h
      exact absurd h.1 hlength
  have hheader : header.length = headerSize := not_not.mp hlength
  have htail : (header.drop 52).length = 4 := by
    rw [List.length_drop, hheader]
    rfl
  -- four bytes are always a number
  have hread : Reader.u32.run (header.drop 52) = .ok (LittleEndian.decode (header.drop 52)) := by
    refine Reader.run_eq_ok.mpr ⟨[], Reader.u32_eq_ok.mpr ⟨?_, ?_⟩⟩
    · have hlt := LittleEndian.decode_lt (header.drop 52)
      rwa [htail] at hlt
    · have hencode := LittleEndian.encode_decode (header.drop 52)
      rw [htail] at hencode
      rw [hencode, List.append_nil]
  have hsize : header.drop 52 = LittleEndian.encode size 4 ∧ size < 256 ^ 4 ↔
      LittleEndian.decode (header.drop 52) = size := by
    constructor
    · intro h
      rw [h.1, LittleEndian.decode_encode h.2]
    · intro h
      have hencode := LittleEndian.encode_decode (header.drop 52)
      have hlt := LittleEndian.decode_lt (header.drop 52)
      rw [htail, h] at hencode hlt
      exact ⟨hencode.symm, hlt⟩
  have hbound : maxPayload < 256 ^ 4 := by decide
  change (Reader.u32.run (header.drop 52)).bind _ = _ ↔ _
  rw [hread]
  change (if maxPayload < LittleEndian.decode (header.drop 52) then _ else _) = _ ↔ _
  generalize LittleEndian.decode (header.drop 52) = declared at hsize
  split_ifs with hlimit
  · constructor
    · intro h
      cases h
    · intro h
      have hdeclared := hsize.mp ⟨h.2.2, by omega⟩
      omega
  · rw [Except.ok.injEq]
    constructor
    · intro h
      exact ⟨hheader, by omega, (hsize.mpr h).1⟩
    · intro h
      exact hsize.mp ⟨h.2.2, by omega⟩

/-- The fields of a frame are read as they are written. -/
theorem frameFields_eq_ok {size : Nat} {data rest : Bytes} {f : Frame} :
    frameFields size data = .ok (f, rest) ↔
      (1 ≤ f.kind ∧ f.kind ≤ 2) ∧ f.flags &&& ~~~3 = 0 ∧ f.sequence ≠ 0 ∧
        f.sequence < 256 ^ 8 ∧ nonzero f.message.toList = true ∧
        (f.flags &&& 2 ≠ 0 ↔ nonzero f.session.toList = true) ∧
        ¬ (f.kind = 1 ∧ f.flags &&& 1 ≠ 0) ∧ f.payload.length = size ∧
        ∃ declared < 256 ^ 4,
          data = f.front ++ (LittleEndian.encode declared 4 ++ (f.payload ++ rest)) := by
  have hmagic : (literal "FLNK").length = 4 := by decide
  have hzero : LittleEndian.encode 0 2 = [0, 0] := by decide
  unfold frameFields
  constructor
  · intro h
    obtain ⟨magic, d₁, hmagic', h⟩ := bind_eq_ok.mp h
    obtain ⟨_, d₂, hname, h⟩ := bind_eq_ok.mp h
    obtain ⟨version, d₃, hversion, h⟩ := bind_eq_ok.mp h
    obtain ⟨_, d₄, htwo, h⟩ := bind_eq_ok.mp h
    obtain ⟨kind, d₅, hkind, h⟩ := bind_eq_ok.mp h
    obtain ⟨opcode, d₆, hopcode, h⟩ := bind_eq_ok.mp h
    obtain ⟨subject, d₇, hsubject, h⟩ := bind_eq_ok.mp h
    obtain ⟨decision, d₈, hdecision, h⟩ := bind_eq_ok.mp h
    obtain ⟨flags, d₉, hflags, h⟩ := bind_eq_ok.mp h
    obtain ⟨reserved, d₁₀, hreserved, h⟩ := bind_eq_ok.mp h
    obtain ⟨_, d₁₁, hnone, h⟩ := bind_eq_ok.mp h
    obtain ⟨sequence, d₁₂, hsequence, h⟩ := bind_eq_ok.mp h
    obtain ⟨message, d₁₃, hmessage, h⟩ := bind_eq_ok.mp h
    obtain ⟨session, d₁₄, hsession, h⟩ := bind_eq_ok.mp h
    obtain ⟨declared, d₁₅, hdeclared, h⟩ := bind_eq_ok.mp h
    obtain ⟨_, d₁₆, hrules, h⟩ := bind_eq_ok.mp h
    obtain ⟨payload, d₁₇, hpayload, h⟩ := bind_eq_ok.mp h
    obtain ⟨rfl, rfl⟩ := Prod.mk.inj (pure_eq_ok.mp h)
    rw [Reader.take_eq_ok] at hmagic' hpayload
    rw [require_eq_ok, Prod.mk.injEq] at hname htwo hnone hrules
    rw [Reader.u8_eq_ok] at hversion hopcode hsubject hdecision
    rw [Reader.choice_eq_ok] at hkind
    rw [Reader.mask_eq_ok] at hflags
    rw [Reader.u16_eq_ok] at hreserved
    rw [Reader.u64_eq_ok] at hsequence
    rw [Reader.u32_eq_ok] at hdeclared
    rw [Reader.identity_eq_ok] at hmessage hsession
    obtain ⟨hnonzero, hmessage', hsession', hrequest⟩ := hrules.1
    refine ⟨hkind.2, hflags.2, hnonzero, hsequence.1, hmessage', hsession', hrequest, hpayload.2,
      declared, hdeclared.1, ?_⟩
    rw [hmagic'.1, hname.1, ← hname.2.2, hversion, htwo.1, ← htwo.2.2, hkind.1, hopcode, hsubject,
      hdecision, hflags.1, hreserved.2, hnone.1, ← hnone.2.2, hsequence.2, hmessage, hsession,
      hdeclared.2, ← hrules.2.2, hpayload.1]
    unfold Frame.front Writer.integer
    rw [hzero]
    simp only [List.append_assoc, List.cons_append, List.nil_append]
  · intro h
    obtain ⟨hkind, hflags, hnonzero, hsequence, hmessage, hsession, hrequest, hsize, declared,
      hdeclared, rfl⟩ := h
    have hfront : f.front ++ (LittleEndian.encode declared 4 ++ (f.payload ++ rest)) =
        literal "FLNK" ++ 2 :: f.kind :: f.opcode :: f.subject :: f.decision :: f.flags ::
          (LittleEndian.encode 0 2 ++ (LittleEndian.encode f.sequence 8 ++ (f.message.toList ++
            (f.session.toList ++ (LittleEndian.encode declared 4 ++ (f.payload ++ rest)))))) := by
      unfold Frame.front Writer.integer
      rw [hzero]
      simp only [List.append_assoc, List.cons_append, List.nil_append]
    rw [hfront]
    refine bind_eq_ok.mpr ⟨_, _, Reader.take_eq_ok.mpr ⟨rfl, hmagic⟩, ?_⟩
    refine bind_eq_ok.mpr ⟨_, _, require_eq_ok.mpr ⟨rfl, rfl⟩, ?_⟩
    refine bind_eq_ok.mpr ⟨_, _, Reader.u8_eq_ok.mpr rfl, ?_⟩
    refine bind_eq_ok.mpr ⟨_, _, require_eq_ok.mpr ⟨rfl, rfl⟩, ?_⟩
    refine bind_eq_ok.mpr ⟨_, _, Reader.choice_eq_ok.mpr ⟨rfl, hkind⟩, ?_⟩
    refine bind_eq_ok.mpr ⟨_, _, Reader.u8_eq_ok.mpr rfl, ?_⟩
    refine bind_eq_ok.mpr ⟨_, _, Reader.u8_eq_ok.mpr rfl, ?_⟩
    refine bind_eq_ok.mpr ⟨_, _, Reader.u8_eq_ok.mpr rfl, ?_⟩
    refine bind_eq_ok.mpr ⟨_, _, Reader.mask_eq_ok.mpr ⟨rfl, hflags⟩, ?_⟩
    refine bind_eq_ok.mpr ⟨_, _, Reader.u16_eq_ok.mpr ⟨by decide, rfl⟩, ?_⟩
    refine bind_eq_ok.mpr ⟨_, _, require_eq_ok.mpr ⟨rfl, rfl⟩, ?_⟩
    refine bind_eq_ok.mpr ⟨_, _, Reader.u64_eq_ok.mpr ⟨hsequence, rfl⟩, ?_⟩
    refine bind_eq_ok.mpr ⟨_, _, Reader.identity_eq_ok.mpr rfl, ?_⟩
    refine bind_eq_ok.mpr ⟨_, _, Reader.identity_eq_ok.mpr rfl, ?_⟩
    refine bind_eq_ok.mpr ⟨_, _, Reader.u32_eq_ok.mpr ⟨hdeclared, rfl⟩, ?_⟩
    refine bind_eq_ok.mpr ⟨_, _, require_eq_ok.mpr
      ⟨⟨hnonzero, hmessage, hsession, hrequest⟩, rfl⟩, ?_⟩
    exact bind_eq_ok.mpr ⟨_, _, Reader.take_eq_ok.mpr ⟨rfl, hsize⟩, rfl⟩

/-- **A frame is decoded exactly from its own bytes.** -/
theorem decodeFrame_eq_ok {bytes : Bytes} {f : Frame} :
    decodeFrame bytes = .ok f ↔ f.Valid ∧ bytes = frameBytes f := by
  have hdecode : decodeFrame bytes = .ok f ↔
      ∃ size, payloadSize (bytes.take headerSize) = .ok size ∧
        bytes.length = headerSize + size ∧ (frameFields size).run bytes = .ok f := by
    unfold decodeFrame
    split_ifs with hshort
    · constructor
      · intro h
        cases h
      · intro h
        obtain ⟨size, _, hlength, _⟩ := h
        omega
    · cases hsize : payloadSize (bytes.take headerSize) with
      | error e => simp [bind, Except.bind]
      | ok size =>
          simp only [bind, Except.bind, Except.ok.injEq, exists_eq_left']
          split_ifs with hlength
          · simp [hlength]
          · simp [not_not.mp hlength]
  rw [hdecode]
  simp only [payloadSize_eq_ok, Reader.run_eq_ok, frameFields_eq_ok]
  constructor
  · intro h
    obtain ⟨size, ⟨_, hlimit, hsize⟩, hlength, rest, hkind, hflags, hsequence, hlt, hmessage,
      hsession, hrequest, hpayload, declared, hdeclared, rfl⟩ := h
    have hrest : rest = [] := by
      simp only [List.length_append, f.front_length, LittleEndian.encode_length] at hlength
      unfold headerSize at hlength
      rw [← List.length_eq_zero_iff]
      omega
    have htail : declared = size := by
      have hfour := LittleEndian.encode_length declared 4
      have hcut : ((f.front ++ (LittleEndian.encode declared 4 ++ (f.payload ++ rest))).take
          headerSize).drop 52 = LittleEndian.encode declared 4 := by
        rw [List.drop_take, List.drop_left' f.front_length]
        exact List.take_left' hfour
      have hbound : maxPayload < 256 ^ 4 := by decide
      have hdecoded := congrArg LittleEndian.decode (hcut.symm.trans hsize)
      rwa [LittleEndian.decode_encode hdeclared, LittleEndian.decode_encode (by omega)] at hdecoded
    refine ⟨⟨hkind, hflags, hsequence, hlt, hmessage, hsession, hrequest, by omega⟩, ?_⟩
    rw [frameBytes_eq, hrest, List.append_nil, htail, hpayload]
  · intro h
    obtain ⟨hvalid, rfl⟩ := h
    have hlength := frameBytes_length f
    refine ⟨f.payload.length, ⟨?_, hvalid.payload, ?_⟩, hlength, [], hvalid.kind, hvalid.flags,
      hvalid.sequence, hvalid.sequence_lt, hvalid.message, hvalid.session, hvalid.request, rfl,
      f.payload.length, ?_, ?_⟩
    · rw [List.length_take, hlength]
      omega
    · rw [frameBytes_eq, List.drop_take, List.drop_left' f.front_length]
      exact List.take_left' (LittleEndian.encode_length _ 4)
    · exact lt_of_le_of_lt hvalid.payload (by decide)
    · rw [frameBytes_eq, List.append_nil]

theorem encodeFrame_eq_ok {f : Frame} {bytes : Bytes} :
    encodeFrame f = .ok bytes ↔ f.payload.length ≤ maxPayload ∧ bytes = frameBytes f := by
  unfold encodeFrame encodeFrameInto
  by_cases h : maxPayload < f.payload.length
  · rw [if_pos h]
    constructor
    · intro hencode
      cases hencode
    · intro hencode
      omega
  · rw [if_neg h, if_neg h, if_neg (lt_irrefl _), Except.ok.injEq]
    constructor
    · intro hencode
      exact ⟨by omega, hencode.symm⟩
    · intro hencode
      exact hencode.2.symm

end FluidGateway.Native
