import PersonalVpn.Lib.StreamParser
import PersonalVpn.Protocol.Frame

namespace PersonalVpn.Protocol

/-- The header and payload of a frame as they stand on the wire. -/
def wireBytes (f : Frame) : Bytes :=
  BigEndian.bytes 4 kMagic.toNat ++ ([kVersion, f.type.raw] ++ (BigEndian.bytes 2 f.flags.toNat ++
    (BigEndian.bytes 4 f.payload.length ++ (BigEndian.bytes 8 f.sequence.toNat ++ f.payload))))

/-- What the frame format admits. -/
def WellFormed (f : Frame) : Prop := f.flags = 0 ∧ f.payload.length ≤ kMaxPayloadSize

instance (f : Frame) : Decidable (WellFormed f) := inferInstanceAs (Decidable (_ ∧ _))

theorem length_wireBytes (f : Frame) : (wireBytes f).length = kHeaderSize + f.payload.length := by
  simp [wireBytes, kHeaderSize]
  omega

theorem isKnownMessageType_raw (t : MessageType) : isKnownMessageType t.raw = true := by
  cases t <;> rfl

theorem ofRaw_raw (t : MessageType) : MessageType.ofRaw t.raw = t := by
  cases t <;> rfl

theorem raw_ofRaw {raw : UInt8} (h : isKnownMessageType raw = true) :
    (MessageType.ofRaw raw).raw = raw := by
  unfold MessageType.ofRaw
  split_ifs with h1 h2 h3 h4 h5 h7 h8
  · exact h1.symm
  · exact h2.symm
  · exact h3.symm
  · exact h4.symm
  · exact h5.symm
  · exact h7.symm
  · exact h8.symm
  · -- the only known value left is that of `error`
    apply UInt8.toNat_inj.mp
    simp only [isKnownMessageType, Bool.and_eq_true, decide_eq_true_eq, MessageType.raw,
      UInt8.le_iff_toNat_le] at h
    simp only [← UInt8.toNat_inj] at h1 h2 h3 h4 h5 h7 h8
    change 6 = raw.toNat
    simp at h h1 h2 h3 h4 h5 h7 h8
    omega

theorem encodeFrame_ok_iff (f : Frame) (b : Bytes) :
    encodeFrame f = .ok b ↔ WellFormed f ∧ b = wireBytes f := by
  unfold encodeFrame WellFormed
  rw [isKnownMessageType_raw, if_neg (by decide)]
  by_cases hf : f.flags = 0
  · by_cases hp : f.payload.length ≤ kMaxPayloadSize
    · have hp32 : f.payload.length < 2 ^ 32 := by simp only [kMaxPayloadSize] at hp; omega
      have hlen : (UInt32.ofNat f.payload.length).toNat = f.payload.length := by
        rw [UInt32.toNat_ofNat']
        exact Nat.mod_eq_of_lt hp32
      rw [if_neg (by simpa using hf), if_neg (by omega)]
      simp only [appendU32_eq, appendU16_eq, appendU64_eq, hlen, hf, hp, true_and, Except.ok.injEq,
        List.nil_append, List.append_assoc, wireBytes, List.cons_append, eq_comm]
    · rw [if_neg (by simpa using hf), if_pos (by omega)]
      simp [hp]
  · rw [if_pos hf]
    simp [hf]

/-- One step of the reference parser: the checks of the decoder loop on the bytes ahead. -/
def nextFrame (s : Bytes) : Attempt UInt8 Frame ProtocolError :=
  if s.length < kHeaderSize then .incomplete
  else if readU32 s ≠ kMagic then .bad ⟨.invalidMagic, text "invalid tunnel frame magic"⟩
  else if byteAt s 4 ≠ kVersion then
    .bad ⟨.unsupportedVersion, text "unsupported tunnel protocol version"⟩
  else if !isKnownMessageType (byteAt s 5) then
    .bad ⟨.unknownMessageType, text "unknown tunnel message type"⟩
  else if readU16 (s.drop 6) ≠ 0 then
    .bad ⟨.unsupportedFlags, text "unsupported tunnel frame flags"⟩
  else if (readU32 (s.drop 8)).toNat > kMaxPayloadSize then
    .bad ⟨.payloadTooLarge, text "declared payload exceeds the protocol limit"⟩
  else if s.length < kHeaderSize + (readU32 (s.drop 8)).toNat then .incomplete
  else .item
    ⟨MessageType.ofRaw (byteAt s 5), readU16 (s.drop 6), readU64 (s.drop 12),
      (s.drop kHeaderSize).take (readU32 (s.drop 8)).toNat⟩
    (s.drop (kHeaderSize + (readU32 (s.drop 8)).toNat))

/-! The verdict on a header never changes when more bytes arrive. -/

private theorem readU16_append {s : Bytes} (h : 2 ≤ s.length) (t : Bytes) :
    readU16 (s ++ t) = readU16 s := by
  simp only [readU16, byteAt_append_left (show 0 < s.length by omega),
    byteAt_append_left (show 1 < s.length by omega)]

private theorem readU32_append {s : Bytes} (h : 4 ≤ s.length) (t : Bytes) :
    readU32 (s ++ t) = readU32 s := by
  simp only [readU32, byteAt_append_left (show 0 < s.length by omega),
    byteAt_append_left (show 1 < s.length by omega),
    byteAt_append_left (show 2 < s.length by omega),
    byteAt_append_left (show 3 < s.length by omega)]

private theorem readU64_append {s : Bytes} (h : 8 ≤ s.length) (t : Bytes) :
    readU64 (s ++ t) = readU64 s := by
  apply UInt64.toNat_inj.mp
  rw [readU64_eq h, readU64_eq (by simp; omega), List.take_append_of_le_length h]

/-- Every field of a complete header is read the same with more bytes behind it. -/
private theorem header_append {s : Bytes} (h : kHeaderSize ≤ s.length) (t : Bytes) :
    readU32 (s ++ t) = readU32 s ∧ byteAt (s ++ t) 4 = byteAt s 4 ∧
      byteAt (s ++ t) 5 = byteAt s 5 ∧ readU16 ((s ++ t).drop 6) = readU16 (s.drop 6) ∧
      readU32 ((s ++ t).drop 8) = readU32 (s.drop 8) ∧
      readU64 ((s ++ t).drop 12) = readU64 (s.drop 12) := by
  simp only [kHeaderSize] at h
  refine ⟨readU32_append (by omega) t, byteAt_append_left (by omega) t,
    byteAt_append_left (by omega) t, ?_, ?_, ?_⟩
  · rw [List.drop_append_of_le_length (by omega), readU16_append (by simp; omega)]
  · rw [List.drop_append_of_le_length (by omega), readU32_append (by simp; omega)]
  · rw [List.drop_append_of_le_length (by omega), readU64_append (by simp; omega)]

theorem nextFrame_item {s rest : Bytes} {f : Frame} (h : nextFrame s = .item f rest) :
    WellFormed f ∧ s = wireBytes f ++ rest := by
  unfold nextFrame at h
  split_ifs at h with hlen hmagic hver hknown hflags hmax hpay
  simp only [not_not] at hmagic hver hflags
  obtain ⟨rfl, rfl⟩ := Attempt.item.inj h
  set n := (readU32 (s.drop 8)).toNat with hn
  have hs : kHeaderSize + n ≤ s.length := by omega
  simp only [kHeaderSize] at hlen hs ⊢
  have hplen : ((s.drop 20).take n).length = n := by simp; omega
  refine ⟨⟨hflags, by rw [hplen]; omega⟩, ?_⟩
  have hknown' : isKnownMessageType (byteAt s 5) = true := by simpa using hknown
  have h4 : s.drop 4 = byteAt s 4 :: byteAt s 5 :: s.drop 6 := by
    rw [List.drop_eq_getElem_cons (by omega), List.drop_eq_getElem_cons (by omega)]
    simp [byteAt, show 4 < s.length by omega, show 5 < s.length by omega]
  simp only [wireBytes, hplen]
  rw [raw_ofRaw hknown', ← hmagic, ← hver, bytes_readU32 (by omega), bytes_readU16 (by simp; omega),
    hn, bytes_readU32 (by simp; omega), bytes_readU64 (by simp; omega)]
  simp only [List.append_assoc, List.cons_append, List.nil_append]
  rw [← List.drop_drop, List.take_append_drop, show s.drop 20 = (s.drop 12).drop 8 by simp,
    List.take_append_drop, show s.drop 12 = (s.drop 8).drop 4 by simp, List.take_append_drop,
    show s.drop 8 = (s.drop 6).drop 2 by simp, List.take_append_drop, ← h4, List.take_append_drop]

theorem nextFrame_wireBytes {f : Frame} (h : WellFormed f) (t : Bytes) :
    nextFrame (wireBytes f ++ t) = .item f t := by
  obtain ⟨hflags, hmax⟩ := h
  have hp32 : f.payload.length < 2 ^ 32 := by simp only [kMaxPayloadSize] at hmax; omega
  have hlen : (UInt32.ofNat f.payload.length).toNat = f.payload.length := by
    rw [UInt32.toNat_ofNat']
    exact Nat.mod_eq_of_lt hp32
  set w := wireBytes f ++ t with hw
  have hw0 : w = BigEndian.bytes 4 kMagic.toNat ++ (kVersion :: f.type.raw ::
      (BigEndian.bytes 2 f.flags.toNat ++ (BigEndian.bytes 4 (UInt32.ofNat f.payload.length).toNat ++
        (BigEndian.bytes 8 f.sequence.toNat ++ (f.payload ++ t))))) := by
    simp [hw, wireBytes, hlen]
  have hwlen : w.length = kHeaderSize + f.payload.length + t.length := by
    rw [hw, List.length_append, length_wireBytes]
  have hd6 : w.drop 6 = BigEndian.bytes 2 f.flags.toNat ++
      (BigEndian.bytes 4 (UInt32.ofNat f.payload.length).toNat ++
        (BigEndian.bytes 8 f.sequence.toNat ++ (f.payload ++ t))) := by
    rw [hw0]; rfl
  have hd8 : w.drop 8 = BigEndian.bytes 4 (UInt32.ofNat f.payload.length).toNat ++
      (BigEndian.bytes 8 f.sequence.toNat ++ (f.payload ++ t)) := by
    rw [show w.drop 8 = (w.drop 6).drop 2 by simp, hd6]; rfl
  have hd12 : w.drop 12 = BigEndian.bytes 8 f.sequence.toNat ++ (f.payload ++ t) := by
    rw [show w.drop 12 = (w.drop 8).drop 4 by simp, hd8]; rfl
  have hd20 : w.drop 20 = f.payload ++ t := by
    rw [show w.drop 20 = (w.drop 12).drop 8 by simp, hd12]; rfl
  have hmagic : readU32 w = kMagic := by rw [hw0]; simp
  have hver : byteAt w 4 = kVersion := by rw [hw0]; rfl
  have htype : byteAt w 5 = f.type.raw := by rw [hw0]; rfl
  have hsize : (readU32 (w.drop 8)).toNat = f.payload.length := by rw [hd8, readU32_bytes, hlen]
  unfold nextFrame
  rw [hmagic, hver, htype, hsize, hd6, hd12, readU16_bytes, readU64_bytes, isKnownMessageType_raw,
    if_neg (by omega), if_neg (by simp), if_neg (by simp), if_neg (by simp),
    if_neg (by simpa using hflags), if_neg (by omega), if_neg (by omega), ← List.drop_drop,
    show kHeaderSize = 20 from rfl, hd20, ofRaw_raw]
  simp

theorem nextFrame_item_stable {s rest : Bytes} {f : Frame} (h : nextFrame s = .item f rest)
    (t : Bytes) : nextFrame (s ++ t) = .item f (rest ++ t) := by
  obtain ⟨hwf, rfl⟩ := nextFrame_item h
  rw [List.append_assoc, nextFrame_wireBytes hwf]

theorem nextFrame_bad_stable {s : Bytes} {e : ProtocolError} (h : nextFrame s = .bad e)
    (t : Bytes) : nextFrame (s ++ t) = .bad e := by
  unfold nextFrame at h
  split_ifs at h with hlen hmagic hver hknown hflags hmax hpay
  all_goals
    have hs : kHeaderSize ≤ s.length := by omega
    obtain ⟨h0, h4, h5, h6, h8, -⟩ := header_append hs t
    unfold nextFrame
    rw [h0, h4, h5, h6, h8, if_neg (by simp; omega)]
    simp_all

/-- The frame format as a stream parser. -/
def frameParser : StreamParser UInt8 Frame ProtocolError where
  next := nextFrame
  item_shrinks := by
    intro s f rest h
    obtain ⟨-, rfl⟩ := nextFrame_item h
    simp [length_wireBytes, kHeaderSize]
  item_stable := nextFrame_item_stable
  bad_stable := nextFrame_bad_stable

theorem frameCodec : frameParser.Codec WellFormed wireBytes :=
  ⟨fun h => nextFrame_wireBytes h, fun h => nextFrame_item h⟩

end PersonalVpn.Protocol
