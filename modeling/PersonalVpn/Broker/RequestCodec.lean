import PersonalVpn.Broker.BrokerProtocol
import PersonalVpn.Lib.Codec
import PersonalVpn.Lib.LittleEndian

namespace PersonalVpn.Broker

theorem rejectIf_bind_ok {c : Prop} [Decidable c] {what : Bytes} {α : Type}
    {k : Unit → Except Fault α} {r : α} :
    (rejectIf c what >>= k) = .ok r ↔ ¬c ∧ k () = .ok r := by
  by_cases h : c <;> simp [rejectIf, h, bind, Except.bind]

theorem rejectIf_eq_ok {c : Prop} [Decidable c] (h : ¬c) (what : Bytes) :
    rejectIf c what = .ok () := by
  simp [rejectIf, h]

/-! ### Reads inside the vector -/

/-- The `n` bytes from `offset` on. -/
def slice (input : Bytes) (offset n : Nat) : Bytes := (input.drop offset).take n

theorem length_slice {input : Bytes} {offset n : Nat} (h : offset + n ≤ input.length) :
    (slice input offset n).length = n := by
  simp [slice]
  omega

theorem slice_succ {input : Bytes} {offset n : Nat} (h : offset + n < input.length) :
    slice input offset (n + 1) = slice input offset n ++ [byteAt input (offset + n)] := by
  have hn : n < (input.drop offset).length := by simp; omega
  have hbyte : (input.drop offset)[n] = byteAt input (offset + n) := by simp [byteAt, h]
  rw [slice, slice, List.take_succ_eq_append_getElem hn, hbyte]

theorem slice_append_drop (input : Bytes) (offset n : Nat) :
    slice input offset n ++ input.drop (offset + n) = input.drop offset := by
  rw [slice, ← List.drop_drop, List.take_append_drop]

theorem subscript_eq {input : Bytes} {index : Nat} (h : index < input.length) :
    subscript input index = .ok (byteAt input index) := by
  simp [subscript, byteAt, h]

theorem suffix_eq {input : Bytes} {offset : Nat} (h : offset ≤ input.length) :
    suffix input offset = .ok (input.drop offset) := by
  simp [suffix, h]

/-- One round of the read loop, as long as the word is wide enough. -/
private theorem shift_in {w : Nat} (bs : Bytes) (b : UInt8) (hw : 8 * (bs.length + 1) ≤ w) :
    BitVec.ofNat w (LittleEndian.value bs) ||| (b.toBitVec.setWidth w <<< (bs.length * 8)) =
      BitVec.ofNat w (LittleEndian.value (bs ++ [b])) := by
  have hsum := LittleEndian.value_or_shiftLeft bs b
  have hpow : (256 : Nat) ^ (bs.length + 1) = 2 ^ (8 * (bs.length + 1)) := by
    rw [pow_mul]
    rfl
  have hle : (2 : Nat) ^ (8 * (bs.length + 1)) ≤ 2 ^ w := Nat.pow_le_pow_right (by decide) hw
  have hall : LittleEndian.value (bs ++ [b]) < 2 ^ w := by
    have hlt := LittleEndian.value_lt (bs ++ [b])
    simp only [List.length_append, List.length_singleton] at hlt
    omega
  have hold : LittleEndian.value bs < 2 ^ w := by
    have hval := LittleEndian.value_concat bs b
    omega
  have hshift : b.toNat <<< (8 * bs.length) < 2 ^ w := by
    have hval := LittleEndian.value_concat bs b
    have hb : b.toNat <<< (8 * bs.length) = b.toNat * 256 ^ bs.length := by
      rw [Nat.shiftLeft_eq, pow_mul]
      rfl
    omega
  have hbyte : b.toNat < 2 ^ w := by
    have hle8 : (2 : Nat) ^ 8 ≤ 2 ^ w := Nat.pow_le_pow_right (by decide) (by omega)
    have hb := b.toNat_lt
    omega
  apply BitVec.eq_of_toNat_eq
  rw [BitVec.toNat_or, BitVec.toNat_shiftLeft, BitVec.toNat_setWidth, BitVec.toNat_ofNat,
    BitVec.toNat_ofNat, Nat.mod_eq_of_lt hold, Nat.mod_eq_of_lt hall, ← hsum, Nat.mul_comm]
  change _ ||| (b.toNat % 2 ^ w) <<< (8 * bs.length) % 2 ^ w = _
  rw [Nat.mod_eq_of_lt hbyte, Nat.mod_eq_of_lt hshift]

/-- The loop reads inside the vector and gives the little-endian value of its bytes. -/
theorem readLoop_eq {w : Nat} {input : Bytes} {offset count : Nat}
    (h : offset + count ≤ input.length) (hw : 8 * count ≤ w) :
    readLoop w input offset count =
      .ok (BitVec.ofNat w (LittleEndian.value (slice input offset count))) := by
  induction count with
  | zero => simp [readLoop, slice, LittleEndian.value, pure, Except.pure]
  | succ n ih =>
    have hlen : (slice input offset n).length = n := length_slice (by omega)
    have hround := shift_in (w := w) (slice input offset n) (byteAt input (offset + n))
      (by omega)
    rw [hlen] at hround
    have hn := ih (by omega) (by omega)
    rw [readLoop] at hn ⊢
    rw [List.range_succ, List.foldlM_append, hn, slice_succ (by omega), ← hround]
    simp [subscript_eq (show offset + n < input.length by omega), bind, Except.bind, pure,
      Except.pure]

theorem readU32_eq {input : Bytes} {offset : Nat} (h : offset + 4 ≤ input.length) :
    readU32 input offset = .ok (UInt32.ofNat (LittleEndian.value (slice input offset 4))) := by
  rw [readU32, readLoop_eq h (by decide)]
  rfl

theorem readU64_eq {input : Bytes} {offset : Nat} (h : offset + 8 ≤ input.length) :
    readU64 input offset = .ok (UInt64.ofNat (LittleEndian.value (slice input offset 8))) := by
  rw [readU64, readLoop_eq h (by decide)]
  rfl

theorem readU16_eq {input : Bytes} {offset : Nat} (h : offset + 2 ≤ input.length) :
    readU16 input offset = .ok (UInt16.ofNat (LittleEndian.value (slice input offset 2))) := by
  have hslice : slice input offset 2 = [byteAt input offset, byteAt input (offset + 1)] := by
    rw [slice_succ (by omega), slice_succ (by omega)]
    simp [slice]
  have hword : (byteAt input offset).toUInt16 ||| ((byteAt input (offset + 1)).toUInt16 <<< 8) =
      UInt16.ofNat (LittleEndian.value (slice input offset 2)) := by
    have ha := (byteAt input offset).toNat_lt
    have hb := (byteAt input (offset + 1)).toNat_lt
    have hsum := LittleEndian.value_or_shiftLeft [byteAt input offset] (byteAt input (offset + 1))
    apply UInt16.toNat_inj.mp
    rw [hslice, UInt16.toNat_ofNat', ← List.singleton_append, ← hsum]
    simp only [UInt16.toNat_or, UInt16.toNat_shiftLeft, UInt8.toNat_toUInt16, LittleEndian.value,
      List.length_singleton]
    change (byteAt input offset).toNat ||| (byteAt input (offset + 1)).toNat <<< 8 % 2 ^ 16 =
      ((byteAt input offset).toNat + 256 * 0 ||| (byteAt input (offset + 1)).toNat <<< 8) % 2 ^ 16
    rw [Nat.or_mod_two_pow, Nat.mod_eq_of_lt (show _ + 256 * 0 < 2 ^ 16 by omega)]
    rfl
  rw [readU16, subscript_eq (by omega), subscript_eq (by omega), ← hword]
  rfl

/-! ### What is written -/

private theorem and_255 (n : Nat) : n % 256 &&& 255 = n % 256 := by
  rw [Nat.and_two_pow_sub_one_eq_mod _ 8, Nat.mod_mod]

theorem appendU16_eq (output : Bytes) (value : UInt16) :
    appendU16 output value = output ++ LittleEndian.bytes 2 value.toNat := by
  have low : (value &&& 0xFF).toUInt8 = UInt8.ofNat (value.toNat % 256) := by
    apply UInt8.toNat_inj.mp
    simp [and_255]
  have high : ((value >>> 8) &&& 0xFF).toUInt8 = UInt8.ofNat (value.toNat / 256 % 256) := by
    apply UInt8.toNat_inj.mp
    simp [Nat.shiftRight_eq_div_pow, and_255]
  simp [appendU16, low, high, LittleEndian.bytes]

theorem appendU64_eq (output : Bytes) (value : UInt64) :
    appendU64 output value = output ++ LittleEndian.bytes 8 value.toNat := by
  rw [LittleEndian.bytes_eq_map_shiftRight]
  simp only [appendU64, List.range_eq_range', List.range', List.foldl_cons, List.foldl_nil,
    List.append_assoc, List.cons_append, List.nil_append, List.append_cancel_left_eq,
    List.map_cons, List.map_nil, List.cons.injEq, and_true]
  refine ⟨?_, ?_, ?_, ?_, ?_, ?_, ?_, ?_⟩
  all_goals
    apply UInt8.toNat_inj.mp
    simp [and_255]

theorem setBodyLength_eq (a b c d : UInt8) (body : Bytes) (n : UInt32) :
    setBodyLength (a :: b :: c :: d :: body) n = LittleEndian.bytes 4 n.toNat ++ body := by
  rw [LittleEndian.bytes_eq_map_shiftRight]
  simp only [setBodyLength, List.range_eq_range', List.range', List.foldl_cons, List.foldl_nil,
    List.map_cons, List.map_nil, List.set, List.cons_append, List.nil_append, List.cons.injEq,
    and_true]
  refine ⟨?_, ?_, ?_, ?_⟩
  all_goals
    apply UInt8.toNat_inj.mp
    simp [and_255]

/-- What follows the header of a request. -/
def bodyBytes (r : Request) : Bytes :=
  if r.type = .connect then LittleEndian.bytes 2 r.profileId.length ++ r.profileId else []

/-- The bytes of a request. -/
def requestBytes (r : Request) : Bytes :=
  LittleEndian.bytes 4 (16 + (bodyBytes r).length) ++ (magic ++
    (LittleEndian.bytes 2 protocolVersion.toNat ++ (LittleEndian.bytes 2 r.type.value.toNat ++
      (LittleEndian.bytes 8 r.requestId.toNat ++ bodyBytes r))))

/-- The requests that have a frame. -/
structure ValidRequest (r : Request) : Prop where
  requestId : r.requestId ≠ 0
  type : r.type = .connect ∨ r.type = .disconnect ∨ r.type = .getStatus
  profileId : r.type = .connect → validProfileId r.profileId = true
  noProfileId : r.type ≠ .connect → r.profileId = []

theorem validProfileId_iff (p : Bytes) : validProfileId p = true ↔
    1 ≤ p.length ∧ p.length ≤ maximumProfileIdSize ∧ ∀ c ∈ p, profileCharacter c = true := by
  cases p with
  | nil => simp [validProfileId]
  | cons c p => simp [validProfileId]

theorem ValidRequest.length_bodyBytes {r : Request} (h : ValidRequest r) :
    (bodyBytes r).length ≤ 66 := by
  by_cases hc : r.type = .connect
  · have hp := (validProfileId_iff _).mp (h.profileId hc)
    simp only [maximumProfileIdSize] at hp
    simp [bodyBytes, hc]
    omega
  · simp [bodyBytes, hc]

theorem length_requestBytes (r : Request) :
    (requestBytes r).length = 20 + (bodyBytes r).length := by
  have hmagic : magic.length = 4 := by decide
  simp [requestBytes, hmagic]
  omega

/-- The switch appends the body of a request of a known type. -/
theorem appendBody_ok_iff (frame : Bytes) {r : Request} (hid : r.requestId ≠ 0) (f : Bytes) :
    appendBody frame r = .ok f ↔ ValidRequest r ∧ f = frame ++ bodyBytes r := by
  by_cases hc : r.type = .connect
  · simp only [appendBody, hc, if_true, throwIf_bind_ok, appendU16_eq, pure, Except.pure,
      Except.ok.injEq, Bool.not_eq_eq_eq_not, Bool.not_true, Bool.not_eq_false]
    have hsize (hv : validProfileId r.profileId = true) :
        frame ++ LittleEndian.bytes 2 (UInt16.ofNat r.profileId.length).toNat ++ r.profileId =
          frame ++ bodyBytes r := by
      have hp := (validProfileId_iff _).mp hv
      have hlt : r.profileId.length < 2 ^ 16 := by simp only [maximumProfileIdSize] at hp; omega
      rw [UInt16.toNat_ofNat', Nat.mod_eq_of_lt hlt]
      simp [bodyBytes, hc]
    constructor
    · rintro ⟨hv, rfl⟩
      exact ⟨⟨hid, .inl hc, fun _ => hv, fun hn => absurd hc hn⟩, hsize hv⟩
    · rintro ⟨hv, rfl⟩
      exact ⟨hv.profileId hc, hsize (hv.profileId hc)⟩
  · have hbody : bodyBytes r = [] := by simp [bodyBytes, hc]
    rw [hbody, List.append_nil, appendBody, if_neg hc]
    split
    · rename_i ht
      simp only [throwIf_bind_ok, pure, Except.pure, Except.ok.injEq]
      constructor
      · rintro ⟨hp, rfl⟩
        exact ⟨⟨hid, .inr ht, fun h => absurd h hc, fun _ => by simpa using hp⟩, rfl⟩
      · rintro ⟨hv, rfl⟩
        exact ⟨by simp [hv.noProfileId hc], rfl⟩
    · rename_i ht
      constructor
      · intro h
        cases h
      · rintro ⟨hv, -⟩
        exact absurd (hv.type.resolve_left hc) ht

/-- Exactly the valid requests have a frame. -/
theorem encodeRequest_ok_iff (r : Request) (f : Bytes) :
    encodeRequest r = .ok f ↔ ValidRequest r ∧ f = requestBytes r := by
  by_cases hid : r.requestId = 0
  · constructor
    · intro h
      simp [encodeRequest, hid] at h
    · rintro ⟨hv, -⟩
      exact absurd hid hv.requestId
  · have hframe : [0, 0, 0, 0] ++ magic ++ LittleEndian.bytes 2 protocolVersion.toNat ++
        LittleEndian.bytes 2 r.type.value.toNat ++ LittleEndian.bytes 8 r.requestId.toNat ++
        bodyBytes r = 0 :: 0 :: 0 :: 0 :: (requestBytes r).drop 4 := by
      simp [requestBytes]
    have hlen : ([0, 0, 0, 0] ++ magic ++ LittleEndian.bytes 2 protocolVersion.toNat ++
        LittleEndian.bytes 2 r.type.value.toNat ++ LittleEndian.bytes 8 r.requestId.toNat ++
        bodyBytes r).length = 20 + (bodyBytes r).length := by
      rw [hframe]
      simp [length_requestBytes]
      omega
    have hset (hb : (bodyBytes r).length ≤ 66) :
        setBodyLength (0 :: 0 :: 0 :: 0 :: (requestBytes r).drop 4)
          (UInt32.ofNat (20 + (bodyBytes r).length - 4)) = requestBytes r := by
      have hlt : 20 + (bodyBytes r).length - 4 < 2 ^ 32 := by omega
      rw [setBodyLength_eq, UInt32.toNat_ofNat', Nat.mod_eq_of_lt hlt]
      simp [requestBytes, show 20 + (bodyBytes r).length - 4 = 16 + (bodyBytes r).length by omega]
    simp only [encodeRequest, throwIf_bind_ok, appendU16_eq, appendU64_eq]
    rw [bind_eq_ok]
    constructor
    · rintro ⟨-, frame, hbody, hrest⟩
      obtain ⟨hv, rfl⟩ := (appendBody_ok_iff _ hid _).mp hbody
      obtain ⟨-, hf⟩ := throwIf_bind_ok.mp hrest
      refine ⟨hv, ?_⟩
      rw [hlen, hframe, hset hv.length_bodyBytes] at hf
      exact (Except.ok.inj hf).symm
    · rintro ⟨hv, rfl⟩
      have hb := hv.length_bodyBytes
      refine ⟨hid, _, (appendBody_ok_iff _ hid _).mpr ⟨hv, rfl⟩, throwIf_bind_ok.mpr ⟨?_, ?_⟩⟩
      · rw [hlen]
        simp only [maximumFrameSize]
        omega
      · rw [hlen, hframe, hset hb]
        rfl

/-! ### What a decode accepts -/

/-- The word at `offset` has the value `n` exactly when its bytes are those of `n`. -/
theorem value_slice_iff {input : Bytes} {offset w n : Nat} (h : offset + w ≤ input.length)
    (hn : n < 256 ^ w) :
    LittleEndian.value (slice input offset w) = n ↔
      slice input offset w = LittleEndian.bytes w n := by
  have hlen := length_slice h
  constructor
  · rintro rfl
    have hb := LittleEndian.bytes_value (slice input offset w)
    rw [hlen] at hb
    exact hb.symm
  · intro hs
    rw [hs, LittleEndian.value_bytes, Nat.mod_eq_of_lt hn]

theorem value_slice_lt {input : Bytes} {offset w : Nat} (h : offset + w ≤ input.length) :
    LittleEndian.value (slice input offset w) < 256 ^ w := by
  have hlt := LittleEndian.value_lt (slice input offset w)
  rwa [length_slice h] at hlt

/-! The words read are wide enough for their bytes. -/

theorem toNat_slice16 {input : Bytes} {offset : Nat} (h : offset + 2 ≤ input.length) :
    (UInt16.ofNat (LittleEndian.value (slice input offset 2))).toNat =
      LittleEndian.value (slice input offset 2) := by
  have hlt : LittleEndian.value (slice input offset 2) < 2 ^ 16 := value_slice_lt h
  rw [UInt16.toNat_ofNat', Nat.mod_eq_of_lt hlt]

theorem toNat_slice32 {input : Bytes} {offset : Nat} (h : offset + 4 ≤ input.length) :
    (UInt32.ofNat (LittleEndian.value (slice input offset 4))).toNat =
      LittleEndian.value (slice input offset 4) := by
  have hlt : LittleEndian.value (slice input offset 4) < 2 ^ 32 := value_slice_lt h
  rw [UInt32.toNat_ofNat', Nat.mod_eq_of_lt hlt]

theorem toNat_slice64 {input : Bytes} {offset : Nat} (h : offset + 8 ≤ input.length) :
    (UInt64.ofNat (LittleEndian.value (slice input offset 8))).toNat =
      LittleEndian.value (slice input offset 8) := by
  have hlt : LittleEndian.value (slice input offset 8) < 2 ^ 64 := value_slice_lt h
  rw [UInt64.toNat_ofNat', Nat.mod_eq_of_lt hlt]

/-- The loop over the magic number reads inside the frame, and is one check. -/
theorem checkMagic_eq {frame : Bytes} (h : 8 ≤ frame.length) :
    checkMagic frame = rejectIf (∃ i ∈ List.range magic.length,
      byteAt frame (4 + i) ≠ byteAt magic i) (text "broker frame magic is invalid") := by
  have hloop (indices : List Nat) (hi : ∀ i ∈ indices, 4 + i < frame.length) :
      (indices.forM fun index => do
        let byte ← subscript frame (4 + index)
        rejectIf (byte ≠ byteAt magic index) (text "broker frame magic is invalid")) =
      rejectIf (∃ i ∈ indices, byteAt frame (4 + i) ≠ byteAt magic i)
        (text "broker frame magic is invalid") := by
    induction indices with
    | nil => simp [rejectIf, pure, Except.pure]
    | cons i rest ih =>
      have hread := subscript_eq (hi i List.mem_cons_self)
      have hrest := ih fun j hj => hi j (List.mem_cons_of_mem i hj)
      simp only [List.forM_eq_forM, List.forM_cons, hread] at hrest ⊢
      rw [hrest]
      by_cases hb : byteAt frame (4 + i) = byteAt magic i <;>
        simp [rejectIf, hb, bind, Except.bind]
  have hlen : magic.length = 4 := by decide
  refine hloop _ fun i hi => ?_
  rw [hlen, List.mem_range] at hi
  omega

/-- No byte of the magic number is off. -/
theorem magic_iff {frame : Bytes} (h : 8 ≤ frame.length) :
    (¬∃ i ∈ List.range magic.length, byteAt frame (4 + i) ≠ byteAt magic i) ↔
      slice frame 4 4 = magic := by
  have hslice : slice frame 4 4 =
      [byteAt frame 4, byteAt frame 5, byteAt frame 6, byteAt frame 7] := by
    rw [slice_succ (by omega), slice_succ (by omega), slice_succ (by omega), slice_succ (by omega)]
    simp [slice]
  have hmagic : magic = [80, 86, 66, 82] := by decide
  have hcount : List.range ([80, 86, 66, 82] : Bytes).length = [0, 1, 2, 3] := by decide
  rw [hslice, hmagic, hcount]
  simp [byteAt]

/-- The body of a frame, after its header has been read. -/
theorem readBody_ok_iff {f : Bytes} (hge : 20 ≤ f.length) {type : RequestType} {id : UInt64}
    (hid : id ≠ 0) (r : Request) :
    readBody f ⟨type, id, []⟩ = .ok r ↔
      r.type = type ∧ r.requestId = id ∧ ValidRequest r ∧ f.drop 20 = bodyBytes r := by
  by_cases hc : type = .connect
  · rw [readBody, if_pos hc, frameHeaderSize, rejectIf_bind_ok]
    constructor
    · rintro ⟨hlen, hrest⟩
      rw [not_lt] at hlen
      rw [readU16_eq (by omega)] at hrest
      obtain ⟨hsize, hrest⟩ := rejectIf_bind_ok.mp hrest
      rw [suffix_eq (by omega)] at hrest
      obtain ⟨hvalid, hr⟩ := rejectIf_bind_ok.mp hrest
      cases hr
      have hvalid' : validProfileId (f.drop 22) = true := by simpa using hvalid
      rw [not_or, not_not, toNat_slice16 (by omega)] at hsize
      have hval : LittleEndian.value (slice f 20 2) = (f.drop 22).length := by
        have hlen' := hsize.2
        rw [List.length_drop]
        omega
      have hsmall : (f.drop 22).length < 256 ^ 2 := by
        rw [← hval]
        exact value_slice_lt (by omega)
      have hslice := (value_slice_iff (by omega) hsmall).mp hval
      refine ⟨rfl, rfl, ⟨hid, .inl hc, fun _ => hvalid', fun hn => absurd hc hn⟩, ?_⟩
      have hbody : bodyBytes ⟨type, id, f.drop 22⟩ =
          LittleEndian.bytes 2 (f.drop 22).length ++ f.drop 22 := by simp [bodyBytes, hc]
      rw [hbody, ← hslice, slice_append_drop]
    · rintro ⟨rfl, rfl, hv, hbody⟩
      have hvalid := hv.profileId hc
      have hp := (validProfileId_iff _).mp hvalid
      simp only [maximumProfileIdSize] at hp
      have hdrop : f.drop 20 = LittleEndian.bytes 2 r.profileId.length ++ r.profileId := by
        simpa [bodyBytes, hc] using hbody
      have hslice : slice f 20 2 = LittleEndian.bytes 2 r.profileId.length := by
        rw [slice, hdrop, List.take_left' (by simp)]
      have hrest : f.drop 22 = r.profileId := by
        rw [show f.drop 22 = (f.drop 20).drop 2 by simp, hdrop, List.drop_left' (by simp)]
      have hlen : f.length = 22 + r.profileId.length := by
        have hlength := congrArg List.length hdrop
        simp only [List.length_drop, List.length_append, LittleEndian.length_bytes] at hlength
        omega
      have hval := (value_slice_iff (by omega) (by omega)).mpr hslice
      refine ⟨by omega, ?_⟩
      rw [readU16_eq (by omega)]
      refine rejectIf_bind_ok.mpr ⟨?_, ?_⟩
      · rw [toNat_slice16 (by omega), hval, maximumProfileIdSize]
        omega
      · rw [suffix_eq (by omega)]
        refine rejectIf_bind_ok.mpr ⟨?_, ?_⟩
        · simp [hrest, hvalid]
        · rw [hrest]
          rfl
  · rw [readBody, if_neg hc]
    split
    · rename_i ht
      rw [rejectIf_bind_ok, not_not, frameHeaderSize]
      constructor
      · rintro ⟨hlen, ⟨⟩⟩
        refine ⟨rfl, rfl, ⟨hid, .inr ht, fun h => absurd h hc, fun _ => rfl⟩, ?_⟩
        simp [bodyBytes, hc, hlen]
      · rintro ⟨rfl, rfl, hv, hbody⟩
        have hnil : f.drop 20 = [] := by simpa [bodyBytes, hc] using hbody
        have hlen : f.length ≤ 20 := List.drop_eq_nil_iff.mp hnil
        refine ⟨by omega, ?_⟩
        rw [← hv.noProfileId hc]
        rfl
    · rename_i ht
      constructor
      · intro h
        cases h
      · rintro ⟨rfl, -, hv, -⟩
        exact absurd (hv.type.resolve_left hc) ht

/-- The parts of a request's frame, from where they stand. -/
theorem slices_requestBytes (r : Request) :
    slice (requestBytes r) 0 4 = LittleEndian.bytes 4 (16 + (bodyBytes r).length) ∧
    slice (requestBytes r) 4 4 = magic ∧
    slice (requestBytes r) 8 2 = LittleEndian.bytes 2 protocolVersion.toNat ∧
    slice (requestBytes r) 10 2 = LittleEndian.bytes 2 r.type.value.toNat ∧
    slice (requestBytes r) 12 8 = LittleEndian.bytes 8 r.requestId.toNat ∧
    (requestBytes r).drop 20 = bodyBytes r := by
  have next (k n : Nat) (xs ys : Bytes) (h : (requestBytes r).drop k = xs ++ ys)
      (hx : xs.length = n) :
      slice (requestBytes r) k n = xs ∧ (requestBytes r).drop (k + n) = ys := by
    constructor
    · rw [slice, h, List.take_left' hx]
    · rw [← List.drop_drop, h, List.drop_left' hx]
  obtain ⟨h0, hd4⟩ := next 0 4 _ _ List.drop_zero (by simp)
  obtain ⟨h4, hd8⟩ := next 4 4 _ _ hd4 (by decide)
  obtain ⟨h8, hd10⟩ := next 8 2 _ _ hd8 (by simp)
  obtain ⟨h10, hd12⟩ := next 10 2 _ _ hd10 (by simp)
  obtain ⟨h12, hd20⟩ := next 12 8 _ _ hd12 (by simp)
  exact ⟨h0, h4, h8, h10, h12, hd20⟩

/-- Every read of a header that is there stays inside the frame. -/
theorem decodeRequest_eq {f : Bytes} (hge : 20 ≤ f.length) (hle : f.length ≤ 128) :
    decodeRequest f = (do
      rejectIf (LittleEndian.value (slice f 0 4) ≠ f.length - 4)
        (text "broker frame length prefix is invalid")
      rejectIf (∃ i ∈ List.range magic.length, byteAt f (4 + i) ≠ byteAt magic i)
        (text "broker frame magic is invalid")
      rejectIf (UInt16.ofNat (LittleEndian.value (slice f 8 2)) ≠ protocolVersion)
        (text "broker protocol version is unsupported")
      rejectIf (UInt64.ofNat (LittleEndian.value (slice f 12 8)) = 0)
        (text "broker request ID must be nonzero")
      readBody f ⟨⟨UInt16.ofNat (LittleEndian.value (slice f 10 2))⟩,
        UInt64.ofNat (LittleEndian.value (slice f 12 8)), []⟩) := by
  have hsize : rejectIf (f.length < frameHeaderSize ∨ f.length > maximumFrameSize)
      (text "broker frame size is invalid") = .ok () := by
    apply rejectIf_eq_ok
    simp only [frameHeaderSize, maximumFrameSize]
    omega
  have hprefix : (UInt32.ofNat (LittleEndian.value (slice f 0 4))).toNat =
      LittleEndian.value (slice f 0 4) := toNat_slice32 (by omega)
  rw [decodeRequest, hsize, readU32_eq (by omega), checkMagic_eq (by omega), readU16_eq (by omega),
    readU16_eq (by omega), readU64_eq (by omega)]
  simp only [bind, Except.bind, hprefix]

/-- The frames that are accepted are those of the valid requests. -/
theorem decodeRequest_ok_iff (f : Bytes) (r : Request) :
    decodeRequest f = .ok r ↔ ValidRequest r ∧ f = requestBytes r := by
  by_cases hsize : 20 ≤ f.length ∧ f.length ≤ 128
  · obtain ⟨hge, hle⟩ := hsize
    rw [decodeRequest_eq hge hle, rejectIf_bind_ok, rejectIf_bind_ok, rejectIf_bind_ok,
      rejectIf_bind_ok, magic_iff (by omega), not_not, not_not]
    constructor
    · rintro ⟨hlength, hmagic, hversion, hid, hbody⟩
      obtain ⟨rtype, rid, hv, hdrop⟩ := (readBody_ok_iff hge hid r).mp hbody
      have htype : slice f 10 2 = LittleEndian.bytes 2 r.type.value.toNat := by
        rw [rtype, toNat_slice16 (by omega)]
        exact (value_slice_iff (by omega) (value_slice_lt (by omega))).mp rfl
      have hrid : slice f 12 8 = LittleEndian.bytes 8 r.requestId.toNat := by
        rw [rid, toNat_slice64 (by omega)]
        exact (value_slice_iff (by omega) (value_slice_lt (by omega))).mp rfl
      have hver : slice f 8 2 = LittleEndian.bytes 2 protocolVersion.toNat := by
        rw [← hversion, toNat_slice16 (by omega)]
        exact (value_slice_iff (by omega) (value_slice_lt (by omega))).mp rfl
      have hlen : f.length - 4 = 16 + (bodyBytes r).length := by
        rw [← hdrop, List.length_drop]
        omega
      rw [hlen] at hlength
      have hfirst := (value_slice_iff (by omega) (by omega)).mp hlength
      refine ⟨hv, ?_⟩
      rw [requestBytes, ← hfirst, ← hmagic, ← hver, ← htype, ← hrid, ← hdrop, slice_append_drop,
        slice_append_drop, slice_append_drop, slice_append_drop, slice_append_drop, List.drop_zero]
    · rintro ⟨hv, hf⟩
      have hlen : f.length = 20 + (bodyBytes r).length := by rw [hf, length_requestBytes]
      obtain ⟨hfirst, hmagic, hver, htype, hrid, hdrop⟩ := slices_requestBytes r
      rw [← hf] at hfirst hmagic hver htype hrid hdrop
      have hid : UInt64.ofNat (LittleEndian.value (slice f 12 8)) = r.requestId := by
        apply UInt64.toNat_inj.mp
        rw [toNat_slice64 (by omega)]
        exact (value_slice_iff (by omega) r.requestId.toNat_lt).mpr hrid
      have hty : UInt16.ofNat (LittleEndian.value (slice f 10 2)) = r.type.value := by
        apply UInt16.toNat_inj.mp
        rw [toNat_slice16 (by omega)]
        exact (value_slice_iff (by omega) r.type.value.toNat_lt).mpr htype
      have hpv : UInt16.ofNat (LittleEndian.value (slice f 8 2)) = protocolVersion := by
        apply UInt16.toNat_inj.mp
        rw [toNat_slice16 (by omega)]
        exact (value_slice_iff (by omega) protocolVersion.toNat_lt).mpr hver
      refine ⟨?_, hmagic, hpv, ?_, ?_⟩
      · rw [(value_slice_iff (by omega) (by omega)).mpr hfirst, hlen]
        omega
      · rw [hid]
        exact hv.requestId
      · rw [hid, hty]
        exact (readBody_ok_iff hge hv.requestId r).mpr ⟨rfl, rfl, hv, hdrop⟩
  · constructor
    · intro h
      obtain ⟨hin, -⟩ := rejectIf_bind_ok.mp h
      simp only [frameHeaderSize, maximumFrameSize] at hin
      omega
    · rintro ⟨hv, rfl⟩
      have hb := hv.length_bodyBytes
      rw [length_requestBytes] at hsize
      omega

/-! ### No read leaves the vector -/

def InRange {α : Type} (x : Except Fault α) : Prop := ∀ index, x ≠ .error (.outOfRange index)

theorem inRange_ok {α : Type} (a : α) : InRange (.ok a : Except Fault α) := by
  rintro index ⟨⟩

/-- After a check, only what passes it reads on. -/
theorem inRange_rejectIf {α : Type} {c : Prop} [Decidable c] (what : Bytes)
    {k : Unit → Except Fault α} (hk : ¬c → InRange (k ())) : InRange (rejectIf c what >>= k) := by
  intro index
  by_cases h : c
  · simp [rejectIf, h, bind, Except.bind]
  · rw [rejectIf_eq_ok h]
    exact hk h index

theorem readBody_in_range {f : Bytes} (r : Request) : InRange (readBody f r) := by
  rw [readBody, frameHeaderSize]
  split
  · refine inRange_rejectIf _ fun hlen => ?_
    rw [not_lt] at hlen
    rw [readU16_eq (by omega)]
    refine inRange_rejectIf _ fun _ => ?_
    rw [suffix_eq (by omega)]
    exact inRange_rejectIf _ fun _ => inRange_ok _
  · split
    · exact inRange_rejectIf _ fun _ => inRange_ok _
    · rintro index ⟨⟩

/-- A decode reads only inside the vector, whatever its length. -/
theorem decodeRequest_in_range (f : Bytes) : InRange (decodeRequest f) := by
  by_cases hsize : 20 ≤ f.length ∧ f.length ≤ 128
  · rw [decodeRequest_eq hsize.1 hsize.2]
    refine inRange_rejectIf _ fun _ => inRange_rejectIf _ fun _ => inRange_rejectIf _ fun _ => ?_
    exact inRange_rejectIf _ fun _ => readBody_in_range _
  · refine inRange_rejectIf _ fun hin => ?_
    simp only [frameHeaderSize, maximumFrameSize] at hin
    omega

theorem profileCharacter_iff (c : UInt8) : profileCharacter c = true ↔
    (97 ≤ c ∧ c ≤ 122) ∨ (65 ≤ c ∧ c ≤ 90) ∨ (48 ≤ c ∧ c ≤ 57) ∨ c = 45 ∨ c = 95 := by
  simp only [profileCharacter, Bool.not_eq_true', Bool.and_eq_false_iff, Bool.not_eq_false',
    Bool.or_eq_true, Bool.and_eq_true, decide_eq_true_eq, bne_eq_false_iff_eq, ge_iff_le]
  tauto

/-- The request codec of the broker: encoding and decoding are inverse to each other, frames stay
below the limit, no read leaves the frame, and a profile id (of letters, digits, `-` and `_`) comes
with a `Connect` and only there. -/
theorem request_codec_exact :
    Codec.Exact encodeRequest decodeRequest ∧
    (∀ r f, encodeRequest r = .ok f → f.length ≤ maximumFrameSize) ∧
    (∀ f index, decodeRequest f ≠ .error (.outOfRange index)) ∧
    (∀ f r, decodeRequest f = .ok r →
      (r.type = .connect → 1 ≤ r.profileId.length ∧ r.profileId.length ≤ 64 ∧
        ∀ c ∈ r.profileId, (97 ≤ c ∧ c ≤ 122) ∨ (65 ≤ c ∧ c ≤ 90) ∨ (48 ≤ c ∧ c ≤ 57) ∨
          c = 45 ∨ c = 95) ∧
      (r.type ≠ .connect → r.profileId = [])) := by
  refine ⟨?_, ?_, decodeRequest_in_range, ?_⟩
  · apply Codec.Exact.of_iff
    intro f r
    rw [decodeRequest_ok_iff, encodeRequest_ok_iff]
  · intro r f h
    obtain ⟨hv, rfl⟩ := (encodeRequest_ok_iff r f).mp h
    have hb := hv.length_bodyBytes
    have hlen := length_requestBytes r
    simp only [maximumFrameSize]
    omega
  · intro f r h
    obtain ⟨hv, -⟩ := (decodeRequest_ok_iff f r).mp h
    refine ⟨fun hc => ?_, hv.noProfileId⟩
    obtain ⟨hpos, hle, hall⟩ := (validProfileId_iff _).mp (hv.profileId hc)
    exact ⟨hpos, hle, fun c hmem => (profileCharacter_iff c).mp (hall c hmem)⟩

end PersonalVpn.Broker
