import PersonalVpn.Protocol.ControlMessages
import PersonalVpn.Lib.Codec

namespace PersonalVpn.Protocol

/-- What an IP assignment must satisfy to be put on, or taken off, the wire. -/
structure ValidIpAssignment (m : IpAssignment) : Prop where
  client : isUnspecified m.clientAddress = false
  gateway : isUnspecified m.gatewayAddress = false
  prefix_pos : m.prefixLength ≠ 0
  prefix_le : m.prefixLength ≤ 32
  mtu_ge : kMinimumIpv4Mtu ≤ m.mtu
  mtu_le : m.mtu ≤ kMaximumTunnelMtu
  lease : m.leaseSeconds ≠ 0
  ipv6 : m.ipv6PrefixLength ≠ 0 → m.ipv6PrefixLength ≤ 128 ∧
    isUnspecified m.clientIpv6Address = false ∧ isUnspecified m.gatewayIpv6Address = false ∧
    m.clientIpv6Address ≠ m.gatewayIpv6Address ∧ kMinimumIpv6Mtu ≤ m.mtu
  no_ipv6 : m.ipv6PrefixLength = 0 → isUnspecified m.clientIpv6Address = true ∧
    isUnspecified m.gatewayIpv6Address = true

/-- What a hello must satisfy. -/
structure ValidClientHello (m : ClientHello) : Prop where
  mtu_ge : kMinimumIpv6Mtu ≤ m.requestedMtu
  mtu_le : m.requestedMtu ≤ kMaximumTunnelMtu
  ipv4 : m.capabilities &&& kCapabilityIpv4 ≠ 0
  ipv6 : m.capabilities &&& kCapabilityIpv6 ≠ 0
  known : m.capabilities &&& ~~~(kCapabilityIpv4 ||| kCapabilityIpv6) = 0

theorem requireSize_bind_ok {payload : Bytes} {n : Nat} {name : Bytes} {α : Type}
    {k : Unit → Except Exception α} {r : α} :
    (requireSize payload n name >>= k) = .ok r ↔ payload.length = n ∧ k () = .ok r := by
  simp [requireSize]

theorem validateIpAssignment_ok_iff (m : IpAssignment) :
    validateIpAssignment m = .ok () ↔ ValidIpAssignment m := by
  simp only [validateIpAssignment, validateMtu, throwIf_bind_ok, throwIf_ok, not_or, not_and,
    UInt16.not_lt, UInt8.not_lt, gt_iff_lt, Bool.not_eq_true, bne_iff_ne, ne_eq,
    Bool.not_eq_eq_eq_not, Bool.not_true, bne_eq_false_iff_eq, Bool.not_eq_false]
  constructor
  · rintro ⟨⟨h1, h2⟩, ⟨h3, h4⟩, ⟨h5, h6⟩, h7, h8, h9⟩
    exact ⟨h1, h2, h3, h4, h5, h6, h7, h8, h9⟩
  · rintro ⟨h1, h2, h3, h4, h5, h6, h7, h8, h9⟩
    exact ⟨⟨h1, h2⟩, ⟨h3, h4⟩, ⟨h5, h6⟩, h7, h8, h9⟩

theorem encodeClientHello_ok_iff (m : ClientHello) (b : Bytes) :
    encodeClientHello m = .ok b ↔ ValidClientHello m ∧
      b = BigEndian.bytes 2 m.requestedMtu.toNat ++
        (BigEndian.bytes 2 (0 : UInt16).toNat ++ BigEndian.bytes 4 m.capabilities.toNat) := by
  simp only [encodeClientHello, throwIf_bind_ok, not_or, UInt16.not_lt, gt_iff_lt, ne_eq, not_not,
    appendU16_eq, appendU32_eq, List.nil_append, List.append_assoc, pure, Except.pure,
    Except.ok.injEq]
  constructor
  · rintro ⟨⟨h1, h2⟩, ⟨h3, h4, h5⟩, rfl⟩
    exact ⟨⟨h1, h2, h3, h4, h5⟩, rfl⟩
  · rintro ⟨⟨h1, h2, h3, h4, h5⟩, rfl⟩
    exact ⟨⟨h1, h2⟩, ⟨h3, h4, h5⟩, rfl⟩

/-- Decoding and encoding a hello are inverse to each other. -/
theorem decodeClientHello_ok_iff (p : Bytes) (m : ClientHello) :
    decodeClientHello p = .ok m ↔ encodeClientHello m = .ok p := by
  simp only [decodeClientHello, requireSize_bind_ok, throwIf_bind_ok, ne_eq, not_not]
  constructor
  · rintro ⟨hlen, hres, h⟩
    cases he : encodeClientHello ⟨readU16 p, readU32 (p.drop 4)⟩ with
    | error e => rw [he] at h; cases h
    | ok b =>
      rw [he] at h
      cases h
      rw [he]
      obtain ⟨-, rfl⟩ := (encodeClientHello_ok_iff _ _).mp he
      rw [← hres, bytes_readU16 (by omega), bytes_readU16 (by simp; omega),
        bytes_readU32 (by simp; omega)]
      have h4 : (p.drop 4).take 4 = p.drop 4 := List.take_of_length_le (by simp; omega)
      rw [h4, show p.drop 4 = (p.drop 2).drop 2 by simp, List.take_append_drop,
        List.take_append_drop]
  · intro he
    obtain ⟨-, rfl⟩ := (encodeClientHello_ok_iff _ _).mp he
    have hd2 : (BigEndian.bytes 2 m.requestedMtu.toNat ++ (BigEndian.bytes 2 (0 : UInt16).toNat ++
        BigEndian.bytes 4 m.capabilities.toNat)).drop 2 =
        BigEndian.bytes 2 (0 : UInt16).toNat ++ BigEndian.bytes 4 m.capabilities.toNat := rfl
    have hd4 : (BigEndian.bytes 2 m.requestedMtu.toNat ++ (BigEndian.bytes 2 (0 : UInt16).toNat ++
        BigEndian.bytes 4 m.capabilities.toNat)).drop 4 =
        BigEndian.bytes 4 m.capabilities.toNat ++ [] := by simp; rfl
    rw [hd2, hd4, readU16_bytes, readU16_bytes, readU32_bytes, he]
    exact ⟨rfl, rfl, rfl⟩

theorem decodeLivenessProbe_ok_iff (p : Bytes) (m : LivenessProbe) :
    decodeLivenessProbe p = .ok m ↔ encodeLivenessProbe m = p := by
  simp only [decodeLivenessProbe, requireSize_bind_ok, encodeLivenessProbe, appendU64_eq,
    List.nil_append, pure, Except.pure, Except.ok.injEq]
  constructor
  · rintro ⟨hlen, rfl⟩
    rw [bytes_readU64 (by omega), List.take_of_length_le (by omega)]
  · rintro rfl
    have h := readU64_bytes m.nonce []
    rw [List.append_nil] at h
    exact ⟨BigEndian.length_bytes _ _, by rw [h]⟩

theorem decodeCloseMessage_ok_iff (p : Bytes) (m : CloseMessage) :
    decodeCloseMessage p = .ok m ↔ encodeCloseMessage m = p := by
  simp only [decodeCloseMessage, requireSize_bind_ok, encodeCloseMessage, appendU16_eq,
    List.nil_append, pure, Except.pure, Except.ok.injEq]
  constructor
  · rintro ⟨hlen, rfl⟩
    rw [bytes_readU16 (by omega), List.take_of_length_le (by omega)]
  · rintro rfl
    have h := readU16_bytes m.code []
    rw [List.append_nil] at h
    exact ⟨BigEndian.length_bytes _ _, by rw [h]⟩

theorem encodeErrorMessage_ok_iff (m : ErrorMessage) (b : Bytes) :
    encodeErrorMessage m = .ok b ↔ m.message.length ≤ kMaximumErrorMessageSize ∧
      b = BigEndian.bytes 2 m.code.toNat ++ m.message := by
  simp only [encodeErrorMessage, throwIf_bind_ok, appendU16_eq, List.nil_append, pure, Except.pure,
    Except.ok.injEq, not_lt, gt_iff_lt]
  exact and_congr_right fun _ => eq_comm

theorem decodeErrorMessage_ok_iff (p : Bytes) (m : ErrorMessage) :
    decodeErrorMessage p = .ok m ↔ encodeErrorMessage m = .ok p := by
  rw [encodeErrorMessage_ok_iff]
  simp only [decodeErrorMessage, throwIf_bind_ok, pure, Except.pure, Except.ok.injEq, not_or,
    not_lt, gt_iff_lt]
  constructor
  · rintro ⟨⟨hmin, hmax⟩, rfl⟩
    refine ⟨by simp; omega, ?_⟩
    rw [bytes_readU16 hmin, List.take_append_drop]
  · rintro ⟨hlen, rfl⟩
    rw [readU16_bytes]
    exact ⟨⟨by simp, by simp; omega⟩, rfl⟩

/-- The 52 bytes of an IP assignment. -/
def assignmentBytes (m : IpAssignment) : Bytes :=
  m.clientAddress.toList ++ (m.gatewayAddress.toList ++ (m.prefixLength :: 0 ::
    (BigEndian.bytes 2 m.mtu.toNat ++ (BigEndian.bytes 4 m.leaseSeconds.toNat ++
      (m.clientIpv6Address.toList ++ (m.gatewayIpv6Address.toList ++
        [m.ipv6PrefixLength, 0, 0, 0]))))))

theorem length_assignmentBytes (m : IpAssignment) : (assignmentBytes m).length = 52 := by
  simp [assignmentBytes]

theorem encodeIpAssignment_ok_iff (m : IpAssignment) (b : Bytes) :
    encodeIpAssignment m = .ok b ↔ ValidIpAssignment m ∧ b = assignmentBytes m := by
  rw [← validateIpAssignment_ok_iff, encodeIpAssignment]
  cases h : validateIpAssignment m with
  | error e => simp [bind, Except.bind]
  | ok u =>
    simp only [bind, Except.bind, pure, Except.pure, appendU16_eq, appendU32_eq, List.append_assoc,
      List.cons_append, List.nil_append, Except.ok.injEq, assignmentBytes, true_and]
    exact eq_comm

/-- Every field of an assignment is read back from where it stands. -/
private theorem read_assignmentBytes (m : IpAssignment) :
    let p := assignmentBytes m
    copyN p 0 4 = m.clientAddress ∧ copyN p 4 4 = m.gatewayAddress ∧
    byteAt p 8 = m.prefixLength ∧ byteAt p 9 = 0 ∧ readU16 (p.drop 10) = m.mtu ∧
    readU32 (p.drop 12) = m.leaseSeconds ∧ copyN p 16 16 = m.clientIpv6Address ∧
    copyN p 32 16 = m.gatewayIpv6Address ∧ byteAt p 48 = m.ipv6PrefixLength ∧
    byteAt p 49 = 0 ∧ byteAt p 50 = 0 ∧ byteAt p 51 = 0 := by
  intro p
  have next (k n : Nat) (xs ys : Bytes) (h : p.drop k = xs ++ ys) (hx : xs.length = n) :
      p.drop (k + n) = ys := by
    rw [← List.drop_drop, h, List.drop_left' hx]
  have hd4 := next 0 4 _ _ (List.drop_zero) (by simp)
  have hd8 := next 4 4 _ _ hd4 (by simp)
  have hd10 : p.drop 10 = BigEndian.bytes 2 m.mtu.toNat ++ _ :=
    next 8 2 [m.prefixLength, 0] _ hd8 rfl
  have hd12 := next 10 2 _ _ hd10 (by simp)
  have hd16 := next 12 4 _ _ hd12 (by simp)
  have hd32 := next 16 16 _ _ hd16 (by simp)
  have hd48 := next 32 16 _ _ hd32 (by simp)
  refine ⟨copyN_append _ _, ?_, ?_, ?_, ?_, ?_, ?_, ?_, ?_, ?_, ?_, ?_⟩
  · rw [copyN_drop, hd4, copyN_append]
  · rw [← byteAt_drop p 8 0, hd8]; rfl
  · rw [← byteAt_drop p 8 1, hd8]; rfl
  · rw [hd10, readU16_bytes]
  · rw [hd12, readU32_bytes]
  · rw [copyN_drop, hd16, copyN_append]
  · rw [copyN_drop, hd32, copyN_append]
  · rw [← byteAt_drop p 48 0, hd48]; rfl
  · rw [← byteAt_drop p 48 1, hd48]; rfl
  · rw [← byteAt_drop p 48 2, hd48]; rfl
  · rw [← byteAt_drop p 48 3, hd48]; rfl

/-- 52 bytes with zero reserved fields are the bytes of the assignment read from them. -/
private theorem assignmentBytes_read {p : Bytes} (hlen : p.length = 52) (h9 : byteAt p 9 = 0)
    (h49 : byteAt p 49 = 0) (h50 : byteAt p 50 = 0) (h51 : byteAt p 51 = 0) :
    assignmentBytes ⟨copyN p 0 4, copyN p 4 4, byteAt p 8, readU16 (p.drop 10),
      readU32 (p.drop 12), copyN p 16 16, copyN p 32 16, byteAt p 48⟩ = p := by
  have cons_drop (k : Nat) (hk : k < 52) : byteAt p k :: p.drop (k + 1) = p.drop k := by
    rw [List.drop_eq_getElem_cons (show k < p.length by omega)]
    simp [byteAt, hlen, hk]
  have take_drop (k n : Nat) : (p.drop k).take n ++ p.drop (k + n) = p.drop k := by
    rw [← List.drop_drop, List.take_append_drop]
  have hnil : p.drop 52 = [] := List.drop_eq_nil_of_le (by omega)
  have htail : [byteAt p 48, 0, 0, 0] = p.drop 48 := by
    rw [← cons_drop 48 (by decide), ← cons_drop 49 (by decide), ← cons_drop 50 (by decide),
      ← cons_drop 51 (by decide), hnil, h49, h50, h51]
  have copied (k n : Nat) (h : k + n ≤ 52) : (copyN p k n).toList = (p.drop k).take n := by
    rw [toList_copyN (by omega)]
  simp only [assignmentBytes]
  rw [htail, bytes_readU16 (by simp; omega), bytes_readU32 (by simp; omega),
    copied 0 4 (by decide), copied 4 4 (by decide), copied 16 16 (by decide),
    copied 32 16 (by decide), take_drop 32 16, take_drop 16 16, take_drop 12 4, take_drop 10 2,
    ← h9, cons_drop 9 (by decide), cons_drop 8 (by decide), take_drop 4 4, take_drop 0 4]
  rfl

/-- Decoding and encoding an assignment are inverse to each other. -/
theorem decodeIpAssignment_ok_iff (p : Bytes) (m : IpAssignment) :
    decodeIpAssignment p = .ok m ↔ encodeIpAssignment m = .ok p := by
  rw [encodeIpAssignment_ok_iff]
  simp only [decodeIpAssignment, requireSize_bind_ok, throwIf_bind_ok, ne_eq, not_not, not_or]
  constructor
  · rintro ⟨hlen, h9, ⟨h49, h50, h51⟩, h⟩
    cases hv : validateIpAssignment ⟨copyN p 0 4, copyN p 4 4, byteAt p 8, readU16 (p.drop 10),
        readU32 (p.drop 12), copyN p 16 16, copyN p 32 16, byteAt p 48⟩ with
    | error e => rw [hv] at h; cases h
    | ok u =>
      rw [hv] at h
      cases h
      exact ⟨(validateIpAssignment_ok_iff _).mp hv, (assignmentBytes_read hlen h9 h49 h50 h51).symm⟩
  · rintro ⟨hv, rfl⟩
    obtain ⟨h0, h4, h8, h9, h10, h12, h16, h32, h48, h49, h50, h51⟩ := read_assignmentBytes m
    rw [h0, h4, h8, h10, h12, h16, h32, h48]
    refine ⟨by simp [assignmentBytes], h9, ⟨h49, h50, h51⟩, ?_⟩
    rw [(validateIpAssignment_ok_iff m).mpr hv]
    rfl

/-- Each control decoder accepts exactly the payloads its encoder makes, gives back the message they
were made from, and accepts no second form of it. The payloads with reserved bytes and checked fields
are spelled out: valid fields, zero reserved bytes, nothing before or after. -/
theorem control_codecs_exact :
    Codec.Exact encodeClientHello decodeClientHello ∧
    Codec.Exact encodeIpAssignment decodeIpAssignment ∧
    Codec.Exact (fun m => (.ok (encodeLivenessProbe m) : Except Exception Bytes))
      decodeLivenessProbe ∧
    Codec.Exact encodeErrorMessage decodeErrorMessage ∧
    Codec.Exact (fun m => (.ok (encodeCloseMessage m) : Except Exception Bytes))
      decodeCloseMessage ∧
    (∀ p m, decodeClientHello p = .ok m ↔ ValidClientHello m ∧
      p = BigEndian.bytes 2 m.requestedMtu.toNat ++
        (BigEndian.bytes 2 0 ++ BigEndian.bytes 4 m.capabilities.toNat)) ∧
    (∀ p m, decodeIpAssignment p = .ok m ↔ ValidIpAssignment m ∧ p = assignmentBytes m) ∧
    (∀ p m, decodeErrorMessage p = .ok m ↔ m.message.length ≤ kMaximumErrorMessageSize ∧
      p = BigEndian.bytes 2 m.code.toNat ++ m.message) := by
  refine ⟨.of_iff decodeClientHello_ok_iff, .of_iff decodeIpAssignment_ok_iff, ?_,
    .of_iff decodeErrorMessage_ok_iff, ?_, ?_, ?_, ?_⟩
  · apply Codec.Exact.of_iff
    intro p m
    rw [decodeLivenessProbe_ok_iff, Except.ok.injEq]
  · apply Codec.Exact.of_iff
    intro p m
    rw [decodeCloseMessage_ok_iff, Except.ok.injEq]
  · intro p m
    rw [decodeClientHello_ok_iff, encodeClientHello_ok_iff]
    rfl
  · intro p m
    rw [decodeIpAssignment_ok_iff, encodeIpAssignment_ok_iff]
  · intro p m
    rw [decodeErrorMessage_ok_iff, encodeErrorMessage_ok_iff]

/-- Whatever the computation throws is an `invalid_argument` whose text fits an ERROR message. -/
def ThrowsTerse {α : Type} (x : Except Exception α) : Prop :=
  ∀ e, x = .error e → ∃ what, e = .invalidArgument what ∧ what.length ≤ kMaximumErrorMessageSize

theorem throwsTerse_ok {α : Type} (a : α) : ThrowsTerse (.ok a : Except Exception α) := by
  rintro e ⟨⟩

theorem throwsTerse_throwIf {c : Prop} [Decidable c] {what : Bytes}
    (h : what.length ≤ kMaximumErrorMessageSize) :
    ThrowsTerse (throwIf c (.invalidArgument what)) := by
  intro e he
  obtain ⟨-, rfl⟩ := throwIf_error.mp he
  exact ⟨what, rfl, h⟩

theorem ThrowsTerse.bind {α β : Type} {x : Except Exception α} {f : α → Except Exception β}
    (hx : ThrowsTerse x) (hf : ∀ a, ThrowsTerse (f a)) : ThrowsTerse (x >>= f) := by
  intro e he
  cases x with
  | error e' =>
    cases he
    exact hx _ rfl
  | ok a => exact hf a e he

theorem validateMtu_terse (mtu : UInt16) : ThrowsTerse (validateMtu mtu) :=
  throwsTerse_throwIf (by decide)

theorem requireSize_terse (payload : Bytes) (n : Nat) {name : Bytes} (h : name.length ≤ 64) :
    ThrowsTerse (requireSize payload n name) := by
  refine throwsTerse_throwIf ?_
  have hrest : (text " payload has an invalid length").length = 30 := by decide
  simp only [List.length_append, hrest, kMaximumErrorMessageSize]
  omega

theorem validateIpAssignment_terse (m : IpAssignment) : ThrowsTerse (validateIpAssignment m) :=
  (throwsTerse_throwIf (by decide)).bind fun _ => (throwsTerse_throwIf (by decide)).bind fun _ =>
    (validateMtu_terse _).bind fun _ => (throwsTerse_throwIf (by decide)).bind fun _ =>
      (throwsTerse_throwIf (by decide)).bind fun _ => throwsTerse_throwIf (by decide)

theorem encodeClientHello_terse (m : ClientHello) : ThrowsTerse (encodeClientHello m) :=
  (throwsTerse_throwIf (by decide)).bind fun _ => (throwsTerse_throwIf (by decide)).bind fun _ =>
    throwsTerse_ok _

theorem decodeClientHello_terse (p : Bytes) : ThrowsTerse (decodeClientHello p) :=
  (requireSize_terse _ _ (by decide)).bind fun _ => (throwsTerse_throwIf (by decide)).bind fun _ =>
    (encodeClientHello_terse _).bind fun _ => throwsTerse_ok _

theorem encodeIpAssignment_terse (m : IpAssignment) : ThrowsTerse (encodeIpAssignment m) :=
  (validateIpAssignment_terse m).bind fun _ => throwsTerse_ok _

theorem decodeIpAssignment_terse (p : Bytes) : ThrowsTerse (decodeIpAssignment p) :=
  (requireSize_terse _ _ (by decide)).bind fun _ => (throwsTerse_throwIf (by decide)).bind fun _ =>
    (throwsTerse_throwIf (by decide)).bind fun _ => (validateIpAssignment_terse _).bind fun _ =>
      throwsTerse_ok _

theorem decodeLivenessProbe_terse (p : Bytes) : ThrowsTerse (decodeLivenessProbe p) :=
  (requireSize_terse _ _ (by decide)).bind fun _ => throwsTerse_ok _

theorem decodeCloseMessage_terse (p : Bytes) : ThrowsTerse (decodeCloseMessage p) :=
  (requireSize_terse _ _ (by decide)).bind fun _ => throwsTerse_ok _

theorem decodeErrorMessage_terse (p : Bytes) : ThrowsTerse (decodeErrorMessage p) :=
  (throwsTerse_throwIf (by decide)).bind fun _ => throwsTerse_ok _

end PersonalVpn.Protocol
