import PersonalVpn.Protocol.FrameDecoding

namespace PersonalVpn.Protocol

/-- Twenty bytes that no frame starts with. -/
def InvalidHeader (b : Bytes) : Prop :=
  kHeaderSize ≤ b.length ∧ (readU32 b ≠ kMagic ∨ byteAt b 4 ≠ kVersion ∨
    isKnownMessageType (byteAt b 5) = false ∨ readU16 (b.drop 6) ≠ 0 ∨
    kMaxPayloadSize < (readU32 (b.drop 8)).toNat)

instance (b : Bytes) : Decidable (InvalidHeader b) := inferInstanceAs (Decidable (_ ∧ _))

theorem InvalidHeader.nextFrame {b : Bytes} (h : InvalidHeader b) :
    ∃ e, frameParser.next b = .bad e := by
  obtain ⟨hlen, hbad⟩ := h
  change ∃ e, PersonalVpn.Protocol.nextFrame b = .bad e
  unfold PersonalVpn.Protocol.nextFrame
  rw [if_neg (by omega)]
  split_ifs with hmagic hversion htype hflags hsize hshort
  · exact ⟨_, rfl⟩
  · exact ⟨_, rfl⟩
  · exact ⟨_, rfl⟩
  · exact ⟨_, rfl⟩
  · exact ⟨_, rfl⟩
  · simp_all
  · simp_all

namespace FrameDecoder

/-- The decoder has decoded `frames` of the bytes `received`, and waits for more. -/
def Decoded (d : FrameDecoder) (received : Bytes) (frames : List Frame) : Prop :=
  d.Intact ∧ frameParser.parse received = (frames, .ok d.pending)

theorem decoded_fresh : Decoded {} [] [] :=
  ⟨intact_fresh, StreamParser.parse_incomplete rfl⟩

theorem Decoded.push {d d' : FrameDecoder} {received data : Bytes} {frames new : List Frame}
    (h : d.Decoded received frames) (hp : d.push data = (.ok new, d')) :
    d'.Decoded (received ++ data) (frames ++ new) := by
  obtain ⟨hint, hparse⟩ := h
  obtain ⟨hok, herr⟩ := push_parse d data hint
  have hresume := StreamParser.parse_append_ok (s := received) (by rw [hparse]) data
  cases ho : (frameParser.parse (d.pending ++ data)).2 with
  | error e =>
    have := (herr e ho).1
    rw [hp] at this
    cases this
  | ok rest =>
    obtain ⟨d'', hint'', hpend, hp''⟩ := hok rest ho
    obtain ⟨hnew, rfl⟩ := Prod.mk.inj (hp.symm.trans hp'')
    rw [ho, hparse, ← Except.ok.inj hnew] at hresume
    exact ⟨hint'', by rw [hresume, hpend]⟩

/-- On a stream of encoded frames with an invalid header behind them: the push that completes the
header throws, and the frames decoded before it are all of them exactly if no earlier byte was missing
then. -/
theorem Decoded.bad {d : FrameDecoder} {received data encoded bad : Bytes}
    {decoded frames : List Frame} (h : d.Decoded received decoded)
    (he : encodeFrames frames = .ok encoded) (hbad : InvalidHeader bad)
    (hs : received ++ data = encoded ++ bad) :
    (∃ e d', d.push data = (.error e, d')) ∧
      (decoded = frames ↔ encoded.length ≤ received.length) := by
  obtain ⟨hint, hparse⟩ := h
  obtain ⟨hall, rfl⟩ := (encodeFrames_ok_iff frames encoded).mp he
  obtain ⟨e, hnext⟩ := hbad.nextFrame
  obtain ⟨herror, hiff⟩ := frameCodec.items_eq_iff hall hnext hparse hs
  exact ⟨⟨e, (d.push data).2, Prod.ext ((push_parse d data hint).2 e herror).1 rfl⟩, hiff⟩

end FrameDecoder

end PersonalVpn.Protocol
