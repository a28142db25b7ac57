import PersonalVpn.Protocol.FrameStream

namespace PersonalVpn.Protocol

namespace FrameDecoder

/-- The bytes received and not yet decoded. -/
def pending (d : FrameDecoder) : Bytes := d.buffer.drop d.offset

/-- A decoder that can still be pushed to. -/
structure Intact (d : FrameDecoder) : Prop where
  live : d.failed = false
  bound : d.offset ≤ d.buffer.length

theorem intact_fresh : Intact {} := ⟨rfl, Nat.le_refl _⟩

theorem bufferedBytes_eq (d : FrameDecoder) : d.bufferedBytes = d.pending.length := by
  simp [bufferedBytes, pending]

/-- One iteration of the loop is one step of the reference parser on the pending bytes. -/
theorem pushLoop_step (d : FrameDecoder) (frames : List Frame) (h : d.offset ≤ d.buffer.length) :
    d.pushLoop frames =
      match nextFrame d.pending with
      | .incomplete => (.ok frames, d)
      | .bad e => (.error e, { d with failed := true })
      | .item f rest =>
        pushLoop { d with offset := d.buffer.length - rest.length } (frames ++ [f]) := by
  have hp : d.buffer.drop d.offset = d.pending := rfl
  have hlen : d.pending.length = d.buffer.length - d.offset := by simp [pending]
  rw [pushLoop]
  unfold nextFrame
  simp only [fail, ← hlen, hp]
  split_ifs <;> first | rfl | omega | skip
  -- both sides now decode the same frame and move to the same offset
  have hoff : d.buffer.length -
      (d.pending.drop (kHeaderSize + (readU32 (d.pending.drop 8)).toNat)).length =
      d.offset + (kHeaderSize + (readU32 (d.pending.drop 8)).toNat) := by
    rw [List.length_drop, hlen]
    omega
  simp only [hoff]
  simp only [← List.drop_drop, hp]

/-- Moving the offset over a decoded frame leaves the parser's rest pending. -/
private theorem pending_item {d : FrameDecoder} {f : Frame} {rest : Bytes}
    (hd : d.Intact) (h : nextFrame d.pending = .item f rest) :
    let d' := { d with offset := d.buffer.length - rest.length }
    d'.Intact ∧ d'.pending = rest := by
  obtain ⟨-, hs⟩ := nextFrame_item h
  have hlen : d.pending.length = d.buffer.length - d.offset := by simp [pending]
  have hb := hd.bound
  have hl : (wireBytes f).length + rest.length = d.buffer.length - d.offset := by
    rw [← hlen, hs, List.length_append]
  refine ⟨⟨hd.live, by simp⟩, ?_⟩
  have hoff : d.buffer.length - rest.length = d.offset + (wireBytes f).length := by omega
  change d.buffer.drop (d.buffer.length - rest.length) = rest
  rw [hoff, ← List.drop_drop]
  change d.pending.drop _ = rest
  rw [hs, List.drop_left]

/-- The loop decodes exactly what the reference parser finds in the pending bytes. -/
theorem pushLoop_parse (s : Bytes) (d : FrameDecoder) (frames : List Frame) (hd : d.Intact)
    (hs : d.pending = s) :
    (∀ rest, (frameParser.parse s).2 = .ok rest → ∃ d', d'.Intact ∧ d'.pending = rest ∧
      d.pushLoop frames = (.ok (frames ++ (frameParser.parse s).1), d')) ∧
    (∀ e, (frameParser.parse s).2 = .error e →
      (d.pushLoop frames).1 = .error e ∧ (d.pushLoop frames).2.failed = true) := by
  induction s using frameParser.stream_induction generalizing d frames with
  | incomplete s hn =>
    rw [StreamParser.parse_incomplete hn, pushLoop_step d frames hd.bound, hs]
    have hn' : nextFrame s = .incomplete := hn
    rw [hn']
    refine ⟨?_, by simp⟩
    rintro rest ⟨rfl⟩
    exact ⟨d, hd, hs, by simp⟩
  | bad s e hn =>
    rw [StreamParser.parse_bad hn, pushLoop_step d frames hd.bound, hs]
    have hn' : nextFrame s = .bad e := hn
    rw [hn']
    refine ⟨by simp, ?_⟩
    rintro e' ⟨rfl⟩
    exact ⟨rfl, rfl⟩
  | item s f rest hn ih =>
    have hn' : nextFrame d.pending = .item f rest := by rw [hs]; exact hn
    obtain ⟨hd', hp'⟩ := pending_item hd hn'
    obtain ⟨hok, herr⟩ := ih _ (frames ++ [f]) hd' hp'
    rw [StreamParser.parse_item hn, pushLoop_step d frames hd.bound, hn']
    refine ⟨fun r hr => ?_, herr⟩
    obtain ⟨d', h1, h2, h3⟩ := hok r hr
    exact ⟨d', h1, h2, by simpa using h3⟩

/-- Dropping the decoded prefix and appending new data appends it to the pending bytes. -/
private theorem push_prepare (d : FrameDecoder) (data : Bytes) (hd : d.Intact) :
    let d₁ := if d.offset > 0 then { d with buffer := d.buffer.drop d.offset, offset := 0 } else d
    let d₂ := { d₁ with buffer := d₁.buffer ++ data }
    d₂.Intact ∧ d₂.pending = d.pending ++ data := by
  have hb := hd.bound
  by_cases ho : d.offset > 0
  · simp only [ho, if_true]
    exact ⟨⟨hd.live, by simp⟩, by simp [pending]⟩
  · simp only [ho, if_false]
    refine ⟨⟨hd.live, by simp; omega⟩, ?_⟩
    simp only [pending]
    rw [List.drop_append_of_le_length hb]

/-- `push` on an intact decoder parses the pending bytes followed by the new ones. -/
theorem push_parse (d : FrameDecoder) (data : Bytes) (hd : d.Intact) :
    (∀ rest, (frameParser.parse (d.pending ++ data)).2 = .ok rest → ∃ d', d'.Intact ∧
      d'.pending = rest ∧ d.push data = (.ok (frameParser.parse (d.pending ++ data)).1, d')) ∧
    (∀ e, (frameParser.parse (d.pending ++ data)).2 = .error e →
      (d.push data).1 = .error e ∧ (d.push data).2.failed = true) := by
  obtain ⟨hd₂, hp₂⟩ := push_prepare d data hd
  obtain ⟨hok, herr⟩ := pushLoop_parse _ _ [] hd₂ hp₂
  unfold push
  rw [if_neg (by simp [hd.live])]
  refine ⟨fun rest hr => ?_, fun e he => ?_⟩
  · obtain ⟨d', hd', hp', hl⟩ := hok rest hr
    simp only [hl, List.nil_append]
    by_cases hfull : d'.offset = d'.buffer.length
    · rw [if_pos hfull]
      refine ⟨{ d' with buffer := [], offset := 0 }, ⟨hd'.live, Nat.le_refl _⟩, ?_, rfl⟩
      rw [← hp', pending, pending, hfull, List.drop_length]
      rfl
    · rw [if_neg hfull]
      exact ⟨d', hd', hp', rfl⟩
  · obtain ⟨h1, h2⟩ := herr e he
    simp only
    split
    · rename_i e' d' heq
      rw [heq] at h1 h2
      exact ⟨h1, h2⟩
    · rename_i heq
      rw [heq] at h1
      cases h1

/-- Push chunks one by one until one fails: the frames of the successful pushes, then the
decoder left behind or the error of the first failing push. -/
def pushAll : FrameDecoder → List Bytes → List Frame × Except ProtocolError FrameDecoder
  | d, [] => ([], .ok d)
  | d, c :: cs =>
    match d.push c with
    | (.ok frames, d') => (frames ++ (pushAll d' cs).1, (pushAll d' cs).2)
    | (.error e, _) => ([], .error e)

/-- Pushing chunk by chunk is feeding the reference parser chunk by chunk. -/
theorem pushAll_feed (d : FrameDecoder) (cs : List Bytes) (hd : d.Intact) :
    (∀ rest, (frameParser.feed d.pending cs).2 = .ok rest → ∃ d', d'.Intact ∧ d'.pending = rest ∧
      d.pushAll cs = ((frameParser.feed d.pending cs).1, .ok d')) ∧
    (∀ e, (frameParser.feed d.pending cs).2 = .error e →
      d.pushAll cs = ((frameParser.feed d.pending cs).1, .error e)) := by
  induction cs generalizing d with
  | nil =>
    refine ⟨?_, by simp [StreamParser.feed]⟩
    rintro rest ⟨rfl⟩
    exact ⟨d, hd, rfl, rfl⟩
  | cons c cs ih =>
    obtain ⟨hok, herr⟩ := push_parse d c hd
    cases h : (frameParser.parse (d.pending ++ c)).2 with
    | ok rest' =>
      obtain ⟨d', hd', hp', hpush⟩ := hok rest' h
      obtain ⟨iok, ierr⟩ := ih d' hd'
      rw [hp'] at iok ierr
      rw [StreamParser.feed_cons_ok h]
      refine ⟨fun r hr => ?_, fun e he => ?_⟩
      · obtain ⟨d'', h1, h2, h3⟩ := iok r hr
        exact ⟨d'', h1, h2, by simp only [pushAll, hpush, h3]⟩
      · simp only [pushAll, hpush, ierr e he]
    | error e' =>
      obtain ⟨hfail, -⟩ := herr e' h
      rw [StreamParser.feed_cons_error h]
      refine ⟨by simp, ?_⟩
      rintro e ⟨rfl⟩
      rw [pushAll]
      split
      · rename_i heq
        rw [heq] at hfail
        cases hfail
      · rename_i heq
        rw [heq] at hfail
        cases hfail
        rfl

/-- Every chunking of a stream ends as the reference parser ends on the whole of it. -/
theorem pushAll_stream (cs : List Bytes) :
    (∀ rest, (frameParser.parse cs.flatten).2 = .ok rest → ∃ d : FrameDecoder, d.Intact ∧
      d.pending = rest ∧ pushAll {} cs = ((frameParser.parse cs.flatten).1, .ok d)) ∧
    (∀ e, (frameParser.parse cs.flatten).2 = .error e → (pushAll {} cs).2 = .error e) := by
  have hnil : frameParser.next [] = .incomplete := rfl
  obtain ⟨hout, hitems⟩ := frameParser.feed_eq_parse hnil cs
  obtain ⟨hok, herr⟩ := pushAll_feed {} cs intact_fresh
  simp only [List.nil_append] at hout hitems
  refine ⟨fun rest hr => ?_, fun e he => ?_⟩
  · rw [← hout] at hr
    obtain ⟨d, hd, hp, h⟩ := hok rest hr
    exact ⟨d, hd, hp, by rw [h]; exact congrArg (·, _) (hitems rest hr)⟩
  · rw [← hout] at he
    rw [herr e he]

/-- The bytes of an incomplete frame never reach a full header and payload. -/
theorem incomplete_length {s : Bytes} (h : nextFrame s = .incomplete) :
    s.length ≤ kHeaderSize + kMaxPayloadSize - 1 := by
  unfold nextFrame at h
  split_ifs at h with hlen _ _ _ _ hmax hpay
  · simp only [kHeaderSize, kMaxPayloadSize] at hlen ⊢
    omega
  · simp only [kHeaderSize, kMaxPayloadSize] at hmax hpay ⊢
    omega

end FrameDecoder

/-- The concatenated encodings of a list of frames, if the codec accepts them all. -/
def encodeFrames : List Frame → Except ProtocolError Bytes
  | [] => .ok []
  | f :: fs => do
    let encoded ← encodeFrame f
    let rest ← encodeFrames fs
    return encoded ++ rest

theorem encodeFrames_ok_iff (fs : List Frame) (b : Bytes) :
    encodeFrames fs = .ok b ↔ (∀ f ∈ fs, WellFormed f) ∧ b = fs.flatMap wireBytes := by
  induction fs generalizing b with
  | nil => simp [encodeFrames, eq_comm]
  | cons f fs ih =>
    rw [encodeFrames]
    cases hf : encodeFrame f with
    | error e =>
      have hno : ¬WellFormed f := fun h => by
        have := (encodeFrame_ok_iff f _).mpr ⟨h, rfl⟩
        rw [hf] at this
        cases this
      simp [bind, Except.bind, hno]
    | ok w =>
      obtain ⟨hwf, rfl⟩ := (encodeFrame_ok_iff f w).mp hf
      cases hr : encodeFrames fs with
      | error e =>
        have hno : ¬∀ g ∈ fs, WellFormed g := fun h => by
          have := (ih _).mpr ⟨h, rfl⟩
          rw [hr] at this
          cases this
        simp [bind, Except.bind, hwf]
        intro h
        exact absurd h hno
      | ok r =>
        obtain ⟨hall, rfl⟩ := (ih r).mp hr
        have hmem : ∀ g ∈ f :: fs, WellFormed g := by
          simpa [hwf] using hall
        simp only [bind, Except.bind, pure, Except.pure, Except.ok.injEq, List.flatMap_cons]
        exact ⟨fun h => ⟨hmem, h.symm⟩, fun h => h.2.symm⟩

open FrameDecoder in
/-- The decoder is a whole-stream codec: its outcome depends on the bytes alone, what it decodes
re-encodes to what it read, and it decodes every encoded list of frames back. -/
theorem frameDecoder_stream_codec (s : Bytes) :
    (∀ cs cs' : List Bytes, cs.flatten = s → cs'.flatten = s →
      (∀ e, (pushAll {} cs).2 = .error e ↔ (pushAll {} cs').2 = .error e) ∧
      (∀ d, (pushAll {} cs).2 = .ok d → (pushAll {} cs').1 = (pushAll {} cs).1)) ∧
    (∀ (cs : List Bytes) (d : FrameDecoder), cs.flatten = s → (pushAll {} cs).2 = .ok d →
      (∀ f ∈ (pushAll {} cs).1, ∃ b, encodeFrame f = .ok b) ∧
      (∃ b, encodeFrames (pushAll {} cs).1 = .ok b ∧ b ++ d.buffer.drop d.offset = s) ∧
      d.offset ≤ d.buffer.length ∧ d.bufferedBytes ≤ kHeaderSize + kMaxPayloadSize - 1) ∧
    (∀ fs, encodeFrames fs = .ok s → ∀ cs : List Bytes, cs.flatten = s →
      ∃ d, pushAll {} cs = (fs, .ok d) ∧ d.bufferedBytes = 0) := by
  refine ⟨?_, ?_, ?_⟩
  · rintro cs cs' rfl hs'
    obtain ⟨hok, herr⟩ := pushAll_stream cs
    obtain ⟨hok', herr'⟩ := pushAll_stream cs'
    rw [hs'] at hok' herr'
    cases h : (frameParser.parse cs.flatten).2 with
    | ok rest =>
      obtain ⟨d, -, -, hd⟩ := hok rest h
      obtain ⟨d', -, -, hd'⟩ := hok' rest h
      rw [hd, hd']
      exact ⟨fun e => by simp, fun _ _ => rfl⟩
    | error e =>
      rw [herr e h, herr' e h]
      exact ⟨fun _ => Iff.rfl, fun d hd => by cases hd⟩
  · rintro cs d rfl hd
    obtain ⟨hok, herr⟩ := pushAll_stream cs
    cases h : (frameParser.parse cs.flatten).2 with
    | error e => rw [herr e h] at hd; cases hd
    | ok rest =>
      obtain ⟨d', hint, hpend, hd'⟩ := hok rest h
      rw [hd'] at hd ⊢
      cases hd
      obtain ⟨hall, hcat⟩ := frameCodec.parse_sound cs.flatten
      refine ⟨fun f hf => ⟨_, (encodeFrame_ok_iff f _).mpr ⟨hall f hf, rfl⟩⟩, ?_, hint.bound, ?_⟩
      · exact ⟨_, (encodeFrames_ok_iff _ _).mpr ⟨hall, rfl⟩,
          by rw [← pending, hpend]; exact (hcat rest h).symm⟩
      · rw [bufferedBytes_eq, hpend]
        exact incomplete_length (StreamParser.parse_ok_next h)
  · rintro fs hfs cs rfl
    obtain ⟨hall, hcat⟩ := (encodeFrames_ok_iff fs _).mp hfs
    have hparse := frameCodec.parse_encode hall []
    have hnil : frameParser.parse [] = ([], .ok []) := StreamParser.parse_incomplete rfl
    rw [List.append_nil, ← hcat, hnil, List.append_nil] at hparse
    obtain ⟨d, -, hpend, hd⟩ := (pushAll_stream cs).1 [] (by rw [hparse])
    exact ⟨d, by rw [hd, hparse], by rw [bufferedBytes_eq, hpend]; rfl⟩

end PersonalVpn.Protocol
