import PersonalVpn.Lib.Run
import PersonalVpn.Server.SessionRun

namespace PersonalVpn.Server

open PersonalVpn.Core Protocol

namespace TlsTunnelSession

variable {σ : Type} {s s' : TlsTunnelSession}

/-- A session that closes behind its queue has a controller and reads nothing more. -/
def Flushes (s : TlsTunnelSession) : Prop :=
  s.stopped = false → s.closeAfterWrite = true →
    s.controller ≠ none ∧ s.reading = false ∧ s.inbound = []

theorem flushes_stopped (h : s.stopped = true) : s.Flushes :=
  fun hno => absurd (h.symm.trans hno) (by decide)

theorem flushes_closeNow (s : TlsTunnelSession) : s.closeNow.Flushes :=
  flushes_stopped (closeNow_stopped s)

theorem Flushes.withController (h : s.Flushes) (c : SessionController) :
    Flushes { s with controller := some c } :=
  fun hs hc => ⟨by simp, (h hs hc).2⟩

/-- Work on the transport that does not ask to close. -/
theorem Flushes.transported (h : s.Flushes) (ht : Transported s s')
    (hc : s'.closeAfterWrite = s.closeAfterWrite) : s'.Flushes := by
  obtain ⟨hs, -, hi⟩ | ⟨-, hstopped, -⟩ := ht.closing
  · intro hs' hc'
    rw [ht.controller, ht.reading, hi]
    exact h (hs.symm.trans hs') (hc.symm.trans hc')
  · exact flushes_stopped hstopped

theorem closeNow_closeAfterWrite (s : TlsTunnelSession) :
    s.closeNow.closeAfterWrite = s.closeAfterWrite := by
  unfold closeNow
  split <;> rfl

theorem readNext_closeAfterWrite (s : TlsTunnelSession) :
    s.readNext.closeAfterWrite = s.closeAfterWrite := by
  unfold readNext
  split <;> rfl

theorem writeNext_closeAfterWrite (s : TlsTunnelSession) :
    s.writeNext.closeAfterWrite = s.closeAfterWrite := by
  unfold writeNext
  split
  · rfl
  · dsimp only
    split
    · exact closeNow_closeAfterWrite _
    · rfl

theorem enqueueFrame_closeAfterWrite (s : TlsTunnelSession) (f : Frame) :
    (s.enqueueFrame f).2.closeAfterWrite = s.closeAfterWrite := by
  unfold enqueueFrame
  split
  · rfl
  · split
    · dsimp only
      split
      · rfl
      · exact writeNext_closeAfterWrite _
    · rfl
    · rfl

theorem handleWrite_closeAfterWrite (s : TlsTunnelSession) (failed : Bool) :
    (s.handleWrite failed).closeAfterWrite = s.closeAfterWrite := by
  unfold handleWrite
  split
  · rfl
  split
  · exact closeNow_closeAfterWrite s
  · split
    · exact writeNext_closeAfterWrite _
    · rfl

theorem handleRead_closeAfterWrite (s : TlsTunnelSession) (read : Option Bytes) :
    (s.handleRead read).closeAfterWrite = s.closeAfterWrite := by
  have hcases := handleRead_cases s read
  generalize s.handleRead read = s' at hcases ⊢
  cases hcases with
  | stopped => rfl
  | ended => exact closeNow_closeAfterWrite _
  | malformed => exact closeNow_closeAfterWrite _
  | frames => exact (continueReading_flags _).2

theorem handleHandshake_closeAfterWrite (s : TlsTunnelSession) (w : Shared σ)
    (fingerprint : Option Bytes) :
    (s.handleHandshake w fingerprint).1.closeAfterWrite = s.closeAfterWrite := by
  have hcases := handleHandshake_cases s w fingerprint
  generalize s.handleHandshake w fingerprint = after at hcases ⊢
  cases hcases with
  | stopped => rfl
  | anonymous => exact closeNow_closeAfterWrite s
  | refused => exact closeNow_closeAfterWrite s
  | opened => exact readNext_closeAfterWrite _

theorem flushes_continueReading (hc : s.controller ≠ none) (hr : s.reading = false) :
    s.continueReading.Flushes := by
  unfold continueReading
  split
  · exact fun _ _ => ⟨hc, hr, rfl⟩
  · rename_i hgoes
    intro _ hno
    have hflag : s.closeAfterWrite = true := by
      split at hno
      · rwa [readNext_closeAfterWrite] at hno
      · exact hno
    exact absurd (by simp [hflag]) hgoes

theorem handleFrame_reading (h : Handlers σ) (s : TlsTunnelSession) (w : Shared σ) (f : Frame)
    (now : TimePoint) : (s.handleFrame h w f now).1.reading = s.reading := by
  have hcases := handleFrame_cases h s w f now
  generalize s.handleFrame h w f now = after at hcases ⊢
  cases hcases with
  | unopened => rfl
  | threw => exact (transported_closeNow _).reading
  | @handled c c' manager r =>
    have hcases := conclude_cases h { s with controller := some c', handled := s.handled ++ [f] }
      { w with manager } c' r
    generalize conclude h { s with controller := some c', handled := s.handled ++ [f] }
      { w with manager } c' r = after at hcases ⊢
    cases hcases with
    | known => exact (transported_applyResult _ _ _ _).reading
    | admitted => exact (transported_applyResult _ _ _ _).reading
    | rejected => exact (transported_closeNow _).reading

theorem Flushes.sendFromTun (hf : s.Flushes) (overflow sent : ServerMetrics → ServerMetrics)
    (w : Shared σ) (packet : Bytes) (now : TimePoint) :
    (s.sendFromTun overflow sent w packet now).1.Flushes := by
  have hcases := sendFromTun_cases overflow sent s w packet now
  generalize TlsTunnelSession.sendFromTun overflow sent s w packet now = after at hcases ⊢
  cases hcases with
  | ignored => exact hf
  | dropped => exact hf.withController _
  | ended => exact flushes_closeNow _
  | @queued c c' manager f s₁ live old make enqueue =>
    have hqueued := (hf.withController c').transported (transported_enqueueFrame _ f)
      (enqueueFrame_closeAfterWrite _ f)
    rwa [enqueue] at hqueued
  | overflowed => exact flushes_closeNow _
  | @threw c c' manager f s₁ e live old make enqueue =>
    have hqueued := (hf.withController c').transported (transported_enqueueFrame _ f)
      (enqueueFrame_closeAfterWrite _ f)
    rwa [enqueue] at hqueued

/-- While the loop of `handle_read` has frames left no read is outstanding. -/
theorem Flushes.not_reading (hf : s.Flushes) (hr : s.Reads) (hs : s.stopped = false)
    (hi : s.inbound ≠ []) : s.reading = false ∧ s.closeAfterWrite = false := by
  have hopen : s.closeAfterWrite = false := by
    cases hc : s.closeAfterWrite with
    | false => rfl
    | true => exact absurd (hf hs hc).2.2 hi
  refine ⟨?_, hopen⟩
  cases hread : s.reading with
  | false => rfl
  | true => exact absurd ((hr hs hopen).2.1 hread) hi

theorem Flushes.step (hf : s.Flushes) (hr : s.Reads) (hs : s.stopped = false) (h : Handlers σ)
    (w : Shared σ) {e : SessionEvent} (hclose : e ≠ .close) : (s.step h w e).1.Flushes := by
  have hvacuous {s' : TlsTunnelSession} (hc : s'.closeAfterWrite = false) : s'.Flushes :=
    fun _ hno => absurd (hc.symm.trans hno) (by decide)
  have hcases := step_cases h s w e
  generalize TlsTunnelSession.step h s w e = after at hcases ⊢
  cases hcases with
  | busy => exact hf
  | unawaited => exact hf
  | handshake fingerprint idle none =>
    -- a session without a controller has not been asked to close
    have hopen : s.closeAfterWrite = false := by
      cases hflag : s.closeAfterWrite with
      | false => rfl
      | true => exact absurd none (hf hs hflag).1
    exact hvacuous ((handleHandshake_closeAfterWrite s w fingerprint).trans hopen)
  | handshakeTimeout => exact flushes_closeNow s
  | read read idle reading =>
    have hopen : s.closeAfterWrite = false := by
      cases hflag : s.closeAfterWrite with
      | false => rfl
      | true => exact absurd (reading.symm.trans (hf hs hflag).2.1) (by decide)
    exact hvacuous ((handleRead_closeAfterWrite s read).trans hopen)
  | frame now =>
    unfold handleNextFrame
    cases hi : s.inbound with
    | nil => exact hf
    | cons f rest =>
      obtain ⟨hread, hopen⟩ := hf.not_reading hr hs (by simp [hi])
      have hreading := handleFrame_reading h { s with inbound := rest } w f now
      dsimp only
      have hcases := handleFrame_cases h { s with inbound := rest } w f now
      generalize handleFrame h { s with inbound := rest } w f now = after at hcases hreading ⊢
      apply flushes_continueReading
      · cases hcases with
        | unopened hctl => exact absurd ((hr hs hopen).2.2 hctl).2 (by simp [hi])
        | threw =>
          rw [(transported_closeNow _).controller]
          simp
        | handled =>
          rw [(conclude_announced h _ _ _ _).2.1]
          simp
      · exact hreading.trans hread
  | write failed =>
    exact hf.transported (transported_handleWrite s failed) (handleWrite_closeAfterWrite s failed)
  | sendIpv4 packet now => exact hf.sendFromTun _ _ w packet now
  | sendIpv6 packet now => exact hf.sendFromTun _ _ w packet now
  | idleTimeout => exact flushes_closeNow s
  | stop => exact flushes_closeNow s
  | close => exact absurd rfl hclose

/-- A frame that the controller rejects: the ERROR is queued and the session is to close behind it. -/
theorem handleNextFrame_rejected (h : Handlers σ) (w : Shared σ) {now : TimePoint} {frame f : Frame}
    {rest : List Frame} {c c' : SessionController} {m' : LeaseManager} {result : SessionResult}
    (hs : s.stopped = false) (hb : s.Busy) (hi : s.inbound = frame :: rest)
    (hctl : s.controller = some c)
    (heq : c.handle w.manager frame now = (.ok result, c', m')) (hstate : c'.state = .closing)
    (hframes : result.outboundFrames = [f]) (hclose : result.closeTransport = true)
    (hf : WellFormed f) (haccepted : (s.outboundQueue.tryEnqueue f).1 = .ok true) :
    let s' := (s.handleNextFrame h w now).1
    s'.stopped = false ∧ s'.closing = s.closing ∧ s'.closeAfterWrite = true ∧
      s'.writeInProgress = true ∧ s'.controller = some c' := by
  let s₀ := { s with inbound := rest, controller := some c', handled := s.handled ++ [frame] }
  have hannounce : s₀.announce h { w with manager := m' } c' =
      (true, s₀, { w with manager := m' }) := by
    obtain ⟨-, ha⟩ | ⟨l, counted, metrics, -, hest, -, -⟩ :=
      announce_cases h s₀ { w with manager := m' } c'
    · exact ha
    · exact absurd (hstate.symm.trans hest) (by decide)
  obtain hfull | ⟨s₁, htaken, hs₁, -, hput⟩ := enqueueFrame_cases (s := s₀) hs hb hf
  · rcases hqueue : s.outboundQueue.tryEnqueue f with ⟨a, q⟩
    rw [hqueue] at haccepted
    obtain rfl : a = .ok true := haccepted
    have htrue : (s₀.enqueueFrame f).1 = .ok true := by simp [enqueueFrame, s₀, hs, hqueue]
    rw [hfull] at htrue
    cases htrue
  · have hbusy : s₁.writeInProgress = true := congrArg FifoWriter.busy hput
    have ht := transported_enqueueFrame s₀ f
    rw [htaken] at ht
    have hclosing : s₁.closing = s.closing := by
      obtain ⟨-, hclosing, -⟩ | ⟨-, hstop, -⟩ := ht.closing
      · exact hclosing
      · exact absurd (hstop.symm.trans hs₁) (by decide)
    have hresult : (s₀.applyResult h { w with manager := m' } result).1 =
        { s₁ with closeAfterWrite := true } := by
      simp [applyResult, hframes, enqueueAll, htaken, hclose, hbusy]
    have hhandle : (handleFrame h { s with inbound := rest } w frame now).1 =
        { s₁ with closeAfterWrite := true } := by
      rw [← hresult]
      simp only [handleFrame, hctl, heq]
      unfold conclude
      rw [hannounce]
    intro s'
    have hs' : s' = { s₁ with closeAfterWrite := true, inbound := [] } := by
      simp only [s', handleNextFrame, hi]
      rw [hhandle]
      simp [continueReading]
    rw [hs']
    exact ⟨hs₁, hclosing, rfl, hbusy, ht.controller⟩

/-- A packet for a session whose controller has begun to close closes it at once. -/
theorem sendFromTun_closing (overflow sent : ServerMetrics → ServerMetrics) (w : Shared σ)
    (packet : Bytes) (now : TimePoint) {c : SessionController} (hs : s.stopped = false)
    (hctl : s.controller = some c) (hl : c.lease = none) (hst : c.state ≠ .established) :
    (s.sendFromTun overflow sent w packet now).1.stopped = true := by
  have hnone : c.makeDataToClient w.manager packet now = (none, c, w.manager) := by
    simp [SessionController.makeDataToClient, hl]
  have hcases := sendFromTun_cases overflow sent s w packet now
  generalize s.sendFromTun overflow sent w packet now = after at hcases ⊢
  cases hcases with
  | ignored absent => cases hctl.symm.trans (absent hs)
  | dropped live old make state =>
    cases hctl.symm.trans old
    cases hnone.symm.trans make
    exact absurd state hst
  | ended => exact closeNow_stopped _
  | queued live old make =>
    cases hctl.symm.trans old
    cases hnone.symm.trans make
  | overflowed => exact closeNow_stopped _
  | threw live old make =>
    cases hctl.symm.trans old
    cases hnone.symm.trans make

end TlsTunnelSession

namespace SessionRun

variable {r : SessionRun} {x : SessionMoment} {made : List Frame}

/-- The invariant of a run, with what the session still reads. -/
structure Reading (r : SessionRun) : Prop extends r.Sound where
  reads : r.session.Reads
  flushes : r.session.Flushes

theorem reading_start (maximumFrames maximumBytes : Nat) :
    (start maximumFrames maximumBytes).Reading where
  toSound := sound_start maximumFrames maximumBytes
  reads := TlsTunnelSession.reads_fresh _
  flushes := fun _ hno => by cases hno

theorem Reading.step (h : r.Reading) (x : SessionMoment) : (r.step x).Reading := by
  have hsound := h.toSound.step x
  cases hs : (r.step x).session.stopped with
  | true => exact ⟨hsound, TlsTunnelSession.reads_stopped hs, TlsTunnelSession.flushes_stopped hs⟩
  | false =>
    obtain ⟨hopen, hsession⟩ := h.toSound.still_open hs
    by_cases hclose : x.event = .close
    · have hhandle : (r.handle x).1 = r.session := by simp [handle, hclose]
      rw [hhandle] at hsession
      exact ⟨hsound, by rw [hsession]; exact h.reads, by rw [hsession]; exact h.flushes⟩
    · rw [h.toSound.handle_eq hopen hclose] at hsession
      exact ⟨hsound, by rw [hsession]; exact h.reads.step _ _ _,
        by rw [hsession]; exact h.flushes.step h.reads hopen.stopped _ _ hclose⟩

/-- An open session that closes behind its queue, after its controller has made the frames `made`. -/
structure Draining (r : SessionRun) (made : List Frame) : Prop where
  stopped : r.session.stopped = false
  closeAfterWrite : r.session.closeAfterWrite = true
  writeInProgress : r.session.writeInProgress = true
  controller : ∃ c, r.session.controller = some c ∧ c.state = .closing
  created : r.created = made

/-- In the event `x` the controller answers a frame with the ERROR `f` and asks to close, and the queue
takes `f`. -/
structure Rejects (r : SessionRun) (x : SessionMoment) (f : Frame) : Prop where
  error : f.type = .error
  handled : ∃ now frame rest c result, x.event = .frame now ∧ r.session.inbound = frame :: rest ∧
    r.session.controller = some c ∧ (c.handle x.manager frame now).1 = .ok result ∧
    f ∈ result.outboundFrames ∧ result.closeTransport = true
  accepted : (r.session.outboundQueue.tryEnqueue f).1 = .ok true

/-- An ERROR that the queue takes leaves the session draining. -/
theorem Rejects.draining {f : Frame} (hr : r.Rejects x f) (h : r.Reading) :
    (r.step x).Draining (r.created ++ [f]) := by
  obtain ⟨now, frame, rest, c, result, hevent, hinbound, hctl, hhandle, hmem, hclose⟩ := hr.handled
  have hopen : r.Open := by
    obtain hopen | hended := h.phase
    · exact hopen
    · rw [hended.inbound] at hinbound
      cases hinbound
  have hc := h.holds c hctl
  obtain ⟨result', c', m', heq, hh⟩ := SessionController.handle_handled hc x.manager frame now
  rw [heq] at hhandle
  obtain rfl := Except.ok.inj hhandle
  have hother {g : Frame} (hg : f ∈ [g]) (hno : g.type ≠ .error) : False := by
    rw [List.mem_singleton] at hg
    exact hno (hg ▸ hr.error)
  -- only `fail` answers with an ERROR
  have hfailed : c'.state = .closing ∧ result'.outboundFrames = [f] := by
    cases hh with
    | failed => exact ⟨rfl, by rw [List.mem_singleton.mp hmem]⟩
    | inert => cases hmem
    | granted => exact (hother hmem (by simp)).elim
    | packet => cases hmem
    | pong => exact (hother hmem (by simp)).elim
    | closed => cases hmem
  have hframes := hfailed.2
  have hformed : WellFormed f := by
    apply SessionHistory.answer_wellFormed hc (.handle x.manager frame now)
    simp [SessionHistory.answer, heq, SessionEntry.frames, hframes]
  have hrejected := TlsTunnelSession.handleNextFrame_rejected (HandlerCall.handlers x.admits)
    (r.shared x) hopen.stopped (h.busy hopen).1 hinbound hctl heq hfailed.1 hframes hclose hformed
    hr.accepted
  have hstep : r.handle x =
      r.session.handleNextFrame (HandlerCall.handlers x.admits) (r.shared x) now := by
    rw [h.handle_eq hopen (by simp [hevent]), hevent, TlsTunnelSession.step]
  rw [← hstep] at hrejected
  obtain ⟨hs, hclosing, hflag, hbusy, hcontroller⟩ := hrejected
  have hsession := session_step_open (hclosing.trans hopen.closing)
  have hmade : r.session.framesMade (r.shared x) x.event = [f] := by
    have hcall : r.session.call (r.shared x) x.event = some (.handle x.manager frame now) := by
      simp [hevent, TlsTunnelSession.call, hinbound, shared]
    rw [TlsTunnelSession.framesMade_call hctl hcall]
    simp [SessionHistory.answer, heq, SessionEntry.frames, hframes]
  refine ⟨by rw [hsession, hs], by rw [hsession, hflag], by rw [hsession, hbusy], ?_, ?_⟩
  · rw [hsession]
    exact ⟨c', hcontroller, hfailed.1⟩
  · rw [SessionRun.step, hmade]

/-- The events that the session does not end by: no write fails, the idle timer does not expire, and
nobody stops it. -/
def Undisturbed : SessionEvent → Prop
  | .write failed => failed = false
  | .idleTimeout => False
  | .stop => False
  | _ => True

/-- A packet from the TUN device. -/
def FromTun : SessionEvent → Prop
  | .sendIpv4 _ _ => True
  | .sendIpv6 _ _ => True
  | _ => False

/-- The writes of these frames have completed. -/
def Reported (r : SessionRun) (made : List Frame) : Prop :=
  made.map wireBytes <+: r.session.written.take r.completed

theorem Sound.reported_iff (h : r.Sound) (hmade : r.created = made) :
    r.Reported made ↔ made.length ≤ r.completed := by
  have hwrote : r.session.written <+: made.map wireBytes := by
    rw [← hmade]
    exact h.books.wrote
  have hawaited : r.completed ≤ r.session.written.length := h.books.awaited
  have hlen := hwrote.length_le
  rw [List.length_map] at hlen
  unfold Reported
  constructor
  · intro hall
    have hle := hall.length_le
    simp only [List.length_map, List.length_take] at hle
    omega
  · intro hle
    have hsame : r.session.written = made.map wireBytes := by
      apply hwrote.eq_of_length
      rw [List.length_map]
      omega
    rw [hsame, List.take_of_length_le (by simpa using hle)]

theorem Draining.completed_lt (hd : r.Draining made) (h : r.Sound) :
    r.completed < made.length := by
  have hstarted : r.session.written.length = r.completed + r.session.writeInProgress.toNat :=
    (h.books.flows hd.stopped).started
  have hlen := h.books.wrote.length_le
  change r.session.written.length ≤ (r.created.map wireBytes).length at hlen
  rw [hd.writeInProgress, Bool.toNat_true] at hstarted
  rw [hd.created, List.length_map] at hlen
  omega

theorem Draining.open (hd : r.Draining made) (h : r.Sound) : r.Open := by
  obtain hopen | hended := h.phase
  · exact hopen
  · exact absurd (hended.stopped.symm.trans hd.stopped) (by decide)

/-- Any packet from the TUN device ends a draining session with its writes still outstanding. -/
theorem Draining.fromTun (hd : r.Draining made) (h : r.Reading) (he : FromTun x.event) :
    (r.step x).session.stopped = true ∧ (r.step x).completed = r.completed ∧
      (r.step x).created = made := by
  have hopen := hd.open h.toSound
  obtain ⟨c, hctl, hst⟩ := hd.controller
  obtain ⟨-, -, hinbound⟩ := h.flushes hd.stopped hd.closeAfterWrite
  have hestablished : c.state ≠ .established := by simp [hst]
  have hl := (h.holds c hctl).none hestablished
  have hstops (overflow sent : ServerMetrics → ServerMetrics) (packet : Bytes) (now : TimePoint) :
      (r.session.whenIdle (r.shared x)
        (r.session.sendFromTun overflow sent (r.shared x) packet now)).1.stopped = true := by
    rw [TlsTunnelSession.whenIdle, if_neg (by simp [hinbound])]
    exact TlsTunnelSession.sendFromTun_closing _ _ _ _ _ hd.stopped hctl hl hestablished
  have hmade (packet : Bytes) (now : TimePoint) : SessionEntry.frames ⟨c.state,
      .makeDataToClient (r.shared x).manager packet now,
      (SessionHistory.answer c (.makeDataToClient (r.shared x).manager packet now)).1⟩ = [] := by
    simp [SessionHistory.answer, SessionController.makeDataToClient, hl, SessionEntry.frames]
  have hhandle : (r.handle x).1.stopped = true ∧
      r.session.framesMade (r.shared x) x.event = [] ∧ r.completes x = false := by
    have hclose : x.event ≠ .close := by
      intro hno
      rw [hno] at he
      exact he
    rw [h.handle_eq hopen hclose]
    unfold completes
    cases hevent : x.event with
    | sendIpv4 packet now =>
      refine ⟨hstops _ _ packet now, ?_, rfl⟩
      rw [TlsTunnelSession.framesMade_call hctl
        (by rw [TlsTunnelSession.call, if_pos ⟨hinbound, hd.stopped⟩])]
      exact hmade packet now
    | sendIpv6 packet now =>
      refine ⟨hstops _ _ packet now, ?_, rfl⟩
      rw [TlsTunnelSession.framesMade_call hctl
        (by rw [TlsTunnelSession.call, if_pos ⟨hinbound, hd.stopped⟩])]
      exact hmade packet now
    | _ =>
      rw [hevent] at he
      exact he.elim
  obtain ⟨hstop, hframes, hcompletes⟩ := hhandle
  exact ⟨h.stops hstop, by simp [SessionRun.step, hcompletes],
    by simp [SessionRun.step, hframes, hd.created]⟩

/-- A completed write brings a draining session closer to its end, or to it. -/
theorem Draining.wrote (hd : r.Draining made) (h : r.Reading) (he : x.event = .write false) :
    (r.step x).created = made ∧ ((r.step x).Draining made ∨
      ((r.step x).session.stopped = true ∧ made.length ≤ (r.step x).completed)) := by
  have hopen := hd.open h.toSound
  have hlt := hd.completed_lt h.toSound
  obtain ⟨hbusy, hawaited⟩ := h.busy hopen
  obtain ⟨-, -, hinbound⟩ := h.flushes hd.stopped hd.closeAfterWrite
  have hcompletes : r.completes x = true := by
    simp [completes, he, hinbound, hawaited.mpr hd.writeInProgress]
  have hcompleted : (r.step x).completed = r.completed + 1 := by simp [SessionRun.step, hcompletes]
  have hcreated : (r.step x).created = made := by
    rw [SessionRun.step, he, TlsTunnelSession.framesMade_none (.inr rfl), List.append_nil, hd.created]
  refine ⟨hcreated, ?_⟩
  obtain ⟨q, hpop, hq⟩ := OutboundFrameQueue.popFront_queue (hbusy.mp hd.writeInProgress)
  have hs' : ({ r.session with outboundQueue := q } : TlsTunnelSession).stopped = false := hd.stopped
  have hhandle : (r.handle x).1 = TlsTunnelSession.writeNext { r.session with outboundQueue := q } := by
    rw [handle, he]
    dsimp only
    rw [if_pos hcompletes, TlsTunnelSession.handleWrite, if_neg (by simp [hd.stopped])]
    simp [hpop]
  obtain ⟨next, rest, hqueue, heq⟩ | ⟨hqueue, heq⟩ := TlsTunnelSession.writeNext_cases hs'
  · left
    rw [heq] at hhandle
    have hsession := session_step_open (x := x) (by rw [hhandle]; exact hopen.closing)
    rw [hhandle] at hsession
    refine ⟨by rw [hsession]; exact hd.stopped, by rw [hsession]; exact hd.closeAfterWrite,
      by rw [hsession], by rw [hsession]; exact hd.controller, hcreated⟩
  · right
    have hstop : (r.handle x).1.stopped = true := by
      rw [hhandle, heq, if_pos hd.closeAfterWrite]
      exact TlsTunnelSession.closeNow_stopped _
    refine ⟨h.stops hstop, ?_⟩
    -- nothing is queued behind the buffer that was written
    have hflows := h.books.flows hd.stopped
    have haccepted : r.created.map wireBytes =
        r.session.written ++ r.session.outboundQueue.queue.tail := hflows.accepted
    have hstarted : r.session.written.length = r.completed + r.session.writeInProgress.toNat :=
      hflows.started
    have hlen := congrArg List.length haccepted
    dsimp only at hqueue
    rw [← hq, hqueue, List.append_nil, List.length_map, hd.created] at hlen
    rw [hd.writeInProgress, Bool.toNat_true] at hstarted
    omega

theorem step_eq_self (hopen : r.Open) (hh : r.handle x = (r.session, r.shared x))
    (hmade : r.session.framesMade (r.shared x) x.event = []) (hc : r.completes x = false) :
    r.step x = r := by
  have hrun : runClose x (r.handle x) = (r.session, r.log) := by
    rw [hh, runClose_of_ne (by simp [hopen.closing]) (by simp [hopen.closing])]
    rfl
  rw [SessionRun.step, hrun, hmade, hc, List.append_nil]
  rfl

/-- Nothing else happens to a draining session. -/
theorem Draining.unmoved (hd : r.Draining made) (h : r.Reading) (hu : Undisturbed x.event)
    (hwrite : x.event ≠ .write false) (htun : ¬FromTun x.event) : r.step x = r := by
  have hopen := hd.open h.toSound
  obtain ⟨c, hctl, -⟩ := hd.controller
  obtain ⟨-, hreading, hinbound⟩ := h.flushes hd.stopped hd.closeAfterWrite
  have hidle (after : TlsTunnelSession × Shared (List HandlerCall)) :
      r.session.whenIdle (r.shared x) after = after := by
    simp [TlsTunnelSession.whenIdle, hinbound]
  have hclosing := hopen.closing
  apply step_eq_self hopen
  · unfold handle
    cases hevent : x.event with
    | handshake fingerprint => simp [TlsTunnelSession.step, hidle, hctl]
    | handshakeTimeout =>
      simp [TlsTunnelSession.step, hidle, TlsTunnelSession.handshakeTimeout, hctl]
    | read read => simp [TlsTunnelSession.step, hidle, hreading]
    | frame now => simp [TlsTunnelSession.step, TlsTunnelSession.handleNextFrame, hinbound]
    | write failed =>
      rw [hevent] at hu hwrite
      exact absurd (congrArg SessionEvent.write hu) hwrite
    | sendIpv4 packet now => exact absurd (by simp [hevent, FromTun]) htun
    | sendIpv6 packet now => exact absurd (by simp [hevent, FromTun]) htun
    | idleTimeout =>
      rw [hevent] at hu
      exact hu.elim
    | stop =>
      rw [hevent] at hu
      exact hu.elim
    | close => rfl
  · apply TlsTunnelSession.framesMade_none
    right
    unfold TlsTunnelSession.call
    split
    · simp [hinbound]
    · exact absurd (by simp [*, FromTun]) htun
    · exact absurd (by simp [*, FromTun]) htun
    · simp [hclosing]
    · rfl
  · unfold completes
    split
    · rename_i failed hevent
      rw [hevent] at hu hwrite
      exact absurd (congrArg SessionEvent.write hu) hwrite
    · rfl

/-- What holds from the ERROR on. -/
structure Closing (r : SessionRun) (made : List Frame) : Prop extends r.Reading where
  created : r.created = made
  drains : r.Draining made ∨ r.Ended

/-- A session that has yet to close has reported the ERROR by then, unless a packet from the TUN device
comes first. -/
theorem Closing.step (h : r.Closing made) (hu : Undisturbed x.event) :
    (r.step x).Closing made ∧
      ((r.session.stopped = true → r.Reported made) →
        (((r.step x).session.stopped = true → (r.step x).Reported made) ↔
          (FromTun x.event → made.length ≤ r.completed))) := by
  have hreading := h.toReading.step x
  have hended (hs : (r.step x).session.stopped = true) : (r.step x).Ended := by
    obtain hopen | hended := hreading.phase
    · exact absurd (hs.symm.trans hopen.stopped) (by decide)
    · exact hended
  obtain hd | hended₀ := h.drains
  · by_cases htun : FromTun x.event
    · obtain ⟨hstop, hcompleted, hcreated⟩ := hd.fromTun h.toReading htun
      have hlt := hd.completed_lt h.toSound
      refine ⟨⟨hreading, hcreated, .inr (hended hstop)⟩, fun _ => ?_⟩
      rw [hreading.reported_iff hcreated, hcompleted]
      simp [hstop, htun]
    · by_cases hwrite : x.event = .write false
      · obtain ⟨hcreated, hd' | ⟨hstop, hle⟩⟩ := hd.wrote h.toReading hwrite
        · exact ⟨⟨hreading, hcreated, .inl hd'⟩, fun _ => by simp [hd'.stopped, htun]⟩
        · refine ⟨⟨hreading, hcreated, .inr (hended hstop)⟩, fun _ => ?_⟩
          rw [hreading.reported_iff hcreated]
          simp [hle, htun]
      · rw [hd.unmoved h.toReading hu hwrite htun]
        exact ⟨h, fun hq => by simp [hd.stopped, htun]⟩
  · obtain ⟨reading, heq⟩ := hended₀.step_eq (x := x)
    have hcreated : (r.step x).created = made := by
      rw [heq]
      exact h.created
    have hcompleted : (r.step x).completed = r.completed + (r.completes x).toNat := rfl
    refine ⟨⟨hreading, hcreated, .inr hended₀.step⟩, fun hq => ?_⟩
    have hle : made.length ≤ r.completed := (h.reported_iff h.created).mp (hq hended₀.stopped)
    rw [hreading.reported_iff hcreated, hcompleted]
    constructor
    · exact fun _ _ => hle
    · exact fun _ _ => hle.trans (Nat.le_add_right _ _)

/-- After an ERROR that the queue has taken, a session that nothing disturbs has completed the writes
of all frames up to and including the ERROR whenever it is closed, if and only if no packet from the TUN
device reaches it before the last of these writes completes. -/
theorem policy_error_reported_iff (maximumFrames maximumBytes : Nat) (xs ys : List SessionMoment)
    (x : SessionMoment) (f : Frame)
    (hf : (Run.run step (start maximumFrames maximumBytes) xs).Rejects x f)
    (hys : ∀ y ∈ ys, Undisturbed y.event) :
    let r := Run.run step (start maximumFrames maximumBytes) (xs ++ [x])
    r.session.stopped = false ∧ r.created.getLast? = some f ∧
      ((∀ k, (Run.run step r (ys.take k)).session.stopped = true →
          (Run.run step r (ys.take k)).Reported r.created) ↔
        Run.Along step (fun r' y => FromTun y.event → r.created.length ≤ r'.completed) r ys) := by
  intro r
  have hreading : (Run.run step (start maximumFrames maximumBytes) xs).Reading :=
    Run.invariant (fun _ x h => h.step x) (reading_start maximumFrames maximumBytes) xs
  have hr : r = (Run.run step (start maximumFrames maximumBytes) xs).step x := by
    simp [r, Run.run_append]
  have hd := hf.draining hreading
  rw [← hr] at hd
  have hclosing : r.Closing r.created := by
    refine ⟨?_, rfl, .inl ?_⟩
    · rw [hr]
      exact hreading.step x
    · rw [hd.created]
      exact hd
  refine ⟨hd.stopped, by simp [hd.created], ?_⟩
  have hopen : r.session.stopped = true → r.Reported r.created := by simp [hd.stopped]
  exact Run.forall_take_iff_along (E := fun y : SessionMoment => Undisturbed y.event)
    (P := fun r' : SessionRun => r'.Closing r.created)
    (Q := fun r' : SessionRun => r'.session.stopped = true → r'.Reported r.created)
    (fun _ _ hu h => h.step hu) hclosing hopen hys

/-- Events that find nothing but a manager of one address in the rest of the server. -/
def alone (events : List SessionEvent) : List SessionMoment :=
  events.map fun event => { event, manager := LeaseManager.singleManager 1 }

/-- A session that has answered a hello, and then reads a frame out of sequence. -/
def outOfSequence : List SessionMoment :=
  alone [.handshake (some (text "c")), .read (some (wireBytes Fleet.helloFrame)), .frame 0,
    .write false, .read (some (wireBytes ⟨.ping, 0, 7, []⟩))]

def rejection : SessionMoment where
  event := .frame 1
  manager := LeaseManager.singleManager 1

/-- The ERROR with which it answers. -/
def rejectionFrame : Frame :=
  ⟨.error, 0, 2, [0, 2] ++ text "unexpected inbound sequence; expected 2"⟩

theorem outOfSequence_rejects :
    (Run.run step (start 256 (2 ^ 20)) outOfSequence).Rejects rejection rejectionFrame := by
  let r := Run.run step (start 256 (2 ^ 20)) outOfSequence
  let result : SessionResult := { outboundFrames := [rejectionFrame], closeTransport := true }
  have hinbound : r.session.inbound = [⟨.ping, 0, 7, []⟩] := by decide +kernel
  have hresult : r.session.controller.map (fun c =>
      (c.handle rejection.manager ⟨.ping, 0, 7, []⟩ 1).1.toOption) = some (some result) := by
    decide +kernel
  have haccepted : (r.session.outboundQueue.tryEnqueue rejectionFrame).1.toOption = some true := by
    decide +kernel
  obtain ⟨c, hctl, hc⟩ := Option.map_eq_some_iff.mp hresult
  refine ⟨rfl, ⟨1, _, [], c, result, rfl, hinbound, hctl, ?_, by simp [result], rfl⟩, ?_⟩
  · exact ok_of_toOption hc
  · exact ok_of_toOption haccepted

/-- The ERROR is written and the session closes. -/
theorem policy_error_reported_iff_written :
    let r := Run.run step (start 256 (2 ^ 20)) (outOfSequence ++ [rejection])
    let r' := Run.run step r (alone [.write false])
    r'.session.stopped = true ∧ r'.Reported r.created := by
  intro r r'
  have hstop : r'.session.stopped = true := by decide +kernel
  obtain ⟨-, -, hiff⟩ := policy_error_reported_iff 256 (2 ^ 20) outOfSequence (alone [.write false])
    rejection rejectionFrame outOfSequence_rejects (by simp [alone, Undisturbed])
  refine ⟨hstop, hiff.mpr ⟨?_, trivial⟩ 1 hstop⟩
  intro hno
  exact hno.elim

/-- A packet for the address of the session, while the ERROR is being written, closes the socket before
that write has completed. -/
theorem policy_error_lost :
    let r := Run.run step (start 256 (2 ^ 20)) (outOfSequence ++ [rejection])
    let ys := alone [.sendIpv4 [69, 0, 0, 20, 0, 0, 0, 0, 64, 0, 0, 0, 10, 8, 0, 1, 10, 8, 0, 2] 1]
    (Run.run step (start 256 (2 ^ 20)) outOfSequence).Rejects rejection rejectionFrame ∧
      (∀ y ∈ ys, Undisturbed y.event) ∧ (Run.run step r ys).session.stopped = true ∧
      ¬(Run.run step r ys).Reported r.created := by
  intro r ys
  refine ⟨outOfSequence_rejects, by simp [ys, alone, Undisturbed], by decide +kernel, ?_⟩
  unfold Reported
  decide +kernel

end SessionRun

end PersonalVpn.Server
