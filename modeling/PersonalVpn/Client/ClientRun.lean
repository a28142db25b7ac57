import PersonalVpn.Client.ClientWrites

namespace PersonalVpn.Client

open PersonalVpn.Core Protocol Sequenced

namespace TlsTunnelClient

/-- The frames that the controller makes in the loop of `handle_read`. -/
def framesRead (accepts : IpAssignment → Bool) (t : TlsTunnelClient) : List Frame → List Frame
  | [] => []
  | f :: fs =>
    let t' := t.handleFrame accepts f
    ClientHistory.made t.controller (.handle f) ++
      if t'.stopped || t'.closeAfterWrite then [] else t'.framesRead accepts fs

/-- The frames that the controller makes in an event. -/
def framesMade (accepts : IpAssignment → Bool) (t : TlsTunnelClient) : ClientEvent → List Frame
  | .handshake none =>
    if t.handshaking && !t.stopped then ClientHistory.made t.controller .start else []
  | .read (.ok data) =>
    if t.reading && !t.stopped then
      match t.decoder.push data with
      | (.ok frames, decoder) =>
        { t with reading := false, received := t.received ++ data, decoder }.framesRead accepts frames
      | _ => []
    else []
  | .sendIpv4 packet =>
    if t.stopped || t.closeAfterWrite then []
    else ClientHistory.made t.controller (.makeDataToServer packet)
  | .ping nonce =>
    if t.stopped || t.closeAfterWrite then []
    else ClientHistory.made t.controller (.makePing nonce)
  | .stop code => if t.stopped then [] else ClientHistory.made t.controller (.makeClose code)
  | _ => []

end TlsTunnelClient

/-- A client from its construction on, with the frames its controller has created and the number of
its writes that have completed. -/
structure ClientRun where
  client : TlsTunnelClient
  created : List Frame := []
  completed : Nat := 0

namespace ClientRun

/-- A write that was started completes. -/
def completes (r : ClientRun) : ClientEvent → Bool
  | .write _ => decide (r.completed < r.client.written.length)
  | _ => false

/-- The handler of an event. The completion of a write depends on nothing but that the write was
started. -/
def handle (accepts : IpAssignment → Bool) (r : ClientRun) (e : ClientEvent) : TlsTunnelClient :=
  match e with
  | .write error => if r.completes e then r.client.handleWrite error else r.client
  | e => r.client.step accepts e

def step (accepts : IpAssignment → Bool) (r : ClientRun) (e : ClientEvent) : ClientRun where
  client := r.handle accepts e
  created := r.created ++ r.client.framesMade accepts e
  completed := r.completed + (r.completes e).toNat

/-- The books of the client. -/
def books (r : ClientRun) : FrameWriter where
  toFifoWriter := r.client.writer
  created := r.created
  completed := r.completed
  next := r.client.controller.nextOutboundSequence
  stopped := r.client.stopped

variable {r : ClientRun} {c : ClientSessionController} {t' : TlsTunnelClient} {done : Bool}
  {made : List Frame}

/-- The invariant of a run. The close handler is called once, on closing. -/
structure Sound (r : ClientRun) : Prop where
  books : r.books.Sound
  fit : ClientHistory.Fit r.client.controller
  phase : (r.client.stopped = false ∧ r.client.closeCalls = 0) ∨
    (r.client.stopped = true ∧ r.client.closeCalls = 1 ∧ r.client.controller.state = .closed)

theorem sound_create {name : Bytes} {mtu : UInt16} {frames bytes : Nat} {t : TlsTunnelClient}
    (h : TlsTunnelClient.create name mtu frames bytes = .ok t) : Sound { client := t } := by
  simp only [TlsTunnelClient.create, bind_eq_ok, throwIf_ok] at h
  obtain ⟨c, hc, q, hq, -, -, ht⟩ := h
  rw [OutboundFrameQueue.create, ite_error_eq_ok] at hq
  obtain rfl := Except.ok.inj ht
  obtain rfl := Except.ok.inj hq.2
  obtain ⟨rfl, hvalid⟩ := ClientSessionController.create_ok hc
  refine ⟨⟨counted_nil, by simp [books], fun _ => ?_, ?_, ?_, ?_⟩, ⟨?_, hvalid⟩, .inl ⟨rfl, rfl⟩⟩
  · exact ⟨by simp [books, TlsTunnelClient.writer], rfl, rfl⟩
  · exact List.nil_prefix
  · simp [books, TlsTunnelClient.writer]
  · simp [books, TlsTunnelClient.writer]
  · intro hno
    cases hno

theorem Sound.calls (h : r.Sound) (hopen : r.client.stopped = false) : r.client.closeCalls = 0 := by
  obtain ⟨-, hnone⟩ | ⟨hstop, -⟩ := h.phase
  · exact hnone
  · exact absurd (hstop.symm.trans hopen) (by decide)

/-- While the client is open a write is awaited exactly while the client says so. -/
theorem Sound.busy (h : r.Sound) (hopen : r.client.stopped = false) :
    r.client.Busy ∧ (r.completed < r.client.written.length ↔ r.client.writeInProgress = true) := by
  have hflows := h.books.flows hopen
  have hstarted : r.client.written.length = r.completed + r.client.writeInProgress.toNat :=
    hflows.started
  refine ⟨hflows.busy, ?_⟩
  cases hw : r.client.writeInProgress with
  | true => simp [hstarted, hw]
  | false => simp [hstarted, hw]

/-- A call on the controller and what the client makes of it keep the invariant. -/
theorem Sound.acted (h : r.Sound) (hopen : r.client.stopped = false) (hfit : ClientHistory.Fit c)
    (hadds : Adds Frame.sequence made r.client.controller.nextOutboundSequence
      c.nextOutboundSequence) (hformed : ∀ f ∈ made, WellFormed f)
    (hawaited : done = true → r.completed < r.client.written.length)
    (ha : r.client.Acted c done made t') :
    Sound ⟨t', r.created ++ made, r.completed + done.toNat⟩ := by
  have hnext : t'.controller.nextOutboundSequence = c.nextOutboundSequence := by
    obtain ⟨-, hc, -⟩ | ⟨-, hc, -⟩ := ha.phase
    · rw [hc]
    · rw [hc]
      rfl
  have hmoves : r.books.Moves done made
      (ClientRun.books ⟨t', r.created ++ made, r.completed + done.toNat⟩) := by
    refine ⟨rfl, rfl, ?_, hformed, hawaited, fun _ => ha.wrote, fun hstop => ?_⟩
    · change Adds Frame.sequence made _ t'.controller.nextOutboundSequence
      rw [hnext]
      exact hadds
    · exact absurd (hstop.symm.trans hopen) (by decide)
  have hcalls := h.calls hopen
  refine ⟨h.books.moves hmoves, ?_, ?_⟩
  · obtain ⟨-, hc, -⟩ | ⟨-, hc, -⟩ := ha.phase
    · rwa [hc]
    · rw [hc]
      exact hfit.answer .onTransportClosed
  · obtain ⟨hs, -, hn⟩ | ⟨hs, hc, hn⟩ := ha.phase
    · exact .inl ⟨hs, hn.trans hcalls⟩
    · exact .inr ⟨hs, by rw [hn, hcalls], by rw [hc]; rfl⟩

theorem Sound.called (h : r.Sound) (hopen : r.client.stopped = false) (call : ClientCall)
    (ha : r.client.Acted (ClientHistory.answer r.client.controller call).2 false
      (ClientHistory.made r.client.controller call) t') :
    Sound ⟨t', r.created ++ ClientHistory.made r.client.controller call, r.completed⟩ :=
  h.acted hopen (h.fit.answer call) (h.fit.sends call) (h.fit.wellFormed call) (by simp) ha

/-- A handler that makes no call on the controller. -/
theorem Sound.quiet (h : r.Sound) (hopen : r.client.stopped = false)
    (ha : r.client.Acted r.client.controller false [] t') :
    Sound ⟨t', r.created ++ [], r.completed⟩ :=
  h.acted hopen h.fit (.inl ⟨rfl, rfl⟩) (by simp) (by simp) ha

theorem Sound.closeNow (h : r.Sound) (hopen : r.client.stopped = false) (hs : t'.stopped = false)
    (hw : t'.written = r.client.written) (hc : t'.controller = r.client.controller)
    (hn : t'.closeCalls = r.client.closeCalls) :
    Sound ⟨t'.closeNow, r.created ++ [], r.completed⟩ :=
  h.quiet hopen (TlsTunnelClient.acted_closeNow hs hw hc hn)

/-- The loop of `handle_read`. -/
theorem Sound.handleFrames (accepts : IpAssignment → Bool) (h : r.Sound)
    (hopen : r.client.stopped = false) (fs : List Frame) :
    Sound ⟨r.client.handleFrames accepts fs, r.created ++ r.client.framesRead accepts fs,
      r.completed⟩ := by
  induction fs generalizing r with
  | nil =>
    rw [TlsTunnelClient.handleFrames, TlsTunnelClient.framesRead, List.append_nil]
    exact h
  | cons f fs ih =>
    have hnext := h.called hopen (.handle f)
      (TlsTunnelClient.acted_handleFrame hopen (h.busy hopen).1 h.fit accepts f)
    unfold TlsTunnelClient.handleFrames TlsTunnelClient.framesRead
    dsimp only
    split
    · rw [List.append_nil]
      exact hnext
    · rename_i hgoes
      have hopen' : (r.client.handleFrame accepts f).stopped = false := by
        simp only [Bool.or_eq_true, not_or, Bool.not_eq_true] at hgoes
        exact hgoes.1
      have hrest := ih hnext hopen'
      rwa [List.append_assoc] at hrest

theorem Sound.readNext {t : TlsTunnelClient} {created : List Frame} {completed : Nat}
    (h : Sound ⟨t, created, completed⟩) : Sound ⟨t.readNext, created, completed⟩ := by
  unfold TlsTunnelClient.readNext
  split
  · exact h
  · exact ⟨h.books, h.fit, h.phase⟩

theorem Sound.handleRead (accepts : IpAssignment → Bool) (h : r.Sound)
    (hopen : r.client.stopped = false) (hread : r.client.reading = true)
    (read : Except ErrorCategory Bytes) : Sound ⟨r.client.handleRead accepts read,
      r.created ++ r.client.framesMade accepts (.read read), r.completed⟩ := by
  unfold TlsTunnelClient.handleRead
  dsimp only
  rw [if_neg (by simp [hopen])]
  cases read with
  | error error => exact h.closeNow hopen hopen rfl rfl rfl
  | ok data =>
    rw [TlsTunnelClient.framesMade, if_pos (by simp [hread, hopen])]
    dsimp only
    split
    · rename_i heq
      rw [heq]
      exact h.closeNow hopen hopen rfl rfl rfl
    · rename_i frames decoder heq
      rw [heq]
      have h' : Sound { r with client := { r.client with
          reading := false, received := r.client.received ++ data, decoder } } :=
        ⟨h.books, h.fit, h.phase⟩
      exact (h'.handleFrames accepts hopen frames).readNext

/-- Sending a packet or a probe. -/
theorem Sound.sendFrame (h : r.Sound) (hopen : r.client.stopped = false) (call : ClientCall)
    {frame : Option Frame × ClientSessionController}
    (hanswer : ClientHistory.answer r.client.controller call =
      (.ok { outboundFrames := frame.1.toList }, frame.2)) :
    Sound ⟨r.client.sendFrame frame, r.created ++
      if r.client.stopped || r.client.closeAfterWrite then []
      else ClientHistory.made r.client.controller call, r.completed⟩ := by
  by_cases hclosing : r.client.closeAfterWrite = true
  · have hsame : r.client.sendFrame frame = r.client := by simp [TlsTunnelClient.sendFrame, hclosing]
    rw [if_pos (by simp [hclosing]), hsame, List.append_nil]
    exact h
  · rw [Bool.not_eq_true] at hclosing
    have hmade : ClientHistory.made r.client.controller call = frame.1.toList := by
      rw [ClientHistory.made, hanswer]
      rfl
    have hformed := h.fit.wellFormed call
    rw [if_neg (by simp [hopen, hclosing])]
    apply h.called hopen call
    rw [hanswer, hmade]
    rw [hmade] at hformed
    apply TlsTunnelClient.acted_sendFrame hopen (h.busy hopen).1 hclosing
    intro f hf
    exact hformed f (by simp [hf])

theorem Sound.step_open (accepts : IpAssignment → Bool) (h : r.Sound)
    (hopen : r.client.stopped = false) (e : ClientEvent) : (r.step accepts e).Sound := by
  obtain ⟨hbusy, hawaited⟩ := h.busy hopen
  have hsame : Sound ⟨r.client, r.created ++ [], r.completed⟩ := by
    rw [List.append_nil]
    exact h
  unfold ClientRun.step ClientRun.handle
  cases e with
  | start sniConfigured =>
    simp only [TlsTunnelClient.step, TlsTunnelClient.startOnStrand, TlsTunnelClient.framesMade]
    split
    · exact hsame
    · split
      · exact h.quiet hopen (TlsTunnelClient.acted_same hopen rfl rfl rfl)
      · exact h.closeNow hopen hopen rfl rfl rfl
  | handshake error =>
    simp only [TlsTunnelClient.step]
    cases error with
    | some error =>
      split
      · unfold TlsTunnelClient.handleHandshake
        dsimp only
        rw [if_neg (by simp [hopen])]
        exact h.closeNow hopen hopen rfl rfl rfl
      · exact hsame
    | none =>
      rw [TlsTunnelClient.framesMade]
      split
      · rename_i hshake
        rw [if_pos (by simp [hshake, hopen])]
        exact h.called hopen .start (TlsTunnelClient.acted_handleHandshake hopen hbusy h.fit)
      · rename_i hshake
        rw [if_neg (by simp [hshake])]
        exact hsame
  | read read =>
    simp only [TlsTunnelClient.step]
    split
    · rename_i hread
      exact h.handleRead accepts hopen hread read
    · rename_i hread
      have hmade : r.client.framesMade accepts (.read read) = [] := by
        cases read with
        | error error => rfl
        | ok data => rw [TlsTunnelClient.framesMade, if_neg (by simp [hread])]
      rw [hmade]
      exact hsame
  | write error =>
    dsimp only
    split
    · rename_i hdone
      have hwaits : r.completed < r.client.written.length := of_decide_eq_true hdone
      rw [hdone]
      exact h.acted hopen h.fit (.inl ⟨rfl, rfl⟩) (List.forall_mem_nil _) (fun _ => hwaits)
        (TlsTunnelClient.acted_handleWrite hopen hbusy (hawaited.mp hwaits) error)
    · rename_i hdone
      rw [Bool.eq_false_of_not_eq_true hdone]
      exact hsame
  | sendIpv4 packet => exact h.sendFrame hopen (.makeDataToServer packet) rfl
  | ping nonce => exact h.sendFrame hopen (.makePing nonce) rfl
  | stop code =>
    have hmade : r.client.framesMade accepts (.stop code) =
        ClientHistory.made r.client.controller (.makeClose code) := by
      simp [TlsTunnelClient.framesMade, hopen]
    rw [hmade]
    exact h.called hopen (.makeClose code) (TlsTunnelClient.acted_stop hopen hbusy h.fit code)
  | abort => exact h.closeNow hopen hopen rfl rfl rfl

/-- Nothing but the completion of reads and of the last write happens to a closed client. -/
theorem step_stopped (accepts : IpAssignment → Bool) (hs : r.client.stopped = true)
    (e : ClientEvent) : ∃ handshaking reading, r.step accepts e = { r with
      client := { r.client with handshaking, reading }
      completed := r.completed + (r.completes e).toNat } := by
  have hmade : r.client.framesMade accepts e = [] := by
    unfold TlsTunnelClient.framesMade
    split <;> simp [hs]
  have hhandle : ∃ handshaking reading,
      r.handle accepts e = { r.client with handshaking, reading } := by
    have hsame {t : TlsTunnelClient} (ht : t = r.client) :
        ∃ handshaking reading, t = { r.client with handshaking, reading } :=
      ⟨r.client.handshaking, r.client.reading, ht⟩
    cases e with
    | start sniConfigured =>
      apply hsame
      simp [handle, TlsTunnelClient.step, TlsTunnelClient.startOnStrand, hs]
    | handshake error =>
      simp only [handle, TlsTunnelClient.step]
      split
      · refine ⟨false, r.client.reading, ?_⟩
        unfold TlsTunnelClient.handleHandshake
        dsimp only
        rw [if_pos hs]
      · exact hsame rfl
    | read read =>
      simp only [handle, TlsTunnelClient.step]
      split
      · refine ⟨r.client.handshaking, false, ?_⟩
        unfold TlsTunnelClient.handleRead
        dsimp only
        rw [if_pos hs]
      · exact hsame rfl
    | write error =>
      apply hsame
      simp [handle, TlsTunnelClient.handleWrite, hs]
    | sendIpv4 packet =>
      apply hsame
      simp [handle, TlsTunnelClient.step, TlsTunnelClient.sendIpv4FromTun, TlsTunnelClient.sendFrame,
        hs]
    | ping nonce =>
      apply hsame
      simp [handle, TlsTunnelClient.step, TlsTunnelClient.ping, TlsTunnelClient.sendFrame, hs]
    | stop code =>
      apply hsame
      simp [handle, TlsTunnelClient.step, TlsTunnelClient.stop, hs]
    | abort =>
      apply hsame
      simp [handle, TlsTunnelClient.step, TlsTunnelClient.closeNow, hs]
  obtain ⟨handshaking, reading, heq⟩ := hhandle
  exact ⟨handshaking, reading, by rw [step, heq, hmade, List.append_nil]⟩

theorem Sound.step (accepts : IpAssignment → Bool) (h : r.Sound) (e : ClientEvent) :
    (r.step accepts e).Sound := by
  obtain ⟨hopen, -⟩ | hended := h.phase
  · exact h.step_open accepts hopen e
  · obtain ⟨handshaking, reading, heq⟩ := step_stopped accepts hended.1 e
    have hmoves : r.books.Moves (r.completes e) [] (r.step accepts e).books := by
      rw [heq]
      refine ⟨(List.append_nil _).symm, rfl, .inl ⟨rfl, rfl⟩, by simp, ?_, ?_, ?_⟩
      · intro hdone
        unfold ClientRun.completes at hdone
        split at hdone
        · exact of_decide_eq_true hdone
        · cases hdone
      · intro hopen
        exact absurd (hended.1.symm.trans hopen) (by decide)
      · intro _
        exact ⟨hended.1, rfl⟩
    have hbooks := h.books.moves hmoves
    rw [heq] at hbooks ⊢
    exact ⟨hbooks, h.fit, .inr hended⟩

end ClientRun

end PersonalVpn.Client
