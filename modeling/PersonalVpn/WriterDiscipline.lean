import PersonalVpn.Client.ClientRun
import PersonalVpn.Client.TerminalFaults
import PersonalVpn.Lib.Run
import PersonalVpn.Server.SessionRun

namespace PersonalVpn

open PersonalVpn.Core Protocol Sequenced

namespace Server.SessionRun

/-- A closed session stays closed, writes nothing more and calls no handler any more. -/
theorem run_ended {r : SessionRun} (h : r.Ended) (xs : List SessionMoment) :
    (Run.run step r xs).Ended ∧ (Run.run step r xs).session.written = r.session.written ∧
      (Run.run step r xs).log = r.log := by
  let P (r' : SessionRun) := r'.Ended ∧ r'.session.written = r.session.written ∧ r'.log = r.log
  have hstep : ∀ r' x, P r' → P (step r' x) := by
    intro r' x hp
    obtain ⟨hended, hwritten, hlog⟩ := hp
    refine ⟨hended.step, ?_⟩
    obtain ⟨reading, heq⟩ := hended.step_eq (x := x)
    rw [heq]
    exact ⟨hwritten, hlog⟩
  exact Run.invariant hstep ⟨h, rfl, rfl⟩ xs

end Server.SessionRun

namespace Client.ClientRun

/-- A closed client stays closed, writes nothing more and calls no handler any more. -/
theorem run_stopped (accepts : IpAssignment → Bool) {r : ClientRun} (h : r.client.stopped = true)
    (es : List ClientEvent) :
    let t := (Run.run (step accepts) r es).client
    t.stopped = true ∧ t.written = r.client.written ∧ t.tun = r.client.tun ∧
      t.closeCalls = r.client.closeCalls := by
  let P (r' : ClientRun) := r'.client.stopped = true ∧ r'.client.written = r.client.written ∧
    r'.client.tun = r.client.tun ∧ r'.client.closeCalls = r.client.closeCalls
  have hstep : ∀ r' e, P r' → P (step accepts r' e) := by
    intro r' e hp
    obtain ⟨handshaking, reading, heq⟩ := step_stopped accepts hp.1 e
    rw [heq]
    exact hp
  exact Run.invariant hstep ⟨h, rfl, rfl, rfl⟩ es

end Client.ClientRun

/-- An idle client before its frame `k`, all of whose frames so far have been written. -/
structure Client.ClientRun.Streams (r : ClientRun) (k : UInt64) (n : Nat) : Prop where
  controller : r.client.controller = ClientHistory.established k
  frames : 0 < r.client.outboundQueue.maximumFrames
  bytes : kHeaderSize + 20 ≤ r.client.outboundQueue.maximumBytes
  queue : r.client.outboundQueue.queue = []
  queuedBytes : r.client.outboundQueue.queuedBytes = 0
  stopped : r.client.stopped = false
  closeAfterWrite : r.client.closeAfterWrite = false
  writeInProgress : r.client.writeInProgress = false
  created : r.created.length = n
  written : r.client.written.length = n
  completed : r.completed = n

/-- Both ends of a tunnel write one buffer at a time, leave nothing queued while no write is
outstanding, and write the encodings of the frames of their controllers, which carry the numbers of a
64-bit counter, in the order of their creation. Closing is final: the close handler is called once, the
controller is closed, and nothing is written or handed to the sink any more. -/
theorem writers_disciplined {name : Bytes} {mtu : UInt16} {frames bytes : Nat}
    {t₀ : Client.TlsTunnelClient}
    (h : Client.TlsTunnelClient.create name mtu frames bytes = .ok t₀)
    (accepts : IpAssignment → Bool) (es es' : List Client.ClientEvent)
    (maximumFrames maximumBytes : Nat) (xs xs' : List Server.SessionMoment) :
    let r := Run.run (Client.ClientRun.step accepts) { client := t₀ } es
    let r' := Run.run (Client.ClientRun.step accepts) r es'
    let s := Run.run Server.SessionRun.step (.start maximumFrames maximumBytes) xs
    let s' := Run.run Server.SessionRun.step s xs'
    (r.books.Disciplined ∧ (r.client.stopped = false → r.client.closeCalls = 0) ∧
      (r.client.stopped = true → r.client.closeCalls = 1 ∧ r.client.controller.state = .closed ∧
        r'.client.stopped = true ∧ r'.client.written = r.client.written ∧
        r'.client.tun = r.client.tun ∧ r'.client.closeCalls = 1)) ∧
    (s.books.Disciplined ∧ (s.session.stopped = false → ∀ lease, .closed lease ∉ s.log) ∧
      (s.session.stopped = true → (∃ earlier lease, s.log = earlier ++ [.closed lease] ∧
          ∀ lease, .closed lease ∉ earlier) ∧
        (∀ c, s.session.controller = some c → c.state = .closed ∧ c.lease = none) ∧
        s'.session.stopped = true ∧ s'.session.written = s.session.written ∧ s'.log = s.log)) := by
  intro r r' s s'
  have hr : r.Sound :=
    Run.invariant (fun _ e hr => hr.step accepts e) (Client.ClientRun.sound_create h) es
  have hs : s.Sound :=
    Run.invariant (fun _ x hs => hs.step x)
      (Server.SessionRun.sound_start maximumFrames maximumBytes) xs
  refine ⟨⟨hr.books.disciplined, hr.calls, ?_⟩, hs.books.disciplined, ?_, ?_⟩
  · intro hstopped
    obtain ⟨hopen, -⟩ | ⟨-, hcalls, hstate⟩ := hr.phase
    · exact absurd (hstopped.symm.trans hopen) (by decide)
    · obtain ⟨hstopped', hwritten, htun, hcalls'⟩ :=
        Client.ClientRun.run_stopped accepts hstopped es'
      exact ⟨hcalls, hstate, hstopped', hwritten, htun, hcalls'.trans hcalls⟩
  · intro hopen
    obtain hrunning | hended := hs.phase
    · exact hrunning.log
    · exact absurd (hended.stopped.symm.trans hopen) (by decide)
  · intro hstopped
    obtain hrunning | hended := hs.phase
    · exact absurd (hstopped.symm.trans hrunning.stopped) (by decide)
    · obtain ⟨hended', hwritten, hlog⟩ := Server.SessionRun.run_ended hended xs'
      exact ⟨hended.log, hended.controller, hended'.stopped, hwritten, hlog⟩

/-- An idle client hands a frame to the transport at once. -/
theorem Client.TlsTunnelClient.enqueueFrame_idle {t : TlsTunnelClient} {f : Frame}
    (hs : t.stopped = false) (hw : t.writeInProgress = false) (hq : t.outboundQueue.queue = [])
    (hn : t.outboundQueue.queuedBytes = 0) (hframes : 0 < t.outboundQueue.maximumFrames)
    (hf : WellFormed f) (hbytes : (wireBytes f).length ≤ t.outboundQueue.maximumBytes) :
    t.enqueueFrame f = (.ok true, { t with
      outboundQueue := { t.outboundQueue with
        queuedBytes := (wireBytes f).length, queue := [wireBytes f] }
      writeInProgress := true
      written := t.written ++ [wireBytes f] }) := by
  have he := t.outboundQueue.tryEnqueue_enqueued f
  rcases heq : t.outboundQueue.tryEnqueue f with ⟨r, q⟩
  rw [heq] at he
  unfold enqueueFrame
  rw [if_neg (by simp [hs]), heq]
  cases he with
  | malformed hno => exact absurd hf hno
  | refused _ hfull =>
    simp only [hq, hn, List.length_nil] at hfull
    omega
  | accepted =>
    dsimp only
    rw [if_neg (by simp [hw]), hq, hn]
    simp [writeNext, hs, OutboundFrameQueue.front]

/-- A packet that an idle client sends, and the completion of its write. -/
def exchange : List Client.ClientEvent := [.sendIpv4 Fleet.dataFrame.payload, .write none]

theorem streams_exchange {r : Client.ClientRun} {k : UInt64} {n : Nat} (h : r.Streams k n) :
    (Run.run (Client.ClientRun.step fun _ => true) r exchange).Streams (k + 1) (n + 1) := by
  let f : Frame := ⟨.dataIpv4, 0, k, Fleet.dataFrame.payload⟩
  have hpayload : f.payload.length = 20 := rfl
  have hf : WellFormed f := ⟨rfl, by rw [hpayload]; decide⟩
  have hlen : (wireBytes f).length = kHeaderSize + 20 := by rw [length_wireBytes, hpayload]
  have hmake : r.client.controller.makeDataToServer Fleet.dataFrame.payload =
      (some f, ClientHistory.established (k + 1)) := by
    rw [h.controller]
    exact ClientHistory.makeDataToServer_established k
  let t₁ := { r.client with
    controller := ClientHistory.established (k + 1)
    outboundQueue := { r.client.outboundQueue with
      queuedBytes := (wireBytes f).length, queue := [wireBytes f] }
    writeInProgress := true
    written := r.client.written ++ [wireBytes f] }
  have hsend : Client.ClientRun.step (fun _ => true) r (.sendIpv4 Fleet.dataFrame.payload) =
      ⟨t₁, r.created ++ [f], r.completed⟩ := by
    have hput := Client.TlsTunnelClient.enqueueFrame_idle
      (t := { r.client with controller := ClientHistory.established (k + 1) })
      h.stopped h.writeInProgress h.queue h.queuedBytes h.frames hf (by rw [hlen]; exact h.bytes)
    have hclient : r.handle (fun _ => true) (.sendIpv4 Fleet.dataFrame.payload) = t₁ := by
      change r.client.sendFrame (r.client.controller.makeDataToServer Fleet.dataFrame.payload) = t₁
      rw [hmake, Client.TlsTunnelClient.sendFrame, if_neg (by simp [h.stopped, h.closeAfterWrite])]
      simp only [hput]
      rfl
    have hmade : r.client.framesMade (fun _ => true) (.sendIpv4 Fleet.dataFrame.payload) = [f] := by
      rw [Client.TlsTunnelClient.framesMade, if_neg (by simp [h.stopped, h.closeAfterWrite]),
        ClientHistory.made, ClientHistory.answer, hmake]
      rfl
    rw [Client.ClientRun.step, hmade, hclient]
    rfl
  have hwritten : t₁.written.length = n + 1 := by simp [t₁, h.written]
  have hdone : Client.ClientRun.completes ⟨t₁, r.created ++ [f], r.completed⟩ (.write none) = true := by
    simp [Client.ClientRun.completes, hwritten, h.completed]
  have hclosing : ¬t₁.closeAfterWrite = true := by simp [t₁, h.closeAfterWrite]
  let t₂ := { t₁ with
    outboundQueue := { t₁.outboundQueue with
      queue := [], queuedBytes := t₁.outboundQueue.queuedBytes - (wireBytes f).length }
    writeInProgress := false }
  have hlast : t₁.handleWrite none = t₂ :=
    (Client.TlsTunnelClient.handleWrite_last (t := t₁) h.stopped rfl).trans (if_neg hclosing)
  have hwrite : Client.ClientRun.step (fun _ => true) ⟨t₁, r.created ++ [f], r.completed⟩
      (.write none) = ⟨t₂, r.created ++ [f], r.completed + 1⟩ := by
    rw [Client.ClientRun.step, Client.ClientRun.handle]
    simp only [hdone, if_true, hlast]
    simp [Client.TlsTunnelClient.framesMade]
  rw [exchange, Run.run_cons, hsend, Run.run_cons, hwrite, Run.run_nil]
  exact ⟨rfl, h.frames, h.bytes, rfl, by simp [t₁, t₂], h.stopped, h.closeAfterWrite, rfl,
    by simp [h.created], hwritten, by simp [h.completed]⟩

/-- The client connects, is assigned its address, and sends `n` packets. -/
def uplink (n : Nat) : List Client.ClientEvent :=
  [.start true, .handshake none, .write none, .read (.ok (wireBytes ClientHistory.assignFrame))] ++
    (List.replicate n exchange).flatten

theorem streams_uplink (n : Nat) :
    (Run.run (Client.ClientRun.step fun _ => true) ⟨Client.TlsTunnelClient.freshClient, [], 0⟩
      (uplink n)).Streams (UInt64.ofNat (n + 2)) (n + 1) := by
  induction n with
  | zero => constructor <;> decide +kernel
  | succ n ih =>
    have hsplit : uplink (n + 1) = uplink n ++ exchange := by
      simp [uplink, List.replicate_succ']
    have hnext : UInt64.ofNat (n + 1 + 2) = UInt64.ofNat (n + 2) + 1 := ofNat_succ (n + 2)
    rw [hsplit, Run.run_append, hnext]
    exact streams_exchange ih

theorem freshClient_create : Client.TlsTunnelClient.create (text "vpn") 1400 4 4096 =
    .ok Client.TlsTunnelClient.freshClient := rfl

/-- A session that answers a hello, writes its answer and is stopped. -/
def servedHello : List Server.SessionMoment :=
  let manager := LeaseManager.singleManager 1
  [.handshake (some (text "c")), .read (some (wireBytes Fleet.helloFrame)), .frame 0, .write false,
    .stop].map fun event => { event, manager }

/-- A client that sends a packet and is aborted, and that session. -/
theorem writers_disciplined_aborted :
    let r := Run.run (Client.ClientRun.step fun _ => true)
      ⟨Client.TlsTunnelClient.freshClient, [], 0⟩ (uplink 1 ++ [.abort])
    let s := Run.run Server.SessionRun.step (.start 256 (2 ^ 20)) servedHello
    r.created.map Frame.sequence = [1, 2] ∧ r.client.closeCalls = 1 ∧
      s.created.map Frame.sequence = [1] ∧ ∃ earlier lease, s.log = earlier ++ [.closed lease] := by
  intro r s
  have hrlen : r.created.length = 2 := by decide +kernel
  have hrstop : r.client.stopped = true := by decide +kernel
  have hslen : s.created.length = 1 := by decide +kernel
  have hsstop : s.session.stopped = true := by decide +kernel
  obtain ⟨⟨hr, -, hrclosed⟩, hs, -, hsclosed⟩ := writers_disciplined freshClient_create
    (fun _ => true) (uplink 1 ++ [.abort]) [] 256 (2 ^ 20) servedHello []
  obtain ⟨earlier, lease, hlog, -⟩ := (hsclosed hsstop).1
  have hrnumbers : r.created.map Frame.sequence = numbers r.created.length := hr.numbered
  have hsnumbers : s.created.map Frame.sequence = numbers s.created.length := hs.numbered
  rw [hrlen] at hrnumbers
  rw [hslen] at hsnumbers
  exact ⟨hrnumbers, (hrclosed hrstop).1, hsnumbers, earlier, lease, hlog⟩

/-- All frames of that client are on the wire, under the numbers of the counter. -/
theorem uplink_written {n : Nat} (hn : n + 1 = 2 ^ 64) :
    let r := Run.run (Client.ClientRun.step fun _ => true)
      ⟨Client.TlsTunnelClient.freshClient, [], 0⟩ (uplink n)
    r.client.written = r.created.map wireBytes ∧ r.created.length = 2 ^ 64 ∧
      r.created.map (fun f => f.sequence.toNat) ≠ (List.range r.created.length).map (· + 1) := by
  intro r
  have hstreams := streams_uplink n
  have hr : r.Sound := Run.invariant (fun _ e hr => hr.step _ e)
    (Client.ClientRun.sound_create freshClient_create) _
  have hlen : r.created.length = 2 ^ 64 := hstreams.created.trans hn
  have haccepted : r.created.map wireBytes =
      r.client.written ++ r.client.outboundQueue.queue.tail :=
    (hr.books.flows hstreams.stopped).accepted
  refine ⟨?_, hlen, not_counting hr.books.counted.numbered hlen⟩
  rw [haccepted, hstreams.queue, List.tail_nil, List.append_nil]

/-- After 2^64 frames the numbers on the wire start over. -/
theorem written_numbers_start_over :
    Client.TlsTunnelClient.create (text "vpn") 1400 4 4096 = .ok Client.TlsTunnelClient.freshClient ∧
    let r := Run.run (Client.ClientRun.step fun _ => true)
      ⟨Client.TlsTunnelClient.freshClient, [], 0⟩ (uplink (2 ^ 64 - 1))
    r.client.written = r.created.map wireBytes ∧ r.created.length = 2 ^ 64 ∧
      r.created.map (fun f => f.sequence.toNat) ≠ (List.range r.created.length).map (· + 1) :=
  ⟨freshClient_create, uplink_written (by omega)⟩

end PersonalVpn
