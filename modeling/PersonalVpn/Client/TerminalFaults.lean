import PersonalVpn.Client.ClientPhases
import PersonalVpn.Client.ClientRuntime
import PersonalVpn.Lib.Run

namespace PersonalVpn.Client

open PersonalVpn.Core Protocol

namespace TlsTunnelClient

theorem Running.working {t : TlsTunnelClient} (h : t.Running) (ho : t.Opened)
    (hr : t.reading = false) (ha : t.controller.Assigned) : t.Working where
  stopped := h.stopped
  closed := h.closed
  closeAfterWrite := h.closeAfterWrite
  opened := ho
  reading := hr
  busy := h.busy
  decodable := by
    rw [h.fault]
    simp
  remote := by simp [h.fault, h.remoteError]
  retryable _ := h.retryable
  assigned := ha

/-- The loop of `handle_read`. -/
theorem Working.handleFrames {t : TlsTunnelClient} (h : t.Working) (hf : t.fault = none)
    (accepts : IpAssignment → Bool) (fs : List Frame) : (t.handleFrames accepts fs).Applied := by
  induction fs generalizing t with
  | nil => exact ⟨h.sound hf, terminal_of_open h.closed, h.opened, h.reading⟩
  | cons f fs ih =>
    have ha := h.handleFrame hf accepts f
    unfold TlsTunnelClient.handleFrames
    dsimp only
    split
    · exact ha
    · rename_i hopen
      rw [Bool.or_eq_true, not_or] at hopen
      cases ha.sound.phase with
      | running running =>
        exact ih (running.working ha.opened ha.reading ha.sound.assigned) running.fault
      | flushing stopped closed closeAfterWrite => exact absurd closeAfterWrite hopen.2
      | ended stopped => exact absurd stopped hopen.1

/-- What every step but a completed write does to the invariant. -/
structure Keeps (t t' : TlsTunnelClient) : Prop where
  sound : t'.Sound
  terminal : t.Terminal → t'.Terminal

theorem Sound.readNext {t : TlsTunnelClient} (h : t.Sound) (ho : t.Opened) :
    t.Keeps t.readNext := by
  unfold TlsTunnelClient.readNext
  split
  · exact ⟨h, id⟩
  · rename_i hopen
    rw [Bool.or_eq_true, not_or] at hopen
    refine ⟨⟨?_, h.assigned⟩, id⟩
    cases h.phase with
    | running running => exact .running { running with reads := fun _ => ho }
    | flushing stopped closed closeAfterWrite => exact absurd closeAfterWrite hopen.2
    | ended stopped => exact absurd stopped hopen.1

/-- A client without a fault is closed by a transport error. -/
theorem closeOnError_sound {t : TlsTunnelClient} (hs : t.stopped = false)
    (ha : t.controller.Assigned) (error : ErrorCategory) : (t.closeOnError error).Sound :=
  ⟨phase_closeNow (by exact hs), assigned_closeNow ha⟩

theorem terminal_closeOnError {t : TlsTunnelClient} (hs : t.stopped = false)
    (error : ErrorCategory) : (t.closeOnError error).Terminal ↔
      (t.fault ≠ none → t.remoteError ≠ none ∨ error = .ssl) := by
  unfold closeOnError
  rw [terminal_closeNow (by exact hs)]
  simp

/-- A read never ends a faulty client for a retry. -/
theorem Sound.handleRead {t : TlsTunnelClient} (h : t.Sound) (hr : t.reading = true)
    (accepts : IpAssignment → Bool) (read : Except ErrorCategory Bytes) :
    t.Keeps (t.handleRead accepts read) := by
  unfold TlsTunnelClient.handleRead
  dsimp only
  cases h.phase with
  | ended stopped closed =>
    rw [if_pos stopped]
    exact ⟨⟨.ended stopped closed, h.assigned⟩, id⟩
  | flushing stopped closed closeAfterWrite opened reading =>
    exact absurd (hr.symm.trans reading) (by decide)
  | running running =>
    rw [if_neg (by rw [running.stopped]; decide)]
    cases read with
    | error error =>
      refine ⟨closeOnError_sound (by exact running.stopped) (by exact h.assigned) error, ?_⟩
      intro _
      apply (terminal_closeOnError (by exact running.stopped) error).mpr
      intro hf
      exact absurd running.fault hf
    | ok data =>
      dsimp only
      split
      · exact ⟨.closeForGood (by exact running.stopped) (by exact h.assigned),
          fun _ => terminal_closeForGood (by exact running.stopped)⟩
      · rename_i frames decoder _
        have ho := running.reads hr
        have hrun : Running { t with reading := false, received := t.received ++ data, decoder } :=
          { running with reads := (by simp) }
        have ha := (hrun.working ho rfl h.assigned).handleFrames
          running.fault accepts frames
        have hnext := ha.sound.readNext ha.opened
        exact ⟨hnext.sound, fun _ => hnext.terminal ha.terminal⟩

/-- The queue after a completed write. -/
theorem popFront_cons {q : OutboundFrameQueue} {buffer : Bytes} {rest : List Bytes}
    (h : q.queue = buffer :: rest) : q.popFront = .ok { q with
      queue := rest, queuedBytes := q.queuedBytes - buffer.length } := by
  rw [OutboundFrameQueue.popFront, h]

theorem handleWrite_error {t : TlsTunnelClient} (hs : t.stopped = false) (error : ErrorCategory) :
    t.handleWrite (some error) = t.closeOnError error := by
  rw [handleWrite, if_neg (by rw [hs]; decide)]

/-- With more queued the next write starts. -/
theorem handleWrite_more {t : TlsTunnelClient} {buffer next : Bytes} {rest : List Bytes}
    (hs : t.stopped = false) (hq : t.outboundQueue.queue = buffer :: next :: rest) :
    t.handleWrite none = { t with
      outboundQueue := { t.outboundQueue with
        queue := next :: rest, queuedBytes := t.outboundQueue.queuedBytes - buffer.length }
      writeInProgress := true
      written := t.written ++ [next] } := by
  unfold handleWrite
  rw [if_neg (by rw [hs]; decide)]
  dsimp only
  rw [popFront_cons hq]
  unfold writeNext
  dsimp only
  rw [hs, OutboundFrameQueue.front]

/-- With nothing left the transport is idle, and closed if that was asked for. -/
theorem handleWrite_last {t : TlsTunnelClient} {buffer : Bytes} (hs : t.stopped = false)
    (hq : t.outboundQueue.queue = [buffer]) :
    let t' := { t with
      outboundQueue := { t.outboundQueue with
        queue := [], queuedBytes := t.outboundQueue.queuedBytes - buffer.length }
      writeInProgress := false }
    t.handleWrite none = if t.closeAfterWrite then t'.closeNow else t' := by
  unfold handleWrite
  rw [if_neg (by rw [hs]; decide)]
  dsimp only
  rw [popFront_cons hq]
  unfold writeNext
  dsimp only
  rw [hs]
  rfl

/-- The steps after which a fault is still terminal: while the ERROR of a rejected frame is being
flushed, a write must leave more to write or fail with an SSL error. -/
def Admits (t : TlsTunnelClient) : ClientEvent → Prop
  | .write error => t.fault = some .rejected → t.stopped = false →
    error = some .ssl ∨ (error = none ∧ 1 < t.outboundQueue.queue.length)
  | _ => True

/-- What ends a flush decides whether a fault is terminal. -/
theorem flushing_terminal {t : TlsTunnelClient} (hd : t.fault ≠ some .undecodable)
    (hremote : t.fault = some .remote ↔ t.remoteError ≠ none) {p : Prop} :
    (t.fault ≠ none → t.remoteError ≠ none ∨ p) ↔ (t.fault = some .rejected → p) := by
  cases hf : t.fault with
  | none => simp
  | some fault =>
    cases fault with
    | undecodable => exact absurd hf hd
    | remote => simp [hremote.mp hf]
    | rejected =>
      have hnone : t.remoteError = none := by
        by_contra hno
        have := hf.symm.trans (hremote.mpr hno)
        cases this
      simp [hnone]

theorem Sound.handleWrite {t : TlsTunnelClient} (h : t.Sound) (hw : t.writeInProgress = true)
    (error : Option ErrorCategory) : (t.handleWrite error).Sound ∧
      (t.Terminal → ((t.handleWrite error).Terminal ↔ t.Admits (.write error))) := by
  cases h.phase with
  | ended stopped closed =>
    unfold TlsTunnelClient.handleWrite
    rw [if_pos stopped]
    refine ⟨h, fun ht => ⟨fun _ _ hno => ?_, fun _ => ht⟩⟩
    exact absurd (stopped.symm.trans hno) (by decide)
  | running running =>
    have hadmits : t.Admits (.write error) := by
      intro hf
      rw [running.fault] at hf
      cases hf
    cases error with
    | some error =>
      rw [handleWrite_error running.stopped]
      refine ⟨closeOnError_sound running.stopped h.assigned error,
        fun _ => ⟨fun _ => hadmits, fun _ => ?_⟩⟩
      exact (terminal_closeOnError running.stopped error).mpr fun hf => absurd running.fault hf
    | none =>
      obtain ⟨buffer, rest, hq⟩ := List.exists_cons_of_ne_nil (running.busy.mp hw)
      cases rest with
      | nil =>
        rw [handleWrite_last running.stopped hq, if_neg (by rw [running.closeAfterWrite]; decide)]
        refine ⟨⟨.running { running with busy := ?_ }, h.assigned⟩,
          fun _ => ⟨fun _ => hadmits, fun _ => terminal_of_open running.closed⟩⟩
        exact ⟨(by simp), fun hno => absurd rfl hno⟩
      | cons buffer' rest' =>
        rw [handleWrite_more running.stopped hq]
        refine ⟨⟨.running { running with busy := ?_ }, h.assigned⟩,
          fun _ => ⟨fun _ => hadmits, fun _ => terminal_of_open running.closed⟩⟩
        exact ⟨fun _ => List.cons_ne_nil _ _, fun _ => rfl⟩
  | flushing stopped closed closeAfterWrite opened reading queue writeInProgress decodable remote
      retryable =>
    cases error with
    | some error =>
      rw [handleWrite_error stopped]
      refine ⟨closeOnError_sound stopped h.assigned error, fun _ => ?_⟩
      rw [terminal_closeOnError stopped error, flushing_terminal decodable remote]
      simp [Admits, stopped]
    | none =>
      obtain ⟨buffer, rest, hq⟩ := List.exists_cons_of_ne_nil queue
      cases rest with
      | nil =>
        rw [handleWrite_last stopped hq, if_pos closeAfterWrite]
        refine ⟨⟨phase_closeNow stopped, assigned_closeNow h.assigned⟩, fun _ => ?_⟩
        rw [terminal_closeNow (by exact stopped)]
        dsimp only
        rw [flushing_terminal decodable remote]
        simp only [Admits, stopped, hq, List.length_singleton, lt_irrefl, and_false, or_false,
          reduceCtorEq, forall_const]
        refine forall_congr' fun hf => ?_
        have hnone : t.remoteError = none := by
          by_contra hno
          have := hf.symm.trans (remote.mpr hno)
          cases this
        simp [retryable hnone]
      | cons buffer' rest' =>
        rw [handleWrite_more stopped hq]
        refine ⟨⟨.flushing stopped closed closeAfterWrite opened reading (List.cons_ne_nil _ _) rfl
          decodable remote retryable, h.assigned⟩,
          fun _ => ⟨fun _ _ _ => ?_, fun _ => terminal_of_open closed⟩⟩
        refine .inr ⟨rfl, ?_⟩
        rw [hq]
        simp

/-- The controller's own operations do not end the run. -/
theorem Running.withController {t : TlsTunnelClient} (h : t.Running) (c : ClientSessionController) :
    { t with controller := c }.Running := { h with }

/-- A client to which a frame was passed runs on, unless the queue refused it. -/
theorem Running.enqueueFrame {t : TlsTunnelClient} (h : t.Running) (f : Frame)
    (hr : (t.enqueueFrame f).1 ≠ .ok false) : (t.enqueueFrame f).2.Running := by
  have hq := enqueueFrame_queued h.stopped h.busy f
  exact ⟨hq.stopped.trans h.stopped, hq.closed.trans h.closed,
    hq.closeAfterWrite.trans h.closeAfterWrite, hq.fault.trans h.fault,
    hq.remoteError.trans h.remoteError, (hq.retryable hr).trans h.retryable, hq.busy,
    fun hh => hq.started.trans (h.starts (hq.handshaking.symm.trans hh)),
    fun hread => hq.opened (h.reads (hq.reading.symm.trans hread))⟩

theorem Running.keeps {t t' : TlsTunnelClient} (h : t'.Running) (ha : t'.controller.Assigned) :
    t.Keeps t' := ⟨⟨.running h, ha⟩, fun _ => terminal_of_open h.closed⟩

theorem Keeps.closeForGood {t t' : TlsTunnelClient} (hs : t'.stopped = false)
    (ha : t'.controller.Assigned) : t.Keeps t'.closeForGood :=
  ⟨.closeForGood hs ha, fun _ => terminal_closeForGood hs⟩

/-- Without a fault every close will do. -/
theorem Keeps.closeNow {t t' : TlsTunnelClient} (hs : t'.stopped = false) (hf : t'.fault = none)
    (ha : t'.controller.Assigned) : t.Keeps t'.closeNow :=
  ⟨⟨phase_closeNow hs, assigned_closeNow ha⟩,
    fun _ => (terminal_closeNow hs).mpr fun hno => absurd hf hno⟩

/-- `send_ipv4_from_tun` and `ping`. -/
theorem Sound.sendFrame {t : TlsTunnelClient} (h : t.Sound)
    {made : Option Frame × ClientSessionController} (ha : made.2.Assigned) :
    t.Keeps (t.sendFrame made) := by
  unfold TlsTunnelClient.sendFrame
  split
  · exact ⟨h, id⟩
  · rename_i hopen
    rw [Bool.or_eq_true, not_or] at hopen
    cases h.phase with
    | flushing _ _ closeAfterWrite => exact absurd closeAfterWrite hopen.2
    | ended stopped => exact absurd stopped hopen.1
    | running running =>
      obtain ⟨frame, c⟩ := made
      have hc := running.withController c
      cases frame with
      | none => exact hc.keeps ha
      | some frame =>
        dsimp only
        have hq := enqueueFrame_queued hc.stopped hc.busy frame
        have hrun := hc.enqueueFrame frame
        rcases heq : TlsTunnelClient.enqueueFrame { t with controller := c } frame with ⟨r, t'⟩
        rw [heq] at hq hrun
        have ha' : t'.controller.Assigned := by
          rw [hq.controller]
          exact ha
        match r with
        | .ok true => exact (hrun (by simp)).keeps ha'
        | .ok false =>
          exact .closeNow (hq.stopped.trans hc.stopped) (hq.fault.trans hc.fault) ha'
        | .error _ => exact (hrun (by simp)).keeps ha'

/-- `start` leaves no assignment behind. -/
theorem start_assigned {c : ClientSessionController} (h : c.Assigned) : c.start.2.Assigned := by
  rw [ClientSessionController.start]
  split
  · exact h
  · dsimp only
    split
    · intro hs
      cases hs
    · intro hs
      cases hs

theorem Sound.handleHandshake {t : TlsTunnelClient} (h : t.Sound) (hh : t.handshaking = true)
    (error : Option ErrorCategory) :
    t.Keeps (t.handleHandshake error) := by
  unfold TlsTunnelClient.handleHandshake
  dsimp only
  cases h.phase with
  | ended stopped closed =>
    rw [if_pos stopped]
    exact ⟨⟨.ended stopped closed, h.assigned⟩, id⟩
  | flushing stopped closed closeAfterWrite opened =>
    exact absurd (hh.symm.trans opened.2) (by decide)
  | running running =>
    rw [if_neg (by rw [running.stopped]; decide)]
    have ho : Opened { t with handshaking := false } := ⟨running.starts hh, rfl⟩
    have hrun : Running { t with handshaking := false } :=
      { running with starts := fun _ => ho.1, reads := fun _ => ho }
    cases error with
    | some error =>
      refine ⟨closeOnError_sound hrun.stopped h.assigned error, fun _ => ?_⟩
      exact (terminal_closeOnError hrun.stopped error).mpr fun hf => absurd running.fault hf
    | none =>
      have hstart := start_assigned h.assigned
      dsimp only
      rcases hmade : t.controller.start with ⟨frame, c⟩
      rw [hmade] at hstart
      have hc := hrun.withController c
      cases frame with
      | error e => exact hc.keeps hstart
      | ok frame =>
        dsimp only
        have hq := enqueueFrame_queued hc.stopped hc.busy frame
        have hnext := hc.enqueueFrame frame
        rcases heq : TlsTunnelClient.enqueueFrame
          { t with handshaking := false, controller := c } frame with ⟨r, t'⟩
        rw [heq] at hq hnext
        have ha' : t'.controller.Assigned := by
          rw [hq.controller]
          exact hstart
        match r with
        | .ok true =>
          have hkeeps : t.Keeps t' := (hnext (by simp)).keeps ha'
          have hread := hkeeps.sound.readNext (hq.opened ho)
          exact ⟨hread.sound, fun ht => hread.terminal (hkeeps.terminal ht)⟩
        | .ok false => exact .closeForGood (hq.stopped.trans hc.stopped) ha'
        | .error _ => exact (hnext (by simp)).keeps ha'

theorem Sound.startOnStrand {t : TlsTunnelClient} (h : t.Sound) (sniConfigured : Bool) :
    t.Keeps (t.startOnStrand sniConfigured) := by
  unfold TlsTunnelClient.startOnStrand
  split
  · exact ⟨h, id⟩
  · rename_i hopen
    rw [Bool.or_eq_true, not_or] at hopen
    cases h.phase with
    | ended stopped => exact absurd stopped hopen.1
    | flushing _ _ _ opened => exact absurd opened.1 hopen.2
    | running running =>
      dsimp only
      split
      · refine ⟨⟨.running { running with starts := fun _ => rfl, reads := fun hr => ?_ },
          h.assigned⟩, fun _ => terminal_of_open running.closed⟩
        exact absurd (running.reads hr).1 hopen.2
      · exact .closeForGood (by exact running.stopped) (by exact h.assigned)

/-- The events of a client nobody stops. -/
def Uninterrupted : ClientEvent → Prop
  | .stop _ => False
  | .abort => False
  | _ => True

theorem Keeps.step {t t' : TlsTunnelClient} (h : t.Keeps t') :
    t'.Sound ∧ (t.Terminal → (t'.Terminal ↔ True)) :=
  ⟨h.sound, fun ht => iff_of_true (h.terminal ht) trivial⟩

theorem Sound.step {t : TlsTunnelClient} (h : t.Sound) (accepts : IpAssignment → Bool)
    {e : ClientEvent} (he : Uninterrupted e) : (t.step accepts e).Sound ∧
      (t.Terminal → ((t.step accepts e).Terminal ↔ t.Admits e)) := by
  cases e with
  | start sniConfigured => exact (h.startOnStrand sniConfigured).step
  | handshake error =>
    unfold TlsTunnelClient.step
    dsimp only
    split
    · rename_i hh
      exact (h.handleHandshake hh error).step
    · exact ⟨h, fun ht => iff_of_true ht trivial⟩
  | read read =>
    unfold TlsTunnelClient.step
    dsimp only
    split
    · rename_i hr
      exact (h.handleRead hr accepts read).step
    · exact ⟨h, fun ht => iff_of_true ht trivial⟩
  | write error =>
    unfold TlsTunnelClient.step
    dsimp only
    split
    · rename_i hw
      exact h.handleWrite hw error
    · rename_i hw
      refine ⟨h, fun ht => iff_of_true ht fun hf hs => ?_⟩
      cases h.phase with
      | running running => exact absurd (hf.symm.trans running.fault) (by simp)
      | flushing _ _ _ _ _ _ writeInProgress => exact absurd writeInProgress hw
      | ended stopped => exact absurd (stopped.symm.trans hs) (by decide)
  | sendIpv4 packet =>
    refine (h.sendFrame ?_).step
    rcases ClientSessionController.makeDataToServer_cases h.assigned packet with hnone |
      ⟨a, type, hs, ha, -, hsome⟩
    · rw [hnone]
      exact h.assigned
    · rw [hsome]
      exact fun _ => ⟨a, ha⟩
  | ping nonce =>
    refine (h.sendFrame ?_).step
    rcases t.controller.makePing_cases nonce with hnone | ⟨hs, -, hsome⟩
    · rw [hnone]
      exact h.assigned
    · rw [hsome]
      exact fun _ => h.assigned hs
  | stop code => exact he.elim
  | abort => exact he.elim

theorem running_create {name : Bytes} {mtu : UInt16} {frames bytes : Nat} {t : TlsTunnelClient}
    (h : create name mtu frames bytes = .ok t) : t.Running ∧ t.controller.Assigned := by
  simp only [create, bind_eq_ok, throwIf_ok] at h
  obtain ⟨c, hc, q, hq, -, -, ht⟩ := h
  rw [OutboundFrameQueue.create, ite_error_eq_ok] at hq
  obtain rfl := Except.ok.inj ht
  obtain rfl := Except.ok.inj hq.2
  rw [(ClientSessionController.create_ok hc).1]
  refine ⟨⟨rfl, rfl, rfl, rfl, rfl, rfl, ⟨?_, fun hno => absurd rfl hno⟩, ?_, ?_⟩, ?_⟩
  all_goals
    intro hno
    cases hno

/-- The writes of a client that has closed come to nothing. -/
theorem run_writes_stopped {t : TlsTunnelClient} (hs : t.stopped = true)
    (accepts : IpAssignment → Bool) (writes : List (Option ErrorCategory)) :
    Run.run (step accepts) t (writes.map .write) = t := by
  induction writes with
  | nil => rfl
  | cons error writes ih =>
    have hstep : t.step accepts (.write error) = t := by
      unfold step handleWrite
      dsimp only
      rw [if_pos hs, ite_self]
    rw [List.map_cons, Run.run_cons, hstep, ih]

theorem closes_closeNow {t : TlsTunnelClient} (hs : t.stopped = false)
    (accepts : IpAssignment → Bool) (writes : List (Option ErrorCategory)) :
    (Run.run (step accepts) t.closeNow (writes.map .write)).closed ≠ none := by
  rw [closeNow_open hs, run_writes_stopped rfl]
  exact Option.some_ne_none _

/-- After a fault the outstanding writes end the client. -/
theorem Sound.closes {t : TlsTunnelClient} (h : t.Sound) (hf : t.fault ≠ none)
    (accepts : IpAssignment → Bool) (writes : List (Option ErrorCategory))
    (hw : t.outboundQueue.queue.length ≤ writes.length) :
    (Run.run (TlsTunnelClient.step accepts) t (writes.map ClientEvent.write)).closed ≠ none := by
  induction writes generalizing t with
  | nil =>
    cases h.phase with
    | running running => exact absurd running.fault hf
    | flushing _ _ _ _ _ queue =>
      exact absurd (List.length_eq_zero_iff.mp (Nat.le_zero.mp hw)) queue
    | ended _ closed => exact closed
  | cons error writes ih =>
    have hnext := (@Sound.step t h accepts (.write error) trivial).1
    cases h.phase with
    | running running => exact absurd running.fault hf
    | ended stopped closed =>
      rw [run_writes_stopped stopped]
      exact closed
    | flushing stopped closed closeAfterWrite opened reading queue writeInProgress =>
      have hstep : t.step accepts (.write error) = t.handleWrite error := if_pos writeInProgress
      rw [List.map_cons, Run.run_cons]
      rw [hstep] at hnext ⊢
      cases error with
      | some error =>
        rw [handleWrite_error stopped]
        exact closes_closeNow (by exact stopped) accepts writes
      | none =>
        obtain ⟨buffer, rest, hq⟩ := List.exists_cons_of_ne_nil queue
        cases rest with
        | nil =>
          rw [handleWrite_last stopped hq, if_pos closeAfterWrite]
          exact closes_closeNow (by exact stopped) accepts writes
        | cons next rest =>
          rw [handleWrite_more stopped hq] at hnext ⊢
          refine ih hnext hf ?_
          rw [hq] at hw
          simpa using hw

/-- After a fault the close handler gets what makes a live runtime fail, whatever the reconnect delay
would be. -/
def EndsFailed (t : TlsTunnelClient) : Prop :=
  t.fault ≠ none → ∀ remote retryable, t.closed = some (remote, retryable) →
    (remote ≠ none ∨ retryable = false) ∧
      ∀ (R : ClientRuntime) (delay : Nat), R.Live → R.EndsFailed remote retryable delay

theorem endsFailed_iff_terminal (t : TlsTunnelClient) : t.EndsFailed ↔ t.Terminal := by
  constructor
  · intro h hf remote retryable hclosed
    exact (h hf remote retryable hclosed).1
  · intro h hf remote retryable hclosed
    have hend := h hf remote retryable hclosed
    exact ⟨hend, fun R delay hR => (ClientRuntime.endsFailed_iff hR remote retryable delay).mpr hend⟩

/-- A run that nobody interrupts fails for good after a fault if and only if every step of it is
admitted. Whatever the steps are, a client with a fault is closed after as many writes as it has
queued. -/
theorem faults_terminal_iff {name : Bytes} {mtu : UInt16} {frames bytes : Nat}
    {t₀ : TlsTunnelClient} (h : create name mtu frames bytes = .ok t₀)
    (accepts : IpAssignment → Bool) (es : List ClientEvent) (hes : ∀ e ∈ es, Uninterrupted e) :
    ((∀ n, (Run.run (step accepts) t₀ (es.take n)).EndsFailed) ↔
      Run.Along (step accepts) Admits t₀ es) ∧
    ((Run.run (step accepts) t₀ es).fault ≠ none → ∀ writes : List (Option ErrorCategory),
      (Run.run (step accepts) t₀ es).outboundQueue.queue.length ≤ writes.length →
        (Run.run (step accepts) t₀ (es ++ writes.map .write)).closed ≠ none) := by
  obtain ⟨hrun, ha⟩ := running_create h
  have hs₀ : t₀.Sound := ⟨.running hrun, ha⟩
  constructor
  · simp only [endsFailed_iff_terminal]
    exact Run.forall_take_iff_along (fun _ _ he hs => hs.step accepts he) hs₀
      (terminal_of_open hrun.closed) hes
  · intro hf writes hw
    have hs : (Run.run (step accepts) t₀ es).Sound :=
      Run.along_invariant (P := Sound) (fun _ _ hs he => (hs.step accepts he).1) hs₀
        (Run.along_of_forall t₀ hes)
    rw [Run.run_append]
    exact hs.closes hf accepts writes hw

/-- A client as `create` makes it. -/
def freshClient : TlsTunnelClient where
  controller := { requestedMtu := 1400 }
  outboundQueue := ⟨4, 4096, [], 0⟩

/-- A server without a free address answers the hello with an ERROR, which the client rejects because
it is no IP_ASSIGN. Its own ERROR is then written. -/
def refusedHello (write : Option ErrorCategory) : List ClientEvent :=
  let refusal : Frame := ⟨.error, 0, 1, [0, 4] ++ text "virtual IP lease pool is exhausted"⟩
  [.start true, .handshake none, .write none, .read (.ok (wireBytes refusal)), .write write]

theorem faults_terminal_iff_refusedHello :
    let t := Run.run (step fun _ => true) freshClient (refusedHello (some .ssl))
    t.fault = some .rejected ∧ t.closed = some (none, false) ∧ t.EndsFailed := by
  intro t
  have hf : t.fault = some .rejected := by decide +kernel
  have hclosed : t.closed = some (none, false) := by decide +kernel
  have hcreate : create (text "vpn") 1400 4 4096 = .ok freshClient := rfl
  have hes : ∀ e ∈ refusedHello (some .ssl), Uninterrupted e := by
    simp [refusedHello, Uninterrupted]
  have halong : Run.Along (step fun _ => true) Admits freshClient (refusedHello (some .ssl)) := by
    refine ⟨trivial, trivial, fun hno => ?_, trivial, fun _ _ => .inl rfl, trivial⟩
    exact absurd hno (by decide +kernel)
  exact ⟨hf, hclosed, (faults_terminal_iff hcreate _ _ hes).1.mpr halong 5⟩

/-- When the ERROR is written without an error the runtime connects again. -/
theorem rejected_frame_retried :
    let t := Run.run (step fun _ => true) freshClient (refusedHello none)
    create (text "vpn") 1400 4 4096 = .ok freshClient ∧
      (∀ e ∈ refusedHello none, Uninterrupted e) ∧
      t.fault = some .rejected ∧ t.closed = some (none, true) ∧ ¬t.EndsFailed ∧
      (ClientRuntime.onTunnelClosed { state := .connecting } 0 none true 1000).state =
        .reconnecting := by
  intro t
  have hf : t.fault = some .rejected := by decide +kernel
  have hclosed : t.closed = some (none, true) := by decide +kernel
  refine ⟨rfl, by simp [refusedHello, Uninterrupted], hf, hclosed, fun hno => ?_, by decide +kernel⟩
  have := (hno (by rw [hf]; simp) none true hclosed).1
  simp at this

end TlsTunnelClient

end PersonalVpn.Client
