import PersonalVpn.Core.FleetSafety
import PersonalVpn.Server.SessionMetrics

namespace PersonalVpn.Server

open PersonalVpn.Core Protocol

namespace TlsTunnelSession

variable {σ : Type} {s : TlsTunnelSession}

theorem readNext_handled (s : TlsTunnelSession) : s.readNext.handled = s.handled := by
  unfold readNext
  split <;> rfl

theorem continueReading_handled (s : TlsTunnelSession) : s.continueReading.handled = s.handled := by
  unfold continueReading
  split
  · rfl
  · split
    · exact readNext_handled s
    · rfl

theorem handleRead_handled (s : TlsTunnelSession) (read : Option Bytes) :
    (s.handleRead read).handled = s.handled := by
  have hcases := handleRead_cases s read
  generalize s.handleRead read = s' at hcases ⊢
  cases hcases with
  | stopped => rfl
  | ended => exact (transported_closeNow _).handled
  | malformed => exact (transported_closeNow _).handled
  | frames => exact continueReading_handled _

theorem sendFromTun_handled (overflow sent : ServerMetrics → ServerMetrics)
    (s : TlsTunnelSession) (w : Shared σ) (packet : Bytes) (now : TimePoint) :
    (s.sendFromTun overflow sent w packet now).1.handled = s.handled := by
  have hcases := sendFromTun_cases overflow sent s w packet now
  generalize s.sendFromTun overflow sent w packet now = after at hcases ⊢
  cases hcases with
  | ignored => rfl
  | dropped => rfl
  | ended => exact (transported_closeNow _).handled
  | @queued c c' manager f s₁ live old make enqueue =>
    have ht := (transported_enqueueFrame { s with controller := some c' } f).handled
    rwa [enqueue] at ht
  | @overflowed c c' manager f s₁ live old make enqueue =>
    have ht := (transported_enqueueFrame { s with controller := some c' } f).handled
    rw [enqueue] at ht
    exact (transported_closeNow _).handled.trans ht
  | @threw c c' manager f s₁ e live old make enqueue =>
    have ht := (transported_enqueueFrame { s with controller := some c' } f).handled
    rwa [enqueue] at ht

theorem conclude_handled (h : Handlers σ) (s : TlsTunnelSession) (w : Shared σ)
    (c : SessionController) (r : SessionResult) : (s.conclude h w c r).1.handled = s.handled := by
  have hcases := conclude_cases h s w c r
  generalize s.conclude h w c r = after at hcases ⊢
  cases hcases with
  | known => exact (transported_applyResult h s w r).handled
  | admitted => exact (transported_applyResult h _ _ r).handled
  | rejected => exact (transported_closeNow _).handled

/-- The loop of `handle_read` hands its next frame to the controller, if there is one. -/
theorem handleNextFrame_handled (h : Handlers σ) (s : TlsTunnelSession) (w : Shared σ)
    (now : TimePoint) : (s.handleNextFrame h w now).1.handled =
      s.handled ++ if s.controller.isSome then s.inbound.take 1 else [] := by
  unfold handleNextFrame
  cases hi : s.inbound with
  | nil => simp
  | cons f rest =>
    dsimp only
    rw [continueReading_handled]
    have hcases := handleFrame_cases h { s with inbound := rest } w f now
    generalize handleFrame h { s with inbound := rest } w f now = after at hcases ⊢
    cases hcases with
    | unopened hnone =>
      have hc : s.controller = none := hnone
      simp [hc]
    | @threw c c' manager e old handle =>
      have hc : s.controller = some c := old
      rw [(transported_closeNow _).handled]
      simp [hc]
    | @handled c c' manager r old handle =>
      have hc : s.controller = some c := old
      rw [conclude_handled]
      simp [hc]

/-- Frames are handed to the controller by the loop of `handle_read` only. -/
theorem step_handled (h : Handlers σ) (s : TlsTunnelSession) (w : Shared σ) {e : SessionEvent}
    (he : ∀ now, e ≠ .frame now) : (s.step h w e).1.handled = s.handled := by
  have hclosed : s.closeNow.handled = s.handled := (transported_closeNow s).handled
  have hcases := step_cases h s w e
  generalize s.step h w e = after at hcases ⊢
  cases hcases with
  | busy => rfl
  | unawaited => rfl
  | handshake fingerprint =>
    have hcases := handleHandshake_cases s w fingerprint
    generalize s.handleHandshake w fingerprint = after at hcases ⊢
    cases hcases with
    | stopped => rfl
    | anonymous => exact hclosed
    | refused => exact hclosed
    | opened => exact readNext_handled _
  | handshakeTimeout => exact hclosed
  | read read => exact handleRead_handled s read
  | frame now => exact absurd rfl (he now)
  | write failed => exact (transported_handleWrite s failed).handled
  | sendIpv4 packet now => exact sendFromTun_handled _ _ s w packet now
  | sendIpv6 packet now => exact sendFromTun_handled _ _ s w packet now
  | idleTimeout => exact hclosed
  | stop => exact hclosed
  | close =>
    have hcases := closeStep_cases h s w
    generalize s.closeStep h w = after at hcases ⊢
    cases hcases with
    | cleared => rfl
    | released => rfl
    | notified => rfl
    | idle => rfl

end TlsTunnelSession

/-- A wait on `deadline_timer_`: that of `start_on_strand`, or one of `arm_idle_timeout`. `frames` is
the number of frames processed up to the one that armed it. -/
structure Wait where
  idle : Bool
  frames : Nat
  deriving DecidableEq, Repr

/-- A session with its timer: the wait that is outstanding, and the handlers of waits that are queued
on the strand, each with whether it runs without an error. A wait that has expired is not outstanding
any more, so that nothing cancels it. -/
structure TimedSession where
  session : TlsTunnelSession
  pending : Option Wait := some ⟨false, 0⟩
  queued : List (Wait × Bool) := []

/-- A handler of the strand other than that of a wait, the expiry of the timer, or the handler of the
wait at a place of the queue. Handlers come with what the other strands have left of the shared
state. -/
inductive TimerEvent (σ : Type) where
  | strand (w : Shared σ) (event : SessionEvent)
  | expire
  | handler (k : Nat) (w : Shared σ)

namespace TimedSession

variable {σ : Type} {h : Handlers σ} {T : TimedSession}

/-- `deadline_timer_.cancel()`. -/
def cancel (T : TimedSession) : TimedSession :=
  { T with pending := none, queued := T.queued ++ T.pending.toList.map (·, false) }

/-- `expires_after`, which cancels the wait that is outstanding, and `async_wait`. -/
def arm (T : TimedSession) (wait : Wait) : TimedSession := { T.cancel with pending := some wait }

/-- Put back the session after a handler. `close_now` cancels the timer. -/
def put (T : TimedSession) (s : TlsTunnelSession) : TimedSession :=
  if !T.session.stopped && s.stopped then { T.cancel with session := s } else { T with session := s }

/-- The wait that the handler of an event arms: `handle_handshake` with a new controller, and the loop
of `handle_read` for each of its frames. -/
def armedBy (s s' : TlsTunnelSession) : SessionEvent → Option Wait
  | .handshake _ =>
    if s.controller.isNone && s'.controller.isSome then some ⟨true, s.handled.length⟩ else none
  | .frame _ =>
    if !s.inbound.isEmpty && s.controller.isSome then some ⟨true, s.handled.length + 1⟩ else none
  | _ => none

def strand (h : Handlers σ) (T : TimedSession) (w : Shared σ) (event : SessionEvent) :
    TimedSession :=
  let s := (T.session.step h w event).1
  match armedBy T.session s event with
  | some wait => (T.arm wait).put s
  | none => T.put s

/-- The handler at the place `k` of the queue, once the loop of `handle_read` is done. -/
def handler (T : TimedSession) (k : Nat) (w : Shared σ) : TimedSession × Shared σ :=
  match T.session.inbound, T.queued[k]? with
  | [], some (wait, true) =>
    let after := if wait.idle then T.session.idleTimeout w else T.session.handshakeTimeout w
    ({ T with queued := T.queued.eraseIdx k }.put after.1, after.2)
  | [], some (_, false) => ({ T with queued := T.queued.eraseIdx k }, w)
  | _, _ => (T, w)

/-- One event. The handlers of waits run as such only. -/
def step (h : Handlers σ) (T : TimedSession) : TimerEvent σ → TimedSession
  | .strand _ .idleTimeout | .strand _ .handshakeTimeout => T
  | .strand w event => T.strand h w event
  | .expire => { T with pending := none, queued := T.queued ++ T.pending.toList.map (·, true) }
  | .handler k w => (T.handler k w).1

/-- A session that `start_on_strand` has started. -/
def start (maximumFrames maximumBytes : Nat) : TimedSession where
  session := { outboundQueue := { maximumFrames, maximumBytes } }

/-- The handler of an idle wait that closes the session, or counts an idle timeout, is that of a
deadline armed by the last frame that was processed. -/
def Punctual (T : TimedSession) : TimerEvent σ → Prop
  | .handler k w => ∀ wait, T.queued[k]? = some (wait, true) → wait.idle = true →
    (T.session.stopped = false ∧ (T.handler k w).1.session.stopped = true ∨
      (T.handler k w).2.metrics.idleTimeouts ≠ w.metrics.idleTimeouts) →
    wait.frames = T.session.handled.length
  | _ => True

/-- No frame is processed while the handler of an idle wait that has expired is queued. -/
def Unexpired (T : TimedSession) : TimerEvent σ → Prop
  | .strand _ (.frame _) => T.session.inbound ≠ [] →
    ∀ q ∈ T.queued, q.1.idle = true → q.2 = false
  | _ => True

/-- While the session is open, the idle wait that is outstanding and those that have expired were
armed by the last frame. -/
structure Timely (T : TimedSession) : Prop where
  pending : T.session.stopped = false → ∀ wait, T.pending = some wait → wait.idle = true →
    wait.frames = T.session.handled.length
  queued : T.session.stopped = false → ∀ wait, (wait, true) ∈ T.queued → wait.idle = true →
    wait.frames = T.session.handled.length

theorem Timely.put (ht : T.Timely) {s : TlsTunnelSession}
    (hopen : s.stopped = false → T.session.stopped = false)
    (hhandled : s.handled = T.session.handled) : (T.put s).Timely := by
  unfold TimedSession.put
  split
  · rename_i hclosing
    have hno : s.stopped ≠ false := by
      simp only [Bool.and_eq_true] at hclosing
      simp [hclosing.2]
    exact ⟨fun hs => absurd hs hno, fun hs => absurd hs hno⟩
  · constructor
    · intro hs wait hwait hidle
      exact (ht.pending (hopen hs) wait hwait hidle).trans (congrArg List.length hhandled.symm)
    · intro hs wait hwait hidle
      exact (ht.queued (hopen hs) wait hwait hidle).trans (congrArg List.length hhandled.symm)

/-- Handlers that are queued with an error do not count. -/
theorem mem_cancel {wait : Wait} : (wait, true) ∈ T.cancel.queued ↔ (wait, true) ∈ T.queued := by
  simp [cancel]

/-- A wait that is armed with the number of frames processed so far. -/
theorem Timely.armed {wait : Wait} {s : TlsTunnelSession}
    (hwait : wait.frames = s.handled.length)
    (hqueued : s.stopped = false → ∀ other, (other, true) ∈ T.queued → other.idle = true →
      other.frames = s.handled.length) : ((T.arm wait).put s).Timely := by
  unfold TimedSession.put
  split
  · rename_i hclosing
    have hno : s.stopped ≠ false := by
      simp only [Bool.and_eq_true] at hclosing
      simp [hclosing.2]
    exact ⟨fun hs => absurd hs hno, fun hs => absurd hs hno⟩
  · constructor
    · intro _ other hother _
      cases hother
      exact hwait
    · intro hs other hother hidle
      exact hqueued hs other (mem_cancel.mp hother) hidle

theorem Timely.strand (ht : T.Timely) (w : Shared σ) {event : SessionEvent}
    (hevent : T.Unexpired (.strand w event)) : (T.strand h w event).Timely := by
  have hopen := TlsTunnelSession.step_open h T.session w event
  unfold TimedSession.strand
  dsimp only
  by_cases hframe : ∃ now, event = .frame now
  · obtain ⟨now, heq⟩ := hframe
    rw [heq] at hevent hopen ⊢
    have hhandled := TlsTunnelSession.handleNextFrame_handled h T.session w now
    unfold armedBy
    dsimp only
    split
    · rename_i wait hwait
      split at hwait
      · rename_i hbusy
        cases hwait
        simp only [Bool.and_eq_true, Bool.not_eq_true', List.isEmpty_eq_false_iff] at hbusy
        obtain ⟨f, rest, hi⟩ := List.exists_cons_of_ne_nil hbusy.1
        have hlength : (T.session.step h w (.frame now)).1.handled.length =
            T.session.handled.length + 1 := by
          rw [TlsTunnelSession.step, hhandled, hbusy.2, hi]
          simp
        refine .armed hlength.symm fun _ other hother hidle => ?_
        cases hevent hbusy.1 (other, true) hother hidle
      · cases hwait
    · rename_i hno
      refine ht.put hopen ?_
      split at hno
      · cases hno
      · rename_i hidle
        simp only [Bool.and_eq_true, Bool.not_eq_true', List.isEmpty_eq_false_iff, not_and,
          Bool.not_eq_true] at hidle
        rw [TlsTunnelSession.step, hhandled]
        cases hi : T.session.inbound with
        | nil => simp
        | cons f rest => simp [hidle (by simp [hi])]
  · have hhandled := TlsTunnelSession.step_handled h T.session w (e := event)
      fun now heq => hframe ⟨now, heq⟩
    split
    · rename_i wait hwait
      unfold armedBy at hwait
      split at hwait
      · split at hwait
        · cases hwait
          refine .armed (congrArg List.length hhandled.symm) fun hs other hother hidle => ?_
          exact (ht.queued (hopen hs) other hother hidle).trans (congrArg List.length hhandled.symm)
        · cases hwait
      · exact absurd ⟨_, rfl⟩ hframe
      · cases hwait
    · exact ht.put hopen hhandled

theorem Timely.handler (ht : T.Timely) (k : Nat) (w : Shared σ) : (T.handler k w).1.Timely := by
  have herase : Timely { T with queued := T.queued.eraseIdx k } :=
    ⟨ht.pending, fun hs wait hwait => ht.queued hs wait (List.mem_of_mem_eraseIdx hwait)⟩
  have hclose : Timely ({ T with queued := T.queued.eraseIdx k }.put T.session.closeNow) :=
    herase.put (by simp) (TlsTunnelSession.transported_closeNow _).handled
  have hsame : Timely ({ T with queued := T.queued.eraseIdx k }.put T.session) :=
    herase.put id rfl
  unfold TimedSession.handler
  split
  · dsimp only
    split
    · unfold TlsTunnelSession.idleTimeout
      split
      · exact hsame
      · exact hclose
    · unfold TlsTunnelSession.handshakeTimeout
      split
      · exact hsame
      · exact hclose
  · exact herase
  · exact ht

/-- A step that does not process a frame behind an expired deadline keeps the waits timely. -/
theorem Timely.step (ht : T.Timely) {e : TimerEvent σ} (he : T.Unexpired e) :
    (T.step h e).Timely := by
  cases e with
  | strand w event =>
    unfold TimedSession.step
    split
    · exact ht
    · exact ht
    · rename_i heq
      cases heq
      exact ht.strand w he
    · rename_i heq
      cases heq
    · rename_i heq
      cases heq
  | expire =>
    refine ⟨fun _ wait hwait => (by cases hwait), fun hs wait hwait hidle => ?_⟩
    simp only [TimedSession.step, List.mem_append, List.mem_map, Option.mem_toList, Prod.mk.injEq,
      and_true, exists_eq_right] at hwait
    obtain hold | hnew := hwait
    · exact ht.queued hs wait hold hidle
    · exact ht.pending hs wait hnew hidle
  | handler k w => exact ht.handler k w

/-- A timely wait closes the session only where no frame was processed since. -/
theorem Timely.punctual (ht : T.Timely) (e : TimerEvent σ) : T.Punctual e := by
  unfold Punctual
  split
  · rename_i k w
    intro wait hwait hidle hfired
    refine ht.queued ?_ wait (List.mem_of_getElem? hwait) hidle
    by_contra hstopped
    have hs : T.session.stopped = true := by simpa using hstopped
    have hquiet : (T.handler k w).2 = w := by
      unfold TimedSession.handler
      split
      · rename_i heq
        cases hwait.symm.trans heq
        simp [hidle, TlsTunnelSession.idleTimeout, hs]
      · rfl
      · rfl
    rw [hquiet] at hfired
    simp [hs] at hfired
  · trivial

theorem timely_start (maximumFrames maximumBytes : Nat) :
    (start maximumFrames maximumBytes).Timely := by
  constructor
  · intro _ wait hwait hidle
    cases hwait
    cases hidle
  · intro _ wait hwait
    cases hwait

/-- In every run in which no frame is processed behind an expired deadline, the idle timeout closes the
session only if no frame was processed since its deadline was armed. -/
theorem idle_timeout_punctual (h : Handlers σ) (maximumFrames maximumBytes : Nat)
    {es : List (TimerEvent σ)}
    (hes : Run.Along (step h) Unexpired (start maximumFrames maximumBytes) es) :
    Run.Along (step h) Punctual (start maximumFrames maximumBytes) es :=
  Run.along_of_guarded (P := Timely) (fun _ e ht he => ⟨ht.step he, ht.punctual e⟩)
    (timely_start maximumFrames maximumBytes) hes

/-- Handlers that do nothing. -/
def quietHandlers : Handlers Unit := ⟨fun _ x => x, fun _ x => (true, x), fun _ x => x⟩

/-- What the other strands leave of the shared state here. -/
def quietShared : Shared Unit := { manager := LeaseManager.singleManager 1, outside := () }

/-- The deadline of a session that sends nothing expires. -/
def silent : List (TimerEvent Unit) :=
  [.strand quietShared (.handshake (some (text "c"))), .expire, .handler 0 quietShared,
    .handler 0 quietShared]

theorem idle_timeout_punctual_silent :
    Run.Along (step quietHandlers) Punctual (start 256 (2 ^ 20)) silent ∧
      (Run.run (step quietHandlers) (start 256 (2 ^ 20)) silent).session.stopped = true := by
  refine ⟨idle_timeout_punctual quietHandlers 256 (2 ^ 20) ?_, by decide +kernel⟩
  exact ⟨trivial, trivial, trivial, trivial, trivial⟩

/-- A read completes, and the deadline expires before the handler of the read has run. -/
def overtaken : List (TimerEvent Unit) :=
  [.strand quietShared (.handshake (some (text "c"))), .handler 0 quietShared, .expire,
    .strand quietShared (.read (some (wireBytes Fleet.helloFrame))),
    .strand quietShared (.frame 0), .handler 0 quietShared]

/-- The frame of that read is processed and arms a new deadline, and then the handler of the old one
closes the session. -/
theorem outdated_timeout_closes :
    let T := Run.run (step quietHandlers) (start 256 (2 ^ 20)) (overtaken.take 5)
    T.session.stopped = false ∧ T.session.handled = [Fleet.helloFrame] ∧
      T.pending = some ⟨true, 1⟩ ∧ T.queued = [(⟨true, 0⟩, true)] ∧
      (T.handler 0 quietShared).1.session.stopped = true ∧
      (T.handler 0 quietShared).2.metrics.idleTimeouts = 1 ∧
      ¬Run.Along (step quietHandlers) Punctual (start 256 (2 ^ 20)) overtaken := by
  intro T
  have hopen : T.session.stopped = false := by decide +kernel
  have hclosed : (T.handler 0 quietShared).1.session.stopped = true := by decide +kernel
  have hqueued : T.queued = [(⟨true, 0⟩, true)] := by decide +kernel
  have hhandled : T.session.handled = [Fleet.helloFrame] := by decide +kernel
  refine ⟨hopen, hhandled, by decide +kernel, hqueued, hclosed, by decide +kernel, fun hes => ?_⟩
  obtain ⟨-, -, -, -, -, hlast, -⟩ := hes
  have hpunctual : T.Punctual (.handler 0 quietShared) := hlast
  have hframes := hpunctual ⟨true, 0⟩ (by rw [hqueued]; rfl) rfl (.inl ⟨hopen, hclosed⟩)
  rw [hhandled] at hframes
  cases hframes

end TimedSession

end PersonalVpn.Server
