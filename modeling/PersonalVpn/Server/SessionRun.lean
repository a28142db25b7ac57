import PersonalVpn.Server.SessionWrites

namespace PersonalVpn.Server

open PersonalVpn.Core Protocol Sequenced

/-- A call of one of the handlers of a session. -/
inductive HandlerCall where
  | packetSink (packet : Bytes)
  | established (lease : Lease)
  | closed (lease : Option Lease)

/-- Handlers that keep a record of their calls. The established handler answers `admits`. -/
def HandlerCall.handlers (admits : Bool) : Handlers (List HandlerCall) where
  packetSink packet log := log ++ [.packetSink packet]
  established lease log := (admits, log ++ [.established lease])
  closed lease log := log ++ [.closed lease]

/-- An event on the strand of a session, with what it finds of the rest of the server: the manager as
the other sessions have left it, also when `close_now` comes to it, and the answer of the established
handler. -/
structure SessionMoment where
  event : SessionEvent
  manager : LeaseManager
  admits : Bool := true
  releasing : LeaseManager := manager

/-- A session from its creation on, with the calls of its handlers, the frames its controller has
created and the number of its writes that have completed. -/
structure SessionRun where
  session : TlsTunnelSession
  log : List HandlerCall := []
  created : List Frame := []
  completed : Nat := 0

namespace SessionRun

def start (maximumFrames maximumBytes : Nat) : SessionRun where
  session := { outboundQueue := { maximumFrames, maximumBytes } }

def shared (r : SessionRun) (x : SessionMoment) : Shared (List HandlerCall) where
  manager := x.manager
  outside := r.log

/-- A write that was started completes. -/
def completes (r : SessionRun) (x : SessionMoment) : Bool :=
  match x.event with
  | .write _ => decide (r.session.inbound = [] ∧ r.completed < r.session.written.length)
  | _ => false

/-- The handler of an event up to `close_now`. The completion of a write depends on nothing but that
the write was started. -/
def handle (r : SessionRun) (x : SessionMoment) : TlsTunnelSession × Shared (List HandlerCall) :=
  match x.event with
  | .write failed =>
    (if r.completes x then r.session.handleWrite failed else r.session, r.shared x)
  | .close => (r.session, r.shared x)
  | event => r.session.step (HandlerCall.handlers x.admits) (r.shared x) event

/-- A handler that calls `close_now` runs it to its end. -/
def runClose (x : SessionMoment) (after : TlsTunnelSession × Shared (List HandlerCall)) :
    TlsTunnelSession × List HandlerCall :=
  let (s, w) := after.1.closeStep (HandlerCall.handlers x.admits)
    { after.2 with manager := x.releasing }
  let (s, w) := s.closeStep (HandlerCall.handlers x.admits) w
  (s, w.outside)

def step (r : SessionRun) (x : SessionMoment) : SessionRun where
  session := (runClose x (r.handle x)).1
  log := (runClose x (r.handle x)).2
  created := r.created ++ r.session.framesMade (r.shared x) x.event
  completed := r.completed + (r.completes x).toNat

/-- The number of the next frame of the controller that a session has or will get. -/
def next (s : TlsTunnelSession) : UInt64 :=
  (s.controller.map SessionController.nextOutboundSequence).getD 1

/-- The books of the session. -/
def books (r : SessionRun) : FrameWriter where
  toFifoWriter := r.session.writer
  created := r.created
  completed := r.completed
  next := next r.session
  stopped := r.session.stopped

variable {r : SessionRun} {x : SessionMoment}

theorem runClose_of_ne {after : TlsTunnelSession × Shared (List HandlerCall)}
    (h₁ : after.1.closing ≠ .releasing) (h₂ : after.1.closing ≠ .notifying) :
    runClose x after = (after.1, after.2.outside) := by
  have hnone (w : Shared (List HandlerCall)) :
      after.1.closeStep (HandlerCall.handlers x.admits) w = (after.1, w) := by
    unfold TlsTunnelSession.closeStep
    split
    · rename_i h
      exact absurd h h₁
    · rename_i h
      exact absurd h h₂
    · rfl
  simp only [runClose, hnone]

theorem runClose_releasing {after : TlsTunnelSession × Shared (List HandlerCall)}
    (h : after.1.closing = .releasing) : runClose x after = ({ after.1 with
      controller := after.1.controller.map fun c => (c.onTransportClosed x.releasing).1
      outboundQueue := after.1.outboundQueue.clear
      closing := .done }, after.2.outside ++ [.closed after.1.routeLease]) := by
  unfold runClose
  rw [TlsTunnelSession.closeStep]
  cases hc : after.1.controller with
  | none => simp [h, TlsTunnelSession.closeStep, HandlerCall.handlers]
  | some c => simp [h, TlsTunnelSession.closeStep, HandlerCall.handlers]

/-- What the handler of an event does to an open session and to the record of its calls. -/
theorem acted_open {s s' : TlsTunnelSession} {w w' : Shared (List HandlerCall)} {admits : Bool}
    (ha : s.Acted (HandlerCall.handlers admits) w s' w') (hs : s.stopped = false)
    (hopen : s.closing = .open) :
    ((s'.stopped = false ∧ s'.closing = .open) ∨
      (s'.stopped = true ∧ s'.closing = .releasing ∧ s'.inbound = [])) ∧
      ∃ calls, w'.outside = w.outside ++ calls ∧ ∀ lease, .closed lease ∉ calls := by
  have hquiet (hq : s.Quiet s') : (s'.stopped = false ∧ s'.closing = .open) ∨
      (s'.stopped = true ∧ s'.closing = .releasing ∧ s'.inbound = []) := by
    obtain ⟨hst, hcl⟩ | ⟨-, hst, hcl⟩ := hq.closing
    · exact .inl ⟨hst.trans hs, hcl.trans hopen⟩
    · refine .inr ⟨hst, hcl, ?_⟩
      by_contra hne
      exact absurd (hst.symm.trans (hq.busy (fun _ => hs) hne)) (by decide)
  have hsame (hout : w'.outside = w.outside) :
      ∃ calls, w'.outside = w.outside ++ calls ∧ ∀ lease, .closed lease ∉ calls :=
    ⟨[], by simp [hout]⟩
  have hsinks (log : List HandlerCall) (packets : List Bytes) :
      packets.foldl (fun log p => (HandlerCall.handlers admits).packetSink p log) log =
        log ++ packets.map .packetSink := by
    induction packets generalizing log with
    | nil => simp
    | cons p ps ih =>
      rw [List.foldl_cons, ih]
      simp [HandlerCall.handlers]
  cases ha with
  | quiet same _ _ _ outside => exact ⟨hquiet same, hsame outside⟩
  | opened same => exact ⟨hquiet same, hsame rfl⟩
  | framed same _ _ _ _ announced =>
    refine ⟨hquiet same, ?_⟩
    generalize s'.routeLease = route at announced
    generalize w'.outside = log at announced ⊢
    cases announced with
    | known old packets =>
      rw [hsinks]
      exact ⟨_, rfl, by simp⟩
    | new unrouted state lease packets =>
      rename_i l
      rw [hsinks]
      refine ⟨.established l :: packets.map .packetSink, ?_, by simp⟩
      simp [HandlerCall.handlers]
  | sent same _ _ _ _ outside => exact ⟨hquiet same, hsame outside⟩
  | released closing => exact absurd (closing.symm.trans hopen) (by decide)
  | cleared closing => exact absurd (closing.symm.trans hopen) (by decide)
  | notified closing => exact absurd (closing.symm.trans hopen) (by decide)

/-- A closed session: `close_now` has run to its end, and the call of the close handler was the only
one and the last of all. -/
structure Ended (r : SessionRun) : Prop where
  stopped : r.session.stopped = true
  closing : r.session.closing = .done
  inbound : r.session.inbound = []
  controller : ∀ c, r.session.controller = some c → c.state = .closed ∧ c.lease = none
  log : ∃ earlier lease, r.log = earlier ++ [.closed lease] ∧ ∀ lease, .closed lease ∉ earlier

/-- An open session, whose close handler has not been called. -/
structure Open (r : SessionRun) : Prop where
  stopped : r.session.stopped = false
  closing : r.session.closing = .open
  log : ∀ lease, .closed lease ∉ r.log

/-- The invariant of a run. -/
structure Sound (r : SessionRun) : Prop where
  books : r.books.Sound
  holds : ∀ c, r.session.controller = some c → c.Holds
  phase : r.Open ∨ r.Ended

theorem sound_start (maximumFrames maximumBytes : Nat) : (start maximumFrames maximumBytes).Sound := by
  refine ⟨⟨counted_nil, by simp [books, start], fun _ => ?_, ?_, ?_, ?_⟩, by simp [start], .inl ?_⟩
  · exact ⟨by simp [books, start, TlsTunnelSession.writer], rfl, rfl⟩
  · exact List.nil_prefix
  · simp [books, start, TlsTunnelSession.writer]
  · simp [books, start, TlsTunnelSession.writer]
  · exact ⟨rfl, rfl, by simp [start]⟩

/-- While the session is open a write is awaited exactly while the session says so. -/
theorem Sound.busy (h : r.Sound) (hopen : r.Open) :
    r.session.Busy ∧ (r.completed < r.session.written.length ↔ r.session.writeInProgress = true) := by
  have hflows := h.books.flows hopen.stopped
  have hstarted : r.session.written.length = r.completed + r.session.writeInProgress.toNat :=
    hflows.started
  refine ⟨hflows.busy, ?_⟩
  cases hw : r.session.writeInProgress with
  | true => simp [hstarted, hw]
  | false => simp [hstarted, hw]

/-- An open session handles the events of its strand. -/
theorem Sound.handle_eq (h : r.Sound) (hopen : r.Open) (hclose : x.event ≠ .close) :
    r.handle x = r.session.step (HandlerCall.handlers x.admits) (r.shared x) x.event := by
  unfold handle
  split
  · rename_i failed hevent
    rw [hevent, TlsTunnelSession.step, TlsTunnelSession.whenIdle, completes, hevent]
    by_cases hi : r.session.inbound = []
    · simp [hi, (h.busy hopen).2]
    · simp [hi]
  · rename_i hevent
    exact absurd hevent hclose
  · rfl

/-- What a handler does to the writer of an open session. -/
theorem Sound.wrote (h : r.Sound) (hopen : r.Open) :
    r.session.Wrote (r.completes x) (r.session.framesMade (r.shared x) x.event) (r.handle x).1 := by
  obtain ⟨hbusy, hawaited⟩ := h.busy hopen
  have hsame : r.session.Wrote false [] r.session := TlsTunnelSession.wrote_same hopen.stopped rfl
  unfold handle
  split
  · rename_i failed hevent
    rw [hevent, TlsTunnelSession.framesMade_none (.inr rfl)]
    dsimp only
    split
    · rename_i hc
      have hawaits := hc
      rw [completes, hevent, decide_eq_true_eq] at hawaits
      rw [hc]
      exact TlsTunnelSession.handleWrite_wrote hopen.stopped hbusy (hawaited.mp hawaits.2) failed
    · rename_i hc
      rw [Bool.eq_false_of_not_eq_true hc]
      exact hsame
  · rename_i hevent
    rw [hevent, TlsTunnelSession.framesMade_none (.inr (by simp [TlsTunnelSession.call, hopen.closing]))]
    simpa [completes, hevent] using hsame
  · rename_i hwrite hclose
    have hno : r.completes x = false := by
      unfold completes
      split
      · rename_i hevent
        exact absurd hevent (hwrite _)
      · rfl
    rw [hno]
    exact TlsTunnelSession.step_wrote _ _ hopen.stopped hbusy h.holds hclose hwrite

/-- The controller numbers the frames it makes. -/
theorem Sound.numbered (h : r.Sound) (hopen : r.Open) :
    Adds Frame.sequence (r.session.framesMade (r.shared x) x.event) (next r.session)
      (next (r.handle x).1) ∧ ∀ c, (r.handle x).1.controller = some c → c.Holds := by
  by_cases hclose : x.event = .close
  · have hhandle : r.handle x = (r.session, r.shared x) := by simp [handle, hclose]
    have hcall : r.session.call (r.shared x) x.event = none := by
      simp [TlsTunnelSession.call, hclose, hopen.closing]
    rw [hhandle, TlsTunnelSession.framesMade_none (.inr hcall)]
    exact ⟨.inl ⟨rfl, rfl⟩, h.holds⟩
  rw [h.handle_eq hopen hclose]
  cases hctl : r.session.controller with
  | none =>
    rw [TlsTunnelSession.framesMade_none (.inl hctl)]
    obtain hnone | ⟨identity, c, hcreate, hsome⟩ := TlsTunnelSession.step_controller_none
      (HandlerCall.handlers x.admits) (r.shared x) x.event hctl
    · exact ⟨.inl ⟨rfl, by simp [next, hctl, hnone]⟩, by simp [hnone]⟩
    · have hnew := SessionHistory.consistent_create hcreate
      have hfirst : c.nextOutboundSequence = 1 := hnew.sent.next
      exact ⟨.inl ⟨rfl, by simp [next, hctl, hsome, hfirst]⟩, by simpa [hsome] using hnew.holds⟩
  | some c =>
    have hc := h.holds c hctl
    have hafter := TlsTunnelSession.step_controller (HandlerCall.handlers x.admits) (r.shared x)
      x.event hctl hc
    cases hcall : r.session.call (r.shared x) x.event with
    | none =>
      rw [hcall, Option.elim_none] at hafter
      rw [TlsTunnelSession.framesMade_none (.inr hcall)]
      exact ⟨.inl ⟨rfl, by simp [next, hctl, hafter]⟩, by simpa [hafter] using hc⟩
    | some call =>
      have hext := SessionHistory.answer_extends hc call
      rw [hcall, Option.elim_some] at hafter
      rw [TlsTunnelSession.framesMade_call hctl hcall]
      exact ⟨by simpa [next, hctl, hafter] using hext.sends, by simpa [hafter] using hext.holds⟩

theorem Sound.wellFormed (h : r.Sound) :
    ∀ f ∈ r.session.framesMade (r.shared x) x.event, WellFormed f := by
  cases hctl : r.session.controller with
  | none => simp [TlsTunnelSession.framesMade_none (.inl hctl)]
  | some c =>
    cases hcall : r.session.call (r.shared x) x.event with
    | none => simp [TlsTunnelSession.framesMade_none (.inr hcall)]
    | some call =>
      rw [TlsTunnelSession.framesMade_call hctl hcall]
      exact SessionHistory.answer_wellFormed (h.holds c hctl) call

theorem completes_awaited (h : r.completes x = true) : r.completed < r.session.written.length := by
  unfold completes at h
  split at h
  · exact (of_decide_eq_true h).2
  · cases h

/-- An open session is still open after a handler, or about to close. -/
theorem Sound.stage (h : r.Sound) (hopen : r.Open) :
    (((r.handle x).1.stopped = false ∧ (r.handle x).1.closing = .open) ∨
      ((r.handle x).1.stopped = true ∧ (r.handle x).1.closing = .releasing ∧
        (r.handle x).1.inbound = [])) ∧
      ∃ calls, (r.handle x).2.outside = r.log ++ calls ∧ ∀ lease, .closed lease ∉ calls := by
  have hacted : TlsTunnelSession.Acted (HandlerCall.handlers x.admits) r.session (r.shared x)
      (r.handle x).1 (r.handle x).2 := by
    by_cases hclose : x.event = .close
    · have hhandle : r.handle x = (r.session, r.shared x) := by simp [handle, hclose]
      rw [hhandle]
      exact .same _ _ _
    · rw [h.handle_eq hopen hclose]
      exact TlsTunnelSession.step_acted _ h.holds _ _
  exact acted_open hacted hopen.stopped hopen.closing

/-- The events of an open session leave it open, or end it. -/
theorem Sound.step_open (h : r.Sound) (hopen : r.Open) : (r.step x).Sound := by
  have hwrote := h.wrote hopen (x := x)
  obtain ⟨hadds, hholds⟩ := h.numbered hopen (x := x)
  obtain ⟨hstage, calls, hlog, hcalls⟩ := h.stage hopen (x := x)
  have hquiet (lease : Option Lease) : .closed lease ∉ r.log ++ calls := by
    simp [hopen.log, hcalls]
  have hmoves (hnext : next (r.step x).session = next (r.handle x).1)
      (hwrites : r.session.Wrote (r.completes x) (r.session.framesMade (r.shared x) x.event)
        (r.step x).session) :
      r.books.Moves (r.completes x) (r.session.framesMade (r.shared x) x.event) (r.step x).books := by
    refine ⟨rfl, rfl, ?_, h.wellFormed, completes_awaited, fun _ => hwrites, fun hstop => ?_⟩
    · change Adds Frame.sequence _ (next r.session) (next (r.step x).session)
      rw [hnext]
      exact hadds
    · exact absurd (hstop.symm.trans hopen.stopped) (by decide)
  obtain ⟨hs, hclosing⟩ | ⟨hs, hclosing, hi⟩ := hstage
  · have hrun : runClose x (r.handle x) = ((r.handle x).1, (r.handle x).2.outside) :=
      runClose_of_ne (by simp [hclosing]) (by simp [hclosing])
    have hsession : (r.step x).session = (r.handle x).1 := by rw [step, hrun]
    refine ⟨h.books.moves (hmoves (by rw [hsession]) (by rwa [hsession])), by rwa [hsession], .inl ?_⟩
    refine ⟨by rw [hsession, hs], by rw [hsession, hclosing], ?_⟩
    rw [step, hrun, hlog]
    exact hquiet
  · have hrun := runClose_releasing (x := x) hclosing
    have hsession : (r.step x).session = { (r.handle x).1 with
        controller := (r.handle x).1.controller.map fun c => (c.onTransportClosed x.releasing).1
        outboundQueue := (r.handle x).1.outboundQueue.clear
        closing := .done } := by rw [step, hrun]
    have hcontroller : ∀ c, (r.step x).session.controller = some c →
        c.state = .closed ∧ c.lease = none := by
      intro c hc
      rw [hsession] at hc
      obtain ⟨c₀, -, heq⟩ := Option.map_eq_some_iff.mp hc
      rw [← heq, SessionController.onTransportClosed_fst]
      exact ⟨rfl, rfl⟩
    refine ⟨h.books.moves (hmoves ?_ ?_), ?_, .inr ?_⟩
    · rw [hsession]
      cases hctl : (r.handle x).1.controller with
      | none => simp [next, hctl]
      | some c => simp [next, hctl, SessionController.onTransportClosed_fst]
    · unfold TlsTunnelSession.Wrote at hwrote ⊢
      rw [hs] at hwrote
      rw [hsession]
      dsimp only
      rw [hs]
      exact .close hwrote.written_eq
    · intro c hc
      obtain ⟨hstate, hlease⟩ := hcontroller c hc
      simp [SessionController.Holds, hstate, hlease]
    · refine ⟨by rw [hsession, hs], by rw [hsession], by rw [hsession, hi], hcontroller, ?_⟩
      rw [step, hrun, hlog]
      exact ⟨_, _, rfl, hquiet⟩

theorem session_step_open (hs : (r.handle x).1.closing = .open) :
    (r.step x).session = (r.handle x).1 := by
  rw [step, runClose_of_ne (by simp [hs]) (by simp [hs])]

/-- Nothing but the completion of reads and of the last write happens to a closed session. -/
theorem Ended.step_eq (h : r.Ended) : ∃ reading, r.step x = { r with
    session := { r.session with reading }, completed := r.completed + (r.completes x).toNat } := by
  have hrun {after : TlsTunnelSession × Shared (List HandlerCall)} (hc : after.1.closing = .done) :
      runClose x after = (after.1, after.2.outside) :=
    runClose_of_ne (by simp [hc]) (by simp [hc])
  have hmade : r.session.framesMade (r.shared x) x.event = [] := by
    apply TlsTunnelSession.framesMade_none
    right
    unfold TlsTunnelSession.call
    split <;> simp [h.inbound, h.stopped, h.closing]
  have hhandle : ∃ reading, r.handle x = ({ r.session with reading }, r.shared x) := by
    unfold handle
    split
    · rename_i failed _
      have hwrite : r.session.handleWrite failed = r.session := by
        rw [TlsTunnelSession.handleWrite, if_pos h.stopped]
      rw [hwrite, ite_self]
      exact ⟨r.session.reading, rfl⟩
    · exact ⟨r.session.reading, rfl⟩
    · rename_i hclose
      exact TlsTunnelSession.step_stopped _ _ h.stopped h.inbound hclose
  obtain ⟨reading, heq⟩ := hhandle
  refine ⟨reading, ?_⟩
  rw [step, heq, hrun h.closing, hmade, List.append_nil]
  rfl

theorem Ended.step (h : r.Ended) : (r.step x).Ended := by
  obtain ⟨reading, heq⟩ := h.step_eq (x := x)
  rw [heq]
  exact ⟨h.stopped, h.closing, h.inbound, h.controller, h.log⟩

/-- A session that is open after an event has handled it. -/
theorem Sound.still_open (h : r.Sound) (hs : (r.step x).session.stopped = false) :
    r.Open ∧ (r.step x).session = (r.handle x).1 := by
  obtain hopen | hended := h.phase
  · refine ⟨hopen, ?_⟩
    obtain ⟨⟨-, hclosing⟩ | ⟨hstop, hclosing, -⟩, -⟩ := h.stage hopen (x := x)
    · exact session_step_open hclosing
    · rw [step, runClose_releasing hclosing] at hs
      exact absurd (hstop.symm.trans hs) (by decide)
  · exact absurd (hended.step.stopped.symm.trans hs) (by decide)

theorem Sound.stops (h : r.Sound) (hs : (r.handle x).1.stopped = true) :
    (r.step x).session.stopped = true := by
  cases hstop : (r.step x).session.stopped with
  | true => rfl
  | false =>
    rw [(h.still_open hstop).2] at hstop
    exact absurd (hs.symm.trans hstop) (by decide)

theorem Sound.step (h : r.Sound) (x : SessionMoment) : (r.step x).Sound := by
  obtain hopen | hended := h.phase
  · exact h.step_open hopen
  · have hended' := hended.step (x := x)
    obtain ⟨reading, heq⟩ := hended.step_eq (x := x)
    have hmoves : r.books.Moves (r.completes x) [] (r.step x).books := by
      rw [heq]
      refine ⟨(List.append_nil _).symm, rfl, .inl ⟨rfl, rfl⟩, by simp, completes_awaited, ?_, ?_⟩
      · intro hopen
        exact absurd (hended.stopped.symm.trans hopen) (by decide)
      · intro _
        exact ⟨hended.stopped, rfl⟩
    refine ⟨h.books.moves hmoves, ?_, .inr hended'⟩
    rw [heq]
    exact h.holds

end SessionRun

end PersonalVpn.Server
