import PersonalVpn.Server.ServerProcess

namespace PersonalVpn.Server

open PersonalVpn.Core Protocol

namespace ServerProcess

variable {ι : Type} [DecidableEq ι] {P : ServerProcess ι} {maximumSessions : Nat}

@[simp] theorem serve_server (P : ServerProcess ι) (event : ServerEvent ι) :
    (P.serve event).server = P.server.step event := by
  unfold serve
  dsimp only
  split <;> rfl

@[simp] theorem serve_interval (P : ServerProcess ι) (event : ServerEvent ι) :
    (P.serve event).metricsInterval = P.metricsInterval := by
  unfold serve
  dsimp only
  split <;> rfl

/-- An event of the process is at most one step of its server. -/
theorem step_server (P : ServerProcess ι) (e : ProcessEvent ι) :
    (P.step e).server = P.server ∨ ∃ event, (P.step e).server = P.server.step event := by
  cases e with
  | server event => exact .inr ⟨event, serve_server P event⟩
  | stopPosted =>
    rw [step]
    split
    · exact .inr ⟨.stop, serve_server _ _⟩
    · exact .inl rfl
  | reloadPosted valid =>
    rw [step]
    split <;> exact .inl rfl
  | metricsTimer =>
    rw [step]
    split <;> exact .inl rfl
  | metricsHandler =>
    rw [step, handleMetrics]
    split <;> exact .inl rfl
  | signal signal =>
    rw [step]
    split <;> exact .inl rfl
  | signalHandler =>
    rw [step, handleSignal]
    split <;> exact .inl rfl

/-- The invariant of the process: metrics are waited for only where they are asked for. -/
structure Inv (P : ServerProcess ι) (maximumSessions : Nat) : Prop where
  server : P.server.Inv maximumSessions true
  objects : P.server.server.Inv
  timed : P.metricsWait ≠ none → P.metricsInterval ≠ 0

theorem scheduleMetrics_timed {interval : Nat} (h : scheduleMetrics interval ≠ none) :
    interval ≠ 0 := by
  intro hzero
  exact h (by rw [scheduleMetrics, if_pos hzero])

theorem cancel_eq_none {α : Type} {wait : Option (ProcessWait α)} :
    ProcessWait.cancel wait = none ↔ wait = none := by
  cases wait with
  | none => simp [ProcessWait.cancel]
  | some w => cases w <;> simp [ProcessWait.cancel]

theorem serve_timed (h : P.metricsWait ≠ none → P.metricsInterval ≠ 0) (event : ServerEvent ι) :
    (P.serve event).metricsWait ≠ none → (P.serve event).metricsInterval ≠ 0 := by
  rw [serve_interval]
  unfold serve
  dsimp only
  split
  · intro hwait
    exact h fun hnone => hwait (cancel_eq_none.mpr hnone)
  · exact h

theorem Inv.step (h : P.Inv maximumSessions) (e : ProcessEvent ι) :
    (P.step e).Inv maximumSessions := by
  have hboth : (P.step e).server.Inv maximumSessions true ∧ (P.step e).server.server.Inv := by
    obtain hsame | ⟨event, hevent⟩ := step_server P e
    · rw [hsame]
      exact ⟨h.server, h.objects⟩
    · rw [hevent, h.server.server_step]
      exact ⟨h.server.step event, h.objects.step event⟩
  refine ⟨hboth.1, hboth.2, ?_⟩
  cases e with
  | server event => exact serve_timed h.timed event
  | stopPosted =>
    rw [ServerProcess.step]
    split
    · exact serve_timed (P := { P with stops := P.stops - 1 }) h.timed .stop
    · exact h.timed
  | reloadPosted valid =>
    rw [ServerProcess.step]
    split <;> exact h.timed
  | metricsTimer =>
    rw [ServerProcess.step]
    split
    · rename_i hwait
      exact fun _ => h.timed (by simp [hwait])
    · exact h.timed
  | metricsHandler =>
    rw [ServerProcess.step, handleMetrics]
    split
    · exact scheduleMetrics_timed
    · exact fun hno => absurd rfl hno
    · exact h.timed
  | signal signal =>
    rw [ServerProcess.step]
    split <;> exact h.timed
  | signalHandler =>
    rw [ServerProcess.step, handleSignal]
    split <;> exact h.timed

theorem Inv.run (h : P.Inv maximumSessions) (es : List (ProcessEvent ι)) :
    (Run.run ServerProcess.step P es).Inv maximumSessions :=
  Run.invariant (P := fun P : ServerProcess ι => P.Inv maximumSessions) (fun _ e h => h.step e) h es

theorem step_stopping (hstop : P.server.server.stopping = true) (e : ProcessEvent ι) :
    (P.step e).server.server.stopping = true := by
  obtain hsame | ⟨event, hevent⟩ := step_server P e
  · rwa [hsame]
  · rw [hevent]
    exact (Admission.step_stopping hstop event).1

/-- The shutdown handler runs once: a server that is stopping cancels nothing. -/
theorem serve_stopping (h : P.server.Inv maximumSessions true)
    (hstop : P.server.server.stopping = true) (event : ServerEvent ι) :
    P.serve event = { P with server := P.server.step event } := by
  have hbefore := h.shutdowns hstop
  have hafter := (h.step event).shutdowns (Admission.step_stopping hstop event).1
  rw [serve, if_neg (by omega)]

/-- The step with which the server begins to stop cancels both waits. -/
theorem serve_stops (h : P.server.Inv maximumSessions true)
    (hrun : P.server.server.stopping = false) {event : ServerEvent ι}
    (hstop : (P.serve event).server.server.stopping = true) :
    (P.serve event).metricsWait = ProcessWait.cancel P.metricsWait ∧
      (P.serve event).signalWait = ProcessWait.cancel P.signalWait := by
  rw [serve_server] at hstop
  have hbefore := (h.waiting hrun).2
  have hafter := (h.step event).shutdowns hstop
  have hruns : P.server.shutdowns < (P.server.step event).shutdowns := by
    rw [hbefore, hafter]
    decide
  rw [serve, if_pos hruns]
  exact ⟨rfl, rfl⟩

theorem Inv.stops (h : P.Inv maximumSessions) (hrun : P.server.server.stopping = false)
    {e : ProcessEvent ι} (hstop : (P.step e).server.server.stopping = true) :
    (P.step e).metricsWait = ProcessWait.cancel P.metricsWait ∧
      (P.step e).signalWait = ProcessWait.cancel P.signalWait := by
  have hno (hsame : (P.step e).server = P.server) : False := by
    rw [hsame, hrun] at hstop
    cases hstop
  cases e with
  | server event => exact serve_stops h.server hrun hstop
  | stopPosted =>
    rw [ServerProcess.step] at hstop hno ⊢
    split
    · rename_i hposted
      rw [if_pos hposted] at hstop
      exact serve_stops (P := { P with stops := P.stops - 1 }) h.server hrun hstop
    · rename_i hposted
      exact (hno (by rw [if_neg hposted])).elim
  | reloadPosted valid =>
    refine (hno ?_).elim
    rw [ServerProcess.step]
    split <;> rfl
  | metricsTimer =>
    refine (hno ?_).elim
    rw [ServerProcess.step]
    split <;> rfl
  | metricsHandler =>
    refine (hno ?_).elim
    rw [ServerProcess.step, handleMetrics]
    split <;> rfl
  | signal signal =>
    refine (hno ?_).elim
    rw [ServerProcess.step]
    split <;> rfl
  | signalHandler =>
    refine (hno ?_).elim
    rw [ServerProcess.step, handleSignal]
    split <;> rfl

/-- The metrics go on being printed. -/
def Looping (P : ServerProcess ι) : Prop :=
  P.metricsWait = some .waiting ∨ P.metricsWait = some (.fired ())

/-- A signal goes on being waited for. -/
def Listening (P : ServerProcess ι) : Prop :=
  P.signalWait = some .waiting ∨ P.signalWait = some (.fired .hangup)

omit [DecidableEq ι] in
theorem looping_iff_of_cancel {P' : ServerProcess ι}
    (h : P'.metricsWait = ProcessWait.cancel P.metricsWait) :
    P'.Looping ↔ P.metricsWait = some (.fired ()) := by
  rw [Looping, h]
  cases P.metricsWait with
  | none => simp [ProcessWait.cancel]
  | some w => cases w <;> simp [ProcessWait.cancel]

omit [DecidableEq ι] in
theorem listening_iff_of_cancel {P' : ServerProcess ι}
    (h : P'.signalWait = ProcessWait.cancel P.signalWait) :
    P'.Listening ↔ P.signalWait = some (.fired .hangup) := by
  rw [Listening, h]
  cases P.signalWait with
  | none => simp [ProcessWait.cancel]
  | some w => cases w <;> simp [ProcessWait.cancel]

/-- What a step does to the wait for the metrics once the server is stopping. -/
theorem Inv.metrics_step (h : P.Inv maximumSessions) (hstop : P.server.server.stopping = true)
    (e : ProcessEvent ι) : ((P.step e).Looping ↔ P.Looping) ∧
      (¬P.Looping → (P.step e).metricsWait = P.metricsWait ∨ (P.step e).metricsWait = none) := by
  have hsame (heq : (P.step e).metricsWait = P.metricsWait) : ((P.step e).Looping ↔ P.Looping) ∧
      (¬P.Looping → (P.step e).metricsWait = P.metricsWait ∨ (P.step e).metricsWait = none) := by
    refine ⟨?_, fun _ => .inl heq⟩
    rw [Looping, Looping, heq]
  cases e with
  | server event =>
    apply hsame
    rw [ServerProcess.step, serve_stopping h.server hstop]
  | stopPosted =>
    apply hsame
    rw [ServerProcess.step]
    split
    · rw [serve_stopping (P := { P with stops := P.stops - 1 }) h.server hstop]
    · rfl
  | reloadPosted valid =>
    apply hsame
    rw [ServerProcess.step]
    split <;> rfl
  | metricsTimer =>
    rw [ServerProcess.step]
    split
    · rename_i hwait
      simp [Looping, hwait]
    · exact ⟨Iff.rfl, fun _ => .inl rfl⟩
  | metricsHandler =>
    rw [ServerProcess.step, handleMetrics]
    split
    · rename_i hwait
      have hinterval : P.metricsInterval ≠ 0 := h.timed (by simp [hwait])
      simp [Looping, hwait, scheduleMetrics, hinterval]
    · rename_i hwait
      simp [Looping, hwait]
    · exact ⟨Iff.rfl, fun _ => .inl rfl⟩
  | signal signal =>
    apply hsame
    rw [ServerProcess.step]
    split <;> rfl
  | signalHandler =>
    apply hsame
    rw [ServerProcess.step, handleSignal]
    split <;> rfl

/-- What a step does to the wait for a signal once the server is stopping. -/
theorem Inv.signal_step (h : P.Inv maximumSessions) (hstop : P.server.server.stopping = true)
    (e : ProcessEvent ι) :
    ((∀ signal, e ≠ .signal signal) → ((P.step e).Listening ↔ P.Listening)) ∧
      (¬P.Listening → ¬(P.step e).Listening ∧
        ((P.step e).signalWait = P.signalWait ∨ (P.step e).signalWait = none)) := by
  have hsame (heq : (P.step e).signalWait = P.signalWait) :
      ((∀ signal, e ≠ .signal signal) → ((P.step e).Listening ↔ P.Listening)) ∧
        (¬P.Listening → ¬(P.step e).Listening ∧
          ((P.step e).signalWait = P.signalWait ∨ (P.step e).signalWait = none)) := by
    have hiff : (P.step e).Listening ↔ P.Listening := by rw [Listening, Listening, heq]
    exact ⟨fun _ => hiff, fun hno => ⟨hiff.not.mpr hno, .inl heq⟩⟩
  cases e with
  | server event =>
    apply hsame
    rw [ServerProcess.step, serve_stopping h.server hstop]
  | stopPosted =>
    apply hsame
    rw [ServerProcess.step]
    split
    · rw [serve_stopping (P := { P with stops := P.stops - 1 }) h.server hstop]
    · rfl
  | reloadPosted valid =>
    apply hsame
    rw [ServerProcess.step]
    split <;> rfl
  | metricsTimer =>
    apply hsame
    rw [ServerProcess.step]
    split <;> rfl
  | metricsHandler =>
    apply hsame
    rw [ServerProcess.step, handleMetrics]
    split <;> rfl
  | signal signal =>
    refine ⟨fun hno => absurd rfl (hno signal), fun hno => ?_⟩
    have hwait : P.signalWait ≠ some .waiting := fun hwait => hno (.inl hwait)
    rw [ServerProcess.step, if_neg hwait]
    exact ⟨hno, .inl rfl⟩
  | signalHandler =>
    rw [ServerProcess.step, handleSignal]
    split
    · rename_i hwait
      simp [Listening, hwait]
    · rename_i signal hnot hwait
      cases signal with
      | hangup => exact absurd rfl hnot
      | interrupt => simp [Listening, hwait]
      | terminate => simp [Listening, hwait]
    · rename_i hwait
      simp [Listening, hwait]
    · exact ⟨fun _ => Iff.rfl, fun hno => ⟨hno, .inl rfl⟩⟩

theorem stopping_run (h : P.Inv maximumSessions) (hstop : P.server.server.stopping = true)
    (later : List (ProcessEvent ι)) :
    (Run.run step P later).Inv maximumSessions ∧
      (Run.run step P later).server.server.stopping = true :=
  Run.invariant (P := fun P : ServerProcess ι => P.Inv maximumSessions ∧
    P.server.server.stopping = true) (fun _ e h => ⟨h.1.step e, step_stopping h.2 e⟩) ⟨h, hstop⟩
    later

/-- Whether the metrics go on, and without further signals whether one is waited for, is settled
when the server begins to stop. -/
theorem Inv.waits_run (h : P.Inv maximumSessions) (hstop : P.server.server.stopping = true)
    {later : List (ProcessEvent ι)} (hquiet : ∀ signal, .signal signal ∉ later) :
    ((Run.run ServerProcess.step P later).Looping ↔ P.Looping) ∧
      ((Run.run ServerProcess.step P later).Listening ↔ P.Listening) := by
  induction later generalizing P with
  | nil => exact ⟨Iff.rfl, Iff.rfl⟩
  | cons e later ih =>
    have hfirst : ∀ signal, e ≠ .signal signal := by
      intro signal he
      exact hquiet signal (he ▸ List.mem_cons_self)
    obtain ⟨hloop, hlisten⟩ := ih (h.step e) (step_stopping hstop e)
      fun signal hsignal => hquiet signal (List.mem_cons_of_mem _ hsignal)
    rw [Run.run_cons]
    exact ⟨hloop.trans (h.metrics_step hstop e).1,
      hlisten.trans ((h.signal_step hstop e).1 hfirst)⟩

/-- The last handler of metrics that do not go on leaves no wait behind. -/
theorem Inv.metrics_end (h : P.Inv maximumSessions) (hstop : P.server.server.stopping = true)
    (hno : ¬P.Looping) {later : List (ProcessEvent ι)} (hlater : .metricsHandler ∈ later) :
    (Run.run ServerProcess.step P later).metricsWait = none := by
  refine Run.eq_none_of_mem (P := fun P : ServerProcess ι => P.Inv maximumSessions ∧
    P.server.server.stopping = true ∧ ¬P.Looping) (fun Q e hQ => ?_) (fun Q hQ => ?_)
    ⟨h, hstop, hno⟩ hlater
  · obtain ⟨hinv, hs, hq⟩ := hQ
    obtain ⟨hiff, hwait⟩ := hinv.metrics_step hs e
    exact ⟨⟨hinv.step e, step_stopping hs e, hiff.not.mpr hq⟩, hwait hq⟩
  · obtain ⟨-, -, hq⟩ := hQ
    rw [ServerProcess.step, handleMetrics]
    split
    · rename_i hwait
      exact absurd (.inr hwait) hq
    · rfl
    · rename_i hfired haborted
      cases hw : Q.metricsWait with
      | none => rfl
      | some w =>
        cases w with
        | waiting => exact absurd (.inl hw) hq
        | fired result => exact absurd hw (hfired ·)
        | aborted => exact absurd hw (haborted ·)

/-- The same for the signals. -/
theorem Inv.signal_end (h : P.Inv maximumSessions) (hstop : P.server.server.stopping = true)
    (hno : ¬P.Listening) {later : List (ProcessEvent ι)} (hlater : .signalHandler ∈ later) :
    (Run.run ServerProcess.step P later).signalWait = none := by
  refine Run.eq_none_of_mem (P := fun P : ServerProcess ι => P.Inv maximumSessions ∧
    P.server.server.stopping = true ∧ ¬P.Listening) (fun Q e hQ => ?_) (fun Q hQ => ?_)
    ⟨h, hstop, hno⟩ hlater
  · obtain ⟨hinv, hs, hq⟩ := hQ
    obtain ⟨hnot, hwait⟩ := (hinv.signal_step hs e).2 hq
    exact ⟨⟨hinv.step e, step_stopping hs e, hnot⟩, hwait⟩
  · obtain ⟨-, -, hq⟩ := hQ
    rw [ServerProcess.step, handleSignal]
    split
    · rename_i hwait
      exact absurd (.inr hwait) hq
    · rfl
    · rfl
    · rename_i hfired haborted
      cases hw : Q.signalWait with
      | none => rfl
      | some w =>
        cases w with
        | waiting => exact absurd (.inl hw) hq
        | fired signal => exact absurd hw (hfired signal)
        | aborted => exact absurd hw (haborted ·)

/-- How many handlers the session `i` has before it until it has left. -/
def remaining (i : ι) (P : ServerProcess ι) : Nat := P.server.remaining i

theorem lowers_leaving (i : ι) : Run.Lowers step (fun P : ServerProcess ι =>
    P.Inv maximumSessions ∧ P.server.server.stopping = true) (remaining i) (leaving i) := by
  have hpart (P : ServerProcess ι) (event : ServerEvent ι) :
      (step P (.server event)).server = Admission.step P.server event := serve_server P event
  exact Run.Lowers.whole (fun _ h => ⟨h.1.server, h.2⟩) hpart (Admission.lowers_leaving i)

/-- Once the sessions of a stopping server have left it, it is drained. -/
theorem Inv.drained (h : P.Inv maximumSessions) (hstop : P.server.server.stopping = true)
    {later : List (ProcessEvent ι)}
    (hleave : ∀ i ∈ P.server.server.sessions, Run.Visits ServerProcess.step (leaving i) P later) :
    (Run.run ServerProcess.step P later).server.Drained := by
  obtain ⟨hend, -⟩ := stopping_run h hstop later
  refine hend.server.drained hend.objects fun i => Admission.remaining_eq_zero.mp ?_
  have hrank (Q : ServerProcess ι) (e : ProcessEvent ι)
      (hQ : Q.Inv maximumSessions ∧ Q.server.server.stopping = true) :
      ((Q.step e).Inv maximumSessions ∧ (Q.step e).server.server.stopping = true) ∧
        remaining i (Q.step e) ≤ remaining i Q := by
    refine ⟨⟨hQ.1.step e, step_stopping hQ.2 e⟩, ?_⟩
    rw [remaining, remaining]
    obtain hsame | ⟨event, hevent⟩ := step_server Q e
    · rw [hsame]
    · rw [hevent]
      exact hQ.1.server.remaining_step hQ.2 event i
  by_cases hi : i ∈ P.server.server.sessions
  · exact Run.rank_eq_zero hrank (lowers_leaving i) ⟨h, hstop⟩
      (by simpa [leaving, remaining] using Admission.remaining_le P.server i) (hleave i hi)
  · have hnone : P.server.server.session i = none := h.server.session_none hi
    exact Run.rank_stays_zero hrank ⟨h, hstop⟩ (Admission.remaining_none hnone) later

omit [DecidableEq ι] in
theorem inv_start {m : LeaseManager} (h : m.Inv) (hm : ∀ id, m.entry id = none)
    (maximumSessions metricsInterval : Nat) :
    (start m maximumSessions metricsInterval : ServerProcess ι).Inv maximumSessions where
  server := Admission.inv_start m maximumSessions true
  objects := TlsTunnelServer.inv_start h hm maximumSessions
  timed := scheduleMetrics_timed

/-- The process of a server that has begun to stop runs out of work, once every handler that is left
has run and no further signal comes, exactly if the metrics timer had not fired and no hangup was
being handled when the shutdown handler cancelled the waits. -/
theorem exits_iff {first last gateway : Ipv4Address} {prefixLength : UInt8} {mtu : UInt16}
    {duration : Int} {v6Prefix v6Gateway : Ipv6Address} {v6Length : UInt8} {m₀ : LeaseManager}
    (h₀ : LeaseManager.create first last gateway prefixLength mtu duration v6Prefix v6Gateway
      v6Length = .ok m₀) (maximumSessions metricsInterval : Nat) (es : List (ProcessEvent ι))
    (e : ProcessEvent ι) :
    let P := Run.run step (start m₀ maximumSessions metricsInterval) es
    let P' := P.step e
    P.server.server.stopping = false → P'.server.server.stopping = true →
      ∀ later, (∀ signal, .signal signal ∉ later) → .metricsHandler ∈ later →
        .signalHandler ∈ later →
        (∀ i ∈ P'.server.server.sessions, Run.Visits step (leaving i) P' later) →
        (Run.run step P' later).stops = 0 → (Run.run step P' later).reloads = 0 →
        ((Run.run step P' later).Idle ↔
          P.metricsWait ≠ some (.fired ()) ∧ P.signalWait ≠ some (.fired .hangup)) := by
  intro P P' hrun hstop later hquiet hmetrics hsignal hleave hstops hreloads
  have hinv : P.Inv maximumSessions := by
    apply Inv.run
    apply inv_start (LeaseManager.inv_create h₀)
    intro id
    rw [(LeaseManager.create_ok_iff.mp h₀).1]
    rfl
  have hinv' : P'.Inv maximumSessions := hinv.step e
  obtain ⟨hmetricsWait, hsignalWait⟩ := hinv.stops hrun hstop
  have hlooping : P'.Looping ↔ P.metricsWait = some (.fired ()) :=
    looping_iff_of_cancel hmetricsWait
  have hlistening : P'.Listening ↔ P.signalWait = some (.fired .hangup) :=
    listening_iff_of_cancel hsignalWait
  obtain ⟨hloop, hlisten⟩ := hinv'.waits_run hstop hquiet
  rw [ne_eq, ne_eq, ← hlooping, ← hlistening]
  constructor
  · intro hidle
    refine ⟨fun hno => ?_, fun hno => ?_⟩
    · obtain hw | hw := hloop.mpr hno <;> simp [hidle.metricsWait] at hw
    · obtain hw | hw := hlisten.mpr hno <;> simp [hidle.signalWait] at hw
  · intro hnot
    exact ⟨hinv'.drained hstop hleave, hinv'.metrics_end hstop hnot.1 hmetrics,
      hinv'.signal_end hstop hnot.2 hsignal, hstops, hreloads⟩

/-- A process that is told to stop while one session is established, and what runs then. -/
def terminated (before : List (ProcessEvent Unit)) : ServerProcess Unit :=
  Run.run step (start (LeaseManager.singleManager 1) 8 30)
    ((TlsTunnelServer.greet () (text "c")).map .server ++ [.server (.session () (.frame 0))] ++
      [.signal .terminate, .signalHandler] ++ before)

def lastHandlers : List (ProcessEvent Unit) :=
  [.metricsHandler] ++ Admission.lastHandlers.map .server ++ [.signalHandler]

theorem terminated_leaves {P : ServerProcess Unit} (hidle : ((P.step
    .metricsHandler).server.server.session ()).map (·.inbound) = some []) (i : Unit) :
    Run.Visits step (leaving i) P lastHandlers := by
  have hfirst (s : TlsTunnelSession)
      (hs : (P.step .metricsHandler).server.server.session () = some s) : s.inbound = [] := by
    rw [hs] at hidle
    exact Option.some.inj hidle
  exact .inr (.inl ⟨⟨_, rfl, rfl, hfirst⟩, .inl ⟨⟨_, rfl, rfl⟩,
    .inr (.inl ⟨⟨_, rfl, rfl⟩, .inl ⟨⟨_, rfl, rfl⟩, trivial⟩⟩)⟩⟩)

/-- The process ends where the metrics timer has not fired, and does not end where it has. -/
theorem exits_iff_terminated :
    (Run.run step ((terminated []).step .stopPosted) lastHandlers).Idle ∧
      ¬(Run.run step ((terminated [.metricsTimer]).step .stopPosted) lastHandlers).Idle := by
  have hquiet (signal : Signal) : .signal signal ∉ lastHandlers := by
    simp [lastHandlers, Admission.lastHandlers]
  have hmetrics : .metricsHandler ∈ lastHandlers := by simp [lastHandlers]
  have hsignal : .signalHandler ∈ lastHandlers := by simp [lastHandlers]
  constructor
  · refine (exits_iff LeaseManager.create_single 8 30 _ .stopPosted (by decide +kernel)
      (by decide +kernel) lastHandlers hquiet hmetrics hsignal
      (fun i _ => terminated_leaves (by decide +kernel) i) (by decide +kernel)
      (by decide +kernel)).mpr ?_
    decide +kernel
  · intro hidle
    have hnot := (exits_iff LeaseManager.create_single 8 30 _ .stopPosted (by decide +kernel)
      (by decide +kernel) lastHandlers hquiet hmetrics hsignal
      (fun i _ => terminated_leaves (by decide +kernel) i) (by decide +kernel)
      (by decide +kernel)).mp hidle
    exact hnot.1 (by decide +kernel)

end ServerProcess

end PersonalVpn.Server
