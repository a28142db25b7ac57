import PersonalVpn.Client.RuntimeIo

/-! What the functions of a runtime can do. -/

namespace PersonalVpn.Client

open PersonalVpn.Core Protocol

theorem ClientRuntime.finishOnIo_finished (R : ClientRuntime) :
    R.finishOnIo.finished = true ∧
      R.finishOnIo.connectionGeneration = R.connectionGeneration := by
  simp only [ClientRuntime.finishOnIo, ClientRuntime.transition]
  split_ifs with hf
  · exact ⟨hf, rfl⟩
  · exact ⟨rfl, rfl⟩
  · exact ⟨rfl, rfl⟩
  · exact ⟨rfl, rfl⟩

namespace RuntimeIo

variable {σ : Type} {backend : ClientNetworkBackend σ} {parsers : AddressParsers}
  {platform : Platform} {w : RuntimeIo σ}

/-- The ways `handle_resolve` can go. -/
inductive Resolved (backend : ClientNetworkBackend σ) (w : RuntimeIo σ) (generation : UInt64)
    (endpoints : List Endpoint) (draw : Nat) : RuntimeIo σ → Prop where
  | stale (other : generation ≠ w.runtime.connectionGeneration) :
      Resolved backend w generation endpoints draw w
  | stopped (current : generation = w.runtime.connectionGeneration) :
      Resolved backend w generation endpoints draw (w.finishOnIo backend)
  | failed (current : generation = w.runtime.connectionGeneration) (reason : Bytes) :
      Resolved backend w generation endpoints draw (w.retryOnIo backend reason draw)
  | refused (current : generation = w.runtime.connectionGeneration)
      (full : requestsFullTunnel w.config = true) (message : Bytes) :
      Resolved backend w generation endpoints draw
        ((w.recordFailure message).finishOnIo backend)
  | guarded (current : generation = w.runtime.connectionGeneration)
      (full : requestsFullTunnel w.config = true) :
      Resolved backend w generation endpoints draw
        ((w.act (.enableKillSwitch (endpoints.map Endpoint.toWindows))).asyncConnect generation)
  | split (current : generation = w.runtime.connectionGeneration)
      (notFull : requestsFullTunnel w.config = false) :
      Resolved backend w generation endpoints draw (w.asyncConnect generation)

variable (backend platform w) in
theorem handleResolve_cases (generation : UInt64) (error : Option Bytes)
    (endpoints : List Endpoint) (killSwitch : Except Exception Unit) (draw : Nat) :
    Resolved backend w generation endpoints draw
      (w.handleResolve backend platform generation error endpoints killSwitch draw) := by
  by_cases hg : generation = w.runtime.connectionGeneration
  · unfold handleResolve
    rw [if_neg (not_not_intro hg)]
    by_cases hs : w.runtime.stopRequested = true
    · rw [if_pos hs]
      exact .stopped hg
    rw [if_neg hs]
    cases error with
    | some message => exact .failed hg _
    | none =>
      by_cases hfull : requestsFullTunnel w.config = true
      · simp only [if_pos hfull]
        cases platform with
        | other => exact .refused hg hfull _
        | windows failClosedBackend =>
          cases failClosedBackend with
          | false => exact .refused hg hfull _
          | true =>
            cases killSwitch with
            | error failure => exact .refused hg hfull _
            | ok u => exact .guarded hg hfull
      · simp only [if_neg hfull]
        exact .split hg (by simpa using hfull)
  · unfold handleResolve
    rw [if_pos hg]
    exact .stale hg

/-- The ways `handle_connect` can go. -/
inductive Connected (backend : ClientNetworkBackend σ) (w : RuntimeIo σ) (generation : UInt64)
    (draw : Nat) : RuntimeIo σ → Prop where
  | stale (other : generation ≠ w.runtime.connectionGeneration) :
      Connected backend w generation draw w
  | stopped (current : generation = w.runtime.connectionGeneration) :
      Connected backend w generation draw (w.finishOnIo backend)
  | failed (current : generation = w.runtime.connectionGeneration) (reason : Bytes) :
      Connected backend w generation draw (w.retryOnIo backend reason draw)
  | tunnel (current : generation = w.runtime.connectionGeneration) :
      Connected backend w generation draw
        { w with
          tunnel := some w.tunnels.length
          tunnels := w.tunnels ++ [{ generation }]
          pendingStream := false }

variable (backend w) in
theorem handleConnect_cases (generation : UInt64) (error : Option Bytes) (draw : Nat) :
    Connected backend w generation draw (w.handleConnect backend generation error draw) := by
  by_cases hg : generation = w.runtime.connectionGeneration
  · unfold handleConnect
    rw [if_neg (not_not_intro hg)]
    by_cases hs : w.runtime.stopRequested = true
    · rw [if_pos hs]
      exact .stopped hg
    rw [if_neg hs]
    cases error with
    | some message => exact .failed hg _
    | none => exact .tunnel hg
  · unfold handleConnect
    rw [if_pos hg]
    exact .stale hg

/-- The ways `on_tunnel_closed` can go. -/
inductive TunnelEnded (backend : ClientNetworkBackend σ) (w : RuntimeIo σ) (generation : UInt64)
    (draw : Nat) : RuntimeIo σ → Prop where
  | stale (other : generation ≠ w.runtime.connectionGeneration) :
      TunnelEnded backend w generation draw w
  | stopped (current : generation = w.runtime.connectionGeneration) :
      TunnelEnded backend w generation draw (w.finishOnIo backend)
  | failed (current : generation = w.runtime.connectionGeneration) (message : Bytes) :
      TunnelEnded backend w generation draw ((w.recordFailure message).finishOnIo backend)
  | retried (current : generation = w.runtime.connectionGeneration) (reason : Bytes) :
      TunnelEnded backend w generation draw (w.retryOnIo backend reason draw)

theorem recordFailure_ne_nil (w : RuntimeIo σ) {message : Bytes} (h : message ≠ []) :
    (w.recordFailure message).runtime.failureMessage ≠ [] := by
  simp only [recordFailure, ClientRuntime.recordFailure]
  split_ifs with hempty
  · exact h
  · exact hempty

variable (backend w) in
theorem onTunnelClosed_cases (generation : UInt64) (remoteError : Option ErrorMessage)
    (retryable : Bool) (draw : Nat) : TunnelEnded backend w generation draw
      (w.onTunnelClosed backend generation remoteError retryable draw) := by
  by_cases hg : generation = w.runtime.connectionGeneration
  · unfold onTunnelClosed
    rw [if_neg (not_not_intro hg)]
    by_cases hs : w.runtime.intentionalStop = true ∨ w.runtime.stopRequested = true
    · rw [if_pos hs]
      exact .stopped hg
    rw [if_neg hs]
    have hend : TunnelEnded backend w generation draw
        (if w.runtime.failureMessage ≠ [] then w.finishOnIo backend
          else w.retryOnIo backend (text "VPN transport closed unexpectedly") draw) := by
      by_cases hm : w.runtime.failureMessage = []
      · rw [if_neg (not_not_intro hm)]
        exact .retried hg _
      · rw [if_pos hm]
        exact .stopped hg
    cases remoteError with
    | some e =>
      have hm := ClientRuntime.text_append_ne_nil
        (s := "server rejected the session with error code ") (by decide) (toText e.code.toNat)
      dsimp only
      rw [if_pos (w.recordFailure_ne_nil hm)]
      exact .failed hg _
    | none =>
      cases retryable with
      | true => exact hend
      | false =>
        have hm : text "VPN tunnel closed because of a non-retryable TLS or protocol error" ≠ [] := by
          decide
        dsimp only
        rw [if_pos (c := (!false) = true) rfl, if_pos (w.recordFailure_ne_nil hm)]
        exact .failed hg _
  · unfold onTunnelClosed
    rw [if_pos hg]
    exact .stale hg

/-- The waits on the connection timer that are left when the handler of an event runs. -/
def waitsAfter (w : RuntimeIo σ) : RuntimeEvent → List UInt64
  | .connectionTimer generation _ _ =>
    if w.ioStopped then w.connectionWaits else w.connectionWaits.erase generation
  | _ => w.connectionWaits

/-- `w'` is `w` once the operation that an event completes is no longer outstanding. -/
structure Settled (w : RuntimeIo σ) (event : RuntimeEvent) (w' : RuntimeIo σ) : Prop where
  config : w'.config = w.config
  runtime : w'.runtime = w.runtime
  network : w'.network = w.network
  actions : w'.actions = w.actions
  ioStopped : w'.ioStopped = w.ioStopped
  connectionWaits : w'.connectionWaits = w.waitsAfter event

/-- What an event comes to: nothing more, or the function that its handler calls. -/
inductive Ran (backend : ClientNetworkBackend σ) (parsers : AddressParsers) (w : RuntimeIo σ) :
    RuntimeEvent → RuntimeIo σ → Prop where
  | settled {event : RuntimeEvent} {w' : RuntimeIo σ} (settled : Settled w event w') :
      Ran backend parsers w event w'
  | begun {event : RuntimeEvent} {w₁ : RuntimeIo σ} (settled : Settled w event w₁) :
      Ran backend parsers w event (w₁.beginConnect backend)
  | finished {event : RuntimeEvent} {w₁ : RuntimeIo σ} (settled : Settled w event w₁) :
      Ran backend parsers w event (w₁.finishOnIo backend)
  | failed {event : RuntimeEvent} {w₁ : RuntimeIo σ} (settled : Settled w event w₁)
      (message : Bytes) :
      Ran backend parsers w event ((w₁.recordFailure message).finishOnIo backend)
  | retried {event : RuntimeEvent} {w₁ : RuntimeIo σ} (settled : Settled w event w₁)
      (reason : Bytes) (draw : Nat) :
      Ran backend parsers w event (w₁.retryOnIo backend reason draw)
  | guarded {event : RuntimeEvent} {w₁ : RuntimeIo σ} (settled : Settled w event w₁)
      (endpoints : List WindowsVpnEndpoint) (generation : UInt64) :
      Ran backend parsers w event ((w₁.act (.enableKillSwitch endpoints)).asyncConnect generation)
  | connecting {event : RuntimeEvent} {w₁ : RuntimeIo σ} (settled : Settled w event w₁)
      (generation : UInt64) : Ran backend parsers w event (w₁.asyncConnect generation)
  | tunnel {event : RuntimeEvent} {w₁ : RuntimeIo σ} (settled : Settled w event w₁)
      (generation : UInt64) : Ran backend parsers w event { w₁ with
        tunnel := some w₁.tunnels.length
        tunnels := w₁.tunnels ++ [{ generation }]
        pendingStream := false }
  | configured {i : Nat} {t : RuntimeTunnel} {assignment : IpAssignment} {w₁ : RuntimeIo σ}
      (settled : Settled w (.assignment i assignment) w₁) (tunnel : w.tunnels[i]? = some t)
      (first : t.assigned = false ∧ t.closed = false)
      (current : t.generation = w.runtime.connectionGeneration) :
      Ran backend parsers w (.assignment i assignment)
        (w₁.configureNetwork backend parsers assignment).2
  | delivered (i : Nat) (packet : Bytes) (failure : Option Bytes) :
      Ran backend parsers w (.packet i packet failure) (w.deliverToPacketDevice packet failure)
  | stopping : Ran backend parsers w .stop w.stop
  | readerFailed (what : Bytes) : Ran backend parsers w (.readerFailed what) (w.readerFailed what)

/-- An event that finds nothing outstanding. -/
theorem Settled.same (w : RuntimeIo σ) {event : RuntimeEvent}
    (hwaits : w.waitsAfter event = w.connectionWaits) : Settled w event w :=
  ⟨rfl, rfl, rfl, rfl, rfl, hwaits.symm⟩

/-- An event whose operation is not outstanding comes to nothing. -/
theorem Ran.idle (w : RuntimeIo σ) {event : RuntimeEvent}
    (hwaits : w.waitsAfter event = w.connectionWaits) : Ran backend parsers w event w :=
  .settled (.same w hwaits)

theorem ran_resolve (w : RuntimeIo σ) (g : UInt64) (error : Option Bytes)
    (endpoints : List Endpoint) (killSwitch : Except Exception Unit) (draw : Nat) :
    Ran backend parsers w (.resolve g error endpoints killSwitch draw)
      (w.handle backend parsers platform (.resolve g error endpoints killSwitch draw)) := by
  rw [handle]
  split
  · have hsettled : Settled w (.resolve g error endpoints killSwitch draw)
        { w with resolves := w.resolves.erase g } := ⟨rfl, rfl, rfl, rfl, rfl, rfl⟩
    generalize { w with resolves := w.resolves.erase g } = w₁ at hsettled ⊢
    have hcases := handleResolve_cases backend platform w₁ g error endpoints killSwitch draw
    generalize w₁.handleResolve backend platform g error endpoints killSwitch draw = v at hcases ⊢
    cases hcases with
    | stale => exact .settled hsettled
    | stopped => exact .finished hsettled
    | failed current reason => exact .retried hsettled reason draw
    | refused current full message => exact .failed hsettled message
    | guarded => exact .guarded hsettled _ g
    | split => exact .connecting hsettled g
  · exact .idle w rfl

theorem ran_connect (w : RuntimeIo σ) (g : UInt64) (error : Option Bytes) (draw : Nat) :
    Ran backend parsers w (.connect g error draw)
      (w.handle backend parsers platform (.connect g error draw)) := by
  rw [handle]
  split
  · have hsettled : Settled w (.connect g error draw)
        { w with connects := w.connects.erase g } := ⟨rfl, rfl, rfl, rfl, rfl, rfl⟩
    generalize { w with connects := w.connects.erase g } = w₁ at hsettled ⊢
    have hcases := handleConnect_cases backend w₁ g error draw
    generalize w₁.handleConnect backend g error draw = v at hcases ⊢
    cases hcases with
    | stale => exact .settled hsettled
    | stopped => exact .finished hsettled
    | failed current reason => exact .retried hsettled reason draw
    | tunnel => exact .tunnel hsettled g
  · exact .idle w rfl

theorem ran_connectionTimer (w : RuntimeIo σ) (hio : w.ioStopped = false) (g : UInt64)
    (error : Bool) (draw : Nat) :
    Ran backend parsers w (.connectionTimer g error draw)
      (w.handle backend parsers platform (.connectionTimer g error draw)) := by
  have hwaits : w.waitsAfter (.connectionTimer g error draw) = w.connectionWaits.erase g := by
    simp [waitsAfter, hio]
  rw [handle]
  split
  · have hsettled : Settled w (.connectionTimer g error draw)
        { w with connectionWaits := w.connectionWaits.erase g } :=
      ⟨rfl, rfl, rfl, rfl, rfl, hwaits.symm⟩
    unfold onConnectionTimer
    split
    · exact .retried hsettled _ draw
    · exact .settled hsettled
  · rename_i hg
    exact .idle w (hwaits.trans (List.erase_of_not_mem hg))

theorem ran_reconnectTimer (w : RuntimeIo σ) (error : Bool) :
    Ran backend parsers w (.reconnectTimer error)
      (w.handle backend parsers platform (.reconnectTimer error)) := by
  rw [handle]
  split
  · have hsettled : Settled w (.reconnectTimer error)
        { w with reconnectWaits := w.reconnectWaits - 1 } := ⟨rfl, rfl, rfl, rfl, rfl, rfl⟩
    unfold onReconnectTimer
    split
    · exact .begun hsettled
    · split
      · exact .finished hsettled
      · exact .settled hsettled
  · exact .idle w rfl

theorem ran_assignment (w : RuntimeIo σ) (i : Nat) (assignment : IpAssignment) :
    Ran backend parsers w (.assignment i assignment)
      (w.handle backend parsers platform (.assignment i assignment)) := by
  rw [handle]
  cases hi : w.tunnels[i]? with
  | none => exact .idle w rfl
  | some t =>
    dsimp only
    split
    · exact .idle w rfl
    · rename_i hdone
      have hfirst : t.assigned = false ∧ t.closed = false := by simpa using hdone
      have hsettled : Settled w (.assignment i assignment)
          { w with tunnels := w.tunnels.set i { t with assigned := true } } :=
        ⟨rfl, rfl, rfl, rfl, rfl, rfl⟩
      unfold onAssignment
      split
      · rename_i hcurrent
        exact .configured hsettled hi hfirst hcurrent
      · exact .settled hsettled

theorem ran_packet (w : RuntimeIo σ) (i : Nat) (packet : Bytes) (failure : Option Bytes) :
    Ran backend parsers w (.packet i packet failure)
      (w.handle backend parsers platform (.packet i packet failure)) := by
  rw [handle]
  cases hi : w.tunnels[i]? with
  | none => exact .idle w rfl
  | some t =>
    dsimp only
    unfold onPacket
    split
    · exact .idle w rfl
    · split
      · exact .delivered i packet failure
      · exact .idle w rfl

theorem ran_tunnelClosed (w : RuntimeIo σ) (i : Nat) (remoteError : Option ErrorMessage)
    (retryable : Bool) (draw : Nat) :
    Ran backend parsers w (.tunnelClosed i remoteError retryable draw)
      (w.handle backend parsers platform (.tunnelClosed i remoteError retryable draw)) := by
  rw [handle]
  cases hi : w.tunnels[i]? with
  | none => exact .idle w rfl
  | some t =>
    dsimp only
    split
    · exact .idle w rfl
    · have hsettled : Settled w (.tunnelClosed i remoteError retryable draw)
          { w with tunnels := w.tunnels.set i { t with closed := true } } :=
        ⟨rfl, rfl, rfl, rfl, rfl, rfl⟩
      generalize { w with tunnels := w.tunnels.set i { t with closed := true } } = w₁
        at hsettled ⊢
      have hcases := onTunnelClosed_cases backend w₁ t.generation remoteError retryable draw
      generalize w₁.onTunnelClosed backend t.generation remoteError retryable draw = v at hcases ⊢
      cases hcases with
      | stale => exact .settled hsettled
      | stopped => exact .finished hsettled
      | failed current message => exact .failed hsettled message
      | retried current reason => exact .retried hsettled reason draw

theorem ran_stopHandler (w : RuntimeIo σ) :
    Ran backend parsers w .stopHandler (w.handle backend parsers platform .stopHandler) := by
  rw [handle]
  split
  · have hsettled : Settled w .stopHandler { w with stopPosted := w.stopPosted - 1 } :=
      ⟨rfl, rfl, rfl, rfl, rfl, rfl⟩
    unfold onStop
    split
    · exact .settled hsettled
    · exact .finished hsettled
  · exact .idle w rfl

variable (backend parsers platform) in
theorem handle_cases (w : RuntimeIo σ) (hio : w.ioStopped = false) {event : RuntimeEvent}
    (hstop : event ≠ .stop) (hreader : ∀ what, event ≠ .readerFailed what) :
    Ran backend parsers w event (w.handle backend parsers platform event) := by
  cases event with
  | begin =>
    rw [handle]
    split
    · exact .begun ⟨rfl, rfl, rfl, rfl, rfl, rfl⟩
    · exact .idle w rfl
  | resolve g error endpoints killSwitch draw =>
    exact ran_resolve w g error endpoints killSwitch draw
  | connect g error draw => exact ran_connect w g error draw
  | connectionTimer g error draw => exact ran_connectionTimer w hio g error draw
  | reconnectTimer error => exact ran_reconnectTimer w error
  | assignment i assignment => exact ran_assignment w i assignment
  | packet i packet failure => exact ran_packet w i packet failure
  | tunnelClosed i remoteError retryable draw =>
    exact ran_tunnelClosed w i remoteError retryable draw
  | stopHandler => exact ran_stopHandler w
  | stop => exact absurd rfl hstop
  | readerFailed what => exact absurd rfl (hreader what)

variable (backend parsers platform) in
theorem step_cases (w : RuntimeIo σ) (event : RuntimeEvent) :
    Ran backend parsers w event (w.step backend parsers platform event) := by
  by_cases hstop : event = .stop
  · rw [hstop]
    exact .stopping
  by_cases hreader : ∃ what, event = .readerFailed what
  · obtain ⟨what, rfl⟩ := hreader
    rw [step]
    split
    · exact .readerFailed what
    · exact .settled (.same w rfl)
  have hother : ∀ what, event ≠ .readerFailed what := by simpa using hreader
  have hstep : w.step backend parsers platform event =
      if w.ioStopped then w else w.handle backend parsers platform event := by
    cases event with
    | stop => exact absurd rfl hstop
    | readerFailed what => exact absurd rfl (hother what)
    | _ => rfl
  rw [hstep]
  cases hio : w.ioStopped with
  | false => exact handle_cases backend parsers platform w hio hstop hother
  | true =>
    refine .settled (.same w ?_)
    unfold waitsAfter
    split
    · rw [if_pos hio]
    · rfl

theorem finishOnIo_actions (backend : ClientNetworkBackend σ) (w : RuntimeIo σ) :
    (w.finishOnIo backend).actions = w.actions ∨ (w.finishOnIo backend).actions = w.actions ++
      [.finish, .publish w.runtime.finishOnIo.state (w.tearDown backend).network.1] := by
  by_cases hf : w.runtime.finished = true
  · simp [finishOnIo, hf]
  · right
    simp [finishOnIo, hf, act, tearDown]

theorem retryOnIo_actions (backend : ClientNetworkBackend σ) (w : RuntimeIo σ) (reason : Bytes)
    (draw : Nat) :
    (w.retryOnIo backend reason draw).actions = w.actions ∨
      (w.retryOnIo backend reason draw).actions = w.actions ++
        [.finish, .publish w.runtime.finishOnIo.state (w.tearDown backend).network.1] ∨
      (w.retryOnIo backend reason draw).actions = w.actions ++
        [.publish .reconnecting (w.tearDown backend).network.1, .scheduleReconnect] := by
  by_cases hf : w.runtime.finished = true
  · simp [retryOnIo, hf]
  by_cases hs : w.runtime.stopRequested = true ∨ w.runtime.intentionalStop = true
  · rw [retryOnIo, if_neg hf, if_pos hs]
    obtain h | h := finishOnIo_actions backend w
    · exact .inl h
    · exact .inr (.inl h)
  · right
    right
    simp [retryOnIo, hf, hs, act, tearDown]

end RuntimeIo

end PersonalVpn.Client
