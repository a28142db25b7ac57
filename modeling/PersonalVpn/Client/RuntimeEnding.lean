import PersonalVpn.Client.RuntimeGenerations
import PersonalVpn.Lib.Progress

/-! A runtime always has something outstanding that carries it on, and ends when it is asked to. -/

namespace PersonalVpn.Client

open PersonalVpn.Core Protocol ClientNetworkTransaction

/-- What can carry a runtime on. -/
inductive RuntimeOperation where
  | begin
  | reconnect
  | resolve
  | connect
  | tunnel (i : Nat)
  deriving DecidableEq, Repr

namespace RuntimeIo

variable {σ : Type} {backend : ClientNetworkBackend σ} {parsers : AddressParsers}
  {platform : Platform} {w : RuntimeIo σ}

/-- The operation is outstanding, and where it belongs to a connection that is the current one. -/
def Outstanding (w : RuntimeIo σ) : RuntimeOperation → Prop
  | .begin => w.beginPosted = true
  | .reconnect => 0 < w.reconnectWaits
  | .resolve => w.currentGeneration ∈ w.resolves
  | .connect => w.currentGeneration ∈ w.connects
  | .tunnel i => ∃ t, w.tunnels[i]? = some t ∧ t.closed = false ∧
      t.generation = w.currentGeneration

/-- The event is the end of the operation. -/
def Completes (w : RuntimeIo σ) : RuntimeOperation → RuntimeEvent → Prop
  | .begin, .begin => True
  | .reconnect, .reconnectTimer _ => True
  | .resolve, .resolve g _ _ _ _ => g = w.currentGeneration
  | .connect, .connect g _ _ => g = w.currentGeneration
  | .tunnel i, .tunnelClosed j _ _ _ => i = j
  | _, _ => False

/-- A wait of the reconnect timer is aborted by a later wait only, or because the runtime stops. -/
def AbortsOnlyToEnd (w : RuntimeIo σ) : RuntimeEvent → Prop
  | .reconnectTimer true => w.runtime.stopRequested = true ∨ 1 < w.reconnectWaits
  | _ => True

/-- A runtime that is to stop may abort any wait. -/
theorem AbortsOnlyToEnd.of_stopRequested (h : w.runtime.stopRequested = true)
    (event : RuntimeEvent) : w.AbortsOnlyToEnd event := by
  unfold AbortsOnlyToEnd
  split
  · exact .inl h
  · trivial

/-- The I/O thread has left, and nothing of the connection is there any more. -/
structure Ended (w : RuntimeIo σ) : Prop where
  ioStopped : w.ioStopped = true
  finished : w.runtime.finished = true
  state : w.runtime.state = .stopped ∨ w.runtime.state = .failed
  packetThread : w.packetThread = false
  pendingStream : w.pendingStream = false
  tunnel : w.tunnel = none

/-- The I/O thread is there. -/
structure Running (w : RuntimeIo σ) : Prop where
  ioStopped : w.ioStopped = false
  finished : w.runtime.finished = false

/-- Nothing happens after the end. -/
theorem Ended.step (h : w.Ended) (event : RuntimeEvent) :
    w.step backend parsers platform event = w := by
  cases event with
  | stop => rw [RuntimeIo.step, stop, if_pos h.finished]
  | readerFailed what =>
    rw [RuntimeIo.step, if_neg (by simp [h.packetThread])]
  | _ => rw [RuntimeIo.step, if_pos h.ioStopped] <;> simp

theorem Running.finishOnIo (h : w.Running) : (w.finishOnIo backend).Ended := by
  rw [RuntimeIo.finishOnIo, if_neg (by simp [h.finished])]
  constructor
  case finished => exact (ClientRuntime.finishOnIo_finished _).1
  case state =>
    show w.runtime.finishOnIo.state = .stopped ∨ w.runtime.finishOnIo.state = .failed
    rw [ClientRuntime.finishOnIo, if_neg (by simp [h.finished])]
    dsimp only
    split
    · exact .inl rfl
    · exact .inr rfl
  all_goals rfl

theorem Running.recordFailure (h : w.Running) (message : Bytes) :
    (w.recordFailure message).Running := by
  refine ⟨h.ioStopped, ?_⟩
  rw [RuntimeIo.recordFailure, ClientRuntime.recordFailure]
  split
  · exact h.finished
  · exact h.finished

/-- The runtime has ended, or is wanted and has gone on to another operation. -/
def HandsOn (w w' : RuntimeIo σ) : Prop :=
  w'.Ended ∨ w.runtime.stopRequested = false ∧ w'.Running ∧ ∃ op, w'.Outstanding op

/-- What was outstanding is still outstanding. -/
structure Keeps (w w' : RuntimeIo σ) : Prop where
  running : w'.Running
  generation : w'.currentGeneration = w.currentGeneration
  stops : w.runtime.stopRequested = true → w'.runtime.stopRequested = true
  outstanding : ∀ op, w.Outstanding op → w'.Outstanding op

theorem Running.same (h : w.Running) {w' : RuntimeIo σ} (hsame : SameOperations w w')
    (hio : w'.ioStopped = w.ioStopped) (hfinished : w'.runtime.finished = w.runtime.finished)
    (hstops : w.runtime.stopRequested = true → w'.runtime.stopRequested = true) :
    Keeps w w' := by
  refine ⟨⟨hio.trans h.ioStopped, hfinished.trans h.finished⟩, hsame.generation, hstops, ?_⟩
  intro op hop
  cases op with
  | begin => rwa [Outstanding, hsame.beginPosted]
  | reconnect => rwa [Outstanding, hsame.reconnectWaits]
  | resolve => rwa [Outstanding, hsame.generation, hsame.resolves]
  | connect => rwa [Outstanding, hsame.generation, hsame.connects]
  | tunnel i => rwa [Outstanding, hsame.generation, hsame.tunnels]

theorem Running.retryOnIo (h : w.Running) (reason : Bytes) (draw : Nat) :
    HandsOn w (w.retryOnIo backend reason draw) := by
  rw [RuntimeIo.retryOnIo, if_neg (by simp [h.finished])]
  split
  · exact .inl h.finishOnIo
  · rename_i hwanted
    refine .inr ⟨by simpa using (not_or.mp hwanted).1, ⟨h.ioStopped, ?_⟩, .reconnect,
      Nat.succ_pos _⟩
    show (w.runtime.retryOnIo reason _).finished = false
    rw [ClientRuntime.retryOnIo, if_neg (by simp [h.finished]), if_neg hwanted]
    exact h.finished

theorem Running.beginConnect (h : w.Running) : HandsOn w (w.beginConnect backend) := by
  rw [RuntimeIo.beginConnect]
  split
  · exact .inl h.finishOnIo
  · rename_i hstop
    refine .inr ⟨by simpa using hstop, ⟨h.ioStopped, h.finished⟩, .resolve, ?_⟩
    show w.currentGeneration + 1 ∈ w.resolves ++ [w.currentGeneration + 1]
    exact List.mem_append_right _ (List.mem_singleton_self _)

theorem Running.asyncConnect (h : w.Running) {g : UInt64} (hg : g = w.currentGeneration) :
    (w.asyncConnect g).Running ∧ (w.asyncConnect g).Outstanding .connect := by
  refine ⟨⟨h.ioStopped, h.finished⟩, ?_⟩
  show w.currentGeneration ∈ w.connects ++ [g]
  rw [hg]
  exact List.mem_append_right _ (List.mem_singleton_self _)

theorem handleResolve_stale {g : UInt64} (hg : g ≠ w.runtime.connectionGeneration)
    (error : Option Bytes) (endpoints : List Endpoint) (killSwitch : Except Exception Unit)
    (draw : Nat) : w.handleResolve backend platform g error endpoints killSwitch draw = w :=
  if_pos hg

theorem handleConnect_stale {g : UInt64} (hg : g ≠ w.runtime.connectionGeneration)
    (error : Option Bytes) (draw : Nat) : w.handleConnect backend g error draw = w := if_pos hg

theorem onTunnelClosed_stale {g : UInt64} (hg : g ≠ w.runtime.connectionGeneration)
    (remoteError : Option ErrorMessage) (retryable : Bool) (draw : Nat) :
    w.onTunnelClosed backend g remoteError retryable draw = w := if_pos hg

/-- The callback of the resolver, for the current connection. -/
theorem Running.handleResolve (h : w.Running) {g : UInt64}
    (hg : g = w.runtime.connectionGeneration)
    (error : Option Bytes) (endpoints : List Endpoint) (killSwitch : Except Exception Unit)
    (draw : Nat) :
    HandsOn w (w.handleResolve backend platform g error endpoints killSwitch draw) := by
  by_cases hstop : w.runtime.stopRequested = true
  · unfold RuntimeIo.handleResolve
    rw [if_neg (not_not_intro hg), if_pos hstop]
    exact .inl h.finishOnIo
  · have hwanted : w.runtime.stopRequested = false := by simpa using hstop
    have hcases := handleResolve_cases backend platform w g error endpoints killSwitch draw
    generalize w.handleResolve backend platform g error endpoints killSwitch draw = w' at hcases ⊢
    cases hcases with
    | stale other => exact absurd hg other
    | stopped => exact .inl h.finishOnIo
    | failed current reason => exact h.retryOnIo reason draw
    | refused current full message => exact .inl (h.recordFailure message).finishOnIo
    | guarded =>
      have hacted : (w.act (.enableKillSwitch (endpoints.map Endpoint.toWindows))).Running :=
        ⟨h.ioStopped, h.finished⟩
      obtain ⟨hrunning, hop⟩ := hacted.asyncConnect hg
      exact .inr ⟨hwanted, hrunning, _, hop⟩
    | split =>
      obtain ⟨hrunning, hop⟩ := h.asyncConnect hg
      exact .inr ⟨hwanted, hrunning, _, hop⟩

/-- The callback of the socket, for the current connection. -/
theorem Running.handleConnect (h : w.Running) {g : UInt64}
    (hg : g = w.runtime.connectionGeneration) (error : Option Bytes) (draw : Nat) :
    HandsOn w (w.handleConnect backend g error draw) := by
  by_cases hstop : w.runtime.stopRequested = true
  · unfold RuntimeIo.handleConnect
    rw [if_neg (not_not_intro hg), if_pos hstop]
    exact .inl h.finishOnIo
  · have hwanted : w.runtime.stopRequested = false := by simpa using hstop
    have hcases := handleConnect_cases backend w g error draw
    generalize w.handleConnect backend g error draw = w' at hcases ⊢
    cases hcases with
    | stale other => exact absurd hg other
    | stopped => exact .inl h.finishOnIo
    | failed current reason => exact h.retryOnIo reason draw
    | tunnel current =>
      refine .inr ⟨hwanted, ⟨h.ioStopped, h.finished⟩, .tunnel w.tunnels.length, ⟨g, false, false⟩,
        ?_, rfl, hg⟩
      simp

/-- The close handler of the current tunnel. -/
theorem Running.onTunnelClosed (h : w.Running) {g : UInt64} (hg : g = w.currentGeneration)
    (remoteError : Option ErrorMessage) (retryable : Bool) (draw : Nat) :
    HandsOn w (w.onTunnelClosed backend g remoteError retryable draw) := by
  have hcases := onTunnelClosed_cases backend w g remoteError retryable draw
  generalize w.onTunnelClosed backend g remoteError retryable draw = w' at hcases ⊢
  cases hcases with
  | stale other => exact absurd hg other
  | stopped => exact .inl h.finishOnIo
  | failed current message => exact .inl (h.recordFailure message).finishOnIo
  | retried current reason => exact h.retryOnIo reason draw

/-- The event takes its operation off before the callback runs. -/
theorem HandsOn.after {w₁ w' : RuntimeIo σ} (h : HandsOn w₁ w')
    (hruntime : w₁.runtime = w.runtime) : HandsOn w w' := by
  rwa [HandsOn, hruntime] at h

theorem Running.step_handle (h : w.Running) {event : RuntimeEvent} (hstop : event ≠ .stop)
    (hreader : ∀ what, event ≠ .readerFailed what) :
    w.step backend parsers platform event = w.handle backend parsers platform event := by
  cases event with
  | stop => exact absurd rfl hstop
  | readerFailed what => exact absurd rfl (hreader what)
  | _ => exact if_neg (by simp [h.ioStopped])

/-- The end of an operation that is outstanding hands on, or ends the runtime. -/
theorem Running.completes (h : w.Running) {event : RuntimeEvent} (haborts : w.AbortsOnlyToEnd event)
    {op : RuntimeOperation} (hop : w.Outstanding op) (hcompletes : w.Completes op event) :
    HandsOn w (w.step backend parsers platform event) := by
  cases op with
  | begin =>
    cases event with
    | begin =>
      have hposted : w.beginPosted = true := hop
      have hsettled : Running { w with beginPosted := false } := ⟨h.ioStopped, h.finished⟩
      rw [h.step_handle (by simp) (by simp), handle, if_pos hposted]
      exact hsettled.beginConnect.after rfl
    | _ => exact False.elim hcompletes
  | reconnect =>
    cases event with
    | reconnectTimer error =>
      have hwaits : 0 < w.reconnectWaits := hop
      have hsettled : Running { w with reconnectWaits := w.reconnectWaits - 1 } :=
        ⟨h.ioStopped, h.finished⟩
      rw [h.step_handle (by simp) (by simp), handle, if_pos hwaits, onReconnectTimer]
      by_cases hstop : w.runtime.stopRequested = true
      · rw [if_neg (by simp [hstop]), if_pos hstop]
        exact .inl hsettled.finishOnIo
      have hwanted : w.runtime.stopRequested = false := by simpa using hstop
      cases error with
      | false =>
        rw [if_pos (by simp [hwanted, h.finished])]
        exact hsettled.beginConnect.after rfl
      | true =>
        have hagain : 1 < w.reconnectWaits := haborts.resolve_left hstop
        rw [if_neg (by simp), if_neg hstop]
        exact .inr ⟨hwanted, ⟨h.ioStopped, h.finished⟩, .reconnect, Nat.sub_pos_of_lt hagain⟩
    | _ => exact False.elim hcompletes
  | resolve =>
    cases event with
    | resolve g error endpoints killSwitch draw =>
      have hg : g = w.currentGeneration := hcompletes
      have hmem : g ∈ w.resolves := by
        rw [hg]
        exact hop
      rw [h.step_handle (by simp) (by simp), handle, if_pos hmem]
      have hsettled : Running { w with resolves := w.resolves.erase g } := ⟨h.ioStopped, h.finished⟩
      exact (hsettled.handleResolve hg error endpoints killSwitch draw).after rfl
    | _ => exact False.elim hcompletes
  | connect =>
    cases event with
    | connect g error draw =>
      have hg : g = w.currentGeneration := hcompletes
      have hmem : g ∈ w.connects := by
        rw [hg]
        exact hop
      rw [h.step_handle (by simp) (by simp), handle, if_pos hmem]
      have hsettled : Running { w with connects := w.connects.erase g } := ⟨h.ioStopped, h.finished⟩
      exact (hsettled.handleConnect hg error draw).after rfl
    | _ => exact False.elim hcompletes
  | tunnel i =>
    cases event with
    | tunnelClosed j remoteError retryable draw =>
      have hij : i = j := hcompletes
      obtain ⟨t, ht, hopen, hg⟩ := hop
      rw [hij] at ht
      rw [h.step_handle (by simp) (by simp), handle, ht]
      dsimp only
      rw [if_neg (by simp [hopen])]
      have hsettled : Running { w with tunnels := w.tunnels.set j { t with closed := true } } :=
        ⟨h.ioStopped, h.finished⟩
      exact (hsettled.onTunnelClosed hg remoteError retryable draw).after rfl
    | _ => exact False.elim hcompletes

namespace Keeps

theorem refl (h : w.Running) : Keeps w w := ⟨h, rfl, fun hs => hs, fun _ hop => hop⟩

theorem trans {w₁ w' : RuntimeIo σ} (h₁ : Keeps w w₁) (h : Keeps w₁ w') : Keeps w w' :=
  ⟨h.running, h.generation.trans h₁.generation, fun hs => h.stops (h₁.stops hs),
    fun op hop => h.outstanding op (h₁.outstanding op hop)⟩

theorem recordFailure (h : w.Running) (message : Bytes) : Keeps w (w.recordFailure message) := by
  rw [RuntimeIo.recordFailure, ClientRuntime.recordFailure]
  split
  · exact h.same ⟨rfl, rfl, rfl, rfl, rfl, rfl, rfl⟩ rfl rfl fun hs => hs
  · exact refl h

/-- A fault of the packet device asks for the end. -/
theorem fault (h : w.Running) (message : Bytes) :
    Keeps w { w.recordFailure message with runtime.stopRequested := true } := by
  have hrecorded := recordFailure h message
  exact hrecorded.trans (hrecorded.running.same ⟨rfl, rfl, rfl, rfl, rfl, rfl, rfl⟩ rfl rfl
    fun _ => rfl)

theorem configureNetwork (h : w.Running) (assignment : IpAssignment) :
    Keeps w (w.configureNetwork backend parsers assignment).2 := by
  unfold RuntimeIo.configureNetwork
  split_ifs
  · exact refl h
  · dsimp only
    split
    · rename_i network hfailed
      have hconfiguring : Keeps w { RuntimeIo.act (w.transition .configuringNetwork
          (text "applying tunnel network transaction")) (.activate w.network.1) with network } :=
        h.same ⟨rfl, rfl, rfl, rfl, rfl, rfl, rfl⟩ rfl rfl fun hs => hs
      exact hconfiguring.trans (recordFailure hconfiguring.running _)
    · exact h.same ⟨rfl, rfl, rfl, rfl, rfl, rfl, rfl⟩ rfl rfl fun hs => hs

theorem deliverToPacketDevice (h : w.Running) (packet : Bytes) (failure : Option Bytes) :
    Keeps w (w.deliverToPacketDevice packet failure) := by
  have hacted : Keeps w (w.act (.sendPacket packet)) :=
    h.same ⟨rfl, rfl, rfl, rfl, rfl, rfl, rfl⟩ rfl rfl fun hs => hs
  cases failure with
  | none => exact hacted
  | some what => exact hacted.trans (fault hacted.running _)

/-- What comes back from an earlier connection carries nothing on. -/
theorem erase_resolve (h : w.Running) {g : UInt64} (hother : g ≠ w.currentGeneration) :
    Keeps w { w with resolves := w.resolves.erase g } := by
  refine ⟨⟨h.ioStopped, h.finished⟩, rfl, fun hs => hs, fun op hop => ?_⟩
  cases op with
  | resolve => exact (List.mem_erase_of_ne (Ne.symm hother)).mpr hop
  | _ => exact hop

theorem erase_connect (h : w.Running) {g : UInt64} (hother : g ≠ w.currentGeneration) :
    Keeps w { w with connects := w.connects.erase g } := by
  refine ⟨⟨h.ioStopped, h.finished⟩, rfl, fun hs => hs, fun op hop => ?_⟩
  cases op with
  | connect => exact (List.mem_erase_of_ne (Ne.symm hother)).mpr hop
  | _ => exact hop

/-- Only the close of a tunnel of the current connection takes it away. -/
theorem set_tunnel (h : w.Running) {i : Nat} {t t' : RuntimeTunnel} (ht : w.tunnels[i]? = some t)
    (hgeneration : t'.generation = t.generation)
    (hopen : t.generation = w.currentGeneration → t'.closed = t.closed) :
    Keeps w { w with tunnels := w.tunnels.set i t' } := by
  refine ⟨⟨h.ioStopped, h.finished⟩, rfl, fun hs => hs, ?_⟩
  intro op hop
  cases op with
  | tunnel j =>
    obtain ⟨t₁, ht₁, hopen₁, hg₁⟩ := hop
    by_cases hij : i = j
    · have hsame : t = t₁ := by
        rw [← hij, ht] at ht₁
        exact Option.some.inj ht₁
      have hlt : i < w.tunnels.length := (List.getElem?_eq_some_iff.mp ht).1
      rw [← hsame] at hopen₁ hg₁
      refine ⟨t', ?_, (hopen hg₁).trans hopen₁, hgeneration.trans hg₁⟩
      rw [← hij]
      exact List.getElem?_set_self hlt
    · refine ⟨t₁, ?_, hopen₁, hg₁⟩
      rw [List.getElem?_set_ne hij]
      exact ht₁
  | _ => exact hop

end Keeps

/-- An event that completes nothing that is outstanding takes nothing away, unless it is the timeout
of the connection or the function that `stop` posts. -/
theorem Running.step (h : w.Running) {event : RuntimeEvent} (haborts : w.AbortsOnlyToEnd event) :
    HandsOn w (w.step backend parsers platform event) ∨
      Keeps w (w.step backend parsers platform event) := by
  by_cases hcompleted : ∃ op, w.Outstanding op ∧ w.Completes op event
  · obtain ⟨op, hop, hcompletes⟩ := hcompleted
    exact .inl (h.completes haborts hop hcompletes)
  have hno (op : RuntimeOperation) (hcompletes : w.Completes op event) : ¬w.Outstanding op :=
    fun hop => hcompleted ⟨op, hop, hcompletes⟩
  cases event with
  | begin =>
    right
    have hposted : ¬w.beginPosted = true := hno .begin trivial
    rw [h.step_handle (by simp) (by simp), handle, if_neg hposted]
    exact .refl h
  | reconnectTimer error =>
    right
    have hwaits : ¬0 < w.reconnectWaits := hno .reconnect trivial
    rw [h.step_handle (by simp) (by simp), handle, if_neg hwaits]
    exact .refl h
  | resolve g error endpoints killSwitch draw =>
    right
    rw [h.step_handle (by simp) (by simp), handle]
    split
    · rename_i hmem
      have hother : g ≠ w.currentGeneration := by
        intro hg
        apply hno .resolve hg
        rw [hg] at hmem
        exact hmem
      rw [handleResolve_stale]
      · exact .erase_resolve h hother
      · exact hother
    · exact .refl h
  | connect g error draw =>
    right
    rw [h.step_handle (by simp) (by simp), handle]
    split
    · rename_i hmem
      have hother : g ≠ w.currentGeneration := by
        intro hg
        apply hno .connect hg
        rw [hg] at hmem
        exact hmem
      rw [handleConnect_stale]
      · exact .erase_connect h hother
      · exact hother
    · exact .refl h
  | connectionTimer g error draw =>
    rw [h.step_handle (by simp) (by simp), handle]
    split
    · have hsettled : Keeps w { w with connectionWaits := w.connectionWaits.erase g } :=
        ⟨⟨h.ioStopped, h.finished⟩, rfl, fun hs => hs, fun op hop => by cases op <;> exact hop⟩
      rw [onConnectionTimer]
      split
      · exact .inl ((hsettled.running.retryOnIo _ draw).after rfl)
      · exact .inr hsettled
    · exact .inr (.refl h)
  | assignment i assignment =>
    right
    rw [h.step_handle (by simp) (by simp), handle]
    cases ht : w.tunnels[i]? with
    | none => exact .refl h
    | some t =>
      dsimp only
      split
      · exact .refl h
      · have hassigned : Keeps w
            { w with tunnels := w.tunnels.set i { t with assigned := true } } :=
          .set_tunnel h ht rfl fun _ => rfl
        rw [onAssignment]
        split
        · exact hassigned.trans (.configureNetwork hassigned.running assignment)
        · exact hassigned
  | packet i packet failure =>
    right
    rw [h.step_handle (by simp) (by simp), handle]
    cases ht : w.tunnels[i]? with
    | none => exact .refl h
    | some t =>
      dsimp only
      rw [onPacket]
      split_ifs
      · exact .refl h
      · exact .deliverToPacketDevice h packet failure
      · exact .refl h
  | tunnelClosed i remoteError retryable draw =>
    right
    rw [h.step_handle (by simp) (by simp), handle]
    cases ht : w.tunnels[i]? with
    | none => exact .refl h
    | some t =>
      dsimp only
      split
      · exact .refl h
      · rename_i hopen
        have hother : t.generation ≠ w.currentGeneration := by
          intro hg
          exact hno (.tunnel i) rfl ⟨t, ht, by simpa using hopen, hg⟩
        rw [onTunnelClosed_stale]
        · exact .set_tunnel h ht rfl fun hg => absurd hg hother
        · exact hother
  | stop =>
    right
    show Keeps w (stop w)
    rw [stop, if_neg (by simp [h.finished])]
    exact h.same ⟨rfl, rfl, rfl, rfl, rfl, rfl, rfl⟩ rfl rfl fun _ => rfl
  | stopHandler =>
    rw [h.step_handle (by simp) (by simp), handle]
    split
    · rw [onStop]
      split
      · exact .inr (h.same ⟨rfl, rfl, rfl, rfl, rfl, rfl, rfl⟩ rfl rfl fun hs => hs)
      · exact .inl (.inl (Running.finishOnIo ⟨h.ioStopped, h.finished⟩))
    · exact .inr (.refl h)
  | readerFailed what =>
    right
    rw [RuntimeIo.step]
    split
    · exact .fault h _
    · exact .refl h

/-- The runtime has ended, or something carries it on. -/
def Going (w : RuntimeIo σ) : Prop := w.Ended ∨ w.Running ∧ ∃ op, w.Outstanding op

theorem Going.step (h : w.Going) {event : RuntimeEvent} (haborts : w.AbortsOnlyToEnd event) :
    (w.step backend parsers platform event).Going := by
  obtain hended | ⟨hrunning, op, hop⟩ := h
  · rw [hended.step]
    exact .inl hended
  · have hstep : HandsOn w (w.step backend parsers platform event) ∨
        Keeps w (w.step backend parsers platform event) := hrunning.step haborts
    obtain (hends | ⟨-, hgoes⟩) | hkeeps := hstep
    · exact .inl hends
    · exact .inr hgoes
    · exact .inr ⟨hkeeps.running, op, hkeeps.outstanding op hop⟩

/-- The runtime has ended, or was told to end and waits for this operation of its connection. -/
def Leaving (generation : UInt64) (op : RuntimeOperation) (w : RuntimeIo σ) : Prop :=
  w.Ended ∨ w.Running ∧ w.runtime.stopRequested = true ∧ w.currentGeneration = generation ∧
    w.Outstanding op

theorem Leaving.step {generation : UInt64} {op : RuntimeOperation} (h : Leaving generation op w)
    (event : RuntimeEvent) : Leaving generation op (w.step backend parsers platform event) := by
  obtain hended | ⟨hrunning, hstop, hg, hop⟩ := h
  · rw [hended.step]
    exact .inl hended
  · have hstep : HandsOn w (w.step backend parsers platform event) ∨
        Keeps w (w.step backend parsers platform event) :=
      hrunning.step (.of_stopRequested hstop event)
    obtain (hends | ⟨hwanted, -⟩) | hkeeps := hstep
    · exact .inl hends
    · rw [hstop] at hwanted
      cases hwanted
    · exact .inr ⟨hkeeps.running, hkeeps.stops hstop, hkeeps.generation.trans hg,
        hkeeps.outstanding op hop⟩

/-- The operation that a stopping runtime waits for ends it. -/
theorem Leaving.completes {generation : UInt64} {op : RuntimeOperation}
    (h : Leaving generation op w) {event : RuntimeEvent}
    (hcompletes : ∀ v : RuntimeIo σ, v.currentGeneration = generation → v.Completes op event) :
    (w.step backend parsers platform event).Ended := by
  obtain hended | ⟨hrunning, hstop, hg, hop⟩ := h
  · rw [hended.step]
    exact hended
  · have hstep : HandsOn w (w.step backend parsers platform event) :=
      hrunning.completes (.of_stopRequested hstop event) hop (hcompletes w hg)
    obtain hends | ⟨hwanted, -⟩ := hstep
    · exact hends
    · rw [hstop] at hwanted
      cases hwanted

end RuntimeIo

end PersonalVpn.Client
