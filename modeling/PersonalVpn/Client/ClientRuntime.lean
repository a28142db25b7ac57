import PersonalVpn.Protocol.ControlMessages

namespace PersonalVpn.Client

open Protocol

inductive ClientRuntimeState where
  | stopped
  | starting
  | resolving
  | connecting
  | configuringNetwork
  | connected
  | reconnecting
  | stopping
  | failed
  deriving DecidableEq, Repr

/-- The runtime that owns the client, as far as the end of a tunnel reads and writes it. `events`
has the states and texts passed to the event handler. -/
structure ClientRuntime where
  state : ClientRuntimeState := .stopped
  connectionGeneration : UInt64 := 0
  stopRequested : Bool := false
  intentionalStop : Bool := false
  finished : Bool := false
  failureMessage : Bytes := []
  events : List (ClientRuntimeState × Bytes) := []
  deriving DecidableEq, Repr

namespace ClientRuntime

def transition (R : ClientRuntime) (state : ClientRuntimeState) (message : Bytes) : ClientRuntime :=
  { R with state, events := R.events ++ [(state, message)] }

/-- The first failure is kept. -/
def recordFailure (R : ClientRuntime) (message : Bytes) : ClientRuntime :=
  if R.failureMessage = [] then { R with failureMessage := message } else R

def finishOnIo (R : ClientRuntime) : ClientRuntime :=
  if R.finished then R
  else
    let R := { R with finished := true, stopRequested := true }
    if R.intentionalStop ∧ R.failureMessage = [] then
      R.transition .stopped (text "VPN tunnel stopped")
    else
      R.transition .failed
        (if R.failureMessage = [] then text "VPN runtime failed" else R.failureMessage)

/-- `retry_on_io`, with the delay that `next_reconnect_delay` draws. -/
def retryOnIo (R : ClientRuntime) (reason : Bytes) (delay : Nat) : ClientRuntime :=
  if R.finished then R
  else if R.stopRequested ∨ R.intentionalStop then R.finishOnIo
  else
    { R with connectionGeneration := R.connectionGeneration + 1 }.transition .reconnecting
      (reason ++ text "; retrying in " ++ toText delay ++ text "ms")

def onTunnelClosed (R : ClientRuntime) (generation : UInt64) (remoteError : Option ErrorMessage)
    (retryable : Bool) (delay : Nat) : ClientRuntime :=
  if generation ≠ R.connectionGeneration then R
  else if R.intentionalStop ∨ R.stopRequested then R.finishOnIo
  else
    let R := match remoteError with
      | some e => R.recordFailure
          (text "server rejected the session with error code " ++ toText e.code.toNat)
      | none =>
        if !retryable then
          R.recordFailure
            (text "VPN tunnel closed because of a non-retryable TLS or protocol error")
        else R
    if R.failureMessage ≠ [] then R.finishOnIo
    else R.retryOnIo (text "VPN transport closed unexpectedly") delay

/-- Nothing has failed and nobody asked to stop. -/
structure Live (R : ClientRuntime) : Prop where
  finished : R.finished = false
  stopRequested : R.stopRequested = false
  intentionalStop : R.intentionalStop = false
  failureMessage : R.failureMessage = []

/-- The end of the current tunnel takes the runtime to `failed`, and through no other state. -/
def EndsFailed (R : ClientRuntime) (remoteError : Option ErrorMessage) (retryable : Bool)
    (delay : Nat) : Prop :=
  let R' := R.onTunnelClosed R.connectionGeneration remoteError retryable delay
  R'.finished = true ∧ R'.state = .failed ∧ ∃ message, R'.events = R.events ++ [(.failed, message)]

theorem finishOnIo_failed {R : ClientRuntime} (hf : R.finished = false)
    (hm : R.failureMessage ≠ []) : R.finishOnIo = { R with
      finished := true, stopRequested := true, state := .failed
      events := R.events ++ [(.failed, R.failureMessage)] } := by
  simp [finishOnIo, hf, hm, transition]

/-- What a live runtime does once a failure is recorded. -/
theorem finishOnIo_recordFailure {R : ClientRuntime} (h : R.Live) {message : Bytes}
    (hm : message ≠ []) : (R.recordFailure message).failureMessage = message ∧
      (R.recordFailure message).finishOnIo = { R with
        failureMessage := message, finished := true, stopRequested := true, state := .failed
        events := R.events ++ [(.failed, message)] } := by
  rw [recordFailure, if_pos h.failureMessage]
  exact ⟨rfl, finishOnIo_failed (by exact h.finished) (by exact hm)⟩

theorem text_append_ne_nil {s : String} (h : text s ≠ []) (b : Bytes) : text s ++ b ≠ [] :=
  List.append_ne_nil_of_left_ne_nil h b

/-- A live runtime gives up exactly when it is told of a remote error or not to retry. -/
theorem endsFailed_iff {R : ClientRuntime} (h : R.Live) (remoteError : Option ErrorMessage)
    (retryable : Bool) (delay : Nat) :
    R.EndsFailed remoteError retryable delay ↔ remoteError ≠ none ∨ retryable = false := by
  have hlive : ¬(R.intentionalStop ∨ R.stopRequested) := by
    rw [h.intentionalStop, h.stopRequested]
    decide
  unfold EndsFailed onTunnelClosed
  dsimp only
  rw [if_neg (by simp), if_neg hlive]
  cases remoteError with
  | some e =>
    have hm := text_append_ne_nil (s := "server rejected the session with error code ")
      (by decide) (toText e.code.toNat)
    obtain ⟨hrecorded, hfinish⟩ := finishOnIo_recordFailure h hm
    dsimp only
    rw [if_pos (by rwa [hrecorded]), hfinish]
    exact ⟨fun _ => .inl (by simp), fun _ => ⟨rfl, rfl, _, rfl⟩⟩
  | none =>
    cases retryable with
    | false =>
      have hm : text "VPN tunnel closed because of a non-retryable TLS or protocol error" ≠ [] := by
        decide
      obtain ⟨hrecorded, hfinish⟩ := finishOnIo_recordFailure h hm
      dsimp only
      rw [if_pos (c := (!false) = true) rfl, if_pos (by rwa [hrecorded]), hfinish]
      exact ⟨fun _ => .inr rfl, fun _ => ⟨rfl, rfl, _, rfl⟩⟩
    | true =>
      have hretry : ¬(R.stopRequested ∨ R.intentionalStop) := by rwa [or_comm]
      dsimp only
      rw [if_neg (c := (!true) = true) (by simp), if_neg (not_not_intro h.failureMessage), retryOnIo,
        if_neg (by rw [h.finished]; decide), if_neg hretry]
      constructor
      · rintro ⟨-, hstate, -⟩
        cases hstate
      · intro hno
        simp at hno

end ClientRuntime

end PersonalVpn.Client
