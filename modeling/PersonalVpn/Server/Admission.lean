import Mathlib.Data.List.Perm.Basic
import Mathlib.Data.List.Range
import Mathlib.Data.List.Nodup
import PersonalVpn.Lib.Run
import PersonalVpn.Server.SessionMetrics
import PersonalVpn.Server.TlsTunnelServer

namespace PersonalVpn.Server

open PersonalVpn.Core Protocol

/-- A server with the books of its strand. Sessions are numbered as they are created: `number` has
the number of the session that a name stands for. A posted `remove_session` step has the raw pointer
it was given and the number of the session that posted it, and one that has run the number of the
session that posted it and of the one it erased. `asked` has the sessions that `stop_on_strand` has
told to stop. -/
structure Admission (ι : Type) where
  server : TlsTunnelServer ι
  created : Nat := 0
  number : ι → Nat := fun _ => 0
  posted : List (ι × Nat) := []
  removals : List (Nat × Option Nat) := []
  established : List Nat := []
  asked : List Nat := []
  shutdownHandler : Bool
  shutdowns : Nat := 0

namespace Admission

variable {ι : Type} [DecidableEq ι]

/-- Whether `handle_accept` of a connection whose session object gets the name `i` admits it. -/
def admits (A : Admission ι) (i : ι) : Bool :=
  !(A.server.stopping || A.server.active i) && A.server.sessions.length < A.server.maximumSessions

def handleAccept (A : Admission ι) (i : ι) : Admission ι :=
  let server := A.server.step (.accept i)
  if A.admits i then
    { A with server, created := A.created + 1, number := Function.update A.number i A.created }
  else { A with server }

def stopOnStrand (A : Admission ι) : Admission ι :=
  if A.server.stopping then A
  else { A with
    server := A.server.step .stop
    asked := A.server.sessions.map A.number
    shutdownHandler := false
    shutdowns := A.shutdowns + A.shutdownHandler.toNat }

/-- An event on the strand of the session `i`. The close handler of the session posts a
`remove_session` step. -/
def handleSession (A : Admission ι) (i : ι) (event : SessionEvent) : Admission ι :=
  match A.server.session i with
  | none => A
  | some s =>
    let s' := (s.step (TlsTunnelServer.handlers A.server.active i) A.server.shared event).1
    { A with
      server := A.server.step (.session i event)
      posted := if s.closing = .notifying ∧ s'.closing = .done then A.posted ++ [(i, A.number i)]
        else A.posted
      established := if s.establishedCounted = false ∧ s'.establishedCounted = true then
        A.established ++ [A.number i] else A.established }

/-- `remove_session`, posted by the session with the given number: which session it erases. -/
def removeSession (A : Admission ι) (peer : ι) (poster : Nat) : Admission ι :=
  match A.server.session peer with
  | some s =>
    if peer ∈ A.server.sessions then { A with
      server := A.server.removeSession peer s
      removals := A.removals ++ [(poster, some (A.number peer))] }
    else { A with removals := A.removals ++ [(poster, none)] }
  | none => { A with removals := A.removals ++ [(poster, none)] }

/-- One step. A `remove_session` step runs once for each time it was posted. -/
def step (A : Admission ι) : ServerEvent ι → Admission ι
  | .accept i => A.handleAccept i
  | .acceptFailed aborted => if A.server.stopping || aborted then A else A.stopOnStrand
  | .session i event => A.handleSession i event
  | .remove i =>
    match A.posted.find? (·.1 = i) with
    | none => A
    | some message =>
      { A with posted := A.posted.erase message }.removeSession message.1 message.2
  | .stop => A.stopOnStrand

/-- A server that has not accepted anything yet. -/
def start (manager : LeaseManager) (maximumSessions : Nat) (shutdownHandler : Bool) :
    Admission ι where
  server := TlsTunnelServer.start manager maximumSessions
  shutdownHandler

/-- The session has not stopped. -/
def unstopped (S : TlsTunnelServer ι) (i : ι) : Bool := (S.session i).any fun s => !s.stopped

/-- `close_now` of the session has begun and has not counted it. -/
def closing (S : TlsTunnelServer ι) (i : ι) : Bool :=
  (S.session i).any fun s => s.closing = .releasing

/-- The accounts of a server that was to admit so many sessions, with a shutdown handler or
without. -/
structure Accounted (A : Admission ι) (maximumSessions : Nat) (shutdownHandler : Bool) : Prop where
  bound : A.server.sessions.length ≤ maximumSessions
  count : A.server.activeSessionCount = A.server.sessions.length
  lives : A.server.shared.metrics.acceptedConnections =
    A.server.shared.metrics.closedSessions +
      UInt64.ofNat (A.server.sessions.countP (unstopped A.server)) +
      UInt64.ofNat (A.server.sessions.countP (closing A.server))
  /-- Every created session is in the registry or has had its removal, and not twice. -/
  registered : (A.removals.map Prod.fst ++ A.server.sessions.map A.number).Perm
    (List.range A.created)
  removals : ∀ r ∈ A.removals, r.2 = some r.1
  posted : A.posted.Nodup ∧ ∀ p ∈ A.posted, p.1 ∈ A.server.sessions ∧ p.2 = A.number p.1
  established : A.established.Nodup ∧ ∀ n ∈ A.established, n < A.created
  accepted : A.server.shared.metrics.acceptedConnections = UInt64.ofNat A.created
  establishedSessions :
    A.server.shared.metrics.establishedSessions = UInt64.ofNat A.established.length
  unwrapped : A.created < 2 ^ 64 → A.server.shared.metrics.establishedSessions ≤
    A.server.shared.metrics.acceptedConnections
  asked : A.server.stopping = true → ∀ i ∈ A.server.sessions, A.number i ∈ A.asked
  shutdowns : A.server.stopping = true → A.shutdowns = shutdownHandler.toNat

end Admission

end PersonalVpn.Server
