import Mathlib.Logic.Function.Basic
import PersonalVpn.Core.TunnelRouter
import PersonalVpn.Server.TlsTunnelSession

namespace PersonalVpn.Server

open PersonalVpn.Core Protocol

/-- What the handlers of the sessions act on: the router, and the packets written to the TUN
device so far. -/
structure Exchange (ι : Type) where
  router : TunnelRouter ι := {}
  tun : List Bytes := []

/-- The server. `session` has the session objects, `sessions` the names of those in the registry. -/
structure TlsTunnelServer (ι : Type) where
  shared : Shared (Exchange ι)
  maximumSessions : Nat
  sessions : List ι := []
  activeSessionCount : Nat := 0
  stopping : Bool := false
  session : ι → Option TlsTunnelSession := fun _ => none

/-- A step of the server's own strand, or of the strand of one session. -/
inductive ServerEvent (ι : Type) where
  | accept (i : ι)
  | acceptFailed (aborted : Bool)
  | session (i : ι) (event : SessionEvent)
  | remove (i : ι)
  | stop

namespace TlsTunnelServer

variable {ι : Type} [DecidableEq ι]

/-- The established handler of `handle_accept`. -/
def registerRoutes (active : ι → Bool) (peer : ι) (lease : Lease) (x : Exchange ι) :
    Bool × Exchange ι :=
  match x.router.registerPeer active lease.address peer with
  | (false, router) => (false, { x with router })
  | (true, router) =>
    if lease.ipv6Address ≠ Ipv6Address.zero then
      match router.registerIpv6Peer active lease.ipv6Address peer with
      | (true, router) => (true, { x with router })
      | (false, router) =>
        (false, { x with router := (router.unregisterPeer active lease.address peer).2 })
    else (true, { x with router })

/-- `handle_session_closed`, which posts `remove_session` to the server's strand. -/
def handleSessionClosed (active : ι → Bool) (peer : ι) (lease : Option Lease) (x : Exchange ι) :
    Exchange ι :=
  match lease with
  | none => x
  | some lease =>
    let router := (x.router.unregisterPeer active lease.address peer).2
    if lease.ipv6Address ≠ Ipv6Address.zero then
      { x with router := (router.unregisterIpv6Peer active lease.ipv6Address peer).2 }
    else { x with router }

/-- The handlers that `handle_accept` gives the session `i`. -/
def handlers (active : ι → Bool) (i : ι) : Handlers (Exchange ι) where
  packetSink packet x := { x with tun := x.tun ++ [packet] }
  established := registerRoutes active i
  closed := handleSessionClosed active i

/-- A weak reference to a session can be locked while the object exists. -/
def active (S : TlsTunnelServer ι) (i : ι) : Bool := (S.session i).isSome

/-- The outbound queue of a new session. -/
def outboundQueue : OutboundFrameQueue := ⟨256, 2 ^ 20, [], 0⟩

/-- Put back a session after an event of it. -/
def put (S : TlsTunnelServer ι) (i : ι) (after : TlsTunnelSession × Shared (Exchange ι)) :
    TlsTunnelServer ι :=
  { S with shared := after.2, session := Function.update S.session i (some after.1) }

/-- `handle_accept` of a connection whose session object gets the name `i`. -/
def handleAccept (S : TlsTunnelServer ι) (i : ι) : TlsTunnelServer ι :=
  let metrics := S.shared.metrics
  if S.sessions.length ≥ S.maximumSessions then
    { S with shared := { S.shared with
        metrics := { metrics with capacityRejections := metrics.capacityRejections + 1 } } }
  else
    { S with
      shared := { S.shared with
        metrics := { metrics with acceptedConnections := metrics.acceptedConnections + 1 } }
      sessions := i :: S.sessions
      activeSessionCount := S.sessions.length + 1
      session := Function.update S.session i (some { outboundQueue }) }

/-- `remove_session`, with which the object and its controller are destroyed. -/
def removeSession (S : TlsTunnelServer ι) (i : ι) (s : TlsTunnelSession) : TlsTunnelServer ι :=
  let manager := match s.controller with
    | some c => c.destroy S.shared.manager
    | none => S.shared.manager
  { S with
    shared := { S.shared with manager }
    sessions := S.sessions.erase i
    activeSessionCount := (S.sessions.erase i).length
    session := Function.update S.session i none }

/-- One step. Names are not reused while their object exists, and a session is removed only after
its close handler has asked for it. -/
def step (S : TlsTunnelServer ι) : ServerEvent ι → TlsTunnelServer ι
  | .accept i => if S.stopping || S.active i then S else S.handleAccept i
  | .acceptFailed aborted => if S.stopping || aborted then S else { S with stopping := true }
  | .session i event =>
    match S.session i with
    | none => S
    | some s => S.put i (s.step (handlers S.active i) S.shared event)
  | .remove i =>
    match S.session i with
    | none => S
    | some s => if s.closing = .done then S.removeSession i s else S
  | .stop => { S with stopping := true }

/-- A server that has not accepted anything yet. -/
def start (manager : LeaseManager) (maximumSessions : Nat) : TlsTunnelServer ι where
  shared := { manager, outside := {} }
  maximumSessions

end TlsTunnelServer

end PersonalVpn.Server
