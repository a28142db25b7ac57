import PersonalVpn.Core.ClientSteps
import PersonalVpn.Core.LeaseRuns

namespace PersonalVpn.Core

open Protocol

/-- A client and a server session joined by a first-in first-out channel in each direction. The
histories record what each side has emitted and handed to its TUN device. -/
structure Tunnel where
  manager : LeaseManager
  server : SessionController
  client : ClientSessionController
  toServer : List Frame := []
  toClient : List Frame := []
  sentByClient : List Frame := []
  sentByServer : List Frame := []
  serverTun : List Bytes := []
  clientTun : List Bytes := []

/-- A call on one of the two controllers, or a call of the lease manager by somebody else. -/
inductive TunnelEvent where
  | start
  | makeDataToServer (packet : Bytes)
  | makePing (nonce : UInt64)
  | makeClose (code : UInt16)
  | clientHandle
  | serverHandle (now : TimePoint)
  | makeDataToClient (packet : Bytes) (now : TimePoint)
  | clientTransportClosed
  | serverTransportClosed
  | lease (call : LeaseCall)

namespace Tunnel

/-- The client emits frames. -/
def clientSends (t : Tunnel) (frames : List Frame) : Tunnel :=
  { t with toServer := t.toServer ++ frames, sentByClient := t.sentByClient ++ frames }

/-- The server emits frames. -/
def serverSends (t : Tunnel) (frames : List Frame) : Tunnel :=
  { t with toClient := t.toClient ++ frames, sentByServer := t.sentByServer ++ frames }

/-- One call. Handling a frame takes the oldest one of the channel, if there is one. -/
def step (t : Tunnel) : TunnelEvent → Tunnel
  | .start =>
    match t.client.start with
    | (.ok frame, client) => { t with client }.clientSends [frame]
    | (.error _, client) => { t with client }
  | .makeDataToServer packet =>
    let (frame, client) := t.client.makeDataToServer packet
    { t with client }.clientSends frame.toList
  | .makePing nonce =>
    let (frame, client) := t.client.makePing nonce
    { t with client }.clientSends frame.toList
  | .makeClose code =>
    let (frame, client) := t.client.makeClose code
    { t with client }.clientSends frame.toList
  | .clientHandle =>
    match t.toClient with
    | [] => t
    | frame :: toClient =>
      match t.client.handle frame with
      | (.ok result, client) =>
        { t with client, toClient, clientTun := t.clientTun ++ result.packetsToTun }.clientSends
          result.outboundFrames
      | (.error _, client) => { t with client, toClient }
  | .serverHandle now =>
    match t.toServer with
    | [] => t
    | frame :: toServer =>
      match t.server.handle t.manager frame now with
      | (.ok result, server, manager) =>
        { t with
          server, manager, toServer
          serverTun := t.serverTun ++ result.packetsToTun }.serverSends result.outboundFrames
      | (.error _, server, manager) => { t with server, manager, toServer }
  | .makeDataToClient packet now =>
    let (frame, server, manager) := t.server.makeDataToClient t.manager packet now
    { t with server, manager }.serverSends frame.toList
  | .clientTransportClosed => { t with client := t.client.onTransportClosed }
  | .serverTransportClosed =>
    let (server, manager) := t.server.onTransportClosed t.manager
    { t with server, manager }
  | .lease call => { t with manager := t.manager.call call }

end Tunnel

end PersonalVpn.Core
