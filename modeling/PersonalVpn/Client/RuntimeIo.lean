import PersonalVpn.Client.ClientConfig
import PersonalVpn.Client.ClientRuntime

namespace PersonalVpn.Client

open PersonalVpn.Core Protocol

/-- The build, and on Windows whether the packet device is a `WindowsNetworkBackend`. -/
inductive Platform where
  | windows (failClosedBackend : Bool)
  | other
  deriving DecidableEq, Repr

/-- A resolved endpoint of the server. -/
inductive Endpoint where
  | v4 (address : Ipv4Address) (port : UInt16)
  | v6 (address : Ipv6Address) (port : UInt16)
  deriving DecidableEq, Repr

structure WindowsVpnEndpoint where
  address : Ipv6Address
  port : UInt16
  ipv6 : Bool
  deriving DecidableEq, Repr

/-- An IPv4 address goes to the front of the array. -/
def Endpoint.toWindows : Endpoint → WindowsVpnEndpoint
  | v4 address port => ⟨copyN (address.toList ++ List.replicate 12 0) 0 16, port, false⟩
  | v6 address port => ⟨address, port, true⟩

/-- A tunnel as its callbacks show it. It publishes at most one assignment, and calls nothing back
after its close handler. -/
structure RuntimeTunnel where
  generation : UInt64
  assigned : Bool := false
  closed : Bool := false
  deriving DecidableEq, Repr

/-- What the I/O thread does to the world outside, with what it finds at that moment. -/
inductive RuntimeAction where
  /-- `begin_connect` past its check, into a new generation -/
  | beginConnect (generation : UInt64)
  | enableKillSwitch (endpoints : List WindowsVpnEndpoint)
  | asyncConnect
  /-- with the transaction that is asked to activate -/
  | activate (transaction : ClientNetworkTransaction)
  /-- and whether `packet_thread_` was joinable -/
  | startReader (unjoined : Bool)
  | sendPacket (packet : Bytes)
  | scheduleReconnect
  | finish
  /-- with the transaction at that moment -/
  | publish (state : ClientRuntimeState) (transaction : ClientNetworkTransaction)
  deriving DecidableEq, Repr

/-- A started runtime, with what its I/O thread owns: the operations outstanding there with the
generations of their callbacks, and the record of what it did. -/
structure RuntimeIo (σ : Type) where
  config : ClientConfig
  runtime : ClientRuntime := {}
  network : ClientNetworkTransaction × σ
  packetThread : Bool := false
  reconnectAttempt : Nat := 0
  pendingStream : Bool := false
  tunnel : Option Nat := none
  tunnels : List RuntimeTunnel := []
  beginPosted : Bool := false
  stopPosted : Nat := 0
  resolves : List UInt64 := []
  connects : List UInt64 := []
  connectionWaits : List UInt64 := []
  reconnectWaits : Nat := 0
  ioStopped : Bool := false
  actions : List RuntimeAction := []

/-- What happens to a runtime. `draw` is what the random generator returns where a retry asks it. -/
inductive RuntimeEvent where
  /-- the `begin_connect` that `start` posts -/
  | begin
  | resolve (generation : UInt64) (error : Option Bytes) (endpoints : List Endpoint)
      (killSwitch : Except Exception Unit) (draw : Nat)
  | connect (generation : UInt64) (error : Option Bytes) (draw : Nat)
  | connectionTimer (generation : UInt64) (error : Bool) (draw : Nat)
  | reconnectTimer (error : Bool)
  | assignment (tunnel : Nat) (assignment : IpAssignment)
  | packet (tunnel : Nat) (packet : Bytes) (failure : Option Bytes)
  | tunnelClosed (tunnel : Nat) (remoteError : Option ErrorMessage) (retryable : Bool) (draw : Nat)
  /-- `stop`, on any thread, and the function that it posts -/
  | stop
  | stopHandler
  /-- the packet reader catches an exception -/
  | readerFailed (what : Bytes)

def requestsFullTunnel (config : ClientConfig) : Bool :=
  config.allowDefaultRoute &&
    (decide (text "0.0.0.0/0" ∈ config.routes) || decide (text "::/0" ∈ config.routes))

/-- The delay in milliseconds, and `reconnect_attempt_` after it. -/
def nextReconnectDelay (reconnectAttempt draw : Nat) : Nat × Nat :=
  let exponent := min reconnectAttempt 5
  let cap := min (1000 <<< exponent) 30000
  (cap / 2 + draw % (cap - cap / 2 + 1),
    if reconnectAttempt < 5 then reconnectAttempt + 1 else reconnectAttempt)

namespace RuntimeIo

variable {σ : Type} (backend : ClientNetworkBackend σ) (parsers : AddressParsers)
  (platform : Platform)

/-- The constructor, and `start`. -/
def started (config : ClientConfig) (device : σ) : RuntimeIo σ where
  config
  runtime := ClientRuntime.transition {} .starting (text "client runtime starting")
  network := ({}, device)
  beginPosted := true

def act (w : RuntimeIo σ) (action : RuntimeAction) : RuntimeIo σ :=
  { w with actions := w.actions ++ [action] }

def transition (w : RuntimeIo σ) (state : ClientRuntimeState) (message : Bytes) : RuntimeIo σ :=
  { w with runtime := w.runtime.transition state message }.act (.publish state w.network.1)

def recordFailure (w : RuntimeIo σ) (message : Bytes) : RuntimeIo σ :=
  { w with runtime := w.runtime.recordFailure message }

/-- The end of `finish_on_io` and of `retry_on_io`: the reader is joined, the network is as it was
before and the connection is gone. -/
def tearDown (w : RuntimeIo σ) : RuntimeIo σ :=
  { w with
    packetThread := false
    network := ClientNetworkTransaction.rollback backend w.network
    pendingStream := false
    tunnel := none }

def finishOnIo (w : RuntimeIo σ) : RuntimeIo σ :=
  if w.runtime.finished then w
  else
    let w := w.tearDown backend
    let runtime := w.runtime.finishOnIo
    let w := (w.act .finish).act (.publish runtime.state w.network.1)
    { w with runtime, ioStopped := true }

def retryOnIo (w : RuntimeIo σ) (reason : Bytes) (draw : Nat) : RuntimeIo σ :=
  if w.runtime.finished then w
  else if w.runtime.stopRequested ∨ w.runtime.intentionalStop then w.finishOnIo backend
  else
    let w := w.tearDown backend
    let (delay, reconnectAttempt) := nextReconnectDelay w.reconnectAttempt draw
    let w := (w.act (.publish .reconnecting w.network.1)).act .scheduleReconnect
    { w with
      runtime := w.runtime.retryOnIo reason delay
      reconnectAttempt
      reconnectWaits := w.reconnectWaits + 1 }

def beginConnect (w : RuntimeIo σ) : RuntimeIo σ :=
  if w.runtime.stopRequested then w.finishOnIo backend
  else
    let generation := w.runtime.connectionGeneration + 1
    let w := { w with runtime.connectionGeneration := generation }.act (.beginConnect generation)
    let w := w.transition .resolving (text "resolving VPN server")
    { w with
      connectionWaits := w.connectionWaits ++ [generation]
      resolves := w.resolves ++ [generation] }

/-- The end of `handle_resolve`. -/
def asyncConnect (w : RuntimeIo σ) (generation : UInt64) : RuntimeIo σ :=
  let w := (w.transition .connecting (text "connecting with mutual TLS")).act .asyncConnect
  { w with pendingStream := true, connects := w.connects ++ [generation] }

def handleResolve (w : RuntimeIo σ) (generation : UInt64) (error : Option Bytes)
    (endpoints : List Endpoint) (killSwitch : Except Exception Unit) (draw : Nat) : RuntimeIo σ :=
  if generation ≠ w.runtime.connectionGeneration then w
  else if w.runtime.stopRequested then w.finishOnIo backend
  else
    match error with
    | some message =>
      w.retryOnIo backend (text "server name resolution failed: " ++ message) draw
    | none =>
      if requestsFullTunnel w.config then
        match platform, killSwitch with
        | .other, _ =>
          (w.recordFailure (text "full-tunnel mode is unavailable without a dual-stack kill switch")
            ).finishOnIo backend
        | .windows false, _ =>
          (w.recordFailure
            (text "full-tunnel mode requires the Windows fail-closed network backend")
            ).finishOnIo backend
        | .windows true, .error failure =>
          (w.recordFailure (text "failed to enable persistent dual-stack kill switch: " ++
            failure.what)).finishOnIo backend
        | .windows true, .ok () =>
          (w.act (.enableKillSwitch (endpoints.map Endpoint.toWindows))).asyncConnect generation
      else w.asyncConnect generation

def handleConnect (w : RuntimeIo σ) (generation : UInt64) (error : Option Bytes) (draw : Nat) :
    RuntimeIo σ :=
  if generation ≠ w.runtime.connectionGeneration then w
  else if w.runtime.stopRequested then w.finishOnIo backend
  else
    match error with
    | some message => w.retryOnIo backend (text "TCP connection failed: " ++ message) draw
    | none =>
      { w with
        tunnel := some w.tunnels.length
        tunnels := w.tunnels ++ [{ generation }]
        pendingStream := false }

/-- The value that `configure_network` returns goes to the tunnel. -/
def configureNetwork (w : RuntimeIo σ) (assignment : IpAssignment) : Bool × RuntimeIo σ :=
  if w.runtime.stopRequested then (false, w)
  else
    let w := w.transition .configuringNetwork (text "applying tunnel network transaction")
    let w := w.act (.activate w.network.1)
    match ClientNetworkTransaction.activate backend parsers assignment w.config.routes w.network with
    | (.error error, network) =>
      (false, { w with network }.recordFailure
        (text "network configuration failed: " ++ error.what))
    | (.ok (), network) =>
      let w := { w with network, reconnectAttempt := 0 }
      let w := w.transition .connected (text "VPN tunnel connected")
      (true, { w.act (.startReader w.packetThread) with packetThread := true })

/-- The assignment handler that `handle_connect` gives to a tunnel. -/
def onAssignment (w : RuntimeIo σ) (generation : UInt64) (assignment : IpAssignment) :
    Bool × RuntimeIo σ :=
  if generation = w.runtime.connectionGeneration then w.configureNetwork backend parsers assignment
  else (false, w)

/-- `deliver_to_packet_device`, with what `send_packet` throws. -/
def deliverToPacketDevice (w : RuntimeIo σ) (packet : Bytes) (failure : Option Bytes) :
    RuntimeIo σ :=
  let w := w.act (.sendPacket packet)
  match failure with
  | none => w
  | some what =>
    let w := w.recordFailure (text "virtual adapter write failed: " ++ what)
    { w with runtime.stopRequested := true }

/-- The packet sink that `handle_connect` gives to a tunnel. -/
def onPacket (w : RuntimeIo σ) (generation : UInt64) (packet : Bytes) (failure : Option Bytes) :
    RuntimeIo σ :=
  if generation = w.runtime.connectionGeneration then w.deliverToPacketDevice packet failure else w

def onTunnelClosed (w : RuntimeIo σ) (generation : UInt64) (remoteError : Option ErrorMessage)
    (retryable : Bool) (draw : Nat) : RuntimeIo σ :=
  if generation ≠ w.runtime.connectionGeneration then w
  else if w.runtime.intentionalStop ∨ w.runtime.stopRequested then w.finishOnIo backend
  else
    let w := match remoteError with
      | some e => w.recordFailure
          (text "server rejected the session with error code " ++ toText e.code.toNat)
      | none =>
        if !retryable then
          w.recordFailure
            (text "VPN tunnel closed because of a non-retryable TLS or protocol error")
        else w
    if w.runtime.failureMessage ≠ [] then w.finishOnIo backend
    else w.retryOnIo backend (text "VPN transport closed unexpectedly") draw

/-- The callback of the connection timer. -/
def onConnectionTimer (w : RuntimeIo σ) (generation : UInt64) (error : Bool) (draw : Nat) :
    RuntimeIo σ :=
  if !error ∧ generation = w.runtime.connectionGeneration ∧ !w.runtime.finished then
    w.retryOnIo backend (text "connection timed out before tunnel establishment") draw
  else w

/-- The callback of the reconnect timer. -/
def onReconnectTimer (w : RuntimeIo σ) (error : Bool) : RuntimeIo σ :=
  if !error ∧ !w.runtime.stopRequested ∧ !w.runtime.finished then w.beginConnect backend
  else if w.runtime.stopRequested then w.finishOnIo backend
  else w

/-- `stop`, which publishes from the thread of its caller. -/
def stop (w : RuntimeIo σ) : RuntimeIo σ :=
  if w.runtime.finished then w
  else
    let runtime := { w.runtime with intentionalStop := true, stopRequested := true }
    { w with
      runtime := runtime.transition .stopping (text "disconnect requested")
      stopPosted := w.stopPosted + 1 }

/-- The function that `stop` posts. A tunnel is asked to stop, and calls back later. -/
def onStop (w : RuntimeIo σ) : RuntimeIo σ :=
  if w.tunnel.isSome then w else w.finishOnIo backend

/-- The `catch` of `run_packet_reader`. -/
def readerFailed (w : RuntimeIo σ) (what : Bytes) : RuntimeIo σ :=
  let w := w.recordFailure (text "virtual adapter read failed: " ++ what)
  { w with runtime.stopRequested := true }

/-- What the I/O thread runs: the callback of an operation that is outstanding, or of a tunnel. -/
def handle (w : RuntimeIo σ) : RuntimeEvent → RuntimeIo σ
  | .begin => if w.beginPosted then { w with beginPosted := false }.beginConnect backend else w
  | .resolve generation error endpoints killSwitch draw =>
    if generation ∈ w.resolves then
      { w with resolves := w.resolves.erase generation }.handleResolve backend platform generation
        error endpoints killSwitch draw
    else w
  | .connect generation error draw =>
    if generation ∈ w.connects then
      { w with connects := w.connects.erase generation }.handleConnect backend generation error draw
    else w
  | .connectionTimer generation error draw =>
    if generation ∈ w.connectionWaits then
      { w with connectionWaits := w.connectionWaits.erase generation }.onConnectionTimer backend
        generation error draw
    else w
  | .reconnectTimer error =>
    if 0 < w.reconnectWaits then
      { w with reconnectWaits := w.reconnectWaits - 1 }.onReconnectTimer backend error
    else w
  | .assignment tunnel assignment =>
    match w.tunnels[tunnel]? with
    | some t =>
      if t.assigned || t.closed then w
      else
        let w := { w with tunnels := w.tunnels.set tunnel { t with assigned := true } }
        (w.onAssignment backend parsers t.generation assignment).2
    | none => w
  | .packet tunnel packet failure =>
    match w.tunnels[tunnel]? with
    | some t => if t.closed then w else w.onPacket t.generation packet failure
    | none => w
  | .tunnelClosed tunnel remoteError retryable draw =>
    match w.tunnels[tunnel]? with
    | some t =>
      if t.closed then w
      else
        let w := { w with tunnels := w.tunnels.set tunnel { t with closed := true } }
        w.onTunnelClosed backend t.generation remoteError retryable draw
    | none => w
  | .stopHandler =>
    if 0 < w.stopPosted then { w with stopPosted := w.stopPosted - 1 }.onStop backend else w
  | .stop => w
  | .readerFailed _ => w

/-- One event. `finish_on_io` ends with `io_context_.stop()`, after which the I/O thread runs nothing
more. -/
def step (w : RuntimeIo σ) : RuntimeEvent → RuntimeIo σ
  | .stop => w.stop
  | .readerFailed what => if w.packetThread then w.readerFailed what else w
  | event => if w.ioStopped then w else w.handle backend parsers platform event

end RuntimeIo

end PersonalVpn.Client
