import PersonalVpn.Basic

namespace PersonalVpn.Server

/-- The error codes the device reports: its own, and those of the system. -/
inductive TunError where
  | invalidArgument
  | ioError
  | notConnected
  | messageSize
  | noBufferSpace
  | system (value : Nat)
  deriving DecidableEq, Repr

/-- A packet of the write queue. Every vector has storage of its own, named by `buffer`; moving the
vector into the queue takes the storage along. -/
structure QueuedPacket where
  buffer : Nat
  bytes : Bytes
  deriving DecidableEq, Repr

/-- `LinuxTunDevice` with the operations it has outstanding: `reading` and `writing` are the
`async_read_some` and the `async_write_some` whose handlers have not run, the latter with the packet
its buffer refers to. `received` has the packets given to the packet handler, `errors` the calls of
the error handler, and `buffers` counts the packets made so far. -/
structure LinuxTunDevice where
  name : Bytes
  maximumQueuedPackets : Nat
  maximumQueuedBytes : Nat
  packetHandler : Bool := false
  errorHandler : Bool := false
  writeQueue : List QueuedPacket := []
  queuedBytes : Nat := 0
  writeInProgress : Bool := false
  started : Bool := false
  stopped : Bool := false
  descriptorOpen : Bool := true
  reading : Bool := false
  writing : Option QueuedPacket := none
  received : List Bytes := []
  errors : List TunError := []
  buffers : Nat := 0
  deriving DecidableEq, Repr

namespace LinuxTunDevice

def kMaximumPacketSize : Nat := 65535

/-- `adopt` and the constructor. -/
def adopt (nativeDescriptor : Int) (name : Bytes) (maximumQueuedPackets maximumQueuedBytes : Nat) :
    Except Exception LinuxTunDevice := do
  throwIf (nativeDescriptor < 0) (.invalidArgument (text "TUN descriptor must be valid"))
  throwIf (name = []) (.invalidArgument (text "TUN interface name must not be empty"))
  throwIf (maximumQueuedPackets = 0 ∨ maximumQueuedBytes = 0)
    (.invalidArgument (text "TUN write queue limits must be positive"))
  return { name, maximumQueuedPackets, maximumQueuedBytes }

def stopOnStrand (d : LinuxTunDevice) : LinuxTunDevice :=
  if d.stopped then d
  else
    { d with
      stopped := true
      writeQueue := []
      queuedBytes := 0
      packetHandler := false
      errorHandler := false
      descriptorOpen := false }

/-- The error handler is moved out before the device is stopped, and called after. -/
def fail (d : LinuxTunDevice) (error : TunError) : LinuxTunDevice :=
  if d.stopped then d
  else
    let handler := d.errorHandler
    let d := stopOnStrand { d with errorHandler := false }
    if handler then { d with errors := d.errors ++ [error] } else d

/-- The next operation refers to the front element of the queue. -/
def writeNext (d : LinuxTunDevice) : LinuxTunDevice :=
  if d.stopped ∨ d.writeQueue = [] then { d with writeInProgress := false }
  else { d with writeInProgress := true, writing := d.writeQueue.head? }

def enqueueWrite (d : LinuxTunDevice) (packet : Bytes) : LinuxTunDevice :=
  if d.stopped then d
  else if !d.started then d.fail .notConnected
  else if packet = [] ∨ packet.length > kMaximumPacketSize then d.fail .messageSize
  else if d.writeQueue.length ≥ d.maximumQueuedPackets ∨
      packet.length > d.maximumQueuedBytes - d.queuedBytes then d.fail .noBufferSpace
  else
    let d := { d with
      queuedBytes := d.queuedBytes + packet.length
      writeQueue := d.writeQueue ++ [⟨d.buffers, packet⟩]
      buffers := d.buffers + 1 }
    if !d.writeInProgress then d.writeNext else d

def handleWrite (d : LinuxTunDevice) (error : Option TunError) (bytesTransferred : Nat) :
    LinuxTunDevice :=
  if d.stopped then d
  else
    match error with
    | some e => d.fail e
    | none =>
      match d.writeQueue with
      | [] => d.fail .ioError
      | front :: rest =>
        if bytesTransferred ≠ front.bytes.length then d.fail .ioError
        else
          writeNext { d with queuedBytes := d.queuedBytes - front.bytes.length, writeQueue := rest }

def readNext (d : LinuxTunDevice) : LinuxTunDevice := { d with reading := true }

/-- `packet` has the bytes transferred. -/
def handleRead (d : LinuxTunDevice) (error : Option TunError) (packet : Bytes) : LinuxTunDevice :=
  if d.stopped then d
  else
    match error with
    | some e => d.fail e
    | none =>
      if packet = [] then d.fail .ioError
      else readNext { d with received := d.received ++ [packet] }

def startOnStrand (d : LinuxTunDevice) : LinuxTunDevice :=
  if d.stopped then d
  else if d.started then d.fail .invalidArgument
  else readNext { d with started := true, packetHandler := true, errorHandler := true }

end LinuxTunDevice

/-- What runs on the strand of the device: posted calls, and the handlers of its operations. -/
inductive TunEvent where
  | start
  | write (packet : Bytes)
  | readCompleted (error : Option TunError) (packet : Bytes)
  | writeCompleted (error : Option TunError) (bytesTransferred : Nat)
  | stop
  deriving DecidableEq, Repr

/-- A completion handler runs once for each operation that was started. -/
def LinuxTunDevice.step (d : LinuxTunDevice) : TunEvent → LinuxTunDevice
  | .start => d.startOnStrand
  | .write packet => d.enqueueWrite packet
  | .readCompleted error packet =>
    if d.reading then handleRead { d with reading := false } error packet else d
  | .writeCompleted error bytesTransferred =>
    if d.writing.isSome then handleWrite { d with writing := none } error bytesTransferred else d
  | .stop => d.stopOnStrand

end PersonalVpn.Server
