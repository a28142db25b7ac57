import PersonalVpn.Lib.BoundedFifo
import PersonalVpn.Lib.FifoWriter
import PersonalVpn.Server.TunWriteOwnership

namespace PersonalVpn.Server

/-- A device with its books: the reads whose handlers have not run, the packets that `enqueue_write`
took into the queue, those passed to the descriptor, each with an `async_write_some` of its own, and
the number of these writes whose handlers have run. -/
structure TunTraffic where
  device : LinuxTunDevice
  reads : Nat := 0
  accepted : List Bytes := []
  submitted : List Bytes := []
  completed : Nat := 0
  deriving DecidableEq, Repr

namespace TunTraffic

open LinuxTunDevice (kMaximumPacketSize)

/-- The writes whose handlers have not run. -/
def outstanding (t : TunTraffic) : Nat := t.submitted.length - t.completed

def stopOnStrand (t : TunTraffic) : TunTraffic := { t with device := t.device.stopOnStrand }

def fail (t : TunTraffic) (error : TunError) : TunTraffic := { t with device := t.device.fail error }

def writeNext (t : TunTraffic) : TunTraffic :=
  if t.device.stopped ∨ t.device.writeQueue = [] then { t with device := t.device.writeNext }
  else
    { t with
      device := t.device.writeNext
      submitted := t.submitted ++ (t.device.writeQueue.head?.map (·.bytes)).toList }

def enqueueWrite (t : TunTraffic) (packet : Bytes) : TunTraffic :=
  let d := t.device
  if d.stopped then t
  else if !d.started then t.fail .notConnected
  else if packet = [] ∨ packet.length > kMaximumPacketSize then t.fail .messageSize
  else if d.writeQueue.length ≥ d.maximumQueuedPackets ∨
      packet.length > d.maximumQueuedBytes - d.queuedBytes then t.fail .noBufferSpace
  else
    let t := { t with
      device := { d with
        queuedBytes := d.queuedBytes + packet.length
        writeQueue := d.writeQueue ++ [⟨d.buffers, packet⟩]
        buffers := d.buffers + 1 }
      accepted := t.accepted ++ [packet] }
    if !d.writeInProgress then t.writeNext else t

def handleWrite (t : TunTraffic) (error : Option TunError) (bytesTransferred : Nat) : TunTraffic :=
  let d := t.device
  if d.stopped then t
  else
    match error with
    | some e => t.fail e
    | none =>
      match d.writeQueue with
      | [] => t.fail .ioError
      | front :: rest =>
        if bytesTransferred ≠ front.bytes.length then t.fail .ioError
        else
          writeNext { t with
            device := { d with
              queuedBytes := d.queuedBytes - front.bytes.length
              writeQueue := rest } }

def readNext (t : TunTraffic) : TunTraffic :=
  { t with device := t.device.readNext, reads := t.reads + 1 }

def handleRead (t : TunTraffic) (error : Option TunError) (packet : Bytes) : TunTraffic :=
  let d := t.device
  if d.stopped then t
  else
    match error with
    | some e => t.fail e
    | none =>
      if packet = [] then t.fail .ioError
      else readNext { t with device := { d with received := d.received ++ [packet] } }

def startOnStrand (t : TunTraffic) : TunTraffic :=
  let d := t.device
  if d.stopped then t
  else if d.started then t.fail .invalidArgument
  else
    readNext { t with
      device := { d with started := true, packetHandler := true, errorHandler := true } }

/-- The operation that an event completes is outstanding. -/
def Pending (t : TunTraffic) : TunEvent → Prop
  | .readCompleted _ _ => 0 < t.reads
  | .writeCompleted _ _ => t.completed < t.submitted.length
  | _ => True

instance (t : TunTraffic) : (e : TunEvent) → Decidable (t.Pending e)
  | .readCompleted _ _ => inferInstanceAs (Decidable (0 < _))
  | .writeCompleted _ _ => inferInstanceAs (Decidable (_ < _))
  | .start | .write _ | .stop => inferInstanceAs (Decidable True)

/-- The operation that an event completes is no longer outstanding. -/
def ended (t : TunTraffic) : TunEvent → TunTraffic
  | .readCompleted _ _ =>
    { t with device := { t.device with reading := false }, reads := t.reads - 1 }
  | .writeCompleted _ _ =>
    { t with device := { t.device with writing := none }, completed := t.completed + 1 }
  | _ => t

def step (t : TunTraffic) (e : TunEvent) : TunTraffic :=
  if t.Pending e then
    match e with
    | .start => t.startOnStrand
    | .write packet => t.enqueueWrite packet
    | .readCompleted error packet => (t.ended e).handleRead error packet
    | .writeCompleted error bytesTransferred => (t.ended e).handleWrite error bytesTransferred
    | .stop => t.stopOnStrand
  else t

/-- The failures of a device that has not been stopped. -/
inductive Fails (t : TunTraffic) : TunEvent → TunError → Prop where
  | restarted (started : t.device.started = true) : Fails t .start .invalidArgument
  | unstarted {packet : Bytes} (started : t.device.started = false) :
      Fails t (.write packet) .notConnected
  | size {packet : Bytes} (started : t.device.started = true)
      (size : packet = [] ∨ kMaximumPacketSize < packet.length) : Fails t (.write packet) .messageSize
  | full {packet : Bytes} (started : t.device.started = true)
      (size : ¬(packet = [] ∨ kMaximumPacketSize < packet.length))
      (full : t.device.maximumQueuedPackets ≤ t.device.writeQueue.length ∨
        t.device.maximumQueuedBytes - t.device.queuedBytes < packet.length) :
      Fails t (.write packet) .noBufferSpace
  | read {error : TunError} {packet : Bytes} : Fails t (.readCompleted (some error) packet) error
  | nothingRead : Fails t (.readCompleted none []) .ioError
  | write {error : TunError} {n : Nat} : Fails t (.writeCompleted (some error) n) error
  | short {n : Nat} (short : t.device.writeQueue.head?.map (·.bytes.length) ≠ some n) :
      Fails t (.writeCompleted none n) .ioError

/-- The packet is accepted, and written at once if no write is in progress. -/
def accept (t : TunTraffic) (packet : Bytes) : TunTraffic :=
  let t' : TunTraffic := { t with
    device := { t.device with
      queuedBytes := t.device.queuedBytes + packet.length
      writeQueue := t.device.writeQueue ++ [⟨t.device.buffers, packet⟩]
      buffers := t.device.buffers + 1 }
    accepted := t.accepted ++ [packet] }
  if !t.device.writeInProgress then t'.writeNext else t'

/-- The front packet leaves the queue, and the next one is written. -/
def finish (t : TunTraffic) (front : QueuedPacket) (rest : List QueuedPacket) : TunTraffic :=
  writeNext { t with
    device := { t.device with
      queuedBytes := t.device.queuedBytes - front.bytes.length
      writeQueue := rest
      writing := none }
    completed := t.completed + 1 }

/-- What a step can do. -/
inductive Stepped (t : TunTraffic) : TunEvent → TunTraffic → Prop where
  | idle {e : TunEvent} (pending : ¬t.Pending e) : Stepped t e t
  | late {e : TunEvent} (pending : t.Pending e) (stopped : t.device.stopped = true) :
      Stepped t e (t.ended e)
  | stop (running : t.device.stopped = false) : Stepped t .stop t.stopOnStrand
  | failed {e : TunEvent} {error : TunError} (pending : t.Pending e)
      (running : t.device.stopped = false) (fails : t.Fails e error) :
      Stepped t e ((t.ended e).fail error)
  | started (running : t.device.stopped = false) (fresh : t.device.started = false) :
      Stepped t .start (readNext { t with
        device := { t.device with started := true, packetHandler := true, errorHandler := true } })
  | delivered {packet : Bytes} (pending : 0 < t.reads) (running : t.device.stopped = false)
      (nonempty : packet ≠ []) :
      Stepped t (.readCompleted none packet) (readNext { t with
        device := { t.device with received := t.device.received ++ [packet], reading := false }
        reads := t.reads - 1 })
  | accepted {packet : Bytes} (running : t.device.stopped = false)
      (started : t.device.started = true)
      (size : ¬(packet = [] ∨ kMaximumPacketSize < packet.length))
      (room : ¬(t.device.maximumQueuedPackets ≤ t.device.writeQueue.length ∨
        t.device.maximumQueuedBytes - t.device.queuedBytes < packet.length)) :
      Stepped t (.write packet) (t.accept packet)
  | written {front : QueuedPacket} {rest : List QueuedPacket}
      (pending : t.completed < t.submitted.length) (running : t.device.stopped = false)
      (queue : t.device.writeQueue = front :: rest) :
      Stepped t (.writeCompleted none front.bytes.length) (t.finish front rest)

theorem step_stepped (t : TunTraffic) (e : TunEvent) : Stepped t e (t.step e) := by
  unfold step
  split_ifs with hpending
  swap
  · exact .idle hpending
  cases hs : t.device.stopped with
  | true =>
    have hlate := Stepped.late hpending hs
    cases e with
    | start => simpa [startOnStrand, hs, ended] using hlate
    | write packet => simpa [enqueueWrite, hs, ended] using hlate
    | readCompleted error packet => simpa [handleRead, hs, ended] using hlate
    | writeCompleted error n => simpa [handleWrite, hs, ended] using hlate
    | stop => simpa [stopOnStrand, LinuxTunDevice.stopOnStrand, hs, ended] using hlate
  | false =>
    cases e with
    | start =>
      dsimp only [startOnStrand]
      rw [if_neg (by simp [hs])]
      split_ifs with hstarted
      · exact .failed trivial hs (.restarted hstarted)
      · exact .started hs (by simpa using hstarted)
    | write packet =>
      dsimp only [enqueueWrite]
      rw [if_neg (by simp [hs])]
      split_ifs with hstarted hsize hroom hbusy
      · exact .failed trivial hs (.unstarted (by simpa using hstarted))
      · exact .failed trivial hs (.size (by simpa using hstarted) hsize)
      · exact .failed trivial hs (.full (by simpa using hstarted) hsize hroom)
      · have haccepted := Stepped.accepted hs (by simpa using hstarted) hsize hroom
        rwa [accept, if_pos hbusy] at haccepted
      · have haccepted := Stepped.accepted hs (by simpa using hstarted) hsize hroom
        rwa [accept, if_neg hbusy] at haccepted
    | readCompleted error packet =>
      dsimp only [handleRead]
      rw [if_neg (by simp [ended, hs])]
      cases error with
      | some error => exact .failed hpending hs .read
      | none =>
        dsimp only
        split_ifs with hempty
        · subst hempty
          exact .failed hpending hs .nothingRead
        · exact .delivered hpending hs hempty
    | writeCompleted error n =>
      dsimp only [handleWrite]
      rw [if_neg (by simp [ended, hs])]
      cases error with
      | some error => exact .failed hpending hs .write
      | none =>
        cases hqueue : t.device.writeQueue with
        | nil =>
          have hfailed := Stepped.failed hpending hs (.short (n := n) (by simp [hqueue]))
          simpa only [ended, hqueue] using hfailed
        | cons front rest =>
          simp only [ended, hqueue]
          split_ifs with hlen
          · have hshort : t.device.writeQueue.head?.map (·.bytes.length) ≠ some n := by
              simpa [hqueue] using Ne.symm hlen
            have hfailed := Stepped.failed hpending hs (.short hshort)
            simpa only [ended, hqueue] using hfailed
          · obtain rfl : n = front.bytes.length := by simpa using hlen
            exact .written hpending hs hqueue
    | stop => exact .stop hs

end TunTraffic

end PersonalVpn.Server
