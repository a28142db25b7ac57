import PersonalVpn.Server.TunTraffic

namespace PersonalVpn.Server.TunTraffic

/-! ### The device of the books -/

theorem writeNext_device (t : TunTraffic) : t.writeNext.device = t.device.writeNext := by
  unfold writeNext
  split_ifs <;> rfl

theorem enqueueWrite_device (t : TunTraffic) (packet : Bytes) :
    (t.enqueueWrite packet).device = t.device.enqueueWrite packet := by
  dsimp only [enqueueWrite, LinuxTunDevice.enqueueWrite]
  split_ifs
  all_goals first | rfl | exact writeNext_device _

theorem handleWrite_device (t : TunTraffic) (error : Option TunError) (n : Nat) :
    (t.handleWrite error n).device = t.device.handleWrite error n := by
  dsimp only [handleWrite, LinuxTunDevice.handleWrite]
  split_ifs
  · rfl
  · cases error with
    | some error => rfl
    | none =>
      cases t.device.writeQueue with
      | nil => rfl
      | cons front rest =>
        dsimp only
        split_ifs
        · rfl
        · exact writeNext_device _

theorem handleRead_device (t : TunTraffic) (error : Option TunError) (packet : Bytes) :
    (t.handleRead error packet).device = t.device.handleRead error packet := by
  dsimp only [handleRead, LinuxTunDevice.handleRead]
  split_ifs
  · rfl
  all_goals cases error <;> rfl

theorem startOnStrand_device (t : TunTraffic) :
    t.startOnStrand.device = t.device.startOnStrand := by
  dsimp only [startOnStrand, LinuxTunDevice.startOnStrand]
  split_ifs <;> rfl

/-- The operations that the device is said to have outstanding are those of the books. -/
structure Matches (t : TunTraffic) : Prop where
  reads : t.reads = t.device.reading.toNat
  writes : t.submitted.length = t.completed + t.device.writing.isSome.toNat

theorem Matches.step_device {t : TunTraffic} (h : t.Matches) (e : TunEvent) :
    (t.step e).device = t.device.step e := by
  have hreads := h.reads
  have hwrites := h.writes
  cases e with
  | start => exact t.startOnStrand_device
  | write packet => exact t.enqueueWrite_device packet
  | readCompleted error packet =>
    cases hreading : t.device.reading with
    | false =>
      have hpending : ¬t.Pending (.readCompleted error packet) := by simp [Pending, hreads, hreading]
      rw [step, if_neg hpending, LinuxTunDevice.step, if_neg (by simp [hreading])]
    | true =>
      have hpending : t.Pending (.readCompleted error packet) := by simp [Pending, hreads, hreading]
      rw [step, if_pos hpending, LinuxTunDevice.step, if_pos hreading]
      exact handleRead_device _ error packet
  | writeCompleted error n =>
    cases hwriting : t.device.writing with
    | none =>
      have hpending : ¬t.Pending (.writeCompleted error n) := by simp [Pending, hwrites, hwriting]
      rw [step, if_neg hpending, LinuxTunDevice.step, if_neg (by simp [hwriting])]
    | some w =>
      have hpending : t.Pending (.writeCompleted error n) := by simp [Pending, hwrites, hwriting]
      rw [step, if_pos hpending, LinuxTunDevice.step, if_pos (by simp [hwriting])]
      exact handleWrite_device _ error n
  | stop => rfl

/-! ### What holds in every run -/

/-- The queue of the device with its limits. -/
def fifo (t : TunTraffic) : BoundedFifo QueuedPacket where
  maximumItems := t.device.maximumQueuedPackets
  maximumSize := t.device.maximumQueuedBytes
  items := t.device.writeQueue
  counted := t.device.queuedBytes

/-- The writer in front of the descriptor. -/
def writer (t : TunTraffic) : FifoWriter Bytes where
  queue := t.device.writeQueue.map (·.bytes)
  busy := t.device.writeInProgress
  written := t.submitted

structure Sound (t : TunTraffic) : Prop where
  device : t.device.Sound
  books : t.Matches
  accounts : t.fifo.Accounts (·.bytes.length) 0
  flows : t.device.stopped = false → t.writer.Flows t.accepted t.completed
  wrote : t.submitted <+: t.accepted
  handler : t.device.errorHandler = true ↔ t.device.started = true ∧ t.device.stopped = false
  fresh : t.device.started = false → t.device.reading = false
  silent : t.device.stopped = false → t.device.errors = []
  once : t.device.errors.length ≤ 1

theorem Matches.ended {t : TunTraffic} (h : t.Matches) {e : TunEvent} (hpending : t.Pending e) :
    (t.ended e).Matches := by
  obtain ⟨hreads, hwrites⟩ := h
  cases e with
  | readCompleted error packet =>
    have hone := Bool.toNat_le t.device.reading
    have hpos : 0 < t.reads := hpending
    refine ⟨?_, hwrites⟩
    simp only [TunTraffic.ended, Bool.toNat_false]
    omega
  | writeCompleted error n =>
    have hone := Bool.toNat_le t.device.writing.isSome
    have hlt : t.completed < t.submitted.length := hpending
    refine ⟨hreads, ?_⟩
    simp only [TunTraffic.ended, Option.isSome_none, Bool.toNat_false]
    omega
  | _ => exact ⟨hreads, hwrites⟩

theorem accept_writer {t : TunTraffic} (hrunning : t.device.stopped = false)
    (hflows : t.writer.Flows t.accepted t.completed) (packet : Bytes) :
    (t.accept packet).writer = t.writer.put packet ∧
      (t.accept packet).completed = t.completed := by
  unfold accept
  cases hbusy : t.device.writeInProgress with
  | true => simp [writer, FifoWriter.put, hbusy]
  | false =>
    have hqueue : t.device.writeQueue = [] := by
      have hiff := hflows.busy
      simpa [writer, hbusy] using hiff
    simp [writer, FifoWriter.put, hbusy, hqueue, writeNext, LinuxTunDevice.writeNext, hrunning]

/-- What starting the next write leaves as it is. -/
theorem writeNext_fields (t : TunTraffic) :
    t.writeNext.fifo = t.fifo ∧ t.writeNext.accepted = t.accepted ∧
      t.writeNext.completed = t.completed ∧ t.writeNext.device.stopped = t.device.stopped ∧
      t.writeNext.device.started = t.device.started ∧
      t.writeNext.device.errorHandler = t.device.errorHandler ∧
      t.writeNext.device.reading = t.device.reading ∧ t.writeNext.reads = t.reads ∧
      t.writeNext.device.errors = t.device.errors ∧
      t.writeNext.device.received = t.device.received := by
  unfold writeNext LinuxTunDevice.writeNext
  split_ifs <;> exact ⟨rfl, rfl, rfl, rfl, rfl, rfl, rfl, rfl, rfl, rfl⟩

theorem accept_fields (t : TunTraffic) (packet : Bytes) :
    (t.accept packet).fifo = t.fifo.push (·.bytes.length) ⟨t.device.buffers, packet⟩ ∧
      (t.accept packet).accepted = t.accepted ++ [packet] ∧
      (t.accept packet).device.stopped = t.device.stopped ∧
      (t.accept packet).device.started = t.device.started ∧
      (t.accept packet).device.errorHandler = t.device.errorHandler ∧
      (t.accept packet).device.reading = t.device.reading ∧
      (t.accept packet).device.errors = t.device.errors ∧
      (t.accept packet).device.received = t.device.received := by
  unfold accept
  dsimp only
  split_ifs
  · obtain ⟨hfifo, haccepted, -, hstopped, hstarted, hhandler, hreading, -, herrors, hreceived⟩ :=
      writeNext_fields { t with
        device := { t.device with
          queuedBytes := t.device.queuedBytes + packet.length
          writeQueue := t.device.writeQueue ++ [⟨t.device.buffers, packet⟩]
          buffers := t.device.buffers + 1 }
        accepted := t.accepted ++ [packet] }
    exact ⟨hfifo, haccepted, hstopped, hstarted, hhandler, hreading, herrors, hreceived⟩
  · exact ⟨rfl, rfl, rfl, rfl, rfl, rfl, rfl, rfl⟩

theorem accept_books {t : TunTraffic} (h : t.Sound) (hrunning : t.device.stopped = false)
    (packet : Bytes) : (t.accept packet).Matches := by
  obtain ⟨hreads, hwrites⟩ := h.books
  unfold accept
  cases hbusy : t.device.writeInProgress with
  | true => exact ⟨hreads, hwrites⟩
  | false =>
    have hnone : t.device.writing = none := by
      cases hwriting : t.device.writing with
      | none => rfl
      | some w =>
        have hinProgress := (h.device.busy hrunning w hwriting).1
        simp [hbusy] at hinProgress
    have hqueue : t.device.writeQueue = [] := (h.device.idle hrunning hnone).2
    rw [hnone] at hwrites
    constructor
    · simpa [writeNext, LinuxTunDevice.writeNext, hrunning] using hreads
    · simpa [writeNext, LinuxTunDevice.writeNext, hrunning, hqueue] using hwrites

theorem finish_fields (t : TunTraffic) (front : QueuedPacket) (rest : List QueuedPacket) :
    (t.finish front rest).fifo =
        { t.fifo with items := rest, counted := t.fifo.counted - front.bytes.length } ∧
      (t.finish front rest).accepted = t.accepted ∧
      (t.finish front rest).completed = t.completed + 1 ∧
      (t.finish front rest).device.stopped = t.device.stopped ∧
      (t.finish front rest).device.started = t.device.started ∧
      (t.finish front rest).device.errorHandler = t.device.errorHandler ∧
      (t.finish front rest).device.reading = t.device.reading ∧
      (t.finish front rest).reads = t.reads ∧
      (t.finish front rest).device.errors = t.device.errors ∧
      (t.finish front rest).device.received = t.device.received :=
  writeNext_fields _

theorem finish_writer {t : TunTraffic} (hrunning : t.device.stopped = false)
    {front : QueuedPacket} {rest : List QueuedPacket} (hqueue : t.device.writeQueue = front :: rest)
    (hlen : t.submitted.length = t.completed + 1) :
    let t' := t.finish front rest
    t'.writer = t.writer.finish ∧
      t'.submitted.length = t'.completed + t'.device.writing.isSome.toNat := by
  unfold finish
  cases rest with
  | nil =>
    simp [writeNext, LinuxTunDevice.writeNext, writer, FifoWriter.finish, hrunning, hqueue, hlen]
  | cons next rest =>
    simp [writeNext, LinuxTunDevice.writeNext, writer, FifoWriter.finish, hrunning, hqueue, hlen]

/-- A step of a running device that keeps it running. -/
theorem Sound.running {t t' : TunTraffic} (h : t.Sound) (hrunning : t.device.stopped = false)
    (hdevice : t'.device.Sound) (hbooks : t'.Matches) (haccounts : t'.fifo.Accounts (·.bytes.length) 0)
    (hflows : t'.writer.Flows t'.accepted t'.completed)
    (hstopped : t'.device.stopped = false)
    (hhandler : t'.device.errorHandler = t'.device.started)
    (hfresh : t'.device.started = false → t'.device.reading = false)
    (herrors : t'.device.errors = t.device.errors) : t'.Sound := by
  have hsilent := h.silent hrunning
  refine ⟨hdevice, hbooks, haccounts, fun _ => hflows, ?_, ?_, hfresh, ?_, ?_⟩
  · rw [hflows.accepted]
    exact List.prefix_append _ _
  · simp [hhandler, hstopped]
  · simp [herrors, hsilent]
  · simp [herrors, hsilent]

/-- A step that shuts the device down. -/
theorem Sound.shut {t t' : TunTraffic} (h : t.Sound) (hdevice : t'.device.Sound)
    (hbooks : t'.Matches) (hshut : t'.device.stopped = true ∧ t'.device.writeQueue = [] ∧
      t'.device.queuedBytes = 0 ∧ t'.device.errorHandler = false)
    (hsubmitted : t'.submitted = t.submitted) (haccepted : t'.accepted = t.accepted)
    (hfresh : t'.device.started = false → t'.device.reading = false)
    (honce : t'.device.errors.length ≤ 1) : t'.Sound := by
  obtain ⟨hstopped, hqueue, hcount, hhandler⟩ := hshut
  refine ⟨hdevice, hbooks, ?_, by simp [hstopped], ?_, by simp [hhandler, hstopped], hfresh,
    by simp [hstopped], honce⟩
  · refine ⟨?_, ?_, ?_⟩
    · simp [fifo, hqueue, hcount]
    · simp [fifo, hcount]
    · simp [fifo, hqueue]
  · rw [hsubmitted, haccepted]
    exact h.wrote

theorem fail_fields {d : LinuxTunDevice} (hs : d.stopped = false) (error : TunError) :
    (d.fail error).errorHandler = false ∧ (d.fail error).reading = d.reading ∧
      (d.fail error).started = d.started ∧ (d.fail error).received = d.received ∧
      (d.fail error).errors = d.errors ++ if d.errorHandler then [error] else [] := by
  unfold LinuxTunDevice.fail LinuxTunDevice.stopOnStrand
  cases d.errorHandler with
  | true => simp [hs]
  | false => simp [hs]

/-- What is left of an operation that has ended. -/
theorem ended_fields (t : TunTraffic) (e : TunEvent) :
    ∃ reading writing, (t.ended e).device = { t.device with reading, writing } ∧
      (reading = t.device.reading ∨ reading = false) ∧ (t.ended e).submitted = t.submitted ∧
      (t.ended e).accepted = t.accepted := by
  cases e with
  | readCompleted error packet => exact ⟨false, t.device.writing, rfl, .inr rfl, rfl, rfl⟩
  | writeCompleted error n => exact ⟨t.device.reading, none, rfl, .inl rfl, rfl, rfl⟩
  | _ => exact ⟨t.device.reading, t.device.writing, rfl, .inl rfl, rfl, rfl⟩

theorem Sound.late {t : TunTraffic} (h : t.Sound) (hs : t.device.stopped = true) {e : TunEvent}
    (hpending : t.Pending e) (hdevice : (t.ended e).device.Sound) : (t.ended e).Sound := by
  have hqueue := h.device.closed hs
  have hcount : t.device.queuedBytes = 0 := by simp [h.device.counted, hqueue]
  have hhandler : t.device.errorHandler = false := by
    have hiff := h.handler
    simpa [hs] using hiff
  obtain ⟨reading, writing, hended, hreading, hsubmitted, haccepted⟩ := t.ended_fields e
  refine h.shut hdevice (h.books.ended hpending) ?_ hsubmitted haccepted ?_ ?_
  · simp [hended, hs, hqueue, hcount, hhandler]
  · rw [hended]
    intro hstarted
    obtain hsame | hnone := hreading
    · exact hsame.trans (h.fresh hstarted)
    · exact hnone
  · simpa [hended] using h.once

theorem Sound.failed {t : TunTraffic} (h : t.Sound) (hs : t.device.stopped = false) {e : TunEvent}
    (hpending : t.Pending e) {error : TunError} (hdevice : ((t.ended e).fail error).device.Sound) :
    ((t.ended e).fail error).Sound := by
  obtain ⟨reading, writing, hended, hreading, hsubmitted, haccepted⟩ := t.ended_fields e
  have hrunning : (t.ended e).device.stopped = false := by simp [hended, hs]
  have hshut := LinuxTunDevice.fail_shut hrunning error
  obtain ⟨hhandler, hread, hstarted, -, herrors⟩ := fail_fields hrunning error
  obtain ⟨hreads, hwrites⟩ := h.books.ended hpending
  refine h.shut hdevice ⟨?_, ?_⟩ ⟨hshut.stopped, hshut.writeQueue, hshut.queuedBytes, hhandler⟩
    hsubmitted haccepted ?_ ?_
  · simpa [fail, hread] using hreads
  · simpa [fail, hshut.writing] using hwrites
  · intro hfresh
    have hstarted' : t.device.started = false := by
      have hsame := hstarted.symm.trans hfresh
      rwa [hended] at hsame
    have hread' : ((t.ended e).fail error).device.reading = reading := hread.trans (by rw [hended])
    rw [hread']
    obtain hsame | hnone := hreading
    · exact hsame.trans (h.fresh hstarted')
    · exact hnone
  · have herrors' : ((t.ended e).fail error).device.errors =
        t.device.errors ++ if t.device.errorHandler then [error] else [] := by
      rw [hended] at herrors
      simpa [fail, hended] using herrors
    rw [herrors', h.silent hs]
    split <;> simp

theorem Sound.step {t : TunTraffic} (h : t.Sound) (e : TunEvent) : (t.step e).Sound := by
  have hdevice : (t.step e).device.Sound := by
    rw [h.books.step_device]
    exact (h.device.step_ownsWrite e).1
  have hstepped := t.step_stepped e
  generalize t.step e = t' at hdevice hstepped
  have hhandler (hrunning : t.device.stopped = false) : t.device.errorHandler = t.device.started := by
    rw [Bool.eq_iff_iff, h.handler]
    simp [hrunning]
  cases hstepped with
  | idle pending => exact h
  | late pending stopped => exact h.late stopped pending hdevice
  | stop running =>
    have hshut := LinuxTunDevice.stopOnStrand_shut running
    have hstopped : t.stopOnStrand.device = { t.device with
        stopped := true, writeQueue := [], queuedBytes := 0, packetHandler := false,
        errorHandler := false, descriptorOpen := false } := by
      simp [stopOnStrand, LinuxTunDevice.stopOnStrand, running]
    refine h.shut hdevice ⟨?_, ?_⟩ ?_ rfl rfl ?_ ?_
    · rw [hstopped]
      exact h.books.reads
    · rw [hstopped]
      exact h.books.writes
    · simp [hstopped]
    · simpa [hstopped] using h.fresh
    · simpa [hstopped] using h.once
  | failed pending running fails => exact h.failed running pending hdevice
  | started running fresh =>
    refine h.running running hdevice ⟨?_, h.books.writes⟩ h.accounts (h.flows running) running rfl
      (by simp [readNext, LinuxTunDevice.readNext]) rfl
    have hreads := h.books.reads
    simp [readNext, LinuxTunDevice.readNext, hreads, h.fresh fresh]
  | @delivered packet pending running nonempty =>
    have hreads := h.books.reads
    have hreading : t.device.reading = true := by
      cases hr : t.device.reading with
      | true => rfl
      | false => simp [hr] at hreads; omega
    refine h.running running hdevice ⟨?_, h.books.writes⟩ h.accounts (h.flows running) running
      (hhandler running) ?_ rfl
    · simp [readNext, LinuxTunDevice.readNext, hreads, hreading]
    · intro hstarted
      have hnone := h.fresh hstarted
      simp [hreading] at hnone
  | @accepted packet running started size room =>
    obtain ⟨hwriter, hcompleted⟩ := accept_writer running (h.flows running) packet
    have hflows := (h.flows running).put packet
    rw [← hwriter, ← hcompleted] at hflows
    have haccounts := h.accounts.push (a := ⟨t.device.buffers, packet⟩) room
    have hbooks := accept_books h running packet
    obtain ⟨hfifo, haccepted, hstopped, hstarted, herrorHandler, hreading, herrors, -⟩ :=
      t.accept_fields packet
    rw [← hfifo] at haccounts
    rw [← haccepted] at hflows
    refine h.running running hdevice hbooks haccounts hflows (hstopped.trans running) ?_ ?_ herrors
    · rw [herrorHandler, hstarted, hhandler running]
    · rw [hstarted, hreading]
      exact h.fresh
  | @written front rest pending running queue =>
    have hwrites := h.books.writes
    have hone := Bool.toNat_le t.device.writing.isSome
    have hlen : t.submitted.length = t.completed + 1 := by omega
    obtain ⟨hwriter, hbooks⟩ := finish_writer running queue hlen
    have haccounts := h.accounts.pop queue
    have hflows := (h.flows running).finish pending
    obtain ⟨hfifo, haccepted, hcompleted, hstopped, hstarted, herrorHandler, hreading, hreads, herrors,
      -⟩ := t.finish_fields front rest
    refine h.running running hdevice ⟨?_, hbooks⟩ ?_ ?_ (hstopped.trans running) ?_ ?_ herrors
    · rw [hreads, hreading]
      exact h.books.reads
    · rw [hfifo]
      exact haccounts
    · rw [hwriter, haccepted, hcompleted]
      exact hflows
    · rw [herrorHandler, hstarted]
      exact hhandler running
    · rw [hstarted, hreading]
      exact h.fresh

theorem sound_adopt {descriptor : Int} {name : Bytes} {packets bytes : Nat} {d : LinuxTunDevice}
    (h : LinuxTunDevice.adopt descriptor name packets bytes = .ok d) :
    Sound { device := d } ∧ d.maximumQueuedPackets = packets ∧ d.maximumQueuedBytes = bytes := by
  have hdevice := (LinuxTunDevice.adopt_sound h).1
  simp only [LinuxTunDevice.adopt, throwIf_bind_ok] at h
  obtain ⟨-, -, -, hd⟩ := h
  cases hd
  refine ⟨⟨hdevice, ⟨rfl, rfl⟩, ⟨rfl, Nat.zero_le _, Nat.zero_le _⟩, ?_, List.prefix_refl _, ?_, ?_, ?_,
    Nat.zero_le _⟩, rfl, rfl⟩
  · exact fun _ => ⟨by simp [writer], rfl, rfl⟩
  · simp
  · exact fun _ => rfl
  · exact fun _ => rfl

/-- The limits are those of the constructor. -/
theorem step_limits (t : TunTraffic) (e : TunEvent) :
    (t.step e).device.maximumQueuedPackets = t.device.maximumQueuedPackets ∧
      (t.step e).device.maximumQueuedBytes = t.device.maximumQueuedBytes := by
  have hstop (d : LinuxTunDevice) : d.stopOnStrand.maximumQueuedPackets = d.maximumQueuedPackets ∧
      d.stopOnStrand.maximumQueuedBytes = d.maximumQueuedBytes := by
    unfold LinuxTunDevice.stopOnStrand
    split_ifs <;> exact ⟨rfl, rfl⟩
  have hfail (d : LinuxTunDevice) (error : TunError) :
      (d.fail error).maximumQueuedPackets = d.maximumQueuedPackets ∧
        (d.fail error).maximumQueuedBytes = d.maximumQueuedBytes := by
    unfold LinuxTunDevice.fail
    dsimp only
    split_ifs
    · exact ⟨rfl, rfl⟩
    · exact hstop _
    · exact hstop _
  have hended : (t.ended e).device.maximumQueuedPackets = t.device.maximumQueuedPackets ∧
      (t.ended e).device.maximumQueuedBytes = t.device.maximumQueuedBytes := by
    cases e <;> exact ⟨rfl, rfl⟩
  have hstepped := t.step_stepped e
  generalize t.step e = t' at hstepped
  cases hstepped with
  | idle pending => exact ⟨rfl, rfl⟩
  | late pending stopped => exact hended
  | stop running => exact hstop t.device
  | failed pending running fails =>
    obtain ⟨hpackets, hbytes⟩ := hfail (t.ended e).device _
    exact ⟨hpackets.trans hended.1, hbytes.trans hended.2⟩
  | started running fresh => exact ⟨rfl, rfl⟩
  | delivered pending running nonempty => exact ⟨rfl, rfl⟩
  | @accepted packet running started size room =>
    have hfifo := (t.accept_fields packet).1
    exact ⟨congrArg BoundedFifo.maximumItems hfifo, congrArg BoundedFifo.maximumSize hfifo⟩
  | @written front rest pending running queue =>
    have hfifo := (t.finish_fields front rest).1
    exact ⟨congrArg BoundedFifo.maximumItems hfifo, congrArg BoundedFifo.maximumSize hfifo⟩

/-- What a stopped device does: its operations end. -/
theorem step_late {t : TunTraffic} (hs : t.device.stopped = true) (e : TunEvent) :
    (t.step e).device.stopped = true ∧ (t.step e).submitted = t.submitted ∧
      (t.step e).accepted = t.accepted ∧ (t.step e).device.received = t.device.received ∧
      (t.step e).device.errors = t.device.errors := by
  have hstepped := t.step_stepped e
  generalize t.step e = t' at hstepped
  have hno {p : Prop} (running : t.device.stopped = false) : p := by simp [hs] at running
  cases hstepped with
  | idle pending => exact ⟨hs, rfl, rfl, rfl, rfl⟩
  | late pending stopped =>
    obtain ⟨reading, writing, hended, -, hsubmitted, haccepted⟩ := t.ended_fields e
    exact ⟨by simp [hended, hs], hsubmitted, haccepted, by simp [hended], by simp [hended]⟩
  | stop running => exact hno running
  | failed pending running fails => exact hno running
  | started running fresh => exact hno running
  | delivered pending running nonempty => exact hno running
  | accepted running started size room => exact hno running
  | written pending running queue => exact hno running

theorem run_late {t : TunTraffic} (hs : t.device.stopped = true) (es : List TunEvent) :
    let t' := Run.run step t es
    t'.device.stopped = true ∧ t'.submitted = t.submitted ∧ t'.accepted = t.accepted ∧
      t'.device.received = t.device.received ∧ t'.device.errors = t.device.errors := by
  refine Run.invariant (P := fun t' : TunTraffic => t'.device.stopped = true ∧
    t'.submitted = t.submitted ∧ t'.accepted = t.accepted ∧
    t'.device.received = t.device.received ∧ t'.device.errors = t.device.errors) ?_
    ⟨hs, rfl, rfl, rfl, rfl⟩ es
  intro t' e h
  obtain ⟨hstopped, hsubmitted, haccepted, hreceived, herrors⟩ := h
  obtain ⟨hstopped', hsubmitted', haccepted', hreceived', herrors'⟩ := step_late hstopped e
  exact ⟨hstopped', hsubmitted'.trans hsubmitted, haccepted'.trans haccepted,
    hreceived'.trans hreceived, herrors'.trans herrors⟩

/-! ### What is reported -/

theorem Fails.unique {t : TunTraffic} {e : TunEvent} {error error' : TunError}
    (h : t.Fails e error) (h' : t.Fails e error') : error = error' := by
  cases h with
  | restarted started => cases h'; rfl
  | unstarted started =>
    cases h' with
    | unstarted _ => rfl
    | size started' _ => simp [started] at started'
    | full started' _ _ => simp [started] at started'
  | size started size =>
    cases h' with
    | unstarted started' => simp [started] at started'
    | size _ _ => rfl
    | full _ size' _ => exact absurd size size'
  | full started size full =>
    cases h' with
    | unstarted started' => simp [started] at started'
    | size _ size' => exact absurd size' size
    | full _ _ _ => rfl
  | read => cases h'; rfl
  | nothingRead => cases h'; rfl
  | write => cases h'; rfl
  | short short => cases h'; rfl

/-- A failure of a running device shuts it down. -/
theorem step_failed {t : TunTraffic} (hs : t.device.stopped = false) {e : TunEvent}
    (hpending : t.Pending e) {error : TunError} (hfails : t.Fails e error) :
    t.step e = (t.ended e).fail error := by
  have hstepped := t.step_stepped e
  generalize t.step e = t' at hstepped
  cases hstepped with
  | idle pending => exact absurd hpending pending
  | late pending stopped => simp [hs] at stopped
  | stop running => cases hfails
  | failed pending running fails => rw [fails.unique hfails]
  | started running fresh =>
    cases hfails with
    | restarted started => simp [fresh] at started
  | delivered pending running nonempty =>
    cases hfails
    exact absurd rfl nonempty
  | accepted running started size room =>
    cases hfails with
    | unstarted started' => simp [started] at started'
    | size _ size' => exact absurd size' size
    | full _ _ full => exact absurd full room
  | written pending running queue =>
    cases hfails with
    | short short => simp [queue] at short

/-- The error handler is called in a step exactly if that step is the failure of a started device. -/
theorem Sound.step_errors {t : TunTraffic} (h : t.Sound) (e : TunEvent) :
    let reported := fun error => t.device.started = true ∧ t.device.stopped = false ∧ t.Pending e ∧
      t.Fails e error
    (∀ error, reported error → (t.step e).device.errors = t.device.errors ++ [error]) ∧
    ((∀ error, ¬reported error) → (t.step e).device.errors = t.device.errors) := by
  intro reported
  have hended : (t.ended e).device.errors = t.device.errors ∧
      (t.ended e).device.errorHandler = t.device.errorHandler ∧
      (t.ended e).device.stopped = t.device.stopped := by
    cases e <;> exact ⟨rfl, rfl, rfl⟩
  have hfail (hs : t.device.stopped = false) (error : TunError) :
      ((t.ended e).fail error).device.errors =
        t.device.errors ++ if t.device.errorHandler then [error] else [] := by
    obtain ⟨-, -, -, -, herrors⟩ := fail_fields (hended.2.2.trans hs) error
    rw [hended.1, hended.2.1] at herrors
    exact herrors
  constructor
  · intro error hreported
    obtain ⟨hstarted, hs, hpending, hfails⟩ := hreported
    rw [step_failed hs hpending hfails, hfail hs, if_pos (h.handler.mpr ⟨hstarted, hs⟩)]
  · intro hno
    have hstepped := t.step_stepped e
    generalize t.step e = t' at hstepped
    cases hstepped with
    | idle pending => rfl
    | late pending stopped => exact hended.1
    | stop running => simp [stopOnStrand, LinuxTunDevice.stopOnStrand, running]
    | @failed _ error pending running fails =>
      have hhandler : ¬t.device.errorHandler = true := by
        intro hhandler
        exact hno error ⟨(h.handler.mp hhandler).1, running, pending, fails⟩
      rw [hfail running, if_neg hhandler, List.append_nil]
    | started running fresh => rfl
    | delivered pending running nonempty => rfl
    | @accepted packet running started size room =>
      obtain ⟨-, -, -, -, -, -, herrors, -⟩ := t.accept_fields packet
      exact herrors
    | @written front rest pending running queue =>
      obtain ⟨-, -, -, -, -, -, -, -, herrors, -⟩ := t.finish_fields front rest
      exact herrors

theorem run_device {t : TunTraffic} (h : t.Sound) (es : List TunEvent) :
    (Run.run step t es).device = Run.run LinuxTunDevice.step t.device es := by
  induction es generalizing t with
  | nil => rfl
  | cons e es ih => rw [Run.run_cons, Run.run_cons, ih (h.step e), h.books.step_device]

theorem run_limits (t : TunTraffic) (es : List TunEvent) :
    (Run.run step t es).device.maximumQueuedPackets = t.device.maximumQueuedPackets ∧
      (Run.run step t es).device.maximumQueuedBytes = t.device.maximumQueuedBytes := by
  refine Run.invariant (P := fun t' : TunTraffic =>
    t'.device.maximumQueuedPackets = t.device.maximumQueuedPackets ∧
      t'.device.maximumQueuedBytes = t.device.maximumQueuedBytes) ?_ ⟨rfl, rfl⟩ es
  intro t' e h
  obtain ⟨hpackets, hbytes⟩ := t'.step_limits e
  exact ⟨hpackets.trans h.1, hbytes.trans h.2⟩

/-- A running device with no write outstanding has written all that it accepted. -/
theorem Sound.drained {t : TunTraffic} (h : t.Sound) (hs : t.device.stopped = false)
    (hnone : t.outstanding = 0) : t.device.writeQueue = [] ∧ t.submitted = t.accepted := by
  have hwrites := h.books.writes
  have hflows := h.flows hs
  have hidle : t.writer.written.length = t.completed := by
    have hlen : t.submitted.length = t.completed := by
      unfold outstanding at hnone
      omega
    exact hlen
  have hqueue : t.device.writeQueue = [] := by
    have hnil := hflows.queue_eq_nil hidle
    simpa [writer] using hnil
  refine ⟨hqueue, ?_⟩
  rw [hflows.accepted]
  simp [writer, hqueue]

/-- Over every order of events on the strand of a device: the queue is accounted for, the packets are
written one by one in the order of their acceptance, the first failure of a started device is reported,
and no other, and nothing is written or delivered once the device is stopped. -/
theorem tun_writer_disciplined {descriptor : Int} {name : Bytes} {packets bytes : Nat}
    {d₀ : LinuxTunDevice} (h : LinuxTunDevice.adopt descriptor name packets bytes = .ok d₀)
    (es : List TunEvent) :
    let t := Run.run step { device := d₀ } es
    let d := t.device
    d = Run.run LinuxTunDevice.step d₀ es ∧
    -- the queue, and both subtractions
    d.queuedBytes = (d.writeQueue.map (·.bytes.length)).sum ∧ d.queuedBytes ≤ bytes ∧
    d.writeQueue.length ≤ packets ∧
    (∀ w, d.writeQueue.head? = some w → w.bytes.length ≤ d.queuedBytes) ∧
    -- the writes
    t.completed ≤ t.submitted.length ∧ t.outstanding ≤ 1 ∧
    (d.stopped = false → t.outstanding = 0 → d.writeQueue = []) ∧
    t.submitted <+: t.accepted ∧
    (d.stopped = false → t.outstanding = 0 → t.submitted = t.accepted) ∧
    -- the error handler
    d.errors.length ≤ 1 ∧
    (∀ e,
      let reported := fun error => d.started = true ∧ d.stopped = false ∧ t.Pending e ∧ t.Fails e error
      (∀ error, reported error → (t.step e).device.errors = d.errors ++ [error] ∧
        (t.step e).device.stopped = true) ∧
      ((∀ error, ¬reported error) → (t.step e).device.errors = d.errors)) ∧
    -- the end
    (t.step .stop).device.stopped = true ∧ (t.step .stop).device.errors = d.errors ∧
    (d.stopped = true → ∀ more,
      let t' := Run.run step t more
      t'.device.stopped = true ∧ t'.submitted = t.submitted ∧ t'.accepted = t.accepted ∧
        t'.device.received = d.received ∧ t'.device.errors = d.errors) := by
  intro t d
  obtain ⟨hsound, hpackets, hbytes⟩ := sound_adopt h
  have hs : t.Sound := Run.invariant (fun _ e hs => hs.step e) hsound es
  obtain ⟨hmaximumPackets, hmaximumBytes⟩ := run_limits { device := d₀ } es
  have hwrites := hs.books.writes
  have hone := Bool.toNat_le t.device.writing.isSome
  have hsize := hs.accounts.size_le
  have hlen := hs.accounts.length_le
  refine ⟨run_device hsound es, hs.device.counted, ?_, ?_, ?_, by omega, ?_, ?_, hs.wrote, ?_, hs.once,
    ?_, ?_, ?_, fun hstopped more => run_late hstopped more⟩
  · rw [← hbytes]
    exact hmaximumBytes ▸ hsize
  · rw [← hpackets]
    exact hmaximumPackets ▸ hlen
  · intro w hw
    obtain ⟨rest, hqueue⟩ := List.head?_eq_some_iff.mp hw
    exact hs.accounts.head_le hqueue
  · unfold outstanding
    omega
  · exact fun hrunning hnone => (hs.drained hrunning hnone).1
  · exact fun hrunning hnone => (hs.drained hrunning hnone).2
  · intro e reported
    obtain ⟨hreports, hsilent⟩ := hs.step_errors e
    refine ⟨?_, hsilent⟩
    intro error hreported
    refine ⟨hreports error hreported, ?_⟩
    obtain ⟨-, hrunning, hpending, hfails⟩ := hreported
    rw [step_failed hrunning hpending hfails]
    have hended : (t.ended e).device.stopped = false := by
      cases e <;> exact hrunning
    exact (LinuxTunDevice.fail_shut hended error).stopped
  · show t.stopOnStrand.device.stopped = true
    simp only [stopOnStrand, LinuxTunDevice.stopOnStrand]
    split_ifs with hstopped
    · exact hstopped
    · rfl
  · obtain ⟨-, hsilent⟩ := hs.step_errors .stop
    apply hsilent
    intro error hreported
    cases hreported.2.2.2

/-- A packet is written whole, and then the device is stopped. -/
theorem tun_writer_disciplined_stopped :
    let d₀ : LinuxTunDevice :=
      { name := text "tun0", maximumQueuedPackets := 256, maximumQueuedBytes := 4194304 }
    let t := Run.run step { device := d₀ } [.start, .write [69, 0], .writeCompleted none 2, .stop]
    t.submitted = [[69, 0]] ∧ t.submitted <+: t.accepted ∧ t.device.errors.length ≤ 1 := by
  intro d₀ t
  have hadopt : LinuxTunDevice.adopt 3 (text "tun0") 256 4194304 = .ok d₀ := rfl
  obtain ⟨-, -, -, -, -, -, -, -, hwrote, -, honce, -⟩ :=
    tun_writer_disciplined hadopt [.start, .write [69, 0], .writeCompleted none 2, .stop]
  exact ⟨rfl, hwrote, honce⟩

end PersonalVpn.Server.TunTraffic
