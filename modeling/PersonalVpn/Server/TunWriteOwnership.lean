import Mathlib.Algebra.GroupWithZero.Nat
import PersonalVpn.Lib.Run
import PersonalVpn.Server.LinuxTunDevice

namespace PersonalVpn.Server.LinuxTunDevice

/-- The buffer of the write in flight is the front of the queue, so its storage is still owned. -/
def OwnsWrite (d : LinuxTunDevice) : Prop := ∀ w, d.writing = some w → d.writeQueue.head? = some w

/-- The steps that shut a running device down without being the end of its write. -/
def ShutsDown (d : LinuxTunDevice) : TunEvent → Prop
  | .start => d.started = true
  | .write packet => d.started = false ∨ packet = [] ∨ kMaximumPacketSize < packet.length ∨
      d.maximumQueuedPackets ≤ d.writeQueue.length ∨
      d.maximumQueuedBytes - d.queuedBytes < packet.length
  | .readCompleted error packet => d.reading = true ∧ (error ≠ none ∨ packet = [])
  | .writeCompleted _ _ => False
  | .stop => True

/-- No step shuts the device down in the middle of a write. -/
def Undisturbed (d : LinuxTunDevice) (e : TunEvent) : Prop :=
  d.stopped = false → d.writing ≠ none → ¬d.ShutsDown e

/-- What holds of every device. While it runs, a write is in flight exactly when packets are queued,
and it is that of the front packet; a stopped device has given its queue up. -/
structure Sound (d : LinuxTunDevice) : Prop where
  idle : d.stopped = false → d.writing = none → d.writeInProgress = false ∧ d.writeQueue = []
  busy : d.stopped = false → ∀ w, d.writing = some w →
    d.writeInProgress = true ∧ d.writeQueue.head? = some w
  closed : d.stopped = true → d.writeQueue = []
  counted : d.queuedBytes = (d.writeQueue.map (·.bytes.length)).sum
  bounded : d.queuedBytes ≤ d.maximumQueuedBytes
  fresh : ∀ q ∈ d.writeQueue, q.buffer < d.buffers
  distinct : (d.writeQueue.map (·.buffer)).Nodup

theorem Sound.ownsWrite_iff {d : LinuxTunDevice} (h : d.Sound) :
    d.OwnsWrite ↔ (d.stopped = true → d.writing = none) := by
  constructor
  · intro howns hstopped
    cases hw : d.writing with
    | none => rfl
    | some w =>
      have hfront := howns w hw
      simp [h.closed hstopped] at hfront
  · intro hnone w hw
    by_cases hs : d.stopped = true
    · simp [hnone hs] at hw
    · exact (h.busy (by simpa using hs) w hw).2

/-- A shut down device, with its operation as it was. -/
structure Shut (d d' : LinuxTunDevice) : Prop where
  stopped : d'.stopped = true
  writeQueue : d'.writeQueue = []
  queuedBytes : d'.queuedBytes = 0
  writing : d'.writing = d.writing

theorem Shut.sound {d d' : LinuxTunDevice} (h : Shut d d') : d'.Sound where
  idle hs := absurd (h.stopped.symm.trans hs) (by decide)
  busy hs := absurd (h.stopped.symm.trans hs) (by decide)
  closed _ := h.writeQueue
  counted := by simp [h.queuedBytes, h.writeQueue]
  bounded := by simp [h.queuedBytes]
  fresh := by simp [h.writeQueue]
  distinct := by simp [h.writeQueue]

theorem stopOnStrand_shut {d : LinuxTunDevice} (hs : d.stopped = false) : Shut d d.stopOnStrand := by
  constructor <;> simp [stopOnStrand, hs]

theorem fail_shut {d : LinuxTunDevice} (hs : d.stopped = false) (e : TunError) :
    Shut d (d.fail e) := by
  constructor <;> simp [fail, stopOnStrand, hs] <;> split <;> rfl

/-- A step that shuts the device down leaves its write in flight and its queue empty. -/
theorem step_shut {d : LinuxTunDevice} (hs : d.stopped = false) {e : TunEvent}
    (h : d.ShutsDown e) : Shut d (d.step e) := by
  cases e with
  | start =>
    have hstarted : d.started = true := h
    simp only [step, startOnStrand, hs, hstarted]
    exact fail_shut hs _
  | write packet =>
    simp only [ShutsDown] at h
    simp only [step, enqueueWrite, hs, Bool.false_eq_true, if_false]
    split_ifs with hstarted hsize hfull
    · exact fail_shut hs _
    · exact fail_shut hs _
    · exact fail_shut hs _
    all_goals
      simp only [Bool.not_eq_true', Bool.not_eq_false, not_or, gt_iff_lt, ge_iff_le]
        at hstarted hsize hfull
      simp [hstarted, hsize.1] at h
      omega
  | readCompleted error packet =>
    obtain ⟨hreading, hbad⟩ := h
    have hfail := fun e => fail_shut (d := { d with reading := false }) hs e
    have hstep : d.step (.readCompleted error packet) =
        handleRead { d with reading := false } error packet := by simp [step, hreading]
    rw [hstep]
    unfold handleRead
    rw [if_neg (by simp [hs])]
    cases error with
    | some e =>
      obtain ⟨h1, h2, h3, h4⟩ := hfail e
      exact ⟨h1, h2, h3, h4⟩
    | none =>
      obtain ⟨h1, h2, h3, h4⟩ := hfail .ioError
      have hempty : packet = [] := by simpa using hbad
      simp only [if_pos hempty]
      exact ⟨h1, h2, h3, h4⟩
  | writeCompleted error n => exact absurd h id
  | stop => exact stopOnStrand_shut hs

/-- Once the queue has its new front, the next operation refers to it. -/
theorem sound_writeNext {d : LinuxTunDevice} (hs : d.stopped = false) (hw : d.writing = none)
    (hcounted : d.queuedBytes = (d.writeQueue.map (·.bytes.length)).sum)
    (hbounded : d.queuedBytes ≤ d.maximumQueuedBytes)
    (hfresh : ∀ q ∈ d.writeQueue, q.buffer < d.buffers)
    (hdistinct : (d.writeQueue.map (·.buffer)).Nodup) :
    d.writeNext.Sound ∧ d.writeNext.stopped = false := by
  unfold writeNext
  by_cases hq : d.writeQueue = []
  · rw [if_pos (.inr hq)]
    refine ⟨⟨fun _ _ => ⟨rfl, hq⟩, ?_, fun _ => hq, hcounted, hbounded, hfresh, hdistinct⟩, hs⟩
    intro _ w hw'
    simp [hw] at hw'
  · rw [if_neg (by simp [hs, hq])]
    refine ⟨⟨?_, ?_, ?_, hcounted, hbounded, hfresh, hdistinct⟩, hs⟩
    · intro _ hnone
      simp [hq] at hnone
    · intro _ w hw'
      exact ⟨rfl, hw'⟩
    · intro hs'
      simp [hs] at hs'

theorem Sound.enqueueWrite {d : LinuxTunDevice} (h : d.Sound) (hs : d.stopped = false)
    {packet : Bytes} (hgo : ¬d.ShutsDown (.write packet)) :
    (d.enqueueWrite packet).Sound ∧ (d.enqueueWrite packet).stopped = false := by
  simp only [ShutsDown, not_or, Nat.not_le, Nat.not_lt, Bool.not_eq_false] at hgo
  obtain ⟨hstarted, hne, hmax, hframes, hbytes⟩ := hgo
  let d₁ : LinuxTunDevice := { d with
    queuedBytes := d.queuedBytes + packet.length
    writeQueue := d.writeQueue ++ [⟨d.buffers, packet⟩]
    buffers := d.buffers + 1 }
  have heq : d.enqueueWrite packet = if !d.writeInProgress then d₁.writeNext else d₁ := by
    unfold LinuxTunDevice.enqueueWrite
    rw [if_neg (by simp [hs]), if_neg (by simp [hstarted]), if_neg (by simp [hne, hmax]),
      if_neg (by simp [hframes, hbytes])]
  have hcounted : d₁.queuedBytes = (d₁.writeQueue.map (·.bytes.length)).sum := by
    simp [d₁, h.counted]
  have hbounded : d₁.queuedBytes ≤ d₁.maximumQueuedBytes := by
    have hb := h.bounded
    simp only [d₁]
    omega
  have hfresh : ∀ q ∈ d₁.writeQueue, q.buffer < d₁.buffers := by
    intro q hq
    obtain hold | hnew := List.mem_append.mp hq
    · exact Nat.lt_succ_of_lt (h.fresh q hold)
    · rw [List.mem_singleton.mp hnew]
      exact Nat.lt_succ_self _
  have hdistinct : (d₁.writeQueue.map (·.buffer)).Nodup := by
    simp only [d₁, List.map_append, List.map_cons, List.map_nil]
    refine List.nodup_append.mpr ⟨h.distinct, by simp, ?_⟩
    intro a ha b hb hab
    obtain ⟨q, hq, rfl⟩ := List.mem_map.mp ha
    have hlt := h.fresh q hq
    rw [hab, List.mem_singleton.mp hb] at hlt
    exact absurd hlt (Nat.lt_irrefl _)
  rw [heq]
  cases hw : d.writing with
  | none =>
    have hidle := h.idle hs hw
    rw [if_pos (by simp [hidle.1])]
    exact sound_writeNext hs hw hcounted hbounded hfresh hdistinct
  | some w =>
    obtain ⟨hprogress, hhead⟩ := h.busy hs w hw
    rw [if_neg (by simp [hprogress])]
    refine ⟨⟨?_, ?_, ?_, hcounted, hbounded, hfresh, hdistinct⟩, hs⟩
    · intro _ hnone
      simp [d₁, hw] at hnone
    · intro _ w' hw'
      have hsame : w = w' := by simpa [d₁, hw] using hw'
      subst hsame
      refine ⟨hprogress, ?_⟩
      obtain ⟨rest, hqueue⟩ := List.head?_eq_some_iff.mp hhead
      simp [d₁, hqueue]
    · intro hs'
      simp [d₁, hs] at hs'

/-- The handler of a write takes its packet off the queue before the next write, or shuts down. -/
theorem Sound.writeCompleted {d : LinuxTunDevice} (h : d.Sound) (hs : d.stopped = false)
    {w : QueuedPacket} (hw : d.writing = some w) (error : Option TunError) (n : Nat) :
    let d' := d.step (.writeCompleted error n)
    d'.Sound ∧ (d'.stopped = true → d'.writing = none) := by
  intro d'
  let d₁ : LinuxTunDevice := { d with writing := none }
  have hfail (e : TunError) (heq : d' = d₁.fail e) :
      d'.Sound ∧ (d'.stopped = true → d'.writing = none) := by
    have hshut := fail_shut (d := d₁) hs e
    rw [heq]
    exact ⟨hshut.sound, fun _ => hshut.writing⟩
  have hstep : d' = d₁.handleWrite error n := by simp [d', step, hw, d₁]
  unfold handleWrite at hstep
  rw [if_neg (by simp [d₁, hs])] at hstep
  cases error with
  | some e => exact hfail e hstep
  | none =>
    obtain ⟨-, hhead⟩ := h.busy hs w hw
    obtain ⟨rest, hqueue⟩ := List.head?_eq_some_iff.mp hhead
    simp only [d₁, hqueue] at hstep
    split at hstep
    · exact hfail .ioError (by simpa [d₁, hqueue] using hstep)
    · have hcounted : d.queuedBytes - w.bytes.length = (rest.map (·.bytes.length)).sum := by
        have hall := h.counted
        simp only [hqueue, List.map_cons, List.sum_cons] at hall
        omega
      have hbounded : d.queuedBytes - w.bytes.length ≤ d.maximumQueuedBytes :=
        Nat.le_trans (Nat.sub_le _ _) h.bounded
      have hfresh : ∀ q ∈ rest, q.buffer < d.buffers := fun q hq => h.fresh q (by simp [hqueue, hq])
      have hdistinct : (rest.map (·.buffer)).Nodup := by
        have hall := h.distinct
        rw [hqueue] at hall
        exact hall.of_cons
      obtain ⟨hsound, hrunning⟩ := sound_writeNext (d := { d₁ with
        queuedBytes := d.queuedBytes - w.bytes.length, writeQueue := rest }) hs rfl hcounted hbounded
        hfresh hdistinct
      rw [hstep]
      exact ⟨hsound, fun hstopped => absurd (hstopped.symm.trans hrunning) (by decide)⟩

/-- A step of a running device that does not shut it down keeps what holds of it. -/
theorem Sound.step_running {d : LinuxTunDevice} (h : d.Sound) (hs : d.stopped = false)
    {e : TunEvent} (hgo : ¬d.ShutsDown e) :
    (d.step e).Sound ∧ ((d.step e).stopped = true → (d.step e).writing = none) := by
  have running {d' : LinuxTunDevice} (hd : d'.Sound ∧ d'.stopped = false) :
      d'.Sound ∧ (d'.stopped = true → d'.writing = none) :=
    ⟨hd.1, fun hstopped => absurd (hstopped.symm.trans hd.2) (by decide)⟩
  obtain ⟨h1, h2, h3, h4, h5, h6, h7⟩ := id h
  cases e with
  | start =>
    have hstarted : d.started = false := by simpa [ShutsDown] using hgo
    have heq : d.step .start = { d with
        started := true, packetHandler := true, errorHandler := true, reading := true } := by
      simp only [step, startOnStrand]
      rw [if_neg (by simp [hs]), if_neg (by simp [hstarted])]
      rfl
    rw [heq]
    exact running ⟨⟨h1, h2, h3, h4, h5, h6, h7⟩, hs⟩
  | write packet => exact running (h.enqueueWrite hs hgo)
  | readCompleted error packet =>
    by_cases hreading : d.reading = true
    · simp only [ShutsDown, hreading, true_and, not_or, ne_eq, not_not] at hgo
      have heq : d.step (.readCompleted error packet) =
          { d with received := d.received ++ [packet], reading := true } := by
        simp only [step, hreading, handleRead, hgo.1, if_true]
        rw [if_neg (by simp [hs]), if_neg hgo.2]
        rfl
      rw [heq]
      exact running ⟨⟨h1, h2, h3, h4, h5, h6, h7⟩, hs⟩
    · have heq : d.step (.readCompleted error packet) = d := by simp [step, hreading]
      rw [heq]
      exact running ⟨h, hs⟩
  | writeCompleted error n =>
    cases hw : d.writing with
    | none =>
      have heq : d.step (.writeCompleted error n) = d := by simp [step, hw]
      rw [heq]
      exact running ⟨h, hs⟩
    | some w => exact h.writeCompleted hs hw error n
  | stop => exact absurd trivial hgo

/-- A stopped device only sees its operations end. -/
theorem step_stopped {d : LinuxTunDevice} (hs : d.stopped = true) (e : TunEvent) :
    d.step e = d ∨ d.step e = { d with reading := false } ∨ d.step e = { d with writing := none } := by
  cases e with
  | start => simp [step, startOnStrand, hs]
  | write packet => simp [step, enqueueWrite, hs]
  | readCompleted error packet =>
    by_cases hr : d.reading = true
    · simp [step, handleRead, hr, hs]
    · simp [step, hr]
  | writeCompleted error n =>
    cases hw : d.writing with
    | none => simp [step, hw]
    | some w => simp [step, handleWrite, hw, hs]
  | stop => simp [step, stopOnStrand, hs]

theorem Sound.step_stopped {d : LinuxTunDevice} (h : d.Sound) (hs : d.stopped = true)
    (e : TunEvent) : (d.step e).Sound ∧ (d.writing = none → (d.step e).writing = none) := by
  obtain ⟨h1, h2, h3, h4, h5, h6, h7⟩ := id h
  have hopen {p : Prop} (hs' : d.stopped = false) : p := absurd (hs.symm.trans hs') (by decide)
  obtain heq | heq | heq := LinuxTunDevice.step_stopped hs e
  · rw [heq]
    exact ⟨h, id⟩
  · rw [heq]
    exact ⟨⟨hopen, hopen, h3, h4, h5, h6, h7⟩, id⟩
  · rw [heq]
    exact ⟨⟨hopen, hopen, h3, h4, h5, h6, h7⟩, fun _ => rfl⟩

/-- A step leaves an owned write owned exactly when it does not disturb it. -/
theorem Sound.step_ownsWrite {d : LinuxTunDevice} (h : d.Sound) (e : TunEvent) :
    (d.step e).Sound ∧ (d.OwnsWrite → ((d.step e).OwnsWrite ↔ d.Undisturbed e)) := by
  by_cases hs : d.stopped = true
  · obtain ⟨hsound, hnone⟩ := h.step_stopped hs e
    refine ⟨hsound, fun howns => ?_⟩
    have hw : d.writing = none := h.ownsWrite_iff.mp howns hs
    have howns' : (d.step e).OwnsWrite := hsound.ownsWrite_iff.mpr fun _ => hnone hw
    exact iff_of_true howns' fun hrunning => absurd (hs.symm.trans hrunning) (by decide)
  · have hrunning : d.stopped = false := by simpa using hs
    by_cases hshut : d.ShutsDown e
    · have hstep := step_shut hrunning hshut
      refine ⟨hstep.sound, fun _ => ?_⟩
      rw [hstep.sound.ownsWrite_iff]
      constructor
      · intro hnone _ hw
        rw [← hstep.writing] at hw
        exact absurd (hnone hstep.stopped) hw
      · intro hundisturbed _
        rw [hstep.writing]
        by_contra hw
        exact hundisturbed hrunning hw hshut
    · obtain ⟨hsound, hnone⟩ := h.step_running hrunning hshut
      refine ⟨hsound, fun _ => ?_⟩
      exact iff_of_true (hsound.ownsWrite_iff.mpr hnone) fun _ _ => hshut

theorem adopt_sound {descriptor : Int} {name : Bytes} {packets bytes : Nat} {d : LinuxTunDevice}
    (h : adopt descriptor name packets bytes = .ok d) : d.Sound ∧ d.OwnsWrite := by
  simp only [adopt, throwIf_bind_ok] at h
  obtain ⟨-, -, -, hd⟩ := h
  cases hd
  refine ⟨⟨fun _ _ => ⟨rfl, rfl⟩, ?_, fun _ => rfl, rfl, Nat.zero_le _, ?_, List.nodup_nil⟩, ?_⟩
  · intro _ w hw
    cases hw
  · intro q hq
    cases hq
  · intro w hw
    cases hw

/-- In a run the packet of a write in flight is the front of the queue throughout exactly when no step
shuts the device down while a write is in flight. -/
theorem write_owned_iff_undisturbed {descriptor : Int} {name : Bytes} {packets bytes : Nat}
    {d₀ : LinuxTunDevice} (h : adopt descriptor name packets bytes = .ok d₀) (es : List TunEvent) :
    (∀ n, (Run.run step d₀ (es.take n)).OwnsWrite) ↔ Run.Along step Undisturbed d₀ es := by
  obtain ⟨hsound, howns⟩ := adopt_sound h
  have hstep (d : LinuxTunDevice) (e : TunEvent) (_ : True) (hd : d.Sound) :=
    hd.step_ownsWrite e
  exact Run.forall_take_iff_along (E := fun _ => True) hstep hsound howns (by simp)

/-- Stopping after the write has ended. -/
theorem write_owned_until_completed :
    let d₀ : LinuxTunDevice :=
      { name := text "tun0", maximumQueuedPackets := 256, maximumQueuedBytes := 4194304 }
    ∀ n, (Run.run step d₀ (([.start, .write [69], .writeCompleted none 1, .stop] :
      List TunEvent).take n)).OwnsWrite := by
  intro d₀
  have hadopt : adopt 3 (text "tun0") 256 4194304 = .ok d₀ := rfl
  refine (write_owned_iff_undisturbed hadopt _).mpr ⟨?_, ?_, ?_, ?_, trivial⟩
  · intro _ hw
    exact absurd rfl hw
  · intro _ hw
    exact absurd rfl hw
  · intro _ _ hshut
    exact hshut
  · intro _ hw
    exact absurd rfl hw

/-- A stop in the middle of a write empties the queue under it. -/
theorem stop_releases_write : ∃ d₀ : LinuxTunDevice,
    adopt 3 (text "tun0") 256 4194304 = .ok d₀ ∧
      ¬(Run.run step d₀ [.start, .write [69], .stop]).OwnsWrite := by
  refine ⟨_, rfl, fun howns => ?_⟩
  have hfront := howns ⟨0, [69]⟩ rfl
  cases hfront

end PersonalVpn.Server.LinuxTunDevice
