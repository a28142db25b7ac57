import PersonalVpn.Client.RuntimeGenerations

/-! The connection timer of a runtime, with the handlers of its waits that are queued. -/

namespace PersonalVpn.Client

open PersonalVpn.Core Protocol

/-- A wait on `connection_timer_`: the generation that its handler carries, and the number of the
attempt it was armed for. Generations come round, attempts do not. -/
structure ConnectionWait where
  generation : UInt64
  attempt : Nat
  deriving DecidableEq, Repr

/-- A runtime with its connection timer: the wait that is outstanding, the handlers of waits that are
queued, each with whether it runs without an error, and the attempts for which `configure_network`
has returned true. A wait that has expired is not outstanding any more, so that nothing cancels
it. -/
structure RuntimeTimer (σ : Type) where
  io : RuntimeIo σ
  attempts : Nat := 0
  pending : Option ConnectionWait := none
  queued : List (ConnectionWait × Bool) := []
  established : List Nat := []

/-- What happens to a runtime and its connection timer. The handler of a wait is named by its place in
the queue. -/
inductive RuntimeTimerEvent where
  | io (event : RuntimeEvent)
  | expire
  | handler (k draw : Nat)

/-- The first assignment of a tunnel that is open comes in the generation of the tunnel, nothing has
asked the runtime to stop, and the network goes up: the tunnel becomes established. -/
def RuntimeIo.Connects {σ : Type} (backend : ClientNetworkBackend σ) (parsers : AddressParsers)
    (w : RuntimeIo σ) : RuntimeEvent → Prop
  | .assignment tunnel assignment => ∃ t, w.tunnels[tunnel]? = some t ∧
    t.assigned = false ∧ t.closed = false ∧
    t.generation = w.runtime.connectionGeneration ∧ w.runtime.stopRequested = false ∧
    (ClientNetworkTransaction.activate backend parsers assignment w.config.routes w.network).1 =
      .ok ()
  | _ => False

namespace RuntimeTimer

variable {σ : Type} (backend : ClientNetworkBackend σ) (parsers : AddressParsers)
  (platform : Platform)

/-- `connection_timer_.cancel()`. -/
def cancel (T : RuntimeTimer σ) : RuntimeTimer σ :=
  { T with pending := none, queued := T.queued ++ T.pending.toList.map (·, false) }

/-- What goes with an action of the I/O thread: `begin_connect` arms the timer, which cancels the wait
that is outstanding, and `configure_network`, `retry_on_io` and `finish_on_io` cancel it. -/
def follow (T : RuntimeTimer σ) : RuntimeAction → RuntimeTimer σ
  | .beginConnect generation =>
    { T.cancel with
      attempts := T.attempts + 1
      pending := some ⟨generation, T.attempts + 1⟩ }
  | .startReader _ => { T.cancel with established := T.established ++ [T.attempts] }
  | .scheduleReconnect => T.cancel
  | .finish => T.cancel
  | _ => T

/-- The function that `stop` posts cancels the timer first. -/
def cancelOnStop (T : RuntimeTimer σ) : RuntimeEvent → RuntimeTimer σ
  | .stopHandler => if T.io.ioStopped || T.io.stopPosted = 0 then T else T.cancel
  | _ => T

/-- A step of the runtime, with what goes with its actions. -/
def stepIo (T : RuntimeTimer σ) (event : RuntimeEvent) : RuntimeTimer σ :=
  let io := T.io.step backend parsers platform event
  (io.actions.drop T.io.actions.length).foldl follow { T.cancelOnStop event with io }

/-- The handler at the place `k` of the queue. -/
def handler (T : RuntimeTimer σ) (k draw : Nat) : RuntimeTimer σ :=
  match T.io.ioStopped, T.queued[k]? with
  | false, some (wait, ok) => { T with queued := T.queued.eraseIdx k }.stepIo backend parsers
      platform (.connectionTimer wait.generation (!ok) draw)
  | _, _ => T

/-- One event. The handlers of waits run as such only. -/
def step (T : RuntimeTimer σ) : RuntimeTimerEvent → RuntimeTimer σ
  | .io (.connectionTimer _ _ _) => T
  | .io event => T.stepIo backend parsers platform event
  | .expire => { T with pending := none, queued := T.queued ++ T.pending.toList.map (·, true) }
  | .handler k draw => T.handler backend parsers platform k draw

def started (config : ClientConfig) (device : σ) : RuntimeTimer σ where
  io := RuntimeIo.started config device

/-- The handler of a wait of an established attempt leaves the runtime alone: it does not call
`retry_on_io`. -/
def Spares (T : RuntimeTimer σ) : RuntimeTimerEvent → Prop
  | .handler k draw => ∀ wait ok, T.queued[k]? = some (wait, ok) → wait.attempt ∈ T.established →
    let T' := T.handler backend parsers platform k draw
    T'.io = { T.io with connectionWaits := T'.io.connectionWaits }
  | _ => True

/-- No wait of the current attempt has expired with its handler still queued. -/
def Clear (T : RuntimeTimer σ) : Prop :=
  ∀ q ∈ T.queued, q.2 = true → q.1.attempt ≠ T.attempts

/-- Where the tunnel becomes established, no wait of its attempt has expired with its handler still
queued. -/
def Timely (T : RuntimeTimer σ) : RuntimeTimerEvent → Prop
  | .io event => T.io.Connects backend parsers event → T.Clear
  | _ => True

end RuntimeTimer

namespace RuntimeIo

variable {σ : Type} {backend : ClientNetworkBackend σ} {parsers : AddressParsers}
  {platform : Platform} {w w₁ w' : RuntimeIo σ} {connects connects' : Prop}

/-- What a function adds to the record of the runtime: the generations it begins are waited for, and a
reader is started only where the network is configured, and then nothing is begun. -/
def Logs (connects : Prop) (w w' : RuntimeIo σ) : Prop :=
  ∃ later, w'.actions = w.actions ++ later ∧
    w'.connectionWaits = w.connectionWaits ++ later.filterMap RuntimeAction.begun ∧
    ∀ unjoined, .startReader unjoined ∈ later →
      connects ∧ later.filterMap RuntimeAction.begun = []

namespace Logs

theorem same (hactions : w'.actions = w.actions) (hwaits : w'.connectionWaits = w.connectionWaits) :
    Logs connects w w' := ⟨[], by simp [hactions], by simp [hwaits], by simp⟩

theorem refl (w : RuntimeIo σ) : Logs connects w w := same rfl rfl

/-- What is outstanding otherwise does not matter. -/
theorem after (h : Logs connects w₁ w') (hactions : w₁.actions = w.actions)
    (hwaits : w₁.connectionWaits = w.connectionWaits) : Logs connects w w' := by
  unfold Logs at h ⊢
  rwa [hactions, hwaits] at h

theorem weaken (h : Logs connects w w') (himp : connects → connects') : Logs connects' w w' := by
  obtain ⟨later, hactions, hwaits, hreader⟩ := h
  exact ⟨later, hactions, hwaits, fun u hu => ⟨himp (hreader u hu).1, (hreader u hu).2⟩⟩

variable (backend) in
theorem finishOnIo (w : RuntimeIo σ) : Logs connects w (w.finishOnIo backend) := by
  have hwaits : (w.finishOnIo backend).connectionWaits = w.connectionWaits := by
    unfold RuntimeIo.finishOnIo
    split <;> rfl
  obtain h | h := finishOnIo_actions backend w
  · exact same h hwaits
  · exact ⟨_, h, hwaits.trans (List.append_nil _).symm, by simp⟩

variable (backend) in
theorem retryOnIo (w : RuntimeIo σ) (reason : Bytes) (draw : Nat) :
    Logs connects w (w.retryOnIo backend reason draw) := by
  have hwaits : (w.retryOnIo backend reason draw).connectionWaits = w.connectionWaits := by
    unfold RuntimeIo.retryOnIo RuntimeIo.finishOnIo
    split_ifs <;> rfl
  obtain h | h | h := retryOnIo_actions backend w reason draw
  · exact same h hwaits
  · exact ⟨_, h, hwaits.trans (List.append_nil _).symm, by simp⟩
  · exact ⟨_, h, hwaits.trans (List.append_nil _).symm, by simp⟩

theorem recordFailure_finishOnIo (w : RuntimeIo σ) (message : Bytes) :
    Logs connects w ((w.recordFailure message).finishOnIo backend) :=
  (finishOnIo backend (w.recordFailure message)).after rfl rfl

variable (backend) in
theorem beginConnect (w : RuntimeIo σ) : Logs connects w (w.beginConnect backend) := by
  unfold RuntimeIo.beginConnect
  split
  · exact finishOnIo backend w
  · refine ⟨[.beginConnect (w.runtime.connectionGeneration + 1), .publish .resolving w.network.1],
      ?_, ?_, by simp⟩
    · simp [act, transition]
    · simp [act, transition, RuntimeAction.begun]

theorem asyncConnect (w : RuntimeIo σ) (generation : UInt64) :
    Logs connects w (w.asyncConnect generation) :=
  ⟨[.publish .connecting w.network.1, .asyncConnect], by simp [RuntimeIo.asyncConnect, act, transition],
    by simp [RuntimeIo.asyncConnect, act, transition, RuntimeAction.begun], by simp⟩

variable (backend parsers) in
theorem configureNetwork (w : RuntimeIo σ) (assignment : IpAssignment) :
    Logs (w.runtime.stopRequested = false ∧
        (ClientNetworkTransaction.activate backend parsers assignment w.config.routes
          w.network).1 = .ok ()) w
      (w.configureNetwork backend parsers assignment).2 := by
  unfold RuntimeIo.configureNetwork
  split
  · exact refl w
  · rename_i hstop
    dsimp only
    split
    · exact ⟨[.publish .configuringNetwork w.network.1, .activate w.network.1],
        by simp [act, transition, recordFailure],
        by simp [act, transition, recordFailure, RuntimeAction.begun], by simp⟩
    · rename_i network hactivate
      have hok : (ClientNetworkTransaction.activate backend parsers assignment w.config.routes
          w.network).1 = .ok () := congrArg Prod.fst hactivate
      have hrunning : w.runtime.stopRequested = false := by simpa using hstop
      exact ⟨[.publish .configuringNetwork w.network.1, .activate w.network.1,
          .publish .connected network.1, .startReader w.packetThread],
        by simp [act, transition], by simp [act, transition, RuntimeAction.begun],
        by simp [RuntimeAction.begun, hok, hrunning]⟩

/-- A packet that goes to the device, or does not. -/
theorem deliverToPacketDevice (w : RuntimeIo σ) (packet : Bytes) (failure : Option Bytes) :
    Logs connects w (w.deliverToPacketDevice packet failure) := by
  cases failure with
  | none => exact ⟨[.sendPacket packet], rfl, (List.append_nil _).symm, by simp⟩
  | some what => exact ⟨[.sendPacket packet], rfl, (List.append_nil _).symm, by simp⟩

theorem settled {event : RuntimeEvent} (h : Logs connects w₁ w') (hsettled : Settled w event w₁) :
    Logs connects { w with connectionWaits := w.waitsAfter event } w' :=
  h.after hsettled.actions hsettled.connectionWaits

variable (backend parsers platform) in
/-- What a step adds to the record, once the handler of a wait has taken that off it. -/
theorem step (w : RuntimeIo σ) (event : RuntimeEvent) :
    Logs (Connects backend parsers w event) { w with connectionWaits := w.waitsAfter event }
      (w.step backend parsers platform event) := by
  have hcases := step_cases backend parsers platform w event
  generalize w.step backend parsers platform event = w' at hcases ⊢
  cases hcases with
  | settled hsettled => exact (refl _).settled hsettled
  | begun hsettled => exact (beginConnect backend _).settled hsettled
  | finished hsettled => exact (finishOnIo backend _).settled hsettled
  | failed hsettled message => exact (recordFailure_finishOnIo _ message).settled hsettled
  | retried hsettled reason draw => exact (retryOnIo backend _ reason draw).settled hsettled
  | @guarded _ w₁ hsettled endpoints g =>
    refine settled ⟨[.enableKillSwitch endpoints, .publish .connecting w₁.network.1, .asyncConnect],
      ?_, ?_, by simp⟩ hsettled
    · simp [RuntimeIo.asyncConnect, act, transition]
    · simp [RuntimeIo.asyncConnect, act, transition, RuntimeAction.begun]
  | connecting hsettled g => exact (asyncConnect _ g).settled hsettled
  | tunnel hsettled => exact same hsettled.actions hsettled.connectionWaits
  | @configured i t assignment w₁ hsettled tunnel first current =>
    apply ((configureNetwork backend parsers w₁ assignment).weaken ?_).settled hsettled
    intro hok
    rw [hsettled.runtime, hsettled.config, hsettled.network] at hok
    exact ⟨t, tunnel, first.1, first.2, current, hok.1, hok.2⟩
  | delivered i packet failure => exact deliverToPacketDevice w packet failure
  | stopping =>
    unfold RuntimeIo.stop
    split
    · exact refl w
    · exact same rfl rfl
  | readerFailed what => exact same rfl rfl

end Logs

end RuntimeIo

namespace RuntimeTimer

variable {σ : Type} {backend : ClientNetworkBackend σ} {parsers : AddressParsers}
  {platform : Platform} {T : RuntimeTimer σ}

/-- The waits whose handlers have not run. -/
def waits (T : RuntimeTimer σ) : List ConnectionWait :=
  T.queued.map Prod.fst ++ T.pending.toList

@[simp] theorem follow_beginConnect (T : RuntimeTimer σ) (generation : UInt64) :
    T.follow (.beginConnect generation) = { T.cancel with
      attempts := T.attempts + 1
      pending := some ⟨generation, T.attempts + 1⟩ } := rfl

@[simp] theorem follow_startReader (T : RuntimeTimer σ) (unjoined : Bool) :
    T.follow (.startReader unjoined) =
      { T.cancel with established := T.established ++ [T.attempts] } := rfl

@[simp] theorem follow_scheduleReconnect (T : RuntimeTimer σ) :
    T.follow .scheduleReconnect = T.cancel := rfl

@[simp] theorem follow_finish (T : RuntimeTimer σ) : T.follow .finish = T.cancel := rfl

theorem follow_io (T : RuntimeTimer σ) (action : RuntimeAction) : (T.follow action).io = T.io := by
  cases action <;> rfl

theorem foldl_follow_io (later : List RuntimeAction) (T : RuntimeTimer σ) :
    (later.foldl follow T).io = T.io := by
  induction later generalizing T with
  | nil => rfl
  | cons action later ih => exact (ih _).trans (follow_io T action)

theorem cancel_waits (T : RuntimeTimer σ) : T.cancel.waits = T.waits := by
  simp [waits, cancel, Function.comp_def]

/-- A wait is armed where a generation begins, and carries it. -/
theorem follow_waits (T : RuntimeTimer σ) (action : RuntimeAction) :
    (T.follow action).waits.map ConnectionWait.generation =
      T.waits.map ConnectionWait.generation ++ action.begun.toList := by
  have hcancel : T.cancel.waits = T.cancel.queued.map Prod.fst := by simp [waits, cancel]
  cases action with
  | beginConnect generation =>
    rw [← cancel_waits T, hcancel]
    simp [waits, RuntimeAction.begun]
  | startReader unjoined =>
    rw [← cancel_waits T]
    simp [waits, RuntimeAction.begun]
  | scheduleReconnect =>
    rw [← cancel_waits T]
    simp [RuntimeAction.begun]
  | finish =>
    rw [← cancel_waits T]
    simp [RuntimeAction.begun]
  | _ => exact (List.append_nil _).symm

theorem foldl_follow_waits (later : List RuntimeAction) (T : RuntimeTimer σ) :
    (later.foldl follow T).waits.map ConnectionWait.generation =
      T.waits.map ConnectionWait.generation ++ later.filterMap RuntimeAction.begun := by
  induction later generalizing T with
  | nil => simp
  | cons action later ih =>
    rw [List.foldl_cons, ih, follow_waits, List.append_assoc]
    cases hbegun : action.begun <;> simp [hbegun]

variable (backend parsers platform) in
theorem stepIo_io (T : RuntimeTimer σ) (event : RuntimeEvent) :
    (T.stepIo backend parsers platform event).io = T.io.step backend parsers platform event := by
  rw [stepIo]
  exact foldl_follow_io _ _

variable (backend parsers platform) in
/-- An event of the runtime, but for the handlers of waits. -/
theorem step_io_cases (T : RuntimeTimer σ) (event : RuntimeEvent) :
    T.step backend parsers platform (.io event) = T ∨
    (∀ g error draw, event ≠ .connectionTimer g error draw) ∧
      T.step backend parsers platform (.io event) = T.stepIo backend parsers platform event := by
  cases event with
  | connectionTimer g error draw => exact .inl rfl
  | _ => exact .inr ⟨by simp, rfl⟩

variable (backend parsers platform) in
/-- A handler runs where its wait is queued, and the context of the runtime is not stopped. -/
theorem handler_cases (T : RuntimeTimer σ) (k draw : Nat) :
    T.handler backend parsers platform k draw = T ∨
    ∃ wait ok, T.io.ioStopped = false ∧ T.queued[k]? = some (wait, ok) ∧
      T.handler backend parsers platform k draw =
        ({ T with queued := T.queued.eraseIdx k } : RuntimeTimer σ).stepIo backend parsers platform
          (.connectionTimer wait.generation (!ok) draw) := by
  unfold handler
  split
  · rename_i wait ok hrunning hk
    exact .inr ⟨wait, ok, hrunning, hk, rfl⟩
  · exact .inl rfl

variable (backend parsers platform) in
/-- A step is one of the runtime, or leaves it alone. -/
theorem step_io (T : RuntimeTimer σ) (e : RuntimeTimerEvent) :
    (T.step backend parsers platform e).io = T.io ∨
    ∃ event, (T.step backend parsers platform e).io = T.io.step backend parsers platform event := by
  cases e with
  | io event =>
    obtain hsame | ⟨-, hstep⟩ := step_io_cases backend parsers platform T event
    · exact .inl (congrArg RuntimeTimer.io hsame)
    · exact .inr ⟨event, by rw [hstep, stepIo_io]⟩
  | expire => exact .inl rfl
  | handler k draw =>
    obtain hsame | ⟨wait, ok, -, -, hhandler⟩ := handler_cases backend parsers platform T k draw
    · exact .inl (congrArg RuntimeTimer.io hsame)
    · exact .inr ⟨.connectionTimer wait.generation (!ok) draw, by rw [step, hhandler, stepIo_io]⟩

variable (backend parsers platform) in
/-- A run of the runtime with its timer is a run of the runtime. -/
theorem run_io (T : RuntimeTimer σ) (es : List RuntimeTimerEvent) :
    ∃ events, (Run.run (step backend parsers platform) T es).io =
      Run.run (RuntimeIo.step backend parsers platform) T.io events := by
  induction es generalizing T with
  | nil => exact ⟨[], rfl⟩
  | cons e es ih =>
    obtain ⟨events, hevents⟩ := ih (T.step backend parsers platform e)
    obtain hsame | ⟨event, hstep⟩ := step_io backend parsers platform T e
    · exact ⟨events, by rw [Run.run_cons, hevents, hsame]⟩
    · exact ⟨event :: events, by rw [Run.run_cons, hevents, hstep, Run.run_cons]⟩

/-- The handlers that have not run are those that the runtime waits for. -/
def Tracked (T : RuntimeTimer σ) : Prop :=
  (T.waits.map ConnectionWait.generation).Perm T.io.connectionWaits

/-- The wait that is outstanding is that of the current attempt, and no wait of an established attempt
is outstanding, or has its handler queued without an error. -/
structure Armed (T : RuntimeTimer σ) : Prop where
  outstanding : ∀ wait ∈ T.pending, wait.attempt = T.attempts ∧ wait.attempt ∉ T.established
  established : ∀ attempt ∈ T.established, attempt ≤ T.attempts
  recalled : ∀ q ∈ T.queued, q.2 = true → q.1.attempt ∉ T.established

namespace Armed

theorem cancel (h : Armed T) : Armed T.cancel where
  outstanding := by simp [RuntimeTimer.cancel]
  established := h.established
  recalled := by
    intro q hq hok
    obtain hq | hq := List.mem_append.mp hq
    · exact h.recalled q hq hok
    · obtain ⟨wait, -, rfl⟩ := List.mem_map.mp hq
      simp at hok

theorem expire (h : Armed T) :
    Armed { T with pending := none, queued := T.queued ++ T.pending.toList.map (·, true) } where
  outstanding := by simp
  established := h.established
  recalled := by
    intro q hq hok
    obtain hq | hq := List.mem_append.mp hq
    · exact h.recalled q hq hok
    · obtain ⟨wait, hwait, rfl⟩ := List.mem_map.mp hq
      have hpending : wait ∈ T.pending := by simpa using hwait
      exact (h.outstanding wait hpending).2

theorem cancelOnStop (h : Armed T) (event : RuntimeEvent) : Armed (T.cancelOnStop event) := by
  unfold RuntimeTimer.cancelOnStop
  split
  · split
    · exact h
    · exact h.cancel
  · exact h

end Armed

theorem Clear.cancel (h : Clear T) : Clear T.cancel := by
  intro q hq hok
  obtain hq | hq := List.mem_append.mp hq
  · exact h q hq hok
  · obtain ⟨wait, -, rfl⟩ := List.mem_map.mp hq
    simp at hok

/-- An attempt that has no wait expired has none after an action either, where that begins nothing. -/
theorem Clear.follow (h : Clear T) {action : RuntimeAction} (hbegun : action.begun = none) :
    Clear (T.follow action) := by
  cases action with
  | beginConnect generation => simp [RuntimeAction.begun] at hbegun
  | startReader unjoined => exact h.cancel
  | scheduleReconnect => exact h.cancel
  | finish => exact h.cancel
  | _ => exact h

/-- An attempt becomes established where its wait is outstanding still, and `cancel` takes that
back. -/
theorem Armed.follow (h : Armed T) {action : RuntimeAction}
    (hclear : ∀ unjoined, action = .startReader unjoined → Clear T) : Armed (T.follow action) := by
  cases action with
  | beginConnect generation =>
    have hfresh : T.attempts + 1 ∉ T.established := by
      intro hmem
      have hle := h.established _ hmem
      omega
    constructor
    · intro wait hwait
      obtain rfl : ⟨generation, T.attempts + 1⟩ = wait := by simpa using hwait
      exact ⟨rfl, hfresh⟩
    · intro attempt hattempt
      exact (h.established attempt hattempt).trans (Nat.le_succ _)
    · exact h.cancel.recalled
  | startReader unjoined =>
    have hcleared := (hclear unjoined rfl).cancel
    constructor
    · intro wait hwait
      simp [RuntimeTimer.cancel] at hwait
    · intro attempt hattempt
      obtain hmem | hmem := List.mem_append.mp hattempt
      · exact h.established attempt hmem
      · exact (List.mem_singleton.mp hmem).le
    · intro q hq hok hmem
      obtain hmem | hmem := List.mem_append.mp hmem
      · exact h.cancel.recalled q hq hok hmem
      · exact hcleared q hq hok (List.mem_singleton.mp hmem)
  | scheduleReconnect => exact h.cancel
  | finish => exact h.cancel
  | _ => exact h

/-- The actions of one handler: it begins nothing where it starts a reader. -/
theorem Armed.foldl_follow {later : List RuntimeAction} (h : Armed T)
    (hclear : ∀ unjoined, .startReader unjoined ∈ later →
      Clear T ∧ later.filterMap RuntimeAction.begun = []) :
    Armed (later.foldl RuntimeTimer.follow T) := by
  induction later generalizing T with
  | nil => exact h
  | cons action later ih =>
    apply ih
    · apply h.follow
      rintro unjoined rfl
      exact (hclear unjoined List.mem_cons_self).1
    · intro unjoined hmem
      obtain ⟨hT, hnone⟩ := hclear unjoined (List.mem_cons_of_mem _ hmem)
      rw [List.filterMap_eq_nil_iff] at hnone
      exact ⟨hT.follow (hnone action List.mem_cons_self), List.filterMap_eq_nil_iff.mpr fun a ha =>
        hnone a (List.mem_cons_of_mem _ ha)⟩

theorem Clear.cancelOnStop (h : Clear T) (event : RuntimeEvent) : Clear (T.cancelOnStop event) := by
  unfold RuntimeTimer.cancelOnStop
  split
  · split
    · exact h
    · exact h.cancel
  · exact h

theorem cancelOnStop_waits (T : RuntimeTimer σ) (event : RuntimeEvent) :
    (T.cancelOnStop event).waits = T.waits := by
  unfold cancelOnStop
  split
  · split
    · rfl
    · exact cancel_waits T
  · rfl

/-- What the timer does in a step follows what the step adds to the record. -/
theorem stepIo_logs {event : RuntimeEvent} {connects : Prop} {w : RuntimeIo σ}
    (hlogs : RuntimeIo.Logs connects w (T.io.step backend parsers platform event))
    (hw : w.actions = T.io.actions) :
    ∃ later : List RuntimeAction, T.stepIo backend parsers platform event = later.foldl follow
        { T.cancelOnStop event with io := T.io.step backend parsers platform event } ∧
      (T.io.step backend parsers platform event).connectionWaits =
        w.connectionWaits ++ later.filterMap RuntimeAction.begun ∧
      ∀ unjoined, .startReader unjoined ∈ later →
        connects ∧ later.filterMap RuntimeAction.begun = [] := by
  obtain ⟨later, hactions, hwaits, hreader⟩ := hlogs
  refine ⟨later, ?_, hwaits, hreader⟩
  rw [stepIo, hactions, hw, List.drop_left]

theorem Armed.stepIo {event : RuntimeEvent} {connects : Prop} {w : RuntimeIo σ} (h : Armed T)
    (hlogs : RuntimeIo.Logs connects w (T.io.step backend parsers platform event))
    (hw : w.actions = T.io.actions) (hclear : connects → Clear T) :
    Armed (T.stepIo backend parsers platform event) := by
  obtain ⟨later, heq, -, hreader⟩ := stepIo_logs hlogs hw
  have hstop : Armed { T.cancelOnStop event with
      io := T.io.step backend parsers platform event } :=
    ⟨(h.cancelOnStop event).outstanding, (h.cancelOnStop event).established,
      (h.cancelOnStop event).recalled⟩
  rw [heq]
  apply hstop.foldl_follow
  intro unjoined hmem
  obtain ⟨hconnects, hnone⟩ := hreader unjoined hmem
  exact ⟨(hclear hconnects).cancelOnStop event, hnone⟩

theorem tracked_stepIo {event : RuntimeEvent} {connects : Prop} {w : RuntimeIo σ}
    (hlogs : RuntimeIo.Logs connects w (T.io.step backend parsers platform event))
    (hw : w.actions = T.io.actions)
    (htracked : (T.waits.map ConnectionWait.generation).Perm w.connectionWaits) :
    Tracked (T.stepIo backend parsers platform event) := by
  obtain ⟨later, heq, hwaits, -⟩ := stepIo_logs hlogs hw
  have hstop := congrArg (List.map ConnectionWait.generation) (cancelOnStop_waits T event)
  rw [Tracked, stepIo_io, hwaits, heq, foldl_follow_waits]
  exact (hstop ▸ htracked).append_right _

theorem waitsAfter_of_ne {w : RuntimeIo σ} {event : RuntimeEvent}
    (hevent : ∀ g error draw, event ≠ .connectionTimer g error draw) :
    w.waitsAfter event = w.connectionWaits := by
  cases event with
  | connectionTimer g error draw => exact absurd rfl (hevent g error draw)
  | _ => rfl

/-- The handler of a wait that is queued is no longer waited for. -/
theorem tracked_erase {k : Nat} {q : ConnectionWait × Bool} (h : Tracked T)
    (hk : T.queued[k]? = some q) :
    (({ T with queued := T.queued.eraseIdx k } : RuntimeTimer σ).waits.map
      ConnectionWait.generation).Perm (T.io.connectionWaits.erase q.1.generation) := by
  obtain ⟨hlt, rfl⟩ := List.getElem?_eq_some_iff.mp hk
  have hqueued : (T.queued[k] :: T.queued.eraseIdx k).Perm T.queued :=
    List.getElem_cons_eraseIdx_perm hlt
  have hwaits := ((hqueued.map Prod.fst).append_right T.pending.toList).map
    ConnectionWait.generation
  have hperm := (hwaits.trans h).erase T.queued[k].1.generation
  simpa [waits] using hperm

theorem Armed.step (h : Armed T) {e : RuntimeTimerEvent} (htimely : T.Timely backend parsers e) :
    Armed (T.step backend parsers platform e) := by
  cases e with
  | io event =>
    obtain hsame | ⟨hevent, hstep⟩ := step_io_cases backend parsers platform T event
    · rwa [hsame]
    · rw [hstep]
      exact h.stepIo (RuntimeIo.Logs.step backend parsers platform T.io event) rfl htimely
  | expire => exact h.expire
  | handler k draw =>
    rw [RuntimeTimer.step]
    obtain hsame | ⟨wait, ok, hrunning, -, hhandler⟩ := handler_cases backend parsers platform T k draw
    · rwa [hsame]
    · have herased : Armed ({ T with queued := T.queued.eraseIdx k } : RuntimeTimer σ) :=
        ⟨h.outstanding, h.established, fun q hq => h.recalled q (List.mem_of_mem_eraseIdx hq)⟩
      rw [hhandler]
      exact herased.stepIo (RuntimeIo.Logs.step backend parsers platform T.io _) rfl False.elim

variable (backend parsers platform) in
theorem tracked_step (h : Tracked T) (e : RuntimeTimerEvent) :
    Tracked (T.step backend parsers platform e) := by
  cases e with
  | io event =>
    obtain hsame | ⟨hevent, hstep⟩ := step_io_cases backend parsers platform T event
    · rwa [hsame]
    · rw [hstep]
      refine tracked_stepIo (RuntimeIo.Logs.step backend parsers platform T.io event) rfl ?_
      rwa [waitsAfter_of_ne hevent]
  | expire =>
    have hwaits : (T.step backend parsers platform .expire).waits = T.waits := by
      simp [step, waits, Function.comp_def]
    rwa [Tracked, hwaits]
  | handler k draw =>
    rw [step]
    obtain hsame | ⟨wait, ok, hrunning, hk, hhandler⟩ := handler_cases backend parsers platform T k draw
    · rwa [hsame]
    · rw [hhandler]
      refine tracked_stepIo (RuntimeIo.Logs.step backend parsers platform T.io _) rfl ?_
      simpa [RuntimeIo.waitsAfter, hrunning] using tracked_erase h hk

/-- In every run, the handlers of waits that have not run are those that the runtime waits for. -/
theorem run_tracked (config : ClientConfig) (device : σ) (es : List RuntimeTimerEvent) :
    Tracked (Run.run (step backend parsers platform) (started config device) es) := by
  have hstarted : Tracked (started config device : RuntimeTimer σ) := List.Perm.refl []
  exact Run.invariant (P := Tracked) (fun _ e h => tracked_step backend parsers platform h e)
    hstarted es

/-- A wait that runs with an error leaves the runtime alone. -/
theorem connectionTimer_aborted (w : RuntimeIo σ) (g : UInt64) (draw : Nat) :
    let w' := w.step backend parsers platform (.connectionTimer g true draw)
    w' = { w with connectionWaits := w'.connectionWaits } := by
  simp only [RuntimeIo.step, RuntimeIo.handle, RuntimeIo.onConnectionTimer]
  split
  · rfl
  · split
    · simp
    · rfl

variable (backend parsers platform) in
theorem Armed.spares (h : Armed T) (e : RuntimeTimerEvent) :
    T.Spares backend parsers platform e := by
  cases e with
  | handler k draw =>
    intro wait ok hk hmem
    have hqueued : (wait, ok) ∈ T.queued := List.mem_of_getElem? hk
    have haborted : ok = false := by
      by_contra hok
      exact h.recalled _ hqueued (by simpa using hok) hmem
    subst haborted
    dsimp only
    obtain hsame | ⟨wait', ok', hrunning, hk', hhandler⟩ :=
      handler_cases backend parsers platform T k draw
    · rw [hsame]
    · obtain ⟨rfl, rfl⟩ : wait = wait' ∧ false = ok' := by simpa [hk] using hk'
      rw [hhandler, stepIo_io]
      exact connectionTimer_aborted T.io wait.generation draw
  | _ => trivial

/-- In a run in which no wait of an attempt has expired, with its handler queued, where the attempt's
tunnel becomes established, no handler of a wait of an established attempt touches the runtime. -/
theorem established_spared (backend : ClientNetworkBackend σ) (parsers : AddressParsers)
    (platform : Platform) (config : ClientConfig) (device : σ) (es : List RuntimeTimerEvent)
    (h : Run.Along (step backend parsers platform) (Timely backend parsers) (started config device)
      es) :
    Run.Along (step backend parsers platform) (Spares backend parsers platform)
      (started config device) es := by
  have hstarted : Armed (started config device : RuntimeTimer σ) :=
    ⟨by simp [started], by simp [started], by simp [started]⟩
  exact Run.along_of_guarded (P := Armed)
    (fun _ e harmed htimely => ⟨harmed.step htimely, harmed.spares backend parsers platform e⟩)
    hstarted h

/-- A handler that changes the state does not spare an established tunnel. -/
theorem not_spares {k draw : Nat} {wait : ConnectionWait} {ok : Bool}
    (hk : T.queued[k]? = some (wait, ok)) (hmem : wait.attempt ∈ T.established)
    (hstate : (T.handler backend parsers platform k draw).io.runtime.state ≠ T.io.runtime.state) :
    ¬T.Spares backend parsers platform (.handler k draw) := by
  intro hspares
  have hsame := hspares wait ok hk hmem
  exact hstate (by rw [hsame])

/-- A runtime on an idle host, with one route. -/
def routed : RuntimeTimer ClientNetworkTransaction.Host :=
  started { routes := [text "10.20.0.0/16"] } {}

/-- An attempt up to its tunnel. -/
def attempt : List RuntimeTimerEvent :=
  [.io .begin, .io (.resolve 1 none [] (.ok ()) 0), .io (.connect 1 none 0)]

/-- The assignment of the tunnel of `attempt`. -/
def assigned : RuntimeTimerEvent := .io (.assignment 0 ClientNetworkTransaction.hostAssignment)

/-- The wait is cancelled in time, and its handler runs with an error. -/
theorem established_spared_cancelled :
    let parsers : AddressParsers := ⟨fun _ => none, fun _ => none⟩
    let backend := ClientNetworkTransaction.Host.backend
    let es := attempt ++ [assigned, .handler 0 0]
    let T := Run.run (step backend parsers .other) routed es
    Run.Along (step backend parsers .other) (Spares backend parsers .other) routed es ∧
      T.io.runtime.state = .connected ∧ T.queued = [] := by
  intro parsers backend es T
  have hqueued : (Run.run (step backend parsers .other) routed attempt).queued = [] := by
    decide +kernel
  have hclear : Clear (Run.run (step backend parsers .other) routed attempt) := by
    intro q hq
    rw [hqueued] at hq
    simp at hq
  have htimely : Run.Along (step backend parsers .other) (Timely backend parsers) routed es := by
    rw [Run.along_append]
    exact ⟨⟨False.elim, False.elim, False.elim, trivial⟩, fun _ => hclear, trivial, trivial⟩
  exact ⟨established_spared backend parsers .other _ _ es htimely, by decide +kernel,
    by decide +kernel⟩

/-- The wait expires and its handler is queued when the assignment comes: the tunnel is connected, and
then the handler takes the network down. -/
theorem expired_wait_disconnects :
    let parsers : AddressParsers := ⟨fun _ => none, fun _ => none⟩
    let backend := ClientNetworkTransaction.Host.backend
    let T := Run.run (step backend parsers .other) routed (attempt ++ [.expire, assigned])
    let T' := T.step backend parsers .other (.handler 0 0)
    T.queued = [(⟨1, 1⟩, true)] ∧ T.established = [1] ∧ T.io.runtime.state = .connected ∧
      T.io.network.1.active = true ∧ ¬T.Spares backend parsers .other (.handler 0 0) ∧
      T'.io.runtime.state = .reconnecting ∧ T'.io.network.1.active = false ∧
      T'.io.tunnel = none := by
  intro parsers backend T T'
  have hqueued : T.queued = [(⟨1, 1⟩, true)] := by decide +kernel
  have hestablished : T.established = [1] := by decide +kernel
  have hconnected : T.io.runtime.state = .connected := by decide +kernel
  have hreconnecting : T'.io.runtime.state = .reconnecting := by decide +kernel
  have hfirst : T.queued[0]? = some (⟨1, 1⟩, true) := by
    rw [hqueued]
    rfl
  have hspares : ¬T.Spares backend parsers .other (.handler 0 0) :=
    not_spares hfirst (by simp [hestablished]) (by decide +kernel)
  exact ⟨hqueued, hestablished, hconnected, by decide +kernel, hspares, hreconnecting,
    by decide +kernel, by decide +kernel⟩

end RuntimeTimer

end PersonalVpn.Client
