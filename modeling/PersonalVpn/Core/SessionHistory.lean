import PersonalVpn.Core.Conforming
import PersonalVpn.Core.FleetSafety

namespace PersonalVpn.Core

open Protocol Sequenced

/-- The session has not begun to close. -/
def SessionState.IsOpen (state : SessionState) : Prop :=
  state = .awaitingHello ∨ state = .established

instance (state : SessionState) : Decidable state.IsOpen := inferInstanceAs (Decidable (_ ∨ _))

/-- A call on a session controller. The manager is shared, so each call finds it as its other users
have left it. -/
inductive SessionCall where
  | handle (m : LeaseManager) (frame : Frame) (now : TimePoint)
  | makeDataToClient (m : LeaseManager) (packet : Bytes) (now : TimePoint)
  | onTransportClosed (m : LeaseManager)

/-- A call that was made: the state it found, and what it returned. -/
structure SessionEntry where
  state : SessionState
  call : SessionCall
  result : Except Exception SessionResult

namespace SessionEntry

def frames (e : SessionEntry) : List Frame :=
  match e.result with
  | .ok r => r.outboundFrames
  | .error _ => []

/-- The frame an open session took without answering it with an ERROR. -/
def actedOn (e : SessionEntry) : List Frame :=
  match e.call, e.result with
  | .handle _ frame _, .ok r =>
    if e.state.IsOpen ∧ ∀ f ∈ r.outboundFrames, f.type ≠ .error then [frame] else []
  | _, _ => []

/-- Nothing leaves the controller any more, and `handle` asks to close. -/
def Silent (e : SessionEntry) : Prop :=
  ∃ r, e.result = .ok r ∧ r.outboundFrames = [] ∧ r.packetsToTun = [] ∧
    ∀ m frame now, e.call = .handle m frame now → r.closeTransport = true

end SessionEntry

/-- A controller with the calls made on it so far. -/
structure SessionHistory where
  controller : SessionController
  entries : List SessionEntry := []

namespace SessionHistory

/-- What a call returns, and the controller after it. -/
def answer (s : SessionController) :
    SessionCall → Except Exception SessionResult × SessionController
  | .handle m frame now =>
    let (result, s, _) := s.handle m frame now
    (result, s)
  | .makeDataToClient m packet now =>
    let (frame, s, _) := s.makeDataToClient m packet now
    (.ok { outboundFrames := frame.toList }, s)
  | .onTransportClosed m => (.ok {}, (s.onTransportClosed m).1)

def step (h : SessionHistory) (call : SessionCall) : SessionHistory where
  controller := (answer h.controller call).2
  entries := h.entries ++ [⟨h.controller.state, call, (answer h.controller call).1⟩]

/-- The frames produced by all calls, in call order. -/
def frames (h : SessionHistory) : List Frame := h.entries.flatMap SessionEntry.frames

/-- The frames acted on, in call order. -/
def actedOn (h : SessionHistory) : List Frame := h.entries.flatMap SessionEntry.actedOn

/-- The history and the controller agree. -/
structure Consistent (h : SessionHistory) : Prop where
  holds : h.controller.Holds
  returned : ∀ e ∈ h.entries, ∃ r, e.result = .ok r
  sent : Counted Frame.sequence h.frames h.controller.nextOutboundSequence
  acted : h.actedOn.map Frame.sequence = numbers h.actedOn.length
  expected : h.controller.state.IsOpen →
    Counted Frame.sequence h.actedOn h.controller.nextExpectedSequence
  established : h.controller.state = .established → h.frames ≠ []
  first : ∀ f, h.frames.head? = some f → f.type = .ipAssign ∨ f.type = .error
  errors : h.controller.state.IsOpen → ∀ f ∈ h.frames, f.type ≠ .error
  last : ∀ f ∈ h.frames.dropLast, f.type ≠ .error

/-- What one call on the controller `s` returns and leaves behind. -/
structure Extends (s : SessionController) (e : SessionEntry) (s' : SessionController) : Prop where
  holds : s'.Holds
  returned : ∃ r, e.result = .ok r
  sends : Adds Frame.sequence e.frames s.nextOutboundSequence s'.nextOutboundSequence
  acts : Adds Frame.sequence e.actedOn s.nextExpectedSequence s'.nextExpectedSequence ∨
    (e.actedOn = [] ∧ ¬s'.state.IsOpen)
  errors : ∀ f ∈ e.frames, f.type = .error → ¬s'.state.IsOpen
  greeting : s.state = .awaitingHello → ∀ f ∈ e.frames, f.type = .ipAssign ∨ f.type = .error
  established : s'.state = .established → s.state = .established ∨ e.frames ≠ []
  closing : ¬s.state.IsOpen → ¬s'.state.IsOpen ∧ e.Silent ∧ e.actedOn = []

/-- A frame that an open session takes and answers without an ERROR. -/
theorem actedOn_handle {s : SessionController} (hopen : s.state.IsOpen) (m : LeaseManager)
    (f : Frame) (now : TimePoint) {r : SessionResult} (hr : ∀ g ∈ r.outboundFrames, g.type ≠ .error) :
    SessionEntry.actedOn ⟨s.state, .handle m f now, .ok r⟩ = [f] := by
  have hacted : s.state.IsOpen ∧ ∀ g ∈ r.outboundFrames, g.type ≠ .error := ⟨hopen, hr⟩
  dsimp only [SessionEntry.actedOn]
  rw [if_pos hacted]

theorem handled_extends {s s' : SessionController} {m m' : LeaseManager} {f : Frame}
    {now : TimePoint} {r : SessionResult} (hs : s.Holds)
    (hh : SessionController.Handled s m f now r s' m') :
    Extends s ⟨s.state, .handle m f now, .ok r⟩ s' := by
  have hholds := hh.holds hs
  cases hh with
  | inert state =>
    have hno : ¬s.state.IsOpen := by
      obtain hst | hst := state
      · simp [hst, SessionState.IsOpen]
      · simp [hst, SessionState.IsOpen]
    have hacted : SessionEntry.actedOn ⟨s.state, .handle m f now, .ok { closeTransport := true }⟩ =
        [] := by
      simp [SessionEntry.actedOn, hno]
    refine ⟨hholds, ⟨_, rfl⟩, .inl ⟨rfl, rfl⟩, .inr ⟨hacted, hno⟩, ?_, ?_, ?_, ?_⟩
    · simp [SessionEntry.frames]
    · simp [SessionEntry.frames]
    · intro hst
      exact .inl hst
    · intro _
      exact ⟨hno, ⟨_, rfl, rfl, rfl, by simp⟩, hacted⟩
  | failed state encode manager =>
    refine ⟨hholds, ⟨_, rfl⟩, .inr ⟨_, rfl, rfl, rfl⟩, .inr ⟨?_, ?_⟩, ?_, ?_, ?_, ?_⟩
    · simp [SessionEntry.actedOn]
    · simp [SessionState.IsOpen]
    · simp [SessionState.IsOpen]
    · simp [SessionEntry.frames]
    · simp
    · intro hno
      exact absurd state hno
  | granted state sequence type decode acquire encode =>
    have hopen : s.state.IsOpen := .inl state
    refine ⟨hholds, ⟨_, rfl⟩, .inr ⟨_, rfl, rfl, rfl⟩, .inl (.inr ⟨f, ?_, sequence, rfl⟩),
      ?_, ?_, ?_, ?_⟩
    · exact actedOn_handle hopen m f now (by simp)
    · simp [SessionEntry.frames]
    · simp [SessionEntry.frames]
    · simp [SessionEntry.frames]
    · intro hno
      exact absurd hopen hno
  | packet state sequence lease renew accepts =>
    have hopen : s.state.IsOpen := .inr state
    refine ⟨hholds, ⟨_, rfl⟩, .inl ⟨rfl, rfl⟩, .inl (.inr ⟨f, ?_, sequence, rfl⟩), ?_, ?_, ?_, ?_⟩
    · exact actedOn_handle hopen m f now (by simp)
    · simp [SessionEntry.frames]
    · simp [SessionEntry.frames]
    · simp [state]
    · intro hno
      exact absurd hopen hno
  | pong state sequence lease renew type size =>
    have hopen : s.state.IsOpen := .inr state
    refine ⟨hholds, ⟨_, rfl⟩, .inr ⟨_, rfl, rfl, rfl⟩, .inl (.inr ⟨f, ?_, sequence, rfl⟩),
      ?_, ?_, ?_, ?_⟩
    · exact actedOn_handle hopen m f now (by simp)
    · simp [SessionEntry.frames]
    · simp [state]
    · simp [state]
    · intro hno
      exact absurd hopen hno
  | closed state sequence type =>
    have hopen : s.state.IsOpen := .inr state
    refine ⟨hholds, ⟨_, rfl⟩, .inl ⟨rfl, rfl⟩, .inl (.inr ⟨f, ?_, sequence, rfl⟩), ?_, ?_, ?_, ?_⟩
    · exact actedOn_handle hopen m f now (by simp)
    · simp [SessionEntry.frames]
    · simp [SessionEntry.frames]
    · simp
    · intro hno
      exact absurd hopen hno

theorem sent_extends {s s' : SessionController} {m m' : LeaseManager} {packet : Bytes}
    {now : TimePoint} {r : Option Frame} (hs : s.Holds)
    (hh : SessionController.Sent s m packet now r s' m') :
    Extends s ⟨s.state, .makeDataToClient m packet now, .ok { outboundFrames := r.toList }⟩ s' := by
  have hholds := hh.holds hs
  cases hh with
  | ignored =>
    refine ⟨hholds, ⟨_, rfl⟩, .inl ⟨rfl, rfl⟩, .inl (.inl ⟨rfl, rfl⟩), ?_, ?_, ?_, ?_⟩
    · simp [SessionEntry.frames]
    · simp [SessionEntry.frames]
    · intro hst
      exact .inl hst
    · intro hno
      exact ⟨hno, ⟨_, rfl, rfl, rfl, by simp⟩, rfl⟩
  | lost state lease renew delivers =>
    refine ⟨hholds, ⟨_, rfl⟩, .inl ⟨rfl, rfl⟩, .inl (.inl ⟨rfl, rfl⟩), ?_, ?_, ?_, ?_⟩
    · simp [SessionEntry.frames]
    · simp [SessionEntry.frames]
    · simp
    · intro hno
      exact absurd (.inr state) hno
  | sent state lease renew delivers =>
    refine ⟨hholds, ⟨_, rfl⟩, .inr ⟨_, rfl, rfl, rfl⟩, .inl (.inl ⟨rfl, rfl⟩), ?_, ?_, ?_, ?_⟩
    · intro g hg herr
      simp only [SessionEntry.frames, Option.toList_some, List.mem_singleton] at hg
      rw [hg] at herr
      obtain ⟨ht, -⟩ | ⟨ht, -⟩ := delivers
      · exact absurd (ht.symm.trans herr) (by decide)
      · exact absurd (ht.symm.trans herr) (by decide)
    · simp [state]
    · simp [state]
    · intro hno
      exact absurd (.inr state) hno

theorem closed_extends (s : SessionController) (m : LeaseManager) :
    Extends s ⟨s.state, .onTransportClosed m, .ok {}⟩ (s.onTransportClosed m).1 := by
  rw [SessionController.onTransportClosed_fst]
  refine ⟨?_, ⟨_, rfl⟩, .inl ⟨rfl, rfl⟩, .inl (.inl ⟨rfl, rfl⟩), ?_, ?_, ?_, ?_⟩
  · simp [SessionController.Holds]
  · simp [SessionEntry.frames]
  · simp [SessionEntry.frames]
  · simp
  · intro _
    exact ⟨by simp [SessionState.IsOpen], ⟨_, rfl, rfl, rfl, by simp⟩, rfl⟩

/-- No call throws, and each does one of the things above. -/
theorem answer_extends {s : SessionController} (hs : s.Holds) (call : SessionCall) :
    Extends s ⟨s.state, call, (answer s call).1⟩ (answer s call).2 := by
  cases call with
  | handle m f now =>
    obtain ⟨r, s', m', heq, hh⟩ := SessionController.handle_handled hs m f now
    simp only [answer, heq]
    exact handled_extends hs hh
  | makeDataToClient m packet now =>
    obtain ⟨r, s', m', heq, hh⟩ := SessionController.makeDataToClient_sent s m packet now
    simp only [answer, heq]
    exact sent_extends hs hh
  | onTransportClosed m => exact closed_extends s m

@[simp] theorem frames_step (h : SessionHistory) (call : SessionCall) : (h.step call).frames =
    h.frames ++ SessionEntry.frames ⟨h.controller.state, call, (answer h.controller call).1⟩ := by
  simp [frames, step]

@[simp] theorem actedOn_step (h : SessionHistory) (call : SessionCall) : (h.step call).actedOn =
    h.actedOn ++ SessionEntry.actedOn ⟨h.controller.state, call, (answer h.controller call).1⟩ := by
  simp [actedOn, step]

theorem Consistent.transcript {h : SessionHistory} (hc : h.Consistent) :
    Transcript Frame.sequence (fun f => f.type = .error) h.controller.state.IsOpen h.frames h.actedOn
      h.controller.nextOutboundSequence h.controller.nextExpectedSequence :=
  ⟨hc.sent, hc.acted, hc.expected, hc.errors, hc.last⟩

/-- A step keeps the history consistent. -/
theorem Consistent.step {h : SessionHistory} (hc : h.Consistent) (call : SessionCall) :
    (h.step call).Consistent := by
  have hx := answer_extends hc.holds call
  have hstate : (h.step call).controller = (answer h.controller call).2 := rfl
  have hframes := h.frames_step call
  have hacted := h.actedOn_step call
  generalize he : SessionEntry.mk h.controller.state call (answer h.controller call).1 = e at *
  have hentries : (h.step call).entries = h.entries ++ [e] := by rw [← he]; rfl
  have hsilent : ¬h.controller.state.IsOpen → e.frames = [] := by
    intro hno
    obtain ⟨-, ⟨r, hr, hnil, -⟩, -⟩ := hx.closing hno
    simp [SessionEntry.frames, hr, hnil]
  have hdead : ¬h.controller.state.IsOpen →
      ¬(h.step call).controller.state.IsOpen ∧ e.frames = [] ∧ e.actedOn = [] := by
    intro hno
    obtain ⟨hends, -, hacted⟩ := hx.closing hno
    exact ⟨hends, hsilent hno, hacted⟩
  have htranscript := hc.transcript.append hx.sends hx.acts hx.errors hdead
  rw [← hframes, ← hacted] at htranscript
  refine ⟨hx.holds, ?_, htranscript.sent, htranscript.taken, htranscript.expected, ?_, ?_,
    htranscript.unfinished, htranscript.last⟩
  · intro e' he'
    rw [hentries, List.mem_append, List.mem_singleton] at he'
    obtain hold | hnew := he'
    · exact hc.returned e' hold
    · rw [hnew]
      exact hx.returned
  · intro hs
    rw [hframes]
    obtain hold | hnew := hx.established hs
    · simp [hc.established hold]
    · simp [hnew]
  · rw [hframes]
    apply first_append hc.first
    intro hnone f hmem
    -- nothing was sent yet, so the session still waits for its hello
    apply hx.greeting _ f hmem
    cases hst : h.controller.state with
    | awaitingHello => rfl
    | established => exact absurd hnone (hc.established hst)
    | closing => simp [hsilent (by simp [hst, SessionState.IsOpen])] at hmem
    | closed => simp [hsilent (by simp [hst, SessionState.IsOpen])] at hmem

/-- A new controller, on which nothing has been called. -/
theorem consistent_create {identity : Bytes} {s : SessionController}
    (hs : SessionController.create identity = .ok s) : Consistent ⟨s, []⟩ := by
  rw [SessionController.create, ite_error_eq_ok] at hs
  obtain ⟨-, hok⟩ := hs
  obtain rfl := Except.ok.inj hok
  refine ⟨?_, ?_, counted_nil, rfl, fun _ => counted_nil, ?_, ?_, ?_, ?_⟩
  all_goals simp [SessionController.Holds, frames]

/-- A session that has begun to close stays so, and is silent. -/
theorem run_closed {h : SessionHistory} (hc : h.Consistent) (hno : ¬h.controller.state.IsOpen)
    (calls : List SessionCall) :
    ¬(Run.run step h calls).controller.state.IsOpen ∧
      ∃ later, (Run.run step h calls).entries = h.entries ++ later ∧
        later.length = calls.length ∧ ∀ e ∈ later, e.Silent := by
  have hstep : ∀ (h : SessionHistory) call, h.Consistent ∧ ¬h.controller.state.IsOpen →
      ((h.step call).Consistent ∧ ¬(h.step call).controller.state.IsOpen) ∧
        SessionEntry.Silent ⟨h.controller.state, call, (answer h.controller call).1⟩ := by
    intro h call hh
    obtain ⟨hno, hsilent, -⟩ := (answer_extends hh.1.holds call).closing hh.2
    exact ⟨⟨hh.1.step call, hno⟩, hsilent⟩
  obtain ⟨hend, hlater⟩ := Run.run_logs entries (fun _ _ => rfl) hstep ⟨hc, hno⟩ calls
  exact ⟨hend.2, hlater⟩

/-- Whatever is called on a controller, in whatever order and with whatever frames, it fails
closed. -/
theorem session_fails_closed {identity : Bytes} {s₀ : SessionController}
    (h₀ : SessionController.create identity = .ok s₀) (calls : List SessionCall) :
    let h := Run.run step ⟨s₀, []⟩ calls
    -- no call throws, and an established session has the lease it dereferences
    (∀ e ∈ h.entries, ∃ r, e.result = .ok r) ∧
    (h.controller.state = .established → ∃ l, h.controller.lease = some l) ∧
    -- the frames produced, and the frames acted on
    h.frames.map Frame.sequence = numbers h.frames.length ∧
    (∀ f, h.frames.head? = some f → f.type = .ipAssign ∨ f.type = .error) ∧
    h.actedOn.map Frame.sequence = numbers h.actedOn.length ∧
    (∀ f ∈ h.frames.dropLast, f.type ≠ .error) ∧
    -- from closing or closed there is no way back
    (h.controller.state = .closing ∨ h.controller.state = .closed → ∀ more,
      let h' := Run.run step h more
      (h'.controller.state = .closing ∨ h'.controller.state = .closed) ∧
      ∃ later, h'.entries = h.entries ++ later ∧ later.length = more.length ∧
        ∀ e ∈ later, e.Silent) := by
  intro h
  have hc : h.Consistent :=
    Run.invariant (fun _ call hc => hc.step call) (consistent_create h₀) calls
  have hends (state : SessionState) : ¬state.IsOpen ↔ state = .closing ∨ state = .closed := by
    cases state <;> simp [SessionState.IsOpen]
  refine ⟨hc.returned, hc.holds.some, hc.sent.numbered, hc.first, hc.acted, hc.last, ?_⟩
  intro hclosed more h'
  rw [← hends] at hclosed ⊢
  exact run_closed hc hclosed more

/-- The controller of a client that has the one address of its pool, before its frame `k`. -/
def established (k : UInt64) : SessionController where
  identity := text "c"
  state := .established
  lease := some (LeaseManager.singleLease 1)
  nextExpectedSequence := 2
  nextOutboundSequence := k

def leasedManager : LeaseManager :=
  { LeaseManager.singleManager 1 with
    leasesByIdentity := AList.insert (text "c") (LeaseManager.singleLease 1) ∅
    identityByAddress :=
      AList.insert (toInteger (LeaseManager.singleLease 1).address) (text "c") ∅
    nextLeaseId := 2 }

/-- An IPv4 header from 10.8.0.1 to 10.8.0.2 without payload. -/
def downlinkPacket : Bytes := [69, 0, 0, 20, 0, 0, 0, 0, 64, 0, 0, 0, 10, 8, 0, 1, 10, 8, 0, 2]

theorem handle_helloFrame : ∃ payload,
    SessionController.handle { identity := text "c" } (LeaseManager.singleManager 1)
      Fleet.helloFrame 0 =
      (.ok { outboundFrames := [⟨.ipAssign, 0, 1, payload⟩] }, established 2, leasedManager) := by
  have hdecode : decodeClientHello Fleet.helloFrame.payload = .ok ⟨1400, 3⟩ := rfl
  have hacquire := LeaseManager.acquire_single (k := 1) (by decide)
  have hmtu : min (1400 : UInt16) leasedManager.mtu = 1400 := by decide
  have hencode : ∃ payload, encodeIpAssignment { leasedManager.toAssignment
      (LeaseManager.singleLease 1) with mtu := min 1400 leasedManager.mtu } = .ok payload := by
    rw [hmtu]
    exact ⟨_, rfl⟩
  obtain ⟨payload, hencode⟩ := hencode
  refine ⟨payload, ?_⟩
  rw [SessionController.handle_hello rfl rfl rfl hdecode hacquire hencode]
  dsimp only
  rw [hmtu]
  rfl

theorem makeDataToClient_established (k : UInt64) :
    (established k).makeDataToClient leasedManager downlinkPacket 0 =
      (some ⟨.dataIpv4, 0, k, downlinkPacket⟩, established (k + 1), leasedManager) := by
  have hrenew : (established k).renewLease leasedManager 0 =
      (some (LeaseManager.singleLease 1), leasedManager) := rfl
  rw [SessionController.makeDataToClient, SessionController.renewAndSend, hrenew]
  rfl

/-- The hello, and then `n` packets for the client. -/
def stream (n : Nat) : List SessionCall :=
  .handle (LeaseManager.singleManager 1) Fleet.helloFrame 0 ::
    List.replicate n (.makeDataToClient leasedManager downlinkPacket 0)

theorem run_stream (n : Nat) :
    let h := Run.run step ⟨{ identity := text "c" }, []⟩ (stream n)
    h.controller = established (UInt64.ofNat (n + 2)) ∧ h.frames.length = n + 1 := by
  intro h
  induction n with
  | zero =>
    obtain ⟨payload, heq⟩ := handle_helloFrame
    simp [h, stream, step, frames, SessionEntry.frames, answer, heq]
  | succ n ih =>
    obtain ⟨hcontroller, hlen⟩ := ih
    have hsplit : stream (n + 1) =
        stream n ++ [.makeDataToClient leasedManager downlinkPacket 0] := by
      simp [stream, List.replicate_succ']
    have hnext : UInt64.ofNat (n + 1 + 2) = UInt64.ofNat (n + 2) + 1 := ofNat_succ (n + 2)
    simp only [h, hsplit, Run.run_append, Run.run_cons, Run.run_nil, frames_step,
      List.length_append, hlen]
    simp [step, answer, hcontroller, makeDataToClient_established, SessionEntry.frames, hnext]

/-- A session with one client that is greeted and then sent a packet. -/
theorem session_fails_closed_stream :
    let h := Run.run step ⟨{ identity := text "c" }, []⟩ (stream 1)
    h.frames.length = 2 ∧ h.frames.map Frame.sequence = [1, 2] := by
  intro h
  obtain ⟨-, hlen⟩ := run_stream 1
  have hlen : h.frames.length = 2 := hlen
  have hcreate : SessionController.create (text "c") = .ok { identity := text "c" } := rfl
  obtain ⟨-, -, hnumbers, -⟩ := session_fails_closed hcreate (stream 1)
  refine ⟨hlen, hnumbers.trans ?_⟩
  rw [hlen]
  rfl

/-- After 2^64 frames the numbers start over. -/
theorem frame_numbers_start_over :
    SessionController.create (text "c") = .ok { identity := text "c" } ∧
    -- each call leaves the manager that the next one finds
    (∃ r, SessionController.handle { identity := text "c" } (LeaseManager.singleManager 1)
      Fleet.helloFrame 0 = (.ok r, established 2, leasedManager)) ∧
    (∀ k, ((established k).makeDataToClient leasedManager downlinkPacket 0).2 =
      (established (k + 1), leasedManager)) ∧
    let h := Run.run step ⟨{ identity := text "c" }, []⟩ (stream (2 ^ 64 - 1))
    h.frames.length = 2 ^ 64 ∧
      h.frames.map (fun f => f.sequence.toNat) ≠ (List.range h.frames.length).map (· + 1) := by
  obtain ⟨payload, hhello⟩ := handle_helloFrame
  have hcreate : SessionController.create (text "c") = .ok { identity := text "c" } := rfl
  refine ⟨hcreate, ⟨_, hhello⟩, ?_, ?_⟩
  · intro k
    rw [makeDataToClient_established]
  intro h
  obtain ⟨-, hlen⟩ := run_stream (2 ^ 64 - 1)
  have hlen : h.frames.length = 2 ^ 64 := hlen
  have hc : h.Consistent :=
    Run.invariant (fun _ call hc => hc.step call) (consistent_create hcreate) _
  exact ⟨hlen, not_counting hc.sent.numbered hlen⟩

end SessionHistory

end PersonalVpn.Core
