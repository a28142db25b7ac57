import PersonalVpn.Core.SessionHistory

namespace PersonalVpn.Core

open Protocol Sequenced

/-- The session is over for the client. -/
def ClientSessionState.HasEnded (state : ClientSessionState) : Prop :=
  state = .closing ∨ state = .closed

instance (state : ClientSessionState) : Decidable state.HasEnded :=
  inferInstanceAs (Decidable (_ ∨ _))

/-- A call on a client's controller. -/
inductive ClientCall where
  | start
  | handle (frame : Frame)
  | makeDataToServer (packet : Bytes)
  | makePing (nonce : UInt64)
  | makeClose (code : UInt16)
  | onTransportClosed

/-- A call that was made: the state it found, and what it returned. -/
structure ClientEntry where
  state : ClientSessionState
  call : ClientCall
  result : Except Exception ClientSessionResult

namespace ClientEntry

def frames (e : ClientEntry) : List Frame :=
  match e.result with
  | .ok r => r.outboundFrames
  | .error _ => []

def packets (e : ClientEntry) : List Bytes :=
  match e.result with
  | .ok r => r.packetsToTun
  | .error _ => []

/-- The assignment the call publishes. -/
def assignment (e : ClientEntry) : Option IpAssignment :=
  match e.result with
  | .ok r => r.assignment
  | .error _ => none

/-- The frame that a client waiting for frames took without answering it with an ERROR. -/
def actedOn (e : ClientEntry) : List Frame :=
  match e.call, e.result with
  | .handle frame, .ok r =>
    if (e.state = .awaitingAssignment ∨ e.state = .established) ∧
        ∀ f ∈ r.outboundFrames, f.type ≠ .error then [frame]
    else []
  | _, _ => []

/-- The nonce of the unanswered PING after the call, from the one before it. -/
def outstanding (pending : Option UInt64) (e : ClientEntry) : Option UInt64 :=
  match e.call with
  | .makePing nonce => if e.frames = [] then pending else some nonce
  | .handle _ => if e.actedOn.any (fun f => f.type = .pong) then none else pending
  | _ => pending

/-- Nothing leaves the controller any more, and `handle` asks to close. -/
def Silent (e : ClientEntry) : Prop :=
  e.frames = [] ∧ e.packets = [] ∧ e.assignment = none ∧
    ∀ frame, e.call = .handle frame → ∃ r, e.result = .ok r ∧ r.closeTransport = true

end ClientEntry

/-- A controller with the calls made on it so far. -/
structure ClientHistory where
  controller : ClientSessionController
  entries : List ClientEntry := []

namespace ClientHistory

/-- What a call returns, and the controller after it. -/
def answer (c : ClientSessionController) :
    ClientCall → Except Exception ClientSessionResult × ClientSessionController
  | .start =>
    let (frame, c) := c.start
    (frame.map fun frame => { outboundFrames := [frame] }, c)
  | .handle frame => c.handle frame
  | .makeDataToServer packet =>
    let (frame, c) := c.makeDataToServer packet
    (.ok { outboundFrames := frame.toList }, c)
  | .makePing nonce =>
    let (frame, c) := c.makePing nonce
    (.ok { outboundFrames := frame.toList }, c)
  | .makeClose code =>
    let (frame, c) := c.makeClose code
    (.ok { outboundFrames := frame.toList }, c)
  | .onTransportClosed => (.ok {}, c.onTransportClosed)

def step (h : ClientHistory) (call : ClientCall) : ClientHistory where
  controller := (answer h.controller call).2
  entries := h.entries ++ [⟨h.controller.state, call, (answer h.controller call).1⟩]

/-- The frames produced by all calls, in call order. -/
def frames (h : ClientHistory) : List Frame := h.entries.flatMap ClientEntry.frames

/-- The frames acted on, in call order. -/
def actedOn (h : ClientHistory) : List Frame := h.entries.flatMap ClientEntry.actedOn

/-- The nonce of the unanswered PING. -/
def outstanding (h : ClientHistory) : Option UInt64 :=
  h.entries.foldl ClientEntry.outstanding none

/-- The packet is within the policy of the assignment: its size, and its address of the family that
the type of its frame names. -/
def Within (a : IpAssignment) (fromServer : Bool) (type : MessageType) (packet : Bytes) : Prop :=
  packet.length ≤ a.mtu.toNat ∧
    ((type = .dataIpv4 ∧
      (if fromServer then ipv4Destination packet else ipv4Source packet) = a.clientAddress) ∨
    (type = .dataIpv6 ∧
      (if fromServer then ipv6Destination packet else ipv6Source packet) = a.clientIpv6Address))

theorem within_of_passes {a : IpAssignment} {fromServer : Bool} {type : MessageType} {packet : Bytes}
    (h : ClientSessionController.Passes a fromServer type packet) :
    Within a fromServer type packet := by
  obtain ⟨ht, -, hlen, haddr⟩ | ⟨ht, -, hlen, -, haddr⟩ := h
  · exact ⟨hlen, .inl ⟨ht, haddr⟩⟩
  · exact ⟨hlen, .inr ⟨ht, haddr⟩⟩

/-- What one call on the controller `c` returns and leaves behind. -/
structure Extends (c : ClientSessionController) (e : ClientEntry) (c' : ClientSessionController) :
    Prop where
  requested : c'.requestedMtu = c.requestedMtu
  sends : Adds Frame.sequence e.frames c.nextOutboundSequence c'.nextOutboundSequence
  acts : Adds Frame.sequence e.actedOn c.nextExpectedSequence c'.nextExpectedSequence ∨
    (e.actedOn = [] ∧ c'.state.HasEnded)
  errors : ∀ f ∈ e.frames, f.type = .error → c'.state.HasEnded
  idle : c'.state = .idle → c.state = .idle ∧ e.frames = []
  hello : c.state = .idle → (∀ f ∈ e.frames, f.type = .clientHello) ∧
    (c'.state = .idle ∨ c'.state.HasEnded ∨ e.frames ≠ [])
  ended : c.state.HasEnded → c'.state.HasEnded ∧ e.Silent ∧ e.actedOn = []
  -- an assignment is published by the first frame acted on, and kept
  unassigned : e.assignment = none → c'.assignment = c.assignment
  assigned : ∀ a, e.assignment = some a → c.state = .awaitingAssignment ∧
    c'.state = .established ∧ c'.assignment = some a ∧ c.assignmentIsAcceptable a = true ∧
    ∃ f, e.actedOn = [f]
  taken : c'.state = .idle ∨ c'.state = .awaitingAssignment → e.actedOn = []
  waiting : c'.state = .awaitingAssignment → c.state = .idle ∨ c.state = .awaitingAssignment
  established : c'.state = .established → c.state = .established ∨ e.assignment ≠ none
  received : ∀ p ∈ e.packets, ∃ f a, e.call = .handle f ∧ f.payload = p ∧
    c.assignment = some a ∧ Within a true f.type p
  sent : ∀ f ∈ e.frames, f.type = .dataIpv4 ∨ f.type = .dataIpv6 → ∃ a, c.assignment = some a ∧
    Within a false f.type f.payload
  pending : c'.pendingPingNonce = e.outstanding c.pendingPingNonce
  probes : e.frames.countP (fun f => f.type = .ping) + c.pendingPingNonce.toList.length =
    e.actedOn.countP (fun f => f.type = .pong) + c'.pendingPingNonce.toList.length

theorem actedOn_handle {c : ClientSessionController}
    (hlive : c.state = .awaitingAssignment ∨ c.state = .established) (f : Frame)
    {r : ClientSessionResult} (hr : ∀ g ∈ r.outboundFrames, g.type ≠ .error) :
    ClientEntry.actedOn ⟨c.state, .handle f, .ok r⟩ = [f] := by
  have hacted : (c.state = .awaitingAssignment ∨ c.state = .established) ∧
      ∀ g ∈ r.outboundFrames, g.type ≠ .error := ⟨hlive, hr⟩
  dsimp only [ClientEntry.actedOn]
  rw [if_pos hacted]

theorem not_hasEnded {state : ClientSessionState}
    (hlive : state = .idle ∨ state = .awaitingAssignment ∨ state = .established) :
    ¬state.HasEnded := by
  obtain hst | hst | hst := hlive
  · simp [hst, ClientSessionState.HasEnded]
  · simp [hst, ClientSessionState.HasEnded]
  · simp [hst, ClientSessionState.HasEnded]

/-- A call that returns nothing and changes nothing. -/
theorem unchanged_extends (c : ClientSessionController) {e : ClientEntry} (hframes : e.frames = [])
    (hpackets : e.packets = []) (hassignment : e.assignment = none) (hacted : e.actedOn = [])
    (hpending : e.outstanding c.pendingPingNonce = c.pendingPingNonce)
    (hclose : c.state.HasEnded → ∀ f, e.call = .handle f →
      ∃ r, e.result = .ok r ∧ r.closeTransport = true) : Extends c e c where
  requested := rfl
  sends := .inl ⟨hframes, rfl⟩
  acts := .inl (.inl ⟨hacted, rfl⟩)
  errors := by simp [hframes]
  idle hst := ⟨hst, hframes⟩
  hello hst := ⟨by simp [hframes], .inl hst⟩
  ended hend := ⟨hend, ⟨hframes, hpackets, hassignment, hclose hend⟩, hacted⟩
  unassigned _ := rfl
  assigned := by simp [hassignment]
  taken _ := hacted
  waiting hst := .inr hst
  established hst := .inl hst
  received := by simp [hpackets]
  sent := by simp [hframes]
  pending := hpending.symm
  probes := by simp [hframes, hacted]

/-- A frame of the client's own, under its next number. -/
theorem emitted_extends {c c' : ClientSessionController} {call : ClientCall} {f : Frame}
    (hcall : ∀ g, call ≠ .handle g) (hrequested : c'.requestedMtu = c.requestedMtu)
    (hassignment : c'.assignment = c.assignment)
    (hexpected : c'.nextExpectedSequence = c.nextExpectedSequence)
    (hnext : c'.nextOutboundSequence = c.nextOutboundSequence + 1)
    (hseq : f.sequence = c.nextOutboundSequence) (herror : f.type ≠ .error)
    (hlive : ¬c.state.HasEnded) (hidle : c'.state ≠ .idle)
    (hhello : c.state = .idle → f.type = .clientHello)
    (hwaiting : c'.state = .awaitingAssignment → c.state = .idle ∨ c.state = .awaitingAssignment)
    (hestablished : c'.state = .established → c.state = .established)
    (hsent : f.type = .dataIpv4 ∨ f.type = .dataIpv6 → ∃ a, c.assignment = some a ∧
      Within a false f.type f.payload)
    (hpending : c'.pendingPingNonce =
      ClientEntry.outstanding c.pendingPingNonce ⟨c.state, call, .ok { outboundFrames := [f] }⟩)
    (hprobes : (if f.type = .ping then 1 else 0) + c.pendingPingNonce.toList.length =
      c'.pendingPingNonce.toList.length) :
    Extends c ⟨c.state, call, .ok { outboundFrames := [f] }⟩ c' := by
  have hacted : ClientEntry.actedOn ⟨c.state, call, .ok { outboundFrames := [f] }⟩ = [] := by
    cases call with
    | handle g => exact absurd rfl (hcall g)
    | _ => rfl
  constructor
  case requested => exact hrequested
  case sends => exact .inr ⟨f, rfl, hseq, hnext⟩
  case acts => exact .inl (.inl ⟨hacted, hexpected⟩)
  case errors =>
    intro g hg
    simp only [ClientEntry.frames, List.mem_singleton] at hg
    rw [hg]
    exact fun hno => absurd hno herror
  case idle => exact fun hst => absurd hst hidle
  case hello =>
    intro hst
    refine ⟨?_, .inr (.inr (by simp [ClientEntry.frames]))⟩
    intro g hg
    simp only [ClientEntry.frames, List.mem_singleton] at hg
    rw [hg]
    exact hhello hst
  case ended => exact fun hend => absurd hend hlive
  case unassigned => exact fun _ => hassignment
  case assigned => simp [ClientEntry.assignment]
  case taken => exact fun _ => hacted
  case waiting => exact hwaiting
  case established => exact fun hst => .inl (hestablished hst)
  case received => simp [ClientEntry.packets]
  case sent =>
    intro g hg
    simp only [ClientEntry.frames, List.mem_singleton] at hg
    rw [hg]
    exact hsent
  case pending => exact hpending
  case probes => simpa [ClientEntry.frames, hacted, List.countP_cons] using hprobes

/-- A frame from the server that the client acts on. -/
theorem acted_extends {c c' : ClientSessionController} {f : Frame} {r : ClientSessionResult}
    (hseq : f.sequence = c.nextExpectedSequence)
    (hexpected : c'.nextExpectedSequence = c.nextExpectedSequence + 1)
    (hrequested : c'.requestedMtu = c.requestedMtu)
    (hsends : Adds Frame.sequence r.outboundFrames c.nextOutboundSequence c'.nextOutboundSequence)
    (hpongs : ∀ g ∈ r.outboundFrames, g.type = .pong)
    (hstate : c'.state = .established ∨ c'.state.HasEnded)
    (hassignment : (r.assignment = none ∧ c.state = .established ∧ c'.assignment = c.assignment) ∨
      ∃ a, r.assignment = some a ∧ c.state = .awaitingAssignment ∧ c'.state = .established ∧
        c'.assignment = some a ∧ c.assignmentIsAcceptable a = true)
    (hpackets : ∀ p ∈ r.packetsToTun, f.payload = p ∧
      ∃ a, c.assignment = some a ∧ Within a true f.type p)
    (hpending : if f.type = .pong then c.pendingPingNonce ≠ none ∧ c'.pendingPingNonce = none
      else c'.pendingPingNonce = c.pendingPingNonce) :
    Extends c ⟨c.state, .handle f, .ok r⟩ c' := by
  have hlive : c.state = .awaitingAssignment ∨ c.state = .established := by
    obtain ⟨-, hst, -⟩ | ⟨a, -, hst, -⟩ := hassignment
    · exact .inr hst
    · exact .inl hst
  have hacted : ClientEntry.actedOn ⟨c.state, .handle f, .ok r⟩ = [f] := by
    apply actedOn_handle hlive
    intro g hg
    simp [hpongs g hg]
  have hidle : c.state ≠ .idle := by
    obtain hst | hst := hlive
    · simp [hst]
    · simp [hst]
  have hopen : c'.state ≠ .idle ∧ c'.state ≠ .awaitingAssignment := by
    obtain hst | hst | hst := hstate
    · simp [hst]
    · simp [hst]
    · simp [hst]
  have hpings : r.outboundFrames.countP (fun g => g.type = .ping) = 0 := by
    rw [List.countP_eq_zero]
    intro g hg
    simp [hpongs g hg]
  constructor
  case requested => exact hrequested
  case sends => exact hsends
  case acts => exact .inl (.inr ⟨f, hacted, hseq, hexpected⟩)
  case errors =>
    intro g hg herr
    have hpong := hpongs g hg
    rw [herr] at hpong
    cases hpong
  case idle => exact fun hst => absurd hst hopen.1
  case hello => exact fun hst => absurd hst hidle
  case ended => exact fun hend => absurd hend (not_hasEnded (.inr hlive))
  case unassigned =>
    intro hnone
    obtain ⟨-, -, hkept⟩ | ⟨a, hsome, -⟩ := hassignment
    · exact hkept
    · exact absurd (hsome.symm.trans hnone) (by simp)
  case assigned =>
    intro a ha
    obtain ⟨hnone, -⟩ | ⟨a', hsome, hst, hst', hkept, hacc⟩ := hassignment
    · exact absurd (hnone.symm.trans ha) (by simp)
    · obtain rfl : a' = a := Option.some.inj (hsome.symm.trans ha)
      exact ⟨hst, hst', hkept, hacc, f, hacted⟩
  case taken =>
    intro hst
    obtain hst | hst := hst
    · exact absurd hst hopen.1
    · exact absurd hst hopen.2
  case waiting => exact fun hst => absurd hst hopen.2
  case established =>
    intro _
    obtain ⟨-, hst, -⟩ | ⟨a, hsome, -⟩ := hassignment
    · exact .inl hst
    · exact .inr (by simp [ClientEntry.assignment, hsome])
  case received =>
    intro p hp
    obtain ⟨hpayload, a, ha, hwithin⟩ := hpackets p hp
    exact ⟨f, a, rfl, hpayload, ha, hwithin⟩
  case sent =>
    intro g hg hdata
    have hpong := hpongs g hg
    obtain ht | ht := hdata
    · exact absurd (hpong.symm.trans ht) (by decide)
    · exact absurd (hpong.symm.trans ht) (by decide)
  case pending =>
    simp only [ClientEntry.outstanding, hacted]
    by_cases ht : f.type = .pong
    · rw [if_pos ht] at hpending
      simp [ht, hpending.2]
    · rw [if_neg ht] at hpending
      simp [ht, hpending]
  case probes =>
    simp only [ClientEntry.frames, hacted, hpings, List.countP_singleton]
    by_cases ht : f.type = .pong
    · rw [if_pos ht] at hpending
      obtain ⟨nonce, hnonce⟩ := Option.ne_none_iff_exists'.mp hpending.1
      simp [ht, hnonce, hpending.2]
    · rw [if_neg ht] at hpending
      simp [ht, hpending]

/-- A frame from the server that the client answers with an ERROR. -/
theorem failed_extends {c c' : ClientSessionController} {f g : Frame}
    (hlive : c.state = .awaitingAssignment ∨ c.state = .established) (hst : c'.state = .closing)
    (hrequested : c'.requestedMtu = c.requestedMtu) (hassignment : c'.assignment = c.assignment)
    (hpending : c'.pendingPingNonce = c.pendingPingNonce)
    (hnext : c'.nextOutboundSequence = c.nextOutboundSequence + 1)
    (hseq : g.sequence = c.nextOutboundSequence) (hg : g.type = .error) :
    Extends c ⟨c.state, .handle f, .ok { outboundFrames := [g], closeTransport := true }⟩ c' := by
  have hend : c'.state.HasEnded := .inl hst
  have hacted : ClientEntry.actedOn ⟨c.state, .handle f,
      .ok { outboundFrames := [g], closeTransport := true }⟩ = [] := by
    simp [ClientEntry.actedOn, hg]
  have hidle : c.state ≠ .idle := by
    obtain hst | hst := hlive
    · simp [hst]
    · simp [hst]
  constructor
  case requested => exact hrequested
  case sends => exact .inr ⟨g, rfl, hseq, hnext⟩
  case acts => exact .inr ⟨hacted, hend⟩
  case errors => exact fun _ _ _ => hend
  case idle => simp [hst]
  case hello => exact fun hno => absurd hno hidle
  case ended => exact fun hno => absurd hno (not_hasEnded (.inr hlive))
  case unassigned => exact fun _ => hassignment
  case assigned => simp [ClientEntry.assignment]
  case taken => exact fun _ => hacted
  case waiting => simp [hst]
  case established => simp [hst]
  case received => simp [ClientEntry.packets]
  case sent => simp [ClientEntry.frames, hg]
  case pending => simp [ClientEntry.outstanding, hacted, hpending]
  case probes => simp [ClientEntry.frames, hacted, hg, hpending]

theorem handled_extends {c c' : ClientSessionController} {f : Frame} {r : ClientSessionResult}
    (hh : ClientSessionController.Handled c f r c') :
    Extends c ⟨c.state, .handle f, .ok r⟩ c' := by
  cases hh with
  | inert state =>
    have hacted : ClientEntry.actedOn ⟨c.state, .handle f, .ok { closeTransport := true }⟩ = [] := by
      obtain hst | hst | hst := state
      · simp [ClientEntry.actedOn, hst]
      · simp [ClientEntry.actedOn, hst]
      · simp [ClientEntry.actedOn, hst]
    refine unchanged_extends c rfl rfl rfl hacted ?_ fun _ _ _ => ⟨_, rfl, rfl⟩
    simp [ClientEntry.outstanding, hacted]
  | failed state encode => exact failed_extends state rfl rfl rfl rfl rfl rfl rfl
  | assigned state sequence type decode acceptable =>
    refine acted_extends sequence rfl rfl (.inl ⟨rfl, rfl⟩) ?_ (.inl rfl)
      (.inr ⟨_, rfl, state, rfl, rfl, acceptable⟩) ?_ ?_
    all_goals simp [type]
  | packet state sequence assignment passes =>
    have hwithin := within_of_passes passes
    refine acted_extends sequence rfl rfl (.inl ⟨rfl, rfl⟩) ?_ (.inl state)
      (.inl ⟨rfl, state, rfl⟩) ?_ ?_
    · simp
    · intro p hp
      rw [List.mem_singleton] at hp
      rw [hp]
      exact ⟨rfl, _, assignment, hwithin⟩
    · obtain ⟨-, ⟨ht, -⟩ | ⟨ht, -⟩⟩ := hwithin
      · simp [ht]
      · simp [ht]
  | pong state sequence type size =>
    refine acted_extends sequence rfl rfl (.inr ⟨_, rfl, rfl, rfl⟩) ?_ (.inl state)
      (.inl ⟨rfl, state, rfl⟩) ?_ ?_
    all_goals simp [type]
  | alive state sequence type payload pending =>
    refine acted_extends sequence rfl rfl (.inl ⟨rfl, rfl⟩) ?_ (.inl state)
      (.inl ⟨rfl, state, rfl⟩) ?_ ?_
    all_goals simp [type, pending]
  | remote state sequence type decode =>
    refine acted_extends sequence rfl rfl (.inl ⟨rfl, rfl⟩) ?_ (.inr (.inr rfl))
      (.inl ⟨rfl, state, rfl⟩) ?_ ?_
    all_goals simp [type]
  | closed state sequence type =>
    refine acted_extends sequence rfl rfl (.inl ⟨rfl, rfl⟩) ?_ (.inr (.inr rfl))
      (.inl ⟨rfl, state, rfl⟩) ?_ ?_
    all_goals simp [type]

/-- `start` sends the hello, or throws and changes nothing. -/
theorem start_extends {c : ClientSessionController}
    (hvalid : ValidClientHello (clientHello c.requestedMtu)) :
    Extends c ⟨c.state, .start, (answer c .start).1⟩ (answer c .start).2 := by
  by_cases hst : c.state = .idle
  · have hencode := (encodeClientHello_ok_iff (clientHello c.requestedMtu) _).mpr ⟨hvalid, rfl⟩
    simp only [answer, ClientSessionController.start_ok hst hencode, Except.map]
    apply emitted_extends
    case hlive => exact not_hasEnded (.inl hst)
    all_goals simp [hst, ClientEntry.outstanding]
  · have hstart : c.start = (.error (.logicError (text "client session has already started")), c) :=
      if_pos hst
    simp only [answer, hstart, Except.map]
    exact unchanged_extends c rfl rfl rfl rfl rfl (by simp)

theorem makeDataToServer_extends {c : ClientSessionController} (hc : c.Assigned) (packet : Bytes) :
    Extends c ⟨c.state, .makeDataToServer packet, (answer c (.makeDataToServer packet)).1⟩
      (answer c (.makeDataToServer packet)).2 := by
  obtain heq | ⟨a, type, hst, ha, hpass, heq⟩ := c.makeDataToServer_cases hc packet
  · simp only [answer, heq]
    exact unchanged_extends c rfl rfl rfl rfl rfl (by simp)
  · have hwithin := within_of_passes hpass
    have htype : type = .dataIpv4 ∨ type = .dataIpv6 := by
      obtain ⟨-, ⟨ht, -⟩ | ⟨ht, -⟩⟩ := hwithin
      · exact .inl ht
      · exact .inr ht
    simp only [answer, heq]
    apply emitted_extends
    case hlive => exact not_hasEnded (.inr (.inr hst))
    case hsent => exact fun _ => ⟨a, ha, hwithin⟩
    case herror =>
      obtain ht | ht := htype
      · simp [ht]
      · simp [ht]
    case hprobes =>
      obtain ht | ht := htype
      · simp [ht]
      · simp [ht]
    all_goals simp [hst, ClientEntry.outstanding]

theorem makePing_extends (c : ClientSessionController) (nonce : UInt64) :
    Extends c ⟨c.state, .makePing nonce, (answer c (.makePing nonce)).1⟩
      (answer c (.makePing nonce)).2 := by
  obtain heq | ⟨hst, hpending, heq⟩ := c.makePing_cases nonce
  · simp only [answer, heq]
    exact unchanged_extends c rfl rfl rfl rfl rfl (by simp)
  · simp only [answer, heq]
    apply emitted_extends
    case hlive => exact not_hasEnded (.inr (.inr hst))
    all_goals simp [hst, hpending, ClientEntry.outstanding, ClientEntry.frames]

theorem makeClose_extends (c : ClientSessionController) (code : UInt16) :
    Extends c ⟨c.state, .makeClose code, (answer c (.makeClose code)).1⟩
      (answer c (.makeClose code)).2 := by
  obtain heq | ⟨hlive, heq⟩ := c.makeClose_cases code
  · simp only [answer, heq]
    exact unchanged_extends c rfl rfl rfl rfl rfl (by simp)
  · have hidle : c.state ≠ .idle := by
      obtain hst | hst := hlive
      · simp [hst]
      · simp [hst]
    simp only [answer, heq]
    apply emitted_extends
    case hlive => exact not_hasEnded (.inr hlive)
    all_goals simp [hidle, ClientEntry.outstanding]

theorem closed_extends (c : ClientSessionController) :
    Extends c ⟨c.state, .onTransportClosed, .ok {}⟩ c.onTransportClosed := by
  have hend : c.onTransportClosed.state.HasEnded := .inr rfl
  constructor
  case requested => rfl
  case sends => exact .inl ⟨rfl, rfl⟩
  case acts => exact .inl (.inl ⟨rfl, rfl⟩)
  case hello => exact fun _ => ⟨by simp [ClientEntry.frames], .inr (.inl hend)⟩
  case ended => exact fun _ => ⟨hend, ⟨rfl, rfl, rfl, by simp⟩, rfl⟩
  case unassigned => exact fun _ => rfl
  case pending => rfl
  all_goals simp [ClientEntry.frames, ClientEntry.packets, ClientEntry.assignment,
    ClientEntry.actedOn, ClientSessionController.onTransportClosed]

theorem answer_extends {c : ClientSessionController} (hc : c.Assigned)
    (hvalid : ValidClientHello (clientHello c.requestedMtu)) (call : ClientCall) :
    Extends c ⟨c.state, call, (answer c call).1⟩ (answer c call).2 := by
  cases call with
  | start => exact start_extends hvalid
  | handle f =>
    obtain ⟨r, c', heq, hh⟩ := ClientSessionController.handle_handled hc f
    simp only [answer, heq]
    exact handled_extends hh
  | makeDataToServer packet => exact makeDataToServer_extends hc packet
  | makePing nonce => exact makePing_extends c nonce
  | makeClose code => exact makeClose_extends c code
  | onTransportClosed => exact closed_extends c

/-- The assignments published by all calls, in call order. -/
def published (h : ClientHistory) : List IpAssignment := h.entries.filterMap ClientEntry.assignment

/-- The history and the controller agree. -/
structure Consistent (requestedMtu : UInt16) (h : ClientHistory) : Prop where
  requested : h.controller.requestedMtu = requestedMtu
  sent : Counted Frame.sequence h.frames h.controller.nextOutboundSequence
  acted : h.actedOn.map Frame.sequence = numbers h.actedOn.length
  expected : ¬h.controller.state.HasEnded →
    Counted Frame.sequence h.actedOn h.controller.nextExpectedSequence
  begun : h.frames = [] → h.controller.state = .idle ∨ h.controller.state.HasEnded
  first : ∀ f, h.frames.head? = some f → f.type = .clientHello
  errors : ¬h.controller.state.HasEnded → ∀ f ∈ h.frames, f.type ≠ .error
  last : ∀ f ∈ h.frames.dropLast, f.type ≠ .error
  waiting : h.controller.state = .idle ∨ h.controller.state = .awaitingAssignment →
    h.actedOn = [] ∧ h.controller.assignment = none
  established : h.controller.Assigned
  published : h.published = h.controller.assignment.toList
  firstly : ∀ pre e post a, h.entries = pre ++ e :: post → e.assignment = some a →
    pre.flatMap ClientEntry.actedOn = [] ∧ (∃ f, e.actedOn = [f]) ∧
      ClientSessionController.assignmentIsAcceptable { requestedMtu } a = true
  received : ∀ e ∈ h.entries, ∀ p ∈ e.packets, ∃ f a, e.call = .handle f ∧ f.payload = p ∧
    h.controller.assignment = some a ∧ Within a true f.type p
  data : ∀ f ∈ h.frames, f.type = .dataIpv4 ∨ f.type = .dataIpv6 →
    ∃ a, h.controller.assignment = some a ∧ Within a false f.type f.payload
  pending : h.controller.pendingPingNonce = h.outstanding
  probes : h.frames.countP (fun f => f.type = .ping) =
    h.actedOn.countP (fun f => f.type = .pong) + h.controller.pendingPingNonce.toList.length

theorem Consistent.transcript {requestedMtu : UInt16} {h : ClientHistory}
    (hc : h.Consistent requestedMtu) :
    Transcript Frame.sequence (fun f => f.type = .error) (¬h.controller.state.HasEnded) h.frames
      h.actedOn h.controller.nextOutboundSequence h.controller.nextExpectedSequence :=
  ⟨hc.sent, hc.acted, hc.expected, hc.errors, hc.last⟩

/-- A list split behind its last element, or before it. -/
theorem concat_eq_append_cons {α : Type} {as pre post : List α} {a b : α}
    (h : as ++ [a] = pre ++ b :: post) :
    (as = pre ∧ a = b ∧ post = []) ∨ ∃ post', as = pre ++ b :: post' ∧ post = post' ++ [a] := by
  obtain rfl | ⟨post', c, rfl⟩ := post.eq_nil_or_concat
  · obtain ⟨hpre, hlast⟩ := List.append_inj' h rfl
    exact .inl ⟨hpre, (List.cons.inj hlast).1, rfl⟩
  · rw [List.concat_eq_append, ← List.cons_append, ← List.append_assoc] at h
    obtain ⟨hpre, hlast⟩ := List.append_inj' h rfl
    refine .inr ⟨post', hpre, ?_⟩
    rw [List.concat_eq_append, (List.cons.inj hlast).1]

theorem Consistent.step {requestedMtu : UInt16} {h : ClientHistory} (hc : h.Consistent requestedMtu)
    (hvalid : ValidClientHello (clientHello requestedMtu)) (call : ClientCall) :
    (h.step call).Consistent requestedMtu := by
  have hx := answer_extends hc.established (by rwa [hc.requested]) call
  have hcontroller : (h.step call).controller = (answer h.controller call).2 := rfl
  generalize (answer h.controller call).2 = c' at hx hcontroller
  have hentries : (h.step call).entries =
      h.entries ++ [⟨h.controller.state, call, (answer h.controller call).1⟩] := rfl
  generalize ClientEntry.mk h.controller.state call (answer h.controller call).1 = e at hx hentries
  generalize h.step call = h' at hcontroller hentries ⊢
  have hframes : h'.frames = h.frames ++ e.frames := by simp [frames, hentries]
  have hacted : h'.actedOn = h.actedOn ++ e.actedOn := by simp [actedOn, hentries]
  have hdead : ¬¬h.controller.state.HasEnded →
      ¬¬c'.state.HasEnded ∧ e.frames = [] ∧ e.actedOn = [] := by
    intro hno
    obtain ⟨hend, hsilent, hnil⟩ := hx.ended (not_not.mp hno)
    exact ⟨not_not.mpr hend, hsilent.1, hnil⟩
  have htranscript := hc.transcript.append hx.sends (by simpa using hx.acts)
    (fun f hf herr => not_not.mpr (hx.errors f hf herr)) hdead
  rw [← hframes, ← hacted] at htranscript
  -- once there is an assignment it stays
  have hkept : ∀ a, h.controller.assignment = some a → c'.assignment = some a := by
    intro a ha
    rw [hx.unassigned, ha]
    cases hnew : e.assignment with
    | none => rfl
    | some b =>
      have hnone := (hc.waiting (.inr (hx.assigned b hnew).1)).2
      rw [ha] at hnone
      cases hnone
  subst hcontroller
  constructor
  case requested => exact hx.requested.trans hc.requested
  case sent => exact htranscript.sent
  case acted => exact htranscript.taken
  case expected => exact htranscript.expected
  case errors => exact htranscript.unfinished
  case last => exact htranscript.last
  case begun =>
    intro hnil
    rw [hframes, List.append_eq_nil_iff] at hnil
    obtain hst | hend := hc.begun hnil.1
    · obtain hidle | hend | hne := (hx.hello hst).2
      · exact .inl hidle
      · exact .inr hend
      · exact absurd hnil.2 hne
    · exact .inr (hx.ended hend).1
  case first =>
    rw [hframes]
    apply first_append hc.first
    intro hnone f hmem
    obtain hst | hend := hc.begun hnone
    · exact (hx.hello hst).1 f hmem
    · rw [(hx.ended hend).2.1.1] at hmem
      cases hmem
  case waiting =>
    intro hst
    have hold : h.controller.state = .idle ∨ h.controller.state = .awaitingAssignment := by
      obtain hst | hst := hst
      · exact .inl (hx.idle hst).1
      · exact hx.waiting hst
    obtain ⟨hnil, hnone⟩ := hc.waiting hold
    have hnew : e.assignment = none := by
      cases hnew : e.assignment with
      | none => rfl
      | some a => simp [(hx.assigned a hnew).2.1] at hst
    constructor
    · rw [hacted, hnil, hx.taken hst, List.append_nil]
    · rw [hx.unassigned hnew, hnone]
  case established =>
    intro hst
    obtain hold | hnew := hx.established hst
    · obtain ⟨a, ha⟩ := hc.established hold
      exact ⟨a, hkept a ha⟩
    · obtain ⟨a, ha⟩ := Option.ne_none_iff_exists'.mp hnew
      exact ⟨a, (hx.assigned a ha).2.2.1⟩
  case published =>
    have hsplit : h'.published = h.published ++ e.assignment.toList := by
      cases hnew : e.assignment <;> simp [ClientHistory.published, hentries, hnew]
    rw [hsplit, hc.published]
    cases hnew : e.assignment with
    | none => simp [hx.unassigned hnew]
    | some a =>
      obtain ⟨hst, -, ha, -⟩ := hx.assigned a hnew
      simp [(hc.waiting (.inr hst)).2, ha]
  case firstly =>
    intro pre e' post a hsplit ha
    rw [hentries] at hsplit
    obtain ⟨hpre, he, -⟩ | ⟨post', hold, -⟩ := concat_eq_append_cons hsplit
    · rw [← he] at ha ⊢
      obtain ⟨hst, -, -, hacc, hf⟩ := hx.assigned a ha
      rw [← hpre, ← hc.requested]
      exact ⟨(hc.waiting (.inr hst)).1, hf, hacc⟩
    · exact hc.firstly pre e' post' a hold ha
  case received =>
    intro e' he' p hp
    rw [hentries, List.mem_append, List.mem_singleton] at he'
    obtain hold | hnew := he'
    · obtain ⟨f, a, hcall, hpayload, ha, hwithin⟩ := hc.received e' hold p hp
      exact ⟨f, a, hcall, hpayload, hkept a ha, hwithin⟩
    · rw [hnew] at hp ⊢
      obtain ⟨f, a, hcall, hpayload, ha, hwithin⟩ := hx.received p hp
      exact ⟨f, a, hcall, hpayload, hkept a ha, hwithin⟩
  case data =>
    intro f hf hdata
    rw [hframes, List.mem_append] at hf
    obtain hold | hnew := hf
    · obtain ⟨a, ha, hwithin⟩ := hc.data f hold hdata
      exact ⟨a, hkept a ha, hwithin⟩
    · obtain ⟨a, ha, hwithin⟩ := hx.sent f hnew hdata
      exact ⟨a, hkept a ha, hwithin⟩
  case pending =>
    have hfold : h'.outstanding = e.outstanding h.outstanding := by
      simp [outstanding, hentries]
    rw [hx.pending, hfold, hc.pending]
  case probes =>
    have hprobes := hc.probes
    have hnew := hx.probes
    rw [hframes, hacted, List.countP_append, List.countP_append]
    omega

theorem consistent_create {requestedMtu : UInt16} :
    Consistent requestedMtu ⟨{ requestedMtu }, []⟩ := by
  constructor
  case sent => exact counted_nil
  case expected => exact fun _ => counted_nil
  all_goals simp [frames, actedOn, published, outstanding, numbers,
    ClientSessionController.Assigned]

/-- A client whose session is over stays so, and is silent. -/
theorem run_ended {requestedMtu : UInt16} {h : ClientHistory} (hc : h.Consistent requestedMtu)
    (hvalid : ValidClientHello (clientHello requestedMtu)) (hend : h.controller.state.HasEnded)
    (calls : List ClientCall) :
    (Run.run step h calls).controller.state.HasEnded ∧
      ∃ later, (Run.run step h calls).entries = h.entries ++ later ∧
        later.length = calls.length ∧ ∀ e ∈ later, e.Silent := by
  have hstep : ∀ (h : ClientHistory) call, h.Consistent requestedMtu ∧ h.controller.state.HasEnded →
      ((h.step call).Consistent requestedMtu ∧ (h.step call).controller.state.HasEnded) ∧
        ClientEntry.Silent ⟨h.controller.state, call, (answer h.controller call).1⟩ := by
    intro h call hh
    have hx := answer_extends hh.1.established (by rwa [hh.1.requested]) call
    obtain ⟨hend, hsilent, -⟩ := hx.ended hh.2
    exact ⟨⟨hh.1.step hvalid call, hend⟩, hsilent⟩
  obtain ⟨hlast, hlater⟩ := Run.run_logs entries (fun _ _ => rfl) hstep ⟨hc, hend⟩ calls
  exact ⟨hlast.2, hlater⟩

theorem mtu_le_of_acceptable {c : ClientSessionController} {a : IpAssignment}
    (h : c.assignmentIsAcceptable a = true) : a.mtu ≤ c.requestedMtu := by
  by_contra hno
  rw [ClientSessionController.assignmentIsAcceptable, if_pos (.inl (UInt16.not_le.mp hno))] at h
  cases h

/-- An established client survives a PONG exactly if it answers the outstanding PING. -/
theorem handle_pong_iff {c : ClientSessionController} (hc : c.Assigned) {f : Frame}
    (hst : c.state = .established) (htype : f.type = .pong)
    (hseq : f.sequence = c.nextExpectedSequence) :
    (c.handle f).2.state = .established ↔
      ∃ nonce, c.pendingPingNonce = some nonce ∧ f.payload = encodeLivenessProbe ⟨nonce⟩ := by
  constructor
  · intro hopen
    obtain ⟨r, c', heq, hh⟩ := ClientSessionController.handle_handled hc f
    rw [heq] at hopen
    cases hh with
    | inert state => simp [hst] at state
    | failed state encode => cases hopen
    | assigned state => simp [hst] at state
    | packet state sequence assignment passes =>
      obtain ⟨ht, -⟩ | ⟨ht, -⟩ := passes
      · simp [htype] at ht
      · simp [htype] at ht
    | pong state sequence type size => simp [htype] at type
    | alive state sequence type payload pending => exact ⟨_, pending, payload⟩
    | remote state sequence type decode => cases hopen
    | closed state sequence type => cases hopen
  · intro hanswer
    obtain ⟨nonce, hpending, hpayload⟩ := hanswer
    rw [ClientSessionController.handle_pong hst hseq htype hpayload hpending]
    exact hst

/-- Whatever the server sends and whatever is asked of it in between, a client fails closed. -/
theorem client_fails_closed {requestedMtu : UInt16} {c₀ : ClientSessionController}
    (h₀ : ClientSessionController.create requestedMtu = .ok c₀) (calls : List ClientCall) :
    let h := Run.run step ⟨c₀, []⟩ calls
    -- the frames produced, and the frames acted on
    h.frames.map Frame.sequence = numbers h.frames.length ∧
    (∀ f, h.frames.head? = some f → f.type = .clientHello) ∧
    h.actedOn.map Frame.sequence = numbers h.actedOn.length ∧
    -- at most one assignment, by the first frame acted on
    h.published.length ≤ 1 ∧
    (∀ pre e post a, h.entries = pre ++ e :: post → e.assignment = some a →
      pre.flatMap ClientEntry.actedOn = [] ∧ (∃ f, e.actedOn = [f]) ∧
        c₀.assignmentIsAcceptable a = true ∧ a.mtu ≤ requestedMtu) ∧
    -- packets in both directions
    (∀ e ∈ h.entries, ∀ p ∈ e.packets, ∃ f a, e.call = .handle f ∧ f.payload = p ∧
      a ∈ h.published ∧ Within a true f.type p) ∧
    (∀ f ∈ h.frames, f.type = .dataIpv4 ∨ f.type = .dataIpv6 →
      ∃ a ∈ h.published, Within a false f.type f.payload) ∧
    -- probes
    h.frames.countP (fun f => f.type = .ping) =
      h.actedOn.countP (fun f => f.type = .pong) + h.outstanding.toList.length ∧
    (h.controller.state = .established → ∀ f, f.type = .pong →
      f.sequence = UInt64.ofNat (h.actedOn.length + 1) →
      ((h.controller.handle f).2.state = .established ↔
        ∃ nonce, h.outstanding = some nonce ∧ f.payload = encodeLivenessProbe ⟨nonce⟩)) ∧
    -- errors, and the end
    (∀ f ∈ h.frames.dropLast, f.type ≠ .error) ∧
    (h.controller.state = .closing ∨ h.controller.state = .closed → ∀ more,
      let h' := Run.run step h more
      (h'.controller.state = .closing ∨ h'.controller.state = .closed) ∧
      ∃ later, h'.entries = h.entries ++ later ∧ later.length = more.length ∧
        ∀ e ∈ later, e.Silent) := by
  intro h
  obtain ⟨hc₀, hvalid⟩ := ClientSessionController.create_ok h₀
  have hc : h.Consistent requestedMtu := by
    apply Run.invariant (fun _ call hc => hc.step hvalid call)
    rw [hc₀]
    exact consistent_create
  have hmem : ∀ a, h.controller.assignment = some a → a ∈ h.published := by
    intro a ha
    simp [hc.published, ha]
  refine ⟨hc.sent.numbered, hc.first, hc.acted, ?_, ?_, ?_, ?_, ?_, ?_, hc.last, ?_⟩
  · rw [hc.published]
    cases h.controller.assignment <;> simp
  · intro pre e post a hsplit ha
    obtain ⟨hnone, hf, hacc⟩ := hc.firstly pre e post a hsplit ha
    rw [hc₀]
    exact ⟨hnone, hf, hacc, mtu_le_of_acceptable hacc⟩
  · intro e he p hp
    obtain ⟨f, a, hcall, hpayload, ha, hwithin⟩ := hc.received e he p hp
    exact ⟨f, a, hcall, hpayload, hmem a ha, hwithin⟩
  · intro f hf hdata
    obtain ⟨a, ha, hwithin⟩ := hc.data f hf hdata
    exact ⟨a, hmem a ha, hwithin⟩
  · rw [← hc.pending]
    exact hc.probes
  · intro hst f htype hseq
    have hlive : ¬h.controller.state.HasEnded := not_hasEnded (.inr (.inr hst))
    rw [← hc.pending]
    exact handle_pong_iff hc.established hst htype (hseq.trans (hc.expected hlive).next.symm)
  · intro hend more
    exact run_ended hc hvalid hend more

/-- The assignment of 10.8.0.2/24 behind the gateway 10.8.0.1. -/
def assignment : IpAssignment where
  clientAddress := (LeaseManager.singleLease 1).address
  gatewayAddress := LeaseManager.singlePolicy.gatewayAddress
  prefixLength := 24
  mtu := 1400
  leaseSeconds := 3600
  clientIpv6Address := Ipv6Address.zero
  gatewayIpv6Address := Ipv6Address.zero
  ipv6PrefixLength := 0

/-- A client with that assignment, before its frame `k`. -/
def established (k : UInt64) : ClientSessionController where
  requestedMtu := 1400
  state := .established
  assignment := some assignment
  nextExpectedSequence := 2
  nextOutboundSequence := k

def assignFrame : Frame := ⟨.ipAssign, 0, 1, assignmentBytes assignment⟩

theorem makeDataToServer_established (k : UInt64) :
    (established k).makeDataToServer Fleet.dataFrame.payload =
      (some ⟨.dataIpv4, 0, k, Fleet.dataFrame.payload⟩, established (k + 1)) := rfl

/-- The hello, the assignment, and then `n` packets for the server. -/
def stream (n : Nat) : List ClientCall :=
  .start :: .handle assignFrame :: List.replicate n (.makeDataToServer Fleet.dataFrame.payload)

theorem run_stream (n : Nat) :
    let h := Run.run step ⟨{ requestedMtu := 1400 }, []⟩ (stream n)
    h.controller = established (UInt64.ofNat (n + 2)) ∧ h.frames.length = n + 1 := by
  intro h
  induction n with
  | zero =>
    constructor
    · decide +kernel
    · decide +kernel
  | succ n ih =>
    obtain ⟨hcontroller, hlen⟩ := ih
    have hsplit : stream (n + 1) =
        stream n ++ [.makeDataToServer Fleet.dataFrame.payload] := by
      simp [stream, List.replicate_succ']
    have hnext : UInt64.ofNat (n + 1 + 2) = UInt64.ofNat (n + 2) + 1 := ofNat_succ (n + 2)
    have hframes (h : ClientHistory) (call : ClientCall) : (h.step call).frames =
        h.frames ++ ClientEntry.frames ⟨h.controller.state, call, (answer h.controller call).1⟩ := by
      simp [frames, step]
    simp only [h, hsplit, Run.run_append, Run.run_cons, Run.run_nil, hframes, List.length_append,
      hlen]
    simp [step, answer, hcontroller, makeDataToServer_established, ClientEntry.frames, hnext]

/-- A client that is assigned its address and then sends a packet. -/
theorem client_fails_closed_stream :
    let h := Run.run step ⟨{ requestedMtu := 1400 }, []⟩ (stream 1)
    h.frames.map Frame.sequence = [1, 2] ∧ h.published.length ≤ 1 := by
  intro h
  obtain ⟨-, hlen⟩ := run_stream 1
  have hlen : h.frames.length = 2 := hlen
  have hcreate : ClientSessionController.create 1400 = .ok { requestedMtu := 1400 } := rfl
  obtain ⟨hnumbers, -, -, hpublished, -⟩ := client_fails_closed hcreate (stream 1)
  refine ⟨hnumbers.trans ?_, hpublished⟩
  rw [hlen]
  rfl

/-- After 2^64 frames the numbers start over. -/
theorem client_numbers_start_over :
    ClientSessionController.create 1400 = .ok { requestedMtu := 1400 } ∧
    let h := Run.run step ⟨{ requestedMtu := 1400 }, []⟩ (stream (2 ^ 64 - 1))
    h.frames.length = 2 ^ 64 ∧
      h.frames.map (fun f => f.sequence.toNat) ≠ (List.range h.frames.length).map (· + 1) := by
  have hcreate : ClientSessionController.create 1400 = .ok { requestedMtu := 1400 } := rfl
  refine ⟨hcreate, ?_⟩
  intro h
  obtain ⟨-, hlen⟩ := run_stream (2 ^ 64 - 1)
  have hlen : h.frames.length = 2 ^ 64 := hlen
  have hvalid := (ClientSessionController.create_ok hcreate).2
  have hc : h.Consistent 1400 :=
    Run.invariant (fun _ call hc => hc.step hvalid call) consistent_create _
  exact ⟨hlen, not_counting hc.sent.numbered hlen⟩

end ClientHistory

end PersonalVpn.Core
