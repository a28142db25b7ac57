import Mathlib.Data.UInt
import PersonalVpn.Lib.Sequenced
import PersonalVpn.Core.SessionLeases
import PersonalVpn.Core.Tunnel

namespace PersonalVpn.Core

open Protocol Sequenced

namespace SessionController

variable {s s' : SessionController} {m m' : LeaseManager} {now : TimePoint}

theorem Handled.holds {f : Frame} {r : SessionResult} (hs : s.Holds)
    (hh : Handled s m f now r s' m') : s'.Holds := by
  cases hh with
  | inert state => exact hs
  | failed state encode manager => simp [Holds]
  | granted state sequence type decode acquire encode => simp [Holds]
  | packet state sequence lease renew accepts => simp [Holds, state]
  | pong state sequence lease renew type size => simp [Holds, state]
  | closed state sequence type => simp [Holds]

theorem Sent.holds {packet : Bytes} {r : Option Frame} (hs : s.Holds)
    (hh : Sent s m packet now r s' m') : s'.Holds := by
  cases hh with
  | ignored => exact hs
  | lost state lease renew => simp [Holds]
  | sent state lease renew delivers => simp [Holds, state]

/-- What a controller emits: nothing, or one frame under its next number. An ERROR is the encoding
of some message. -/
def Emits (s : SessionController) (frames : List Frame) (s' : SessionController) : Prop :=
  (frames = [] ∧ s'.nextOutboundSequence = s.nextOutboundSequence) ∨
  ∃ f, frames = [f] ∧ f.sequence = s.nextOutboundSequence ∧
    s'.nextOutboundSequence = s.nextOutboundSequence + 1 ∧
    (f.type = .error → ∃ message, encodeErrorMessage message = .ok f.payload)

theorem Handled.emits {f : Frame} {r : SessionResult} (hh : Handled s m f now r s' m') :
    s.Emits r.outboundFrames s' := by
  cases hh with
  | inert state => exact .inl ⟨rfl, rfl⟩
  | failed state encode manager => exact .inr ⟨_, rfl, rfl, rfl, fun _ => ⟨_, encode⟩⟩
  | granted state sequence type decode acquire encode => exact .inr ⟨_, rfl, rfl, rfl, (by simp)⟩
  | packet state sequence lease renew accepts => exact .inl ⟨rfl, rfl⟩
  | pong state sequence lease renew type size => exact .inr ⟨_, rfl, rfl, rfl, (by simp)⟩
  | closed state sequence type => exact .inl ⟨rfl, rfl⟩

theorem Sent.emits {packet : Bytes} {r : Option Frame} (hh : Sent s m packet now r s' m') :
    s.Emits r.toList s' := by
  cases hh with
  | ignored => exact .inl ⟨rfl, rfl⟩
  | lost state lease renew => exact .inl ⟨rfl, rfl⟩
  | sent state lease renew delivers =>
    refine .inr ⟨_, rfl, rfl, rfl, fun ht => ?_⟩
    obtain ⟨h4, -⟩ | ⟨h6, -⟩ := delivers
    · exact absurd (h4.symm.trans ht) (by decide)
    · exact absurd (h6.symm.trans ht) (by decide)

end SessionController

namespace ClientSessionController

variable {c c' : ClientSessionController}

/-- The client waits for the server's frames. -/
def Live (c : ClientSessionController) : Prop :=
  c.state = .awaitingAssignment ∨ c.state = .established

/-- A call of the client's own that leaves what it expects from the server. An idle client emits
nothing. -/
structure Speaks (c : ClientSessionController) (frames : List Frame)
    (c' : ClientSessionController) : Prop where
  expected : c'.nextExpectedSequence = c.nextExpectedSequence
  assignment : c'.assignment = c.assignment
  state : c'.state = c.state ∨ c'.state = .closing ∨
    (c.state = .idle ∧ c'.state = .awaitingAssignment)
  silent : c'.state = .idle → frames = []

theorem Speaks.unchanged (c : ClientSessionController) : Speaks c [] c :=
  ⟨rfl, rfl, .inl rfl, fun _ => rfl⟩

theorem start_speaks (c : ClientSessionController) :
    Speaks c c.start.1.toOption.toList c.start.2 := by
  rw [start]
  by_cases hs : c.state ≠ .idle
  · rw [if_pos hs]
    exact .unchanged c
  · rw [if_neg hs]
    have hidle := not_not.mp hs
    dsimp only
    cases encodeClientHello (clientHello c.requestedMtu) with
    | error e => exact ⟨rfl, rfl, .inr (.inr ⟨hidle, rfl⟩), (by simp)⟩
    | ok payload => exact ⟨rfl, rfl, .inr (.inr ⟨hidle, rfl⟩), fun hno => by cases hno⟩

theorem makeDataToServer_speaks (c : ClientSessionController) (packet : Bytes) :
    Speaks c (c.makeDataToServer packet).1.toList (c.makeDataToServer packet).2 := by
  have hsent {type : MessageType} (hs : ¬c.state ≠ .established) :
      Speaks c [(c.makeOutbound type packet).1] (c.makeOutbound type packet).2 := by
    refine ⟨rfl, rfl, .inl rfl, fun hi => ?_⟩
    rw [not_not] at hs
    exact absurd (hs.symm.trans hi) (by decide)
  rw [makeDataToServer]
  split_ifs with hs
  · exact .unchanged c
  · split
    · exact .unchanged c
    · exact hsent hs
  · split
    · exact .unchanged c
    · exact hsent hs

theorem makePing_speaks (c : ClientSessionController) (nonce : UInt64) :
    Speaks c (c.makePing nonce).1.toList (c.makePing nonce).2 := by
  rw [makePing]
  split_ifs with hs hp
  · exact .unchanged c
  · exact .unchanged c
  · refine ⟨rfl, rfl, .inl rfl, fun hi => ?_⟩
    rw [not_not] at hs
    exact absurd (hs.symm.trans hi) (by decide)

theorem makeClose_speaks (c : ClientSessionController) (code : UInt16) :
    Speaks c (c.makeClose code).1.toList (c.makeClose code).2 := by
  rw [makeClose]
  split_ifs
  · exact .unchanged c
  · exact ⟨rfl, rfl, .inr (.inl rfl), fun hno => by cases hno⟩

/-- A client that stays live after a frame was live before it, and the frame had the number it
expected. -/
theorem Handled.live {f : Frame} {r : ClientSessionResult} (hh : Handled c f r c') (hl : c'.Live) :
    c.Live ∧ f.sequence = c.nextExpectedSequence ∧
      c'.nextExpectedSequence = c.nextExpectedSequence + 1 := by
  cases hh with
  | inert state =>
    obtain hs | hs := hl <;> rw [hs] at state <;> simp at state
  | failed state encode => simp [Live] at hl
  | assigned state sequence type decode acceptable => exact ⟨.inl state, sequence, rfl⟩
  | packet state sequence assignment passes => exact ⟨.inr state, sequence, rfl⟩
  | pong state sequence type size => exact ⟨.inr state, sequence, rfl⟩
  | alive state sequence type payload pending => exact ⟨.inr state, sequence, rfl⟩
  | remote state sequence type decode => simp [Live] at hl
  | closed state sequence type => simp [Live] at hl

theorem Handled.not_idle {f : Frame} {r : ClientSessionResult} (hh : Handled c f r c')
    (hi : c'.state = .idle) : c.state = .idle := by
  cases hh with
  | inert state => exact hi
  | failed state encode => cases hi
  | assigned state sequence type decode acceptable => cases hi
  | packet state sequence assignment passes => exact hi
  | pong state sequence type size => exact hi
  | alive state sequence type payload pending => exact hi
  | remote state sequence type decode => cases hi
  | closed state sequence type => cases hi

end ClientSessionController

namespace Tunnel

/-- The two ends agree on the frames in flight to the client: they are numbered as the client
expects them, ERROR frames decode, and nothing is in flight before the client has started. -/
structure Linked (t : Tunnel) : Prop where
  holds : t.server.Holds
  assigned : t.client.Assigned
  numbered : t.client.Live → Numbered Frame.sequence t.client.nextExpectedSequence t.toClient
    t.server.nextOutboundSequence
  errors : ∀ f ∈ t.toClient, f.type = .error →
    ∃ message, encodeErrorMessage message = .ok f.payload
  idle : t.client.state = .idle → t.toServer = [] ∧ t.toClient = [] ∧ t.server.lease = none ∧
    t.server.nextOutboundSequence = t.client.nextExpectedSequence

/-- A fresh pair of controllers. -/
def fresh (m : LeaseManager) (identity : Bytes) (requestedMtu : UInt16) : Tunnel :=
  { manager := m, server := { identity }, client := { requestedMtu } }

theorem linked_fresh (m : LeaseManager) (identity : Bytes) (requestedMtu : UInt16) :
    (fresh m identity requestedMtu).Linked where
  holds := by simp [SessionController.Holds, fresh]
  assigned := by
    intro hno
    cases hno
  numbered := by simp [ClientSessionController.Live, fresh]
  errors := by
    intro f hf
    cases hf
  idle _ := ⟨rfl, rfl, rfl, rfl⟩

/-- The client speaks. -/
theorem Linked.clientSpeaks {t : Tunnel} (h : t.Linked) {frames : List Frame}
    {client : ClientSessionController} (hc : t.client.Speaks frames client) :
    ({ t with client }.clientSends frames).Linked where
  holds := h.holds
  assigned hs := by
    obtain heq | heq | ⟨-, heq⟩ := hc.state
    · have hs' : t.client.state = .established := by rw [← heq]; exact hs
      obtain ⟨a, ha⟩ := h.assigned hs'
      exact ⟨a, hc.assignment.trans ha⟩
    · exact absurd (heq.symm.trans hs) (by decide)
    · exact absurd (heq.symm.trans hs) (by decide)
  numbered hl := by
    change Numbered _ client.nextExpectedSequence t.toClient _
    rw [hc.expected]
    obtain heq | heq | ⟨hidle, -⟩ := hc.state
    · apply h.numbered
      unfold ClientSessionController.Live
      rw [← heq]
      exact hl
    · simp only [ClientSessionController.Live, clientSends] at hl
      simp [heq] at hl
    · obtain ⟨-, hnil, -, hnext⟩ := h.idle hidle
      rw [hnil]
      exact hnext.symm
  errors := h.errors
  idle hi := by
    obtain heq | heq | ⟨-, heq⟩ := hc.state
    · have hi' : t.client.state = .idle := by rw [← heq]; exact hi
      obtain ⟨hup, hdown, hl, hn⟩ := h.idle hi'
      refine ⟨?_, hdown, hl, hn.trans hc.expected.symm⟩
      change t.toServer ++ frames = []
      rw [hup, hc.silent hi, List.append_nil]
    · exact absurd (heq.symm.trans hi) (by decide)
    · exact absurd (heq.symm.trans hi) (by decide)

/-- The server, not silent for lack of a client, emits frames. -/
theorem Linked.serverEmits {t : Tunnel} (h : t.Linked) {frames : List Frame}
    {server : SessionController} {manager : LeaseManager} {toServer : List Frame}
    {serverTun : List Bytes} (hs : server.Holds) (he : t.server.Emits frames server)
    (hidle : t.client.state = .idle → toServer = [] ∧ frames = [] ∧ server.lease = none) :
    ({ t with server, manager, toServer, serverTun }.serverSends frames).Linked where
  holds := hs
  assigned := h.assigned
  numbered hl := by
    have hn := h.numbered hl
    obtain ⟨rfl, heq⟩ | ⟨f, rfl, hseq, heq, -⟩ := he
    · change Numbered _ _ (t.toClient ++ []) server.nextOutboundSequence
      rw [List.append_nil, heq]
      exact hn
    · change Numbered _ _ (t.toClient ++ [f]) server.nextOutboundSequence
      rw [heq]
      exact hn.send hseq
  errors g hg ht := by
    obtain hg | hg := List.mem_append.mp hg
    · exact h.errors g hg ht
    · obtain ⟨rfl, -⟩ | ⟨f, rfl, -, -, herr⟩ := he
      · cases hg
      · rw [List.mem_singleton] at hg
        subst hg
        exact herr ht
  idle hi := by
    obtain ⟨hup, hframes, hl⟩ := hidle hi
    obtain ⟨-, hdown, -, hn⟩ := h.idle hi
    refine ⟨hup, ?_, hl, ?_⟩
    · change t.toClient ++ frames = []
      rw [hdown, hframes, List.append_nil]
    · obtain ⟨-, heq⟩ | ⟨f, hf, -⟩ := he
      · exact heq.trans hn
      · rw [hframes] at hf
        cases hf

theorem Linked.step {t : Tunnel} (h : t.Linked) (e : TunnelEvent) : (t.step e).Linked := by
  cases e with
  | start =>
    have hc := t.client.start_speaks
    simp only [Tunnel.step]
    rcases heq : t.client.start with ⟨r, client⟩
    rw [heq] at hc
    cases r with
    | ok frame => exact h.clientSpeaks hc
    | error e =>
      have hlinked := h.clientSpeaks hc
      simpa [clientSends, Except.toOption] using hlinked
  | makeDataToServer packet => exact h.clientSpeaks (t.client.makeDataToServer_speaks packet)
  | makePing nonce => exact h.clientSpeaks (t.client.makePing_speaks nonce)
  | makeClose code => exact h.clientSpeaks (t.client.makeClose_speaks code)
  | clientHandle =>
    simp only [Tunnel.step]
    cases hq : t.toClient with
    | nil => exact h
    | cons f rest =>
      obtain ⟨r, c', heq, hh⟩ := ClientSessionController.handle_handled h.assigned f
      simp only [heq]
      constructor
      case holds => exact h.holds
      case assigned => exact hh.stays_assigned h.assigned
      case numbered =>
        intro hl
        obtain ⟨hlive, -, hnext⟩ := hh.live hl
        have hn := h.numbered hlive
        rw [hq, numbered_cons] at hn
        change Numbered _ c'.nextExpectedSequence rest _
        rw [hnext]
        exact hn.2
      case errors =>
        intro g hg
        apply h.errors g
        rw [hq]
        exact List.mem_cons_of_mem f hg
      case idle =>
        intro hi
        have hidle := (h.idle (hh.not_idle hi)).2.1
        rw [hq] at hidle
        cases hidle
  | serverHandle now =>
    simp only [Tunnel.step]
    cases hq : t.toServer with
    | nil => exact h
    | cons f rest =>
      obtain ⟨r, s', m', heq, hh⟩ := SessionController.handle_handled h.holds t.manager f now
      simp only [heq]
      apply h.serverEmits (hh.holds h.holds) hh.emits
      intro hi
      rw [(h.idle hi).1] at hq
      cases hq
  | makeDataToClient packet now =>
    simp only [Tunnel.step]
    obtain ⟨r, s', m', heq, hh⟩ :=
      SessionController.makeDataToClient_sent t.server t.manager packet now
    rw [heq]
    apply h.serverEmits (hh.holds h.holds) hh.emits
    intro hi
    obtain ⟨hup, -, hl, -⟩ := h.idle hi
    cases hh with
    | ignored => exact ⟨hup, rfl, hl⟩
    | lost state lease renew => exact ⟨hup, rfl, rfl⟩
    | sent state lease renew delivers =>
      rw [hl] at lease
      cases lease
  | clientTransportClosed =>
    refine ⟨h.holds, ?_, ?_, h.errors, ?_⟩
    · intro hno
      cases hno
    · simp [ClientSessionController.Live, Tunnel.step, ClientSessionController.onTransportClosed]
    · intro hno
      cases hno
  | serverTransportClosed =>
    have hs := SessionController.onTransportClosed_fst t.server t.manager
    simp only [Tunnel.step]
    constructor
    case holds => simp [hs, SessionController.Holds]
    case assigned => exact h.assigned
    case numbered =>
      intro hl
      simp only [hs]
      exact h.numbered hl
    case errors => exact h.errors
    case idle =>
      intro hi
      obtain ⟨hup, hdown, -, hn⟩ := h.idle hi
      simp only [hs]
      exact ⟨hup, hdown, trivial, hn⟩
  | lease call => exact ⟨h.holds, h.assigned, h.numbered, h.errors, h.idle⟩

theorem linked_run {t : Tunnel} (h : t.Linked) (es : List TunnelEvent) :
    (Run.run step t es).Linked :=
  Run.invariant (P := Linked) (fun _ e ht => Linked.step ht e) h es

/-- What a client that reports a server's rejection returns. -/
def Reports (r : Except Exception ClientSessionResult) (message : ErrorMessage) : Prop :=
  ∃ result, r = .ok result ∧ result.remoteError = some message ∧ result.closeTransport = true ∧
    ∀ f ∈ result.outboundFrames, f.type ≠ .error

/-- An established client reports an ERROR it was expecting. -/
theorem established_reports {c : ClientSessionController} {f : Frame} {message : ErrorMessage}
    (hs : c.state = .established) (hseq : f.sequence = c.nextExpectedSequence)
    (ht : f.type = .error) (hd : decodeErrorMessage f.payload = .ok message) :
    Reports (c.handle f).1 message := by
  have heq : (c.handle f).1 =
      .ok { remoteError := some message, closeTransport := true } := by
    simp [ClientSessionController.handle, hs, hseq, ClientSessionController.dispatch, ht, hd]
  exact ⟨_, heq, rfl, rfl, (by simp)⟩

/-- A client that still waits for its assignment reports nothing. -/
theorem awaiting_not_reports {c : ClientSessionController} {f : Frame} {message : ErrorMessage}
    (hs : c.state = .awaitingAssignment) : ¬Reports (c.handle f).1 message := by
  intro hr
  obtain ⟨result, hok, hremote, -⟩ := hr
  have hc : c.Assigned := fun he => absurd (hs.symm.trans he) (by decide)
  obtain ⟨r, c', heq, hh⟩ := ClientSessionController.handle_handled hc f
  rw [heq] at hok
  cases hok
  cases hh with
  | remote state sequence type decode => exact absurd (hs.symm.trans state) (by decide)
  | inert => cases hremote
  | failed => cases hremote
  | assigned => cases hremote
  | packet => cases hremote
  | pong => cases hremote
  | alive => cases hremote
  | closed => cases hremote

/-- In every run, an ERROR frame of the server that reaches a client which has not closed is the
encoding of some message, and the client reports that message exactly if it is established. -/
theorem rejection_reported_iff_established (m : LeaseManager) (identity : Bytes)
    (requestedMtu : UInt16) (es : List TunnelEvent) :
    let t := Run.run step (fresh m identity requestedMtu) es
    ∀ f rest, t.toClient = f :: rest → f.type = .error → t.client.Live →
      (∃ message, encodeErrorMessage message = .ok f.payload) ∧
      ∀ message, encodeErrorMessage message = .ok f.payload →
        (Reports (t.client.handle f).1 message ↔ t.client.state = .established) := by
  intro t f rest hq ht hlive
  have h : t.Linked := linked_run (linked_fresh m identity requestedMtu) es
  refine ⟨h.errors f (by rw [hq]; exact List.mem_cons_self) ht, ?_⟩
  intro message henc
  have hnum := h.numbered hlive
  rw [hq, numbered_cons] at hnum
  constructor
  · intro hr
    obtain hs | hs := hlive
    · exact absurd hr (awaiting_not_reports hs)
    · exact hs
  · intro hs
    apply established_reports hs hnum.1 ht
    exact (decodeErrorMessage_ok_iff _ _).mpr henc

theorem expired_lease_reported :
    let t := Run.run step (fresh (LeaseManager.singleManager 1) (text "c") 1400)
      [.start, .serverHandle 0, .clientHandle, .makePing 7, .serverHandle (3600 * ticksPerSecond)]
    let f : Frame :=
      ⟨.error, 0, 2, [0, 4] ++ text "authenticated virtual IP lease has expired or changed"⟩
    t.toClient = [f] ∧ Reports (t.client.handle f).1
      ⟨4, text "authenticated virtual IP lease has expired or changed"⟩ := by
  intro t f
  have hq : t.toClient = [f] := by decide +kernel
  have hs : t.client.state = .established := by decide +kernel
  obtain ⟨-, hiff⟩ := rejection_reported_iff_established (LeaseManager.singleManager 1) (text "c")
    1400 _ f [] hq rfl (.inr hs)
  exact ⟨hq, (hiff _ (by rfl)).mpr hs⟩

/-- A client whose hello is refused because the pool is taken answers with an ERROR of its own. -/
theorem refused_hello_not_reported :
    let t := Run.run step (fresh (LeaseManager.singleManager 1) (text "c") 1400)
      [.lease (.acquire (text "other") 0), .start, .serverHandle 0]
    let f : Frame := ⟨.error, 0, 1, [0, 4] ++ text "virtual IP lease pool is exhausted"⟩
    let own : Frame := ⟨.error, 0, 2, [0, 101] ++ text "IP_ASSIGN must be the first server message"⟩
    t.toClient = [f] ∧ t.client.state = .awaitingAssignment ∧
      encodeErrorMessage ⟨4, text "virtual IP lease pool is exhausted"⟩ = .ok f.payload ∧
      (t.client.handle f).1.toOption = some { outboundFrames := [own], closeTransport := true } ∧
      ¬Reports (t.client.handle f).1 ⟨4, text "virtual IP lease pool is exhausted"⟩ := by
  intro t f own
  have hstate : t.client.state = .awaitingAssignment := by decide +kernel
  refine ⟨by decide +kernel, hstate, by rfl, by decide +kernel, awaiting_not_reports hstate⟩

end Tunnel

end PersonalVpn.Core
