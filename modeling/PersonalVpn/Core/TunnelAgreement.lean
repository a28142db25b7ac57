import PersonalVpn.Core.Conforming
import PersonalVpn.Core.FleetSafety

namespace PersonalVpn.Core

open Protocol Sequenced

theorem isUnspecified_zero_iff (v : Ipv6Address) :
    isUnspecified v = true ↔ v = Ipv6Address.zero := by
  rw [isUnspecified, List.all_eq_true]
  constructor
  · intro h
    apply Vector.ext
    intro i hi
    have hm : v[i] ∈ v.toList := by simp
    have hz := h _ hm
    rw [beq_iff_eq] at hz
    rw [hz]
    simp [Ipv6Address.zero]
  · intro h x hx
    rw [h, Ipv6Address.zero, Vector.toList_replicate] at hx
    rw [List.eq_of_mem_replicate hx]
    rfl

/-- The payloads of the data frames. -/
def dataOf (fs : List Frame) : List Bytes :=
  (fs.filter fun f => f.type = .dataIpv4 ∨ f.type = .dataIpv6).map Frame.payload

theorem dataOf_single {f : Frame} (h : f.type = .dataIpv4 ∨ f.type = .dataIpv6) :
    dataOf [f] = [f.payload] := by
  simp [dataOf, h]

/-- The payloads of the frames of one type. -/
def payloadsOf (type : MessageType) (fs : List Frame) : List Bytes :=
  (fs.filter fun f => f.type = type).map Frame.payload

@[simp] theorem dataOf_append (fs gs : List Frame) : dataOf (fs ++ gs) = dataOf fs ++ dataOf gs := by
  simp [dataOf]

theorem dataOf_eq_nil {fs : List Frame} (h : ∀ f ∈ fs, f.type ≠ .dataIpv4 ∧ f.type ≠ .dataIpv6) :
    dataOf fs = [] := by
  have hf : fs.filter (fun f => f.type = .dataIpv4 ∨ f.type = .dataIpv6) = [] := by
    rw [List.filter_eq_nil_iff]
    intro f hf
    simpa using h f hf
  rw [dataOf, hf]
  rfl

theorem prefix_dataOf {fs gs : List Frame} (h : fs <+: gs) : dataOf fs <+: dataOf gs := by
  obtain ⟨rest, rfl⟩ := h
  rw [dataOf_append]
  exact List.prefix_append _ _

@[simp] theorem payloadsOf_append (type : MessageType) (fs gs : List Frame) :
    payloadsOf type (fs ++ gs) = payloadsOf type fs ++ payloadsOf type gs := by
  simp [payloadsOf]

theorem payloadsOf_eq_nil {type : MessageType} {fs : List Frame} (h : ∀ f ∈ fs, f.type ≠ type) :
    payloadsOf type fs = [] := by
  have hf : fs.filter (fun f => f.type = type) = [] := by
    rw [List.filter_eq_nil_iff]
    intro f hf
    simpa using h f hf
  rw [payloadsOf, hf]
  rfl

theorem payloadsOf_cons_self {type : MessageType} {f : Frame} (h : f.type = type) (fs : List Frame) :
    payloadsOf type (f :: fs) = f.payload :: payloadsOf type fs := by
  simp [payloadsOf, h]

theorem payloadsOf_cons_ne {type : MessageType} {f : Frame} (h : f.type ≠ type) (fs : List Frame) :
    payloadsOf type (f :: fs) = payloadsOf type fs := by
  simp [payloadsOf, h]

namespace Tunnel

open ClientSessionController (Passes)

/-- The assignment that a lease granted in answer to the client's hello leads to. -/
def assignmentOf (m : LeaseManager) (l : Lease) (requestedMtu : UInt16) : IpAssignment :=
  { m.toAssignment l with mtu := min requestedMtu m.mtu }

/-- The steps of a conforming pair: the hello is granted a lease whose assignment the client
accepts, every renewal succeeds, and no transport is closed under the controllers. -/
def Admits (t : Tunnel) : TunnelEvent → Prop
  | .serverHandle now => ∀ f rest, t.toServer = f :: rest →
    (t.server.state = .awaitingHello → ∃ l m', t.manager.acquire t.server.identity now =
      (.ok l, m') ∧ ValidIpAssignment (assignmentOf m' l t.client.requestedMtu) ∧
      t.client.assignmentIsAcceptable (assignmentOf m' l t.client.requestedMtu) = true) ∧
    (f.type = .dataIpv4 ∨ f.type = .dataIpv6 ∨ f.type = .ping →
      ∀ l, t.server.lease = some l → (t.manager.renew l now).1 ≠ none)
  | .makeDataToClient packet now => ∀ l type, t.server.lease = some l →
    SessionController.Delivers t.server.negotiatedMtu l type packet →
      (t.manager.renew l now).1 ≠ none
  | .clientTransportClosed => False
  | .serverTransportClosed => False
  | _ => True

/-- The client's hello. -/
def IsHello (mtu : UInt16) (f : Frame) : Prop :=
  f.type = .clientHello ∧ encodeClientHello (clientHello mtu) = .ok f.payload

/-- A CLOSE of the client. -/
def IsClose (f : Frame) : Prop := f.type = .close ∧ ∃ code, f.payload = encodeCloseMessage ⟨code⟩

def IsPing (f : Frame) : Prop := f.type = .ping ∧ ∃ nonce, f.payload = encodeLivenessProbe ⟨nonce⟩

def IsPong (f : Frame) : Prop := f.type = .pong ∧ ∃ nonce, f.payload = encodeLivenessProbe ⟨nonce⟩

/-- The lease the server holds is the one the assignment was made from. -/
structure Matches (m : LeaseManager) (l : Lease) (a : IpAssignment) : Prop where
  address : a.clientAddress = l.address
  ipv6 : a.clientIpv6Address = l.ipv6Address
  derived : l.ipv6Address = m.deriveIpv6 l.address

/-- The client's half while the server is established. -/
inductive ClientPhase (t : Tunnel) (a : IpAssignment) (closing : List Frame) : Prop where
  | awaiting (g : Frame) (rest : List Frame) (state : t.client.state = .awaitingAssignment)
      (unassigned : t.client.assignment = none) (pending : t.client.pendingPingNonce = none)
      (still : t.toServer = [] ∧ closing = []) (queue : t.toClient = g :: rest)
      (assign : g.type = .ipAssign ∧ encodeIpAssignment a = .ok g.payload)
      (data : ∀ f ∈ rest, Passes a true f.type f.payload)
      (numbered : Numbered Frame.sequence t.client.nextExpectedSequence t.toClient
        t.server.nextOutboundSequence)
  | established (state : t.client.state = .established) (assigned : t.client.assignment = some a)
      (still : closing = [])
      (data : ∀ f ∈ t.toClient, Passes a true f.type f.payload ∨ IsPong f)
      (numbered : Numbered Frame.sequence t.client.nextExpectedSequence t.toClient
        t.server.nextOutboundSequence)
      (probes : payloadsOf .pong t.toClient ++ payloadsOf .ping t.toServer =
        t.client.pendingPingNonce.toList.map fun nonce => encodeLivenessProbe ⟨nonce⟩)
  | closing (k : Frame) (state : t.client.state = .closing)
      (assigned : t.client.assignment = none ∨ t.client.assignment = some a)
      (last : closing = [k]) (close : IsClose k)

/-- How far a conforming pair has come. -/
inductive Phase (t : Tunnel) : Prop where
  | greeting (state : t.server.state = .awaitingHello) (down : t.toClient = [])
      (unassigned : t.client.assignment = none) (pending : t.client.pendingPingNonce = none)
      (next : t.client.nextExpectedSequence = t.server.nextOutboundSequence)
      (numbered : Numbered Frame.sequence t.server.nextExpectedSequence t.toServer
        t.client.nextOutboundSequence)
      (up : (t.client.state = .idle ∧ t.toServer = []) ∨
        (t.client.state = .awaitingAssignment ∧
          ∃ h, t.toServer = [h] ∧ IsHello t.client.requestedMtu h) ∨
        (t.client.state = .closing ∧
          ∃ h k, t.toServer = [h, k] ∧ IsHello t.client.requestedMtu h ∧ IsClose k))
  | opened (l : Lease) (a : IpAssignment) (body closing : List Frame)
      (state : t.server.state = .established) (lease : t.server.lease = some l)
      (matches_ : Matches t.manager l a) (valid : ValidIpAssignment a)
      (acceptable : t.client.assignmentIsAcceptable a = true)
      (mtu : a.mtu = t.server.negotiatedMtu ∧ a.mtu = min t.client.requestedMtu t.manager.mtu)
      (up : t.toServer = body ++ closing)
      (data : ∀ f ∈ body, Passes a false f.type f.payload ∨ IsPing f)
      (numbered : Numbered Frame.sequence t.server.nextExpectedSequence t.toServer
        t.client.nextOutboundSequence)
      (client : ClientPhase t a closing)
  | done (state : t.server.state = .closed) (client : t.client.state = .closing)
      (up : t.toServer = [])
      (mtu : ∀ a, t.client.assignment = some a →
        a.mtu = t.server.negotiatedMtu ∧ a.mtu = min t.client.requestedMtu t.manager.mtu)

/-- The invariant of a conforming pair. -/
structure Agreed (t : Tunnel) : Prop where
  manager : t.manager.Inv
  holds : t.server.Holds
  hello : ValidClientHello (clientHello t.client.requestedMtu)
  quiet : ∀ f, f ∈ t.sentByClient ∨ f ∈ t.sentByServer → f.type ≠ .error
  uplink : dataOf t.sentByClient = t.serverTun ++ dataOf t.toServer
  downlink : t.client.state ≠ .closing →
    dataOf t.sentByServer = t.clientTun ++ dataOf t.toClient
  phase : Phase t

theorem passes_data {a : IpAssignment} {b : Bool} {type : MessageType} {packet : Bytes}
    (h : Passes a b type packet) : type = .dataIpv4 ∨ type = .dataIpv6 := h.imp (·.1) (·.1)

@[simp] theorem clientSends_nil (t : Tunnel) : t.clientSends [] = t := by
  simp [clientSends]

@[simp] theorem serverSends_nil (t : Tunnel) : t.serverSends [] = t := by
  simp [serverSends]

/-- The client emits frames that are no ERROR. -/
theorem Agreed.clientSends {t : Tunnel} (h : t.Agreed) {client : ClientSessionController}
    {frames : List Frame} (hm : client.requestedMtu = t.client.requestedMtu)
    (hq : ∀ f ∈ frames, f.type ≠ .error)
    (hs : client.state ≠ .closing → t.client.state ≠ .closing)
    (hp : ({ t with client }.clientSends frames).Phase) :
    ({ t with client }.clientSends frames).Agreed where
  manager := h.manager
  holds := h.holds
  hello := by
    change ValidClientHello (clientHello client.requestedMtu)
    rw [hm]
    exact h.hello
  quiet f hf := by
    obtain hf | hf := hf
    · obtain hf | hf := List.mem_append.mp hf
      · exact h.quiet f (.inl hf)
      · exact hq f hf
    · exact h.quiet f (.inr hf)
  uplink := by
    change dataOf (t.sentByClient ++ frames) = t.serverTun ++ dataOf (t.toServer ++ frames)
    rw [dataOf_append, dataOf_append, h.uplink, List.append_assoc]
  downlink hc := h.downlink (hs hc)
  phase := hp

theorem Agreed.start {t : Tunnel} (h : t.Agreed) : (t.step .start).Agreed := by
  simp only [Tunnel.step]
  by_cases hs : t.client.state ≠ .idle
  · have heq : t.client.start.2 = t.client ∧ ∃ e, t.client.start.1 = .error e := by
      rw [ClientSessionController.start, if_pos hs]
      exact ⟨rfl, _, rfl⟩
    obtain ⟨hc, e, he⟩ := heq
    have hstart : t.client.start = (.error e, t.client) := Prod.ext he hc
    rw [hstart]
    exact h
  rw [not_not] at hs
  obtain ⟨payload, henc⟩ : ∃ payload,
      encodeClientHello (clientHello t.client.requestedMtu) = .ok payload :=
    ⟨_, (encodeClientHello_ok_iff _ _).mpr ⟨h.hello, rfl⟩⟩
  rw [ClientSessionController.start_ok hs henc]
  dsimp only
  apply h.clientSends
  · rfl
  · intro f hf
    rw [List.mem_singleton] at hf
    rw [hf]
    simp
  · intro _
    rw [hs]
    simp
  cases h.phase with
  | greeting state down unassigned pending next numbered up =>
    obtain ⟨-, hnil⟩ | ⟨hst, -⟩ | ⟨hst, -⟩ := up
    · have hup : t.toServer ++ [⟨.clientHello, 0, t.client.nextOutboundSequence, payload⟩] =
          [⟨.clientHello, 0, t.client.nextOutboundSequence, payload⟩] := by
        rw [hnil]
        rfl
      exact .greeting state down unassigned pending next (numbered.send rfl)
        (.inr (.inl ⟨rfl, _, hup, rfl, henc⟩))
    · exact absurd (hs.symm.trans hst) (by decide)
    · exact absurd (hs.symm.trans hst) (by decide)
  | opened l a body closing state lease matches_ valid acceptable mtu up data numbered client =>
    cases client with
    | awaiting g rest hst => exact absurd (hs.symm.trans hst) (by decide)
    | established hst => exact absurd (hs.symm.trans hst) (by decide)
    | closing k hst => exact absurd (hs.symm.trans hst) (by decide)
  | done state client up mtu => exact absurd (hs.symm.trans client) (by decide)

/-- The phase of a pair whose client is established. -/
theorem Agreed.opened_of_established {t : Tunnel} (h : t.Agreed)
    (hs : t.client.state = .established) :
    ∃ l a, t.server.state = .established ∧ t.server.lease = some l ∧ Matches t.manager l a ∧
      ValidIpAssignment a ∧ t.client.assignmentIsAcceptable a = true ∧
      (a.mtu = t.server.negotiatedMtu ∧ a.mtu = min t.client.requestedMtu t.manager.mtu) ∧
      (∀ f ∈ t.toServer, Passes a false f.type f.payload ∨ IsPing f) ∧
      Numbered Frame.sequence t.server.nextExpectedSequence t.toServer
        t.client.nextOutboundSequence ∧ t.client.assignment = some a ∧
      (∀ f ∈ t.toClient, Passes a true f.type f.payload ∨ IsPong f) ∧
      Numbered Frame.sequence t.client.nextExpectedSequence t.toClient
        t.server.nextOutboundSequence ∧
      payloadsOf .pong t.toClient ++ payloadsOf .ping t.toServer =
        t.client.pendingPingNonce.toList.map fun nonce => encodeLivenessProbe ⟨nonce⟩ := by
  cases h.phase with
  | greeting state down unassigned pending next numbered up =>
    obtain ⟨hst, -⟩ | ⟨hst, -⟩ | ⟨hst, -⟩ := up <;> exact absurd (hs.symm.trans hst) (by decide)
  | opened l a body closing state lease matches_ valid acceptable mtu up data numbered client =>
    cases client with
    | awaiting g rest hst => exact absurd (hs.symm.trans hst) (by decide)
    | established hst assigned still down numbered' probes =>
      rw [still, List.append_nil] at up
      rw [← up] at data
      exact ⟨_, _, state, lease, matches_, valid, acceptable, mtu, data, numbered, assigned, down,
        numbered', probes⟩
    | closing k hst => exact absurd (hs.symm.trans hst) (by decide)
  | done state client up mtu => exact absurd (hs.symm.trans client) (by decide)

theorem Agreed.assigned {t : Tunnel} (h : t.Agreed) : t.client.Assigned := by
  intro hs
  obtain ⟨l, a, -, -, -, -, -, -, -, -, ha, -⟩ := h.opened_of_established hs
  exact ⟨a, ha⟩

theorem Agreed.makeDataToServer {t : Tunnel} (h : t.Agreed) (packet : Bytes) :
    (t.step (.makeDataToServer packet)).Agreed := by
  simp only [Tunnel.step]
  obtain heq | ⟨a', type, hs, ha', hpass, heq⟩ :=
    ClientSessionController.makeDataToServer_cases h.assigned packet
  · rw [heq]
    simpa using h
  rw [heq]
  obtain ⟨l, a, state, lease, hmatch, valid, acceptable, mtu, data, numbered, ha, down, numbered',
    probes⟩ := h.opened_of_established hs
  have haa : a' = a := Option.some.inj (ha'.symm.trans ha)
  rw [haa] at hpass
  have htype := passes_data hpass
  dsimp only
  apply h.clientSends
  · rfl
  · intro f hf
    rw [Option.toList_some, List.mem_singleton] at hf
    rw [hf]
    obtain ht | ht := htype <;> rw [ht] <;> simp
  · exact fun _ => by rw [hs]; simp
  · refine .opened l a _ [] state lease hmatch valid acceptable mtu (List.append_nil _).symm ?_
      (numbered.send rfl) (.established hs ha rfl down numbered' ?_)
    · intro f hf
      obtain hf | hf := List.mem_append.mp hf
      · exact data f hf
      · rw [Option.toList_some, List.mem_singleton] at hf
        rw [hf]
        exact .inl hpass
    · have hnot : payloadsOf .ping [(⟨type, 0, t.client.nextOutboundSequence, packet⟩ : Frame)] =
          [] := by
        obtain rfl | rfl := htype <;> rfl
      change payloadsOf _ _ ++ payloadsOf _ (t.toServer ++ [_]) = _
      rw [payloadsOf_append, hnot, List.append_nil]
      exact probes

theorem Agreed.makePing {t : Tunnel} (h : t.Agreed) (nonce : UInt64) :
    (t.step (.makePing nonce)).Agreed := by
  simp only [Tunnel.step]
  obtain heq | ⟨hs, hnone, heq⟩ := ClientSessionController.makePing_cases t.client nonce
  · rw [heq]
    simpa using h
  rw [heq]
  obtain ⟨l, a, state, lease, hmatch, valid, acceptable, mtu, data, numbered, ha, down, numbered',
    probes⟩ := h.opened_of_established hs
  dsimp only
  apply h.clientSends
  · rfl
  · intro f hf
    rw [Option.toList_some, List.mem_singleton] at hf
    rw [hf]
    simp
  · exact fun _ => by rw [hs]; simp
  · refine .opened l a _ [] state lease hmatch valid acceptable mtu (List.append_nil _).symm ?_
      (numbered.send rfl) (.established hs ha rfl down numbered' ?_)
    · intro f hf
      obtain hf | hf := List.mem_append.mp hf
      · exact data f hf
      · rw [Option.toList_some, List.mem_singleton] at hf
        rw [hf]
        exact .inr ⟨rfl, nonce, rfl⟩
    · rw [hnone] at probes
      change payloadsOf .pong t.toClient ++ payloadsOf _ (t.toServer ++ [_]) = _
      rw [payloadsOf_append, ← List.append_assoc, probes]
      rfl

theorem Agreed.makeClose {t : Tunnel} (h : t.Agreed) (code : UInt16) :
    (t.step (.makeClose code)).Agreed := by
  simp only [Tunnel.step]
  obtain heq | ⟨hlive, heq⟩ := ClientSessionController.makeClose_cases t.client code
  · rw [heq]
    simpa using h
  rw [heq]
  set k : Frame := ⟨.close, 0, t.client.nextOutboundSequence, encodeCloseMessage ⟨code⟩⟩ with hk
  have hclose : IsClose k := ⟨rfl, code, rfl⟩
  dsimp only
  apply h.clientSends
  · rfl
  · intro f hf
    rw [Option.toList_some, List.mem_singleton] at hf
    rw [hf]
    simp
  · intro hne
    exact absurd rfl hne
  cases h.phase with
  | greeting state down unassigned pending next numbered up =>
    refine .greeting state down unassigned pending next (numbered.send rfl) (.inr (.inr ⟨rfl, ?_⟩))
    obtain ⟨hst, -⟩ | ⟨-, g, hup, hg⟩ | ⟨hst, -⟩ := up
    · obtain hs | hs := hlive <;> exact absurd (hs.symm.trans hst) (by decide)
    · refine ⟨g, k, ?_, hg, hclose⟩
      change t.toServer ++ [k] = _
      rw [hup]
      rfl
    · obtain hs | hs := hlive <;> exact absurd (hs.symm.trans hst) (by decide)
  | opened l a body closing state lease matches_ valid acceptable mtu up data numbered client =>
    have hend (assigned : t.client.assignment = none ∨ t.client.assignment = some a)
        (hnil : closing = []) : Phase ({ t with
          client := { t.client with
            state := .closing
            nextOutboundSequence := t.client.nextOutboundSequence + 1 } }.clientSends [k]) := by
      rw [hnil, List.append_nil] at up
      refine .opened l a body [k] state lease matches_ valid acceptable mtu ?_ data
        (numbered.send rfl) (.closing k rfl assigned rfl hclose)
      change t.toServer ++ [k] = _
      rw [up]
    cases client with
    | awaiting g rest hst unassigned pending still => exact hend (.inl unassigned) still.2
    | established hst assigned still => exact hend (.inr assigned) still
    | closing k hst => obtain hs | hs := hlive <;> exact absurd (hs.symm.trans hst) (by decide)
  | done state client up mtu =>
    obtain hs | hs := hlive <;> exact absurd (hs.symm.trans client) (by decide)

/-- The client takes a frame and emits nothing. -/
theorem Agreed.clientTakes {t : Tunnel} (h : t.Agreed) {client : ClientSessionController}
    {f : Frame} {rest : List Frame} {packets : List Bytes} (hq : t.toClient = f :: rest)
    (hm : client.requestedMtu = t.client.requestedMtu)
    (hs : client.state ≠ .closing → t.client.state ≠ .closing ∧ dataOf [f] = packets)
    (hp : Phase { t with client, toClient := rest, clientTun := t.clientTun ++ packets }) :
    Agreed { t with client, toClient := rest, clientTun := t.clientTun ++ packets } where
  manager := h.manager
  holds := h.holds
  hello := by
    change ValidClientHello (clientHello client.requestedMtu)
    rw [hm]
    exact h.hello
  quiet := h.quiet
  uplink := h.uplink
  downlink hc := by
    obtain ⟨hopen, hdata⟩ := hs hc
    have hdown := h.downlink hopen
    have hsplit : dataOf (f :: rest) = packets ++ dataOf rest := by
      rw [← hdata, ← dataOf_append]
      rfl
    change dataOf t.sentByServer = (t.clientTun ++ packets) ++ dataOf rest
    rw [hdown, hq, hsplit, List.append_assoc]
  phase := hp

theorem Agreed.clientHandle {t : Tunnel} (h : t.Agreed) : (t.step .clientHandle).Agreed := by
  simp only [Tunnel.step]
  cases hq : t.toClient with
  | nil => exact h
  | cons f rest =>
    dsimp only
    -- a client past its session drops the frame
    have hdrop (hst : t.client.state = .closing)
        (hp : Phase { t with toClient := rest }) :
        ({ t with toClient := rest, clientTun := t.clientTun ++ [] } : Tunnel).Agreed := by
      apply h.clientTakes hq
      · rfl
      · exact fun hne => absurd hst hne
      · simpa using hp
    cases h.phase with
    | greeting state down =>
      rw [down] at hq
      cases hq
    | opened l a body closing state lease matches_ valid acceptable mtu up data numbered client =>
      cases client with
      | awaiting g rest' hst unassigned pending still queue assign down numbered' =>
        rw [queue] at hq numbered'
        cases hq
        obtain ⟨hseq, htail⟩ := numbered'
        rw [ClientSessionController.handle_assign hst hseq assign.1 assign.2 acceptable]
        simp only [clientSends_nil]
        apply h.clientTakes queue
        · rfl
        · intro _
          refine ⟨by rw [hst]; simp, ?_⟩
          simp [dataOf, assign.1]
        · refine .opened l a body closing state lease matches_ valid acceptable mtu up data numbered
            (.established rfl rfl still.2 (fun g hg => .inl (down g hg)) htail ?_)
          have hno : payloadsOf .pong rest = [] := by
            apply payloadsOf_eq_nil
            intro g hg ht
            have hdata := passes_data (down g hg)
            rw [ht] at hdata
            simp at hdata
          change payloadsOf .pong rest ++ payloadsOf .ping t.toServer = _
          rw [hno, still.1, pending]
          rfl
      | established hst assigned still down numbered' probes =>
        rw [hq] at down numbered' probes
        obtain ⟨hseq, htail⟩ := numbered'
        have hdown : ∀ g ∈ rest, Passes a true g.type g.payload ∨ IsPong g :=
          fun g hg => down g (List.mem_cons_of_mem f hg)
        obtain hpass | hpong := down f List.mem_cons_self
        · have htype := passes_data hpass
          have hne : f.type ≠ .pong := by
            obtain ht | ht := htype <;> rw [ht] <;> simp
          rw [payloadsOf_cons_ne hne] at probes
          rw [ClientSessionController.handle_passes hst hseq assigned hpass]
          simp only [clientSends_nil]
          apply h.clientTakes hq
          · rfl
          · exact fun _ => ⟨by rw [hst]; simp, dataOf_single htype⟩
          · exact .opened l a body closing state lease matches_ valid acceptable mtu up data
              numbered (.established hst assigned still hdown htail probes)
        · rw [payloadsOf_cons_self hpong.1] at probes
          -- the probes in flight are the pending one, so this is its answer
          cases hpend : t.client.pendingPingNonce with
          | none =>
            rw [hpend] at probes
            cases probes
          | some nonce =>
            rw [hpend, Option.toList_some, List.map_singleton, List.cons_append,
              List.cons.injEq] at probes
            obtain ⟨hpay, hnil⟩ := probes
            rw [ClientSessionController.handle_pong hst hseq hpong.1 hpay hpend]
            simp only [clientSends_nil]
            apply h.clientTakes hq
            · rfl
            · intro _
              refine ⟨by rw [hst]; simp, ?_⟩
              simp [dataOf, hpong.1]
            · exact .opened l a body closing state lease matches_ valid acceptable mtu up data
                numbered (.established hst assigned still hdown htail hnil)
      | closing k hst assigned last close =>
        rw [ClientSessionController.handle_closing hst]
        simp only [clientSends_nil]
        exact hdrop hst (.opened l a body closing state lease matches_ valid acceptable mtu up data
          numbered (.closing k hst assigned last close))
    | done state client up mtu =>
      rw [ClientSessionController.handle_closing client]
      simp only [clientSends_nil]
      exact hdrop client (.done state client up mtu)

/-- Passing the client's check is passing the server's. -/
theorem Matches.accepts {m : LeaseManager} {l : Lease} {a : IpAssignment} (h : Matches m l a)
    (hv : ValidIpAssignment a) {f : Frame} (hpass : Passes a false f.type f.payload) :
    SessionController.Accepts a.mtu l f := by
  obtain ⟨ht, h4, hlen, haddr⟩ | ⟨ht, h6, hlen, hp, haddr⟩ := hpass
  · exact .inl ⟨ht, h4, hlen, haddr.trans h.address⟩
  · refine .inr ⟨ht, h6, hlen, ?_, haddr.trans h.ipv6⟩
    intro hz
    have hspec := (hv.ipv6 hp).2.1
    rw [h.ipv6, hz, (isUnspecified_zero_iff _).mpr rfl] at hspec
    cases hspec

/-- What the server delivers the client takes. -/
theorem Matches.passes {m : LeaseManager} {l : Lease} {a : IpAssignment} (h : Matches m l a)
    (hv : ValidIpAssignment a) {type : MessageType} {packet : Bytes}
    (hd : SessionController.Delivers a.mtu l type packet) : Passes a true type packet := by
  obtain ⟨ht, h4, hlen, haddr⟩ | ⟨ht, h6, hlen, hz, haddr⟩ := hd
  · exact .inl ⟨ht, h4, hlen, haddr.trans h.address.symm⟩
  · refine .inr ⟨ht, h6, hlen, ?_, haddr.trans h.ipv6.symm⟩
    intro hp
    have hspec := (hv.no_ipv6 hp).1
    rw [isUnspecified_zero_iff, h.ipv6] at hspec
    exact hz hspec

/-- A renewal leaves the addresses of the lease. -/
theorem Matches.renew {m m' : LeaseManager} (hinv : m.Inv) {l l' : Lease} {a : IpAssignment}
    (h : Matches m l a) {now : TimePoint} (hr : m.renew l now = (some l', m')) :
    m'.Inv ∧ Matches m' l' a ∧ m'.toLeasePolicy = m.toLeasePolicy := by
  obtain ⟨hinv', hren⟩ := hinv.renew_some hr
  obtain ⟨l₀, hl₀, -, -, haddr, hl'⟩ := hren.old
  have h4 : l'.address = l.address := by rw [hl', haddr]
  have h6 : l'.ipv6Address = m.deriveIpv6 l'.address := by
    have hold := hinv.ipv6 hl₀
    rw [hl']
    exact hold
  refine ⟨hinv', ⟨h.address.trans h4.symm, ?_, by rw [hren.policy]; exact h6⟩, hren.policy⟩
  rw [h6, h4, ← h.derived]
  exact h.ipv6

/-- The server moves on, hands over what it took from the channel, and emits no ERROR. -/
theorem Agreed.serverTakes {t : Tunnel} (h : t.Agreed) {server : SessionController}
    {manager : LeaseManager} {toServer frames : List Frame} {serverTun : List Bytes}
    (hinv : manager.Inv) (hh : server.Holds) (hq : ∀ f ∈ frames, f.type ≠ .error)
    (hup : t.serverTun ++ dataOf t.toServer = serverTun ++ dataOf toServer)
    (hp : ({ t with server, manager, toServer, serverTun }.serverSends frames).Phase) :
    ({ t with server, manager, toServer, serverTun }.serverSends frames).Agreed where
  manager := hinv
  holds := hh
  hello := h.hello
  quiet f hf := by
    obtain hf | hf := hf
    · exact h.quiet f (.inl hf)
    · obtain hf | hf := List.mem_append.mp hf
      · exact h.quiet f (.inr hf)
      · exact hq f hf
  uplink := h.uplink.trans hup
  downlink hc := by
    change dataOf (t.sentByServer ++ frames) = t.clientTun ++ dataOf (t.toClient ++ frames)
    rw [dataOf_append, dataOf_append, h.downlink hc, List.append_assoc]
  phase := hp

/-- The hello of a conforming client is granted. -/
private theorem Agreed.serverGreets {t : Tunnel} (h : t.Agreed) {now : TimePoint} {f : Frame}
    {rest : List Frame} (hq : t.toServer = f :: rest) (hg : t.Admits (.serverHandle now))
    (hs : t.server.state = .awaitingHello) : (t.step (.serverHandle now)).Agreed := by
  simp only [Tunnel.step, hq]
  obtain ⟨l, m', hacq, hvalid, hacc⟩ := (hg f rest hq).1 hs
  obtain ⟨hinv, hgrant⟩ := h.manager.acquire_ok hacq
  cases h.phase with
  | opened l a body closing state => exact absurd (hs.symm.trans state) (by decide)
  | done state => exact absurd (hs.symm.trans state) (by decide)
  | greeting state down unassigned pending next numbered up =>
    rw [hq] at numbered up
    obtain ⟨hseq, htail⟩ := numbered
    have hhello : IsHello t.client.requestedMtu f := by
      obtain ⟨-, hnil⟩ | ⟨-, g, hg, hh⟩ | ⟨-, g, k, hg, hh, -⟩ := up
      · cases hnil
      · cases hg
        exact hh
      · cases hg
        exact hh
    have hdec := (decodeClientHello_ok_iff _ _).mpr hhello.2
    have henc := (encodeIpAssignment_ok_iff _ _).mpr ⟨hvalid, rfl⟩
    rw [SessionController.handle_hello hs hseq hhello.1 hdec hacq henc]
    dsimp only
    apply h.serverTakes hinv
    · simp [SessionController.Holds]
    · intro g hg
      rw [List.mem_singleton] at hg
      rw [hg]
      simp
    · rw [hq]
      simp [dataOf, hhello.1]
    have hmatch : Matches m' l (assignmentOf m' l t.client.requestedMtu) :=
      ⟨rfl, rfl, hinv.ipv6 hgrant.self⟩
    have hdown : t.toClient ++ [(⟨.ipAssign, 0, t.server.nextOutboundSequence,
        assignmentBytes (assignmentOf m' l t.client.requestedMtu)⟩ : Frame)] =
        [⟨.ipAssign, 0, t.server.nextOutboundSequence,
          assignmentBytes (assignmentOf m' l t.client.requestedMtu)⟩] := by
      rw [down]
      rfl
    refine .opened l (assignmentOf m' l t.client.requestedMtu) [] rest rfl rfl hmatch hvalid hacc
      ⟨rfl, rfl⟩ rfl (by simp) htail ?_
    obtain ⟨-, hnil⟩ | ⟨hst, g, hg, -⟩ | ⟨hst, g, k, hg, -, hk⟩ := up
    · cases hnil
    · cases hg
      refine .awaiting _ [] hst unassigned pending ⟨rfl, rfl⟩ hdown ⟨rfl, henc⟩ (by simp) ?_
      change Numbered _ t.client.nextExpectedSequence (t.toClient ++ [_]) _
      rw [hdown, next]
      exact ⟨rfl, rfl⟩
    · cases hg
      exact .closing k hst (.inl unassigned) rfl hk

/-- The server takes the client's CLOSE. -/
private theorem Agreed.serverCloses {t : Tunnel} (h : t.Agreed) {now : TimePoint} {l : Lease}
    {a : IpAssignment} {f : Frame} (hq : t.toServer = [f]) (hs : t.server.state = .established)
    (hl : t.server.lease = some l) (hc : t.client.state = .closing)
    (ha : t.client.assignment = none ∨ t.client.assignment = some a)
    (hmtu : a.mtu = t.server.negotiatedMtu ∧ a.mtu = min t.client.requestedMtu t.manager.mtu)
    (hseq : f.sequence = t.server.nextExpectedSequence) (hf : IsClose f) :
    (t.step (.serverHandle now)).Agreed := by
  simp only [Tunnel.step, hq]
  obtain ⟨ht, code, hp⟩ := hf
  obtain ⟨hinv, hpol⟩ := h.manager.call (.release l)
  rw [SessionController.handle_close hs hseq ht hp, SessionController.releaseLease_of_some hl]
  dsimp only
  apply h.serverTakes hinv
  · simp [SessionController.Holds]
  · simp
  · rw [hq]
    simp [dataOf, ht]
  refine .done rfl hc rfl ?_
  intro b hb
  obtain ha | ha := ha
  · exact absurd (ha.symm.trans hb) (by simp)
  · have hab : a = b := Option.some.inj (ha.symm.trans hb)
    rw [← hab]
    refine ⟨hmtu.1, ?_⟩
    change a.mtu = min t.client.requestedMtu (t.manager.call (.release l)).mtu
    rw [hpol]
    exact hmtu.2

/-- The server takes a data frame or a probe of the client. -/
private theorem Agreed.serverTakesBody {t : Tunnel} (h : t.Agreed) {now : TimePoint}
    (hg : t.Admits (.serverHandle now)) {l : Lease} {a : IpAssignment} {f : Frame}
    {body closing : List Frame} (hs : t.server.state = .established)
    (hl : t.server.lease = some l) (hm : Matches t.manager l a) (hv : ValidIpAssignment a)
    (hacc : t.client.assignmentIsAcceptable a = true)
    (hmtu : a.mtu = t.server.negotiatedMtu ∧ a.mtu = min t.client.requestedMtu t.manager.mtu)
    (hq : t.toServer = f :: (body ++ closing))
    (hdata : ∀ g ∈ f :: body, Passes a false g.type g.payload ∨ IsPing g)
    (hnum : Numbered Frame.sequence t.server.nextExpectedSequence t.toServer
      t.client.nextOutboundSequence)
    (hc : t.ClientPhase a closing) : (t.step (.serverHandle now)).Agreed := by
  simp only [Tunnel.step, hq]
  rw [hq] at hnum
  obtain ⟨hseq, htail⟩ := hnum
  have hbody : ∀ g ∈ body, Passes a false g.type g.payload ∨ IsPing g :=
    fun g hg => hdata g (List.mem_cons_of_mem f hg)
  have hrenew (ht : f.type = .dataIpv4 ∨ f.type = .dataIpv6 ∨ f.type = .ping) :
      ∃ l' m', t.manager.renew l now = (some l', m') := by
    have hne := (hg f _ hq).2 ht l hl
    obtain ⟨l', hl'⟩ := Option.ne_none_iff_exists'.mp hne
    exact ⟨l', _, Prod.ext hl' rfl⟩
  obtain hpass | hping := hdata f List.mem_cons_self
  · have htype := passes_data hpass
    obtain ⟨l', m', hr⟩ := hrenew (htype.imp_right .inl)
    obtain ⟨hinv, hm', hpol⟩ := hm.renew h.manager hr
    have hmtu' : a.mtu = t.server.negotiatedMtu ∧ a.mtu = min t.client.requestedMtu m'.mtu := by
      rw [hpol]
      exact hmtu
    have haccepts := hm'.accepts hv hpass
    rw [hmtu.1] at haccepts
    rw [SessionController.handle_accepts hs hseq hl hr haccepts]
    dsimp only
    apply h.serverTakes hinv
    · simp [SessionController.Holds, hs]
    · simp
    · rw [hq, List.append_assoc, ← dataOf_single htype, ← dataOf_append]
      rfl
    rw [serverSends_nil]
    refine .opened l' a body closing hs rfl hm' hv hacc hmtu' rfl hbody htail ?_
    cases hc with
    | awaiting g rest hst unassigned pending still =>
      rw [hq] at still
      exact absurd still.1 (by simp)
    | established hst assigned still down numbered probes =>
      have hne : f.type ≠ .ping := by
        obtain ht | ht := htype <;> rw [ht] <;> simp
      rw [hq, payloadsOf_cons_ne hne] at probes
      exact .established hst assigned still down numbered probes
    | closing k hst assigned last close => exact .closing k hst assigned last close
  · obtain ⟨ht, nonce, hp⟩ := hping
    obtain ⟨l', m', hr⟩ := hrenew (.inr (.inr ht))
    obtain ⟨hinv, hm', hpol⟩ := hm.renew h.manager hr
    have hmtu' : a.mtu = t.server.negotiatedMtu ∧ a.mtu = min t.client.requestedMtu m'.mtu := by
      rw [hpol]
      exact hmtu
    rw [SessionController.handle_ping hs hseq hl hr ht hp]
    dsimp only
    apply h.serverTakes hinv
    · simp [SessionController.Holds, hs]
    · intro g hg
      rw [List.mem_singleton] at hg
      rw [hg]
      simp
    · rw [hq]
      simp [dataOf, ht]
    refine .opened l' a body closing hs rfl hm' hv hacc hmtu' rfl hbody htail ?_
    cases hc with
    | awaiting g rest hst unassigned pending still =>
      rw [hq] at still
      exact absurd still.1 (by simp)
    | established hst assigned still down numbered probes =>
      refine .established hst assigned still ?_ (numbered.send rfl) ?_
      · intro g hg
        obtain hg | hg := List.mem_append.mp hg
        · exact down g hg
        · rw [List.mem_singleton] at hg
          rw [hg]
          exact .inr ⟨rfl, nonce, hp⟩
      · rw [hq, payloadsOf_cons_self ht] at probes
        change payloadsOf _ (t.toClient ++ [_]) ++ payloadsOf _ (body ++ closing) = _
        rw [payloadsOf_append, List.append_assoc]
        exact probes
    | closing k hst assigned last close => exact .closing k hst assigned last close

theorem Agreed.serverHandle {t : Tunnel} (h : t.Agreed) {now : TimePoint}
    (hg : t.Admits (.serverHandle now)) : (t.step (.serverHandle now)).Agreed := by
  cases hq : t.toServer with
  | nil =>
    simp only [Tunnel.step, hq]
    exact h
  | cons f rest =>
    cases h.phase with
    | greeting state => exact h.serverGreets hq hg state
    | opened l a body closing state lease matches_ valid acceptable mtu up data numbered client =>
      cases body with
      | nil =>
        -- only a CLOSE can stand behind an empty body
        rw [List.nil_append] at up
        cases client with
        | awaiting g rest' hst unassigned pending still =>
          rw [hq] at still
          exact absurd still.1 (by simp)
        | established hst assigned still =>
          rw [hq, still] at up
          cases up
        | closing k hst assigned last close =>
          rw [last] at up
          rw [up] at numbered
          exact h.serverCloses up state lease hst assigned mtu numbered.1 close
      | cons g body =>
        exact h.serverTakesBody hg state lease matches_ valid acceptable mtu up data numbered client
    | done state client up mtu =>
      rw [hq] at up
      cases up

theorem Agreed.makeDataToClient {t : Tunnel} (h : t.Agreed) {packet : Bytes} {now : TimePoint}
    (hg : t.Admits (.makeDataToClient packet now)) :
    (t.step (.makeDataToClient packet now)).Agreed := by
  simp only [Tunnel.step]
  obtain ⟨r, s', m', heq, hh⟩ :=
    SessionController.makeDataToClient_sent t.server t.manager packet now
  rw [heq]
  cases hh with
  | ignored => simpa using h
  | lost state lease renew delivers =>
    have hne := hg _ _ lease delivers
    rw [renew] at hne
    exact absurd rfl hne
  | sent hs lease renew delivers =>
    rename_i l l' type
    have htype : type = .dataIpv4 ∨ type = .dataIpv6 := delivers.imp (·.1) (·.1)
    cases h.phase with
    | greeting state => exact absurd (hs.symm.trans state) (by decide)
    | done state => exact absurd (hs.symm.trans state) (by decide)
    | opened l₀ a body closing state hl hm hv hacc hmtu up data numbered client =>
      have hll : l₀ = l := Option.some.inj (hl.symm.trans lease)
      rw [hll] at hm
      obtain ⟨hinv, hm', hpol⟩ := hm.renew h.manager renew
      have hmtu' : a.mtu = t.server.negotiatedMtu ∧ a.mtu = min t.client.requestedMtu m'.mtu := by
        rw [hpol]
        exact hmtu
      have hpass : Passes a true type packet := by
        rw [← hmtu.1] at delivers
        exact hm.passes hv delivers
      dsimp only
      apply h.serverTakes hinv
      · simp [SessionController.Holds, hs]
      · intro f hf
        rw [Option.toList_some, List.mem_singleton] at hf
        rw [hf]
        obtain ht | ht := htype <;> rw [ht] <;> simp
      · rfl
      refine .opened l' a body closing hs rfl hm' hv hacc hmtu' up data numbered ?_
      cases client with
      | awaiting g rest hst unassigned pending still queue assign down numbered' =>
        refine .awaiting g (rest ++ [⟨type, 0, t.server.nextOutboundSequence, packet⟩]) hst
          unassigned pending still ?_ assign ?_ (numbered'.send rfl)
        · change t.toClient ++ [_] = _
          rw [queue]
          rfl
        · intro f hf
          obtain hf | hf := List.mem_append.mp hf
          · exact down f hf
          · rw [List.mem_singleton] at hf
            rw [hf]
            exact hpass
      | established hst assigned still down numbered' probes =>
        refine .established hst assigned still ?_ (numbered'.send rfl) ?_
        · intro f hf
          obtain hf | hf := List.mem_append.mp hf
          · exact down f hf
          · rw [Option.toList_some, List.mem_singleton] at hf
            rw [hf]
            exact .inl hpass
        · have hnot : payloadsOf .pong
              [(⟨type, 0, t.server.nextOutboundSequence, packet⟩ : Frame)] = [] := by
            obtain rfl | rfl := htype <;> rfl
          change payloadsOf _ (t.toClient ++ [_]) ++ payloadsOf _ t.toServer = _
          rw [payloadsOf_append, hnot, List.append_nil]
          exact probes
      | closing k hst assigned last close => exact .closing k hst assigned last close

theorem Agreed.lease {t : Tunnel} (h : t.Agreed) (call : LeaseCall) :
    (t.step (.lease call)).Agreed := by
  obtain ⟨hinv, hpol⟩ := h.manager.call call
  refine ⟨hinv, h.holds, h.hello, h.quiet, h.uplink, h.downlink, ?_⟩
  cases h.phase with
  | greeting state down unassigned pending next numbered up =>
    exact .greeting state down unassigned pending next numbered up
  | opened l a body closing state lease matches_ valid acceptable mtu up data numbered client =>
    have hm : Matches (t.manager.call call) l a := by
      refine ⟨matches_.address, matches_.ipv6, ?_⟩
      rw [hpol]
      exact matches_.derived
    have hmtu : a.mtu = t.server.negotiatedMtu ∧
        a.mtu = min t.client.requestedMtu (t.manager.call call).mtu := by
      rw [hpol]
      exact mtu
    refine .opened l a body closing state lease hm valid acceptable hmtu up data numbered ?_
    cases client with
    | awaiting g rest hst unassigned pending still queue assign down numbered' =>
      exact .awaiting g rest hst unassigned pending still queue assign down numbered'
    | established hst assigned still down numbered' probes =>
      exact .established hst assigned still down numbered' probes
    | closing k hst assigned last close => exact .closing k hst assigned last close
  | done state client up mtu =>
    refine .done state client up ?_
    intro a ha
    change a.mtu = _ ∧ a.mtu = min _ (t.manager.call call).mtu
    rw [hpol]
    exact mtu a ha

/-- An admitted step keeps a conforming pair in agreement. -/
theorem Agreed.step {t : Tunnel} (h : t.Agreed) (e : TunnelEvent) (hg : t.Admits e) :
    (t.step e).Agreed := by
  cases e with
  | start => exact h.start
  | makeDataToServer packet => exact h.makeDataToServer packet
  | makePing nonce => exact h.makePing nonce
  | makeClose code => exact h.makeClose code
  | clientHandle => exact h.clientHandle
  | serverHandle now => exact h.serverHandle hg
  | makeDataToClient packet now => exact h.makeDataToClient hg
  | clientTransportClosed => exact hg.elim
  | serverTransportClosed => exact hg.elim
  | lease call => exact h.lease call

theorem agreed_fresh {m : LeaseManager} (h : m.Inv) (identity : Bytes) {mtu : UInt16}
    (hm : ValidClientHello (clientHello mtu)) : (fresh m identity mtu).Agreed where
  manager := h
  holds := by simp [SessionController.Holds, fresh]
  hello := hm
  quiet := by simp [fresh]
  uplink := rfl
  downlink _ := rfl
  phase := .greeting rfl rfl rfl rfl rfl rfl (.inl ⟨rfl, rfl⟩)

/-- What is at the head of the channels is what the receivers wait for. -/
theorem Agreed.expected {t : Tunnel} (h : t.Agreed) :
    (∀ f rest, t.toServer = f :: rest → f.sequence = t.server.nextExpectedSequence) ∧
    (t.client.Live → ∀ f rest, t.toClient = f :: rest →
      f.sequence = t.client.nextExpectedSequence ∧
      (f.type = .pong → ∃ nonce, decodeLivenessProbe f.payload = .ok ⟨nonce⟩ ∧
        t.client.pendingPingNonce = some nonce)) := by
  cases h.phase with
  | greeting state down unassigned pending next numbered up =>
    refine ⟨fun f rest hq => ?_, fun _ f rest hq => ?_⟩
    · rw [hq] at numbered
      exact numbered.1
    · rw [down] at hq
      cases hq
  | opened l a body closing state lease matches_ valid acceptable mtu up data numbered client =>
    refine ⟨fun f rest hq => ?_, fun hlive f rest hq => ?_⟩
    · rw [hq] at numbered
      exact numbered.1
    · cases client with
      | awaiting g rest' hst unassigned pending still queue assign down numbered' =>
        rw [queue] at hq numbered'
        cases hq
        refine ⟨numbered'.1, fun ht => ?_⟩
        exact absurd (assign.1.symm.trans ht) (by decide)
      | established hst assigned still down numbered' probes =>
        rw [hq] at numbered' probes
        refine ⟨numbered'.1, fun ht => ?_⟩
        rw [payloadsOf_cons_self ht] at probes
        cases hpend : t.client.pendingPingNonce with
        | none =>
          rw [hpend] at probes
          cases probes
        | some nonce =>
          rw [hpend, Option.toList_some, List.map_singleton, List.cons_append,
            List.cons.injEq] at probes
          exact ⟨nonce, (decodeLivenessProbe_ok_iff _ _).mpr probes.1.symm, rfl⟩
      | closing k hst =>
        obtain hs | hs := hlive <;> exact absurd (hs.symm.trans hst) (by decide)
  | done state client up mtu =>
    refine ⟨fun f rest hq => ?_, fun hlive => ?_⟩
    · rw [up] at hq
      cases hq
    · obtain hs | hs := hlive <;> exact absurd (hs.symm.trans client) (by decide)

/-- Both sides use the same addresses and MTU. -/
theorem Agreed.same {t : Tunnel} (h : t.Agreed) {a : IpAssignment}
    (ha : t.client.assignment = some a) :
    a.mtu = t.server.negotiatedMtu ∧ a.mtu = min t.client.requestedMtu t.manager.mtu ∧
      ∀ l, t.server.lease = some l →
        a.clientAddress = l.address ∧ a.clientIpv6Address = l.ipv6Address := by
  cases h.phase with
  | greeting state down unassigned =>
    rw [unassigned] at ha
    cases ha
  | opened l b body closing state lease matches_ valid acceptable mtu up data numbered client =>
    have hab : a = b := by
      cases client with
      | awaiting g rest hst unassigned =>
        rw [unassigned] at ha
        cases ha
      | established hst assigned => exact Option.some.inj (ha.symm.trans assigned)
      | closing k hst assigned =>
        obtain hno | hb := assigned
        · rw [hno] at ha
          cases ha
        · exact Option.some.inj (ha.symm.trans hb)
    rw [hab]
    refine ⟨mtu.1, mtu.2, fun l' hl' => ?_⟩
    have hll : l' = l := Option.some.inj (hl'.symm.trans lease)
    rw [hll]
    exact ⟨matches_.address, matches_.ipv6⟩
  | done state client up mtu =>
    obtain ⟨h1, h2⟩ := mtu a ha
    refine ⟨h1, h2, fun l hl => ?_⟩
    have hno := h.holds.none (by rw [state]; decide)
    rw [hno] at hl
    cases hl

/-- A client with an assignment leaves its established state only by closing. -/
theorem Agreed.stays {t : Tunnel} (h : t.Agreed) (ha : t.client.assignment ≠ none) :
    t.client.state = .established ∨ t.client.state = .closing := by
  cases h.phase with
  | greeting state down unassigned => exact absurd unassigned ha
  | opened l b body closing state lease matches_ valid acceptable mtu up data numbered client =>
    cases client with
    | awaiting g rest hst unassigned => exact absurd unassigned ha
    | established hst => exact .inl hst
    | closing k hst => exact .inr hst
  | done state client => exact .inr client

/-- Conforming peers never fault each other: in every run in which the hello is granted an
acceptable assignment and renewals succeed, no side emits an ERROR, sequence numbers and probe
answers are as expected, both sides use the same addresses and MTU, packets arrive in order without
loss or duplication, an assigned client leaves its established state only by closing, and the
server stays established while the client is. -/
theorem conforming_peers_never_fault {first last gateway : Ipv4Address} {prefixLength : UInt8}
    {mtu : UInt16} {duration : Int} {v6Prefix v6Gateway : Ipv6Address} {v6Length : UInt8}
    {m₀ : LeaseManager} {identity : Bytes} {s₀ : SessionController} {requestedMtu : UInt16}
    {c₀ : ClientSessionController}
    (hm : LeaseManager.create first last gateway prefixLength mtu duration v6Prefix v6Gateway
      v6Length = .ok m₀) (hs : SessionController.create identity = .ok s₀)
    (hc : ClientSessionController.create requestedMtu = .ok c₀) (es : List TunnelEvent)
    (hes : Run.Along step Admits { manager := m₀, server := s₀, client := c₀ } es) :
    let t := Run.run step { manager := m₀, server := s₀, client := c₀ } es
    (∀ f, f ∈ t.sentByClient ∨ f ∈ t.sentByServer → f.type ≠ .error) ∧
    (∀ f rest, t.toServer = f :: rest → f.sequence = t.server.nextExpectedSequence) ∧
    (t.client.Live → ∀ f rest, t.toClient = f :: rest →
      f.sequence = t.client.nextExpectedSequence ∧
      (f.type = .pong → ∃ nonce, decodeLivenessProbe f.payload = .ok ⟨nonce⟩ ∧
        t.client.pendingPingNonce = some nonce)) ∧
    (∀ a, t.client.assignment = some a → a.mtu = t.server.negotiatedMtu ∧
      a.mtu = min t.client.requestedMtu t.manager.mtu ∧ ∀ l, t.server.lease = some l →
        a.clientAddress = l.address ∧ a.clientIpv6Address = l.ipv6Address) ∧
    dataOf t.sentByClient = t.serverTun ++ dataOf t.toServer ∧
    (t.client.state ≠ .closing → dataOf t.sentByServer = t.clientTun ++ dataOf t.toClient) ∧
    (t.client.assignment ≠ none → t.client.state = .established ∨ t.client.state = .closing) ∧
    (t.client.state = .established → t.server.state = .established) := by
  intro t
  have hs₀ : s₀ = { identity } := by
    rw [SessionController.create, ite_error_eq_ok] at hs
    exact (Except.ok.inj hs.2).symm
  have hc₀ := ClientSessionController.create_ok hc
  have h₀ : Agreed { manager := m₀, server := s₀, client := c₀ } := by
    rw [hs₀, hc₀.1]
    exact agreed_fresh (LeaseManager.inv_create hm) identity hc₀.2
  have h : t.Agreed := Run.along_invariant (P := Agreed) (fun _ e ht hg => ht.step e hg) h₀ hes
  obtain ⟨hup, hdown⟩ := h.expected
  refine ⟨h.quiet, hup, hdown, fun a ha => h.same ha, h.uplink, h.downlink, h.stays, fun hst => ?_⟩
  obtain ⟨l, a, state, -⟩ := h.opened_of_established hst
  exact state

/-- A hello, its answer and one packet. -/
def shortExchange : List TunnelEvent :=
  [.start, .serverHandle 0, .clientHandle, .makeDataToServer Fleet.dataFrame.payload,
    .serverHandle 1]

theorem shortExchange_admitted :
    Run.Along step Admits (fresh (LeaseManager.singleManager 1) (text "c") 1400) shortExchange := by
  refine ⟨trivial, ?_, trivial, trivial, ?_, trivial⟩
  · intro f rest hq
    refine ⟨fun _ => ⟨_, _, LeaseManager.acquire_single (by decide), ?_, by decide⟩, ?_⟩
    · exact (validateIpAssignment_ok_iff _).mp (by decide)
    · intro _ l hl
      cases hl
  · intro f rest hq
    constructor
    · intro hs
      exact absurd hs (by decide +kernel)
    · intro _ l hl
      -- the lease held after the exchange is the one of the grant
      have hrun : (Run.run step (fresh (LeaseManager.singleManager 1) (text "c") 1400)
          (shortExchange.take 4)).server.lease = some (LeaseManager.singleLease 1) := by
        decide +kernel
      have hlease : LeaseManager.singleLease 1 = l := Option.some.inj (hrun.symm.trans hl)
      rw [← hlease]
      decide +kernel

theorem conforming_peers_never_fault_shortExchange :
    let t := Run.run step (fresh (LeaseManager.singleManager 1) (text "c") 1400) shortExchange
    t.client.state = .established ∧ t.server.state = .established ∧
      dataOf t.sentByClient = t.serverTun ∧ t.serverTun = [Fleet.dataFrame.payload] := by
  intro t
  have hs : t.client.state = .established := by decide +kernel
  have hq : t.toServer = [] := by decide +kernel
  have htun : t.serverTun = [Fleet.dataFrame.payload] := by decide +kernel
  have hserver : SessionController.create (text "c") = .ok { identity := text "c" } := rfl
  have hclient : ClientSessionController.create 1400 = .ok { requestedMtu := 1400 } := rfl
  obtain ⟨-, -, -, -, hup, -, -, hstate⟩ := conforming_peers_never_fault LeaseManager.create_single
    hserver hclient _ shortExchange_admitted
  refine ⟨hs, hstate hs, ?_, htun⟩
  have hnil : dataOf t.toServer = [] := by
    rw [hq]
    rfl
  calc dataOf t.sentByClient = t.serverTun ++ dataOf t.toServer := hup
    _ = t.serverTun := by rw [hnil, List.append_nil]

end Tunnel

end PersonalVpn.Core
