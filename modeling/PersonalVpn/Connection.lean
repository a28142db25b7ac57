import PersonalVpn.Client.ClientDelivery
import PersonalVpn.Server.SessionDelivery

/-! The two ends of a tunnel and the two byte streams between them. -/

namespace PersonalVpn

open Client PersonalVpn.Core Protocol Server

/-- Of what one end has handed to its transport and the other has not received, the first `count`
bytes. -/
def arriving (written : List Bytes) (received : Bytes) (count : Nat) : Bytes :=
  (written.flatten.drop received.length).take count

/-- A client and the session of the server that it has connected to. -/
structure Connection where
  client : ClientRun
  session : SessionRun

inductive ConnectionEvent where
  | client (e : ClientEvent)
  | session (x : SessionMoment)

namespace ConnectionEvent

/-- The packets offered to the client. -/
def uplink : ConnectionEvent → List Bytes
  | .client e => e.offered
  | .session _ => []

/-- The packets offered to the session. -/
def downlink : ConnectionEvent → List Bytes
  | .client _ => []
  | .session x => x.event.offered

end ConnectionEvent

namespace Connection

def start (client : TlsTunnelClient) (maximumFrames maximumBytes : Nat) : Connection where
  client := { client }
  session := SessionRun.start maximumFrames maximumBytes

/-- How many bytes a read of the client completes with is up to the transport, but not which. -/
def clientEvent (c : Connection) : ClientEvent → ClientEvent
  | .read (.ok data) =>
    .read (.ok (arriving c.session.session.written c.client.client.received data.length))
  | e => e

/-- The same at the other end. -/
def sessionEvent (c : Connection) : SessionEvent → SessionEvent
  | .read (some data) =>
    .read (some (arriving c.client.client.written c.session.session.received data.length))
  | e => e

def step (accepts : IpAssignment → Bool) (c : Connection) : ConnectionEvent → Connection
  | .client e => { c with client := c.client.step accepts (c.clientEvent e) }
  | .session x => { c with session := c.session.step { x with event := c.sessionEvent x.event } }

theorem offered_clientEvent (c : Connection) (e : ClientEvent) :
    (c.clientEvent e).offered = e.offered := by
  unfold clientEvent
  split <;> rfl

theorem offered_sessionEvent (c : Connection) (e : SessionEvent) :
    (c.sessionEvent e).offered = e.offered := by
  unfold sessionEvent
  split <;> rfl

/-- What arrives continues what has been received. -/
theorem received_arriving {written : List Bytes} {received stream : Bytes}
    (hwritten : written.flatten <+: stream) (hreceived : received <+: stream) (count : Nat) :
    received ++ arriving written received count <+: stream := by
  unfold arriving
  obtain hshort | hlong := Nat.le_total received.length written.flatten.length
  · obtain ⟨rest, hrest⟩ := List.prefix_of_prefix_length_le hreceived hwritten hshort
    rw [← hrest, List.drop_left]
    refine List.IsPrefix.trans ?_ hwritten
    rw [← hrest]
    exact (List.prefix_append_right_inj _).mpr (List.take_prefix _ _)
  · rw [List.drop_eq_nil_of_le hlong, List.take_nil, List.append_nil]
    exact hreceived

/-- The bytes that some frames are written as. -/
def streamOf (created : List Frame) : Bytes := (created.map wireBytes).flatten

theorem streamOf_eq_flatMap (created : List Frame) : streamOf created = created.flatMap wireBytes :=
  List.flatMap_def.symm

theorem streamOf_append (created made : List Frame) :
    streamOf (created ++ made) = streamOf created ++ streamOf made := by
  simp [streamOf]

theorem prefix_flatten {written : List Bytes} {created : List Frame}
    (h : written <+: created.map wireBytes) : written.flatten <+: streamOf created := by
  obtain ⟨rest, hrest⟩ := h
  rw [streamOf, ← hrest, List.flatten_append]
  exact List.prefix_append _ _

/-- The frames read off what has been received are the first of those that were created. -/
theorem parsed_prefix {created : List Frame} {received : Bytes}
    (hformed : ∀ f ∈ created, WellFormed f) (hreceived : received <+: streamOf created) :
    (frameParser.parse received).1 <+: created := by
  rw [streamOf_eq_flatMap] at hreceived
  exact frameCodec.parse_of_prefix hformed hreceived

/-- Once all that was written is received, the frames read off it are all those that were written. -/
theorem parsed_all {created : List Frame} {written : List Bytes} {received : Bytes}
    (hformed : ∀ f ∈ created, WellFormed f) (hwritten : written <+: created.map wireBytes)
    (hreceived : received <+: streamOf created)
    (hlength : received.length = written.flatten.length) :
    (frameParser.parse received).1 = created.take written.length := by
  have hsame : received = written.flatten :=
    (List.prefix_of_prefix_length_le hreceived (prefix_flatten hwritten) hlength.le).eq_of_length
      hlength
  have htaken : written = (created.take written.length).map wireBytes := by
    rw [List.map_take]
    exact List.prefix_iff_eq_take.mp hwritten
  have hstream : received = (created.take written.length).flatMap wireBytes := by
    rw [hsame, List.flatMap_def, ← htaken]
  have htake : ∀ f ∈ created.take written.length, WellFormed f :=
    fun f hf => hformed f (List.mem_of_mem_take hf)
  have hparse := frameCodec.parse_encode htake []
  rw [hstream, ← List.append_nil (List.flatMap _ _), hparse, StreamParser.parse_nil,
    List.append_nil]

/-- The invariant of a connection: what either end has received is what the other has made frames of,
up to some byte. -/
structure Sound (c : Connection) : Prop where
  client : c.client.Delivering
  session : c.session.Delivering
  uplink : c.session.session.received <+: streamOf c.client.created
  downlink : c.client.client.received <+: streamOf c.session.created

variable {c : Connection} {accepts : IpAssignment → Bool}

theorem sound_start {name : Bytes} {mtu : UInt16} {frames bytes : Nat} {t : TlsTunnelClient}
    (h : TlsTunnelClient.create name mtu frames bytes = .ok t) (maximumFrames maximumBytes : Nat) :
    (start t maximumFrames maximumBytes).Sound where
  client := ClientRun.delivering_create h
  session := SessionRun.delivering_start maximumFrames maximumBytes
  uplink := List.nil_prefix
  downlink := by
    simp only [TlsTunnelClient.create, bind_eq_ok] at h
    obtain ⟨_, -, _, -, -, -, ht⟩ := h
    obtain rfl := Except.ok.inj ht
    exact List.nil_prefix

theorem Sound.client_wrote (h : c.Sound) : c.client.client.written <+:
    c.client.created.map wireBytes := h.client.books.wrote

theorem Sound.session_wrote (h : c.Sound) : c.session.session.written <+:
    c.session.created.map wireBytes := h.session.books.wrote

/-- Frames made later do not change what has been received. -/
theorem grown {received : Bytes} {created : List Frame} (h : received <+: streamOf created)
    (made : List Frame) : received <+: streamOf (created ++ made) := by
  rw [streamOf_append]
  exact h.trans (List.prefix_append _ _)

theorem Sound.step (h : c.Sound) (accepts : IpAssignment → Bool) (e : ConnectionEvent) :
    (c.step accepts e).Sound := by
  cases e with
  | client e =>
    refine ⟨h.client.step accepts _, h.session, grown h.uplink _, ?_⟩
    obtain hsame | ⟨data, hread, hmore⟩ := ClientRun.step_received accepts c.client
      (c.clientEvent e)
    · exact hsame ▸ h.downlink
    · change (c.client.step accepts _).client.received <+: _
      rw [hmore]
      unfold clientEvent at hread
      split at hread
      · obtain rfl := Except.ok.inj (ClientEvent.read.inj hread)
        exact received_arriving (prefix_flatten h.session_wrote) h.downlink _
      · rename_i hno
        exact absurd hread (hno data)
  | session x =>
    refine ⟨h.client, h.session.step _, ?_, grown h.downlink _⟩
    obtain hsame | ⟨data, hread, hmore⟩ := SessionRun.step_received c.session
        { x with event := c.sessionEvent x.event }
    · exact hsame ▸ h.uplink
    · change (c.session.step _).session.received <+: _
      rw [hmore]
      dsimp only at hread
      unfold sessionEvent at hread
      split at hread
      · obtain rfl := Option.some.inj (SessionEvent.read.inj hread)
        exact received_arriving (prefix_flatten h.client_wrote) h.uplink _
      · rename_i hno
        exact absurd hread (hno data)

/-- The packets that the client has put into frames are among those it was offered, in their order. -/
theorem Sound.uplink_offered (h : c.Sound) (es : List ConnectionEvent) :
    (dataOf (Run.run (Connection.step accepts) c es).client.created).Sublist
      (dataOf c.client.created ++ es.flatMap ConnectionEvent.uplink) := by
  induction es generalizing c with
  | nil => simp
  | cons e es ih =>
    refine (ih (h.step accepts e)).trans ?_
    rw [List.flatMap_cons, ← List.append_assoc]
    refine List.Sublist.append ?_ (List.Sublist.refl _)
    cases e with
    | client e =>
      have hmade := h.client.dataOf_framesMade accepts (c.clientEvent e)
      rw [offered_clientEvent] at hmade
      change (dataOf (c.client.created ++ _)).Sublist _
      rw [dataOf_append]
      exact (List.Sublist.refl _).append hmade
    | session x =>
      rw [ConnectionEvent.uplink, List.append_nil]
      exact List.Sublist.refl _

theorem Sound.downlink_offered (h : c.Sound) (es : List ConnectionEvent) :
    (dataOf (Run.run (Connection.step accepts) c es).session.created).Sublist
      (dataOf c.session.created ++ es.flatMap ConnectionEvent.downlink) := by
  induction es generalizing c with
  | nil => simp
  | cons e es ih =>
    refine (ih (h.step accepts e)).trans ?_
    rw [List.flatMap_cons, ← List.append_assoc]
    refine List.Sublist.append ?_ (List.Sublist.refl _)
    cases e with
    | client e =>
      rw [ConnectionEvent.downlink, List.append_nil]
      exact List.Sublist.refl _
    | session x =>
      have hmade := TlsTunnelSession.dataOf_framesMade h.session.holds
        (c.session.shared { x with event := c.sessionEvent x.event }) (c.sessionEvent x.event)
      rw [offered_sessionEvent] at hmade
      change (dataOf (c.session.created ++ _)).Sublist _
      rw [dataOf_append]
      exact (List.Sublist.refl _).append hmade

/-- The packets that have reached the TUN device of the server. -/
def reachedServer (c : Connection) : List Bytes := HandlerCall.sunk c.session.log

/-- The packets that have reached the TUN device of the client. -/
def reachedClient (c : Connection) : List Bytes := c.client.client.tun

/-- The session goes on reading, and has read and handled all that the client has written. -/
structure SessionCaughtUp (c : Connection) : Prop where
  stopped : c.session.session.stopped = false
  closeAfterWrite : c.session.session.closeAfterWrite = false
  inbound : c.session.session.inbound = []
  received : c.session.session.received.length = c.client.client.written.flatten.length

/-- The client goes on reading, and has read all that the session has written. -/
structure ClientCaughtUp (c : Connection) : Prop where
  stopped : c.client.client.stopped = false
  closeAfterWrite : c.client.client.closeAfterWrite = false
  received : c.client.client.received.length = c.session.session.written.flatten.length

theorem Sound.reachedServer_prefix (h : c.Sound) : c.reachedServer <+: dataOf c.client.created := by
  have hparsed := parsed_prefix h.client.books.wellFormed h.uplink
  exact h.session.delivered.passed.trans
    (prefix_dataOf (h.session.delivered.handled_prefix.trans hparsed))

theorem Sound.reachedClient_prefix (h : c.Sound) : c.reachedClient <+: dataOf c.session.created := by
  have hparsed := parsed_prefix h.session.books.wellFormed h.downlink
  exact h.client.delivered.passed.trans (prefix_dataOf (h.client.delivered.heard.trans hparsed))

theorem Sound.reachedServer_all (h : c.Sound) (hup : c.SessionCaughtUp) :
    c.reachedServer = dataOf (c.client.created.take c.client.client.written.length) := by
  have hall := parsed_all h.client.books.wellFormed h.client_wrote h.uplink hup.received
  have hdecoded := (h.session.reads hup.stopped hup.closeAfterWrite).1.2
  rw [hup.inbound, List.append_nil] at hdecoded
  rw [hdecoded] at hall
  change _ = c.client.created.take _ at hall
  rw [← hall]
  exact h.session.delivered.whole hup.stopped hup.closeAfterWrite

theorem Sound.reachedClient_all (h : c.Sound) (hup : c.ClientCaughtUp) :
    c.reachedClient = dataOf (c.session.created.take c.session.session.written.length) := by
  have hall := parsed_all h.session.books.wellFormed h.session_wrote h.downlink hup.received
  obtain ⟨hwhole, hdecoded⟩ := h.client.delivered.whole hup.stopped (.inl hup.closeAfterWrite)
  rw [hdecoded.2] at hall
  change _ = c.session.created.take _ at hall
  rw [← hall]
  exact hwhole

/-- However the bytes are cut on their way and whatever else happens at either end, the packets that
reach a TUN device are the first of those that the other end has put into frames, which it was offered
in this order. An end that goes on reading, and has read all that was written, has them all. -/
theorem packets_arrive_in_order {name : Bytes} {mtu : UInt16} {frames bytes : Nat}
    {t : TlsTunnelClient} (h : TlsTunnelClient.create name mtu frames bytes = .ok t)
    (maximumFrames maximumBytes : Nat) (accepts : IpAssignment → Bool) (es : List ConnectionEvent) :
    let c := Run.run (step accepts) (start t maximumFrames maximumBytes) es
    (c.reachedServer <+: dataOf c.client.created ∧
      (dataOf c.client.created).Sublist (es.flatMap ConnectionEvent.uplink) ∧
      (c.SessionCaughtUp →
        c.reachedServer = dataOf (c.client.created.take c.client.client.written.length))) ∧
    (c.reachedClient <+: dataOf c.session.created ∧
      (dataOf c.session.created).Sublist (es.flatMap ConnectionEvent.downlink) ∧
      (c.ClientCaughtUp →
        c.reachedClient = dataOf (c.session.created.take c.session.session.written.length))) := by
  intro c
  have h₀ := sound_start h maximumFrames maximumBytes
  have hc : c.Sound := Run.invariant (P := Sound) (fun _ e hc => hc.step accepts e) h₀ es
  exact ⟨⟨hc.reachedServer_prefix, h₀.uplink_offered es, hc.reachedServer_all⟩,
    hc.reachedClient_prefix, h₀.downlink_offered es, hc.reachedClient_all⟩

/-- A hello that arrives in two parts and its answer, and a packet in each direction. -/
def shortConversation : List ConnectionEvent :=
  let read (count : Nat) : Bytes := List.replicate count 0
  let moment (event : SessionEvent) : ConnectionEvent :=
    .session { event, manager := LeaseManager.singleManager 1 }
  let leased (event : SessionEvent) : ConnectionEvent :=
    .session { event, manager := SessionHistory.leasedManager }
  [.client (.start true), .client (.handshake none), moment (.handshake (some (text "c"))),
    moment (.read (some (read 7))), .client (.write none), moment (.read (some (read 100))),
    moment (.frame 0), .client (.read (.ok (read 100))),
    .client (.sendIpv4 Fleet.dataFrame.payload), leased (.read (some (read 100))),
    leased (.frame 1), leased (.write false), leased (.sendIpv4 SessionHistory.downlinkPacket 1),
    .client (.read (.ok (read 100)))]

theorem packets_arrive_in_order_shortConversation :
    let t : TlsTunnelClient :=
      { controller := { requestedMtu := 1400 }, outboundQueue := ⟨256, 2 ^ 20, [], 0⟩ }
    let c := Run.run (step fun _ => true) (start t 256 (2 ^ 20)) shortConversation
    c.SessionCaughtUp ∧ c.ClientCaughtUp ∧
      c.reachedServer = dataOf (c.client.created.take c.client.client.written.length) ∧
      c.reachedServer = [Fleet.dataFrame.payload] ∧
      c.reachedClient = dataOf (c.session.created.take c.session.session.written.length) ∧
      c.reachedClient = [SessionHistory.downlinkPacket] := by
  intro t c
  have hsession : c.SessionCaughtUp :=
    ⟨by decide +kernel, by decide +kernel, by decide +kernel, by decide +kernel⟩
  have hclient : c.ClientCaughtUp := ⟨by decide +kernel, by decide +kernel, by decide +kernel⟩
  have hcreate : TlsTunnelClient.create (text "vpn") 1400 256 (2 ^ 20) = .ok t := rfl
  obtain ⟨⟨-, -, hup⟩, -, -, hdown⟩ :=
    packets_arrive_in_order hcreate 256 (2 ^ 20) (fun _ => true) shortConversation
  exact ⟨hsession, hclient, hup hsession, by decide +kernel, hdown hclient, by decide +kernel⟩

end Connection

end PersonalVpn
