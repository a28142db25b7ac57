import PersonalVpn.Client.ClientReads
import PersonalVpn.Core.FleetSafety
import PersonalVpn.Server.SessionReads

namespace PersonalVpn

open Client PersonalVpn.Core Protocol Server

/-- A stream of valid frames with an invalid header behind them, read in any pieces amid any other
events. The read that completes the header closes a session or client that is still open, and the
frames handed to its controller are all of the valid ones if and only if that read starts behind
them. -/
theorem bad_stream_handled_iff {frames : List Frame} {encoded bad : Bytes}
    (he : encodeFrames frames = .ok encoded) (hbad : InvalidHeader bad) :
    (∀ (σ : Type) (h : Handlers σ) (outboundQueue : OutboundFrameQueue)
      (before after : List (Shared σ × SessionEvent)) (w : Shared σ) (data : Bytes),
      let s := Run.run (TlsTunnelSession.stepAmid h) { outboundQueue } before
      s.reading = true → s.stopped = false → s.closeAfterWrite = false →
      s.received ++ data = encoded ++ bad →
        (s.stepAmid h (w, .read (some data))).stopped = true ∧
        ((Run.run (TlsTunnelSession.stepAmid h) s ((w, .read (some data)) :: after)).handled =
          frames ↔ encoded.length ≤ s.received.length)) ∧
    (∀ (name : Bytes) (mtu : UInt16) (maximumFrames maximumBytes : Nat) (t₀ : TlsTunnelClient)
      (accepts : IpAssignment → Bool) (before after : List ClientEvent) (data : Bytes),
      TlsTunnelClient.create name mtu maximumFrames maximumBytes = .ok t₀ →
      let t := Run.run (TlsTunnelClient.step accepts) t₀ before
      t.reading = true → t.stopped = false → t.closeAfterWrite = false →
      t.received ++ data = encoded ++ bad →
        (t.step accepts (.read (.ok data))).stopped = true ∧
        ((Run.run (TlsTunnelClient.step accepts) t (.read (.ok data) :: after)).handled = frames ↔
          encoded.length ≤ t.received.length)) := by
  constructor
  · intro σ h outboundQueue before after w data s hread hs hw hstream
    have hr : s.Reads := Run.invariant (P := TlsTunnelSession.Reads)
      (fun _ x hr => hr.step h x.1 x.2) (TlsTunnelSession.reads_fresh outboundQueue) before
    exact hr.bad hread hs hw he hbad hstream h w after
  · intro name mtu maximumFrames maximumBytes t₀ accepts before after data hcreate t hread hs hw
      hstream
    have hr : t.Reads := Run.invariant (P := TlsTunnelClient.Reads)
      (fun _ e hr => hr.step accepts e) (TlsTunnelClient.reads_create hcreate) before
    exact hr.bad hread hs hw he hbad hstream accepts after

/-- A session whose handshake is over, of a server whose handlers do nothing. -/
def greetedSession (reads : List (Shared Unit × SessionEvent)) : TlsTunnelSession :=
  let w : Shared Unit := { manager := LeaseManager.singleManager 1, outside := () }
  Run.run (TlsTunnelSession.stepAmid ⟨fun _ x => x, fun _ x => (true, x), fun _ x => x⟩)
    { outboundQueue := ⟨256, 2 ^ 20, [], 0⟩ } ((w, .handshake (some (text "c"))) :: reads)

/-- A client whose handshake is over. -/
def greetedClient (reads : List ClientEvent) : TlsTunnelClient :=
  Run.run (TlsTunnelClient.step fun _ => true)
    { controller := { requestedMtu := 1400 }, outboundQueue := ⟨256, 2 ^ 20, [], 0⟩ }
    (.start true :: .handshake none :: reads)

/-- The IP_ASSIGN with which the server answers `Fleet.helloFrame`. -/
def assignFrame : Frame :=
  ⟨.ipAssign, 0, 1, [10, 8, 0, 2, 10, 8, 0, 1, 24, 0, 5, 120, 0, 0, 14, 16] ++ List.replicate 36 0⟩

/-- Read apart from the header behind it, a frame reaches the controller. -/
theorem bad_stream_handled_iff_apart :
    let w : Shared Unit := { manager := LeaseManager.singleManager 1, outside := () }
    let bad : Bytes := List.replicate 20 0
    (greetedSession [(w, .read (some (wireBytes Fleet.helloFrame))), (w, .frame 0),
      (w, .read (some bad))]).handled = [Fleet.helloFrame] ∧
    (greetedClient [.read (.ok (wireBytes assignFrame)), .read (.ok bad)]).handled =
      [assignFrame] := by
  intro w bad
  have hbad : InvalidHeader bad := by decide +kernel
  constructor
  · have he : encodeFrames [Fleet.helloFrame] = .ok (wireBytes Fleet.helloFrame) := by
      decide +kernel
    refine ((bad_stream_handled_iff he hbad).1 Unit _ _
      [(w, .handshake (some (text "c"))), (w, .read (some (wireBytes Fleet.helloFrame))),
        (w, .frame 0)] [] w bad ?_ ?_ ?_ ?_).2.mpr ?_
    all_goals decide +kernel
  · have he : encodeFrames [assignFrame] = .ok (wireBytes assignFrame) := by decide +kernel
    refine ((bad_stream_handled_iff he hbad).2 (text "vpn") 1400 256 (2 ^ 20) _
      (fun _ => true)
      [.start true, .handshake none, .read (.ok (wireBytes assignFrame))] [] bad rfl
      ?_ ?_ ?_ ?_).2.mpr ?_
    all_goals decide +kernel

/-- Read together with it, the same frame is lost. -/
theorem bad_stream_dropped :
    let w : Shared Unit := { manager := LeaseManager.singleManager 1, outside := () }
    let bad : Bytes := List.replicate 20 0
    let s := greetedSession [(w, .read (some (wireBytes Fleet.helloFrame ++ bad)))]
    let t := greetedClient [.read (.ok (wireBytes assignFrame ++ bad))]
    encodeFrames [Fleet.helloFrame] = .ok (wireBytes Fleet.helloFrame) ∧
      encodeFrames [assignFrame] = .ok (wireBytes assignFrame) ∧ InvalidHeader bad ∧
      (s.stopped = true ∧ s.handled = [] ∧ s.handled ≠ [Fleet.helloFrame]) ∧
      (t.stopped = true ∧ t.handled = [] ∧ t.handled ≠ [assignFrame]) := by
  decide +kernel

end PersonalVpn
