import PersonalVpn.Protocol.FrameStream

namespace PersonalVpn.Core

open Protocol

/-- The encoded frames a transport still has to write, oldest first. -/
structure OutboundFrameQueue where
  maximumFrames : Nat
  maximumBytes : Nat
  queue : List Bytes := []
  queuedBytes : Nat := 0
  deriving DecidableEq, Repr

namespace OutboundFrameQueue

/-- The constructor. -/
def create (maximumFrames maximumBytes : Nat) : Except Exception OutboundFrameQueue :=
  if maximumFrames = 0 ∨ maximumBytes < kHeaderSize then
    .error (.invalidArgument (text "outbound queue limits must allow at least one frame header"))
  else .ok { maximumFrames, maximumBytes }

/-- `try_enqueue` of an encoded frame. -/
def tryEnqueueBuffer (q : OutboundFrameQueue) (encodedFrame : Bytes) :
    Except Exception Bool × OutboundFrameQueue :=
  if encodedFrame = [] then
    (.error (.invalidArgument (text "outbound queue cannot contain an empty encoded frame")), q)
  else if q.queue.length ≥ q.maximumFrames ∨
      encodedFrame.length > q.maximumBytes - q.queuedBytes then (.ok false, q)
  else
    (.ok true,
      { q with queuedBytes := q.queuedBytes + encodedFrame.length, queue := q.queue ++ [encodedFrame] })

/-- `try_enqueue` of a frame. A `ProtocolError` is a `std::runtime_error`. -/
def tryEnqueue (q : OutboundFrameQueue) (frame : Frame) :
    Except Exception Bool × OutboundFrameQueue :=
  match encodeFrame frame with
  | .error e => (.error (.runtimeError e.what), q)
  | .ok encoded => q.tryEnqueueBuffer encoded

def front (q : OutboundFrameQueue) : Except Exception Bytes :=
  match q.queue with
  | [] => .error (.logicError (text "outbound queue is empty"))
  | buffer :: _ => .ok buffer

def popFront (q : OutboundFrameQueue) : Except Exception OutboundFrameQueue :=
  match q.queue with
  | [] => .error (.logicError (text "outbound queue is empty"))
  | buffer :: rest => .ok { q with queue := rest, queuedBytes := q.queuedBytes - buffer.length }

def clear (q : OutboundFrameQueue) : OutboundFrameQueue := { q with queue := [], queuedBytes := 0 }

/-- What `tryEnqueue` can do. -/
inductive Enqueued (q : OutboundFrameQueue) (frame : Frame) :
    Except Exception Bool → OutboundFrameQueue → Prop where
  | malformed {e : Exception} (malformed : ¬WellFormed frame) : Enqueued q frame (.error e) q
  | refused (wellFormed : WellFormed frame) (full : q.maximumFrames ≤ q.queue.length ∨
      q.maximumBytes - q.queuedBytes < (wireBytes frame).length) : Enqueued q frame (.ok false) q
  | accepted (wellFormed : WellFormed frame) (frames : q.queue.length < q.maximumFrames)
      (bytes : (wireBytes frame).length ≤ q.maximumBytes - q.queuedBytes) :
      Enqueued q frame (.ok true)
        { q with
          queuedBytes := q.queuedBytes + (wireBytes frame).length
          queue := q.queue ++ [wireBytes frame] }

theorem tryEnqueue_enqueued (q : OutboundFrameQueue) (frame : Frame) :
    Enqueued q frame (q.tryEnqueue frame).1 (q.tryEnqueue frame).2 := by
  unfold tryEnqueue
  cases he : encodeFrame frame with
  | error e =>
    apply Enqueued.malformed
    intro hwf
    have hok := (encodeFrame_ok_iff frame _).mpr ⟨hwf, rfl⟩
    rw [he] at hok
    cases hok
  | ok encoded =>
    obtain ⟨hwf, hb⟩ := (encodeFrame_ok_iff frame encoded).mp he
    have hlen := length_wireBytes frame
    have hne : wireBytes frame ≠ [] := by
      intro hnil
      rw [hnil, List.length_nil, kHeaderSize] at hlen
      omega
    simp only [hb, tryEnqueueBuffer, if_neg hne]
    by_cases hfull : q.queue.length ≥ q.maximumFrames ∨
        (wireBytes frame).length > q.maximumBytes - q.queuedBytes
    · rw [if_pos hfull]
      exact .refused hwf hfull
    · rw [if_neg hfull]
      rw [not_or, not_le, not_lt] at hfull
      exact .accepted hwf hfull.1 hfull.2

theorem popFront_queue {q : OutboundFrameQueue} (hq : q.queue ≠ []) :
    ∃ q', q.popFront = .ok q' ∧ q'.queue = q.queue.tail := by
  obtain ⟨first, rest, hqueue⟩ := List.exists_cons_of_ne_nil hq
  refine ⟨_, by rw [popFront, hqueue], ?_⟩
  simp [hqueue]

end OutboundFrameQueue

end PersonalVpn.Core
