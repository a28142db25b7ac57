import PersonalVpn.Core.OutboundFrameQueue
import PersonalVpn.Lib.BoundedFifo
import PersonalVpn.Lib.Run

namespace PersonalVpn.Core

open Protocol

/-- What a call on a queue throws: an exception of the program's own, or `std::bad_alloc`. -/
inductive QueueException where
  | program (e : Exception)
  | badAlloc
  deriving DecidableEq, Repr

/-- The allocation that fails in a call, if one does: that of the encoded frame, or that of the buffer
in the queue. -/
inductive Shortage where
  | none
  | encoding
  | storing
  deriving DecidableEq, Repr

namespace OutboundFrameQueue

/-- `try_enqueue` of an encoded frame, whose bytes are counted before it is stored. -/
def tryEnqueueBufferIn (q : OutboundFrameQueue) (shortage : Shortage) (encodedFrame : Bytes) :
    Except QueueException Bool × OutboundFrameQueue :=
  if encodedFrame = [] then
    (.error (.program (.invalidArgument
      (text "outbound queue cannot contain an empty encoded frame"))), q)
  else if q.queue.length ≥ q.maximumFrames ∨
      encodedFrame.length > q.maximumBytes - q.queuedBytes then (.ok false, q)
  else
    let q := { q with queuedBytes := q.queuedBytes + encodedFrame.length }
    if shortage = .storing then (.error .badAlloc, q)
    else (.ok true, { q with queue := q.queue ++ [encodedFrame] })

/-- `try_enqueue` of a frame. -/
def tryEnqueueIn (q : OutboundFrameQueue) (shortage : Shortage) (frame : Frame) :
    Except QueueException Bool × OutboundFrameQueue :=
  match encodeFrame frame with
  | .error e => (.error (.program (.runtimeError e.what)), q)
  | .ok encoded =>
    if shortage = .encoding then (.error .badAlloc, q) else q.tryEnqueueBufferIn shortage encoded

/-- As long as there is memory, this is `tryEnqueueBuffer`. -/
theorem tryEnqueueBufferIn_none (q : OutboundFrameQueue) (encodedFrame : Bytes) :
    q.tryEnqueueBufferIn .none encodedFrame =
      ((q.tryEnqueueBuffer encodedFrame).1.mapError .program,
        (q.tryEnqueueBuffer encodedFrame).2) := by
  unfold tryEnqueueBufferIn tryEnqueueBuffer
  rw [if_neg (by decide : ¬Shortage.none = .storing)]
  split_ifs <;> rfl

theorem tryEnqueueIn_none (q : OutboundFrameQueue) (frame : Frame) :
    q.tryEnqueueIn .none frame =
      ((q.tryEnqueue frame).1.mapError .program, (q.tryEnqueue frame).2) := by
  unfold tryEnqueueIn tryEnqueue
  cases encodeFrame frame with
  | error e => rfl
  | ok encoded => exact q.tryEnqueueBufferIn_none encoded

def toFifo (q : OutboundFrameQueue) : BoundedFifo Bytes where
  maximumItems := q.maximumFrames
  maximumSize := q.maximumBytes
  items := q.queue
  counted := q.queuedBytes

/-- What `tryEnqueueBufferIn` can do. -/
inductive Tried (q : OutboundFrameQueue) (shortage : Shortage) (b : Bytes) :
    Except QueueException Bool → OutboundFrameQueue → Prop where
  | empty {e : Exception} (empty : b = []) : Tried q shortage b (.error (.program e)) q
  | refused (full : q.toFifo.Full b.length) : Tried q shortage b (.ok false) q
  | unstored (room : ¬q.toFifo.Full b.length) (storing : shortage = .storing) :
      Tried q shortage b (.error .badAlloc) { q with queuedBytes := q.queuedBytes + b.length }
  | stored (room : ¬q.toFifo.Full b.length) (storing : shortage ≠ .storing) :
      Tried q shortage b (.ok true)
        { q with queuedBytes := q.queuedBytes + b.length, queue := q.queue ++ [b] }

theorem tryEnqueueBufferIn_tried (q : OutboundFrameQueue) (shortage : Shortage) (b : Bytes) :
    Tried q shortage b (q.tryEnqueueBufferIn shortage b).1 (q.tryEnqueueBufferIn shortage b).2 := by
  unfold tryEnqueueBufferIn
  split_ifs with hempty hfull hstoring
  · exact .empty hempty
  · exact .refused hfull
  · exact .unstored hfull hstoring
  · exact .stored hfull hstoring

end OutboundFrameQueue

inductive QueueCall where
  | tryEnqueue (frame : Frame) (shortage : Shortage)
  | tryEnqueueBuffer (encodedFrame : Bytes) (shortage : Shortage)
  | front
  | popFront
  | clear
  deriving DecidableEq, Repr

inductive QueueAnswer where
  | enqueued (accepted : Bool)
  | front (buffer : Bytes)
  | done
  deriving DecidableEq, Repr

namespace QueueCall

/-- The buffer a call offers to the queue. -/
def offered : QueueCall → Option Bytes
  | .tryEnqueue frame _ => (encodeFrame frame).toOption
  | .tryEnqueueBuffer encodedFrame _ => some encodedFrame
  | _ => none

def shortage : QueueCall → Shortage
  | .tryEnqueue _ shortage => shortage
  | .tryEnqueueBuffer _ shortage => shortage
  | _ => .none

end QueueCall

/-- A queue with what has happened since it was last cleared: the buffers accepted, those popped from
the front, and those that were counted and could not be stored. -/
structure QueueHistory where
  queue : OutboundFrameQueue
  accepted : List Bytes := []
  popped : List Bytes := []
  unstored : List Bytes := []

namespace QueueHistory

/-- What a call returns, and the queue after it. -/
def answer (q : OutboundFrameQueue) :
    QueueCall → Except QueueException QueueAnswer × OutboundFrameQueue
  | .tryEnqueue frame shortage =>
    let (result, q) := q.tryEnqueueIn shortage frame
    (result.map .enqueued, q)
  | .tryEnqueueBuffer encodedFrame shortage =>
    let (result, q) := q.tryEnqueueBufferIn shortage encodedFrame
    (result.map .enqueued, q)
  | .front => (q.front.mapError .program |>.map .front, q)
  | .popFront =>
    match q.popFront with
    | .error e => (.error (.program e), q)
    | .ok q => (.ok .done, q)
  | .clear => (.ok .done, q.clear)

/-- The buffer that a call counts and cannot store. -/
def fails (q : OutboundFrameQueue) (call : QueueCall) : Option Bytes :=
  if (answer q call).1 = .error .badAlloc ∧ call.shortage = .storing then call.offered else none

/-- The buffer that a call enqueues. -/
def accepts (q : OutboundFrameQueue) (call : QueueCall) : Option Bytes :=
  if (answer q call).1 = .ok (.enqueued true) then call.offered else none

/-- The buffer that a call takes off the queue. -/
def pops (q : OutboundFrameQueue) : QueueCall → Option Bytes
  | .popFront => q.queue.head?
  | _ => none

def step (h : QueueHistory) (call : QueueCall) : QueueHistory :=
  let q := (answer h.queue call).2
  if call = .clear then { queue := q }
  else
    { queue := q
      accepted := h.accepted ++ (accepts h.queue call).toList
      popped := h.popped ++ (pops h.queue call).toList
      unstored := h.unstored ++ (fails h.queue call).toList }

/-- What a call can do. -/
inductive Called (q : OutboundFrameQueue) (call : QueueCall) :
    Except QueueException QueueAnswer → OutboundFrameQueue → Prop where
  | same {r : Except QueueException QueueAnswer} (keeps : call ≠ .clear) (pops : pops q call = none)
      (accepts : r ≠ .ok (.enqueued true))
      (fails : ¬(r = .error .badAlloc ∧ call.shortage = .storing)) : Called q call r q
  | unstored {b : Bytes} (offered : call.offered = some b) (room : ¬q.toFifo.Full b.length)
      (storing : call.shortage = .storing) :
      Called q call (.error .badAlloc) { q with queuedBytes := q.queuedBytes + b.length }
  | stored {b : Bytes} (offered : call.offered = some b) (room : ¬q.toFifo.Full b.length)
      (storing : call.shortage ≠ .storing) :
      Called q call (.ok (.enqueued true))
        { q with queuedBytes := q.queuedBytes + b.length, queue := q.queue ++ [b] }
  | popped {b : Bytes} {rest : List Bytes} (popFront : call = .popFront)
      (queue : q.queue = b :: rest) :
      Called q call (.ok .done) { q with queue := rest, queuedBytes := q.queuedBytes - b.length }
  | cleared (clear : call = .clear) : Called q call (.ok .done) q.clear

theorem called_of_tried {q q' : OutboundFrameQueue} {call : QueueCall} {b : Bytes}
    {r : Except QueueException Bool} (h : q.Tried call.shortage b r q')
    (hoffered : call.offered = some b) (hkeeps : call ≠ .clear) (hpops : pops q call = none) :
    Called q call (r.map .enqueued) q' := by
  cases h with
  | empty _ => exact .same hkeeps hpops (by simp [Except.map]) (by simp [Except.map])
  | refused _ => exact .same hkeeps hpops (by simp [Except.map]) (by simp [Except.map])
  | unstored room storing => exact .unstored hoffered room storing
  | stored room storing => exact .stored hoffered room storing

theorem answer_called (q : OutboundFrameQueue) (call : QueueCall) :
    Called q call (answer q call).1 (answer q call).2 := by
  cases call with
  | tryEnqueue frame shortage =>
    simp only [answer, OutboundFrameQueue.tryEnqueueIn]
    cases hencode : encodeFrame frame with
    | error e => exact .same (by simp) rfl (by simp [Except.map]) (by simp [Except.map])
    | ok encoded =>
      have hoffered : (QueueCall.tryEnqueue frame shortage).offered = some encoded := by
        simp [QueueCall.offered, hencode, Except.toOption]
      dsimp only
      split_ifs with hencoding
      · subst hencoding
        exact .same (by simp) rfl (by simp [Except.map]) (by simp [QueueCall.shortage])
      · exact called_of_tried (q.tryEnqueueBufferIn_tried shortage encoded) hoffered (by simp) rfl
  | tryEnqueueBuffer b shortage =>
    exact called_of_tried (q.tryEnqueueBufferIn_tried shortage b) rfl (by simp) rfl
  | front =>
    refine .same (by simp) rfl ?_ (by simp [QueueCall.shortage])
    simp only [answer]
    cases q.front with
    | error e => simp [Except.mapError, Except.map]
    | ok buffer => simp [Except.mapError, Except.map]
  | popFront =>
    simp only [answer, OutboundFrameQueue.popFront]
    cases hqueue : q.queue with
    | nil => exact .same (by simp) (by simp [pops, hqueue]) (by simp) (by simp)
    | cons b rest => exact .popped rfl hqueue
  | clear => exact .cleared rfl

theorem keeps_of_offered (q : OutboundFrameQueue) {call : QueueCall} {b : Bytes}
    (h : call.offered = some b) : call ≠ .clear ∧ pops q call = none := by
  cases call with
  | tryEnqueue frame shortage => exact ⟨by simp, rfl⟩
  | tryEnqueueBuffer encodedFrame shortage => exact ⟨by simp, rfl⟩
  | _ => simp [QueueCall.offered] at h

/-! ### Whole runs -/

/-- What holds of every history: the books are right, and the buffers leave in the order in which they
came. -/
structure Sound (maximumFrames maximumBytes : Nat) (h : QueueHistory) : Prop where
  maximumFrames : h.queue.maximumFrames = maximumFrames
  maximumBytes : h.queue.maximumBytes = maximumBytes
  accounts : h.queue.toFifo.Accounts List.length (BoundedFifo.total List.length h.unstored)
  fifo : h.accepted = h.popped ++ h.queue.queue

theorem Sound.step {maximumFrames maximumBytes : Nat} {h : QueueHistory}
    (hs : h.Sound maximumFrames maximumBytes) (call : QueueCall) :
    (h.step call).Sound maximumFrames maximumBytes := by
  obtain ⟨hframes, hbytes, haccounts, hfifo⟩ := hs
  have hcalled := answer_called h.queue call
  unfold QueueHistory.step
  generalize hr : (answer h.queue call).1 = r at hcalled
  generalize (answer h.queue call).2 = q' at hcalled ⊢
  cases hcalled with
  | same keeps hpops haccepts hfails =>
    simp only [if_neg keeps, accepts, fails, hr, if_neg haccepts, if_neg hfails, hpops,
      Option.toList_none, List.append_nil]
    exact ⟨hframes, hbytes, haccounts, hfifo⟩
  | @unstored b offered room storing =>
    obtain ⟨hkeeps, hpops⟩ := keeps_of_offered h.queue offered
    have hlost : BoundedFifo.total List.length (h.unstored ++ [b]) =
        BoundedFifo.total List.length h.unstored + b.length := by simp
    simp only [if_neg hkeeps, accepts, fails, hr, storing, hpops, offered, reduceCtorEq, if_false,
      and_self, if_true, Option.toList_none, Option.toList_some, List.append_nil]
    refine ⟨hframes, hbytes, ?_, hfifo⟩
    rw [hlost]
    exact haccounts.count room
  | @stored b offered room storing =>
    obtain ⟨hkeeps, hpops⟩ := keeps_of_offered h.queue offered
    simp only [if_neg hkeeps, accepts, fails, hr, hpops, offered, reduceCtorEq, false_and, if_false,
      if_true, Option.toList_none, Option.toList_some, List.append_nil]
    exact ⟨hframes, hbytes, haccounts.push room, by rw [hfifo, List.append_assoc]⟩
  | @popped b rest popFront queue =>
    subst popFront
    simp only [accepts, fails, hr, pops, queue, reduceCtorEq, false_and, if_false, Except.ok.injEq,
      List.head?_cons, Option.toList_none, Option.toList_some, List.append_nil]
    exact ⟨hframes, hbytes, haccounts.pop queue, by rw [hfifo, queue, List.append_cons]⟩
  | cleared clear =>
    simp only [if_pos clear]
    exact ⟨hframes, hbytes, BoundedFifo.accounts_clear h.queue.toFifo, rfl⟩

theorem sound_create {maximumFrames maximumBytes : Nat} {q : OutboundFrameQueue}
    (h : OutboundFrameQueue.create maximumFrames maximumBytes = .ok q) :
    Sound maximumFrames maximumBytes { queue := q } := by
  rw [OutboundFrameQueue.create, ite_error_eq_ok] at h
  obtain rfl := Except.ok.inj h.2
  exact ⟨rfl, rfl, ⟨rfl, Nat.zero_le _, Nat.zero_le _⟩, rfl⟩

end QueueHistory

end PersonalVpn.Core
