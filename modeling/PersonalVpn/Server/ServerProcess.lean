import PersonalVpn.Server.Drain

namespace PersonalVpn.Server

open PersonalVpn.Core Protocol

/-- The signals that `run_server` waits for. -/
inductive Signal where
  | interrupt
  | terminate
  | hangup
  deriving DecidableEq, Repr

/-- A wait that is outstanding. Once it has fired its handler is queued with success, and a cancel
comes too late for it. -/
inductive ProcessWait (α : Type) where
  | waiting
  | fired (result : α)
  | aborted
  deriving DecidableEq, Repr

/-- `cancel` of the timer, or of the signals. -/
def ProcessWait.cancel {α : Type} : Option (ProcessWait α) → Option (ProcessWait α)
  | some .waiting => some .aborted
  | wait => wait

/-- What `run_server` has on its I/O context beside the operations of the server itself: the wait of
`schedule_metrics`, the wait for a signal, and the functions that `stop` and `reload_tls_context`
have posted. `rendered` has the metrics that were printed, with the count of active sessions, and
`reloaded` the answers of the reloads. -/
structure ServerProcess (ι : Type) where
  server : Admission ι
  metricsInterval : Nat
  metricsWait : Option (ProcessWait Unit)
  signalWait : Option (ProcessWait Signal) := some .waiting
  stops : Nat := 0
  reloads : Nat := 0
  rendered : List (ServerMetrics × Nat) := []
  reloaded : List Bool := []

/-- What happens in the process. `server` is a step of the server's strand or of a session; its
`stop` is the one that a failing device asks for. -/
inductive ProcessEvent (ι : Type) where
  | server (event : ServerEvent ι)
  | stopPosted
  | reloadPosted (valid : Bool)
  | metricsTimer
  | metricsHandler
  | signal (signal : Signal)
  | signalHandler

namespace ServerProcess

variable {ι : Type} [DecidableEq ι]

/-- The wait that `schedule_metrics` starts. -/
def scheduleMetrics (interval : Nat) : Option (ProcessWait Unit) :=
  if interval = 0 then none else some .waiting

/-- `run_server` before its workers run. -/
def start (manager : LeaseManager) (maximumSessions metricsInterval : Nat) : ServerProcess ι where
  server := Admission.start manager maximumSessions true
  metricsInterval
  metricsWait := scheduleMetrics metricsInterval

/-- A step of the server. When it runs the shutdown handler both waits are cancelled. -/
def serve (P : ServerProcess ι) (event : ServerEvent ι) : ServerProcess ι :=
  let server := P.server.step event
  if P.server.shutdowns < server.shutdowns then
    { P with
      server
      signalWait := ProcessWait.cancel P.signalWait
      metricsWait := ProcessWait.cancel P.metricsWait }
  else { P with server }

/-- The handler of `schedule_metrics`. The server outlives it. -/
def handleMetrics (P : ServerProcess ι) : ServerProcess ι :=
  match P.metricsWait with
  | some (.fired ()) =>
    let metrics := P.server.server.shared.metrics
    { P with
      rendered := P.rendered ++ [(metrics, P.server.server.activeSessionCount)]
      metricsWait := scheduleMetrics P.metricsInterval }
  | some .aborted => { P with metricsWait := none }
  | _ => P

/-- The handler of `wait_for_signal`. -/
def handleSignal (P : ServerProcess ι) : ServerProcess ι :=
  match P.signalWait with
  | some (.fired .hangup) => { P with reloads := P.reloads + 1, signalWait := some .waiting }
  | some (.fired _) => { P with stops := P.stops + 1, signalWait := none }
  | some .aborted => { P with signalWait := none }
  | _ => P

/-- The function that `reload_tls_context` posts, for files that are valid or not. -/
def reload (P : ServerProcess ι) (valid : Bool) : ServerProcess ι :=
  { P with
    reloads := P.reloads - 1
    reloaded := P.reloaded ++ [!P.server.server.stopping && valid] }

def step (P : ServerProcess ι) : ProcessEvent ι → ServerProcess ι
  | .server event => P.serve event
  | .stopPosted => if 0 < P.stops then { P with stops := P.stops - 1 }.serve .stop else P
  | .reloadPosted valid => if 0 < P.reloads then P.reload valid else P
  | .metricsTimer =>
    if P.metricsWait = some .waiting then { P with metricsWait := some (.fired ()) } else P
  | .metricsHandler => P.handleMetrics
  | .signal signal =>
    if P.signalWait = some .waiting then { P with signalWait := some (.fired signal) } else P
  | .signalHandler => P.handleSignal

/-- The I/O context has no work left, so that the workers return. -/
structure Idle (P : ServerProcess ι) : Prop where
  drained : P.server.Drained
  metricsWait : P.metricsWait = none
  signalWait : P.signalWait = none
  stops : P.stops = 0
  reloads : P.reloads = 0

/-- The handlers by which a session leaves, as events of the process. -/
def leaving (i : ι) : List (ServerProcess ι → ProcessEvent ι → Prop) :=
  (Admission.leaving i).map fun kind P e => ∃ event, e = .server event ∧ kind P.server event

end ServerProcess

end PersonalVpn.Server
