import CriDockerd.Errors

/-! Pulling an image (`libdocker/kube_docker_client.go`). The daemon answers with messages about the progress, which `PullImage`
    reads; meanwhile a goroutine, the reporter, looks at the newest of them from time to time, and cancels the pull if it is too
    old. What the two do happens in any order, each at its time. -/

namespace CriDockerd.Libdocker

/-- `jsonmessage.JSONMessage`, as far as it is looked at. -/
structure JSONMessage where
  status : Text
  error : Option GoError := none
  deriving DecidableEq

inductive Reporter where
  | running
  | canceled
  | stopped
  /-- a panic, which ends the process -/
  | crashed
  deriving DecidableEq, Repr

/-- A pull: the newest message and its time, what the reporter knows, and what `PullImage` returned. -/
structure Pull where
  message : Option JSONMessage := none
  timestamp : Int
  downloaded : Bool := false
  reporter : Reporter := .running
  result : Option (Option GoError) := none
  deriving DecidableEq

inductive PullEvent where
  /-- a message of the daemon is read -/
  | message (msg : JSONMessage)
  /-- the answer ends -/
  | eof
  /-- the answer cannot be read further -/
  | failed (err : GoError)
  /-- the reporter's ticker -/
  | tick
  /-- the reporter is told to stop -/
  | stop
  deriving DecidableEq

namespace Pull

/-- The status of an image that is downloaded. -/
def extracting : Text := "Extracting"

/-- `newProgressReporter`: until there is a message, its time is that of the start. -/
def start (now : Int) : Pull := { timestamp := now }

/-- The loop of `PullImage`. -/
def receive (now : Int) (msg : JSONMessage) (p : Pull) : Pull :=
  match msg.error with
  | some err => { p with result := some (some err) }
  | none => { p with message := some msg, timestamp := now }

/-- The reporter at a tick. Before the first message there is none to look at. -/
def report (deadline now : Int) (p : Pull) : Pull :=
  match p.message with
  | none => { p with reporter := .crashed }
  | some msg =>
    let downloaded := p.downloaded || decide (msg.status = extracting)
    if !downloaded ∧ deadline < now - p.timestamp then { p with downloaded, reporter := .canceled } else { p with downloaded }

/-- An event at its time. `PullImage` does nothing after it has returned, and the reporter can be stopped then. -/
def step (deadline : Int) (p : Pull) (e : Int × PullEvent) : Pull :=
  if p.reporter = .crashed then p
  else
    match e.2 with
    | .message msg => if p.result = none then p.receive e.1 msg else p
    | .eof => if p.result = none then { p with result := some none } else p
    | .failed err => if p.result = none then { p with result := some (some err) } else p
    | .tick => if p.reporter = .running then p.report deadline e.1 else p
    | .stop => if p.reporter = .running ∧ p.result ≠ none then { p with reporter := .stopped } else p

def run (deadline : Int) (events : List (Int × PullEvent)) (p : Pull) : Pull := events.foldl (step deadline) p

end Pull

end CriDockerd.Libdocker
