import CriDockerd.Lib.Circbuf
import CriDockerd.Libdocker.Streams

/-! Container logs as the daemon keeps them (`core/logs.go`). -/

namespace CriDockerd.Core
open Libdocker (Source StreamOptions redirectResponseToOutputStream)

/-- `v1.PodLogOptions`. Times are in nanoseconds since the epoch. -/
structure PodLogOptions where
  follow : Bool := false
  sinceSeconds : Option Int64 := none
  sinceTime : Option Int := none
  timestamps : Bool := false
  tailLines : Option Int := none
  limitBytes : Option Int := none

/-- `container.LogsOptions`. -/
structure LogsOptions where
  showStdout : Bool
  showStderr : Bool
  since : Text
  timestamps : Bool
  follow : Bool
  tail : Text
  deriving DecidableEq

/-- What a request for logs meets: the answers of the daemon, of `docker inspect` whether the container has a terminal, and the
    time. -/
structure LogsEnv where
  now : Int
  inspectContainer : Text → Except GoError Bool
  containerLogs : Text → LogsOptions → Except GoError Source

/-- `time.Time.Unix`. -/
def unix (t : Int) : Int := t / 1000000000

def logsOptions (now : Int) (logOptions : PodLogOptions) : LogsOptions :=
  let since : Int :=
    match logOptions.sinceTime, logOptions.sinceSeconds with
    | some t, _ => unix t
    | none, some seconds => unix (now + (-seconds * 1000000000).toInt)
    | none, none => 0
  { showStdout := true
    showStderr := true
    since := Text.itoa since
    timestamps := logOptions.timestamps
    follow := logOptions.follow
    tail := match logOptions.tailLines with
      | some lines => Text.itoa lines
      | none => [] }

section
variable {σ : Type}

/-- `Logs` of the Docker client. -/
def logs (env : LogsEnv) (id : Text) (opts : LogsOptions) (sopts : StreamOptions σ) (s : σ) : Option (Option GoError × σ) :=
  match env.containerLogs id opts with
  | .error err => some (some err, s)
  | .ok resp => redirectResponseToOutputStream sopts.rawTerminal sopts.outputStream sopts.errorStream resp s

/-- A writer under a limit as an `io.Writer`; the limit is part of the state. -/
def SharedWriteLimiter.writer (w : SharedWriteLimiter σ) : Writer (Int × σ) := fun p s =>
  let r := w.write p s
  ((r.1.n, r.1.err), r.2)

/-- The error, and what the writers made of the output; `none` if it does not return. -/
def getContainerLogs (env : LogsEnv) (containerID : Text) (logOptions : PodLogOptions) (stdout stderr : Writer σ) (s : σ) :
    Option (Option GoError × σ) :=
  match env.inspectContainer containerID with
  | .error err => some (some err, s)
  | .ok tty =>
    let opts := logsOptions env.now logOptions
    match logOptions.limitBytes with
    | none => logs env containerID opts ⟨tty, some stdout, some stderr⟩ s
    | some max =>
      -- stdout and stderr share the total write limit
      let stderr := (sharedLimitWriter (some stderr)).map (·.writer)
      let stdout := (sharedLimitWriter (some stdout)).map (·.writer)
      (logs env containerID opts ⟨tty, stdout, stderr⟩ (max, s)).map fun r =>
        (if r.1 = some errMaximumWrite then none else r.1, r.2.2)

end

def maxContainerTerminationMessageLogLength : Nat := 1024 * 2

def maxContainerTerminationMessageLogLines : Int := 80

/-- A ring buffer as an `io.Writer`. -/
def circbufWriter : Writer (Circbuf.Buffer UInt8) := fun p b => ((p.length, none), b.write p)

/-- Both streams are written to one buffer. -/
def getContainerLogTail (env : LogsEnv) (containerID : Text) : Option (Except GoError (List UInt8)) :=
  let buf : Circbuf.Buffer UInt8 := .newBuffer 0 maxContainerTerminationMessageLogLength (by decide)
  let logOptions : PodLogOptions := { tailLines := some maxContainerTerminationMessageLogLines }
  (getContainerLogs env containerID logOptions circbufWriter circbufWriter buf).map fun r =>
    match r.1 with
    | some err => .error err
    | none => .ok r.2.bytes

end CriDockerd.Core
