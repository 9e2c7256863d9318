import CriDockerd.Core.Exec
import CriDockerd.Libdocker.Streams

/-! The goroutines of an exec (`ExecInContainer` of `core/exec.go`, with `StartExec` and `holdHijackedConnection` of
    `libdocker/kube_docker_client.go`) from the moment when Docker has created it. They meet at unbuffered
    channels; a step that is not ready changes nothing. -/

namespace CriDockerd.Core.ExecSession
open Text Libdocker Exec

structure TerminalSize where
  width : UInt16
  height : UInt16
  deriving DecidableEq, Repr

/-- ExecInContainer itself: it waits for the context or for StartExec, then asks Docker for the exit code. -/
inductive Main where
  | selecting
  | inspecting
  | returned (err : Option ExecError)
  deriving DecidableEq

/-- The goroutine that waits until the exec has started, or until ExecInContainer has returned, and then forwards sizes
    of the terminal. -/
inductive Resizer where
  | waiting
  | forwarding
  | ended
  deriving DecidableEq

/-- StartExec: it waits for Docker, then for the resizer, then in `holdHijackedConnection` for the first of the output and
    the input to end, and at last for the output. Its result goes into a channel that has room for it. -/
inductive StartExec where
  | attaching
  | sending
  | holding
  | receiving
  | returned (err : Option DockerError)
  deriving DecidableEq

/-- The goroutine that copies the output. -/
inductive Output where
  | idle
  | copying
  | sending (err : Option GoError)
  | received (err : Option GoError)
  deriving DecidableEq

/-- The goroutine that copies the input. -/
inductive Input where
  | idle
  | copying
  | closed
  deriving DecidableEq

/-- What an exec is called with, and what Docker sends: the output, and its answers to InspectExec. -/
structure Request (σ : Type) where
  tty : Bool
  stdout : Option (Writer σ)
  stderr : Option (Writer σ)
  resp : Source
  inspectExec : Nat → Except DockerError ExecInspect

def Request.hasOutput {σ : Type} (r : Request σ) : Bool := r.stdout.isSome || r.stderr.isSome

/-- The goroutines, with what has been written and the sizes that Docker has been asked for. `attached` tells that Docker
    has started the exec. -/
structure State (σ : Type) where
  main : Main := .selecting
  resizer : Resizer := .waiting
  startExec : StartExec := .attaching
  output : Output := .idle
  input : Input := .idle
  attached : Bool := false
  written : σ
  resizes : List TerminalSize := []

inductive Step where
  /-- Docker answers ContainerExecAttach. -/
  | attach (err : Option DockerError)
  /-- `execStarted` passes from StartExec to the resizer. -/
  | execStarted
  /-- The resizer finds `done` closed. -/
  | done
  | resize (size : TerminalSize)
  /-- The output has come to its end. -/
  | copied
  /-- The input has come to its end, or there is none. -/
  | stdinClosed
  /-- `receiveStdout` passes from the output to StartExec. -/
  | receiveStdout
  /-- StartExec finds `stdinDone` closed. -/
  | stdinDone
  /-- ExecInContainer finds the context done. -/
  | ctxDone (err : DockerError)
  /-- ExecInContainer takes the result of StartExec. -/
  | execErr
  /-- The loop over InspectExec is over. -/
  | inspected
  deriving DecidableEq

section
variable {σ : Type} (r : Request σ)

def attach (err : Option DockerError) (s : State σ) : State σ :=
  match s.startExec, err with
  | .attaching, some err => { s with startExec := .returned (some err) }
  | .attaching, none => { s with startExec := .sending, attached := true }
  | _, _ => s

/-- From here on the connection is held. -/
def execStarted (s : State σ) : State σ :=
  if s.startExec = .sending ∧ s.resizer = .waiting then
    { s with startExec := .holding, resizer := .forwarding, input := .copying,
             output := if r.hasOutput then .copying else .idle }
  else s

def done (s : State σ) : State σ :=
  match s.main, s.resizer with
  | .returned _, .waiting => { s with resizer := .ended }
  | _, _ => s

/-- `handleResizing`: a size without an extent is passed over. -/
def resize (size : TerminalSize) (s : State σ) : State σ :=
  if s.resizer ≠ .forwarding ∨ size.height < 1 ∨ size.width < 1 then s
  else { s with resizes := s.resizes ++ [size] }

def copied (s : State σ) : State σ :=
  match s.output, redirectResponseToOutputStream r.tty r.stdout r.stderr r.resp s.written with
  | .copying, some (err, written) => { s with output := .sending err, written }
  | _, _ => s

def stdinClosed (s : State σ) : State σ := if s.input = .copying then { s with input := .closed } else s

def receiveStdout (s : State σ) : State σ :=
  match s.output with
  | .sending err =>
    if s.startExec = .holding ∨ s.startExec = .receiving then
      { s with output := .received err, startExec := .returned (err.map .other) }
    else s
  | _ => s

/-- Without an output to wait for StartExec is over when the input is. -/
def stdinDone (s : State σ) : State σ :=
  if s.startExec = .holding ∧ s.input = .closed then
    { s with startExec := if r.hasOutput then .receiving else .returned none }
  else s

def ctxDone (err : DockerError) (s : State σ) : State σ :=
  if s.main = .selecting then { s with main := .returned (some (.docker err)) } else s

def execErr (s : State σ) : State σ :=
  match s.main, s.startExec with
  | .selecting, .returned (some err) => { s with main := .returned (some (.docker err)) }
  | .selecting, .returned none => { s with main := .inspecting }
  | _, _ => s

def inspected (s : State σ) : State σ :=
  if s.main = .inspecting then { s with main := .returned (inspectLoop r.inspectExec maxRetries 0).1 } else s

def Step.run : Step → State σ → State σ
  | .attach err => ExecSession.attach err
  | .execStarted => ExecSession.execStarted r
  | .done => ExecSession.done
  | .resize size => ExecSession.resize size
  | .copied => ExecSession.copied r
  | .stdinClosed => ExecSession.stdinClosed
  | .receiveStdout => ExecSession.receiveStdout
  | .stdinDone => ExecSession.stdinDone r
  | .ctxDone err => ExecSession.ctxDone err
  | .execErr => ExecSession.execErr
  | .inspected => ExecSession.inspected r

def run (steps : List Step) (s : State σ) : State σ := steps.foldl (fun s step => step.run r s) s

end

end CriDockerd.Core.ExecSession
