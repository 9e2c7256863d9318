import CriDockerd.Errors

/-! The streams of an exec or attach session (`streaming/remotecommand/httpstream.go`, `exec.go`). The client opens a stream for
    each direction that it asked for and one for errors. `waitForStreams` takes them from the connection, with a goroutine for
    each that waits until the stream's reply is on its way, and returns when as many replies as streams are expected have been
    sent, or when the time is up. A step is what the loop, one of the goroutines or the connection does; they make their steps
    in any order. -/

namespace CriDockerd.Streaming.RemoteCommand

/-! ### Protocols -/

/-- `Options`: the streams that are required. -/
structure Options where
  stdin : Bool
  stdout : Bool
  stderr : Bool
  tty : Bool
  deriving DecidableEq, Repr

/-- The protocol handlers. -/
inductive Handler where
  | v1
  | v2
  | v3
  | v4
  deriving DecidableEq, Repr

def Handler.supportsTerminalResizing : Handler → Bool
  | .v1 => false
  | .v2 => false
  | .v3 => true
  | .v4 => true

/-- The streams client asked for, starting with 1. -/
def expectedStreams (opts : Options) (h : Handler) : Nat :=
  1 + (if opts.stdin then 1 else 0) + (if opts.stdout then 1 else 0) + (if opts.stderr then 1 else 0) +
    if opts.tty && h.supportsTerminalResizing then 1 else 0

inductive StreamType where
  | error
  | stdin
  | stdout
  | stderr
  | resize
  deriving DecidableEq, Repr

/-- `httpstream.Stream`, with its stream type header. -/
structure Stream where
  identifier : Nat
  streamType : Text
  deriving DecidableEq, Repr

/-- The stream types that a handler knows. -/
def Handler.typeOf (h : Handler) (streamType : Text) : Option StreamType :=
  if streamType = "error" then some .error
  else if streamType = "stdin" then some .stdin
  else if streamType = "stdout" then some .stdout
  else if streamType = "stderr" then some .stderr
  else if h.supportsTerminalResizing ∧ streamType = "resize" then some .resize
  else none

/-! ### Contexts -/

/-- `context`: the streams of a session. `writeStatus` writes to the stream that it holds, in the format of its version. -/
structure Context where
  stdinStream : Option Stream := none
  stdoutStream : Option Stream := none
  stderrStream : Option Stream := none
  writeStatus : Option (Handler × Stream) := none
  resizeStream : Option Stream := none
  deriving DecidableEq, Repr

def Context.set (h : Handler) (ctx : Context) (stream : Stream) : StreamType → Context
  | .error => { ctx with writeStatus := some (h, stream) }
  | .stdin => { ctx with stdinStream := some stream }
  | .stdout => { ctx with stdoutStream := some stream }
  | .stderr => { ctx with stderrStream := some stream }
  | .resize => { ctx with resizeStream := some stream }

/-! ### Waiting -/

def errTimedOut : GoError := .text "timed out waiting for client to create streams"

/-- The loop and its goroutines. A goroutine waits for the reply of its stream, then it sends to the loop; it is done when it has
    sent, or when it was stopped before. Of the connection it is told which replies are sent. -/
structure System where
  ctx : Context := {}
  receivedStreams : Nat := 0
  waiting : List Stream := []
  notifying : List Stream := []
  notified : List Stream := []
  stopped : List Stream := []
  replySent : List Stream := []
  deferred : List Stream := []
  resets : List Stream := []
  closed : List Stream := []
  result : Option (Except GoError Context) := none

namespace System

/-- Deferred calls are made when the loop returns, the last one first; the first protocol resets its error streams there. -/
def finish (result : Except GoError Context) (sys : System) : System :=
  { sys with result := some result, resets := sys.resets ++ sys.deferred.reverse }

/-- A stream from the connection. -/
def receive (h : Handler) (stream : Stream) (sys : System) : System :=
  match h.typeOf stream.streamType with
  | none => sys
  | some t =>
    { sys with
      ctx := sys.ctx.set h stream t
      waiting := stream :: sys.waiting
      deferred := if h = .v1 ∧ t = .error then sys.deferred ++ [stream] else sys.deferred }

/-- The loop has all streams. With the first protocol stdin is closed. -/
def succeed (h : Handler) (sys : System) : System :=
  let closed := if h = .v1 then sys.closed ++ sys.ctx.stdinStream.toList else sys.closed
  finish (.ok sys.ctx) { sys with closed }

/-- The loop receives from the goroutine of a stream. -/
def receiveReply (h : Handler) (expected : Nat) (stream : Stream) (sys : System) : System :=
  let sys :=
    { sys with
      notifying := sys.notifying.erase stream
      notified := stream :: sys.notified
      receivedStreams := sys.receivedStreams + 1 }
  if sys.receivedStreams = expected then sys.succeed h else sys

end System

inductive Step where
  /-- the loop takes a stream from the connection -/
  | stream (s : Stream)
  /-- the connection has enqueued the reply to a stream -/
  | replySent (s : Stream)
  /-- the goroutine of a stream finds the reply sent -/
  | wake (s : Stream)
  /-- the goroutine of a stream finds the loop returned -/
  | stop (s : Stream)
  /-- the goroutine of a stream and the loop meet -/
  | reply (s : Stream)
  /-- the time is up -/
  | expired
  deriving DecidableEq, Repr

/-- A step that cannot be made changes nothing. -/
def Step.run (h : Handler) (expected : Nat) : Step → System → System
  | .stream s, sys => if sys.result = none then sys.receive h s else sys
  | .replySent s, sys => { sys with replySent := s :: sys.replySent }
  | .wake s, sys =>
    if s ∈ sys.waiting ∧ s ∈ sys.replySent then
      { sys with waiting := sys.waiting.erase s, notifying := s :: sys.notifying }
    else sys
  | .stop s, sys =>
    if s ∈ sys.waiting ∧ sys.result ≠ none then { sys with waiting := sys.waiting.erase s, stopped := s :: sys.stopped } else sys
  | .reply s, sys => if s ∈ sys.notifying ∧ sys.result = none then sys.receiveReply h expected s else sys
  | .expired, sys => if sys.result = none then sys.finish (.error errTimedOut) else sys

/-- `waitForStreams` of a handler, with the steps in the order in which they are made. -/
def waitForStreams (h : Handler) (expected : Nat) (steps : List Step) : System :=
  steps.foldl (fun sys step => step.run h expected sys) {}

/-! ### Serving -/

/-- How a command ended: it succeeded, it returned an exit code, or it was not run. -/
inductive ExecResult where
  | success
  | exited (rc : Int) (msg : Text)
  | failed (err : GoError)
  deriving DecidableEq

/-- `metav1.Status`, as far as it is set; of the details the causes, by type and message. -/
structure Status where
  failure : Bool
  message : Text := []
  reason : Text := []
  causes : List (Text × Text) := []
  deriving DecidableEq, Repr

/-- The status of a command. -/
def statusOf : ExecResult → Status
  | .success => { failure := false }
  | .exited rc msg =>
    { failure := true
      message := "command terminated with non-zero exit code: " ++ msg
      reason := "NonZeroExitCode"
      causes := [("ExitCode", Text.itoa rc)] }
  | .failed err =>
    let msg := "error executing command in container: " ++ err.error
    { failure := true
      message := "Internal error occurred: " ++ msg
      reason := "InternalError"
      causes := [([], msg)] }

/-- What is written to the error stream: a message, or a status as JSON. -/
inductive StatusWrite where
  | message (stream : Stream) (msg : Text)
  | json (stream : Stream) (status : Status)
  deriving DecidableEq

/-- The functions of `v1WriteStatusFunc` and `v4WriteStatusFunc`. -/
def writeStatus (h : Handler) (stream : Stream) (status : Status) : List StatusWrite :=
  if h = .v4 then [.json stream status]
  else if status.failure then [.message stream status.message]
  else []

/-- `ServeExec` for a session whose streams are there. Without a function for the status, to call it is a panic. -/
def serveExec (ctx : Context) (exec : Context → ExecResult) : Outcome GoError (List StatusWrite) :=
  match ctx.writeStatus with
  | none => .panic
  | some (h, stream) => .ok (writeStatus h stream (statusOf (exec ctx)))

end CriDockerd.Streaming.RemoteCommand
