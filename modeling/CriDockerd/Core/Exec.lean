import CriDockerd.Core.Docker

/-! ExecSync (`core/container_exec.go`, with `streaming/streaming.go` and `core/exec.go`) and StopContainer
    (`core/container_stop.go`, with `libdocker/kube_docker_client.go`). Docker's answers come with the call. A deadline
    is told in nanoseconds from the start of the call. -/

namespace CriDockerd.Core.Exec
open Text

/-! ### Durations -/

/-- `time.Duration`: nanoseconds. -/
abbrev Duration := Int64

def second : Duration := 1000000000

/-- `int(d.Seconds())`, by way of a floating point number. A whole number of seconds is converted exactly. -/
structure Seconds where
  of : Duration → Int64
  whole : ∀ n : Int64, (n * second).toInt = n.toInt * 1000000000 → of (n * second) = n

/-- The deadline of `context.WithTimeout`, in a context that may have one of its own. -/
def withTimeout (ctx : Option Int) (timeout : Duration) : Option Int :=
  match ctx with
  | none => some timeout.toInt
  | some deadline => some (min deadline timeout.toInt)

/-! ### Errors -/

/-- An error of one of Docker's calls, or of a context; `context.DeadlineExceeded`, perhaps wrapped, is told from all
    others. -/
inductive DockerError where
  | deadlineExceeded (msg : Text)
  | other (err : GoError)
  deriving DecidableEq

def DockerError.error : DockerError → Text
  | .deadlineExceeded msg => msg
  | .other err => err.error

/-- `container.ExecInspect`. -/
structure ExecInspect where
  running : Bool
  exitCode : Int64
  deriving DecidableEq

inductive ExecError where
  | docker (err : DockerError)
  | dockerExitError (inspect : ExecInspect)
  deriving DecidableEq

/-- The codes of gRPC that the handlers set. -/
inductive Code where
  | deadlineExceeded
  | notFound
  deriving DecidableEq

inductive RpcError where
  | status (code : Code) (msg : Text)
  | docker (err : DockerError)
  deriving DecidableEq

/-! ### ExecSync -/

/-- How StartExec ends, or the context before it. -/
inductive Started where
  | expired (err : DockerError)
  | returned (err : Option DockerError)

/-- Docker's answers to the calls of an ExecSync: the ID of the container and whether it is running, then those of the
    exec. StartExec is called in a context with the given deadline, and has written the output when it returns.
    InspectExec is asked again and again. -/
structure ExecEnv where
  inspectContainer : Except DockerError (Text × Bool)
  createExec : Option DockerError
  startExec : Option Int → Started
  stdout : List UInt8
  stderr : List UInt8
  inspectExec : Nat → Except DockerError ExecInspect

/-- What has been seen of an exec: the deadline that it was started with, and what Docker has reported of it. -/
structure Trace where
  started : Option (Option Int) := none
  reported : List ExecInspect := []
  deriving DecidableEq

def maxRetries : Nat := 5

/-- The loop over InspectExec. Docker may not tell the latest state, so it is asked a few times. -/
def inspectLoop (inspectExec : Nat → Except DockerError ExecInspect) : (left calls : Nat) →
    Option ExecError × List ExecInspect
  -- The session has terminated, but the process is still running.
  | 0, _ => (none, [])
  | left + 1, calls =>
    match inspectExec calls with
    | .error err => (some (.docker err), [])
    | .ok inspect =>
      if !inspect.running then (if inspect.exitCode ≠ 0 then some (.dockerExitError inspect) else none, [inspect])
      else
        let (err, reported) := inspectLoop inspectExec left (calls + 1)
        (err, inspect :: reported)

/-- The context that StartExec is waited for in. -/
def execContext (ctx : Option Int) (timeout : Duration) : Option Int := if timeout > 0 then withTimeout ctx timeout else ctx

def execInContainer (env : ExecEnv) (ctx : Option Int) (timeout : Duration) : Option ExecError × Trace :=
  match env.createExec with
  | some err =>
    (some (.docker (.other (.text ("failed to exec in container - Exec setup failed - " ++ err.error)))), {})
  | none =>
    let ctx := execContext ctx timeout
    match env.startExec ctx with
    | .expired err => (some (.docker err), { started := some ctx })
    | .returned (some err) => (some (.docker err), { started := some ctx })
    | .returned none =>
      let (err, reported) := inspectLoop env.inspectExec maxRetries 0
      (err, { started := some ctx, reported })

def execWithContext (env : ExecEnv) (ctx : Option Int) (timeout : Duration) : Option ExecError × Trace :=
  match env.inspectContainer with
  | .error err => (some (.docker err), {})
  | .ok (id, running) =>
    if !running then (some (.docker (.other (.text ("container not running (" ++ id ++ ")")))), {})
    else execInContainer env ctx timeout

structure ExecSyncRequest where
  containerId : Text
  timeout : Int64

structure ExecSyncResponse where
  stdout : List UInt8
  stderr : List UInt8
  exitCode : Int32
  deriving DecidableEq

/-- The response for what an exec has returned; without an error the exit code is 0. -/
def execResponse (env : ExecEnv) : Option ExecError → Except RpcError ExecSyncResponse
  | some (.docker (.deadlineExceeded msg)) => .error (.status .deadlineExceeded msg)
  | some (.docker err) => .error (.docker err)
  | some (.dockerExitError inspect) => .ok ⟨env.stdout, env.stderr, inspect.exitCode.toInt32⟩
  | none => .ok ⟨env.stdout, env.stderr, 0⟩

def execSync (env : ExecEnv) (ctx : Option Int) (req : ExecSyncRequest) : Except RpcError ExecSyncResponse × Trace :=
  let timeout := req.timeout * second
  let (err, trace) := execWithContext env ctx timeout
  (execResponse env err, trace)

/-! ### StopContainer -/

/-- A `kubeDockerClient`, with the timeout of its requests. -/
structure Client where
  timeout : Duration
  seconds : Seconds

/-- What Docker is asked for: the grace period is in seconds. -/
structure StopCall where
  id : Text
  timeout : Int64
  deadline : Int
  deriving DecidableEq

/-- The larger of the two. -/
def Client.getCustomTimeout (d : Client) (timeout : Duration) : Duration := if d.timeout > timeout then d.timeout else timeout

def Client.stopContainer (d : Client) (id : Text) (timeout : Duration) : StopCall where
  id
  timeout := d.seconds.of timeout
  deadline := (d.getCustomTimeout timeout).toInt

structure StopContainerRequest where
  containerId : Text
  timeout : Int64

/-- The result, and what Docker was asked for. -/
def stopContainer (d : Client) (answer : Option DockerError) (r : StopContainerRequest) : Except RpcError Unit × StopCall :=
  let call := d.stopContainer r.containerId (r.timeout * second)
  match answer with
  | none => (.ok (), call)
  | some err =>
    if isContainerNotFoundError (.text err.error) then (.error (.status .notFound err.error), call)
    else (.error (.docker err), call)

end CriDockerd.Core.Exec
