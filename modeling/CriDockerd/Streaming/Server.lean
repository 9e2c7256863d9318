import CriDockerd.Streaming.RequestCache

/-! The streaming server (`streaming/server.go`): requests to exec, to attach and to forward ports are put into
    the cache and answered with a URL that holds their token; an HTTP request with the token takes the cached
    request out and starts the streaming session. The three endpoints share one cache. -/

namespace CriDockerd.Streaming
open Text

/-! ### Requests and sessions -/

structure ExecRequest where
  containerId : Text
  cmd : List Text
  tty : Bool
  stdin : Bool
  stdout : Bool
  stderr : Bool
  deriving DecidableEq, Repr

structure AttachRequest where
  containerId : Text
  stdin : Bool
  tty : Bool
  stdout : Bool
  stderr : Bool
  deriving DecidableEq, Repr

structure PortForwardRequest where
  podSandboxId : Text
  port : List Int
  deriving DecidableEq, Repr

/-- What the cache holds; a handler asks for the type that it serves. -/
inductive Request where
  | exec (req : ExecRequest)
  | attach (req : AttachRequest)
  | portForward (req : PortForwardRequest)
  deriving DecidableEq, Repr

inductive Endpoint where
  | exec
  | attach
  | portForward
  deriving DecidableEq, Repr

/-- `remotecommand.Options`. -/
structure StreamOptions where
  stdin : Bool
  stdout : Bool
  stderr : Bool
  tty : Bool
  deriving DecidableEq, Repr

/-- A streaming session, with what `ServeExec`, `ServeAttach` and `ServePortForward` are called with. -/
inductive Session where
  | exec (containerId : Text) (cmd : List Text) (opts : StreamOptions)
  | attach (containerId : Text) (opts : StreamOptions)
  | portForward (podSandboxId : Text) (ports : List Int)
  deriving DecidableEq, Repr

/-! ### URLs for requests -/

def invalidArgument (msg : String) : GoError := statusError "InvalidArgument" msg

/-- The checks of exec and attach, which differ in the message for a request without streams. -/
def validateStreams (noStreams : String) (containerId : Text) (tty stdin stdout stderr : Bool) : Option GoError :=
  if containerId = [] then some (invalidArgument "missing required container_id")
  else if tty && stderr then some (invalidArgument "tty and stderr cannot both be true")
  else if !stdin && !stdout && !stderr then some (invalidArgument noStreams)
  else none

def validateExecRequest (req : ExecRequest) : Option GoError :=
  validateStreams "one of stdin, stdout, or stderr must be set" req.containerId req.tty req.stdin req.stdout req.stderr

def validateAttachRequest (req : AttachRequest) : Option GoError :=
  validateStreams "one of stdin, stdout, and stderr must be set" req.containerId req.tty req.stdin req.stdout req.stderr

/-- The path that is resolved against the base URL. -/
def buildURL (method token : Text) : Text := method ++ '/' :: token

/-- A cache of requests. -/
abbrev Cache := RequestCache Request

/-- What the insertion of a request meets: what the clock tells, and the draws for its token. -/
structure InsertEnv where
  gcTime : Nat
  now : Nat
  draws : Nat → Draw

/-- The answer to a request that has been checked: its URL, with the token that it holds. -/
def answer (method : Text) (req : Request) (env : InsertEnv) (cache : Cache) : Except GoError (Text × Text) × Cache :=
  match cache.insert req env.gcTime env.now env.draws with
  | (.error err, cache) => (.error err, cache)
  | (.ok token, cache) => (.ok (buildURL method token, token), cache)

def getExec (req : ExecRequest) (env : InsertEnv) (cache : Cache) : Except GoError (Text × Text) × Cache :=
  match validateExecRequest req with
  | some err => (.error err, cache)
  | none => answer "exec" (.exec req) env cache

def getAttach (req : AttachRequest) (env : InsertEnv) (cache : Cache) : Except GoError (Text × Text) × Cache :=
  match validateAttachRequest req with
  | some err => (.error err, cache)
  | none => answer "attach" (.attach req) env cache

def getPortForward (req : PortForwardRequest) (env : InsertEnv) (cache : Cache) : Except GoError (Text × Text) × Cache :=
  if req.podSandboxId = [] then (.error (invalidArgument "missing required pod_sandbox_id"), cache)
  else answer "portforward" (.portForward req) env cache

/-! ### HTTP requests -/

/-- The session that is started, or none for an answer of 404. The type of the request is looked at after it
    has been taken out of the cache. -/
def serveExec (token : Text) (now : Nat) (cache : Cache) : Option Session × Cache :=
  match cache.consume token now with
  | (some (.exec req), cache) => (some (.exec req.containerId req.cmd ⟨req.stdin, req.stdout, req.stderr, req.tty⟩), cache)
  | (_, cache) => (none, cache)

def serveAttach (token : Text) (now : Nat) (cache : Cache) : Option Session × Cache :=
  match cache.consume token now with
  | (some (.attach req), cache) => (some (.attach req.containerId ⟨req.stdin, req.stdout, req.stderr, req.tty⟩), cache)
  | (_, cache) => (none, cache)

/-- The options of a port forward are its ports, and are never refused. -/
def servePortForward (token : Text) (now : Nat) (cache : Cache) : Option Session × Cache :=
  match cache.consume token now with
  | (some (.portForward req), cache) => (some (.portForward req.podSandboxId req.port), cache)
  | (_, cache) => (none, cache)

/-! ### Calls -/

/-- What has happened to tokens, for stating properties of runs. -/
inductive Event where
  | issued (token : Text) (req : Request) (time : Nat)
  | session (endpoint : Endpoint) (token : Text) (session : Session) (time : Nat)
  deriving DecidableEq, Repr

def Event.token : Event → Text
  | .issued token _ _ => token
  | .session _ token _ _ => token

/-- The server's cache, the time that the clock has told last, and the history, newest first. -/
structure Server where
  cache : Cache
  now : Nat
  history : List Event

inductive Call where
  | getExec (req : ExecRequest) (env : InsertEnv)
  | getAttach (req : AttachRequest) (env : InsertEnv)
  | getPortForward (req : PortForwardRequest) (env : InsertEnv)
  | serve (endpoint : Endpoint) (token : Text) (now : Nat)

namespace Server

/-- A token that has been answered is issued. -/
def issue (req : Request) (env : InsertEnv) (result : Except GoError (Text × Text) × Cache) (s : Server) : Server :=
  { cache := result.2, now := env.now
    history := match result.1 with
      | .error _ => s.history
      | .ok (_, token) => .issued token req env.now :: s.history }

def serve (endpoint : Endpoint) (token : Text) (now : Nat) (result : Option Session × Cache) (s : Server) : Server :=
  { cache := result.2, now
    history := match result.1 with
      | none => s.history
      | some session => .session endpoint token session now :: s.history }

end Server

/-- The state after a call. The calls are taken in the order in which they get the lock of the cache. -/
def Call.run : Call → Server → Server
  | .getExec req env, s => s.issue (.exec req) env (Streaming.getExec req env s.cache)
  | .getAttach req env, s => s.issue (.attach req) env (Streaming.getAttach req env s.cache)
  | .getPortForward req env, s => s.issue (.portForward req) env (Streaming.getPortForward req env s.cache)
  | .serve .exec token now, s => s.serve .exec token now (serveExec token now s.cache)
  | .serve .attach token now, s => s.serve .attach token now (serveAttach token now s.cache)
  | .serve .portForward token now, s => s.serve .portForward token now (servePortForward token now s.cache)

end CriDockerd.Streaming
