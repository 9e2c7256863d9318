import CriDockerd.Core.Sandbox

/-! PodSandboxStatus (`core/sandbox_status.go`) on Linux: the addresses of a sandbox come from the network
    plugin, else from Docker. A sandbox in the host's network has none to report, nor has one whose network is
    known not to be ready. Labels, annotations and the runtime handler are left out. -/

namespace CriDockerd.Core
open Text

/-- The addresses of `docker inspect`. -/
structure NetworkSettings where
  ipAddress : Text
  globalIPv6Address : Text
  deriving DecidableEq, Repr

/-- `network.PodNetworkStatus`, with addresses by their texts. -/
structure PodNetworkStatus where
  ip : Text
  ips : List Text
  deriving DecidableEq, Repr

/-- What a PodSandboxStatus call meets: of `docker inspect` the timestamps, the state and the network settings,
    and the plugin's answer. -/
structure StatusEnv where
  inspectContainer : Option GoError
  createdAt : Except GoError Int
  running : Bool
  networkSettings : Option NetworkSettings
  getPodNetworkStatus : Except GoError (Option PodNetworkStatus)
  deriving DecidableEq

structure PodSandboxStatus where
  id : Text
  state : PodSandboxState
  createdAt : Int
  metadata : PodSandboxMetadata
  ip : Text
  additionalIps : List Text
  network : NamespaceMode
  deriving DecidableEq

section
variable (ds : DockerService)

def getIPsFromPlugin (env : StatusEnv) (sandbox : Container) : Except GoError (List Text) :=
  match parseSandboxName sandbox.name with
  | .error err => .error err
  | .ok metadata =>
    match env.getPodNetworkStatus with
    | .error err =>
      .error (.text ("networkPlugin " ++ ds.pluginName ++ " failed on the status hook for pod " ++
        quote (metadata.name ++ '_' :: metadata.namespace_) ++ ": " ++ err.error))
    | .ok none =>
      .error (.text ("Couldn't find network status for " ++ metadata.namespace_ ++ '/' :: metadata.name ++
        " through plugin: invalid network status for"))
    -- Without a list the plugin uses the classic primary IP only.
    | .ok (some networkStatus) => .ok (if networkStatus.ips = [] then [networkStatus.ip] else networkStatus.ips)

def getIPs (env : StatusEnv) (podSandboxID : Text) (sandbox : Container) (s : State) : List Text :=
  match env.networkSettings with
  | none => []
  | some networkSettings =>
    if networkNamespaceMode sandbox = .node then []
    -- Don't bother getting IP if the pod is known and networking isn't ready
    else if s.networkReady podSandboxID = some false then []
    else match getIPsFromPlugin ds env sandbox with
      | .ok ips => ips
      | .error _ =>
        (if networkSettings.ipAddress ≠ [] then [networkSettings.ipAddress] else []) ++
        (if networkSettings.globalIPv6Address ≠ [] then [networkSettings.globalIPv6Address] else [])

/-- The first address is the IP of the sandbox, the others are additional. -/
def podSandboxStatus (env : StatusEnv) (podSandboxID : Text) (s : State) : Except GoError PodSandboxStatus :=
  match getPodSandboxDetails env.inspectContainer podSandboxID s with
  | .error err => .error err
  | .ok (r, metadata) =>
    match env.createdAt with
    | .error err =>
      .error (.text ("failed to parse timestamp for container " ++ quote podSandboxID ++ ": " ++ err.error))
    | .ok createdAt =>
      let ips := getIPs ds env podSandboxID r s
      .ok { id := podSandboxID, state := if env.running then .ready else .notReady, createdAt, metadata,
            ip := ips.headD [], additionalIps := ips.tail, network := networkNamespaceMode r }

end

end CriDockerd.Core
