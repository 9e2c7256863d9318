import CriDockerd.Core.Sandbox
import CriDockerd.Lib.Threads
import CriDockerd.Network.CniConfig

/-! The pods of the CNI plugin (`network/cni/cni.go`). Its calls read the default network and the pod CIDR, which change behind
    their back: the default network is looked up again every few seconds, and an event sets the CIDR. A step is one access to
    what the calls share, or one request to libcni; those of different calls come in any order. -/

namespace CriDockerd.Cni
open Text Store

/-! ### Requests -/

/-- `cniPortMapping`. -/
structure PortMapping where
  hostPort : Int
  containerPort : Int
  protocol : Text
  hostIP : Text
  deriving DecidableEq, Repr

/-- `cniBandwidthEntry`; zero is no limit. -/
structure BandwidthEntry where
  ingressRate : Int
  ingressBurst : Int
  egressRate : Int
  egressBurst : Int
  deriving DecidableEq, Repr

/-- `libcni.RuntimeConf`, with the capability arguments by their names. -/
structure RuntimeConf where
  containerID : Text
  netNS : Text
  ifName : Text
  cacheDir : Text
  args : List (Text × Text)
  portMappings : List PortMapping
  bandwidth : Option BandwidthEntry
  ipRanges : List (List Text)
  deriving DecidableEq, Repr

inductive Command where
  | add
  | del
  deriving DecidableEq, Repr

/-- A request to libcni. -/
structure Request where
  command : Command
  network : NetworkConfigList
  rt : RuntimeConf
  deriving DecidableEq

/-- How libcni answers a request. When there is an error the container may have been attached or detached nevertheless. -/
structure Answer where
  err : Option GoError
  done : Bool

/-- What the calls of the plugin share. `attached` has the containers and the networks that they are attached to. -/
structure State where
  plugin : CniNetworkPlugin
  podCidr : Text
  checkpoints : Dir Core.Blob
  attached : List (Text × NetworkConfigList)
  requests : List Request

/-- What libcni does with a request. -/
def State.request (s : State) (r : Request) (answer : Answer) : State :=
  { s with
    requests := s.requests ++ [r]
    attached :=
      if answer.err.isSome ∧ !answer.done then s.attached
      else match r.command with
        | .add => (r.rt.containerID, r.network) :: s.attached
        | .del => s.attached.filter (· ≠ (r.rt.containerID, r.network)) }

/-! ### The runtime configuration -/

def ipRangesCapability : Text := "ipRanges"

def defaultInterfaceName : Text := "eth0"

def minRsrc : Int := 1000

def maxRsrc : Int := 1000000000000000

def validateBandwidthIsReasonable (rsrc : Int) : Option GoError :=
  if rsrc < minRsrc then some (.text "resource is unreasonably small (< 1kbit)")
  else if rsrc > maxRsrc then some (.text "resource is unreasonably large (> 1Pbit)")
  else none

/-- One of the two annotations. `parseQuantity` gives the value of a quantity. -/
def extractBandwidth (parseQuantity : Text → Except GoError Int) (key : Text) (podAnnotations : Core.Labels) :
    Except GoError (Option Int) :=
  match podAnnotations.lookup key with
  | none => .ok none
  | some str =>
    match parseQuantity str with
    | .error err => .error err
    | .ok value =>
      match validateBandwidthIsReasonable value with
      | some err => .error err
      | none => .ok (some value)

def extractPodBandwidthResources (parseQuantity : Text → Except GoError Int) (podAnnotations : Core.Labels) :
    Except GoError (Option Int × Option Int) :=
  match extractBandwidth parseQuantity "kubernetes.io/ingress-bandwidth" podAnnotations with
  | .error err => .error err
  | .ok ingress =>
    match extractBandwidth parseQuantity "kubernetes.io/egress-bandwidth" podAnnotations with
    | .error err => .error err
    | .ok egress => .ok (ingress, egress)

def bandwidthParam : Option Int × Option Int → Option BandwidthEntry
  | (none, none) => none
  | (ingress, egress) =>
    some
      { ingressRate := ingress.getD 0
        ingressBurst := ingress.elim 0 fun _ => 2147483647
        egressRate := egress.getD 0
        egressBurst := egress.elim 0 fun _ => 2147483647 }

/-- The mappings with a host port, their protocols in lower case. -/
def portMappingsParam (portMappings : List Hostport.PortMapping) : List PortMapping :=
  (portMappings.filter fun p => 0 < p.hostPort).map fun p =>
    { hostPort := p.hostPort, containerPort := p.containerPort, protocol := toLower p.protocol, hostIP := p.hostIP }

/-- A pod as the calls of the plugin name it. -/
structure Pod where
  namespace_ : Text
  name : Text

/-- The plugin as it is made; `loNetwork` is there on Linux only. `spew` prints the data of a checkpoint for its checksum. -/
structure Settings where
  loNetwork : Option CniNetwork
  cacheDir : Text
  spew : Core.CheckpointData → List UInt8

/-- What `buildCNIRuntimeConf` meets, and the request that follows. -/
structure NetworkEnv where
  lookup : Core.CheckpointFaults
  parseQuantity : Text → Except GoError Int
  unmarshalDNS : Text → Option GoError
  answer : Answer

section
variable (settings : Settings)

def getDefaultNetwork : Thread State (Option CniNetwork) := .atom fun s => (s.plugin.defaultNetwork, s)

def getPodCidr : Thread State Text := .atom fun s => (s.podCidr, s)

/-- `GetPodPortMappings` of the host. -/
def getPodPortMappings (faults : Core.CheckpointFaults) (podSandboxID : Text) :
    Thread State (Outcome StoreError (List Hostport.PortMapping)) :=
  .atom fun s =>
    ((Core.getPodPortMappings settings.spew faults podSandboxID s.checkpoints).1,
      { s with checkpoints := (Core.getPodPortMappings settings.spew faults podSandboxID s.checkpoints).2 })

/-- On Linux there are no arguments for DNS, but the option has to be JSON. -/
def checkDNS (unmarshalDNS : Text → Option GoError) (options : Core.Labels) : Option GoError :=
  match options.lookup "dns".toList with
  | none => none
  | some dnsOptions =>
    (unmarshalDNS dnsOptions).map fun err =>
      .text ("failed to unmarshal dns config " ++ quote dnsOptions ++ ": " ++ err.error)

def runtimeConf (pod : Pod) (podSandboxID podNetnsPath podCidr : Text) (portMappings : List Hostport.PortMapping)
    (bandwidth : Option Int × Option Int) : RuntimeConf where
  containerID := podSandboxID
  netNS := podNetnsPath
  ifName := defaultInterfaceName
  cacheDir := settings.cacheDir
  args := [("IgnoreUnknown", "1"), ("K8S_POD_NAMESPACE", pod.namespace_),
    ("K8S_POD_NAME", pod.name), ("K8S_POD_INFRA_CONTAINER_ID", podSandboxID)]
  portMappings := portMappingsParam portMappings
  bandwidth := bandwidthParam bandwidth
  ipRanges := [[podCidr]]

def buildCNIRuntimeConf (env : NetworkEnv) (pod : Pod) (podSandboxID podNetnsPath : Text) (annotations options : Core.Labels) :
    Thread State (Outcome GoError RuntimeConf) := do
  match ← getPodPortMappings settings env.lookup podSandboxID with
  | .panic => pure .panic
  | .error err => pure (.error (.text ("could not retrieve port mappings: " ++ err.error)))
  | .ok portMappings =>
    match extractPodBandwidthResources env.parseQuantity annotations with
    | .error err => pure (.error (.text ("failed to get pod bandwidth from annotations: " ++ err.error)))
    | .ok bandwidth =>
      let podCidr ← getPodCidr
      match checkDNS env.unmarshalDNS options with
      | some err => pure (.error err)
      | none => pure (.ok (runtimeConf settings pod podSandboxID podNetnsPath podCidr portMappings bandwidth))

/-! ### The requests for one network -/

/-- Where the result of a request is an error, the type of the first plugin of the network is printed. -/
def requestNetwork (command : Command) (env : NetworkEnv) (ignored : GoError → Bool) (network : Option CniNetwork)
    (rt : RuntimeConf) : Thread State (Outcome GoError Unit) :=
  match network with
  | none => pure .panic
  | some network =>
    .atom fun s =>
      (match env.answer.err with
        | none => .ok ()
        | some err =>
          if ignored err then .ok () else if network.networkConfig.plugins = [] then .panic else .error err,
        s.request { command, network := network.networkConfig, rt } env.answer)

def addToNetwork (env : NetworkEnv) (network : Option CniNetwork) (pod : Pod) (podSandboxID podNetnsPath : Text)
    (annotations options : Core.Labels) : Thread State (Outcome GoError Unit) := do
  match ← buildCNIRuntimeConf settings env pod podSandboxID podNetnsPath annotations options with
  | .panic => pure .panic
  | .error err => pure (.error err)
  | .ok rt => requestNetwork .add env (fun _ => false) network rt

/-- The error of a network that was deleted before. -/
def noSuchFile (err : GoError) : Bool := contains err.error "no such file or directory"

def deleteFromNetwork (env : NetworkEnv) (network : Option CniNetwork) (pod : Pod) (podSandboxID podNetnsPath : Text)
    (annotations : Core.Labels) : Thread State (Outcome GoError Unit) := do
  match ← buildCNIRuntimeConf settings env pod podSandboxID podNetnsPath annotations [] with
  | .panic => pure .panic
  | .error err => pure (.error err)
  | .ok rt => requestNetwork .del env noSuchFile network rt

/-- The loopback network, if there is one. -/
def addToLoNetwork (env : NetworkEnv) (pod : Pod) (id netnsPath : Text) (annotations options : Core.Labels) :
    Thread State (Outcome GoError Unit) :=
  match settings.loNetwork with
  | none => pure (.ok ())
  | some loNetwork => addToNetwork settings env (some loNetwork) pod id netnsPath annotations options

def deleteFromLoNetwork (env : NetworkEnv) (pod : Pod) (id netnsPath : Text) : Thread State (Outcome GoError Unit) :=
  match settings.loNetwork with
  | none => pure (.ok ())
  | some loNetwork => deleteFromNetwork settings env (some loNetwork) pod id netnsPath []

/-! ### The calls -/

def checkInitialized : Thread State (Outcome GoError Unit) := do
  match ← getDefaultNetwork with
  | none => pure (.error (.text "cni config uninitialized"))
  | some _ =>
    match ← getDefaultNetwork with
    | none => pure .panic
    | some network =>
      if ipRangesCapability ∈ network.capabilities then do
        let podCidr ← getPodCidr
        pure (if podCidr = [] then .error (.text "cni config needs ipRanges but no PodCIDR set") else .ok ())
      else pure (.ok ())

/-- What a call for a pod meets. -/
structure PodEnv where
  getNetNS : Except GoError Text
  lo : NetworkEnv
  network : NetworkEnv

def setUpPod (env : PodEnv) (pod : Pod) (id : Text) (annotations options : Core.Labels) : Thread State (Outcome GoError Unit) := do
  match ← checkInitialized with
  | .panic => pure .panic
  | .error err => pure (.error err)
  | .ok () =>
    match env.getNetNS with
    | .error err => pure (.error (.text ("CNI failed to retrieve network namespace path: " ++ err.error)))
    | .ok netnsPath =>
      match ← addToLoNetwork settings env.lo pod id netnsPath annotations options with
      | .panic => pure .panic
      | .error err => pure (.error err)
      | .ok () =>
        let network ← getDefaultNetwork
        addToNetwork settings env.network network pod id netnsPath annotations options

/-- The path of the namespace, empty when it is not found. -/
def PodEnv.netnsPath (env : PodEnv) : Text :=
  match env.getNetNS with
  | .error _ => []
  | .ok path => path

/-- An error of the loopback network is only logged. -/
def tearDownPod (env : PodEnv) (pod : Pod) (id : Text) : Thread State (Outcome GoError Unit) := do
  match ← checkInitialized with
  | .panic => pure .panic
  | .error err => pure (.error err)
  | .ok () =>
    match ← deleteFromLoNetwork settings env.lo pod id env.netnsPath with
    | .panic => pure .panic
    | _ =>
      let network ← getDefaultNetwork
      deleteFromNetwork settings env.network network pod id env.netnsPath []

/-- A pod CIDR that is set is not changed any more. `podCIDR` is the detail of the event, if it is a text. -/
def event (isPodCIDRChange : Bool) (podCIDR : Option Text) : Thread State (Outcome GoError Unit) :=
  .atom fun s =>
    (.ok (), match isPodCIDRChange, podCIDR with
      | true, some podCIDR => if s.podCidr ≠ [] then s else { s with podCidr := podCIDR }
      | _, _ => s)

/-- A look at the directory of configs. -/
def sync (d : ConfDir) : Thread State (Outcome GoError Unit) :=
  .atom fun s => (.ok (), { s with plugin := syncNetworkConfig d s.plugin })

end

/-! ### Runs -/

/-- The calls for a sandbox. -/
inductive PodCall where
  | setUp (env : PodEnv) (pod : Pod) (annotations options : Core.Labels)
  | tearDown (env : PodEnv) (pod : Pod)

def PodCall.run (settings : Settings) (id : Text) : PodCall → Thread State (Outcome GoError Unit)
  | .setUp env pod annotations options => setUpPod settings env pod id annotations options
  | .tearDown env pod => tearDownPod settings env pod id

/-- The calls for one sandbox come one after the other (`PluginManager` sees to it); the outcome of the last one. -/
def podCalls (settings : Settings) (id : Text) (last : Outcome GoError Unit) : List PodCall → Thread State (Outcome GoError Unit)
  | [] => pure last
  | call :: rest => do
    match ← call.run settings id with
    | .panic => pure .panic
    | outcome => podCalls settings id outcome rest

/-- The calls that are for no pod. -/
inductive HostCall where
  | status
  | event (isPodCIDRChange : Bool) (podCIDR : Option Text)
  | sync (d : ConfDir)

def HostCall.run : HostCall → Thread State (Outcome GoError Unit)
  | .status => checkInitialized
  | .event isPodCIDRChange podCIDR => Cni.event isPodCIDRChange podCIDR
  | .sync d => Cni.sync d

/-- A goroutine: that of a sandbox, or one of the others. -/
inductive Actor where
  | pod (id : Text)
  | host (i : Nat)
  deriving DecidableEq

/-- All calls at once, in a given state. -/
def start (settings : Settings) (s : State) (pods : Text → List PodCall) (host : Nat → HostCall) :
    Thread.Pool State Actor (Outcome GoError Unit) where
  state := s
  threads
    | .pod id => podCalls settings id (.ok ()) (pods id)
    | .host i => (host i).run

end CriDockerd.Cni
