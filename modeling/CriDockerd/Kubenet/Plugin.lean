import CriDockerd.Lib.Reachable
import CriDockerd.Hostport.Basic

/-! The kubenet plugin (`network/kubenet/kubenet_linux.go`): the addresses of pods that it remembers, and the
    set up and tear down of a pod. CNI, the hostport managers and the lookup of port mappings answer with
    what comes with the call. -/

namespace CriDockerd.Kubenet
open Text NetIP Hostport

/-- A hostport that is installed: the pod, the family of the manager, and the mapping. -/
structure Installed where
  id : Text
  v6 : Bool
  mapping : PortMapping
  deriving DecidableEq, Repr

/-- `podIPs`, a set of addresses for each pod, with the hostports that the managers have installed. -/
structure State where
  podIPs : Text → Option (List Text)
  hostports : List Installed

/-- The plugin after its start: it remembers no addresses, and hostports may be there from before. -/
def State.initial (hostports : List Installed) : State := { podIPs := fun _ => none, hostports }

/-- An order in which a set is listed. -/
structure Listing where
  list : List Text → List Text
  perm : ∀ ips, (list ips).Perm ips

namespace State

def addPodIP (id ip : Text) (s : State) : State :=
  let ips := (s.podIPs id).getD []
  { s with podIPs := Function.update s.podIPs id (some (if ip ∈ ips then ips else ip :: ips)) }

/-- Forgets an address, and the pod with its last one. -/
def removePodIP (id ip : Text) (s : State) : State :=
  match s.podIPs id with
  | none => s
  | some ips =>
    let ips := ips.filter (· ≠ ip)
    { s with podIPs := Function.update s.podIPs id (if ips = [] then none else some ips) }

def getCachedPodIPs (order : Listing) (id : Text) (s : State) : Option (List Text) := (s.podIPs id).map order.list

/-- `Add` of a hostport manager that succeeds. -/
def install (id : Text) (v6 : Bool) (mappings : List PortMapping) (s : State) : State :=
  { s with hostports := s.hostports ++ mappings.map (⟨id, v6, ·⟩) }

/-- `Remove` of a hostport manager that succeeds. -/
def uninstall (id : Text) (v6 : Bool) (mappings : List PortMapping) (s : State) : State :=
  { s with hostports := s.hostports.filter fun x => !(x.id = id ∧ x.v6 = v6 ∧ x.mapping ∈ mappings) }

end State

/-- The pod as it is handed to a hostport manager. -/
def podPortMapping (namespace_ name : Text) (portMappings : List PortMapping) (ip : IP) : PodPortMapping :=
  { namespace_, name, portMappings, hostNetwork := false, ip }

/-! ### Tear down -/

/-- What a tear down meets: the errors of CNI DEL for the two interfaces, the answer to the lookup of port
    mappings, and the errors of `Remove` at the addresses of the pod. -/
structure TearDownEnv where
  delLoopback : Option GoError
  delInterface : Option GoError
  order : Listing
  getPodPortMappings : Except GoError (List PortMapping)
  remove : Text → Option GoError

/-- A network that is gone already is no error. -/
def delContainerFromNetwork (delNetwork : Option GoError) : Option GoError :=
  match delNetwork with
  | none => none
  | some err =>
    if contains err.error "no such file or directory" then none
    else some (.text ("error removing container from network: " ++ err.error))

/-- `Remove` of the manager for the family of an address. -/
def removeHostports (env : TearDownEnv) (namespace_ name id : Text) (portMappings : List PortMapping) (ip : Text) (s : State) :
    Option GoError × State :=
  if portMappings = [] then (none, s)
  else match env.remove ip with
    | some err => (some err, s)
    | none =>
      let v6 := isIPv6String ip
      (none, s.uninstall id v6 (gatherHostportMappings (podPortMapping namespace_ name portMappings []) v6))

/-- The loop over the addresses of the pod. Each is forgotten, also when its hostports are not removed. -/
def tearDownIPs (env : TearDownEnv) (namespace_ name id : Text) (portMappings : List PortMapping) :
    List Text → List (Option GoError) → State → List (Option GoError) × State
  | [], errList, s => (errList, s)
  | ip :: rest, errList, s =>
    let (err, s) := removeHostports env namespace_ name id portMappings ip s
    tearDownIPs env namespace_ name id portMappings rest (errList ++ [err]) (s.removePodIP id ip)

def teardown (env : TearDownEnv) (namespace_ name id : Text) (s : State) : Option GoError × State :=
  let errList := [delContainerFromNetwork env.delLoopback, delContainerFromNetwork env.delInterface]
  match s.getCachedPodIPs env.order id with
  -- Without an address there is nothing more to do, and the errors so far are left behind.
  | none => (none, s)
  | some [] => (none, s)
  | some iplist =>
    match env.getPodPortMappings with
    | .error err =>
      let (errList, s) := tearDownIPs env namespace_ name id [] iplist (errList ++ [some err]) s
      (newAggregate errList, s)
    | .ok portMappings =>
      let (errList, s) := tearDownIPs env namespace_ name id portMappings iplist errList s
      (newAggregate errList, s)

/-- `netConfig` tells whether the plugin has its network config. -/
def tearDownPod (netConfig : Bool) (env : TearDownEnv) (namespace_ name id : Text) (s : State) : Option GoError × State :=
  if !netConfig then (some (.text "kubenet needs a PodCIDR to tear down pods"), s)
  else teardown env namespace_ name id s

/-! ### Set up -/

/-- What a set up meets: the plugin's own status, CNI ADD for the two interfaces with the addresses that it
    reports, the bridge, the shaper, the lookup of port mappings, the errors of `Add` at the addresses of
    the pod, and the tear down that follows a failure. -/
structure SetUpEnv where
  status : Option GoError
  addLoopback : Option GoError
  addInterface : Option GoError
  getResult : Except GoError (Option IP × Option IP)
  setPromiscuous : Option GoError
  addTrafficShaping : Option GoError
  order : Listing
  getPodPortMappings : Except GoError (List PortMapping)
  add : Text → Option GoError
  cleanup : TearDownEnv

def addContainerToNetwork (addNetwork : Option GoError) : Option GoError :=
  addNetwork.map fun err => .text ("error adding container to network: " ++ err.error)

/-- `Add` of the manager for the family of an address; a text that is no address is refused. -/
def addHostports (env : SetUpEnv) (namespace_ name id : Text) (portMappings : List PortMapping) (ip : Text) (s : State) :
    Option GoError × State :=
  match parseIP ip with
  | none => (some (.text ("invalid or missing IP of pod " ++
      getPodFullName (podPortMapping namespace_ name portMappings []))), s)
  | some addr =>
    match env.add ip with
    | some err => (some err, s)
    | none =>
      (none, s.install id (isIPv6 addr) (gatherHostportMappings (podPortMapping namespace_ name portMappings addr) (isIPv6 addr)))

/-- The loop over the addresses of the pod; the first error ends it. -/
def addAll (env : SetUpEnv) (namespace_ name id : Text) (portMappings : List PortMapping) : List Text → State →
    Option GoError × State
  | [], s => (none, s)
  | ip :: rest, s =>
    match addHostports env namespace_ name id portMappings ip s with
    | (some err, s) => (some err, s)
    | (none, s) => addAll env namespace_ name id portMappings rest s

def addPortMapping (env : SetUpEnv) (namespace_ name id : Text) (s : State) : Option GoError × State :=
  match env.getPodPortMappings with
  | .error err => (some err, s)
  | .ok portMappings =>
    if portMappings = [] then (none, s)
    else match s.getCachedPodIPs env.order id with
      | none => (some (.text ("pod \x7bdocker " ++ id ++ "\x7d does not have recorded ips")), s)
      | some iplist => addAll env namespace_ name id portMappings iplist s

/-- Remembers the reported addresses. -/
def cacheIPs (id : Text) (ipv4 ipv6 : Option IP) (s : State) : State :=
  let s := match ipv4 with
    | some ip => s.addPodIP id (ipString ip)
    | none => s
  match ipv6 with
  | some ip => s.addPodIP id (ipString ip)
  | none => s

def setup (env : SetUpEnv) (namespace_ name id : Text) (s : State) : Option GoError × State :=
  match addContainerToNetwork env.addLoopback with
  | some err => (some err, s)
  | none =>
    match addContainerToNetwork env.addInterface with
    | some err => (some err, s)
    | none =>
      match env.getResult with
      | .error err => (some (.text ("unable to understand network config: " ++ err.error)), s)
      | .ok (ip4, ip6) =>
        let ipv4 := ip4.bind to4
        let ipv6 := ip6.filter (· ≠ [])
        if ipv4 = none ∧ ipv6 = none then (some (.text "cni didn't report ipv4 ipv6"), s)
        else match env.setPromiscuous with
          | some err => (some err, s)
          | none =>
            let s := cacheIPs id ipv4 ipv6 s
            match env.addTrafficShaping with
            | some err => (some err, s)
            | none => addPortMapping env namespace_ name id s

def setUpPod (env : SetUpEnv) (namespace_ name id : Text) (s : State) : Option GoError × State :=
  match env.status with
  | some err => (some (.text ("kubenet cannot SetUpPod: " ++ err.error)), s)
  | none =>
    match setup env namespace_ name id s with
    -- A failure of the tear down is only logged.
    | (some err, s) => (some err, (teardown env.cleanup namespace_ name id s).2)
    | (none, s) => (none, s)

/-- A call of the plugin. -/
inductive Call where
  | setUpPod (env : SetUpEnv) (namespace_ name id : Text)
  | tearDownPod (netConfig : Bool) (env : TearDownEnv) (namespace_ name id : Text)

/-- The state after a call. -/
def Call.run : Call → State → State
  | .setUpPod env namespace_ name id, s => (Kubenet.setUpPod env namespace_ name id s).2
  | .tearDownPod netConfig env namespace_ name id, s => (Kubenet.tearDownPod netConfig env namespace_ name id s).2

end CriDockerd.Kubenet
