import CriDockerd.Hostport.Basic
import CriDockerd.Lib.Json
import CriDockerd.Store.Checkpoints

/-! Checkpoints of pod sandboxes (`core/checkpoint.go`): the port mappings of a sandbox and what else is
    needed to stop it when its container is gone, kept as JSON with a checksum. -/

namespace CriDockerd.Core
open Text Store

/-! ### The sandbox config, as far as it goes into a checkpoint or a container -/

/-- `runtimeapi.Protocol`: an open enumeration. -/
inductive Protocol where
  | tcp
  | udp
  | sctp
  | other (value : Int)
  deriving DecidableEq, Repr

/-- The values of an `int32`. -/
def minInt32 : Int := -2147483648
def maxInt32 : Int := 2147483647

structure RuntimePortMapping where
  protocol : Protocol
  containerPort : Int
  hostPort : Int
  hostIp : Text
  deriving DecidableEq, Repr

structure PodSandboxMetadata where
  name : Text
  uid : Text
  namespace_ : Text
  attempt : Nat
  deriving DecidableEq, Repr

structure DNSConfig where
  servers : List Text
  searches : List Text
  options : List Text
  deriving DecidableEq, Repr

inductive NamespaceMode where
  | pod
  | node
  | other
  deriving DecidableEq, Repr

/-- `runtimeapi.PodSandboxConfig`. Of the Linux part, if there is one, only the network namespace is kept;
    it is POD when the security context or the namespace options are nil. -/
structure PodSandboxConfig where
  metadata : PodSandboxMetadata
  dnsConfig : Option DNSConfig
  portMappings : List RuntimePortMapping
  linux : Option NamespaceMode
  labels : List (Text × Text) := []
  annotations : List (Text × Text) := []
  deriving DecidableEq, Repr

/-- `GetLinux().GetSecurityContext().GetNamespaceOptions().GetNetwork()`. -/
def PodSandboxConfig.network (config : PodSandboxConfig) : NamespaceMode := config.linux.getD .pod

/-- The ports of a config are `int32` values. -/
structure PodSandboxConfig.WellTyped (config : PodSandboxConfig) : Prop where
  containerPort : ∀ pm ∈ config.portMappings, minInt32 ≤ pm.containerPort ∧ pm.containerPort ≤ maxInt32
  hostPort : ∀ pm ∈ config.portMappings, minInt32 ≤ pm.hostPort ∧ pm.hostPort ≤ maxInt32

/-! ### Checkpoints -/

def protocolTCP : Text := "tcp"
def protocolUDP : Text := "udp"
def protocolSCTP : Text := "sctp"

def schemaVersion : Text := "v1"

/-- `config.PortMapping`, with pointers to the protocol and the ports. -/
structure PortMapping where
  protocol : Option Text
  containerPort : Option Int
  hostPort : Option Int
  hostIP : Text
  deriving DecidableEq, Repr

/-- The port mappings are a slice of pointers; `none` is the nil slice. -/
structure CheckpointData where
  portMappings : Option (List (Option PortMapping))
  hostNetwork : Bool
  deriving DecidableEq, Repr

structure PodSandboxCheckpoint where
  version : Text
  name : Text
  namespace_ : Text
  data : Option CheckpointData
  checksum : Int
  deriving DecidableEq, Repr

def newPodSandboxCheckpoint (namespace_ name : Text) (data : CheckpointData) : PodSandboxCheckpoint :=
  { version := schemaVersion, namespace_, name, data := some data, checksum := 0 }

/-- The checkpoint that a caller reads into. -/
def emptyCheckpoint : PodSandboxCheckpoint := newPodSandboxCheckpoint [] [] { portMappings := none, hostNetwork := false }

def toCheckpointProtocol : Protocol → Text
  | .tcp => protocolTCP
  | .udp => protocolUDP
  | .sctp => protocolSCTP
  -- An unknown protocol defaults to TCP.
  | .other _ => protocolTCP

def toCheckpointPortMapping (pm : RuntimePortMapping) : PortMapping :=
  { hostPort := some pm.hostPort, containerPort := some pm.containerPort, protocol := some (toCheckpointProtocol pm.protocol),
    hostIP := pm.hostIp }

def constructPodSandboxCheckpoint (sandboxConfig : PodSandboxConfig) : PodSandboxCheckpoint :=
  newPodSandboxCheckpoint sandboxConfig.metadata.namespace_ sandboxConfig.metadata.name
    -- The slice is nil until a mapping is appended.
    { portMappings := if sandboxConfig.portMappings = [] then none
        else some (sandboxConfig.portMappings.map fun pm => some (toCheckpointPortMapping pm))
      hostNetwork := sandboxConfig.network = .node }

/-! ### JSON -/

/-- What a checkpoint file holds: a text that is JSON, or another one. -/
inductive Blob where
  | json (j : Json)
  | malformed

def member (key : String) (j : Json) : Text × Json := (key.toList, j)

def PortMapping.toJson (pm : PortMapping) : Json :=
  .obj ((pm.protocol.map fun p => member "protocol" (.str p)).toList ++
    (pm.containerPort.map fun p => member "container_port" (.ofInt p)).toList ++
    (pm.hostPort.map fun p => member "host_port" (.ofInt p)).toList ++
    (if pm.hostIP = [] then [] else [member "host_ip" (.str pm.hostIP)]))

def CheckpointData.toJson (data : CheckpointData) : Json :=
  .obj ((if data.portMappings.getD [] = [] then []
      else [member "port_mappings" (.arr ((data.portMappings.getD []).map fun pm => (pm.map (·.toJson)).getD .null))]) ++
    (if data.hostNetwork then [member "host_network" (.bool true)] else []))

def PodSandboxCheckpoint.toJson (cp : PodSandboxCheckpoint) : Json :=
  .obj ([member "version" (.str cp.version), member "name" (.str cp.name), member "namespace" (.str cp.namespace_)] ++
    (cp.data.map fun data => member "data" data.toJson).toList ++ [member "checksum" (.ofInt cp.checksum)])

def int32 : Json.Decoder Int := Json.integer "int32" Json.intLiteral minInt32 maxInt32

/-- `store.Checksum`, a `uint64`. -/
def uint64 : Json.Decoder Int := Json.integer "store.Checksum" Json.uintLiteral 0 18446744073709551615

/-! The fields of the records, by their tags. While a checkpoint is decoded, the slice of its port mappings has a memory that
    members of the same name share. -/

def PortMapping.fields : List (Text × Json.Decoder PortMapping) :=
  [("protocol", Json.field (·.protocol) (fun x pm => { pm with protocol := x }) (Json.pointer [] Json.text)),
   ("container_port", Json.field (·.containerPort) (fun x pm => { pm with containerPort := x }) (Json.pointer 0 int32)),
   ("host_port", Json.field (·.hostPort) (fun x pm => { pm with hostPort := x }) (Json.pointer 0 int32)),
   ("host_ip", Json.field (·.hostIP) (fun x pm => { pm with hostIP := x }) Json.text)]

def PortMapping.decode : Json.Decoder PortMapping := Json.record "config.PortMapping" fields

/-- `CheckpointData` in memory. -/
structure CheckpointMemory where
  portMappings : Option (Json.Slice (Option PortMapping))
  hostNetwork : Bool

def CheckpointMemory.data (m : CheckpointMemory) : CheckpointData := ⟨m.portMappings.map (·.items), m.hostNetwork⟩

def CheckpointData.memory (data : CheckpointData) : CheckpointMemory := ⟨data.portMappings.map (⟨·, []⟩), data.hostNetwork⟩

def CheckpointMemory.fields : List (Text × Json.Decoder CheckpointMemory) :=
  [("port_mappings", Json.field (·.portMappings) (fun x data => { data with portMappings := x })
      (Json.slice "[]*config.PortMapping" none (Json.pointer ⟨none, none, none, []⟩ PortMapping.decode))),
   ("host_network", Json.field (·.hostNetwork) (fun x data => { data with hostNetwork := x }) Json.boolean)]

def CheckpointMemory.decode : Json.Decoder CheckpointMemory := Json.record "core.CheckpointData" fields

/-- A checkpoint, and its data in memory. -/
abbrev PodSandboxCheckpoint.Target := PodSandboxCheckpoint × Option CheckpointMemory

def PodSandboxCheckpoint.fields : List (Text × Json.Decoder Target) :=
  [("version", Json.field (·.1.version) (fun x t => ({ t.1 with version := x }, t.2)) Json.text),
   ("name", Json.field (·.1.name) (fun x t => ({ t.1 with name := x }, t.2)) Json.text),
   ("namespace", Json.field (·.1.namespace_) (fun x t => ({ t.1 with namespace_ := x }, t.2)) Json.text),
   ("data", Json.field (·.2) (fun x t => (t.1, x)) (Json.pointer ⟨none, false⟩ CheckpointMemory.decode)),
   ("checksum", Json.field (·.1.checksum) (fun x t => ({ t.1 with checksum := x }, t.2)) uint64)]

def PodSandboxCheckpoint.decode : Json.Decoder PodSandboxCheckpoint := fun j old =>
  (Json.record "core.PodSandboxCheckpoint" fields j (old, old.data.map (·.memory))).map fun t =>
    { t.1 with data := t.2.map (·.data) }

section
-- The printer of `go-spew`, which the hash is taken of: it follows pointers and prints values.
variable (spew : CheckpointData → List UInt8)

def newChecksum (data : CheckpointData) : Int := (Digest.fnv32a (spew data)).toNat

def marshalCheckpoint (cp : PodSandboxCheckpoint) : Outcome GoError Blob :=
  match cp.data with
  | none => .panic
  | some data => .ok (.json { cp with checksum := newChecksum spew data }.toJson)

def unmarshalCheckpoint (cp : PodSandboxCheckpoint) : Blob → Except GoError PodSandboxCheckpoint
  | .malformed => .error (.text "invalid character in JSON")
  | .json j =>
    match PodSandboxCheckpoint.decode j cp with
    | .error err => .error (.text err)
    | .ok cp => .ok cp

def verifyChecksum (cp : PodSandboxCheckpoint) : Outcome GoError Unit :=
  match cp.data with
  | none => .panic
  | some data =>
    if cp.checksum ≠ newChecksum spew data then .error (.text "checkpoint is corrupted") else .ok ()

/-- The methods of `PodSandboxCheckpoint`. -/
def podSandboxCheckpoint : Checkpoint PodSandboxCheckpoint Blob where
  marshalCheckpoint := marshalCheckpoint spew
  unmarshalCheckpoint := unmarshalCheckpoint
  verifyChecksum := verifyChecksum spew

end

/-- Version, name, namespace, port mappings and host network; the data are dereferenced. -/
def PodSandboxCheckpoint.getData (cp : PodSandboxCheckpoint) :
    Option (Text × Text × Text × List (Option PortMapping) × Bool) :=
  cp.data.map fun data => (cp.version, cp.name, cp.namespace_, data.portMappings.getD [], data.hostNetwork)

/-! ### Port mappings for the network plugin -/

/-- A mapping with its pointers dereferenced. -/
def PortMapping.deref (pm : PortMapping) : Option Hostport.PortMapping :=
  match pm.hostPort, pm.containerPort, pm.protocol with
  | some hostPort, some containerPort, some protocol => some { hostPort, containerPort, protocol, hostIP := pm.hostIP }
  | _, _, _ => none

/-- What the file system does to a read of a checkpoint, and to its deletion. -/
structure CheckpointFaults where
  read : Option GoError
  remove : Option GoError
  deriving DecidableEq, Repr

/-- `GetPodPortMappings`: none without a checkpoint. One that cannot be read is deleted. -/
def getPodPortMappings (spew : CheckpointData → List UInt8) (faults : CheckpointFaults) (podSandboxID : Text) (dir : Dir Blob) :
    Outcome StoreError (List Hostport.PortMapping) × Dir Blob :=
  match getCheckpoint (podSandboxCheckpoint spew) faults.read podSandboxID emptyCheckpoint dir with
  | .panic => (.panic, dir)
  | .error .errCheckpointNotFound => (.ok [], dir)
  -- A failure to delete is only logged.
  | .error err => (.error err, (removeCheckpoint faults.remove podSandboxID dir).2)
  | .ok checkpoint =>
    match checkpoint.getData with
    | none => (.panic, dir)
    | some (_, _, _, checkpointedPortMappings, _) =>
      match checkpointedPortMappings.mapM fun pm => pm.bind (·.deref) with
      | none => (.panic, dir)
      | some portMappings => (.ok portMappings, dir)

end CriDockerd.Core
