import CriDockerd.Core.Containers

/-! The messages of the CRI as a request brings them (`runtimeapi`), with the fields that the handlers read. Protobuf
    lets a sender leave out any message in a field of its own, which is nil then; the elements of a list are never
    nil. A getter of the generated code gives the nil message, or the zero value, of a field of a nil message. -/

namespace CriDockerd.Runtimeapi
open Text CriDockerd.Core

/-! ### Sandboxes -/

structure PortMapping where
  protocol : Protocol
  containerPort : Int32
  hostPort : Int32
  hostIp : Text
  deriving DecidableEq

/-- `runtimeapi.NamespaceMode`: an open enumeration. -/
inductive NamespaceMode where
  | pod
  | container
  | node
  | target
  | other (value : Int32)
  deriving DecidableEq

structure NamespaceOption where
  network : NamespaceMode
  pid : NamespaceMode
  ipc : NamespaceMode
  targetId : Text
  deriving DecidableEq

/-- What the getters make of nil. -/
def NamespaceOption.zero : NamespaceOption := { network := .pod, pid := .pod, ipc := .pod, targetId := [] }

structure SELinuxOption where
  user : Text
  role : Text
  type : Text
  level : Text
  deriving DecidableEq

structure LinuxSandboxSecurityContext where
  namespaceOptions : Option NamespaceOption
  selinuxOptions : Option SELinuxOption
  runAsUser : Option Int64
  runAsGroup : Option Int64
  readonlyRootfs : Bool
  supplementalGroups : List Int64
  privileged : Bool
  deriving DecidableEq

structure LinuxPodSandboxConfig where
  cgroupParent : Text
  securityContext : Option LinuxSandboxSecurityContext
  sysctls : Labels
  deriving DecidableEq

structure PodSandboxConfig where
  metadata : Option PodSandboxMetadata
  hostname : Text
  logDirectory : Text
  dnsConfig : Option DNSConfig
  portMappings : List PortMapping
  labels : Labels
  annotations : Labels
  linux : Option LinuxPodSandboxConfig
  deriving DecidableEq

structure RunPodSandboxRequest where
  config : Option PodSandboxConfig
  runtimeHandler : Text
  deriving DecidableEq

/-! ### Containers -/

/-- `runtimeapi.MountPropagation`: an open enumeration. -/
inductive MountPropagation where
  | priv
  | hostToContainer
  | bidirectional
  | other (value : Int32)
  deriving DecidableEq

def MountPropagation.string : MountPropagation → Text
  | .priv => "PROPAGATION_PRIVATE"
  | .hostToContainer => "PROPAGATION_HOST_TO_CONTAINER"
  | .bidirectional => "PROPAGATION_BIDIRECTIONAL"
  | .other value => itoa value.toInt

structure Mount where
  containerPath : Text
  hostPath : Text
  readonly : Bool
  selinuxRelabel : Bool
  propagation : MountPropagation
  recursiveReadOnly : Bool
  deriving DecidableEq

structure Device where
  containerPath : Text
  hostPath : Text
  permissions : Text
  deriving DecidableEq

structure LinuxContainerResources where
  cpuPeriod : Int64
  cpuQuota : Int64
  cpuShares : Int64
  memoryLimitInBytes : Int64
  oomScoreAdj : Int64
  cpusetCpus : Text
  cpusetMems : Text
  deriving DecidableEq

structure Capability where
  addCapabilities : List Text
  dropCapabilities : List Text
  deriving DecidableEq

/-- `runtimeapi.SecurityProfile_ProfileType`: an open enumeration. -/
inductive ProfileType where
  | runtimeDefault
  | unconfined
  | localhost
  | other (value : Int32)
  deriving DecidableEq

structure SecurityProfile where
  profileType : ProfileType
  localhostRef : Text
  deriving DecidableEq

structure LinuxContainerSecurityContext where
  capabilities : Option Capability
  privileged : Bool
  namespaceOptions : Option NamespaceOption
  selinuxOptions : Option SELinuxOption
  runAsUser : Option Int64
  runAsGroup : Option Int64
  runAsUsername : Text
  readonlyRootfs : Bool
  supplementalGroups : List Int64
  apparmorProfile : Text
  seccomp : Option SecurityProfile
  noNewPrivs : Bool
  maskedPaths : List Text
  readonlyPaths : List Text
  deriving DecidableEq

structure LinuxContainerConfig where
  resources : Option LinuxContainerResources
  securityContext : Option LinuxContainerSecurityContext
  deriving DecidableEq

structure KeyValue where
  key : Text
  value : Text
  deriving DecidableEq

/-- The image is that of `runtimeapi.ImageSpec`, the CDI devices are given by their names. -/
structure ContainerConfig where
  metadata : Option ContainerMetadata
  image : Option Text
  command : List Text
  args : List Text
  workingDir : Text
  envs : List KeyValue
  mounts : List Mount
  devices : List Device
  cdiDevices : List Text
  labels : Labels
  annotations : Labels
  logPath : Text
  stdin : Bool
  stdinOnce : Bool
  tty : Bool
  linux : Option LinuxContainerConfig
  deriving DecidableEq

structure CreateContainerRequest where
  podSandboxId : Text
  config : Option ContainerConfig
  sandboxConfig : Option PodSandboxConfig
  deriving DecidableEq

structure UpdateContainerResourcesRequest where
  containerId : Text
  linux : Option LinuxContainerResources
  deriving DecidableEq

/-! ### The runtime -/

structure NetworkConfig where
  podCidr : Text
  deriving DecidableEq

structure RuntimeConfig where
  networkConfig : Option NetworkConfig
  deriving DecidableEq

structure UpdateRuntimeConfigRequest where
  runtimeConfig : Option RuntimeConfig
  deriving DecidableEq

/-! ### The configs of the sandbox handlers -/

def PortMapping.toRuntimePortMapping (pm : PortMapping) : RuntimePortMapping :=
  { protocol := pm.protocol, containerPort := pm.containerPort.toInt, hostPort := pm.hostPort.toInt, hostIp := pm.hostIp }

/-- The modes that the sandbox handlers tell apart. -/
def NamespaceMode.toNamespaceMode : NamespaceMode → Core.NamespaceMode
  | .pod => .pod
  | .node => .node
  | _ => .other

/-- `GetSecurityContext().GetNamespaceOptions()` of the Linux part of a sandbox config. -/
def LinuxPodSandboxConfig.namespaceOptions (lc : LinuxPodSandboxConfig) : NamespaceOption :=
  (lc.securityContext.bind (·.namespaceOptions)).getD .zero

/-- The config that the sandbox handlers work on, when there are metadata. -/
def PodSandboxConfig.known (c : PodSandboxConfig) : Option Core.PodSandboxConfig :=
  c.metadata.map fun metadata =>
    { metadata, dnsConfig := c.dnsConfig, portMappings := c.portMappings.map (·.toRuntimePortMapping)
      linux := c.linux.map fun lc => lc.namespaceOptions.network.toNamespaceMode
      labels := c.labels, annotations := c.annotations }

end CriDockerd.Runtimeapi
