import CriDockerd.Core.Messages
import CriDockerd.Lib.Groups

/-! What Docker's configs are made of (`libdocker/helpers.go`): environment variables, mounts and port bindings. The
    branches for Windows are left out, and with them the path of the termination message. -/

namespace CriDockerd.Libdocker
open Text

def generateEnvList (envs : List Runtimeapi.KeyValue) : List Text := envs.map fun env => env.key ++ '=' :: env.value

/-! ### Mounts -/

/-- `runtimeapi.RuntimeHandler`; of its features those that are ever set. -/
structure RuntimeHandler where
  name : Text
  recursiveReadOnlyMounts : Bool
  deriving DecidableEq, Repr

/-- `mount.Mount`, of type bind; its options create the mount point. -/
structure Mount where
  source : Text
  target : Text
  readOnly : Bool
  readOnlyNonRecursive : Bool
  propagation : Text
  deriving DecidableEq, Repr

def propagationRShared : Text := "rshared"
def propagationRSlave : Text := "rslave"

/-- One turn of the loop. -/
def mountBinding (rroSupported : Bool) (m : Runtimeapi.Mount) : Except GoError Mount :=
  let hostPath := " (hostPath=" ++ quote m.hostPath ++ [')']
  if m.recursiveReadOnly ∧ !rroSupported then
    .error (.text ("RROUnsupported: runtime handler does not support recursive read-only mounts" ++ hostPath))
  else if m.recursiveReadOnly ∧ m.propagation ≠ .priv then
    .error (.text ("recursive read-only mount needs private propagation, got " ++ quote m.propagation.string ++ hostPath))
  else if m.recursiveReadOnly ∧ !m.readonly then
    .error (.text ("recursive read-only mount conflicts with RW mount" ++ hostPath))
  else
    .ok { source := m.hostPath, target := m.containerPath, readOnly := m.readonly
          -- Docker treats read-only mounts as recursively read-only by default.
          readOnlyNonRecursive := m.readonly && !m.recursiveReadOnly
          propagation := match m.propagation with
            | .bidirectional => propagationRShared
            | .hostToContainer => propagationRSlave
            -- Docker decides.
            | .priv | .other _ => [] }

def generateMountBindings (mounts : List Runtimeapi.Mount) (rtHandler : Option RuntimeHandler) : Except GoError (List Mount) :=
  mounts.mapM (mountBinding (rtHandler.any (·.recursiveReadOnlyMounts)))

/-! ### Ports -/

structure PortBinding where
  hostIP : Text
  hostPort : Text
  deriving DecidableEq, Repr

/-- The set of exposed ports and the bindings of each of them, by texts such as `80/tcp`. -/
structure PortsAndBindings where
  exposedPorts : Finset Text
  portBindings : Groups Text PortBinding

def portProtocol : Core.Protocol → Text
  | .udp => "/udp"
  | .tcp => "/tcp"
  | .sctp => "/sctp"
  -- An unknown protocol defaults to TCP.
  | .other _ => "/tcp"

/-- One turn of the loop. -/
def addPort (acc : PortsAndBindings) (port : Core.RuntimePortMapping) : PortsAndBindings :=
  -- No need to do port binding when HostPort is not specified
  if port.hostPort = 0 then acc
  else
    let dockerPort := itoa port.containerPort ++ portProtocol port.protocol
    let hostBinding : PortBinding := { hostPort := itoa port.hostPort, hostIP := port.hostIp }
    { exposedPorts := insert dockerPort acc.exposedPorts
      portBindings := match acc.portBindings.lookup dockerPort with
        | some existedBindings => acc.portBindings.insert dockerPort (existedBindings ++ [hostBinding])
        | none => acc.portBindings.insert dockerPort [hostBinding] }

def makePortsAndBindings (pm : List Core.RuntimePortMapping) : PortsAndBindings :=
  pm.foldl addPort { exposedPorts := ∅, portBindings := ∅ }

end CriDockerd.Libdocker
