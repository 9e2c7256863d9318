import CriDockerd.Errors
import CriDockerd.Lib.Digest
import CriDockerd.Lib.NetIP
import Mathlib.Data.List.Dedup

/-! The data of `network/hostport`: port mappings, hostports and their sockets, and the interface to
    iptables (`network/hostport/hostport.go`, `pkg/util/iptables`). -/

namespace CriDockerd.Hostport
open Text NetIP

/-! ### Constants -/

/-- The hostport chain. -/
def kubeHostportsChain : Text := "KUBE-HOSTPORTS"

/-- Prefix of the chain of one mapping. -/
def kubeHostportChainPrefix : Text := "KUBE-HP-"

/-- The mark-for-masquerade chain. -/
def kubeMarkMasqChain : Text := "KUBE-MARK-MASQ"

/-- `config.ProtocolTCP`, `config.ProtocolUDP` and `config.ProtocolSCTP`. -/
def protocolTCP : Text := "TCP"
def protocolUDP : Text := "UDP"
def protocolSCTP : Text := "SCTP"

def tableNAT : Text := "nat"
def chainOutput : Text := "OUTPUT"
def chainPrerouting : Text := "PREROUTING"
def chainPostrouting : Text := "POSTROUTING"

/-! ### Port mappings -/

/-- A network port of a container. The protocol is an open string type in the source. -/
structure PortMapping where
  hostPort : Int
  containerPort : Int
  protocol : Text
  hostIP : Text
  deriving DecidableEq, Repr

/-- A pod's network state and its port mappings. -/
structure PodPortMapping where
  namespace_ : Text
  name : Text
  portMappings : List PortMapping
  hostNetwork : Bool
  ip : IP
  deriving DecidableEq, Repr

inductive IPFamily where
  | ipv4
  | ipv6
  deriving DecidableEq, Repr

structure HostPort where
  ipFamily : IPFamily
  ip : Text
  port : Int
  protocol : Text
  deriving DecidableEq, Repr

def HostPort.string (hp : HostPort) : Text := hp.protocol ++ ':' :: itoa hp.port

/-- The network and the address of a hostport. -/
def HostPort.network (hp : HostPort) : Text :=
  hp.protocol ++ (match hp.ipFamily with | .ipv4 => ['4'] | .ipv6 => ['6'])

def HostPort.address (hp : HostPort) : Text := joinHostPort hp.ip (itoa hp.port)

/-- The `net` package of the host: the errors of `Listen`, `ResolveUDPAddr` and `ListenUDP` for a
    network and an address. -/
structure Net where
  listen : Text → Text → Option GoError
  resolveUDPAddr : Text → Text → Option GoError
  listenUDP : Text → Text → Option GoError

/-- Opens and holds a port of the node; only TCP and UDP ports can be held. -/
def openLocalPort (net : Net) (hp : HostPort) : Option GoError :=
  if hp.protocol = "tcp" then net.listen hp.network hp.address
  else if hp.protocol = "udp" then
    match net.resolveUDPAddr hp.network hp.address with
    | some err => some err
    | none => net.listenUDP hp.network hp.address
  else some (.text ("unknown protocol " ++ quote hp.protocol))

def portMappingToHostport (pm : PortMapping) (family : IPFamily) : HostPort :=
  { ipFamily := family, ip := pm.hostIP, port := pm.hostPort, protocol := toLower pm.protocol }

def getPodFullName (pod : PodPortMapping) : Text := pod.name ++ '_' :: pod.namespace_

/-! ### iptables -/

inductive RulePosition where
  | prepend
  | append
  deriving DecidableEq, Repr

/-- The part of `utiliptables.Interface` that the hostport manager uses, over a state `σ` of the
    tables. Every call may change the state, also one that fails. `restoreAll` is the call with
    `NoFlushTables` and `RestoreCounters`, the only one made. -/
structure IPTables (σ : Type) where
  isIPv6 : Bool
  ensureChain : (table chain : Text) → σ → Option GoError × σ
  ensureRule : RulePosition → (table chain : Text) → List Text → σ → Option GoError × σ
  saveInto : (table : Text) → σ → Except GoError Text × σ
  restoreAll : Text → σ → Option GoError × σ

/-- `MakeChainLine`. -/
def makeChainLine (chain : Text) : Text := ':' :: chain ++ " - [0:0]"

/-- What follows the first `"\n:"` of a text. -/
def afterDeclaration : Text → Option Text
  | '\n' :: ':' :: rest => some rest
  | _ :: rest => afterDeclaration rest
  | [] => none

def getChainsLoop : Nat → Text → List Text
  | 0, _ => []
  | fuel + 1, save =>
    match afterDeclaration save with
    | none => []
    | some save =>
      match save.dropWhile (· ≠ ' ') with
      -- iptables-save always prints a policy after the name; without one the source slices up to -1
      -- and panics, where this scan stops.
      | [] => []
      | rest => save.takeWhile (· ≠ ' ') :: getChainsLoop fuel rest

/-- `GetChainsFromTable`: the names declared in the output of iptables-save, as the keys of a map to
    the empty struct. -/
def getChainsFromTable (save : Text) : List Text := (getChainsLoop save.length save).dedup

/-- Joins words with spaces, ends the line and writes it to the buffer. -/
def writeLine (buf : Text) (words : List Text) : Text := buf ++ join [' '] words ++ ['\n']

/-- The arguments of the jump from a system chain to KUBE-HOSTPORTS. -/
def portalArgs : List Text :=
  ["-m", "comment", "--comment", "kube hostport portals", "-m", "addrtype",
   "--dst-type", "LOCAL", "-j", kubeHostportsChain]

/-- The arguments of the SNAT rule for access to hostports over localhost. -/
def localhostArgs (isIPv6 : Bool) (natInterfaceName : Text) : List Text :=
  ["-m", "comment", "--comment", "SNAT for localhost access to hostports", "-o",
   natInterfaceName, "-s", if isIPv6 then "::1/128" else "127.0.0.0/8", "-j",
   "MASQUERADE"]

/-- Ensures that KUBE-HOSTPORTS exists and that the system chains jump to it. -/
def ensureKubeHostportChains {σ : Type} (iptables : IPTables σ) (natInterfaceName : Text) (t : σ) :
    Option GoError × σ :=
  match iptables.ensureChain tableNAT kubeHostportsChain t with
  | (some err, t) =>
    (some (.text ("failed to ensure that nat chain KUBE-HOSTPORTS exists: " ++ err.error)), t)
  | (none, t) =>
    match iptables.ensureRule .append tableNAT chainOutput portalArgs t with
    | (some err, t) =>
      (some (.text ("failed to ensure that nat chain OUTPUT jumps to KUBE-HOSTPORTS: " ++ err.error)), t)
    | (none, t) =>
      match iptables.ensureRule .append tableNAT chainPrerouting portalArgs t with
      | (some err, t) =>
        (some (.text ("failed to ensure that nat chain PREROUTING jumps to KUBE-HOSTPORTS: " ++ err.error)), t)
      | (none, t) =>
        if natInterfaceName ≠ [] ∧ natInterfaceName ≠ "lo" then
          match iptables.ensureRule .append tableNAT chainPostrouting (localhostArgs iptables.isIPv6 natInterfaceName) t with
          | (some err, t) =>
            (some (.text ("failed to ensure that nat chain POSTROUTING jumps to MASQUERADE: " ++ err.error)), t)
          | (none, t) => (none, t)
        else (none, t)

/-! ### Chains of mappings -/

/-- The chain of a mapping of pod `id`: `KUBE-HP-` and sixteen digits of a hash. -/
def getHostportChain (id : Text) (pm : PortMapping) : Text :=
  let hash := Digest.sha256 (utf8 (id ++ itoa pm.hostPort ++ pm.protocol ++ pm.hostIP))
  kubeHostportChainPrefix ++ (Digest.base32 hash).take 16

-- The name that `TestHostportManager` expects.
example : getHostportChain "id" ⟨8443, 443, protocolTCP, []⟩ = "KUBE-HP-WFBOALXEP42XEMJK" := by
  decide +kernel

/-- The mappings of a pod that have a hostport of the given family; a mapping without a host IP
    belongs to both. -/
def gatherHostportMappings (pod : PodPortMapping) (isIPv6 : Bool) : List PortMapping :=
  pod.portMappings.filter fun pm => 0 < pm.hostPort && (pm.hostIP == [] || isIPv6String pm.hostIP == isIPv6)

end CriDockerd.Hostport
