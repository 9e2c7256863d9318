import CriDockerd.Lib.Reachable
import CriDockerd.Hostport.Basic

/-! The hostport manager (`network/hostport/hostport_manager.go`): `Add` opens the hostports of a pod
    and writes its iptables rules, `Remove` takes them away. Calls run under the manager's mutex, so a
    call is one function on the state. -/

namespace CriDockerd.Hostport
open Text NetIP

/-- The identity of an open socket. -/
abbrev Socket := Nat

/-- What one call of the manager meets outside of its own state: iptables, the opener of local ports,
    `Close` of a socket and conntrack. The opener sees the sockets that are open. A manager is built
    with `execer` set; a test may leave it nil. -/
structure Env (σ : Type) where
  iptables : IPTables σ
  portOpener : List (Socket × HostPort) → HostPort → Option GoError
  close : Socket → Option GoError
  execer : Bool
  conntrackFound : Bool

/-- `hostPortMap` with what the manager acts on: the tables and the open sockets of the host. The last
    three fields record what was asked of the opener, of iptables-restore and of conntrack. -/
structure State (σ : Type) where
  hostPortMap : HostPort → Option Socket
  tables : σ
  sockets : List (Socket × HostPort)
  nextSocket : Socket
  requests : List HostPort
  payloads : List Text
  cleared : List (Int × Bool)

/-- A manager before its first call, on a host where no hostport is open. -/
def State.initial {σ : Type} (tables : σ) : State σ :=
  { hostPortMap := fun _ => none, tables, sockets := [], nextSocket := 0, requests := [], payloads := [], cleared := [] }

section
variable {σ : Type}

/-- `NewHostportManager`, on a host with these ports. It looks for the conntrack binary and logs that there is none. -/
def newHostportManager (iptables : IPTables σ) (net : List (Socket × HostPort) → Net) (close : Socket → Option GoError)
    (_lookPath : Option GoError) : Env σ where
  iptables := iptables
  portOpener sockets hp := openLocalPort (net sockets) hp
  close := close
  execer := true
  conntrackFound := false

/-! ### Sockets -/

def getIPFamily (env : Env σ) : IPFamily := if env.iptables.isIPv6 then .ipv6 else .ipv4

/-- Asks the opener for a hostport; an opened socket gets a new identity. -/
def openPort (env : Env σ) (hp : HostPort) (s : State σ) : Except GoError Socket × State σ :=
  let s := { s with requests := s.requests ++ [hp] }
  match env.portOpener s.sockets hp with
  | some err => (.error err, s)
  | none =>
    (.ok s.nextSocket, { s with sockets := (s.nextSocket, hp) :: s.sockets, nextSocket := s.nextSocket + 1 })

def closeSocket (env : Env σ) (socket : Socket) (s : State σ) : Option GoError × State σ :=
  match env.close socket with
  | some err => (some err, s)
  | none => (none, { s with sockets := s.sockets.filter fun x => x.1 != socket })

/-- The loop of `openHostports`: the error that ended it, and the map of the ports opened so far. -/
def openLoop (env : Env σ) (podFullName : Text) : List PortMapping → List (HostPort × Socket) → State σ →
    Option GoError × List (HostPort × Socket) × State σ
  | [], ports, s => (none, ports, s)
  | pm :: rest, ports, s =>
    if pm.hostPort ≤ 0 then openLoop env podFullName rest ports s
    -- No socket is opened for SCTP.
    else if pm.protocol = protocolSCTP then openLoop env podFullName rest ports s
    else if pm.hostIP ≠ [] ∧ isIPv6String pm.hostIP ≠ env.iptables.isIPv6 then openLoop env podFullName rest ports s
    else
      let hp := portMappingToHostport pm (getIPFamily env)
      match openPort env hp s with
      | (.error err, s) =>
        (some (.text ("cannot open hostport " ++ itoa pm.hostPort ++ " for pod " ++ podFullName ++
          ": " ++ err.error)), ports, s)
      | (.ok socket, s) => openLoop env podFullName rest ((hp, socket) :: ports.filter fun x => x.1 != hp) s

/-- Closes the ports of a map; a failure to close is only logged. -/
def closeAll (env : Env σ) : List (HostPort × Socket) → State σ → State σ
  | [], s => s
  | (_, socket) :: rest, s => closeAll env rest (closeSocket env socket s).2

/-- Opens all hostports of a pod, or none. -/
def openHostports (env : Env σ) (pod : PodPortMapping) (s : State σ) :
    Except GoError (List (HostPort × Socket)) × State σ :=
  match openLoop env (getPodFullName pod) pod.portMappings [] s with
  | (some err, ports, s) => (.error err, closeAll env ports s)
  | (none, ports, s) => (.ok ports, s)

/-- Stores the opened ports in `hostPortMap`. -/
def register (ports : List (HostPort × Socket)) (s : State σ) : State σ :=
  { s with hostPortMap := ports.foldr (fun x map => Function.update map x.1 (some x.2)) s.hostPortMap }

def closeLoop (env : Env σ) : List PortMapping → List (Option GoError) → State σ → List (Option GoError) × State σ
  | [], errList, s => (errList, s)
  | pm :: rest, errList, s =>
    let hp := portMappingToHostport pm (getIPFamily env)
    match s.hostPortMap hp with
    | none => closeLoop env rest errList s
    | some socket =>
      match closeSocket env socket s with
      | (some err, s) =>
        closeLoop env rest (errList ++ [some (.text ("failed to close host port " ++ hp.string ++ ": " ++
          err.error))]) s
      | (none, s) => closeLoop env rest errList { s with hostPortMap := Function.update s.hostPortMap hp none }

/-- Tries to close all the listed host ports. -/
def closeHostports (env : Env σ) (hostportMappings : List PortMapping) (s : State σ) : Option GoError × State σ :=
  let (errList, s) := closeLoop env hostportMappings [] s
  (newAggregate errList, s)

/-! ### Rules -/

/-- `json.Marshal` of the empty struct. -/
def emptyStruct : Text := ['\x7b', '\x7d']

/-- A chain of the hostport manager. -/
def isHostportChain (chain : Text) : Bool :=
  hasPrefix chain kubeHostportsChain || hasPrefix chain kubeHostportChainPrefix

/-- A rule of a hostport chain, as iptables-save prints it. -/
def isHostportRule (line : Text) : Bool :=
  hasPrefix line ("-A " ++ kubeHostportChainPrefix) || hasPrefix line ("-A " ++ kubeHostportsChain)

/-- The hostport chains of the NAT table with their values, and the hostport rules. The value of a
    chain is the JSON text of what `GetChainsFromTable` maps it to. -/
def getExistingHostportIPTablesRules (iptables : IPTables σ) (t : σ) :
    Except GoError (List (Text × Text) × List Text) × σ :=
  match iptables.saveInto tableNAT t with
  | (.error err, t) => (.error (.text ("failed to execute iptables-save: " ++ err.error)), t)
  | (.ok data, t) =>
    (.ok (((getChainsFromTable data).filter isHostportChain).map fun chain => (chain, emptyStruct),
      (split data '\n').filter isHostportRule), t)

/-- The rules that involve no filter chain, in their order. -/
def filterRules (rules filters : List Text) : List Text :=
  rules.filter fun rule => !filters.any fun filter => contains rule filter

/-- Deletes the entries of the filter chains. -/
def filterChains (chains : List (Text × Text)) (filters : List Text) : List (Text × Text) :=
  chains.filter fun chain => chain.1 ∉ filters

/-- Executes iptables-restore with the given lines. -/
def syncIPTables (env : Env σ) (lines : Text) (s : State σ) : Option GoError × State σ :=
  let s := { s with payloads := s.payloads ++ [lines] }
  match env.iptables.restoreAll lines s.tables with
  | (some err, t) => (some (.text ("failed to execute iptables-restore: " ++ err.error)), { s with tables := t })
  | (none, t) => (none, { s with tables := t })

/-- The comment of the rules of a mapping. -/
def hostportComment (podFullName : Text) (pm : PortMapping) : Text :=
  '"' :: podFullName ++ " hostport " ++ itoa pm.hostPort ++ ['"']

/-- The jump from KUBE-HOSTPORTS to the chain of a mapping. -/
def jumpWords (id podFullName : Text) (pm : PortMapping) : List Text :=
  ["-m", "comment", "--comment", hostportComment podFullName pm, "-m", toLower pm.protocol,
   "-p", toLower pm.protocol, "--dport", itoa pm.hostPort, "-j", getHostportChain id pm]

/-- SNAT if the traffic comes from the pod itself. -/
def masqWords (podFullName podIP : Text) (pm : PortMapping) : List Text :=
  ["-m", "comment", "--comment", hostportComment podFullName pm, "-s", podIP,
   "-j", kubeMarkMasqChain]

/-- The host IPs that leave the destination of a packet open. -/
def isWildcard (hostIP : Text) : Bool := hostIP == [] || hostIP == "0.0.0.0" || hostIP == "::"

/-- DNAT to the container port at the pod's address. -/
def dnatWords (podFullName podIP : Text) (pm : PortMapping) : List Text :=
  ["-m".toList, "comment", "--comment", hostportComment podFullName pm, "-m", toLower pm.protocol,
   "-p", toLower pm.protocol] ++ (if isWildcard pm.hostIP then [] else ["-d".toList, pm.hostIP]) ++
  ["-j".toList, "DNAT", "--to-destination=" ++ joinHostPort podIP (itoa pm.containerPort)]

/-- Writes the three rules of a mapping. The jump is prepended to KUBE-HOSTPORTS, so that no leaked
    rule for the same port comes before it. -/
def writeMapping (id podFullName podIP : Text) (natRules : Text) (pm : PortMapping) : Text :=
  let chain := getHostportChain id pm
  let natRules := writeLine natRules ("-I" :: kubeHostportsChain :: jumpWords id podFullName pm)
  let natRules := writeLine natRules ("-A" :: chain :: masqWords podFullName podIP pm)
  writeLine natRules ("-A" :: chain :: dnatWords podFullName podIP pm)

/-- The lines that `Add` hands to iptables-restore. -/
def addPayload (id podFullName podIP : Text) (hostportMappings : List PortMapping)
    (existingChains : List (Text × Text)) (existingRules : List Text) : Text :=
  let newChains := hostportMappings.map (getHostportChain id)
  let natChains := writeLine [] ["*nat"]
  let natChains := newChains.foldl (fun buf chain => writeLine buf [makeChainLine chain]) natChains
  let natRules := hostportMappings.foldl (writeMapping id podFullName podIP) []
  -- A chain conflict or several Adds for one pod: what is there of the new chains is left out.
  let existingChains := filterChains existingChains newChains
  let existingRules := filterRules existingRules newChains
  let natChains := existingChains.foldl (fun buf chain => writeLine buf [chain.2]) natChains
  let natRules := existingRules.foldl (fun buf rule => writeLine buf [rule]) natRules
  let natRules := writeLine natRules ["COMMIT"]
  natChains ++ natRules

/-- The lines that `Remove` hands to iptables-restore. -/
def removePayload (existingChains : List (Text × Text)) (remainingRules existingChainsToRemove : List Text) : Text :=
  let natChains := writeLine [] ["*nat"]
  let natChains := existingChains.foldl (fun buf chain => writeLine buf [chain.2]) natChains
  let natRules := remainingRules.foldl (fun buf rule => writeLine buf [rule]) []
  let natRules := existingChainsToRemove.foldl (fun buf chain => writeLine buf ["-X", chain]) natRules
  let natRules := writeLine natRules ["COMMIT"]
  natChains ++ natRules

/-! ### Add and Remove -/

/-- The end of `Add` on a failure of iptables: closes the host ports that it opened. -/
def cleanUp (env : Env σ) (hostportMappings : List PortMapping) (err : GoError) (s : State σ) :
    Option GoError × State σ :=
  let (closeErr, s) := closeHostports env hostportMappings s
  (newAggregate [some err, closeErr], s)

/-- Clears the conntrack entries of the UDP ports of a pod; a failure to clear is only logged. -/
def clearConntrack (env : Env σ) (hostportMappings : List PortMapping) (isIPv6 : Bool) (s : State σ) : State σ :=
  let conntrackPortsToRemove := (hostportMappings.filter fun pm => pm.protocol == protocolUDP).map (·.hostPort)
  if env.execer && env.conntrackFound then
    { s with cleared := s.cleared ++ conntrackPortsToRemove.map fun port => (port, isIPv6) }
  else s

/-- The part of `Add` under the manager's mutex. -/
def addLocked (env : Env σ) (id : Text) (pod : PodPortMapping) (hostportMappings : List PortMapping) (s : State σ) :
    Option GoError × State σ :=
  match openHostports env pod s with
  | (.error err, s) => (some err, s)
  | (.ok ports, s) =>
    let s := register ports s
    match getExistingHostportIPTablesRules env.iptables s.tables with
    | (.error err, t) => cleanUp env hostportMappings err { s with tables := t }
    | (.ok (existingChains, existingRules), t) =>
      let payload := addPayload id (getPodFullName pod) (ipString pod.ip) hostportMappings existingChains existingRules
      match syncIPTables env payload { s with tables := t } with
      | (some err, s) => cleanUp env hostportMappings err s
      | (none, s) => (none, clearConntrack env hostportMappings (isIPv6 pod.ip) s)

def add (env : Env σ) (id : Text) (podPortMapping : Option PodPortMapping) (natInterfaceName : Text) (s : State σ) :
    Option GoError × State σ :=
  match podPortMapping with
  | none => (none, s)
  | some pod =>
    if pod.hostNetwork then (none, s)
    else if to16 pod.ip = none then
      (some (.text ("invalid or missing IP of pod " ++ getPodFullName pod)), s)
    else
      let hostportMappings := gatherHostportMappings pod (isIPv6 pod.ip)
      if hostportMappings = [] then (none, s)
      else if isIPv6 pod.ip ≠ env.iptables.isIPv6 then
        (some (.text ("HostPortManager IP family mismatch: " ++ ipString pod.ip ++ ", isIPv6 - " ++
          (toString (isIPv6 pod.ip)).toList)), s)
      else match ensureKubeHostportChains env.iptables natInterfaceName s.tables with
        | (some err, t) => (some err, { s with tables := t })
        | (none, t) => addLocked env id pod hostportMappings { s with tables := t }

def remove (env : Env σ) (id : Text) (podPortMapping : Option PodPortMapping) (s : State σ) :
    Option GoError × State σ :=
  match podPortMapping with
  | none => (none, s)
  | some pod =>
    if pod.hostNetwork then (none, s)
    else
      let hostportMappings := gatherHostportMappings pod env.iptables.isIPv6
      if hostportMappings = [] then (none, s)
      else match getExistingHostportIPTablesRules env.iptables s.tables with
        | (.error err, t) => (some err, { s with tables := t })
        | (.ok (existingChains, existingRules), t) =>
          let s := { s with tables := t }
          let chainsToRemove := hostportMappings.map (getHostportChain id)
          let remainingRules := filterRules existingRules chainsToRemove
          let existingChainsToRemove := chainsToRemove.filter fun chain => chain ∈ existingChains.map (·.1)
          -- Nothing to remove, but the pod's host ports are closed all the same.
          if existingChainsToRemove = [] then closeHostports env hostportMappings s
          else
            match syncIPTables env (removePayload existingChains remainingRules existingChainsToRemove) s with
            | (some err, s) => (some err, s)
            | (none, s) => closeHostports env hostportMappings s

/-- A call of the manager, with what it meets. -/
inductive Call (σ : Type) where
  | add (env : Env σ) (id : Text) (podPortMapping : Option PodPortMapping) (natInterfaceName : Text)
  | remove (env : Env σ) (id : Text) (podPortMapping : Option PodPortMapping)

namespace Call

def env : Call σ → Env σ
  | .add env _ _ _ => env
  | .remove env _ _ => env

def run : Call σ → State σ → Option GoError × State σ
  | .add env id podPortMapping natInterfaceName => Hostport.add env id podPortMapping natInterfaceName
  | .remove env id podPortMapping => Hostport.remove env id podPortMapping

end Call

end

end CriDockerd.Hostport
