import CriDockerd.Kubenet.Plugin
import CriDockerd.Lib.Cidr

/-! GetPodNetworkStatus of the kubenet plugin (`network/kubenet/kubenet_linux.go`), with GetPodIPs
    (`network/plugins.go`). The addresses of a pod are looked up in its network namespace once, and then come from
    the set that the plugin remembers. -/

namespace CriDockerd.Kubenet
open Text NetIP

/-- `network.PodNetworkStatus`; a text that is no address gives nil. -/
structure PodNetworkStatus where
  ip : Option IP
  ips : List (Option IP)
  deriving DecidableEq, Repr

/-! ### Addresses in the namespace of a pod -/

/-- The families of addresses that `ip` can be asked for. -/
inductive AddrType where
  | v4
  | v6
  deriving DecidableEq, Repr

/-- What `nsenter` prints, and its error. -/
structure CommandOutput where
  output : Text
  err : Option GoError
  deriving DecidableEq

def getOnePodIP (command : CommandOutput) : Except GoError IP :=
  match command.err with
  | some err =>
    .error (.text ("unexpected command output " ++ command.output ++ " with error: " ++ err.error))
  | none =>
    let line := (split command.output '\n').headD []
    match fields line with
    | _ :: _ :: _ :: addr :: _ =>
      match parseCIDR addr with
      | none =>
        .error (.text ("CNI failed to parse ip from output " ++ command.output ++ " due to invalid CIDR address: " ++
          addr))
      | some (ip, _) => .ok ip
    | _ => .error (.text ("unexpected address output " ++ line ++ [' ']))

/-- With dual stack, an address of each family that has one, the IPv4 address first; else one of the first family that
    has one. -/
def getPodIPs (ipv6DualStackEnabled : Bool) (commands : AddrType → CommandOutput) : Except GoError (List IP) :=
  match ipv6DualStackEnabled, getOnePodIP (commands .v4), getOnePodIP (commands .v6) with
  | false, .ok ip, _ => .ok [ip]
  | false, .error _, .ok ip => .ok [ip]
  | false, .error _, .error err => .error err
  | true, .ok ip₄, .ok ip₆ => .ok [ip₄, ip₆]
  | true, .ok ip₄, .error _ => .ok [ip₄]
  | true, .error _, .ok ip₆ => .ok [ip₆]
  | true, .error err₄, .error err₆ => .error (.aggregate [err₄, err₆])

/-! ### The status of a pod -/

/-- What a call meets, apart from the order in which a set is listed. -/
structure NetworkStatusEnv where
  getNetNS : Except GoError Text
  ipv6DualStackEnabled : Bool
  commands : AddrType → CommandOutput

def getNetworkStatus (order : Listing) (id : Text) (s : State) : Option PodNetworkStatus :=
  match s.getCachedPodIPs order id with
  | none => none
  | some iplist =>
    match iplist.map parseIP with
    | [] => none
    | ip :: ips => some { ip, ips := ip :: ips }

def getPodNetworkStatus (env : NetworkStatusEnv) (order : Listing) (id : Text) (s : State) :
    Except GoError (Option PodNetworkStatus) × State :=
  match getNetworkStatus order id s with
  | some networkStatus => (.ok (some networkStatus), s)
  | none =>
    match env.getNetNS with
    | .error err =>
      (.error (.text ("kubenet failed to retrieve network namespace path: " ++ err.error)), s)
    | .ok netnsPath =>
      if netnsPath = [] then
        (.error (.text ("cannot find the network namespace, skipping pod network status for container " ++
          "\x7b\"docker\" " ++ quote id ++ "\x7d")), s)
      else match getPodIPs env.ipv6DualStackEnabled env.commands with
        | .error err => (.error err, s)
        | .ok ips =>
          let s := ips.foldl (fun s ip => s.addPodIP id (ipString ip)) s
          (.ok (getNetworkStatus order id s), s)

end CriDockerd.Kubenet
