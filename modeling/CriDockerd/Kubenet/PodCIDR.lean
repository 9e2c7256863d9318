import CriDockerd.Errors
import CriDockerd.Lib.Cidr
import CriDockerd.Lib.Reachable

/-! The events of the kubenet plugin (`network/kubenet/kubenet_linux.go`): the first change of the pod CIDR that is
    accepted gives the plugin its network config. The addresses on the bridge, which are deleted when a config is not
    accepted, are left out. -/

namespace CriDockerd.Kubenet
open Text NetIP

def bridgeName : Text := "cbr0"

def defaultInterfaceName : Text := "eth0"

def zeroCIDRv6 : Text := "::/0"

def zeroCIDRv4 : Text := "0.0.0.0/0"

/-- The name of the event, and of the detail of it that is the CIDR. -/
def podCIDRChange : Text := "pod-cidr-change"

def podCIDRChangeDetail : Text := "pod-cidr"

inductive HairpinMode where
  | promiscuousBridge
  | hairpinVeth
  | hairpinNone
  deriving DecidableEq, Repr

/-- What `Init` and the flags have set. -/
structure Settings where
  mtu : Int
  hairpinMode : HairpinMode
  ipv6DualStackEnabled : Bool
  deriving DecidableEq, Repr

/-- `netConfig`, by the bytes that it was made from, and `podCIDRs`. -/
structure Config where
  netConfig : Option Text
  podCIDRs : List IPNet
  deriving DecidableEq, Repr

/-- A value of `map[string]interface{}`; the other types are not told apart. -/
inductive Detail where
  | string (s : Text)
  | other
  deriving DecidableEq, Repr

/-- An event with its details, and the answer of `libcni.ConfFromBytes`, should it be asked. -/
structure Event where
  name : Text
  details : List (Text × Detail)
  confFromBytes : Text → Option GoError

/-! ### The network config -/

def createRange (thisNet : IPNet) : Text :=
  "\n[\x7b\n\"subnet\": \"" ++ thisNet.string ++ "\"\n\x7d]"

def getRangesConfig (podCIDRs : List IPNet) : Text := join [','] (podCIDRs.map createRange)

def getRoutesConfig (podCIDRs : List IPNet) : Text :=
  let hasV4 := podCIDRs.any fun thisCIDR => (to4 thisCIDR.ip).isSome
  let hasV6 := podCIDRs.any fun thisCIDR => (to4 thisCIDR.ip).isNone
  let route (dst : Text) : Text := "\x7b\"dst\": \"" ++ dst ++ "\"\x7d"
  join [','] ((if hasV4 then [route zeroCIDRv4] else []) ++ if hasV6 then [route zeroCIDRv6] else [])

/-- `NET_CONFIG_TEMPLATE` with its values. -/
def netConfigTemplate (settings : Settings) (podCIDRs : List IPNet) : Text :=
  "\x7b\n  \"cniVersion\": \"0.1.0\",\n  \"name\": \"kubenet\",\n  \"type\": \"bridge\",\n  \"bridge\": \"" ++
    bridgeName ++ "\",\n  \"mtu\": " ++ itoa settings.mtu ++ ",\n  \"addIf\": \"" ++ defaultInterfaceName ++
    "\",\n  \"isGateway\": true,\n  \"ipMasq\": false,\n  \"hairpinMode\": " ++
    (if settings.hairpinMode = .hairpinVeth then "true" else "false").toList ++
    ",\n  \"ipam\": \x7b\n    \"type\": \"host-local\",\n    \"ranges\": [" ++ getRangesConfig podCIDRs ++
    "],\n    \"routes\": [" ++ getRoutesConfig podCIDRs ++ "]\n  \x7d\n\x7d"

/-! ### Events -/

/-- The detail with the CIDR, if it is there and is a string. -/
def Event.podCIDR (event : Event) : Option Text :=
  match event.details.lookup podCIDRChangeDetail with
  | some (.string podCIDR) => some podCIDR
  | _ => none

/-- The CIDRs of a text; only the first of them if dual stack is not enabled. -/
def splitCIDRs (settings : Settings) (podCIDR : Text) : List Text :=
  let podCIDRs := split podCIDR ','
  if !settings.ipv6DualStackEnabled ∧ 1 < podCIDRs.length then podCIDRs.take 1 else podCIDRs

/-- The loop over the CIDRs: each network is appended as it is parsed. The first one that is not parsed ends it. -/
def appendCIDRs : List Text → List IPNet → Bool × List IPNet
  | [], podCIDRs => (true, podCIDRs)
  | currentPodCIDR :: rest, podCIDRs =>
    match parseCIDR currentPodCIDR with
    | none => (false, podCIDRs)
    | some (_, cidr) => appendCIDRs rest (podCIDRs ++ [cidr])

/-- `Event`. -/
def Event.deliver (settings : Settings) (event : Event) (s : Config) : Config :=
  if event.name ≠ podCIDRChange then s
  else match event.podCIDR with
    | none => s
    | some podCIDR =>
      -- Once there is a config, later CIDRs are ignored.
      if s.netConfig.isSome then s
      else match appendCIDRs (splitCIDRs settings podCIDR) s.podCIDRs with
        | (false, podCIDRs) => { s with podCIDRs }
        | (true, podCIDRs) =>
          let json := netConfigTemplate settings podCIDRs
          match event.confFromBytes json with
          | some _ => { netConfig := none, podCIDRs }
          | none => { netConfig := some json, podCIDRs }

/-- The plugin of `NewPlugin`. -/
def newConfig : Config := { netConfig := none, podCIDRs := [] }

/-- The plugin after a sequence of events. -/
def deliverAll (settings : Settings) (events : List Event) : Config :=
  events.foldl (fun s event => event.deliver settings s) newConfig

end CriDockerd.Kubenet
