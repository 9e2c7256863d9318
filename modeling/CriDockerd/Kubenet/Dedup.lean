import CriDockerd.Lib.Cidr
import CriDockerd.Lib.Threads

/-! The ebtables rules with which kubenet drops duplicate packets of a promiscuous bridge: `syncEbtablesDedupRules`
    of `network/kubenet/kubenet_linux.go`, over the runner of `k8s.io/utils/net/ebtables`. Pods are set up at the
    same time, so a sync is a thread; a step is a command, which may fail. -/

namespace CriDockerd.Kubenet.Dedup
open Text NetIP

/-- A rule, as the arguments that make it and as the line in which ebtables lists it. -/
structure Rule where
  line : Text
  oneLine : '\n' ∉ line
  trimmed : trimSpace line = line
  deriving DecidableEq

inductive Target where
  | accept
  | drop
  deriving DecidableEq, Repr

def Target.name : Target → Text
  | .accept => "ACCEPT"
  | .drop => "DROP"

/-- The target of a rule; none for one that leaves the packet to the rules after it. -/
def Rule.target (r : Rule) : Option Target :=
  if hasSuffix r.line (" -j " ++ Target.accept.name) then some .accept
  else if hasSuffix r.line (" -j " ++ Target.drop.name) then some .drop
  else none

/-! ### The rules of a sync -/

/-- `HardwareAddr.String` -/
def macString (mac : List UInt8) : Text := join [':'] (mac.map hexByte)

/-- The arguments of a rule for packets from the bridge to a pod with a given source. -/
def dedupArgs (mac : List UInt8) (bIsV6 : Bool) (src : Text) (target : Target) : List Text :=
  ["-p", if bIsV6 then "IPv6" else "IPv4", "-s", macString mac, "-o", "veth+",
    if bIsV6 then "--ip6-src" else "--ip-src", src, "-j", target.name]

theorem newline_not_mem_hexString (bytes : List UInt8) : '\n' ∉ hexString bytes := by
  intro h
  obtain ⟨a, ha⟩ := exists_digit_of_mem_hexString h
  revert a
  decide

theorem newline_not_mem_macString (mac : List UInt8) : '\n' ∉ macString mac := by
  intro h
  rcases mem_join h with h | ⟨w, hw, h⟩
  · exact absurd h (by decide)
  · obtain ⟨b, -, rfl⟩ := List.mem_map.mp hw
    exact newline_not_mem_hexString [b] (List.mem_flatMap.mpr ⟨b, List.mem_singleton_self b, h⟩)

theorem newline_not_mem_ipString (ip : IP) : '\n' ∉ ipString ip := by
  intro h
  by_cases h16 : to16 ip = none
  -- A slice that is no address is printed as `<nil>` or in hexadecimal digits.
  · have h4 : to4 ip = none := by
      rw [to16] at h16
      rw [to4]
      split at h16
      · cases h16
      · split at h16
        · cases h16
        · rw [if_neg ‹_›, if_neg fun hlength => ‹¬ip.length = 16› hlength.1]
    rw [ipString, h4, h16] at h
    split at h
    · exact absurd h (by decide)
    · rcases List.mem_cons.mp h with h | h
      · exact absurd h (by decide)
      · exact newline_not_mem_hexString ip h
  · rcases isAddressChar_of_mem_ipString h16 h with h | h | h <;> exact absurd h (by decide)

theorem newline_not_mem_ipNet (n : IPNet) : '\n' ∉ n.string := by
  have hslash (ip : IP) {t : Text} (ht : '\n' ∉ t) : '\n' ∉ ipString ip ++ '/' :: t := by
    simp only [List.mem_append, List.mem_cons, not_or]
    exact ⟨newline_not_mem_ipString ip, by decide, ht⟩
  rw [IPNet.string]
  split
  · decide
  · split
    · exact hslash _ (newline_not_mem_hexString _)
    · exact hslash _ fun h => absurd (isDigit_of_mem_itoa h) (by decide)

theorem newline_not_mem_dedupArgs (mac : List UInt8) (bIsV6 : Bool) {src : Text} (hsrc : '\n' ∉ src) (target : Target) :
    '\n' ∉ join [' '] (dedupArgs mac bIsV6 src target) := by
  have hargs : ∀ w ∈ dedupArgs mac bIsV6 src target, '\n' ∉ w := by
    simp only [dedupArgs, List.forall_mem_cons]
    exact ⟨by decide, by cases bIsV6 <;> decide, by decide, newline_not_mem_macString mac, by decide, by decide,
      by cases bIsV6 <;> decide, hsrc, by decide, by cases target <;> decide, nofun⟩
  intro h
  rcases mem_join h with h | ⟨w, hw, h⟩
  · exact absurd h (by decide)
  · exact hargs w hw h

theorem trimSpace_words {first last : Text} (hfirst : IsWord first) (hlast : IsWord last) (middle : Text) :
    trimSpace (first ++ middle ++ last) = first ++ middle ++ last := by
  refine trimSpace_eq_self (fun c t h => ?_) fun t c h => ?_
  · refine (hfirst.2 c ?_).1
    cases first with
    | nil => exact absurd rfl hfirst.ne_nil
    | cons d first => exact List.mem_cons.mpr (Or.inl (List.cons.inj h).1.symm)
  · refine (hlast.2 c ?_).1
    have hc : (first ++ middle ++ last).getLast? = some c := by rw [h, List.getLast?_concat]
    rw [List.getLast?_append_of_ne_nil _ hlast.ne_nil] at hc
    exact List.mem_of_getLast? hc

theorem join_dedupArgs (mac : List UInt8) (bIsV6 : Bool) (src : Text) (target : Target) :
    ∃ middle, join [' '] (dedupArgs mac bIsV6 src target) = "-p".toList ++ middle ++ (" -j ".toList ++ target.name) := by
  refine ⟨([if bIsV6 then "IPv6".toList else "IPv4", "-s", macString mac, "-o", "veth+",
    if bIsV6 then "--ip6-src" else "--ip-src", src].flatMap (' ' :: ·)), ?_⟩
  simp only [dedupArgs, join_cons, List.flatMap_cons, List.flatMap_nil, List.append_nil, List.append_assoc]
  rfl

theorem trimSpace_dedupArgs (mac : List UInt8) (bIsV6 : Bool) (src : Text) (target : Target) :
    trimSpace (join [' '] (dedupArgs mac bIsV6 src target)) = join [' '] (dedupArgs mac bIsV6 src target) := by
  obtain ⟨middle, h⟩ := join_dedupArgs mac bIsV6 src target
  have htarget : IsWord target.name := by cases target <;> decide
  rw [h, ← List.append_assoc, List.append_assoc "-p".toList]
  exact trimSpace_words (by decide) htarget _

/-- The rule for packets with a given source. -/
def dedupRule (mac : List UInt8) (bIsV6 : Bool) (src : Text) (hsrc : '\n' ∉ src) (target : Target) : Rule where
  line := join [' '] (dedupArgs mac bIsV6 src target)
  oneLine := newline_not_mem_dedupArgs mac bIsV6 hsrc target
  trimmed := trimSpace_dedupArgs mac bIsV6 src target

/-- Packets from the gateway are accepted. -/
def acceptRule (mac : List UInt8) (gw : IP) : Rule :=
  dedupRule mac (isIPv6 gw) (ipString gw) (newline_not_mem_ipString gw) .accept

/-- Packets from the network of the pod are dropped; its family is the one of the gateway. -/
def dropRule (mac : List UInt8) (gw : IP) (podCIDR : IPNet) : Rule :=
  dedupRule mac (isIPv6 gw) podCIDR.string (newline_not_mem_ipNet podCIDR) .drop

def jumpRule : Rule := ⟨"-j KUBE-DEDUP", by decide, by decide⟩

/-- What CNI reports for a family: the address of the pod with its mask, and the gateway. -/
structure IPConfig where
  ip : IP
  mask : List UInt8
  gateway : IP

/-- The gateways of a pod with the network of each, as `setup` collects them. -/
def podNetworks (ip4 ip6 : Option IPConfig) : List (IP × IPNet) :=
  (ip4.map fun c => (c.gateway, { ip := (maskIP ((to4 c.ip).getD []) c.mask).getD [], mask := c.mask })).toList ++
  (ip6.map fun c => (c.gateway, { ip := (maskIP c.ip c.mask).getD [], mask := c.mask })).toList

/-! ### The runner -/

inductive Chain where
  | output
  | dedup
  deriving DecidableEq, Repr

def Chain.name : Chain → Text
  | .output => "OUTPUT"
  | .dedup => "KUBE-DEDUP"

inductive Position where
  | prepend
  | append
  deriving DecidableEq, Repr

/-- Whether the plugin has its runner, and the chains of the filter table; `dedup` is none until it is made. -/
structure State where
  ebtables : Bool
  output : List Rule
  dedup : Option (List Rule)

namespace State

def rules (s : State) : Chain → Option (List Rule)
  | .output => some s.output
  | .dedup => s.dedup

def setRules (s : State) : Chain → List Rule → State
  | .output, rules => { s with output := rules }
  | .dedup, rules => { s with dedup := some rules }

end State

/-- The output of `ebtables -L` with full MAC addresses. -/
def listing (chain : Chain) (rules : List Rule) : Text :=
  unlines (["Bridge table: filter".toList, [],
    "Bridge chain: " ++ chain.name ++ ", entries: " ++ itoa rules.length ++ ", policy: ACCEPT"] ++
    rules.map Rule.line)

def checkIfRuleExists (listChainOutput rule : Text) : Bool :=
  (split listChainOutput '\n').any fun line => trimSpace line == rule

def insertRule (rule : Rule) (rules : List Rule) : Position → List Rule
  | .prepend => rule :: rules
  | .append => rules ++ [rule]

/-- Whether the two commands of `EnsureRule` or `EnsureChain` succeed, where nothing else makes them fail. -/
structure EnsureEnv where
  list : Bool
  change : Bool

/-- The listing of a chain; a listing that fails counts as one without the rule. -/
def listRules (ok : Bool) (chain : Chain) (rule : Rule) : Thread State Bool := .atom fun s =>
  (ok && (s.rules chain).any fun rules => checkIfRuleExists (listing chain rules) rule.line, s)

def addRule (ok : Bool) (position : Position) (chain : Chain) (rule : Rule) : Thread State Bool := .atom fun s =>
  match ok, s.rules chain with
  | true, some rules => (true, s.setRules chain (insertRule rule rules position))
  | _, _ => (false, s)

/-- Whether the rule is there at the end. -/
def ensureRule (env : EnsureEnv) (position : Position) (chain : Chain) (rule : Rule) : Thread State Bool := do
  match ← listRules env.list chain rule with
  | true => pure true
  | false => addRule env.change position chain rule

/-- `ebtables -N` refuses a chain that exists. -/
def createChain (ok : Bool) : Thread State Bool := .atom fun s =>
  match ok, s.dedup with
  | true, none => (true, { s with dedup := some [] })
  | _, _ => (false, s)

def ensureChain (env : EnsureEnv) : Thread State Bool := do
  match ← .atom fun s => (env.list && s.dedup.isSome, s) with
  | true => pure true
  | false => createChain env.change

/-- A chain that does not exist is left as it is. -/
def flushChain (ok : Bool) : Thread State Unit := .atom fun s =>
  ((), if ok then { s with dedup := s.dedup.map fun _ => [] } else s)

/-! ### A sync -/

/-- What a sync meets: the outcomes of its commands, those for the gateways by their number. -/
structure SyncEnv where
  flush : Bool
  version : Bool
  chain : EnsureEnv
  jump : EnsureEnv
  accept : Nat → EnsureEnv
  drop : Nat → EnsureEnv

/-- The loop over the gateways; the first error ends it. -/
def ensureGateways (env : SyncEnv) (macAddr : List UInt8) : (idx : Nat) → List (IP × IPNet) → Thread State Bool
  | _, [] => pure true
  | idx, (gw, podCIDR) :: rest => do
    match ← ensureRule (env.accept idx) .prepend .dedup (acceptRule macAddr gw) with
    | false => pure false
    | true =>
      match ← ensureRule (env.drop idx) .append .dedup (dropRule macAddr gw podCIDR) with
      | false => pure false
      | true => ensureGateways env macAddr (idx + 1) rest

/-- The first use of the runner flushes the chain; a failure to do so is only logged. -/
def ensureRunner (env : SyncEnv) : Thread State Unit := do
  match ← .atom fun s => (s.ebtables, s) with
  | true => pure ()
  | false => do
    Thread.atom fun s => ((), { s with ebtables := true })
    flushChain env.flush

/-- The sync, with whether it has got to its end. -/
def syncEbtablesDedupRules (env : SyncEnv) (macAddr : List UInt8) (networks : List (IP × IPNet)) : Thread State Bool := do
  ensureRunner env
  if !env.version then pure false
  else
    match ← ensureChain env.chain with
    | false => pure false
    | true =>
      match ← ensureRule env.jump .append .output jumpRule with
      | false => pure false
      | true => ensureGateways env macAddr 0 networks

end CriDockerd.Kubenet.Dedup
