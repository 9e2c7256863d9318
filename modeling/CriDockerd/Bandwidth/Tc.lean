import CriDockerd.Errors
import CriDockerd.Lib.Cidr

/-! The tool `tc`, which is no part of the repository, as far as the shaper uses it on one interface: the htb classes and
    the u32 filters that the kernel has, what the commands do to them, and how they are printed. A command that fails
    changes nothing. -/

namespace CriDockerd.Bandwidth
open Text NetIP

/-- A class ID as the shaper writes it. -/
def classID (class_ : Nat) : Text := "1:" ++ itoa class_

/-- The number that `tc` reads in a class ID of the shaper: to `tc` the digits are hexadecimal. -/
def minorOf (class_ : Nat) : Nat := Nat.ofDigitChars 16 (itoa class_) 0

def hex (n : Nat) : Text := Nat.toDigits 16 n

/-- A number that is left out when it is 0. -/
def hexOr (n : Nat) : Text := if n = 0 then [] else hex n

/-- A rate in kbit, as the shaper writes it. -/
structure Rate where
  kbit : Int
  deriving DecidableEq, Repr

structure HtbClass where
  minor : Nat
  rate : Rate
  deriving DecidableEq, Repr

/-- The ID of a class as `tc` prints it. -/
def HtbClass.id (c : HtbClass) : Text := "1:" ++ hexOr c.minor

/-- The class of an ID that the shaper has written. -/
def HtbClass.ofID (class_ : Nat) (rate : Rate) : HtbClass := ⟨minorOf class_, rate⟩

/-- The field of a packet that a filter matches. -/
inductive Direction where
  | dst
  | src
  deriving DecidableEq, Repr

/-- The value and the mask of a u32 filter: four bytes each. -/
structure U32Match where
  net : IPNet
  ip_length : net.ip.length = 4
  mask_length : net.mask.length = 4
  deriving DecidableEq

/-- The number of a filter in its table, which the kernel picks between 0x800 and 0xfff. -/
structure Node where
  hi : Fin 16
  mid : Fin 16
  lo : Fin 16
  deriving DecidableEq, Repr

/-- A filter of the shaper, with the number of its class as the shaper has written it. -/
structure U32Filter where
  node : Node
  direction : Direction
  network : U32Match
  flowid : Nat
  deriving DecidableEq

namespace U32Filter
variable (f : U32Filter)

/-- The handle of a filter; its numbers are hexadecimal. -/
def handle : Text := "800::" ++ [f.node.hi.val.digitChar, f.node.mid.val.digitChar, f.node.lo.val.digitChar]

def order : Text := itoa (256 * f.node.hi.val + 16 * f.node.mid.val + f.node.lo.val : Nat)

def classid : Text := "1:" ++ hex (minorOf f.flowid)

end U32Filter

structure Interface where
  classes : List HtbClass
  filters : List U32Filter
  deriving DecidableEq

/-! ### Printing -/

/-- The versions of `tc` that the shaper knows. -/
inductive Version where
  | old
  | new
  deriving DecidableEq, Repr

def classLine (c : HtbClass) : Text :=
  let rate := itoa c.rate.kbit ++ "Kbit"
  join [' '] ["class", "htb", c.id, "root", "prio", "0", "rate", rate,
    "ceil", rate, "burst", "1600b", "cburst", "1600b"]

/-- The words that every line of a filter starts with. -/
def filterWords : List Text :=
  ["filter", "parent", "1:", "protocol", "ip", "pref", "1", "u32"]

/-- The words before the handle of a filter. -/
def Version.head : Version → List Text
  | .old => filterWords
  | .new => filterWords ++ ["chain".toList, "0"]

/-- The lines before those of the filters. -/
def Version.header (version : Version) : List Text :=
  [join [' '] filterWords,
    join [' '] (version.head ++ ["fh".toList, "800:", "ht", "divisor", "1"])]

/-- The words after the class ID of a filter. -/
def Version.tail : Version → List Text
  | .old => []
  | .new => ["not_in_hw"]

/-- The first line of a filter. -/
def filterLine (version : Version) (handle order flowid : Text) : Text :=
  join [' '] (version.head ++ "fh".toList :: handle :: "order" :: order :: "key" :: "ht" ::
    "800".toList :: "bkt" :: "0" :: "flowid" :: flowid :: version.tail)

/-- The second line of a filter. -/
def matchLine (net : IPNet) (direction : Direction) : Text :=
  join [' '] ["match", hexString net.ip ++ '/' :: hexString net.mask, "at",
    match direction with
    | .dst => "16"
    | .src => "12"]

def U32Filter.lines (version : Version) (f : U32Filter) : List Text :=
  [filterLine version f.handle f.order f.classid, ' ' :: ' ' :: matchLine f.network.net f.direction]

/-! ### Commands -/

/-- The commands of the shaper, by the arguments that differ. -/
inductive Command where
  | classShow
  | filterShow
  | classAdd (class_ : Nat) (rate : Rate)
  | filterAdd (direction : Direction) (cidr : Text) (flowid : Nat)
  | filterDel (handle : Text)
  | classDel (classid : Text)
  deriving DecidableEq, Repr

/-- What is `tc`'s and the kernel's own: how a CIDR is read, if it is taken at all, and which number a new filter gets,
    given those in use. A CIDR that the shaper can parse is read as the shaper does. -/
structure Tc where
  version : Version
  network : Text → Option U32Match
  node : List Node → Option Node
  network_eq : ∀ {cidr m ip net}, network cidr = some m → parseCIDRSloppy cidr = some (ip, net) → m.net = net
  node_fresh : ∀ {used n}, node used = some n → n ∉ used

/-- What a command prints and does, if it is not refused. A class is not deleted while a filter points to it. -/
def Tc.exec (tc : Tc) : Command → Interface → Option (List Text × Interface)
  | .classShow, s => some (s.classes.map classLine, s)
  | .filterShow, s =>
    some (if s.filters = [] then [] else tc.version.header ++ s.filters.flatMap (U32Filter.lines tc.version), s)
  | .classAdd class_ rate, s =>
    if minorOf class_ ∈ s.classes.map (·.minor) then none
    else some ([], { s with classes := s.classes ++ [.ofID class_ rate] })
  | .filterAdd direction cidr flowid, s =>
    match tc.network cidr, tc.node (s.filters.map (·.node)) with
    | some network, some node => some ([], { s with filters := s.filters ++ [⟨node, direction, network, flowid⟩] })
    | _, _ => none
  | .filterDel handle, s =>
    if handle ∈ s.filters.map (·.handle) then some ([], { s with filters := s.filters.filter fun f => f.handle ≠ handle })
    else none
  | .classDel classid, s =>
    if classid ∈ s.classes.map (·.id) ∧ classid ∉ s.filters.map (·.classid) then
      some ([], { s with classes := s.classes.filter fun c => c.id ≠ classid })
    else none

/-- The interface, and the commands so far, with whether they have succeeded. -/
structure World where
  iface : Interface
  log : List (Command × Bool)
  deriving DecidableEq

/-- `tc`, and the failures of single commands that are not its own: which command of the run fails, and with what. -/
structure Env where
  tc : Tc
  faults : Nat → Command → Option GoError

/-- A command that fails changes nothing. -/
def exec (env : Env) (cmd : Command) (w : World) : Except GoError (List Text) × World :=
  match env.faults w.log.length cmd with
  | some err => (.error err, { w with log := w.log ++ [(cmd, false)] })
  | none =>
    match env.tc.exec cmd w.iface with
    | none => (.error (.text "exit status 2"), { w with log := w.log ++ [(cmd, false)] })
    | some (data, iface) => (.ok data, { iface, log := w.log ++ [(cmd, true)] })

/-! ### A kernel -/

/-- The IPv4 network of a CIDR. -/
def ipv4Network (cidr : Text) : Option U32Match :=
  match parseCIDRSloppy cidr with
  | none => none
  | some (_, net) => if h : net.ip.length = 4 ∧ net.mask.length = 4 then some ⟨net, h.1, h.2⟩ else none

def nodeOf (n : Nat) : Node := ⟨Fin.ofNat 16 (n / 256), Fin.ofNat 16 (n / 16), Fin.ofNat 16 n⟩

/-- The kernel takes the first number that is free. -/
def linuxTc (version : Version) : Tc where
  version
  network := ipv4Network
  node used := ((List.range' 0x800 0x800).map nodeOf).find? (· ∉ used)
  network_eq h hparse := by
    rw [ipv4Network, hparse] at h
    dsimp only at h
    split at h
    · cases h
      rfl
    · cases h
  node_fresh h := by simpa using List.find?_some h

end CriDockerd.Bandwidth
