import CriDockerd.Bandwidth.Tc

/-! The set up of the interface (`network/bandwidth/linux.go`): the shaper adds a qdisc at the root, and deletes one that
    is not its own before. Packets that no filter is for go to the default class of the qdisc, if there is such a class. -/

namespace CriDockerd.Bandwidth
open Text

/-- The answers to the commands for qdiscs. -/
structure SetupEnv where
  qdiscShow : Except GoError Text
  qdiscDelete : Option GoError
  qdiscAdd : Option GoError

/-! ### Calls -/

section
variable (env : SetupEnv) (iface : Text)

/-- The line of the qdisc, if there is one. -/
def interfaceExists : Except GoError (Option Text) :=
  match env.qdiscShow with
  | .error err => .error err
  | .ok data =>
    let value := trimSpace data
    if value = [] then .ok none
    -- Newer versions of tc and/or the kernel return `qdisc noqueue 0: root refcnt 2` instead of nothing
    else if (fields value)[1]? = some "noqueue".toList then .ok none
    else .ok (some value)

/-- The result, and the arguments of the commands so far. -/
abbrev Setup := Outcome GoError Unit × List (List Text)

def initializeInterface (args : List (List Text)) : Setup :=
  let args := args ++ [["qdisc".toList, "add", "dev", iface, "root", "handle", "1:",
    "htb", "default", "30"]]
  match env.qdiscAdd with
  | some err => (.error err, args)
  | none => (.ok (), args)

/-- The third field of the line is read without a check. -/
def reconcileInterface : Setup :=
  let args := [["qdisc".toList, "show", "dev", iface]]
  match interfaceExists env with
  | .error err => (.error err, args)
  | .ok none => initializeInterface env iface args
  | .ok (some output) =>
    let fields := split output ' '
    if fields.length < 12 ∨ fields[1]? ≠ some "htb".toList ∨ fields[2]? ≠ some "1:".toList then
      match fields[2]? with
      | none => (.panic, args)
      | some handle =>
        let args := args ++ [["qdisc".toList, "delete", "dev", iface, "root", "handle", handle]]
        match env.qdiscDelete with
        | some err => (.error err, args)
        | none => initializeInterface env iface args
    else (.ok (), args)

end

/-! ### Qdiscs -/

/-- A htb qdisc: its handle, and the number of its default class. -/
structure Qdisc where
  handle : Text
  default : Text
  deriving DecidableEq

/-- What `tc` makes of the arguments for a htb qdisc at the root. -/
def rootHtb : List Text → Option Qdisc
  | [qdisc, add, dev, _, root, h, handle, htb, d, default] =>
    if [qdisc, add, dev, root, h, htb, d] = ["qdisc".toList, "add", "dev", "root", "handle",
        "htb", "default"] then some { handle, default }
    else none
  | _ => none

def Qdisc.defaultClass (q : Qdisc) : Text := q.handle ++ q.default

/-- The rate that packets are limited to that no filter is for. -/
def Qdisc.unclassifiedRate (q : Qdisc) (s : Interface) : Option Rate :=
  (s.classes.find? fun c => c.id = q.defaultClass).map (·.rate)

end CriDockerd.Bandwidth
