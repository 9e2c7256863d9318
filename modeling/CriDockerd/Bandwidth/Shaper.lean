import CriDockerd.Bandwidth.Tc
import CriDockerd.Lib.Scan

/-! The shaper (`network/bandwidth/linux.go`): it keeps no state of its own, and finds out what it has done from what
    `tc` prints. The set up of the interface and the list of its CIDRs have modules of their own. -/

namespace CriDockerd.Bandwidth
open Text NetIP

/-! ### What `tc` prints -/

/-- The class ID in `class htb (1:\d+)`. -/
def classShowMatcher (line : Text) : Option Text :=
  firstMatch (fun s => do
    let s ← matchLiteral "class htb 1:" s
    let (digits, _) ← matchDigits s
    return "1:" ++ digits) line

/-- The handle in `fh (\d+::\d+)`, and what follows it. -/
def matchHandle (s : Text) : Option (Text × Text) := do
  let s ← matchLiteral "fh " s
  let (table, s) ← matchDigits s
  let s ← matchLiteral "::" s
  let (node, s) ← matchDigits s
  return (table ++ "::" ++ node, s)

/-- The class ID in `flowid (\d+:\d+)`. -/
def matchFlowid (s : Text) : Option Text := do
  let s ← matchLiteral "flowid " s
  let (major, s) ← matchDigits s
  let s ← matchLiteral ":" s
  let (minor, _) ← matchDigits s
  return major ++ ":" ++ minor

/-- The handle and the class ID in `filter parent 1:.*fh (\d+::\d+).*flowid (\d+:\d+)`. -/
def classAndHandleMatcher (line : Text) : Option (Text × Text) :=
  firstMatch (fun s => do
    let s ← matchLiteral "filter parent 1:" s
    lastMatch (fun s => do
      let (handle, s) ← matchHandle s
      let flowid ← lastMatch matchFlowid s
      return (handle, flowid)) s) line

/-- The loop over the lines of `tc class show`. -/
def scanClasses : List Text → List Text → Except GoError (List Text)
  | [], classes => .ok classes
  | text :: rest, classes =>
    let line := trimSpace text
    if line = [] then scanClasses rest classes
    else match classShowMatcher line with
      | none => .error (.text ("unexpected output from tc: " ++ text ++ " ([])"))
      | some class_ => scanClasses rest (class_ :: classes)

/-- A CIDR in hexadecimal, with the masked parts of the address stripped. -/
def hexCIDR (cidr : Text) : Except GoError Text :=
  match parseCIDRSloppy cidr with
  | none => .error (.text ("invalid CIDR address: " ++ cidr))
  | some (ip, ipnet) => .ok (hexString ((maskIP ip ipnet.mask).getD []) ++ '/' :: hexString ipnet.mask)

/-- The loop over the lines of `tc filter show`: a line that has the CIDR belongs to the last line of a filter. -/
def scanFilters (spec : Text) : List Text → Text → List (Text × Text) → Except GoError (List (Text × Text))
  | [], _, classAndHandleList => .ok classAndHandleList
  | text :: rest, filter, classAndHandleList =>
    let line := trimSpace text
    if line = [] then scanFilters spec rest filter classAndHandleList
    else if hasPrefix line "filter" then scanFilters spec rest line classAndHandleList
    else if contains line spec then
      match classAndHandleMatcher filter with
      | none => .error (.text ("unexpected output from tc: " ++ filter ++ " 0 ([])"))
      | some (handle, class_) => scanFilters spec rest filter (classAndHandleList ++ [(class_, handle)])
    else scanFilters spec rest filter classAndHandleList

/-! ### Calls -/

section
variable (env : Env)

def nextClassID (w : World) : Except GoError Nat × World :=
  match exec env .classShow w with
  | (.error err, w) => (.error err, w)
  | (.ok data, w) =>
    match scanClasses data [] with
    | .error err => (.error err, w)
    | .ok classes =>
      -- Make sure it doesn't go forever
      match (List.range' 1 9999).find? fun nextClass => classID nextClass ∉ classes with
      | some nextClass => (.ok nextClass, w)
      | none => (.error (.text "exhausted class space, please try again"), w)

/-- The classes and handles of the filters for a CIDR; it is found if there is one. -/
def findCIDRClass (cidr : Text) (w : World) : Except GoError (List (Text × Text)) × World :=
  match exec env .filterShow w with
  | (.error err, w) => (.error err, w)
  | (.ok data, w) =>
    match hexCIDR cidr with
    | .error err => (.error err, w)
    | .ok hex => (scanFilters ("match " ++ hex) data [] [], w)

/-- The rate of a quantity in bits per second. -/
def makeKBitString (rsrc : Int) : Rate := ⟨rsrc.tdiv 1000⟩

def makeNewClass (rate : Rate) (w : World) : Except GoError Nat × World :=
  match nextClassID env w with
  | (.error err, w) => (.error err, w)
  | (.ok class_, w) =>
    match exec env (.classAdd class_ rate) w with
    | (.error err, w) => (.error err, w)
    | (.ok _, w) => (.ok class_, w)

/-- The part of `Limit` for one direction, if a quantity is given for it. -/
def limitDirection (cidr : Text) (direction : Direction) (quantity : Option Int) (w : World) : Option GoError × World :=
  match quantity with
  | none => (none, w)
  | some quantity =>
    match makeNewClass env (makeKBitString quantity) w with
    | (.error err, w) => (some err, w)
    | (.ok class_, w) =>
      match exec env (.filterAdd direction cidr class_) w with
      | (.error err, w) => (some err, w)
      | (.ok _, w) => (none, w)

def limit (cidr : Text) (upload download : Option Int) (w : World) : Option GoError × World :=
  match limitDirection env cidr .dst download w with
  | (some err, w) => (some err, w)
  | (none, w) => limitDirection env cidr .src upload w

/-- A CIDR that is found is left as it is. -/
def reconcileCIDR (cidr : Text) (upload download : Option Int) (w : World) : Option GoError × World :=
  match findCIDRClass env cidr w with
  | (.error err, w) => (some err, w)
  | (.ok [], w) => limit env cidr upload download w
  | (.ok (_ :: _), w) => (none, w)

/-- The loop of `Reset`. -/
def resetAll : List (Text × Text) → World → Option GoError × World
  | [], w => (none, w)
  | (class_, handle) :: rest, w =>
    match exec env (.filterDel handle) w with
    | (.error err, w) => (some err, w)
    | (.ok _, w) =>
      match exec env (.classDel class_) w with
      | (.error err, w) => (some err, w)
      | (.ok _, w) => resetAll rest w

def reset (iface cidr : Text) (w : World) : Option GoError × World :=
  match findCIDRClass env cidr w with
  | (.error err, w) => (some err, w)
  | (.ok [], w) =>
    (some (.text ("Failed to find cidr: " ++ cidr ++ " on interface: " ++ iface)), w)
  | (.ok classAndHandle, w) => resetAll env classAndHandle w

end

/-- A call of the shaper. -/
inductive Call where
  | limit (cidr : Text) (upload download : Option Int)
  | reconcileCIDR (cidr : Text) (upload download : Option Int)
  | reset (iface cidr : Text)

/-- The interface after a call. -/
def Call.run (env : Env) : Call → World → World
  | .limit cidr upload download, w => (Bandwidth.limit env cidr upload download w).2
  | .reconcileCIDR cidr upload download, w => (Bandwidth.reconcileCIDR env cidr upload download w).2
  | .reset iface cidr, w => (Bandwidth.reset env iface cidr w).2

end CriDockerd.Bandwidth
