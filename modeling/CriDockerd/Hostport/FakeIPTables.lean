import CriDockerd.Hostport.Manager
import Mathlib.Data.List.AList

/-! The iptables of the tests (`network/hostport/fake_iptables.go`): tables of chains of normalised
    rules, printed by `SaveInto` and changed line by line by `RestoreAll`; and a host to run the manager on. -/

namespace CriDockerd.Hostport
open Text NetIP

/-- The chains of a table, by name, with their rules. -/
abbrev FakeTable := AList fun _ : Text => List Text

/-- The tables that exist, by name. -/
abbrev FakeTables := AList fun _ : Text => FakeTable

namespace FakeTables

/-! ### Chains -/

def getTable (f : FakeTables) (tableName : Text) : Except GoError FakeTable :=
  match f.lookup tableName with
  | none => .error (.text ("table " ++ tableName ++ " does not exist"))
  | some table => .ok table

def getChain (f : FakeTables) (tableName chainName : Text) : Except GoError (FakeTable × List Text) :=
  match f.getTable tableName with
  | .error err => .error err
  | .ok table =>
    match table.lookup chainName with
    | none => .error (.text ("chain " ++ tableName ++ '/' :: chainName ++ " does not exist"))
    | some rules => .ok (table, rules)

/-- Stores the rules of a chain; a table or a chain that is not there is made. -/
def setChain (f : FakeTables) (tableName chainName : Text) (rules : List Text) : FakeTables :=
  f.insert tableName (((f.lookup tableName).getD ∅).insert chainName rules)

/-- The rules of a chain, none for a chain that is not there. -/
def rules (f : FakeTables) (tableName chainName : Text) : List Text :=
  match f.getChain tableName chainName with
  | .error _ => []
  | .ok (_, rules) => rules

def ensureChain (f : FakeTables) (tableName chainName : Text) : FakeTables :=
  match f.getChain tableName chainName with
  | .error _ => f.setChain tableName chainName []
  | .ok _ => f

def flushChain (f : FakeTables) (tableName chainName : Text) : Except GoError FakeTables :=
  match f.getChain tableName chainName with
  | .error err => .error err
  | .ok _ => .ok (f.setChain tableName chainName [])

def deleteChain (f : FakeTables) (tableName chainName : Text) : Except GoError FakeTables :=
  match f.getChain tableName chainName with
  | .error err => .error err
  | .ok (table, _) => .ok (f.insert tableName (table.erase chainName))

/-! ### Rules -/

/-- The argument at the head of a rule, and what follows it. -/
def nextArg : Text → Except GoError (Text × Text)
  -- The source indexes the first byte.
  | [] => .error (.text "runtime error: index out of range [0] with length 0")
  | '"' :: rest =>
    match rest.dropWhile (· ≠ '"') with
    | [] => .error (.text "invalid rule syntax: mismatched quotes")
    | _ :: after => .ok ('"' :: rest.takeWhile (· ≠ '"') ++ ['"'], after)
  | remaining => .ok (remaining.takeWhile (· ≠ ' '), remaining.dropWhile (· ≠ ' '))

/-- `--to-destination=x` as two arguments. -/
def splitDestination (remaining : Text) : Text :=
  if hasPrefix remaining "--to-destination=" then
    "--to-destination " ++ remaining.drop "--to-destination=".toList.length
  else remaining

/-- An address without a mask gets one, as iptables prints it. -/
def normalizeArg (arg : Text) : Text := trimSpace (if parseIP arg ≠ none then arg ++ "/32" else arg)

def appendArg (normalized arg : Text) : Text := (if normalized ≠ [] then normalized ++ [' '] else []) ++ normalizeArg arg

/-- The loop of `normalizeRule`; each turn takes an argument and the character after it. -/
def normalizeLoop : Nat → (normalized remaining : Text) → Except GoError Text
  | 0, _, _ => .error (.text "out of fuel")
  | fuel + 1, normalized, remaining =>
    match nextArg (splitDestination remaining) with
    | .error err => .error err
    | .ok (arg, []) => .ok (appendArg normalized arg)
    | .ok (arg, _ :: remaining) => normalizeLoop fuel (appendArg normalized arg) remaining

def normalizeRule (rule : Text) : Except GoError Text :=
  let remaining := trimSpace rule
  normalizeLoop (remaining.length + 1) [] remaining

-- The address gets a mask, the destination is split off, the quoted comment stays one argument.
example : (normalizeRule "--comment \"a b\" -s 10.1.1.2 -j DNAT --to-destination=10.1.1.2:80").toOption =
    some "--comment \"a b\" -s 10.1.1.2/32 -j DNAT --to-destination 10.1.1.2:80" := by
  decide +kernel

/-- Adds a rule that the chain does not hold; the chain is made before the rule is looked at. -/
def ensureRule (f : FakeTables) (position : RulePosition) (tableName chainName rule : Text) :
    Option GoError × FakeTables :=
  let f := f.ensureChain tableName chainName
  match normalizeRule rule with
  | .error err => (some err, f)
  | .ok rule =>
    let rules := f.rules tableName chainName
    if rule ∈ rules then (none, f)
    else match position with
      | .prepend => (none, f.setChain tableName chainName (rule :: rules))
      | .append => (none, f.setChain tableName chainName (rules ++ [rule]))

/-- An argument with spaces inside, quoted. -/
def quoteArg (arg : Text) : Text := if ' ' ∈ arg then '"' :: arg ++ ['"'] else arg

/-! ### Printing -/

/-- The rules of a chain as lines. -/
def saveChain (chain : Text) (rules : List Text) : List Text :=
  rules.map fun rule => "-A " ++ chain ++ ' ' :: rule

/-- `SaveInto`: the chains in the order in which the map is walked, then the rules in that order. -/
def saveInto (f : FakeTables) (order : FakeTable → List (Text × List Text)) (tableName : Text) : Except GoError Text :=
  match f.getTable tableName with
  | .error err => .error err
  | .ok table =>
    .ok (unlines (('*' :: tableName) ::
      ((order table).map fun chain => ':' :: chain.1 ++ " - [0:0]") ++
      ((order table).flatMap fun chain => saveChain chain.1 chain.2) ++ ["COMMIT".toList]))

/-! ### Restoring -/

/-- The chains that `NewFakeIPTables` knows as built in. -/
def builtinChains (tableName : Text) : List Text :=
  if tableName = "filter" then ["INPUT", "FORWARD", "OUTPUT"]
  else if tableName = tableNAT then [chainPrerouting, "INPUT", chainOutput, chainPostrouting]
  else if tableName = "mangle" then
    [chainPrerouting, "INPUT", "FORWARD", chainOutput, chainPostrouting]
  else []

def isBuiltinChain (tableName chainName : Text) : Bool := chainName ∈ builtinChains tableName

def invalidRule (line : Text) : GoError := .text ("invalid iptables rule '" ++ line ++ ['\''])

/-- A line `:chain …`. -/
def restoreChain (f : FakeTables) (allLines : Text) (flush : Bool) (tableName line : Text) : Option GoError × FakeTables :=
  let chainName := (split (line.drop 1) ' ').headD []
  match (if flush then f.deleteChain tableName chainName else .ok f) with
  | .error err => (some err, f)
  | .ok f =>
    let f := f.ensureChain tableName chainName
    -- Not flushing spares the built-in chains only, and the chains that the same text deletes.
    if !isBuiltinChain tableName chainName && !contains allLines ("-X " ++ chainName) then
      match f.flushChain tableName chainName with
      | .error err => (some err, f)
      | .ok f => (none, f)
    else (none, f)

/-- A line `-A chain rule` or `-I chain rule`. -/
def restoreRule (f : FakeTables) (position : RulePosition) (option : Text) (tableName line : Text) :
    Option GoError × FakeTables :=
  match split line ' ' with
  | _ :: chainName :: _ :: _ =>
    f.ensureRule position tableName chainName (trimPrefix line (option ++ ' ' :: chainName ++ [' ']))
  | _ => (some (invalidRule line), f)

/-- A line `-X chain`. -/
def restoreDelete (f : FakeTables) (tableName line : Text) : Option GoError × FakeTables :=
  match split line ' ' with
  | _ :: chainName :: _ =>
    match f.deleteChain tableName chainName with
    | .error err => (some err, f)
    | .ok f => (none, f)
  | _ => (some (invalidRule line), f)

/-- The lines of a restore; the table is the one that the last `*` line names, if any. -/
def restoreLoop (allLines restoreTableName : Text) (flush : Bool) : List Text → Text → FakeTables →
    Option GoError × FakeTables
  | [], _, f => (none, f)
  | line :: rest, tableName, f =>
    let continue_ := restoreLoop allLines restoreTableName flush rest
    if hasPrefix line ['#'] then continue_ tableName f
    else
      let tableName := if hasPrefix line ['*'] then line.drop 1 else tableName
      if tableName = [] then continue_ tableName f
      else if restoreTableName ≠ [] ∧ restoreTableName ≠ tableName then continue_ tableName f
      else
        let restored :=
          if hasPrefix line [':'] then f.restoreChain allLines flush tableName line
          else if hasPrefix line "-A" then f.restoreRule .append "-A" tableName line
          else if hasPrefix line "-I" then f.restoreRule .prepend "-I" tableName line
          else if hasPrefix line "-X" then f.restoreDelete tableName line
          else (none, f)
        match restored with
        | (some err, f) => (some err, f)
        | (none, f) =>
          if line = "COMMIT" then
            if restoreTableName = tableName then (none, f) else continue_ [] f
          else continue_ tableName f

def restore (f : FakeTables) (restoreTableName data : Text) (flush : Bool) : Option GoError × FakeTables :=
  restoreLoop data restoreTableName flush (lines data) [] f

end FakeTables

/-- The interface of the fake. The order is that of a walk over the chains of a table. -/
def fakeIPTables (isIPv6 : Bool) (order : FakeTable → List (Text × List Text)) : IPTables FakeTables where
  isIPv6 := isIPv6
  ensureChain tableName chainName f := (none, f.ensureChain tableName chainName)
  ensureRule position tableName chainName args f :=
    f.ensureRule position tableName chainName (join [' '] (args.map FakeTables.quoteArg))
  saveInto tableName f := (f.saveInto order tableName, f)
  restoreAll data f := f.restore [] data false

/-- The walk over the chains in the order in which the model keeps them. -/
def FakeTable.walk (table : FakeTable) : List (Text × List Text) := table.entries.map fun chain => (chain.1, chain.2)

/-! ### A host -/

/-- The `net` package of a host that has these sockets open and nothing else. -/
def Net.ofSockets (sockets : List (Socket × HostPort)) : Net :=
  let listen := fun network address =>
    if sockets.any fun x => x.2.network == network && x.2.address == address then
      some (.text ("listen " ++ network ++ ' ' :: address ++ ": bind: address already in use"))
    else none
  { listen := listen, resolveUDPAddr := fun _ _ => none, listenUDP := listen }

/-- A host with the fake iptables, whose sockets close. -/
def fakeHost (isIPv6 : Bool) : Env FakeTables where
  iptables := fakeIPTables isIPv6 FakeTable.walk
  portOpener sockets hp := openLocalPort (Net.ofSockets sockets) hp
  close _ := none
  execer := true
  conntrackFound := false

end CriDockerd.Hostport
