import Mathlib.Logic.Function.Basic
import CriDockerd.Errors

/-! The Docker daemon as the sandbox handlers see it (`libdocker`): containers by ID, and calls that answer
    for the container or fail. A call that fails for a reason of its own leaves the containers as they are. -/

namespace CriDockerd.Core
open Text

/-- Labels by key; the first of several with one key counts. -/
abbrev Labels := List (Text × Text)

/-- What `docker inspect` tells of a container. `networkMode` is that of the host config, if there is one. -/
structure Container where
  name : Text
  networkMode : Option Text
  resolvConfPath : Text
  labels : Labels
  deriving DecidableEq, Repr

abbrev Containers := Text → Option Container

/-- The characters of the IDs in Docker's messages, `[0-9a-z]`. -/
def isIDChar (c : Char) : Bool := c.isDigit || c.isLower

/-- `No such container: [0-9a-z]+`, anywhere in the message. -/
def isContainerNotFoundError (err : GoError) : Bool :=
  let needle := "No such container: ".toList
  err.error.tails.any fun t => hasPrefix t needle && (t.drop needle.length).head?.any isIDChar

/-- Docker's answer for a container that it does not have. -/
def noSuchContainer (id : Text) : GoError := .text ("Error response from daemon: No such container: " ++ id)

def inspectContainer (fault : Option GoError) (id : Text) (containers : Containers) : Except GoError Container :=
  match fault, containers id with
  | some err, _ => .error err
  | none, none => .error (noSuchContainer id)
  | none, some container => .ok container

/-- A call on a container that changes nothing of what is modelled of it. -/
def callContainer (fault : Option GoError) (id : Text) (containers : Containers) : Option GoError :=
  match inspectContainer fault id containers with
  | .error err => some err
  | .ok _ => none

def startContainer (fault : Option GoError) (id : Text) (containers : Containers) : Option GoError :=
  callContainer fault id containers

def stopContainer (fault : Option GoError) (id : Text) (containers : Containers) : Option GoError :=
  callContainer fault id containers

def removeContainer (fault : Option GoError) (id : Text) (containers : Containers) : Option GoError × Containers :=
  match callContainer fault id containers with
  | some err => (some err, containers)
  | none => (none, Function.update containers id none)

/-! ### Listing -/

/-- The arguments of a list call. -/
structure ListOptions where
  all : Bool
  labels : Labels
  id : Option Text
  status : Option Text
  deriving DecidableEq, Repr

/-- What a list call tells of a container. -/
structure ListedContainer where
  id : Text
  names : List Text
  image : Text
  imageID : Text
  labels : Labels
  status : Text
  created : Int
  deriving DecidableEq, Repr

/-! ### Name conflicts -/

/-- The ID after ` is already in use by container `, perhaps in quotes. -/
def idInUse (t : Text) : Option Text :=
  let needle := " is already in use by container ".toList
  if hasPrefix t needle then
    match (trimPrefix (t.drop needle.length) ['"']).takeWhile isIDChar with
    | [] => none
    | id => some id
  else none

/-- `Conflict. (?:.)+ is already in use by container \"?([0-9a-z]+)\"?`: the ID of the leftmost match. The
    middle part is greedy and stays on its line. -/
def conflictRE (msg : Text) : Option Text :=
  msg.tails.findSome? fun t =>
    if hasPrefix t "Conflict" then
      match t.drop "Conflict".toList.length with
      | c :: ' ' :: rest =>
        if c = '\n' then none else (rest.takeWhile (· ≠ '\n')).tails.tail.reverse.findSome? idInUse
      | _ => none
    else none

end CriDockerd.Core
