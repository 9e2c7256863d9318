import CriDockerd.Core.Sandbox

/-! The symbolic links to container logs (`core/logs.go`, `core/container_start.go`, `core/container_remove.go`). Docker
    writes a log where it likes; the kubelet finds it under the path that it put into a label of the container, as a
    link that is made when the container is started and removed with the container. -/

namespace CriDockerd.Core.LogLinks
open Text

/-- The links of the log directories, with what they lead to. -/
abbrev Links := Text → Option Text

/-- `os.Remove`; a fault is not one of a file that is missing. -/
def osRemove (fault : Option GoError) (path : Text) (links : Links) : Option FsError × Links :=
  match fault, links path with
  | some err, _ => (some (.other err), links)
  | none, none => (some (.notExist "remove" path), links)
  | none, some _ => (none, Function.update links path none)

/-- `os.Symlink` does not replace what is there. -/
def osSymlink (fault : Option GoError) (oldname newname : Text) (links : Links) : Option GoError × Links :=
  match fault, links newname with
  | some err, _ => (some err, links)
  | none, some _ => (some (.text ("symlink " ++ oldname ++ [' '] ++ newname ++ ": file exists")), links)
  | none, none => (none, Function.update links newname (some oldname))

/-- Docker's containers and the links. `dropped` records the containers that the recovery from a name conflict removed,
    with their IDs. -/
structure State where
  containers : Containers
  links : Links
  dropped : List (Text × Container)

def State.initial : State := { containers := fun _ => none, links := fun _ => none, dropped := [] }

/-- The path that the kubelet asked for; empty if there is none. -/
def logPath (c : Container) : Text := (c.labels.lookup containerLogPathLabelKey).getD []

/-! ### StartContainer -/

/-- What a StartContainer call meets. -/
structure StartEnv where
  startContainer : Option GoError
  inspectContainer : Option GoError
  remove : Option GoError
  symlink : Option GoError

def quoteMark : Text := ['\\', '\\', '\\', '"']

def executableNotFound : Text := ": executable file not found"

/-- `\\\"(.*)\\\": executable file not found`, anywhere in the message. -/
def startRE (msg : Text) : Bool :=
  msg.tails.any fun t =>
    hasPrefix t quoteMark && contains ((t.drop quoteMark.length).takeWhile (· ≠ '\n')) (quoteMark ++ executableNotFound)

def transformStartContainerError (err : GoError) : GoError :=
  if startRE err.error then .text "executable not found in $PATH" else err

section
variable (realPath : Text → Text)

/-- The link is replaced if Docker has a log file; that an old one cannot be removed shows when the new one is made.
    Without a log file it is only logged whether the log driver should have one. -/
def createContainerLogSymlink (env : StartEnv) (containerID : Text) (s : State) : Option GoError × State :=
  match getContainerLogPath env.inspectContainer containerID s.containers with
  | .error err =>
    (some (.text ("failed to get container " ++ quote containerID ++ " log path: " ++ err.error)), s)
  | .ok path =>
    if path = [] ∨ realPath containerID = [] then (none, s)
    else match osSymlink env.symlink (realPath containerID) path (osRemove env.remove path s.links).2 with
      | (none, links) => (none, { s with links })
      | (some err, links) =>
        (some (.text ("failed to create symbolic link " ++ quote path ++ " to the container log file " ++
          quote (realPath containerID) ++ " for container " ++ quote containerID ++ ": " ++ err.error)),
          { s with links })

/-- The link is made also for a container that fails to start. -/
def startContainer (env : StartEnv) (containerID : Text) (s : State) : Option GoError × State :=
  let err := Core.startContainer env.startContainer containerID s.containers
  match createContainerLogSymlink realPath env containerID s with
  | (some linkErr, s) => (some linkErr, s)
  | (none, s) =>
    (err.map fun err => .text ("failed to start container " ++ quote containerID ++ ": " ++
      (transformStartContainerError err).error), s)

end

/-! ### RemoveContainer -/

/-- What a RemoveContainer call meets. -/
structure RemoveEnv where
  inspectContainer : Option GoError
  remove : Option GoError
  platformCleanup : List GoError
  removeContainer : Option GoError

/-- The handler as it sees the links. -/
def RemoveEnv.toEnv (env : RemoveEnv) (links : Links) : RemoveContainerEnv where
  inspectContainer := env.inspectContainer
  remove path := (osRemove env.remove path links).1
  platformCleanup := env.platformCleanup
  removeContainer := env.removeContainer

def removeContainer (env : RemoveEnv) (containerID : Text) (s : State) : Option GoError × State :=
  let links := match getContainerLogPath env.inspectContainer containerID s.containers with
    | .error _ => s.links
    | .ok path => if path = [] then s.links else (osRemove env.remove path s.links).2
  let (err, containers) := removeContainerOf (env.toEnv s.links) containerID s.containers
  (err, { s with containers, links })

/-! ### CreateContainer -/

/-- Docker's answers to a CreateContainer call. -/
structure CreateEnv where
  createContainer : Except GoError Text
  removeConflicting : Option GoError
  createContainerAgain : Except GoError Text

/-- The container gets the ID that Docker answers with. -/
def create (answer : Except GoError Text) (container : Container) (s : State) : Except GoError Text × State :=
  match answer with
  | .error err => (.error err, s)
  | .ok id => (.ok id, { s with containers := Function.update s.containers id (some container) })

/-- The conflicting container is removed from Docker, its link is not. `again` has another name. -/
def recoverFromCreationConflictIfNeeded (env : CreateEnv) (again : Container) (err : GoError) (s : State) :
    Except GoError Text × State :=
  match conflictRE err.error with
  | none => (.error err, s)
  | some id =>
    match Core.removeContainer env.removeConflicting id s.containers with
    | (none, containers) =>
      (.error err, { s with containers, dropped := ((s.containers id).map (id, ·)).toList ++ s.dropped })
    | (some rmErr, containers) =>
      if !isContainerNotFoundError rmErr then (.error err, { s with containers })
      else create env.createContainerAgain again { s with containers }

/-- The end of the handler CreateContainer; `container` is made of the request. -/
def createContainer (env : CreateEnv) (container again : Container) (s : State) : Except GoError Text × State :=
  match create env.createContainer container s with
  | (.ok id, s) => (.ok id, s)
  | (.error err, s) => recoverFromCreationConflictIfNeeded env again err s

/-! ### Runs -/

inductive Call where
  | createContainer (env : CreateEnv) (container again : Container)
  | startContainer (env : StartEnv) (containerID : Text)
  | removeContainer (env : RemoveEnv) (containerID : Text)

def Call.run (realPath : Text → Text) : Call → State → State
  | .createContainer env container again, s => (LogLinks.createContainer env container again s).2
  | .startContainer env containerID, s => (LogLinks.startContainer realPath env containerID s).2
  | .removeContainer env containerID, s => (LogLinks.removeContainer env containerID s).2

/-- Docker answers with this ID for a new container. -/
def Call.Makes (id : Text) : Call → Prop
  | .createContainer env _ _ => env.createContainer = .ok id ∨ env.createContainerAgain = .ok id
  | .startContainer .. => False
  | .removeContainer .. => False

/-- Docker gives no new container the ID of one that it has. -/
def Call.Fresh (s : State) (call : Call) : Prop := ∀ id, call.Makes id → s.containers id = none

end CriDockerd.Core.LogLinks
