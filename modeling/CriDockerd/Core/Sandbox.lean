import Mathlib.Algebra.Group.Nat.Defs
import CriDockerd.Core.Docker
import CriDockerd.Core.Naming

/-! The handlers of pod sandboxes (`core/sandbox_*.go`): RunPodSandbox, StopPodSandbox, RemovePodSandbox,
    ListPodSandbox and the port mappings that network plugins ask for. A handler runs from its start to its
    end; what it meets on the way (failures of Docker, of checkpoint files and of the network plugin) comes
    with the call. -/

namespace CriDockerd.Core
open Text Store

/-! ### State -/

/-- What has happened to sandboxes, for stating properties of runs. A plugin call is recorded with
    whether it succeeded. -/
inductive Event where
  | created (id : Text)
  | wroteCheckpoint (id : Text)
  | setUpPod (id : Text) (ok : Bool)
  | tearDownPod (id : Text) (ok : Bool)
  | alteredCheckpoint (id : Text)
  deriving DecidableEq, Repr

/-- `networkReady` of the service with the checkpoint files and the containers of Docker. The history is
    newest first. -/
structure State where
  networkReady : Text → Option Bool
  checkpoints : Dir Blob
  containers : Containers
  history : List Event

/-- The service after its start, on a host with these files and containers. -/
def State.initial (checkpoints : Dir Blob) (containers : Containers) : State :=
  { networkReady := fun _ => none, checkpoints, containers, history := [] }

/-- What is fixed in a service: the name of its network plugin, and the printer for checksums. -/
structure DockerService where
  pluginName : Text
  spew : CheckpointData → List UInt8

namespace State

def record (e : Event) (s : State) : State := { s with history := e :: s.history }

def setNetworkReady (podSandboxID : Text) (ready : Bool) (s : State) : State :=
  { s with networkReady := Function.update s.networkReady podSandboxID (some ready) }

def clearNetworkReady (podSandboxID : Text) (s : State) : State :=
  { s with networkReady := Function.update s.networkReady podSandboxID none }

/-- Removes a checkpoint and forgets about a failure. -/
def dropCheckpoint (fsErr : Option GoError) (podSandboxID : Text) (s : State) : State :=
  { s with checkpoints := (removeCheckpoint fsErr podSandboxID s.checkpoints).2 }

end State

/-- The result of a call by its error. -/
def Outcome.ofErr : Option GoError → Outcome GoError Unit
  | none => .ok ()
  | some err => .error err

/-! ### Docker config of a sandbox -/

def containerTypeLabelKey : Text := "io.kubernetes.docker.type"
def containerTypeLabelSandbox : Text := "podsandbox"
def sandboxIDLabelKey : Text := "io.kubernetes.sandbox.id"
def containerLogPathLabelKey : Text := "io.kubernetes.container.logpath"
def kubernetesContainerNameLabel : Text := "io.kubernetes.container.name"
def annotationPrefix : Text := "annotation."

/-- Labels and annotations as labels; an annotation wins. -/
def makeLabels (labels annotations : Labels) : Labels :=
  annotations.map (fun kv => (annotationPrefix ++ kv.1, kv.2)) ++ labels

/-- The labels of the container of a sandbox. -/
def sandboxLabels (config : PodSandboxConfig) : Labels :=
  (kubernetesContainerNameLabel, sandboxContainerName) :: (containerTypeLabelKey, containerTypeLabelSandbox) ::
    makeLabels config.labels config.annotations

def runtimeName : Text := "docker"

def namespaceModeHost : Text := "host"

/-- The network mode for a sandbox; the network manager has a plugin of this name. -/
def modifyHostOptionsForSandbox (network : NamespaceMode) (pluginName : Text) : Text :=
  if network = .node then namespaceModeHost
  else if pluginName = "cni" ∨ pluginName = "kubenet" then "none"
  else "default"

/-- The network mode stays empty for a config without a Linux part. -/
def sandboxNetworkMode (config : PodSandboxConfig) (pluginName : Text) : Text :=
  match config.linux with
  | none => []
  | some network => modifyHostOptionsForSandbox network pluginName

def networkNamespaceMode (container : Container) : NamespaceMode :=
  if container.networkMode = some namespaceModeHost then .node else .pod

/-- Fails when Docker's info cannot be had or lists no such runtime. -/
def isRuntimeConfigured (info : Except GoError (List Text)) (runtime : Text) : Option GoError :=
  match info with
  | .error err => some (.text ("failed to get docker info: " ++ err.error))
  | .ok runtimes =>
    if runtime ∈ runtimes then none
    else some (.text ("no runtime for " ++ quote runtime ++ " is configured"))

/-! ### resolv.conf -/

def resolvFileContent (dns : DNSConfig) : List Text :=
  (dns.servers.map fun srv => "nameserver ".toList ++ srv) ++
  (if dns.searches = [] then [] else ["search ".toList ++ join [' '] dns.searches]) ++
  (if dns.options = [] then [] else ["options ".toList ++ join [' '] dns.options])

/-- `missing` tells whether a file is known not to exist, `rewriteFile` the failure to write one. -/
def rewriteResolvFile (missing : Text → Bool) (rewriteFile : Text → Text → Option GoError) (resolvFilePath : Text)
    (dns : DNSConfig) : Option GoError :=
  if resolvFilePath = [] then none
  else if missing resolvFilePath then
    some (.text ("ResolvConfPath " ++ quote resolvFilePath ++ " does not exist"))
  else if resolvFileContent dns = [] then none
  else rewriteFile resolvFilePath (join ['\n'] (resolvFileContent dns) ++ ['\n'])

/-! ### The network plugin -/

/-- A call of the network plugin: the requests for the pod's port mappings that it makes, with what they
    meet, and its result. -/
structure PluginCall where
  lookups : List CheckpointFaults
  err : Option GoError
  deriving DecidableEq, Repr

section
variable (ds : DockerService)

/-- The lookups of port mappings; whether one of them panics. -/
def lookUpAll (podSandboxID : Text) : List CheckpointFaults → Dir Blob → Bool × Dir Blob
  | [], dir => (false, dir)
  | faults :: rest, dir =>
    match getPodPortMappings ds.spew faults podSandboxID dir with
    | (.panic, dir) => (true, dir)
    | (.error _, dir) => lookUpAll podSandboxID rest dir
    | (.ok _, dir) => lookUpAll podSandboxID rest dir

/-- A call of the plugin through the plugin manager. -/
def callPlugin (event : Bool → Event) (failed : Text) (call : PluginCall) (podNamespace podName id : Text) (s : State) :
    Outcome GoError Unit × State :=
  match lookUpAll ds id call.lookups s.checkpoints with
  | (true, dir) => (.panic, { s with checkpoints := dir }.record (event false))
  | (false, dir) =>
    let s := { s with checkpoints := dir }.record (event call.err.isNone)
    match call.err with
    | none => (.ok (), s)
    | some err =>
      (.error (.text ("networkPlugin " ++ ds.pluginName ++ ' ' :: failed ++ ' ' ::
        quote (podName ++ '_' :: podNamespace) ++ " network: " ++ err.error)), s)

def setUpPod (call : PluginCall) (podNamespace podName id : Text) (s : State) : Outcome GoError Unit × State :=
  callPlugin ds (.setUpPod id) "failed to set up pod" call podNamespace podName id s

def tearDownPod (call : PluginCall) (podNamespace podName id : Text) (s : State) : Outcome GoError Unit × State :=
  callPlugin ds (.tearDownPod id) "failed to teardown pod" call podNamespace podName id s

/-! ### RunPodSandbox -/

/-- What a RunPodSandbox call meets, in the order of the calls that it makes. `createContainer` and
    `createContainerAgain` are Docker's answers to the two attempts. -/
structure RunEnv where
  ensureSandboxImageExists : Option GoError
  makeSandboxDockerConfig : Option GoError
  dockerInfo : Except GoError (List Text)
  createContainer : Except GoError Text
  removeConflicting : Option GoError
  random : UInt32
  createContainerAgain : Except GoError Text
  resolvConfPath : Text
  writeCheckpoint : Option GoError
  startContainer : Option GoError
  inspectContainer : Option GoError
  resolvMissing : Text → Bool
  rewriteFile : Text → Text → Option GoError
  marshalDNS : Option GoError
  setUpPod : PluginCall
  tearDownPod : PluginCall
  stopContainer : Option GoError

/-- Creates the container when Docker answers with an ID. -/
def createContainer (answer : Except GoError Text) (container : Container) (s : State) : Except GoError Text × State :=
  match answer with
  | .error err => (.error err, s)
  | .ok id => (.ok id, { s with containers := Function.update s.containers id (some container) }.record (.created id))

/-- The sandbox's container; Docker puts a slash before the name. -/
def sandboxContainer (env : RunEnv) (config : PodSandboxConfig) (name : Text) : Container :=
  { name := '/' :: name, networkMode := some (sandboxNetworkMode config ds.pluginName), resolvConfPath := env.resolvConfPath,
    labels := sandboxLabels config }

def recoverFromCreationConflictIfNeeded (env : RunEnv) (config : PodSandboxConfig) (err : GoError) (s : State) :
    Except GoError Text × State :=
  match conflictRE err.error with
  | none => (.error err, s)
  | some id =>
    match removeContainer env.removeConflicting id s.containers with
    | (none, containers) => (.error err, { s with containers })
    | (some rmErr, containers) =>
      if !isContainerNotFoundError rmErr then (.error err, { s with containers })
      else createContainer env.createContainerAgain
        (sandboxContainer ds env config (randomizeName (makeSandboxName config) env.random)) { s with containers }

/-- Steps 1 and 2: the image and the container. -/
def createSandbox (env : RunEnv) (config : PodSandboxConfig) (runtimeHandler : Text) (s : State) :
    Except GoError Text × State :=
  let failed (what : Text) (err : GoError) : GoError :=
    .text (what ++ quote config.metadata.name ++ ": " ++ err.error)
  match env.ensureSandboxImageExists with
  | some err => (.error err, s)
  | none =>
    match env.makeSandboxDockerConfig with
    | some err => (.error (failed "failed to make sandbox docker config for pod " err), s)
    | none =>
      match if runtimeHandler ≠ [] ∧ runtimeHandler ≠ runtimeName then isRuntimeConfigured env.dockerInfo runtimeHandler
        else none with
      | some err => (.error (.text ("failed to get sandbox runtime: " ++ err.error)), s)
      | none =>
        match createContainer env.createContainer (sandboxContainer ds env config (makeSandboxName config)) s with
        | (.ok id, s) => (.ok id, s)
        | (.error err, s) =>
          match recoverFromCreationConflictIfNeeded ds env config err s with
          | (.ok id, s) => (.ok id, s)
          | (.error err, s) => (.error (failed "failed to create a sandbox for pod " err), s)

/-- How RunPodSandbox leaves its body: the response, the error that it returns, and the value of the
    variable `err` of the function, which the deferred function reads. Inner variables of that name shadow
    it, and the cleanup reuses it. -/
structure Exit where
  resp : Option Text
  result : Outcome GoError Unit
  err : Option GoError
  deriving DecidableEq

/-- A failure of what is done to the sandbox container of a pod. -/
def sandboxFailure (what id object name : Text) (err : GoError) : GoError :=
  .text ("failed to " ++ what ++ " sandbox container " ++ quote id ++ object ++ " for pod " ++
    quote name ++ ": " ++ err.error)

/-- Stops the container after a failure of SetUpPod; the cleanup of the network may have failed, too. -/
def stopUnconnected (env : RunEnv) (config : PodSandboxConfig) (id : Text) (setUpErr : GoError) (tearDownErr : Option GoError)
    (s : State) : Exit × State :=
  let name := config.metadata.name
  let stopErr := stopContainer env.stopContainer id s.containers
  (⟨some id, Outcome.ofErr (newAggregate
      [some (sandboxFailure "set up" id " network" name setUpErr),
       tearDownErr.map (sandboxFailure "clean up" id " network" name),
       stopErr.map (sandboxFailure "stop" id [] name)]), stopErr⟩, s)

/-- Step 5 from SetUpPod on. -/
def setUpNetwork (env : RunEnv) (config : PodSandboxConfig) (id : Text) (s : State) : Exit × State :=
  match setUpPod ds env.setUpPod config.metadata.namespace_ config.metadata.name id s with
  | (.panic, s) => (⟨none, .panic, none⟩, s)
  | (.ok (), s) => (⟨some id, .ok (), none⟩, s)
  | (.error setUpErr, s) =>
    match tearDownPod ds env.tearDownPod config.metadata.namespace_ config.metadata.name id s with
    | (.panic, s) => (⟨none, .panic, some setUpErr⟩, s)
    | (.ok (), s) => stopUnconnected env config id setUpErr none s
    | (.error tearDownErr, s) => stopUnconnected env config id setUpErr (some tearDownErr) s

/-- The rewriting of resolv.conf; its errors are in variables of their own. -/
def configureDNS (env : RunEnv) (config : PodSandboxConfig) (id : Text) (s : State) : Option GoError :=
  match config.dnsConfig with
  | none => none
  | some dns =>
    match inspectContainer env.inspectContainer id s.containers with
    | .error err =>
      some (.text ("failed to inspect sandbox container for pod " ++ quote config.metadata.name ++ ": " ++ err.error))
    | .ok containerInfo =>
      (rewriteResolvFile env.resolvMissing env.rewriteFile containerInfo.resolvConfPath dns).map fun err =>
        .text ("rewrite resolv.conf failed for pod " ++ quote config.metadata.name ++ ": " ++ err.error)

/-- The DNS option for the plugin. -/
def marshalDNS (env : RunEnv) (config : PodSandboxConfig) : Option GoError :=
  match config.dnsConfig with
  | none => none
  | some _ => env.marshalDNS.map fun err =>
    .text ("failed to marshal dns config for pod " ++ quote config.metadata.name ++ ": " ++ err.error)

/-- What follows the start of the container. The function's `err` is nil there. -/
def connectSandbox (env : RunEnv) (config : PodSandboxConfig) (id : Text) (s : State) : Exit × State :=
  match configureDNS env config id s with
  | some err => (⟨none, .error err, none⟩, s)
  | none =>
    -- No network plugin in host network mode.
    if config.network = .node then (⟨some id, .ok (), none⟩, s)
    else match marshalDNS env config with
      | some err => (⟨none, .error err, none⟩, s)
      | none => setUpNetwork ds env config id s

/-- Steps 3 to 5, on a container that has been created. -/
def startSandbox (env : RunEnv) (config : PodSandboxConfig) (id : Text) (s : State) : Exit × State :=
  match createCheckpoint (podSandboxCheckpoint ds.spew) env.writeCheckpoint id (constructPodSandboxCheckpoint config)
    s.checkpoints with
  | (.panic, checkpoints) => (⟨none, .panic, none⟩, { s with checkpoints })
  | (.error err, checkpoints) => (⟨none, .error (.text err.error), some (.text err.error)⟩, { s with checkpoints })
  | (.ok (), checkpoints) =>
    let s := { s with checkpoints }.record (.wroteCheckpoint id)
    match startContainer env.startContainer id s.containers with
    | some err =>
      (⟨none, .error (.text ("failed to start sandbox container for pod " ++ quote config.metadata.name ++ ": " ++
        err.error)), some err⟩, s)
    | none => connectSandbox ds env config id s

/-- The response and the state after the deferred function. -/
def runPodSandbox (env : RunEnv) (config : PodSandboxConfig) (runtimeHandler : Text) (s : State) :
    Option Text × Outcome GoError Unit × State :=
  match createSandbox ds env config runtimeHandler s with
  | (.error err, s) => (none, .error err, s)
  | (.ok id, s) =>
    let (exit, s) := startSandbox ds env config id (s.setNetworkReady id false)
    (exit.resp, exit.result, if exit.err = none then s.setNetworkReady id true else s)

/-! ### StopPodSandbox -/

/-- What a StopPodSandbox call meets. -/
structure StopEnv where
  inspectContainer : Option GoError
  checkpoint : CheckpointFaults
  tearDownPod : PluginCall
  stopContainer : Option GoError
  removeCheckpoint : Option GoError
  deriving DecidableEq, Repr

def getPodSandboxDetails (fault : Option GoError) (podSandboxID : Text) (s : State) :
    Except GoError (Container × PodSandboxMetadata) :=
  match inspectContainer fault podSandboxID s.containers with
  | .error err => .error err
  | .ok container =>
    match parseSandboxName container.name with
    | .error err => .error err
    | .ok metadata => .ok (container, metadata)

/-- Namespace, name and host network of a sandbox, from Docker or from its checkpoint. They are empty when
    there is neither of them. -/
def sandboxInfo (env : StopEnv) (podSandboxID : Text) (s : State) : Outcome GoError (Text × Text × Bool) × State :=
  match getPodSandboxDetails env.inspectContainer podSandboxID s with
  | .ok (container, metadata) => (.ok (metadata.namespace_, metadata.name, networkNamespaceMode container = .node), s)
  | .error statusErr =>
    match getCheckpoint (podSandboxCheckpoint ds.spew) env.checkpoint.read podSandboxID emptyCheckpoint s.checkpoints with
    | .panic => (.panic, s)
    | .ok checkpoint =>
      match checkpoint.getData with
      | none => (.panic, s)
      | some (_, name, ns, _, hostNetwork) => (.ok (ns, name, hostNetwork), s)
    | .error checkpointErr =>
      let s := if checkpointErr = .errCheckpointNotFound then s else s.dropCheckpoint env.checkpoint.remove podSandboxID
      if isContainerNotFoundError statusErr then (.ok ([], [], false), s)
      else (.error (.aggregate
        [.text ("failed to get checkpoint for sandbox " ++ quote podSandboxID ++ ": " ++ checkpointErr.error),
         .text ("failed to get sandbox status: " ++ statusErr.error)]), s)

/-- The end of StopPodSandbox; a sandbox that Docker does not have loses its checkpoint. -/
def stopSandboxContainer (env : StopEnv) (podSandboxID : Text) (errList : List (Option GoError)) (s : State) :
    Outcome GoError Unit × State :=
  match stopContainer env.stopContainer podSandboxID s.containers with
  | none => (Outcome.ofErr (newAggregate errList), s)
  | some err =>
    if !isContainerNotFoundError err then (Outcome.ofErr (newAggregate (errList ++ [some err])), s)
    else (Outcome.ofErr (newAggregate errList), s.dropCheckpoint env.removeCheckpoint podSandboxID)

/-- The network is torn down unless that has been done. -/
def stopPodSandbox (env : StopEnv) (podSandboxID : Text) (s : State) : Outcome GoError Unit × State :=
  match sandboxInfo ds env podSandboxID s with
  | (.panic, s) => (.panic, s)
  | (.error err, s) => (.error err, s)
  | (.ok (ns, name, hostNetwork), s) =>
    let ready := (s.networkReady podSandboxID).getD false
    let ok := (s.networkReady podSandboxID).isSome
    if !hostNetwork && (ready || !ok) then
      match tearDownPod ds env.tearDownPod ns name podSandboxID s with
      | (.panic, s) => (.panic, s)
      | (.ok (), s) => stopSandboxContainer env podSandboxID [] (s.setNetworkReady podSandboxID false)
      | (.error err, s) => stopSandboxContainer env podSandboxID [some err] s
    else stopSandboxContainer env podSandboxID [] s

/-! ### RemovePodSandbox -/

/-- What the removal of a container of the sandbox meets; `remove` is that of a file. -/
structure RemoveContainerEnv where
  inspectContainer : Option GoError
  remove : Text → Option FsError
  platformCleanup : List GoError
  removeContainer : Option GoError

/-- What a RemovePodSandbox call meets. -/
structure RemoveEnv where
  listContainers : ListOptions → Except GoError (List ListedContainer)
  container : Text → RemoveContainerEnv
  removeContainer : Option GoError
  removeCheckpoint : Option GoError

/-- The path of the log symlink of a container. -/
def getContainerLogPath (fault : Option GoError) (containerID : Text) (containers : Containers) : Except GoError Text :=
  match inspectContainer fault containerID containers with
  | .error err => .error (.text ("failed to inspect container " ++ quote containerID ++ ": " ++ err.error))
  | .ok info => .ok ((info.labels.lookup containerLogPathLabelKey).getD [])

def logSymlinkError (containerID path : Text) (err : FsError) : GoError :=
  .text ("failed to remove container " ++ quote containerID ++ " log symlink " ++ quote path ++ ": " ++
    err.toGoError.error)

def removeContainerLogSymlink (env : RemoveContainerEnv) (containerID : Text) (containers : Containers) : Option GoError :=
  match getContainerLogPath env.inspectContainer containerID containers with
  | .error err => some (.text ("failed to get container " ++ quote containerID ++ " log path: " ++ err.error))
  | .ok path =>
    -- Only remove the symlink when container log path is specified.
    if path = [] then none
    else match env.remove path with
      | none => none
      | some err => if isNotExist err then none else some (logSymlinkError containerID path err)

def cleanupError (containerID : Text) (errors : List GoError) : GoError :=
  .text ("failed to run platform-specific clean ups for container " ++ quote containerID ++ ": [" ++
    join [' '] (errors.map (·.error)) ++ [']'])

/-- The handler RemoveContainer. -/
def removeContainerOf (env : RemoveContainerEnv) (containerID : Text) (containers : Containers) : Option GoError × Containers :=
  match removeContainerLogSymlink env containerID containers, env.platformCleanup with
  | some err, _ => (some err, containers)
  | none, _ :: _ => (some (cleanupError containerID env.platformCleanup), containers)
  | none, [] =>
    match removeContainer env.removeContainer containerID containers with
    | (some err, containers) =>
      (some (.text ("failed to remove container " ++ quote containerID ++ ": " ++ err.error)), containers)
    | (none, containers) => (none, containers)

/-- Removes the containers of a sandbox; one that is missing is no error. -/
def removeAll (env : Text → RemoveContainerEnv) : List ListedContainer → List (Option GoError) → Containers →
    List (Option GoError) × Containers
  | [], errs, containers => (errs, containers)
  | c :: rest, errs, containers =>
    match removeContainerOf (env c.id) c.id containers with
    | (some err, containers) =>
      removeAll env rest (if isContainerNotFoundError err then errs else errs ++ [some err]) containers
    | (none, containers) => removeAll env rest errs containers

/-- Removes what Docker lists as the containers of the sandbox. -/
def removeListed (env : RemoveEnv) (podSandboxID : Text) (s : State) : List (Option GoError) × State :=
  match env.listContainers ⟨true, [(sandboxIDLabelKey, podSandboxID)], none, none⟩ with
  | .error err => ([some err], s)
  | .ok cs => ((removeAll env.container cs [] s.containers).1, { s with containers := (removeAll env.container cs [] s.containers).2 })

/-- Removes the sandbox container; the readiness is forgotten only when it is removed or missing. -/
def removeSandboxContainer (fault : Option GoError) (podSandboxID : Text) (errs : List (Option GoError)) (s : State) :
    List (Option GoError) × State :=
  match removeContainer fault podSandboxID s.containers with
  | (none, containers) => (errs, { s with containers }.clearNetworkReady podSandboxID)
  | (some err, containers) =>
    if isContainerNotFoundError err then (errs, { s with containers }.clearNetworkReady podSandboxID)
    else (errs ++ [some err], { s with containers })

def removePodSandbox (env : RemoveEnv) (podSandboxID : Text) (s : State) : Outcome GoError Unit × State :=
  let (errs, s) := removeListed env podSandboxID s
  let (errs, s) := removeSandboxContainer env.removeContainer podSandboxID errs s
  let (checkpointErr, checkpoints) := removeCheckpoint env.removeCheckpoint podSandboxID s.checkpoints
  (Outcome.ofErr (newAggregate (errs ++ [checkpointErr.map fun err => .text err.error])), { s with checkpoints })

/-! ### ListPodSandbox -/

inductive PodSandboxState where
  | ready
  | notReady
  deriving DecidableEq, Repr

/-- `runtimeapi.PodSandboxFilter`; an empty ID is none. -/
structure PodSandboxFilter where
  id : Text
  state : Option PodSandboxState
  labelSelector : Labels
  deriving DecidableEq, Repr

/-- `runtimeapi.PodSandbox` without labels and annotations. -/
structure PodSandbox where
  id : Text
  metadata : PodSandboxMetadata
  state : PodSandboxState
  createdAt : Int
  deriving DecidableEq, Repr

/-- What a ListPodSandbox call meets. -/
structure ListEnv where
  listCheckpoints : Except GoError (List Text)
  listContainers : ListOptions → Except GoError (List ListedContainer)
  checkpoint : Text → CheckpointFaults

/-- The containers that Docker is asked for. -/
def listOptions : Option PodSandboxFilter → ListOptions
  | none => ⟨true, [(containerTypeLabelKey, containerTypeLabelSandbox)], none, none⟩
  | some filter =>
    { all := filter.state ≠ some .ready
      labels := (containerTypeLabelKey, containerTypeLabelSandbox) :: filter.labelSelector
      id := if filter.id = [] then none else some filter.id
      status := none }

def toRuntimeAPISandboxState (status : Text) : PodSandboxState :=
  if hasPrefix status "Up" then .ready else .notReady

/-- The conversion of a listed container; the timestamp is in seconds and becomes an `int64` of nanoseconds. -/
def containerToRuntimeAPISandbox (c : ListedContainer) : Option PodSandbox :=
  match c.names with
  | [] => none
  | name :: _ =>
    match parseSandboxName name with
    | .error _ => none
    | .ok metadata =>
      some { id := c.id, metadata, state := toRuntimeAPISandboxState c.status, createdAt := Int.bmod (c.created * 1000000000) (2 ^ 64) }

def checkpointToRuntimeAPISandbox (id : Text) (checkpoint : PodSandboxCheckpoint) : Option PodSandbox :=
  checkpoint.getData.map fun (_, name, ns, _, _) =>
    { id, metadata := { name, namespace_ := ns, uid := [], attempt := 0 }, state := .notReady, createdAt := 0 }

/-- The sandboxes that are only found by their checkpoints; none when a checkpoint has no data. -/
def checkpointOnly (faults : Text → CheckpointFaults) : List Text → List PodSandbox → State → Option (List PodSandbox) × State
  | [], result, s => (some result, s)
  | id :: rest, result, s =>
    match getCheckpoint (podSandboxCheckpoint ds.spew) (faults id).read id emptyCheckpoint s.checkpoints with
    | .panic => (none, s)
    | .error err =>
      checkpointOnly faults rest result
        (if err = .errCorruptCheckpoint then s.dropCheckpoint (faults id).remove id else s)
    | .ok checkpoint =>
      match checkpointToRuntimeAPISandbox id checkpoint with
      | none => (none, s)
      | some sandbox => checkpointOnly faults rest (result ++ [sandbox]) s

def listPodSandbox (env : ListEnv) (filter : Option PodSandboxFilter) (s : State) : Outcome GoError (List PodSandbox) × State :=
  let checkpoints := match filter, env.listCheckpoints with
    | none, .ok ids => ids
    | _, _ => []
  let containers : Except GoError (List ListedContainer) := match env.listContainers (listOptions filter) with
    | .error err => if isContainerNotFoundError err then .ok [] else .error err
    | .ok cs => .ok cs
  match containers with
  | .error err => (.error err, s)
  | .ok cs =>
    let filterOutReadySandboxes := (filter.bind (·.state)) = some .notReady
    let result := (cs.filterMap containerToRuntimeAPISandbox).filter fun sandbox =>
      !(filterOutReadySandboxes && sandbox.state = .ready)
    match checkpointOnly ds env.checkpoint (checkpoints.filter (· ∉ result.map (·.id))) result s with
    | (none, s) => (.panic, s)
    | (some result, s) => (.ok result, s)

/-! ### Calls -/

/-- The handlers, and what else happens on the host: Docker loses a container, somebody changes a
    checkpoint file, the service starts anew. -/
inductive Call where
  | runPodSandbox (env : RunEnv) (config : PodSandboxConfig) (runtimeHandler : Text)
  | stopPodSandbox (env : StopEnv) (podSandboxID : Text)
  | removePodSandbox (env : RemoveEnv) (podSandboxID : Text)
  | listPodSandbox (env : ListEnv) (filter : Option PodSandboxFilter)
  | getPodPortMappings (faults : CheckpointFaults) (podSandboxID : Text)
  | loseContainer (id : Text)
  | alterCheckpoint (id : Text) (content : Option Blob)
  | restart

/-- The state after a call. -/
def Call.run : Call → State → State
  | .runPodSandbox env config runtimeHandler, s => (Core.runPodSandbox ds env config runtimeHandler s).2.2
  | .stopPodSandbox env podSandboxID, s => (Core.stopPodSandbox ds env podSandboxID s).2
  | .removePodSandbox env podSandboxID, s => (Core.removePodSandbox env podSandboxID s).2
  | .listPodSandbox env filter, s => (Core.listPodSandbox ds env filter s).2
  | .getPodPortMappings faults podSandboxID, s =>
    { s with checkpoints := (Core.getPodPortMappings ds.spew faults podSandboxID s.checkpoints).2 }
  | .loseContainer id, s => { s with containers := Function.update s.containers id none }
  | .alterCheckpoint id content, s =>
    { s with checkpoints := Function.update s.checkpoints id content }.record (.alteredCheckpoint id)
  | .restart, s => { s with networkReady := fun _ => none }

end

end CriDockerd.Core
