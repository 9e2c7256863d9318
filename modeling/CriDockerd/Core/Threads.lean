import CriDockerd.Core.Sandbox
import CriDockerd.Lib.Threads

/-! RunPodSandbox and ListPodSandbox as threads. A step is a call of Docker, one of the checkpoint manager (which
    holds its mutex meanwhile) or one of the map of ready networks (which has a mutex as well); the handlers hold no
    lock between them. -/

namespace CriDockerd.Core.Threads
open Text Store

/-- A step that only looks at the state. -/
def look {α : Type} (f : State → α) : Thread State α := .atom fun s => (f s, s)

/-- A step without a result. -/
def change (f : State → State) : Thread State Unit := .atom fun s => ((), f s)

section
variable (ds : DockerService)

/-! ### RunPodSandbox -/

def removeConflicting (env : RunEnv) (id : Text) : Thread State (Option GoError) := .atom fun s =>
  ((removeContainer env.removeConflicting id s.containers).1,
    { s with containers := (removeContainer env.removeConflicting id s.containers).2 })

def recoverFromCreationConflictIfNeeded (env : RunEnv) (config : PodSandboxConfig) (err : GoError) :
    Thread State (Except GoError Text) :=
  match conflictRE err.error with
  | none => pure (.error err)
  | some id => do
    match ← removeConflicting env id with
    | none => pure (.error err)
    | some rmErr =>
      if !isContainerNotFoundError rmErr then pure (.error err)
      else .atom (createContainer env.createContainerAgain
        (sandboxContainer ds env config (randomizeName (makeSandboxName config) env.random)))

def createSandbox (env : RunEnv) (config : PodSandboxConfig) (runtimeHandler : Text) : Thread State (Except GoError Text) :=
  let failed (what : Text) (err : GoError) : GoError :=
    .text (what ++ quote config.metadata.name ++ ": " ++ err.error)
  match env.ensureSandboxImageExists with
  | some err => pure (.error err)
  | none =>
    match env.makeSandboxDockerConfig with
    | some err => pure (.error (failed "failed to make sandbox docker config for pod " err))
    | none =>
      match if runtimeHandler ≠ [] ∧ runtimeHandler ≠ runtimeName then isRuntimeConfigured env.dockerInfo runtimeHandler
        else none with
      | some err => pure (.error (.text ("failed to get sandbox runtime: " ++ err.error)))
      | none => do
        match ← .atom (createContainer env.createContainer (sandboxContainer ds env config (makeSandboxName config))) with
        | .ok id => pure (.ok id)
        | .error err =>
          match ← recoverFromCreationConflictIfNeeded ds env config err with
          | .ok id => pure (.ok id)
          | .error err => pure (.error (failed "failed to create a sandbox for pod " err))

/-- A lookup of port mappings; whether it panics. -/
def lookUp (podSandboxID : Text) (faults : CheckpointFaults) : Thread State Bool := do
  match ← look fun s => getCheckpoint (podSandboxCheckpoint ds.spew) faults.read podSandboxID emptyCheckpoint s.checkpoints with
  | .panic => pure true
  | .error .errCheckpointNotFound => pure false
  | .error _ => do
    change (·.dropCheckpoint faults.remove podSandboxID)
    pure false
  | .ok checkpoint =>
    match checkpoint.getData with
    | none => pure true
    | some (_, _, _, checkpointedPortMappings, _) =>
      match checkpointedPortMappings.mapM fun pm => pm.bind (·.deref) with
      | none => pure true
      | some _ => pure false

def lookUpAll (podSandboxID : Text) : List CheckpointFaults → Thread State Bool
  | [] => pure false
  | faults :: rest => do
    match ← lookUp ds podSandboxID faults with
    | true => pure true
    | false => lookUpAll podSandboxID rest

def callPlugin (event : Bool → Event) (failed : Text) (call : PluginCall) (podNamespace podName id : Text) :
    Thread State (Outcome GoError Unit) := do
  match ← lookUpAll ds id call.lookups with
  | true => do
    change (·.record (event false))
    pure .panic
  | false => do
    change (·.record (event call.err.isNone))
    match call.err with
    | none => pure (.ok ())
    | some err =>
      pure (.error (.text ("networkPlugin " ++ ds.pluginName ++ ' ' :: failed ++ ' ' ::
        quote (podName ++ '_' :: podNamespace) ++ " network: " ++ err.error)))

def setUpPod (call : PluginCall) (podNamespace podName id : Text) : Thread State (Outcome GoError Unit) :=
  callPlugin ds (.setUpPod id) "failed to set up pod" call podNamespace podName id

def tearDownPod (call : PluginCall) (podNamespace podName id : Text) : Thread State (Outcome GoError Unit) :=
  callPlugin ds (.tearDownPod id) "failed to teardown pod" call podNamespace podName id

/-- Stops the container, which changes nothing of what is modelled. -/
def stopUnconnected (env : RunEnv) (config : PodSandboxConfig) (id : Text) (setUpErr : GoError) (tearDownErr : Option GoError) :
    Thread State Exit :=
  look fun s => (Core.stopUnconnected env config id setUpErr tearDownErr s).1

def setUpNetwork (env : RunEnv) (config : PodSandboxConfig) (id : Text) : Thread State Exit := do
  match ← setUpPod ds env.setUpPod config.metadata.namespace_ config.metadata.name id with
  | .panic => pure ⟨none, .panic, none⟩
  | .ok () => pure ⟨some id, .ok (), none⟩
  | .error setUpErr => do
    match ← tearDownPod ds env.tearDownPod config.metadata.namespace_ config.metadata.name id with
    | .panic => pure ⟨none, .panic, some setUpErr⟩
    | .ok () => stopUnconnected env config id setUpErr none
    | .error tearDownErr => stopUnconnected env config id setUpErr (some tearDownErr)

def connectSandbox (env : RunEnv) (config : PodSandboxConfig) (id : Text) : Thread State Exit := do
  match ← look (configureDNS env config id) with
  | some err => pure ⟨none, .error err, none⟩
  | none =>
    if config.network = .node then pure ⟨some id, .ok (), none⟩
    else match marshalDNS env config with
      | some err => pure ⟨none, .error err, none⟩
      | none => setUpNetwork ds env config id

/-- Writes the checkpoint, and records that it was written. -/
def writeCheckpoint (env : RunEnv) (config : PodSandboxConfig) (id : Text) (s : State) : Outcome StoreError Unit × State :=
  match createCheckpoint (podSandboxCheckpoint ds.spew) env.writeCheckpoint id (constructPodSandboxCheckpoint config)
    s.checkpoints with
  | (.ok (), checkpoints) => (.ok (), { s with checkpoints }.record (.wroteCheckpoint id))
  | (r, checkpoints) => (r, { s with checkpoints })

def startSandbox (env : RunEnv) (config : PodSandboxConfig) (id : Text) : Thread State Exit := do
  match ← .atom (writeCheckpoint ds env config id) with
  | .panic => pure ⟨none, .panic, none⟩
  | .error err => pure ⟨none, .error (.text err.error), some (.text err.error)⟩
  | .ok () => do
    match ← look fun s => startContainer env.startContainer id s.containers with
    | some err =>
      pure ⟨none, .error (.text ("failed to start sandbox container for pod " ++ quote config.metadata.name ++
        ": " ++ err.error)), some err⟩
    | none => connectSandbox ds env config id

def runPodSandbox (env : RunEnv) (config : PodSandboxConfig) (runtimeHandler : Text) :
    Thread State (Option Text × Outcome GoError Unit) := do
  match ← createSandbox ds env config runtimeHandler with
  | .error err => pure (none, .error err)
  | .ok id => do
    change (·.setNetworkReady id false)
    let exit ← startSandbox ds env config id
    if exit.err = none then do
      change (·.setNetworkReady id true)
      pure (exit.resp, exit.result)
    else pure (exit.resp, exit.result)

/-! ### ListPodSandbox -/

/-- What a ListPodSandbox call meets; the answers to its two list calls depend on what there is then. -/
structure ListEnv where
  listCheckpoints : Dir Blob → Except GoError (List Text)
  listContainers : ListOptions → Containers → Except GoError (List ListedContainer)
  checkpoint : Text → CheckpointFaults

/-- The checkpoints that are listed; a failure is only logged. -/
def ListEnv.checkpointIDs (env : ListEnv) (dir : Dir Blob) : List Text :=
  match env.listCheckpoints dir with
  | .ok ids => ids
  | .error _ => []

/-- The sandboxes that are only found by their checkpoints; none when a checkpoint has no data. -/
def checkpointOnly (faults : Text → CheckpointFaults) : List Text → Thread State (Option (List PodSandbox))
  | [] => pure (some [])
  | id :: rest => do
    match ← look fun s => getCheckpoint (podSandboxCheckpoint ds.spew) (faults id).read id emptyCheckpoint s.checkpoints with
    | .panic => pure none
    | .error err => do
      change fun s => if err = .errCorruptCheckpoint then s.dropCheckpoint (faults id).remove id else s
      checkpointOnly faults rest
    | .ok checkpoint =>
      match checkpointToRuntimeAPISandbox id checkpoint with
      | none => pure none
      | some sandbox => do
        let found ← checkpointOnly faults rest
        pure (found.map (sandbox :: ·))

/-- The items of a response, those of containers apart from those that are only found by their checkpoints. -/
structure Listed where
  converted : List PodSandbox
  checkpointOnly : List PodSandbox
  deriving DecidableEq

/-- A checkpoint without data is a panic. -/
def assemble (converted : List PodSandbox) : Option (List PodSandbox) → Outcome GoError Listed
  | none => .panic
  | some checkpointOnly => .ok { converted, checkpointOnly }

/-- The response of ListPodSandbox. -/
def response : Outcome GoError Listed → Outcome GoError (List PodSandbox)
  | .ok listed => .ok (listed.converted ++ listed.checkpointOnly)
  | .error err => .error err
  | .panic => .panic

/-- The listed containers, and what is only found by checkpoints. -/
def convert (env : ListEnv) (filter : Option PodSandboxFilter) (checkpoints : List Text) (cs : List ListedContainer) :
    Thread State (Outcome GoError Listed) := do
  let filterOutReadySandboxes := (filter.bind (·.state)) = some .notReady
  let converted := (cs.filterMap containerToRuntimeAPISandbox).filter fun sandbox =>
    !(filterOutReadySandboxes && sandbox.state = .ready)
  let found ← checkpointOnly ds env.checkpoint (checkpoints.filter (· ∉ converted.map (·.id)))
  pure (assemble converted found)

/-- The checkpoints, if there is no filter. -/
def listCheckpoints (env : ListEnv) : Option PodSandboxFilter → Thread State (List Text)
  | none => look fun s => env.checkpointIDs s.checkpoints
  | some _ => pure []

/-- That a container is missing is no error. -/
def afterListContainers (env : ListEnv) (filter : Option PodSandboxFilter) (checkpoints : List Text) :
    Except GoError (List ListedContainer) → Thread State (Outcome GoError Listed)
  | .error err => if isContainerNotFoundError err then convert ds env filter checkpoints [] else pure (.error err)
  | .ok cs => convert ds env filter checkpoints cs

/-- The list of checkpoints comes first. -/
def listPodSandbox (env : ListEnv) (filter : Option PodSandboxFilter) : Thread State (Outcome GoError Listed) := do
  let checkpoints ← listCheckpoints env filter
  let containers ← look fun s => env.listContainers (listOptions filter) s.containers
  afterListContainers ds env filter checkpoints containers

end

end CriDockerd.Core.Threads
