import CriDockerd.Core.DockerConfig
import CriDockerd.Store.FileStore

/-! Handlers on requests as they come in: RunPodSandbox, CreateContainer (`core/container_create.go`),
    UpdateContainerResources and UpdateRuntimeConfig. A message that is read without a check is a panic when it is
    nil. Docker's answers come with the call; those to `docker inspect` have a host config. -/

namespace CriDockerd.Core.Requests
open Text

/-! ### RunPodSandbox -/

def defaultSandboxImage : Text := "registry.k8s.io/pause:3.10"

/-- The error of a step that has returned. -/
def errorOf {α : Type} : Outcome GoError α → Option GoError
  | .error err => some err
  | _ => none

/-- The Docker config is made from the config of the request. From then on there are metadata. -/
def runPodSandbox (ds : DockerService) (cgroupDriver podSandboxImage : Text) (env : RunEnv)
    (r : Runtimeapi.RunPodSandboxRequest) (s : State) : Option Text × Outcome GoError Unit × State :=
  let image := if podSandboxImage ≠ [] then podSandboxImage else defaultSandboxImage
  match env.ensureSandboxImageExists with
  | some err => (none, .error err, s)
  | none =>
    match makeSandboxDockerConfig ds.pluginName cgroupDriver r.config image, r.config.bind (·.known) with
    | .panic, _ => (none, .panic, s)
    | _, none => (none, .panic, s)
    | made, some config => Core.runPodSandbox ds { env with makeSandboxDockerConfig := errorOf made } config r.runtimeHandler s

/-! ### Runtime handlers -/

/-- `docker info`: the runtimes in the order of an iteration, each with the OCI features in its status if there are
    any, and the default runtime. -/
structure Info where
  runtimes : List (Text × Option Text)
  defaultRuntime : Text
  nodup : (runtimes.map (·.1)).Nodup

/-- What is known of recursive read-only mounts: whether the kernel has them, and the decoder for OCI features, which
    gives the mount options. -/
structure RROEnv where
  kernelSupportsRRO : Bool
  mountOptions : Text → Except GoError (List Text)

def supportsRRO (env : RROEnv) (features : Option Text) : Except GoError Bool :=
  match env.kernelSupportsRRO, features with
  | true, some ociFeaturesStr =>
    match env.mountOptions ociFeaturesStr with
    | .error err => .error (.text ("failed to unmarshal " ++ quote ociFeaturesStr ++ ": " ++ err.error))
    | .ok options => .ok (decide ("rro".toList ∈ options))
  | _, _ => .ok false

/-- The loop over the runtimes; the default one stands first once more, without a name. -/
def handlersLoop (env : RROEnv) (defaultRuntime : Text) :
    List (Text × Option Text) → List Libdocker.RuntimeHandler → Except GoError (List Libdocker.RuntimeHandler)
  | [], handlers => .ok handlers
  | (dockerName, features) :: rest, handlers =>
    match supportsRRO env features with
    | .error err => .error err
    | .ok rro =>
      let handlers := handlers ++ [⟨dockerName, rro⟩]
      handlersLoop env defaultRuntime rest (if dockerName = defaultRuntime then ⟨[], rro⟩ :: handlers else handlers)

def getRuntimeHandlers (env : RROEnv) (info : Info) : Except GoError (List Libdocker.RuntimeHandler) :=
  (handlersLoop env info.defaultRuntime info.runtimes []).map fun handlers =>
    handlers.insertionSort fun a b => Store.nameLE a.name b.name

/-! ### CreateContainer -/

/-- What a CreateContainer call meets, in the order of the calls that it makes. Of the inspected sandbox the runtime is
    kept. `createContainer` and `createContainerAgain` are Docker's answers to the two attempts. -/
structure CreateEnv where
  getDockerAPIVersion : Option GoError
  inspectContainer : Except GoError Text
  getDockerInfo : Except GoError Info
  rro : RROEnv
  initLabels : List Text → Except GoError Text
  relabel : Text → Text → Option GoError
  cgroupDriver : Text
  seccomp : SeccompEnv
  createContainer : Except GoError Text
  removeConflicting : Option GoError
  random : UInt32
  createContainerAgain : Except GoError Text

/-- The name needs the metadata of both, which are taken without a check. -/
def makeContainerName (s : Runtimeapi.PodSandboxConfig) (c : Runtimeapi.ContainerConfig) : Option Text :=
  match c.metadata, s.metadata with
  | some container, some sandbox =>
    some (join [nameDelimiter]
      [kubePrefix, container.name, sandbox.name, sandbox.namespace_, sandbox.uid, itoa container.attempt])
  | _, _ => none

/-- The runtime of the sandbox and the mounts, as far as its handler lets them. -/
def mountBindings (env : CreateEnv) (mounts : List Runtimeapi.Mount) : Except GoError (Text × List Libdocker.Mount) :=
  match env.inspectContainer with
  | .error err => .error (.text ("unable to get container's sandbox ID: " ++ err.error))
  | .ok runtime =>
    let rtHandlers : Except GoError (List Libdocker.RuntimeHandler) := match env.getDockerInfo with
      | .error err => .error err
      | .ok info =>
        match getRuntimeHandlers env.rro info with
        | .error err => .error (.text ("failed to get runtime handlers: " ++ err.error))
        | .ok handlers => .ok handlers
    match rtHandlers with
    | .error err => .error (.text ("unable to get container's runtime handlers: " ++ err.error))
    | .ok handlers =>
      (Libdocker.generateMountBindings mounts (handlers.find? fun h => h.name = runtime)).map fun binds => (runtime, binds)

/-- The mounts that ask for it are relabeled, if the pod has an SELinux context. -/
def relabelMounts (env : CreateEnv) (config : Runtimeapi.ContainerConfig) : Option GoError :=
  match (config.linux.bind (·.securityContext)).bind (·.selinuxOptions) with
  | none => none
  | some selinuxOpts =>
    match env.initLabels (selinuxMountOptions selinuxOpts) with
    | .error err => some (.text ("unable to generate SELinux mount label: " ++ err.error))
    | .ok mountLabel =>
      if mountLabel = [] then none
      else (config.mounts.filter (·.selinuxRelabel)).findSome? fun m =>
        (env.relabel m.hostPath mountLabel).map fun err =>
          .text ("unable to relabel " ++ quote m.hostPath ++ " with " ++ quote mountLabel ++ ": " ++ err.error)

def containerResources (rOpts : Runtimeapi.LinuxContainerResources) : Resources :=
  -- Memory and MemorySwap are set to the same value, this prevents containers from using any swap.
  { memory := rOpts.memoryLimitInBytes, memorySwap := rOpts.memoryLimitInBytes, cpuShares := rOpts.cpuShares
    cpuQuota := rOpts.cpuQuota, cpuPeriod := rOpts.cpuPeriod, cpusetCpus := rOpts.cpusetCpus, cpusetMems := rOpts.cpusetMems }

/-- `name` is that of the container's metadata. -/
def updateCreateConfig (env : CreateEnv) (config : Runtimeapi.ContainerConfig) (sandboxConfig : Runtimeapi.PodSandboxConfig)
    (podSandboxID name : Text) (createConfig : ContainerCreateConfig) : Except GoError ContainerCreateConfig :=
  let withResources (lc : Runtimeapi.LinuxContainerConfig) : ContainerCreateConfig := match lc.resources with
    | none => createConfig
    | some rOpts => { createConfig with hostConfig := { createConfig.hostConfig with
        resources := containerResources rOpts, oomScoreAdj := rOpts.oomScoreAdj.toInt } }
  let applied : Except GoError ContainerCreateConfig := match config.linux with
    | none => .ok createConfig
    | some lc => applyContainerSecurityContext lc podSandboxID securityOptSeparator (withResources lc)
  match applied with
  | .error err =>
    .error (.text ("failed to apply container security context for container " ++ quote name ++ ": " ++ err.error))
  | .ok createConfig =>
    .ok { createConfig with hostConfig := { createConfig.hostConfig with
      cgroupParent := match sandboxConfig.linux with
        | none => createConfig.hostConfig.cgroupParent
        | some lc => generateExpectedCgroupParent env.cgroupDriver lc.cgroupParent } }

def containerSecurityOpts (env : CreateEnv) (config : Runtimeapi.ContainerConfig) (name : Text) : Except GoError (List Text) :=
  match config.linux.bind (·.securityContext) with
  | none => .ok []
  | some securityContext =>
    match getSecurityOpts env.seccomp securityContext.seccomp securityContext.privileged securityOptSeparator with
    | .error err =>
      .error (.text ("failed to generate security options for container " ++ quote name ++ ": " ++ err.error))
    | .ok opts => .ok opts

/-- The config before the options of the platform. -/
def initialCreateConfig (r : Runtimeapi.CreateContainerRequest) (config : Runtimeapi.ContainerConfig)
    (sandboxConfig : Runtimeapi.PodSandboxConfig) (containerName runtime : Text) (mounts : List Libdocker.Mount) :
    ContainerCreateConfig where
  name := containerName
  config :=
    { entrypoint := config.command, cmd := config.args, env := Libdocker.generateEnvList config.envs
      image := config.image.getD [], workingDir := config.workingDir
      labels := (sandboxIDLabelKey, r.podSandboxId) ::
        (containerLogPathLabelKey, filepathJoin sandboxConfig.logDirectory config.logPath) ::
        (containerTypeLabelKey, containerTypeLabelContainer) :: makeLabels config.labels config.annotations
      openStdin := config.stdin, stdinOnce := config.stdinOnce, tty := config.tty }
  hostConfig := { mounts, restartPolicy := "no", runtime }

/-- The config of a container that has a name. -/
def namedCreateConfig (env : CreateEnv) (r : Runtimeapi.CreateContainerRequest) (config : Runtimeapi.ContainerConfig)
    (sandboxConfig : Runtimeapi.PodSandboxConfig) (containerName name : Text) : Except GoError ContainerCreateConfig :=
  match mountBindings env config.mounts with
  | .error err => .error err
  | .ok (runtime, mounts) =>
    match relabelMounts env config with
    | some err => .error err
    | none =>
      match updateCreateConfig env config sandboxConfig r.podSandboxId name
        (initialCreateConfig r config sandboxConfig containerName runtime mounts) with
      | .error err => .error (.text ("failed to update container create config: " ++ err.error))
      | .ok createConfig =>
        match containerSecurityOpts env config name with
        | .error err => .error err
        | .ok securityOpts =>
          let hc := createConfig.hostConfig
          .ok { createConfig with hostConfig := { hc with
            resources := { hc.resources with
              devices := config.devices.map fun device => ⟨device.hostPath, device.containerPath, device.permissions⟩
              deviceRequests := hc.resources.deviceRequests ++ config.cdiDevices }
            securityOpt := hc.securityOpt ++ securityOpts } }

/-- Everything before Docker is asked to create the container. -/
def containerCreateConfig (env : CreateEnv) (r : Runtimeapi.CreateContainerRequest) : Outcome GoError ContainerCreateConfig :=
  match r.config, r.sandboxConfig with
  | none, _ => .error (.text "container config is nil")
  | some config, none =>
    -- The message names the container.
    match config.metadata with
    | none => .panic
    | some metadata => .error (.text ("sandbox config is nil for container " ++ quote metadata.name))
  | some config, some sandboxConfig =>
    match env.getDockerAPIVersion with
    | some err => .error (.text ("unable to get the docker API version: " ++ err.error))
    | none =>
      match makeContainerName sandboxConfig config, config.metadata with
      | some containerName, some metadata =>
        match namedCreateConfig env r config sandboxConfig containerName metadata.name with
        | .error err => .error err
        | .ok createConfig => .ok createConfig
      | _, _ => .panic

/-- The result, and the configs that are passed to Docker. -/
def createContainer (env : CreateEnv) (r : Runtimeapi.CreateContainerRequest) :
    Outcome GoError Text × List ContainerCreateConfig :=
  match containerCreateConfig env r with
  | .panic => (.panic, [])
  | .error err => (.error err, [])
  | .ok createConfig =>
    match env.createContainer with
    | .ok id => (.ok id, [createConfig])
    | .error err =>
      match conflictRE err.error, env.removeConflicting with
      | some _, some rmErr =>
        if !isContainerNotFoundError rmErr then (.error err, [createConfig])
        else
          let again := { createConfig with name := randomizeName createConfig.name env.random }
          match env.createContainerAgain with
          | .ok id => (.ok id, [createConfig, again])
          | .error err => (.error err, [createConfig, again])
      | _, _ => (.error err, [createConfig])

/-! ### UpdateContainerResources and UpdateRuntimeConfig -/

/-- The result, and the update that Docker is asked for. -/
def updateContainerResources (fault : Option GoError) (r : Runtimeapi.UpdateContainerResourcesRequest) :
    Outcome GoError Unit × Option (Text × Resources) :=
  match r.linux with
  | none => (.panic, none)
  | some resources =>
    let update := some (r.containerId, containerResources resources)
    match fault with
    | some err => (.error (.text ("failed to update container " ++ quote r.containerId ++ ": " ++ err.error)), update)
    | none => (.ok (), update)

/-- The result, and the pod CIDR that a network manager is told of. -/
def updateRuntimeConfig (hasNetwork : Bool) (r : Runtimeapi.UpdateRuntimeConfigRequest) : Outcome GoError Unit × Option Text :=
  match r.runtimeConfig with
  | none => (.ok (), none)
  | some runtimeConfig =>
    if hasNetwork then
      match runtimeConfig.networkConfig with
      | none => (.panic, none)
      | some networkConfig => (.ok (), if networkConfig.podCidr ≠ [] then some networkConfig.podCidr else none)
    else (.ok (), none)

end CriDockerd.Core.Requests
