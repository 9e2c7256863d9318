import CriDockerd.Libdocker.Helpers

/-! The config that Docker makes a container from (`core/security_context.go`, `core/helpers_linux.go` and
    `core/sandbox_helpers.go`), on Linux. A step that cannot fail gives the config as it leaves it. -/

namespace CriDockerd.Core
open Text

/-! ### Docker's configs -/

/-- `container.Config`; health checks are disabled for all but sandboxes. -/
structure Config where
  hostname : Text := []
  user : Text := []
  entrypoint : List Text := []
  cmd : List Text := []
  env : List Text := []
  image : Text
  workingDir : Text := []
  labels : Labels
  openStdin : Bool := false
  stdinOnce : Bool := false
  tty : Bool := false
  exposedPorts : Finset Text := ∅

structure DeviceMapping where
  pathOnHost : Text
  pathInContainer : Text
  cgroupPermissions : Text
  deriving DecidableEq

/-- `container.Resources`; a request for devices names one CDI device. -/
structure Resources where
  memory : Int64 := 0
  memorySwap : Int64 := 0
  cpuShares : Int64 := 0
  cpuQuota : Int64 := 0
  cpuPeriod : Int64 := 0
  cpusetCpus : Text := []
  cpusetMems : Text := []
  devices : List DeviceMapping := []
  deviceRequests : List Text := []
  deriving DecidableEq

structure HostConfig where
  mounts : List Libdocker.Mount := []
  restartPolicy : Text := []
  runtime : Text := []
  ipcMode : Text := []
  networkMode : Text := []
  pidMode : Text := []
  utsMode : Text := []
  groupAdd : List Text := []
  privileged : Bool := false
  readonlyRootfs : Bool := false
  capAdd : List Text := []
  capDrop : List Text := []
  securityOpt : List Text := []
  maskedPaths : List Text := []
  readonlyPaths : List Text := []
  sysctls : Labels := []
  portBindings : Groups Text Libdocker.PortBinding := ∅
  oomScoreAdj : Int := 0
  resources : Resources := {}
  cgroupParent : Text := []

structure ContainerCreateConfig where
  name : Text
  config : Config
  hostConfig : HostConfig

/-! ### Security options -/

def securityOptSeparator : Char := '='

structure DockerOpt where
  key : Text
  value : Text
  deriving DecidableEq

def fmtDockerOpts (opts : List DockerOpt) (sep : Char) : List Text := opts.map fun opt => opt.key ++ sep :: opt.value

def modifySecurityOption (config : List Text) (name value : Text) : List Text :=
  if value = [] then config else config ++ [name ++ ':' :: value]

def addSELinuxOptions (config : List Text) (selinuxOpts : Runtimeapi.SELinuxOption) (separator : Char) : List Text :=
  let label (what : String) := "label" ++ separator :: what.toList
  let config := modifySecurityOption config (label "user") selinuxOpts.user
  let config := modifySecurityOption config (label "role") selinuxOpts.role
  let config := modifySecurityOption config (label "type") selinuxOpts.type
  modifySecurityOption config (label "level") selinuxOpts.level

/-- The options that the label of a mount is made from. -/
def selinuxMountOptions (selinuxOpts : Runtimeapi.SELinuxOption) : List Text :=
  let opt (what : String) (value : Text) : List Text := if value = [] then [] else [what.toList ++ ':' :: value]
  match opt "user" selinuxOpts.user ++ opt "role" selinuxOpts.role ++ opt "type" selinuxOpts.type ++
    opt "level" selinuxOpts.level with
  | [] => ["disable"]
  | opts => opts

def getAppArmorOpts (profile : Text) : List DockerOpt :=
  if profile = [] ∨ profile = "runtime/default" then []
  else if profile = "unconfined" then [⟨"apparmor", "unconfined"⟩]
  else [⟨"apparmor", trimPrefix profile "localhost/"⟩]

/-! ### Security contexts -/

/-- The user may be given by number or by name, and the group needs a user. -/
def modifyContainerConfig (sc : Option Runtimeapi.LinuxContainerSecurityContext) (config : Config) : Except GoError Config :=
  match sc with
  | none => .ok config
  | some sc =>
    let user := match sc.runAsUser with
      | some value => itoa value.toInt
      | none => config.user
    let user := if sc.runAsUsername ≠ [] then sc.runAsUsername else user
    match sc.runAsGroup with
    | none => .ok { config with user }
    | some value =>
      if user = [] then .error (.text "runAsGroup is specified without a runAsUser")
      else .ok { config with user := user ++ ':' :: itoa value.toInt }

def modifyHostConfig (sc : Option Runtimeapi.LinuxContainerSecurityContext) (separator : Char) (hc : HostConfig) : HostConfig :=
  match sc with
  | none => hc
  | some sc =>
    { hc with
      groupAdd := hc.groupAdd ++ sc.supplementalGroups.map fun group => itoa group.toInt
      privileged := sc.privileged
      readonlyRootfs := sc.readonlyRootfs
      capAdd := (sc.capabilities.map (·.addCapabilities)).getD hc.capAdd
      capDrop := (sc.capabilities.map (·.dropCapabilities)).getD hc.capDrop
      securityOpt :=
        (match sc.selinuxOptions with
          | none => hc.securityOpt
          | some selinuxOpts => addSELinuxOptions hc.securityOpt selinuxOpts separator) ++
        fmtDockerOpts (getAppArmorOpts sc.apparmorProfile) separator ++
        (if sc.noNewPrivs then ["no-new-privileges".toList] else [])
      maskedPaths := if sc.privileged then hc.maskedPaths else sc.maskedPaths
      readonlyPaths := if sc.privileged then hc.readonlyPaths else sc.readonlyPaths }

/-- The sandbox's PID namespace is the one that is shared. -/
def modifySandboxNamespaceOptions (nsOpts : Runtimeapi.NamespaceOption) (pluginName : Text) (hc : HostConfig) : HostConfig :=
  { hc with
    pidMode := if nsOpts.pid = .node then namespaceModeHost else hc.pidMode
    ipcMode := if nsOpts.ipc = .node then namespaceModeHost else hc.ipcMode
    networkMode := modifyHostOptionsForSandbox nsOpts.network.toNamespaceMode pluginName }

def modifyContainerNamespaceOptions (nsOpts : Runtimeapi.NamespaceOption) (podSandboxID : Text) (hc : HostConfig) : HostConfig :=
  let sandboxNSMode := "container:" ++ podSandboxID
  { hc with
    pidMode := match nsOpts.pid with
      | .node => namespaceModeHost
      | .pod => sandboxNSMode
      | .target => "container:" ++ nsOpts.targetId
      | .container | .other _ => hc.pidMode
    networkMode := sandboxNSMode
    ipcMode := sandboxNSMode
    utsMode := if nsOpts.network = .node then namespaceModeHost else [] }

/-- The security context of a sandbox, as that of a container. -/
def sandboxSecurityContext (sc : Runtimeapi.LinuxSandboxSecurityContext) : Runtimeapi.LinuxContainerSecurityContext :=
  { supplementalGroups := sc.supplementalGroups, runAsUser := sc.runAsUser, runAsGroup := sc.runAsGroup
    readonlyRootfs := sc.readonlyRootfs, selinuxOptions := sc.selinuxOptions, namespaceOptions := sc.namespaceOptions
    privileged := sc.privileged, capabilities := none, runAsUsername := [], apparmorProfile := [], seccomp := none
    noNewPrivs := false, maskedPaths := [], readonlyPaths := [] }

def applySandboxSecurityContext (lc : Runtimeapi.LinuxPodSandboxConfig) (pluginName : Text) (separator : Char)
    (createConfig : ContainerCreateConfig) : Except GoError ContainerCreateConfig :=
  let sc := lc.securityContext.map sandboxSecurityContext
  match modifyContainerConfig sc createConfig.config with
  | .error err => .error err
  | .ok config =>
    .ok { createConfig with
      config
      hostConfig := modifySandboxNamespaceOptions ((sc.bind (·.namespaceOptions)).getD .zero) pluginName
        (modifyHostConfig sc separator createConfig.hostConfig) }

def applyContainerSecurityContext (lc : Runtimeapi.LinuxContainerConfig) (podSandboxID : Text) (separator : Char)
    (createConfig : ContainerCreateConfig) : Except GoError ContainerCreateConfig :=
  match modifyContainerConfig lc.securityContext createConfig.config with
  | .error err => .error err
  | .ok config =>
    .ok { createConfig with
      config
      hostConfig := modifyContainerNamespaceOptions ((lc.securityContext.bind (·.namespaceOptions)).getD .zero) podSandboxID
        (modifyHostConfig lc.securityContext separator createConfig.hostConfig) }

/-! ### Seccomp profiles -/

structure LinuxSeccompArg where
  index : UInt64
  value : UInt64
  valueTwo : UInt64 := 0
  op : Text
  deriving DecidableEq

/-- A rule: what is done with the system calls of the names. -/
structure LinuxSyscall where
  names : List Text
  action : Text
  errnoRet : Option UInt64 := none
  args : List LinuxSeccompArg := []
  deriving DecidableEq

/-- A profile. The default action is for the system calls that no rule is about. -/
structure LinuxSeccomp where
  defaultAction : Text
  defaultErrnoRet : Option UInt64 := none
  architectures : List Text := []
  flags : List Text := []
  listenerPath : Text := []
  listenerMetadata : Text := []
  syscalls : List LinuxSyscall := []
  deriving DecidableEq

def actErrno : Text := "SCMP_ACT_ERRNO"

/-- Files, and the decoder and the encoder for profiles; a compact encoding is the one without blanks. -/
structure SeccompEnv where
  readFile : Text → Except GoError Text
  unmarshal : Text → Except GoError LinuxSeccomp
  marshal : LinuxSeccomp → Except GoError Text
  compact : Text → Except GoError Text

/-- A privileged container may set its host name. -/
def filterSyscalls (privileged : Bool) (syscalls : List LinuxSyscall) : List LinuxSyscall :=
  (syscalls.map fun scall =>
    { scall with names := scall.names.filter fun name =>
        !(privileged && name = "sethostname" && scall.action = actErrno) }).filter
    fun scall => scall.names ≠ []

def loadSeccompProfile (env : SeccompEnv) (fname : Text) (privileged : Bool) : Except GoError (List DockerOpt) :=
  let failed (what : String) (err : GoError) : GoError := .text (what.toList ++ quote fname ++ ": " ++ err.error)
  match env.readFile fname with
  | .error err => .error (failed "cannot load seccomp profile " err)
  | .ok file =>
    match env.unmarshal file with
    | .error err => .error (failed "decoding seccomp profile failed " err)
    | .ok seccompSpec =>
      match filterSyscalls privileged seccompSpec.syscalls with
      | [] => .ok []
      | syscalls =>
        match env.marshal { seccompSpec with syscalls } with
        | .error err => .error (failed "re-encoding seccomp profile failed " err)
        | .ok file => (env.compact file).map fun b => [⟨"seccomp", b⟩]

/-- No type of profile has the deprecated name of the default one. -/
def getSeccompDockerOpts (env : SeccompEnv) (seccomp : Option Runtimeapi.SecurityProfile) (privileged : Bool) :
    Except GoError (List DockerOpt) :=
  match seccomp with
  | none => .ok [⟨"seccomp", "unconfined"⟩]
  | some seccomp =>
    match seccomp.profileType with
    | .unconfined => .ok [⟨"seccomp", "unconfined"⟩]
    | .runtimeDefault => .ok []
    | .other value =>
      .error (.text ("unknown seccomp profile option: &SecurityProfile\x7bProfileType:" ++ itoa value.toInt ++
        ",LocalhostRef:" ++ seccomp.localhostRef ++ ",\x7d"))
    | .localhost =>
      if !hasPrefix seccomp.localhostRef ['/'] then
        .error (.text ("seccomp profile path must be absolute, but got relative path " ++ quote seccomp.localhostRef))
      else loadSeccompProfile env seccomp.localhostRef privileged

def getSecurityOpts (env : SeccompEnv) (seccomp : Option Runtimeapi.SecurityProfile) (privileged : Bool) (separator : Char) :
    Except GoError (List Text) :=
  match getSeccompDockerOpts env seccomp privileged with
  | .error err => .error (.text ("failed to generate seccomp security options for container: " ++ err.error))
  | .ok seccompOpts => .ok (fmtDockerOpts seccompOpts separator)

/-! ### Paths -/

/-- `path.Base`. -/
def pathBase (path : Text) : Text :=
  if path = [] then ['.']
  else match (split path '/').filter (· ≠ []) with
    | [] => ['/']
    | parts => parts.getLast?.getD []

/-- A part of a path; a path that does not start at the root may leave the directory that it starts from. -/
def followPart (rooted : Bool) (place : List Text) (part : Text) : List Text :=
  if part = [] ∨ part = ['.'] then place
  else if part = ['.', '.'] then
    if place = [] ∨ place.getLast? = some ['.', '.'] then (if rooted then place else place ++ [part]) else place.dropLast
  else place ++ [part]

/-- `filepath.Join` of two parts. -/
def filepathJoin (dir name : Text) : Text :=
  match join ['/'] ([dir, name].filter (· ≠ [])) with
  | [] => []
  | path =>
    let rooted := hasPrefix path ['/']
    match (split path '/').foldl (followPart rooted) [] with
    | [] => if rooted then ['/'] else ['.']
    | parts => (if rooted then ['/'] else []) ++ join ['/'] parts

/-! ### Configs -/

/-- With the systemd driver only the last part of a cgroup path is passed on. -/
def generateExpectedCgroupParent (cgroupDriver cgroupParent : Text) : Text :=
  if cgroupParent ≠ [] ∧ cgroupDriver = "systemd" then pathBase cgroupParent else cgroupParent

def defaultSandboxCPUshares : Int64 := 2
def defaultSandboxOOMAdj : Int := -998

/-- The name needs the metadata, which are taken without a check. -/
def sandboxName (c : Option Runtimeapi.PodSandboxConfig) : Option Text :=
  (c.bind (·.known)).map makeSandboxName

def applySandboxLinuxOptions (lc : Option Runtimeapi.LinuxPodSandboxConfig) (pluginName : Text) (separator : Char)
    (createConfig : ContainerCreateConfig) : Except GoError ContainerCreateConfig :=
  match lc with
  | none => .ok createConfig
  | some lc =>
    (applySandboxSecurityContext lc pluginName separator createConfig).map fun createConfig =>
      { createConfig with hostConfig := { createConfig.hostConfig with sysctls := lc.sysctls } }

/-- `makeSandboxDockerConfig`, for a service whose plugin has this name. -/
def makeSandboxDockerConfig (pluginName cgroupDriver : Text) (c : Option Runtimeapi.PodSandboxConfig) (image : Text) :
    Outcome GoError ContainerCreateConfig :=
  match c, sandboxName c with
  | some c, some name =>
    let labels := (kubernetesContainerNameLabel, sandboxContainerName) :: (containerTypeLabelKey, containerTypeLabelSandbox) ::
      makeLabels c.labels c.annotations
    match applySandboxLinuxOptions c.linux pluginName securityOptSeparator
      { name, config := { hostname := c.hostname, image, labels }, hostConfig := { ipcMode := "shareable" } } with
    | .error err => .error err
    | .ok createConfig =>
      let ports := Libdocker.makePortsAndBindings (c.portMappings.map (·.toRuntimePortMapping))
      .ok { createConfig with
        config := { createConfig.config with exposedPorts := ports.exposedPorts }
        hostConfig := { createConfig.hostConfig with
          portBindings := ports.portBindings
          oomScoreAdj := defaultSandboxOOMAdj
          resources := { cpuShares := defaultSandboxCPUshares }
          cgroupParent := match c.linux with
            | none => createConfig.hostConfig.cgroupParent
            | some lc => generateExpectedCgroupParent cgroupDriver lc.cgroupParent
          securityOpt := createConfig.hostConfig.securityOpt ++ ["no-new-privileges".toList] } }
  | _, _ => .panic

end CriDockerd.Core
