import CriDockerd.Theorems.Requests.Mounts
import CriDockerd.Theorems.Sandbox.NetworkReady

/-! Which requests make a handler dereference a nil message. Names of sandboxes and containers are built from their
    metadata without a look at them, and so is the message for a missing sandbox config; two handlers take the
    resources and the network config of a request for granted. All other messages are read by way of getters, or after
    a check. -/

namespace CriDockerd.Core.Requests
open Text

/-! ### What the handlers take for granted -/

/-- The sandbox image is missing, or there are a config and its metadata. -/
def RunComplete (env : RunEnv) (r : Runtimeapi.RunPodSandboxRequest) : Prop :=
  env.ensureSandboxImageExists ≠ none ∨ ∃ c, r.config = some c ∧ c.metadata ≠ none

/-- There is no config at all; or the metadata of the container are there, and those of the sandbox too if there is a
    sandbox config; or the call ends before it looks at them. -/
def CreateComplete (env : CreateEnv) (r : Runtimeapi.CreateContainerRequest) : Prop :=
  ∀ config, r.config = some config →
    match r.sandboxConfig with
    | none => config.metadata ≠ none
    | some sandboxConfig => env.getDockerAPIVersion ≠ none ∨ config.metadata ≠ none ∧ sandboxConfig.metadata ≠ none

def RuntimeConfigComplete (hasNetwork : Bool) (r : Runtimeapi.UpdateRuntimeConfigRequest) : Prop :=
  hasNetwork = true → ∀ runtimeConfig, r.runtimeConfig = some runtimeConfig → runtimeConfig.networkConfig ≠ none

/-! ### RunPodSandbox -/

section
variable {c : Runtimeapi.PodSandboxConfig} {config : PodSandboxConfig}

theorem known_eq_none : c.known = none ↔ c.metadata = none := Option.map_eq_none_iff

theorem known_wellTyped (h : c.known = some config) : config.WellTyped := by
  obtain ⟨metadata, -, rfl⟩ := Option.map_eq_some_iff.mp h
  have hbounds : ∀ port : Int32, minInt32 ≤ port.toInt ∧ port.toInt ≤ maxInt32 := by
    intro port
    exact ⟨port.le_toInt, Int.le_of_lt_add_one port.toInt_lt⟩
  constructor
  · intro pm hpm
    obtain ⟨pm', -, rfl⟩ := List.mem_map.mp hpm
    exact hbounds pm'.containerPort
  · intro pm hpm
    obtain ⟨pm', -, rfl⟩ := List.mem_map.mp hpm
    exact hbounds pm'.hostPort

theorem makeSandboxDockerConfig_panic_iff {pluginName cgroupDriver image : Text} {c : Option Runtimeapi.PodSandboxConfig} :
    makeSandboxDockerConfig pluginName cgroupDriver c image = .panic ↔ c.bind (·.known) = none := by
  unfold makeSandboxDockerConfig sandboxName
  cases c with
  | none => simp
  | some c =>
    cases hknown : c.known with
    | none => simp [hknown]
    | some config =>
      simp only [Option.bind_some, hknown, Option.map_some, reduceCtorEq, iff_false]
      split <;> exact fun h => by cases h

theorem core_runPodSandbox_ne_panic {ds : DockerService} {env : RunEnv} (hconfig : config.WellTyped) (runtimeHandler : Text)
    (s : State) : (Core.runPodSandbox ds env config runtimeHandler s).2.1 ≠ .panic := by
  cases hrun : Core.runPodSandbox ds env config runtimeHandler s with
  | mk resp rest =>
    obtain ⟨result, t⟩ := rest
    rcases runPodSandbox_cases hconfig hrun with ⟨err, herr, -⟩ | ⟨id, exit, events, -, rfl, hran⟩
    · rw [Core.runPodSandbox] at hrun
      cases hcreate : createSandbox ds env config runtimeHandler s with
      | mk r u =>
        rw [hcreate] at herr hrun
        cases herr
        cases hrun
        exact fun h => by cases h
    · exact hran.way.ne_panic

theorem runPodSandbox_returns_iff {ds : DockerService} {cgroupDriver podSandboxImage : Text} {env : RunEnv}
    {r : Runtimeapi.RunPodSandboxRequest} {s : State} :
    (runPodSandbox ds cgroupDriver podSandboxImage env r s).2.1 ≠ .panic ↔ RunComplete env r := by
  unfold RunComplete runPodSandbox
  cases himage : env.ensureSandboxImageExists with
  | some err => simp
  | none =>
    have hcomplete : (∃ c, r.config = some c ∧ c.metadata ≠ none) ↔ r.config.bind (·.known) ≠ none := by
      cases r.config with
      | none => simp
      | some c => simp [known_eq_none]
    rw [hcomplete]
    dsimp only
    have hpanic := @makeSandboxDockerConfig_panic_iff ds.pluginName cgroupDriver
      (if podSandboxImage ≠ [] then podSandboxImage else defaultSandboxImage) r.config
    generalize makeSandboxDockerConfig ds.pluginName cgroupDriver r.config _ = made at hpanic ⊢
    cases hknown : r.config.bind (·.known) with
    | none =>
      rw [hpanic.mpr hknown]
      simp
    | some config =>
      obtain ⟨c, -, hc⟩ := Option.bind_eq_some_iff.mp hknown
      have hreturns := fun env => @core_runPodSandbox_ne_panic config ds env (known_wellTyped hc) r.runtimeHandler s
      cases made with
      | panic => cases (hpanic.mp rfl).symm.trans hknown
      | error err => simpa using hreturns _
      | ok createConfig => simpa using hreturns _

end

/-! ### CreateContainer -/

section
variable {env : CreateEnv} {r : Runtimeapi.CreateContainerRequest}

theorem containerCreateConfig_returns_iff : containerCreateConfig env r ≠ .panic ↔ CreateComplete env r := by
  unfold containerCreateConfig CreateComplete
  cases hconfig : r.config with
  | none => simp
  | some config =>
    cases hsandbox : r.sandboxConfig with
    | none => cases hmetadata : config.metadata <;> simp [hmetadata]
    | some sandboxConfig =>
      cases hversion : env.getDockerAPIVersion with
      | some err => simp
      | none =>
        cases hcontainer : config.metadata with
        | none => simp [makeContainerName, hcontainer]
        | some metadata =>
          cases hpod : sandboxConfig.metadata with
          | none => simp [makeContainerName, hcontainer, hpod]
          | some sandboxMetadata =>
            simp only [makeContainerName, hcontainer, hpod]
            split <;> simp [hcontainer]

theorem createContainer_returns_iff : (createContainer env r).1 ≠ .panic ↔ CreateComplete env r := by
  rw [← containerCreateConfig_returns_iff]
  unfold createContainer
  split
  · rename_i hpanic
    simp [hpanic]
  · rename_i herr
    simp [herr]
  · rename_i hok
    simp only [hok, ne_eq, reduceCtorEq, not_false_eq_true, iff_true]
    split
    · simp
    · split
      · split
        · simp
        · split <;> simp
      · simp

end

/-! ### All of them -/

/-- The handlers return a response or an error for exactly the requests that have what they take for granted. -/
theorem handlers_return_iff (ds : DockerService) (cgroupDriver podSandboxImage : Text) (runEnv : RunEnv)
    (run : Runtimeapi.RunPodSandboxRequest) (s : State) (containerEnv : CreateEnv) (create : Runtimeapi.CreateContainerRequest)
    (fault : Option GoError) (update : Runtimeapi.UpdateContainerResourcesRequest) (hasNetwork : Bool)
    (config : Runtimeapi.UpdateRuntimeConfigRequest) :
    ((runPodSandbox ds cgroupDriver podSandboxImage runEnv run s).2.1 ≠ .panic ↔ RunComplete runEnv run) ∧
    ((createContainer containerEnv create).1 ≠ .panic ↔ CreateComplete containerEnv create) ∧
    ((updateContainerResources fault update).1 ≠ .panic ↔ update.linux ≠ none) ∧
    ((updateRuntimeConfig hasNetwork config).1 ≠ .panic ↔ RuntimeConfigComplete hasNetwork config) := by
  refine ⟨runPodSandbox_returns_iff, createContainer_returns_iff, ?_, ?_⟩
  · unfold updateContainerResources
    cases update.linux with
    | none => simp
    | some resources => cases fault <;> simp
  · unfold updateRuntimeConfig RuntimeConfigComplete
    cases hasNetwork with
    | false => cases config.runtimeConfig <;> simp
    | true =>
      cases config.runtimeConfig with
      | none => simp
      | some runtimeConfig => cases hnetwork : runtimeConfig.networkConfig <;> simp [hnetwork]

def emptyContainer : Runtimeapi.ContainerConfig where
  metadata := none
  image := none
  command := []
  args := []
  workingDir := []
  envs := []
  mounts := []
  devices := []
  cdiDevices := []
  labels := []
  annotations := []
  logPath := []
  stdin := false
  stdinOnce := false
  tty := false
  linux := none

/-- Requests without a sandbox config, without the metadata of a container, without resources and without a network
    config. -/
theorem handlers_panic_on_nil :
    (runPodSandbox cniService [] [] (quietRun "c1") { config := none, runtimeHandler := [] } emptyHost).2.1 = .panic ∧
    (createContainer (createEnv (oneRuntime "runc" "runc"))
      { podSandboxId := "c1", config := some emptyContainer, sandboxConfig := none }).1 = .panic ∧
    (updateContainerResources none { containerId := "k1", linux := none }).1 = .panic ∧
    (updateRuntimeConfig true { runtimeConfig := some { networkConfig := none } }).1 = .panic :=
  ⟨rfl, rfl, rfl, rfl⟩

end CriDockerd.Core.Requests
