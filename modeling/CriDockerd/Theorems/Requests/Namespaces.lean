import CriDockerd.Theorems.Requests.Mounts

/-! The namespaces of a pod. A CRI config says for each kind of namespace whose it is; Docker is told a mode, which may name
    another container, whose mode may name the host. What Docker makes of the modes of a sandbox and of its containers is what
    the configs say, for every container whose config has a Linux part. -/

namespace CriDockerd.Core
open Text

/-- A namespace: that of the host, or the one that Docker makes for a container. -/
inductive Namespace where
  | host
  | of (id : Text)
  deriving DecidableEq

/-! ### Docker's modes -/

/-- The mode that joins the namespace of another container. -/
def containerMode (id : Text) : Text := "container:" ++ id

/-- A mode with which Docker makes a namespace for the container. -/
def IsOwn (mode : Text) : Prop := mode ≠ namespaceModeHost ∧ hasPrefix mode "container:" = false

/-- The namespace that a container is in, by the modes of all containers. -/
inductive Joins (mode : Text → Option Text) : Text → Namespace → Prop
  | host {id : Text} (h : mode id = some namespaceModeHost) : Joins mode id .host
  | own {id m : Text} (h : mode id = some m) (hown : IsOwn m) : Joins mode id (.of id)
  | container {id other : Text} {ns : Namespace} (h : mode id = some (containerMode other)) (hother : Joins mode other ns) :
    Joins mode id ns

theorem hasPrefix_containerMode (id : Text) : hasPrefix (containerMode id) "container:" = true :=
  hasPrefix_append ..

theorem containerMode_ne_host (id : Text) : containerMode id ≠ namespaceModeHost := by
  intro heq
  cases congrArg List.head? heq

section
variable {mode : Text → Option Text} {id other m : Text} {ns : Namespace}

theorem joins_host_iff (h : mode id = some namespaceModeHost) : Joins mode id ns ↔ ns = .host := by
  constructor
  · intro hjoins
    cases hjoins with
    | host => rfl
    | own h' hown => exact absurd (Option.some.inj (h'.symm.trans h)) hown.1
    | container h' _ => exact absurd (Option.some.inj (h'.symm.trans h)) (containerMode_ne_host _)
  · rintro rfl
    exact .host h

theorem joins_own_iff (h : mode id = some m) (hown : IsOwn m) : Joins mode id ns ↔ ns = .of id := by
  constructor
  · intro hjoins
    cases hjoins with
    | host h' => exact absurd (Option.some.inj (h.symm.trans h')) hown.1
    | own => rfl
    | container h' _ =>
      obtain rfl := Option.some.inj (h.symm.trans h')
      exact absurd (hasPrefix_containerMode _) (by rw [hown.2]; decide)
  · rintro rfl
    exact .own h hown

theorem joins_container_iff (h : mode id = some (containerMode other)) : Joins mode id ns ↔ Joins mode other ns := by
  constructor
  · intro hjoins
    cases hjoins with
    | host h' => exact absurd (Option.some.inj (h.symm.trans h')) (containerMode_ne_host _)
    | own h' hown =>
      obtain rfl := Option.some.inj (h.symm.trans h')
      exact absurd (hasPrefix_containerMode _) (by rw [hown.2]; decide)
    | container h' hother =>
      obtain rfl := List.append_cancel_left (Option.some.inj (h.symm.trans h'))
      exact hother
  · exact .container h

theorem joins_ite_iff {p : Prop} [Decidable p] (h : mode id = some (if p then namespaceModeHost else m)) (hown : IsOwn m) :
    Joins mode id ns ↔ ns = if p then .host else .of id := by
  split at h
  · rename_i hp
    rw [if_pos hp]
    exact joins_host_iff h
  · rename_i hp
    rw [if_neg hp]
    exact joins_own_iff h hown

end

/-! ### The modes of a sandbox -/

/-- The namespace options of a sandbox config; without a Linux part they are all POD. -/
def sandboxNamespaceOptions (c : Runtimeapi.PodSandboxConfig) : Runtimeapi.NamespaceOption :=
  (c.linux.map (·.namespaceOptions)).getD .zero

/-- The modes of a sandbox: the host's, or ones that make a namespace. -/
structure SandboxModes (nsOpts : Runtimeapi.NamespaceOption) (hc : HostConfig) : Prop where
  network : ∃ m, IsOwn m ∧ hc.networkMode = if nsOpts.network = .node then namespaceModeHost else m
  ipc : ∃ m, IsOwn m ∧ hc.ipcMode = if nsOpts.ipc = .node then namespaceModeHost else m
  pid : ∃ m, IsOwn m ∧ hc.pidMode = if nsOpts.pid = .node then namespaceModeHost else m

theorem isOwn_of_decide {m : Text} (h : (decide (m ≠ namespaceModeHost) && !hasPrefix m "container:") = true) : IsOwn m := by
  simpa [IsOwn] using h

theorem isOwn_nil : IsOwn [] := isOwn_of_decide (by decide)

theorem modifyHostConfig_modes (sc : Option Runtimeapi.LinuxContainerSecurityContext) (separator : Char) (hc : HostConfig) :
    (modifyHostConfig sc separator hc).networkMode = hc.networkMode ∧ (modifyHostConfig sc separator hc).ipcMode = hc.ipcMode ∧
      (modifyHostConfig sc separator hc).pidMode = hc.pidMode := by
  cases sc with
  | none => exact ⟨rfl, rfl, rfl⟩
  | some sc => exact ⟨rfl, rfl, rfl⟩

theorem modifyHostOptionsForSandbox_mode (network : Runtimeapi.NamespaceMode) (pluginName : Text) :
    ∃ m, IsOwn m ∧
      modifyHostOptionsForSandbox network.toNamespaceMode pluginName = if network = .node then namespaceModeHost else m := by
  have hnode : network.toNamespaceMode = .node ↔ network = .node := by
    cases network <;> simp [Runtimeapi.NamespaceMode.toNamespaceMode]
  unfold modifyHostOptionsForSandbox
  by_cases hplugin : pluginName = "cni" ∨ pluginName = "kubenet"
  · refine ⟨"none", isOwn_of_decide (by decide), ?_⟩
    rw [if_pos hplugin]
    exact ite_congr (propext hnode) (fun _ => rfl) (fun _ => rfl)
  · refine ⟨"default", isOwn_of_decide (by decide), ?_⟩
    rw [if_neg hplugin]
    exact ite_congr (propext hnode) (fun _ => rfl) (fun _ => rfl)

theorem applySandboxLinuxOptions_modes {lc : Option Runtimeapi.LinuxPodSandboxConfig} {pluginName : Text} {separator : Char}
    {createConfig made : ContainerCreateConfig} (h : applySandboxLinuxOptions lc pluginName separator createConfig = .ok made)
    (hnetwork : IsOwn createConfig.hostConfig.networkMode) (hipc : IsOwn createConfig.hostConfig.ipcMode)
    (hpid : IsOwn createConfig.hostConfig.pidMode) :
    SandboxModes ((lc.map (·.namespaceOptions)).getD .zero) made.hostConfig := by
  unfold applySandboxLinuxOptions at h
  split at h
  · cases h
    exact ⟨⟨_, hnetwork, rfl⟩, ⟨_, hipc, rfl⟩, ⟨_, hpid, rfl⟩⟩
  · rename_i lc
    unfold applySandboxSecurityContext at h
    dsimp only at h
    split at h
    · cases h
    · cases h
      obtain ⟨-, hipcMode, hpidMode⟩ :=
        modifyHostConfig_modes (lc.securityContext.map sandboxSecurityContext) separator createConfig.hostConfig
      -- A sandbox's security context keeps the namespace options of the config.
      have hopts : ((lc.securityContext.map sandboxSecurityContext).bind (·.namespaceOptions)).getD .zero = lc.namespaceOptions := by
        unfold Runtimeapi.LinuxPodSandboxConfig.namespaceOptions
        cases lc.securityContext <;> rfl
      refine ⟨?_, ⟨_, hipc, ?_⟩, ⟨_, hpid, ?_⟩⟩
      · rw [Option.map_some, Option.getD_some, ← hopts]
        exact modifyHostOptionsForSandbox_mode _ pluginName
      · rw [Option.map_some, Option.getD_some, ← hopts, ← hipcMode]
        rfl
      · rw [Option.map_some, Option.getD_some, ← hopts, ← hpidMode]
        rfl

theorem makeSandboxDockerConfig_modes {pluginName cgroupDriver image : Text} {c : Runtimeapi.PodSandboxConfig}
    {sandbox : ContainerCreateConfig} (h : makeSandboxDockerConfig pluginName cgroupDriver (some c) image = .ok sandbox) :
    SandboxModes (sandboxNamespaceOptions c) sandbox.hostConfig := by
  unfold makeSandboxDockerConfig at h
  split at h
  · rename_i c' name hc hname
    cases hc
    dsimp only at h
    split at h
    · cases h
    · rename_i applied happlied
      cases h
      have hshareable : IsOwn "shareable" := isOwn_of_decide (by decide)
      obtain ⟨hnetwork, hipc, hpid⟩ := applySandboxLinuxOptions_modes happlied isOwn_nil hshareable isOwn_nil
      exact ⟨hnetwork, hipc, hpid⟩
  · cases h

/-! ### The modes of a container -/

/-- The namespace options of a container config that has a Linux part. -/
def containerNamespaceOptions (lc : Runtimeapi.LinuxContainerConfig) : Runtimeapi.NamespaceOption :=
  (lc.securityContext.bind (·.namespaceOptions)).getD .zero

def pidModeOf (nsOpts : Runtimeapi.NamespaceOption) (podSandboxID : Text) : Text :=
  match nsOpts.pid with
  | .node => namespaceModeHost
  | .pod => containerMode podSandboxID
  | .target => containerMode nsOpts.targetId
  | .container => []
  | .other _ => []

/-- The modes of a container, which has none without a Linux part. -/
structure ContainerModes (linux : Option Runtimeapi.LinuxContainerConfig) (podSandboxID : Text) (hc : HostConfig) : Prop where
  inPod : ∀ lc, linux = some lc → hc.networkMode = containerMode podSandboxID ∧ hc.ipcMode = containerMode podSandboxID ∧
    hc.pidMode = pidModeOf (containerNamespaceOptions lc) podSandboxID
  alone : linux = none → hc.networkMode = [] ∧ hc.ipcMode = [] ∧ hc.pidMode = []

namespace Requests
variable {env : CreateEnv} {r : Runtimeapi.CreateContainerRequest} {config : Runtimeapi.ContainerConfig}
  {sandboxConfig : Runtimeapi.PodSandboxConfig} {createConfig made : ContainerCreateConfig}

theorem applyContainerSecurityContext_modes {lc : Runtimeapi.LinuxContainerConfig} {podSandboxID : Text} {separator : Char}
    (h : applyContainerSecurityContext lc podSandboxID separator createConfig = .ok made) (hpid : createConfig.hostConfig.pidMode = []) :
    made.hostConfig.networkMode = containerMode podSandboxID ∧ made.hostConfig.ipcMode = containerMode podSandboxID ∧
      made.hostConfig.pidMode = pidModeOf (containerNamespaceOptions lc) podSandboxID := by
  rw [applyContainerSecurityContext] at h
  split at h
  · cases h
  · cases h
    refine ⟨rfl, rfl, ?_⟩
    have hkept : (modifyHostConfig lc.securityContext separator createConfig.hostConfig).pidMode = [] :=
      (modifyHostConfig_modes lc.securityContext separator createConfig.hostConfig).2.2.trans hpid
    unfold pidModeOf containerNamespaceOptions modifyContainerNamespaceOptions
    dsimp only
    cases ((lc.securityContext.bind (·.namespaceOptions)).getD .zero).pid with
    | pod => rfl
    | node => rfl
    | target => rfl
    | container => exact hkept
    | other value => exact hkept

theorem updateCreateConfig_modes {podSandboxID name : Text}
    (h : updateCreateConfig env config sandboxConfig podSandboxID name createConfig = .ok made)
    (hmodes : createConfig.hostConfig.networkMode = [] ∧ createConfig.hostConfig.ipcMode = [] ∧
      createConfig.hostConfig.pidMode = []) :
    ContainerModes config.linux podSandboxID made.hostConfig := by
  unfold updateCreateConfig at h
  dsimp only at h
  split at h
  · cases h
  · rename_i applied happlied
    cases h
    split at happlied
    · rename_i hnone
      cases happlied
      exact ⟨fun lc hlc => absurd (hnone.symm.trans hlc) nofun, fun _ => hmodes⟩
    · rename_i lc hlc
      refine ⟨?_, fun hnone => absurd (hlc.symm.trans hnone) nofun⟩
      intro lc' hlc'
      obtain rfl := Option.some.inj (hlc.symm.trans hlc')
      have happliedModes := applyContainerSecurityContext_modes happlied (by split <;> exact hmodes.2.2)
      exact happliedModes

theorem containerCreateConfig_modes (hconfig : r.config = some config) (h : containerCreateConfig env r = .ok made) :
    ContainerModes config.linux r.podSandboxId made.hostConfig := by
  obtain ⟨_, _, _, _, _, _, _, _, -, hupdated, rfl⟩ := containerCreateConfig_ok hconfig h
  obtain ⟨hpod, halone⟩ := updateCreateConfig_modes hupdated ⟨rfl, rfl, rfl⟩
  exact ⟨hpod, halone⟩

theorem createContainer_modes (hconfig : r.config = some config) (h : createConfig ∈ (createContainer env r).2) :
    ContainerModes config.linux r.podSandboxId createConfig.hostConfig := by
  rcases createContainer_cases env r with ⟨made, hmade, hpassed⟩ | ⟨hnone, -⟩
  · rw [(hpassed createConfig h).hostConfig]
    exact containerCreateConfig_modes hconfig hmade
  · rw [hnone] at h
    cases h

end Requests

/-! ### Pods -/

/-- The namespaces of a container of a pod, with any containers beside it. The network and the IPC namespace are those of the
    sandbox, which are the host's if the sandbox config says so; the PID namespace is that of the sandbox, of the container, of
    another one or of the host, as the container config says. A container whose config has no Linux part shares none of them. -/
theorem container_namespaces {pluginName cgroupDriver image : Text} {c : Runtimeapi.PodSandboxConfig}
    {sandbox createConfig : ContainerCreateConfig}
    (hsandbox : makeSandboxDockerConfig pluginName cgroupDriver (some c) image = .ok sandbox)
    {env : Requests.CreateEnv} {r : Runtimeapi.CreateContainerRequest} {config : Runtimeapi.ContainerConfig}
    (hconfig : r.config = some config) (hcreate : createConfig ∈ (Requests.createContainer env r).2)
    {hosts : Text → Option HostConfig} {id : Text} (hs : hosts r.podSandboxId = some sandbox.hostConfig)
    (hc : hosts id = some createConfig.hostConfig) (ns : Namespace) :
    (∀ lc, config.linux = some lc →
      (Joins (fun id => (hosts id).map (·.networkMode)) id ns ↔
        ns = if (sandboxNamespaceOptions c).network = .node then .host else .of r.podSandboxId) ∧
      (Joins (fun id => (hosts id).map (·.ipcMode)) id ns ↔
        ns = if (sandboxNamespaceOptions c).ipc = .node then .host else .of r.podSandboxId) ∧
      ((containerNamespaceOptions lc).pid = .node → (Joins (fun id => (hosts id).map (·.pidMode)) id ns ↔ ns = .host)) ∧
      ((containerNamespaceOptions lc).pid = .pod → (Joins (fun id => (hosts id).map (·.pidMode)) id ns ↔
        ns = if (sandboxNamespaceOptions c).pid = .node then .host else .of r.podSandboxId)) ∧
      ((containerNamespaceOptions lc).pid = .target → (Joins (fun id => (hosts id).map (·.pidMode)) id ns ↔
        Joins (fun id => (hosts id).map (·.pidMode)) (containerNamespaceOptions lc).targetId ns)) ∧
      ((containerNamespaceOptions lc).pid = .container → (Joins (fun id => (hosts id).map (·.pidMode)) id ns ↔ ns = .of id))) ∧
    (config.linux = none → (Joins (fun id => (hosts id).map (·.networkMode)) id ns ↔ ns = .of id) ∧
      (Joins (fun id => (hosts id).map (·.ipcMode)) id ns ↔ ns = .of id) ∧
      (Joins (fun id => (hosts id).map (·.pidMode)) id ns ↔ ns = .of id)) := by
  obtain ⟨⟨network, hnetworkOwn, hnetwork⟩, ⟨ipc, hipcOwn, hipc⟩, ⟨pid, hpidOwn, hpid⟩⟩ := makeSandboxDockerConfig_modes hsandbox
  obtain ⟨hpod, halone⟩ := Requests.createContainer_modes hconfig hcreate
  -- The mode of a container, read from its host config.
  have hmode {f : HostConfig → Text} {m : Text} (h : f createConfig.hostConfig = m) : (hosts id).map f = some m := by
    rw [hc, Option.map_some, h]
  have hsandboxMode {f : HostConfig → Text} {m : Text} (h : f sandbox.hostConfig = m) :
      (hosts r.podSandboxId).map f = some m := by
    rw [hs, Option.map_some, h]
  refine ⟨?_, ?_⟩
  · intro lc hlc
    obtain ⟨hcnetwork, hcipc, hcpid⟩ := hpod lc hlc
    refine ⟨?_, ?_, ?_, ?_, ?_, ?_⟩
    · rw [joins_container_iff (hmode hcnetwork)]
      exact joins_ite_iff (hsandboxMode hnetwork) hnetworkOwn
    · rw [joins_container_iff (hmode hcipc)]
      exact joins_ite_iff (hsandboxMode hipc) hipcOwn
    · intro hnode
      rw [pidModeOf, hnode] at hcpid
      exact joins_host_iff (hmode hcpid)
    · intro hpodPid
      rw [pidModeOf, hpodPid] at hcpid
      rw [joins_container_iff (hmode hcpid)]
      exact joins_ite_iff (hsandboxMode hpid) hpidOwn
    · intro htarget
      rw [pidModeOf, htarget] at hcpid
      exact joins_container_iff (hmode hcpid)
    · intro hcontainer
      rw [pidModeOf, hcontainer] at hcpid
      exact joins_own_iff (hmode hcpid) isOwn_nil
  · intro hnone
    obtain ⟨hcnetwork, hcipc, hcpid⟩ := halone hnone
    exact ⟨joins_own_iff (hmode hcnetwork) isOwn_nil, joins_own_iff (hmode hcipc) isOwn_nil, joins_own_iff (hmode hcpid) isOwn_nil⟩

def hostNetworkPod : Runtimeapi.PodSandboxConfig :=
  { Requests.podOfContainer with
    linux := some
      { cgroupParent := [], sysctls := []
        securityContext := some
          { namespaceOptions := some { Runtimeapi.NamespaceOption.zero with network := .node }, selinuxOptions := none
            runAsUser := none, runAsGroup := none, readonlyRootfs := false, supplementalGroups := [], privileged := false } } }

def hostNetworkRequest : Runtimeapi.CreateContainerRequest where
  podSandboxId := "c1"
  config := some { Requests.rroContainer with linux := some { resources := none, securityContext := none } }
  sandboxConfig := some hostNetworkPod

theorem container_namespaces_hostNetwork :
    ∃ sandbox createConfig, makeSandboxDockerConfig "cni" "systemd" (some hostNetworkPod) "pause" = .ok sandbox ∧
      (Requests.createContainer (Requests.createEnv (Requests.oneRuntime "runc" "runc")) hostNetworkRequest).2 =
        [createConfig] ∧
      Joins (fun id => (if id = "c1" then some sandbox.hostConfig.networkMode
        else if id = "k1" then some createConfig.hostConfig.networkMode else none)) "k1" .host := by
  obtain ⟨sandbox, hsandbox⟩ : ∃ sandbox,
    makeSandboxDockerConfig "cni" "systemd" (some hostNetworkPod) "pause" = .ok sandbox := ⟨_, rfl⟩
  obtain ⟨createConfig, hcreate⟩ : ∃ createConfig, (Requests.createContainer
    (Requests.createEnv (Requests.oneRuntime "runc" "runc")) hostNetworkRequest).2 = [createConfig] := ⟨_, rfl⟩
  refine ⟨sandbox, createConfig, hsandbox, hcreate, ?_⟩
  have hjoins := ((@container_namespaces _ _ _ _ _ _ hsandbox _ _ _ rfl (hcreate ▸ List.mem_cons_self)
    (fun id => if id = "c1" then some sandbox.hostConfig
      else if id = "k1" then some createConfig.hostConfig else none) "k1" rfl rfl .host).1 _ rfl).1.mpr rfl
  simpa only [apply_ite (Option.map HostConfig.networkMode), Option.map_some, Option.map_none] using hjoins

end CriDockerd.Core
