import CriDockerd.Core.DockerConfig
import CriDockerd.Theorems.Sandbox.RoundTrip

/-! The ports of a sandbox are written down twice: as the bindings that Docker gets, by texts of ports, and as the
    mappings of its checkpoint. Both say the same. -/

namespace CriDockerd.Core
open Text Libdocker

/-! ### What the texts say -/

def readPort (dockerPort : Text) : Option (Int × Text) :=
  match split dockerPort '/' with
  | [port, protocol] => (Json.intLiteral port).map fun containerPort => (containerPort, protocol)
  | _ => none

def readBinding (dockerPort : Text) (binding : PortBinding) : Option Hostport.PortMapping :=
  match readPort dockerPort, Json.intLiteral binding.hostPort with
  | some (containerPort, protocol), some hostPort => some { hostPort, containerPort, protocol, hostIP := binding.hostIP }
  | _, _ => none

/-- The mappings that a checkpoint records. -/
def recordedMappings (cp : PodSandboxCheckpoint) : Option (List Hostport.PortMapping) :=
  cp.data.bind fun data => (data.portMappings.getD []).mapM fun pm => pm.bind (·.deref)

/-- Docker's config and the mappings of a checkpoint agree about the mappings that have a host port. -/
structure PortsAgree (createConfig : ContainerCreateConfig) (entries : List Hostport.PortMapping) : Prop where
  flattened : createConfig.hostConfig.portBindings.flatten.map (fun p => readBinding p.1 p.2) =
    ((entries.filter (·.hostPort ≠ 0)).map some : List (Option Hostport.PortMapping))
  ordered : ∀ dockerPort bindings, createConfig.hostConfig.portBindings.lookup dockerPort = some bindings →
    bindings.map (readBinding dockerPort) = (entries.filter fun pm =>
      pm.hostPort ≠ 0 ∧ readPort dockerPort = some (pm.containerPort, pm.protocol)).map some
  exposed : createConfig.config.exposedPorts = createConfig.hostConfig.portBindings.keys

/-! ### The loop over the mappings -/

def dockerPort (pm : RuntimePortMapping) : Text := itoa pm.containerPort ++ portProtocol pm.protocol

def hostBinding (pm : RuntimePortMapping) : PortBinding := { hostPort := itoa pm.hostPort, hostIP := pm.hostIp }

theorem addPort_of_ne {pm : RuntimePortMapping} (h : pm.hostPort ≠ 0) (acc : PortsAndBindings) :
    addPort acc pm = { exposedPorts := insert (dockerPort pm) acc.exposedPorts
                       portBindings := acc.portBindings.append (dockerPort pm) (hostBinding pm) } := by
  rw [addPort, if_neg h, Groups.append]
  cases hlookup : acc.portBindings.lookup (dockerPort pm) with
  | none =>
    simp only [dockerPort] at hlookup ⊢
    simp only [hlookup]
    rfl
  | some bindings =>
    simp only [dockerPort] at hlookup ⊢
    simp only [hlookup]
    rfl

theorem foldl_addPort (pms : List RuntimePortMapping) (acc : PortsAndBindings) :
    (pms.foldl addPort acc).exposedPorts =
        acc.exposedPorts ∪ ((pms.filter (·.hostPort ≠ 0)).map dockerPort).toFinset ∧
      (pms.foldl addPort acc).portBindings = ((pms.filter (·.hostPort ≠ 0)).map fun pm => (dockerPort pm, hostBinding pm)).foldl
        (fun m p => m.append p.1 p.2) acc.portBindings := by
  induction pms generalizing acc with
  | nil => simp
  | cons pm pms ih =>
    rw [List.foldl_cons]
    by_cases h : pm.hostPort = 0
    · have hskip : addPort acc pm = acc := if_pos h
      rw [hskip, List.filter_cons_of_neg (by simpa using h)]
      exact ih acc
    · rw [addPort_of_ne h, List.filter_cons_of_pos (by simpa using h)]
      obtain ⟨hexposed, hbindings⟩ := ih
        ⟨insert (dockerPort pm) acc.exposedPorts, acc.portBindings.append (dockerPort pm) (hostBinding pm)⟩
      rw [hexposed, hbindings]
      refine ⟨?_, rfl⟩
      rw [List.map_cons, List.toFinset_cons, Finset.insert_union, Finset.union_insert]

theorem makePortsAndBindings_eq (pms : List RuntimePortMapping) :
    (makePortsAndBindings pms).portBindings =
        Groups.ofList ((pms.filter (·.hostPort ≠ 0)).map fun pm => (dockerPort pm, hostBinding pm)) ∧
      (makePortsAndBindings pms).exposedPorts = (makePortsAndBindings pms).portBindings.keys := by
  obtain ⟨hexposed, hbindings⟩ := foldl_addPort pms { exposedPorts := ∅, portBindings := ∅ }
  have hofList : (makePortsAndBindings pms).portBindings = Groups.ofList _ := hbindings
  refine ⟨hofList, ?_⟩
  rw [hofList, Groups.keys_ofList, List.map_map]
  exact hexposed.trans (Finset.empty_union _)

/-! ### Reading the texts back -/

theorem portProtocol_eq (protocol : Protocol) : portProtocol protocol = '/' :: toCheckpointProtocol protocol := by
  cases protocol <;> rfl

theorem no_slash_protocol (protocol : Protocol) : '/' ∉ toCheckpointProtocol protocol := by
  have htcp : '/' ∉ protocolTCP := by decide
  cases protocol with
  | tcp => exact htcp
  | udp => decide
  | sctp => decide
  | other value => exact htcp

theorem no_slash_itoa (n : Int) : '/' ∉ itoa n := by
  intro h
  rcases isDigit_or_minus_of_mem_itoa h with hdigit | hminus
  · exact absurd hdigit (by decide)
  · exact absurd hminus (by decide)

theorem readPort_dockerPort (pm : RuntimePortMapping) :
    readPort (dockerPort pm) = some (pm.containerPort, toCheckpointProtocol pm.protocol) := by
  have hsplit : split (dockerPort pm) '/' = [itoa pm.containerPort, toCheckpointProtocol pm.protocol] := by
    rw [dockerPort, portProtocol_eq, split, List.splitOn_append_cons_self_of_not_mem (no_slash_itoa _),
      List.splitOn_eq_singleton (no_slash_protocol _)]
  rw [readPort, hsplit]
  simp only [Json.intLiteral_itoa, Option.map_some]

theorem readBinding_eq (pm : RuntimePortMapping) :
    readBinding (dockerPort pm) (hostBinding pm) = some pm.checkpointed := by
  simp only [readBinding, readPort_dockerPort, hostBinding, Json.intLiteral_itoa, RuntimePortMapping.checkpointed]

theorem dockerPort_eq_iff {pm pm' : RuntimePortMapping} : dockerPort pm = dockerPort pm' ↔
    readPort (dockerPort pm') = some (pm.checkpointed.containerPort, pm.checkpointed.protocol) := by
  rw [readPort_dockerPort]
  constructor
  · intro h
    have hread := congrArg readPort h
    rw [readPort_dockerPort, readPort_dockerPort] at hread
    exact hread.symm
  · intro h
    simp only [Option.some.injEq, Prod.mk.injEq, RuntimePortMapping.checkpointed] at h
    rw [dockerPort, dockerPort, portProtocol_eq, portProtocol_eq, h.1, h.2]

theorem bindings_of_port {pms : List RuntimePortMapping} {port : Text} {bindings : List PortBinding}
    (h : (Groups.ofList ((pms.filter (·.hostPort ≠ 0)).map fun pm => (dockerPort pm, hostBinding pm))).lookup port =
      some bindings) :
    bindings.map (readBinding port) = ((pms.map (·.checkpointed)).filter fun pm =>
      pm.hostPort ≠ 0 ∧ readPort port = some (pm.containerPort, pm.protocol)).map some := by
  have hlookup := Groups.lookup_ofList ((pms.filter (·.hostPort ≠ 0)).map fun pm => (dockerPort pm, hostBinding pm)) port
  rw [h, Option.getD_some, List.filter_map, List.filter_filter, List.map_map] at hlookup
  obtain ⟨pm', rfl⟩ : ∃ pm', dockerPort pm' = port := by
    have hkey := Finmap.mem_keys.mpr (Finmap.mem_of_lookup_eq_some h)
    rw [Groups.keys_ofList, List.mem_toFinset, List.map_map, List.mem_map] at hkey
    obtain ⟨pm', -, hpm'⟩ := hkey
    exact ⟨pm', hpm'⟩
  have hfilter : ∀ pm ∈ pms, (decide (dockerPort pm = dockerPort pm') && decide (pm.hostPort ≠ 0)) =
      decide (pm.checkpointed.hostPort ≠ 0 ∧
        readPort (dockerPort pm') = some (pm.checkpointed.containerPort, pm.checkpointed.protocol)) := by
    intro pm _
    rw [← Bool.decide_and, decide_eq_decide, dockerPort_eq_iff, and_comm]
    rfl
  rw [hlookup, List.map_map, List.filter_map, List.map_map]
  refine (List.map_congr_left fun pm hpm => ?_).trans (congrArg _ (List.filter_congr hfilter))
  have hport := (Bool.and_eq_true_iff.mp (List.mem_filter.mp hpm).2).1
  rw [← of_decide_eq_true hport]
  exact readBinding_eq pm

theorem filter_checkpointed (pms : List RuntimePortMapping) :
    (pms.map (·.checkpointed)).filter (·.hostPort ≠ 0) = (pms.filter (·.hostPort ≠ 0)).map (·.checkpointed) := by
  rw [List.filter_map]
  rfl

theorem recordedMappings_eq (config : PodSandboxConfig) :
    recordedMappings (constructPodSandboxCheckpoint config) = some (config.portMappings.map (·.checkpointed)) := by
  show ((checkpointData config).portMappings.getD []).mapM _ = _
  rw [checkpointData_portMappings, mapM_deref_checkpointed]

/-! ### Agreement -/

theorem makeSandboxDockerConfig_ports {pluginName cgroupDriver image : Text} {c : Runtimeapi.PodSandboxConfig}
    {createConfig : ContainerCreateConfig} (h : makeSandboxDockerConfig pluginName cgroupDriver (some c) image = .ok createConfig) :
    ∃ config, c.known = some config ∧
      createConfig.config.exposedPorts = (makePortsAndBindings config.portMappings).exposedPorts ∧
      createConfig.hostConfig.portBindings = (makePortsAndBindings config.portMappings).portBindings := by
  unfold makeSandboxDockerConfig at h
  split at h
  · rename_i c' name hc hname
    cases hc
    cases hknown : c.known with
    | none =>
      rw [sandboxName, Option.bind_some, hknown] at hname
      cases hname
    | some config =>
      have hports : config.portMappings = c.portMappings.map (·.toRuntimePortMapping) := by
        obtain ⟨metadata, -, rfl⟩ := Option.map_eq_some_iff.mp hknown
        rfl
      refine ⟨config, rfl, ?_⟩
      rw [hports]
      dsimp only at h
      split at h
      · cases h
      · cases h
        exact ⟨rfl, rfl⟩
  · cases h

/-- Docker's bindings hold what the checkpoint of the sandbox records, and no more. -/
theorem portBindings_agree {pluginName cgroupDriver image : Text} {c : Runtimeapi.PodSandboxConfig}
    {createConfig : ContainerCreateConfig} (h : makeSandboxDockerConfig pluginName cgroupDriver (some c) image = .ok createConfig) :
    ∃ config entries, c.known = some config ∧ recordedMappings (constructPodSandboxCheckpoint config) = some entries ∧
      PortsAgree createConfig entries := by
  obtain ⟨config, hknown, hexposed, hbindings⟩ := makeSandboxDockerConfig_ports h
  obtain ⟨hgroups, hkeys⟩ := makePortsAndBindings_eq config.portMappings
  refine ⟨config, _, hknown, recordedMappings_eq config, ?_, ?_, ?_⟩
  · rw [hbindings, hgroups, Groups.flatten_ofList, filter_checkpointed, List.map_map, Multiset.map_coe, List.map_map]
    congr 1
    refine List.map_congr_left fun pm _ => ?_
    exact readBinding_eq pm
  · intro port bindings hport
    rw [hbindings, hgroups] at hport
    exact bindings_of_port hport
  · rw [hexposed, hkeys, hbindings]

/-- Two bindings of one port, one of them by an unknown protocol, and a port without a host port. -/
def portsConfig : Runtimeapi.PodSandboxConfig where
  metadata := some { name := "p", uid := "u", namespace_ := "ns", attempt := 0 }
  hostname := "p"
  logDirectory := []
  dnsConfig := none
  portMappings := [⟨.tcp, 80, 8080, []⟩, ⟨.other 7, 80, 8081, "10.0.0.1"⟩, ⟨.udp, 53, 0, []⟩]
  labels := []
  annotations := []
  linux := none

theorem portBindings_agree_ports : ∃ createConfig config entries,
    makeSandboxDockerConfig "cni" "systemd" (some portsConfig) "pause" = .ok createConfig ∧
      portsConfig.known = some config ∧ recordedMappings (constructPodSandboxCheckpoint config) = some entries ∧
      entries.length = 3 ∧ PortsAgree createConfig entries := by
  obtain ⟨config, entries, hknown, hentries, hagree⟩ :=
    portBindings_agree (rfl : makeSandboxDockerConfig "cni" "systemd" (some portsConfig) "pause" = .ok _)
  refine ⟨_, config, entries, rfl, hknown, hentries, ?_, hagree⟩
  cases hknown
  cases hentries
  rfl

end CriDockerd.Core
