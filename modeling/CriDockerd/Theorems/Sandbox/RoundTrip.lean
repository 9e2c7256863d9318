import CriDockerd.Core.Checkpoint

/-! A checkpoint that was written is read back as it was: the omitted members stand for the values that a
    fresh checkpoint has, and the checksum is the one of the data. -/

namespace CriDockerd.Core
open Text Store Json

theorem pointer_int32 {n : Int} (h : minInt32 ≤ n ∧ n ≤ maxInt32) : pointer 0 int32 (.ofInt n) none = .ok (some n) := by
  show (int32 (.ofInt n) 0).map some = _
  rw [int32, integer_ofInt (intLiteral_itoa n) h]
  rfl

theorem decode_portMapping {pm : RuntimePortMapping} (hcontainer : minInt32 ≤ pm.containerPort ∧ pm.containerPort ≤ maxInt32)
    (hhost : minInt32 ≤ pm.hostPort ∧ pm.hostPort ≤ maxInt32) :
    PortMapping.decode (toCheckpointPortMapping pm).toJson ⟨none, none, none, []⟩ = .ok (toCheckpointPortMapping pm) := by
  have hprotocol : pointer [] text (.str (toCheckpointProtocol pm.protocol)) none =
      .ok (some (toCheckpointProtocol pm.protocol)) := rfl
  have hjson : (toCheckpointPortMapping pm).toJson = .obj ([member "protocol" (.str (toCheckpointProtocol pm.protocol)),
      member "container_port" (.ofInt pm.containerPort), member "host_port" (.ofInt pm.hostPort)] ++
      if pm.hostIp = [] then [] else [member "host_ip" (.str pm.hostIp)]) := rfl
  rw [hjson]
  show members PortMapping.fields _ _ = _
  rw [members_append]
  rotate_left
  · refine (members_cons rfl (field_ok hprotocol)).trans ?_
    refine (members_cons rfl (field_ok (pointer_int32 hcontainer))).trans ?_
    exact (members_cons rfl (field_ok (pointer_int32 hhost))).trans rfl
  · split
    · rename_i hip
      rw [toCheckpointPortMapping, hip]
      rfl
    · have htext : text (.str pm.hostIp) [] = .ok pm.hostIp := rfl
      exact (members_cons rfl (field_ok htext)).trans rfl

/-- The data that goes into the checkpoint of a sandbox. -/
def checkpointData (config : PodSandboxConfig) : CheckpointData :=
  { portMappings := if config.portMappings = [] then none
      else some (config.portMappings.map fun pm => some (toCheckpointPortMapping pm))
    hostNetwork := config.network = .node }

theorem decode_checkpointData {config : PodSandboxConfig} (h : config.WellTyped) :
    CheckpointMemory.decode (checkpointData config).toJson ⟨none, false⟩ = .ok (checkpointData config).memory := by
  -- Each part is there, or is what the empty data have.
  have hslice : config.portMappings ≠ [] → slice "[]*config.PortMapping" none
      (pointer ⟨none, none, none, []⟩ PortMapping.decode)
      (.arr (config.portMappings.map fun pm => (toCheckpointPortMapping pm).toJson)) none =
      .ok (checkpointData config).memory.portMappings := by
    intro hne
    have helements : elements none (pointer ⟨none, none, none, []⟩ PortMapping.decode)
        (config.portMappings.map fun pm => (toCheckpointPortMapping pm).toJson) [] =
        .ok (config.portMappings.map fun pm => some (toCheckpointPortMapping pm)) := by
      refine elements_map fun pm hpm => ?_
      show (PortMapping.decode (toCheckpointPortMapping pm).toJson ⟨none, none, none, []⟩).map some = _
      rw [decode_portMapping (h.containerPort pm hpm) (h.hostPort pm hpm)]
      rfl
    rw [slice_none (mt List.map_eq_nil_iff.mp hne), helements, checkpointData, if_neg hne]
    rfl
  have hjson : (checkpointData config).toJson = .obj ((if config.portMappings = [] then []
        else [member "port_mappings" (.arr (config.portMappings.map fun pm => (toCheckpointPortMapping pm).toJson))]) ++
      if (checkpointData config).hostNetwork then [member "host_network" (.bool true)] else []) := by
    by_cases hne : config.portMappings = []
    · simp [CheckpointData.toJson, checkpointData, hne]
    · simp [CheckpointData.toJson, checkpointData, hne, Function.comp_def]
  have hmappings : members CheckpointMemory.fields (if config.portMappings = [] then []
      else [member "port_mappings" (.arr (config.portMappings.map fun pm => (toCheckpointPortMapping pm).toJson))])
      ⟨none, false⟩ = .ok { portMappings := (checkpointData config).memory.portMappings, hostNetwork := false } := by
    split
    · rename_i hnil
      rw [checkpointData, if_pos hnil]
      rfl
    · rename_i hne
      exact (members_cons rfl (field_ok (hslice hne))).trans rfl
  rw [hjson]
  show members CheckpointMemory.fields _ _ = _
  rw [members_append hmappings]
  cases hhost : (checkpointData config).hostNetwork with
  | true =>
    refine (members_cons rfl (field_ok (x := true) rfl)).trans ?_
    rw [← hhost]
    rfl
  | false =>
    have hdata : (⟨(checkpointData config).memory.portMappings, false⟩ : CheckpointMemory) = (checkpointData config).memory := by
      rw [← hhost]
      rfl
    exact congrArg Except.ok hdata

theorem data_memory (data : CheckpointData) : data.memory.data = data := by
  obtain ⟨_ | pms, hostNetwork⟩ := data <;> rfl

section
variable (spew : CheckpointData → List UInt8)

/-- The checkpoint of a sandbox with its checksum. -/
def checkpointOf (config : PodSandboxConfig) : PodSandboxCheckpoint :=
  { constructPodSandboxCheckpoint config with checksum := newChecksum spew (checkpointData config) }

theorem decode_checkpointOf {config : PodSandboxConfig} (h : config.WellTyped) :
    PodSandboxCheckpoint.decode (checkpointOf spew config).toJson emptyCheckpoint = .ok (checkpointOf spew config) := by
  have hsum : 0 ≤ newChecksum spew (checkpointData config) ∧ newChecksum spew (checkpointData config) ≤ 18446744073709551615 := by
    have := (Digest.fnv32a (spew (checkpointData config))).toNat_lt
    unfold newChecksum
    omega
  have hdata (old : PodSandboxCheckpoint) :
      field (·.2) (fun x t => (t.1, x)) (pointer ⟨none, false⟩ CheckpointMemory.decode) (checkpointData config).toJson
        ((old, some ⟨none, false⟩) : PodSandboxCheckpoint.Target) = .ok (old, some (checkpointData config).memory) := by
    refine field_ok ?_
    show (CheckpointMemory.decode (checkpointData config).toJson ⟨none, false⟩).map some = _
    rw [decode_checkpointData h]
    rfl
  have hsumLiteral : uintLiteral (itoa (newChecksum spew (checkpointData config))) = some (newChecksum spew (checkpointData config)) :=
    uintLiteral_toDigits _
  have hjson : (checkpointOf spew config).toJson = .obj [member "version" (.str schemaVersion),
      member "name" (.str config.metadata.name), member "namespace" (.str config.metadata.namespace_),
      member "data" (checkpointData config).toJson, member "checksum" (.ofInt (newChecksum spew (checkpointData config)))] := rfl
  have hmembers : members PodSandboxCheckpoint.fields [member "version" (.str schemaVersion),
      member "name" (.str config.metadata.name), member "namespace" (.str config.metadata.namespace_),
      member "data" (checkpointData config).toJson, member "checksum" (.ofInt (newChecksum spew (checkpointData config)))]
      (emptyCheckpoint, some ⟨none, false⟩) =
      .ok ({ checkpointOf spew config with data := emptyCheckpoint.data }, some (checkpointData config).memory) := by
    refine (members_cons rfl (field_ok (x := schemaVersion) rfl)).trans ?_
    refine (members_cons rfl (field_ok (x := config.metadata.name) rfl)).trans ?_
    refine (members_cons rfl (field_ok (x := config.metadata.namespace_) rfl)).trans ?_
    refine (members_cons rfl (hdata _)).trans ?_
    exact (members_cons rfl (field_ok (integer_ofInt hsumLiteral hsum _))).trans rfl
  rw [hjson]
  show (members PodSandboxCheckpoint.fields _ (emptyCheckpoint, some ⟨none, false⟩)).map _ = _
  rw [hmembers]
  show Except.ok { checkpointOf spew config with data := some (checkpointData config).memory.data } = _
  rw [data_memory]
  rfl

theorem createCheckpoint_written {config : PodSandboxConfig} {id : Text} (hid : validateKey id = none) {dir : Dir Blob} :
    createCheckpoint (podSandboxCheckpoint spew) none id (constructPodSandboxCheckpoint config) dir =
      (.ok (), Function.update dir id (some (.json (checkpointOf spew config).toJson))) := by
  have hmarshal : marshalCheckpoint spew (constructPodSandboxCheckpoint config) =
      .ok (.json (checkpointOf spew config).toJson) := rfl
  simp only [createCheckpoint, podSandboxCheckpoint, hmarshal, write, hid]

theorem getCheckpoint_written {config : PodSandboxConfig} (h : config.WellTyped) {id : Text} (hid : validateKey id = none)
    {dir : Dir Blob} (hdir : dir id = some (.json (checkpointOf spew config).toJson)) :
    getCheckpoint (podSandboxCheckpoint spew) none id emptyCheckpoint dir = .ok (checkpointOf spew config) := by
  have hread : Store.read none id dir = .ok (.json (checkpointOf spew config).toJson) := by
    simp only [Store.read, hid, hdir]
  have hdecode : unmarshalCheckpoint emptyCheckpoint (.json (checkpointOf spew config).toJson) = .ok (checkpointOf spew config) := by
    rw [unmarshalCheckpoint, decode_checkpointOf spew h]
  have hverify : verifyChecksum spew (checkpointOf spew config) = .ok () := if_neg (not_not.mpr rfl)
  rw [getCheckpoint, hread]
  simp only [podSandboxCheckpoint, hdecode, hverify]

/-- The port mapping that the network plugin gets for one of the config. -/
def RuntimePortMapping.checkpointed (pm : RuntimePortMapping) : Hostport.PortMapping :=
  { hostPort := pm.hostPort, containerPort := pm.containerPort, protocol := toCheckpointProtocol pm.protocol, hostIP := pm.hostIp }

theorem checkpointData_portMappings (config : PodSandboxConfig) :
    (checkpointData config).portMappings.getD [] = config.portMappings.map fun pm => some (toCheckpointPortMapping pm) := by
  rw [checkpointData]
  split
  · rename_i hnil
    rw [hnil]
    rfl
  · rfl

theorem mapM_deref_checkpointed (pms : List RuntimePortMapping) :
    (pms.map fun pm => some (toCheckpointPortMapping pm)).mapM (fun pm => pm.bind (·.deref)) =
      some (pms.map (·.checkpointed)) := by
  rw [List.mapM_map]
  exact List.mapM_pure

theorem getPodPortMappings_written {config : PodSandboxConfig} (h : config.WellTyped) {id : Text} (hid : validateKey id = none)
    {dir : Dir Blob} (hdir : dir id = some (.json (checkpointOf spew config).toJson)) {faults : CheckpointFaults}
    (hread : faults.read = none) :
    getPodPortMappings spew faults id dir = (.ok (config.portMappings.map (·.checkpointed)), dir) := by
  have hdata : (checkpointOf spew config).getData = some ((checkpointOf spew config).version,
      (checkpointOf spew config).name, (checkpointOf spew config).namespace_,
      config.portMappings.map (fun pm => some (toCheckpointPortMapping pm)), (checkpointData config).hostNetwork) := by
    rw [← checkpointData_portMappings]
    rfl
  simp only [getPodPortMappings, hread, getCheckpoint_written spew h hid hdir, hdata, mapM_deref_checkpointed]

theorem createCheckpoint_ok {fsErr : Option GoError} {config : PodSandboxConfig} {id : Text} {dir after : Dir Blob}
    (h : createCheckpoint (podSandboxCheckpoint spew) fsErr id (constructPodSandboxCheckpoint config) dir = (.ok (), after)) :
    validateKey id = none ∧ after id = some (.json (checkpointOf spew config).toJson) := by
  cases hkey : validateKey id with
  | some err =>
    simp only [createCheckpoint, podSandboxCheckpoint, marshalCheckpoint, constructPodSandboxCheckpoint,
      newPodSandboxCheckpoint, write, hkey] at h
    cases h
  | none =>
    cases fsErr with
    | some err =>
      simp only [createCheckpoint, podSandboxCheckpoint, marshalCheckpoint, constructPodSandboxCheckpoint,
        newPodSandboxCheckpoint, write, hkey] at h
      cases h
    | none =>
      rw [createCheckpoint_written spew hkey] at h
      cases h
      exact ⟨rfl, Function.update_self ..⟩

/-- What was checkpointed is what a later reader gets, for every config: the checksum verifies, and the port
    mappings come back in their order, zero ports and empty host IPs included. -/
theorem checkpoint_roundTrip {config : PodSandboxConfig} (hconfig : config.WellTyped) {id : Text}
    {fsErr : Option GoError} {dir after later : Dir Blob}
    (hcreate : createCheckpoint (podSandboxCheckpoint spew) fsErr id (constructPodSandboxCheckpoint config) dir = (.ok (), after))
    (huntouched : later id = after id) {faults : CheckpointFaults} (hread : faults.read = none) :
    (∃ cp portMappings, getCheckpoint (podSandboxCheckpoint spew) faults.read id emptyCheckpoint later = .ok cp ∧
        cp.getData = some (schemaVersion, config.metadata.name, config.metadata.namespace_, portMappings,
          decide (config.network = .node))) ∧
      getPodPortMappings spew faults id later = (.ok (config.portMappings.map fun pm =>
        { hostPort := pm.hostPort, containerPort := pm.containerPort, protocol := toCheckpointProtocol pm.protocol,
          hostIP := pm.hostIp }), later) := by
  obtain ⟨hid, hwritten⟩ := createCheckpoint_ok spew hcreate
  have hfile := huntouched.trans hwritten
  refine ⟨⟨checkpointOf spew config, (checkpointData config).portMappings.getD [], ?_, rfl⟩, ?_⟩
  · rw [hread]
    exact getCheckpoint_written spew hconfig hid hfile
  · exact getPodPortMappings_written spew hconfig hid hfile hread

end

def mixedConfig : PodSandboxConfig where
  metadata := { name := "web", uid := "u1", namespace_ := "default", attempt := 0 }
  dnsConfig := none
  portMappings := [⟨.udp, 53, 0, []⟩, ⟨.other 7, 80, 8080, "127.0.0.1"⟩]
  linux := some .node

theorem checkpoint_roundTrip_mixed :
    (getPodPortMappings (fun _ => []) ⟨none, none⟩ "c1"
      (createCheckpoint (podSandboxCheckpoint fun _ => []) none "c1" (constructPodSandboxCheckpoint mixedConfig)
        fun _ => none).2).1 =
      .ok [⟨0, 53, "udp", []⟩, ⟨8080, 80, "tcp", "127.0.0.1"⟩] := by
  have hconfig : mixedConfig.WellTyped := ⟨by decide, by decide⟩
  have hid : validateKey "c1" = none := by decide
  have hcreate : createCheckpoint (podSandboxCheckpoint fun _ => []) none "c1"
      (constructPodSandboxCheckpoint mixedConfig) (fun _ => none) = (.ok (), _) := createCheckpoint_written _ hid
  have hread : (⟨none, none⟩ : CheckpointFaults).read = none := rfl
  have hports := (checkpoint_roundTrip (fun _ => []) hconfig hcreate rfl hread).2
  rw [hcreate, hports]
  rfl

end CriDockerd.Core
