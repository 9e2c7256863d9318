import CriDockerd.Core.Checkpoint

/-! Which checkpoint files make a reader dereference a nil pointer. The decoder takes null for every pointer:
    for the data, which the checksum is taken of, for a port mapping, and for its ports and its protocol. A file
    without data is harmless, since the reader decodes into a checkpoint that has some. -/

namespace CriDockerd.Core
open Text Store

variable {spew : CheckpointData → List UInt8} {id : Text} {dir : Dir Blob} {faults : CheckpointFaults} {blob : Blob}
  {cp : PodSandboxCheckpoint} {j : Json}

/-- A port mapping with nothing nil in it. -/
def Complete (pm : Option PortMapping) : Prop :=
  ∃ m, pm = some m ∧ m.hostPort ≠ none ∧ m.containerPort ≠ none ∧ m.protocol ≠ none

/-- The object in the file gives null as its data. -/
def NullData : Json → Prop
  | .obj kvs => ∃ v, Json.lastNamed "data" kvs = some v ∧ v.isNull
  | _ => False

/-- A file that can be read without harm: it is no checkpoint at all, or it has data, and every port mapping is
    complete if the checksum is that of the data. -/
def Harmless (spew : CheckpointData → List UInt8) (blob : Blob) : Prop :=
  ∀ j cp, blob = .json j → PodSandboxCheckpoint.decode j emptyCheckpoint = .ok cp →
    ¬ NullData j ∧ ∀ data, cp.data = some data → cp.checksum = newChecksum spew data →
      ∀ pm ∈ data.portMappings.getD [], Complete pm

/-! ### Null data -/

theorem fields_data {f : Text × Json.Decoder PodSandboxCheckpoint.Target} (hf : f ∈ PodSandboxCheckpoint.fields)
    {old new : PodSandboxCheckpoint.Target} (h : f.2 j old = .ok new) :
    (f.1.map Json.foldChar = "data".toList.map Json.foldChar → (new.2 = none ↔ j.isNull)) ∧
      (f.1.map Json.foldChar ≠ "data".toList.map Json.foldChar → new.2 = old.2) := by
  simp only [PodSandboxCheckpoint.fields, List.mem_cons, List.not_mem_nil, or_false] at hf
  rcases hf with rfl | rfl | rfl | rfl | rfl
  case inr.inr.inr.inl =>
    obtain ⟨x, hx, rfl⟩ := Json.map_eq_ok h
    exact ⟨fun _ => Json.pointer_nil_iff hx, fun hne => absurd rfl hne⟩
  all_goals
    obtain ⟨x, -, rfl⟩ := Json.map_eq_ok h
    exact ⟨fun heq => absurd heq (by decide), fun _ => rfl⟩

theorem decode_nil_iff (h : PodSandboxCheckpoint.decode j emptyCheckpoint = .ok cp) : cp.data = none ↔ NullData j := by
  obtain ⟨t, ht, rfl⟩ := Json.map_eq_ok h
  rw [Option.map_eq_none_iff]
  cases j with
  | bool _ | num _ | str _ | arr _ => cases ht
  | null =>
    cases ht
    simp [NullData, emptyCheckpoint, newPodSandboxCheckpoint]
  | obj kvs =>
    have hlast := Json.members_nil_iff Prod.snd "data" (by decide)
      (fun f hf heq j old new h => (fields_data hf h).1 heq) (fun f hf hne j old new h => (fields_data hf h).2 hne) ht
    rw [hlast, NullData]
    cases Json.lastNamed "data" kvs with
    | none => simp [emptyCheckpoint, newPodSandboxCheckpoint]
    | some v => simp

/-! ### Incomplete port mappings -/

theorem complete_iff_deref {pm : Option PortMapping} : Complete pm ↔ pm.bind (·.deref) ≠ none := by
  rcases pm with _ | ⟨_ | protocol, _ | containerPort, _ | hostPort, hostIP⟩ <;> simp [Complete, PortMapping.deref]

theorem mapM_deref_iff {pms : List (Option PortMapping)} :
    (pms.mapM fun pm => pm.bind (·.deref)) ≠ none ↔ ∀ pm ∈ pms, Complete pm := by
  simp only [complete_iff_deref]
  induction pms with
  | nil => simp
  | cons pm pms ih =>
    rw [List.mapM_cons, List.forall_mem_cons, ← ih]
    cases pm.bind (·.deref) with
    | none => simp
    | some m => cases (pms.mapM fun pm => pm.bind (·.deref)) <;> simp

/-! ### Readers -/

variable (spew) in
/-- What the reader makes of a file: an error, a panic for null data, or the checkpoint that it decodes to. -/
theorem getCheckpoint_cases (hid : validateKey id = none) (hfile : dir id = some blob) (hread : faults.read = none) :
    ((∀ j, blob = .json j → ∀ cp, PodSandboxCheckpoint.decode j emptyCheckpoint ≠ .ok cp) ∧
      ∃ err, getCheckpoint (podSandboxCheckpoint spew) faults.read id emptyCheckpoint dir = .error err) ∨
    ∃ j cp, blob = .json j ∧ PodSandboxCheckpoint.decode j emptyCheckpoint = .ok cp ∧
      ((cp.data = none ∧ getCheckpoint (podSandboxCheckpoint spew) faults.read id emptyCheckpoint dir = .panic) ∨
        ∃ data, cp.data = some data ∧
          ((cp.checksum ≠ newChecksum spew data ∧
              ∃ err, getCheckpoint (podSandboxCheckpoint spew) faults.read id emptyCheckpoint dir = .error err) ∨
            (cp.checksum = newChecksum spew data ∧
              getCheckpoint (podSandboxCheckpoint spew) faults.read id emptyCheckpoint dir = .ok cp))) := by
  simp only [getCheckpoint, Store.read, hid, hread, hfile, podSandboxCheckpoint]
  cases blob with
  | malformed => exact .inl ⟨fun j h => (nomatch h), _, rfl⟩
  | json j =>
    cases hdecode : PodSandboxCheckpoint.decode j emptyCheckpoint with
    | error err =>
      refine .inl ⟨?_, .other (.text err), ?_⟩
      · rintro _ ⟨⟩ cp hcp
        rw [hdecode] at hcp
        cases hcp
      · simp only [unmarshalCheckpoint, hdecode]
    | ok cp =>
      refine .inr ⟨j, cp, rfl, hdecode, ?_⟩
      simp only [unmarshalCheckpoint, hdecode]
      cases hdata : cp.data with
      | none =>
        refine .inl ⟨rfl, ?_⟩
        simp only [verifyChecksum, hdata]
      | some data =>
        refine .inr ⟨data, rfl, ?_⟩
        by_cases hsum : cp.checksum = newChecksum spew data
        · refine .inr ⟨hsum, ?_⟩
          simp only [verifyChecksum, hdata, hsum, ne_eq, not_true, if_false]
        · refine .inl ⟨hsum, .other (.text "checkpoint is corrupted"), ?_⟩
          simp only [verifyChecksum, hdata, ne_eq, hsum, not_false_eq_true, if_true]

theorem getPodPortMappings_panic_iff {data : CheckpointData} (hdata : cp.data = some data)
    (h : getCheckpoint (podSandboxCheckpoint spew) faults.read id emptyCheckpoint dir = .ok cp) :
    (getPodPortMappings spew faults id dir).1 ≠ .panic ↔ ∀ pm ∈ data.portMappings.getD [], Complete pm := by
  rw [← mapM_deref_iff]
  simp only [getPodPortMappings, h, PodSandboxCheckpoint.getData, hdata, Option.map_some]
  cases ((data.portMappings.getD []).mapM fun pm => pm.bind (·.deref)) <;> simp

/-- Reading a checkpoint, and then its data and its port mappings, returns for exactly the harmless files. -/
theorem readers_return_iff_harmless (hid : validateKey id = none) (hfile : dir id = some blob) (hread : faults.read = none) :
    (getCheckpoint (podSandboxCheckpoint spew) faults.read id emptyCheckpoint dir ≠ .panic ∧
        ∀ cp, getCheckpoint (podSandboxCheckpoint spew) faults.read id emptyCheckpoint dir = .ok cp →
          cp.getData ≠ none ∧ (getPodPortMappings spew faults id dir).1 ≠ .panic) ↔
      Harmless spew blob := by
  rcases getCheckpoint_cases spew hid hfile hread with ⟨hundecoded, err, herr⟩ | ⟨j, cp, rfl, hdecode, hrest⟩
  · rw [herr]
    refine ⟨fun _ j cp hj hcp => absurd hcp (hundecoded j hj cp), fun _ => ?_⟩
    simp
  have hharmless : Harmless spew (.json j) ↔ ¬ NullData j ∧ ∀ data, cp.data = some data →
      cp.checksum = newChecksum spew data → ∀ pm ∈ data.portMappings.getD [], Complete pm := by
    refine ⟨fun h => h j cp rfl hdecode, fun h => ?_⟩
    rintro _ cp' ⟨⟩ hcp'
    cases hdecode.symm.trans hcp'
    exact h
  rw [hharmless, ← decode_nil_iff hdecode]
  rcases hrest with ⟨hnil, hpanic⟩ | ⟨data, hdata, ⟨hsum, err, herr⟩ | ⟨hsum, hok⟩⟩
  · exact ⟨fun h => absurd hpanic h.1, fun h => absurd hnil h.1⟩
  · -- The port mappings of a file with a wrong checksum are never looked at.
    simp [herr, hdata, hsum]
  · have hgetData : cp.getData ≠ none := by simp [PodSandboxCheckpoint.getData, hdata]
    simp only [hok, hdata, Outcome.ok.injEq, forall_eq', Option.some.injEq, hsum, forall_const]
    rw [← getPodPortMappings_panic_iff hdata hok]
    simp [hgetData]

def completeFile : Blob :=
  .json (.obj [member "data" (.obj [member "port_mappings" (.arr [.obj [member "protocol" (.str protocolTCP),
    member "container_port" (.ofInt 80), member "host_port" (.ofInt 8080)]])]), member "checksum" (.ofInt 2166136261)])

theorem readers_return_iff_harmless_complete :
    (∃ cp, getCheckpoint (podSandboxCheckpoint fun _ => []) none "c1" emptyCheckpoint
        (fun _ => some completeFile) = .ok cp) ∧
      (getPodPortMappings (fun _ => []) ⟨none, none⟩ "c1" fun _ => some completeFile).1 ≠ .panic := by
  have hharmless : Harmless (fun _ => []) completeFile := by
    rintro _ cp ⟨⟩ hcp
    cases hcp
    refine ⟨fun ⟨v, hv, hnull⟩ => ?_, ?_⟩
    · cases hv
      cases hnull
    · rintro _ ⟨⟩ -
      simp [Complete, CheckpointMemory.data]
  have hreturn : getCheckpoint (podSandboxCheckpoint fun _ => []) (⟨none, none⟩ : CheckpointFaults).read "c1"
        emptyCheckpoint (fun _ => some completeFile) ≠ .panic ∧
      ∀ cp, getCheckpoint (podSandboxCheckpoint fun _ => []) (⟨none, none⟩ : CheckpointFaults).read "c1"
        emptyCheckpoint (fun _ => some completeFile) = .ok cp → cp.getData ≠ none ∧
          (getPodPortMappings (fun _ => []) ⟨none, none⟩ "c1" fun _ => some completeFile).1 ≠ .panic :=
    (readers_return_iff_harmless (by decide) rfl rfl).mpr hharmless
  exact ⟨⟨_, rfl⟩, (hreturn.2 _ rfl).2⟩

/-- A file that says of the data that they are null. -/
def nullDataFile : Blob := .json (.obj [member "data" .null])

/-- The checksum of no data is taken. -/
theorem getCheckpoint_panics_on_null_data :
    getCheckpoint (podSandboxCheckpoint fun _ => []) none "c1" emptyCheckpoint (fun _ => some nullDataFile) = .panic := rfl

end CriDockerd.Core
