import CriDockerd.Core.Sandbox
import CriDockerd.Lib.Reachable
import CriDockerd.Theorems.Sandbox.RoundTrip

/-! What the sandbox handlers do to the state, once for each of them: which containers and checkpoints may
    go, what becomes of the readiness of a sandbox, and which plugin calls were made. -/

namespace CriDockerd.Core
open Text Store

variable {ds : DockerService} {s t u : State} {c d id : Text}

theorem update_cases {α : Type} (f : Text → α) (id : Text) (value : α) (d : Text) :
    Function.update f id value d = f d ∨ Function.update f id value d = value := by
  by_cases hd : d = id
  · exact Or.inr (hd ▸ Function.update_self _ _ _)
  · exact Or.inl (Function.update_of_ne hd _ _)

/-! ### Checkpoint files -/

/-- The file of one sandbox may be gone, the others are the same. -/
structure Drops (id : Text) (dir dir' : Dir Blob) : Prop where
  own : dir' id = dir id ∨ dir' id = none
  others : ∀ d, d ≠ id → dir' d = dir d

namespace Drops
variable {dir dir' dir'' : Dir Blob}

theorem refl (id : Text) (dir : Dir Blob) : Drops id dir dir := ⟨Or.inl rfl, fun _ _ => rfl⟩

theorem trans (h₁ : Drops id dir dir') (h₂ : Drops id dir' dir'') : Drops id dir dir'' where
  own := by
    rcases h₂.own with heq | hgone
    · rw [heq]
      exact h₁.own
    · exact Or.inr hgone
  others d hd := (h₂.others d hd).trans (h₁.others d hd)

theorem fades (h : Drops id dir dir') (d : Text) : dir' d = dir d ∨ dir' d = none := by
  by_cases hd : d = id
  · exact hd ▸ h.own
  · exact Or.inl (h.others d hd)

end Drops

theorem removeCheckpoint_drops (fsErr : Option GoError) (id : Text) (dir : Dir Blob) :
    Drops id dir (removeCheckpoint fsErr id dir).2 := by
  unfold removeCheckpoint delete
  split
  · exact Drops.refl id dir
  · exact Drops.refl id dir
  · exact ⟨Or.inr (Function.update_self _ _ _), fun d hd => Function.update_of_ne hd _ _⟩

theorem getPodPortMappings_drops (spew : CheckpointData → List UInt8) (faults : CheckpointFaults) (id : Text) (dir : Dir Blob) :
    Drops id dir (getPodPortMappings spew faults id dir).2 := by
  rw [getPodPortMappings]
  split
  · exact Drops.refl id dir
  · exact Drops.refl id dir
  · exact removeCheckpoint_drops _ _ _
  · split
    · exact Drops.refl id dir
    · split
      · exact Drops.refl id dir
      · exact Drops.refl id dir

/-- There is no checkpoint, or the one of a config whose network is not the host's. -/
def Unaltered (ds : DockerService) (id : Text) (dir : Dir Blob) : Prop :=
  ∀ blob, dir id = some blob → ∃ config : PodSandboxConfig, config.WellTyped ∧ config.network ≠ .node ∧
    blob = .json (checkpointOf ds.spew config).toJson

theorem Unaltered.drops {dir dir' : Dir Blob} (h : Unaltered ds id dir) (hd : Drops id dir dir') : Unaltered ds id dir' := by
  intro blob hblob
  rcases hd.own with heq | hgone
  · exact h blob (heq ▸ hblob)
  · rw [hgone] at hblob
    cases hblob

theorem read_ok {fsErr : Option GoError} {dir : Dir Blob} {blob : Blob} (h : Store.read fsErr id dir = .ok blob) :
    validateKey id = none ∧ fsErr = none ∧ dir id = some blob := by
  cases hkey : validateKey id with
  | some err =>
    simp only [Store.read, hkey] at h
    cases h
  | none =>
    cases fsErr with
    | some err =>
      simp only [Store.read, hkey] at h
      cases h
    | none =>
      cases hdir : dir id with
      | none =>
        simp only [Store.read, hkey, hdir] at h
        cases h
      | some data =>
        simp only [Store.read, hkey, hdir] at h
        cases h
        exact ⟨rfl, rfl, rfl⟩

theorem getCheckpoint_of_read_error {fsErr : Option GoError} {dir : Dir Blob} {err : StoreError}
    (h : Store.read fsErr id dir = .error err) :
    ∃ err, getCheckpoint (podSandboxCheckpoint ds.spew) fsErr id emptyCheckpoint dir = .error err := by
  rw [Store.getCheckpoint, h]
  cases err <;> exact ⟨_, rfl⟩

theorem Unaltered.getCheckpoint {dir : Dir Blob} (h : Unaltered ds id dir) (fsErr : Option GoError) :
    (∃ err, getCheckpoint (podSandboxCheckpoint ds.spew) fsErr id emptyCheckpoint dir = .error err) ∨
      ∃ config : PodSandboxConfig, config.WellTyped ∧ config.network ≠ .node ∧
        getCheckpoint (podSandboxCheckpoint ds.spew) fsErr id emptyCheckpoint dir = .ok (checkpointOf ds.spew config) ∧
        fsErr = none ∧ validateKey id = none ∧ dir id = some (.json (checkpointOf ds.spew config).toJson) := by
  cases hread : Store.read fsErr id dir with
  | error err => exact Or.inl (getCheckpoint_of_read_error hread)
  | ok blob =>
    obtain ⟨hkey, rfl, hdir⟩ := read_ok hread
    obtain ⟨config, hconfig, hnetwork, rfl⟩ := h blob hdir
    exact Or.inr ⟨config, hconfig, hnetwork, getCheckpoint_written ds.spew hconfig hkey hdir, rfl, hkey, hdir⟩

/-- A lookup that cannot cost the checkpoint: it reads the file, or cannot delete it. -/
def CheckpointFaults.Keeps (faults : CheckpointFaults) : Prop := faults.read = none ∨ faults.remove ≠ none

theorem removeCheckpoint_of_fault {fsErr : Option GoError} (h : fsErr ≠ none) (id : Text) (dir : Dir Blob) :
    (removeCheckpoint fsErr id dir).2 = dir := by
  unfold removeCheckpoint delete
  split
  · rfl
  · rfl
  · exact absurd rfl h

theorem getPodPortMappings_kept {config : PodSandboxConfig} (hconfig : config.WellTyped) {faults : CheckpointFaults}
    (hfaults : faults.Keeps) (hkey : validateKey id = none) {dir : Dir Blob}
    (hdir : dir id = some (.json (checkpointOf ds.spew config).toJson)) : (getPodPortMappings ds.spew faults id dir).2 = dir := by
  rcases hfaults with hread | hremove
  · rw [getPodPortMappings_written ds.spew hconfig hkey hdir hread]
  · rw [getPodPortMappings]
    split
    · rfl
    · rfl
    · exact removeCheckpoint_of_fault hremove id dir
    · split
      · rfl
      · split
        · rfl
        · rfl

theorem Unaltered.getPodPortMappings_ne_panic {dir : Dir Blob} (h : Unaltered ds id dir) (faults : CheckpointFaults) :
    (getPodPortMappings ds.spew faults id dir).1 ≠ .panic := by
  rcases h.getCheckpoint faults.read with ⟨err, herr⟩ | ⟨config, hconfig, -, -, hread, hkey, hdir⟩
  · rw [getPodPortMappings, herr]
    cases err <;> rintro ⟨⟩
  · rw [getPodPortMappings_written ds.spew hconfig hkey hdir hread]
    rintro ⟨⟩

/-! ### Calls of the plugin -/

theorem lookUpAll_drops (ds : DockerService) (id : Text) (lookups : List CheckpointFaults) (dir : Dir Blob) :
    Drops id dir (lookUpAll ds id lookups dir).2 := by
  induction lookups generalizing dir with
  | nil => exact Drops.refl id dir
  | cons faults rest ih =>
    have hfirst := getPodPortMappings_drops ds.spew faults id dir
    rw [lookUpAll]
    generalize getPodPortMappings ds.spew faults id dir = result at hfirst
    obtain ⟨_ | _ | _, dir'⟩ := result
    · exact hfirst.trans (ih dir')
    · exact hfirst.trans (ih dir')
    · exact hfirst

theorem Unaltered.lookUpAll_eq_false {dir : Dir Blob} (h : Unaltered ds id dir) (lookups : List CheckpointFaults) :
    (lookUpAll ds id lookups dir).1 = false := by
  induction lookups generalizing dir with
  | nil => rfl
  | cons faults rest ih =>
    have hfirst := getPodPortMappings_drops ds.spew faults id dir
    have hpanic := h.getPodPortMappings_ne_panic faults
    rw [lookUpAll]
    generalize getPodPortMappings ds.spew faults id dir = result at hfirst hpanic
    obtain ⟨_ | _ | _, dir'⟩ := result
    · exact ih (h.drops hfirst)
    · exact ih (h.drops hfirst)
    · exact absurd rfl hpanic

/-- None of the lookups of a plugin call costs the checkpoint. -/
def PluginCall.Keeps (call : PluginCall) : Prop := ∀ faults ∈ call.lookups, faults.Keeps

theorem lookUpAll_kept {config : PodSandboxConfig} (hconfig : config.WellTyped) {lookups : List CheckpointFaults}
    (hlookups : ∀ faults ∈ lookups, faults.Keeps) (hkey : validateKey id = none) {dir : Dir Blob}
    (hdir : dir id = some (.json (checkpointOf ds.spew config).toJson)) : (lookUpAll ds id lookups dir).2 = dir := by
  induction lookups with
  | nil => rfl
  | cons faults rest ih =>
    have hfirst := getPodPortMappings_kept hconfig (hlookups faults List.mem_cons_self) hkey hdir
    rw [lookUpAll]
    generalize getPodPortMappings ds.spew faults id dir = result at hfirst
    obtain ⟨_ | _ | _, dir'⟩ := result
    · cases hfirst
      exact ih fun f hf => hlookups f (List.mem_cons_of_mem _ hf)
    · cases hfirst
      exact ih fun f hf => hlookups f (List.mem_cons_of_mem _ hf)
    · exact hfirst

/-- What a plugin call leaves: the checkpoint of its pod may be gone, and the call is recorded. -/
structure Plugged (ds : DockerService) (id : Text) (call : PluginCall) (event : Event) (s t : State) : Prop where
  networkReady : t.networkReady = s.networkReady
  containers : t.containers = s.containers
  checkpoints : t.checkpoints = (lookUpAll ds id call.lookups s.checkpoints).2
  history : t.history = event :: s.history

theorem Plugged.drops {call : PluginCall} {event : Event} (h : Plugged ds id call event s t) :
    Drops id s.checkpoints t.checkpoints := by
  rw [h.checkpoints]
  exact lookUpAll_drops ds id call.lookups s.checkpoints

theorem callPlugin_cases {event : Bool → Event} {failed ns name : Text} {call : PluginCall} {r : Outcome GoError Unit}
    (h : callPlugin ds event failed call ns name id s = (r, t)) :
    (r = .panic ∧ (lookUpAll ds id call.lookups s.checkpoints).1 = true ∧ Plugged ds id call (event false) s t) ∨
    (r = .ok () ∧ call.err = none ∧ Plugged ds id call (event true) s t) ∨
    (∃ err, r = .error err ∧ call.err ≠ none ∧ Plugged ds id call (event false) s t) := by
  rw [callPlugin] at h
  cases hlookups : lookUpAll ds id call.lookups s.checkpoints with
  | mk panics dir =>
    have hdir : dir = (lookUpAll ds id call.lookups s.checkpoints).2 := by rw [hlookups]
    rw [hlookups] at h
    cases panics with
    | true =>
      cases h
      exact Or.inl ⟨rfl, rfl, rfl, rfl, hdir, rfl⟩
    | false =>
      dsimp only at h
      cases herr : call.err with
      | none =>
        rw [herr] at h
        cases h
        exact Or.inr (Or.inl ⟨rfl, rfl, rfl, rfl, hdir, rfl⟩)
      | some err =>
        rw [herr] at h
        cases h
        exact Or.inr (Or.inr ⟨_, rfl, nofun, rfl, rfl, hdir, rfl⟩)

/-! ### Creation of the container -/

/-- The sandbox has its container; another one may have been removed to make room for it. -/
structure Created (ds : DockerService) (env : RunEnv) (config : PodSandboxConfig) (c : Text) (s t : State) : Prop where
  answer : env.createContainer = .ok c ∨ env.createContainerAgain = .ok c
  networkReady : t.networkReady = s.networkReady
  checkpoints : t.checkpoints = s.checkpoints
  container : ∃ name, t.containers c = some (sandboxContainer ds env config name)
  others : ∀ d, d ≠ c → t.containers d = s.containers d ∨ t.containers d = none
  history : t.history = .created c :: s.history

/-- No sandbox was created. -/
structure NotCreated (s t : State) : Prop where
  networkReady : t.networkReady = s.networkReady
  checkpoints : t.checkpoints = s.checkpoints
  containers : ∀ d, t.containers d = s.containers d ∨ t.containers d = none
  history : t.history = s.history

theorem removeContainer_fades (fault : Option GoError) (id : Text) (containers : Containers) (d : Text) :
    (removeContainer fault id containers).2 d = containers d ∨ (removeContainer fault id containers).2 d = none := by
  rw [removeContainer]
  split
  · exact Or.inl rfl
  · exact update_cases _ _ _ _

theorem createContainer_cases {answer : Except GoError Text} {container : Container} {r : Except GoError Text}
    (h : createContainer answer container s = (r, t)) :
    (∃ err, answer = .error err ∧ r = .error err ∧ t = s) ∨
    ∃ c, answer = .ok c ∧ r = .ok c ∧
      t = { s with containers := Function.update s.containers c (some container) }.record (.created c) := by
  unfold createContainer at h
  split at h
  · cases h
    exact Or.inl ⟨_, rfl, rfl, rfl⟩
  · cases h
    exact Or.inr ⟨_, rfl, rfl, rfl⟩

theorem recover_cases {env : RunEnv} {config : PodSandboxConfig} {err : GoError} {r : Except GoError Text}
    (h : recoverFromCreationConflictIfNeeded ds env config err s = (r, t)) :
    (∃ err, r = .error err ∧ NotCreated s t) ∨ ∃ c, r = .ok c ∧ Created ds env config c s t := by
  rw [recoverFromCreationConflictIfNeeded] at h
  split at h
  · cases h
    exact Or.inl ⟨_, rfl, rfl, rfl, fun _ => Or.inl rfl, rfl⟩
  · rename_i id hconflict
    have hfades := removeContainer_fades env.removeConflicting id s.containers
    split at h
    · rename_i containers hremove
      rw [hremove] at hfades
      cases h
      exact Or.inl ⟨_, rfl, rfl, rfl, hfades, rfl⟩
    · rename_i rmErr containers hremove
      rw [hremove] at hfades
      split at h
      · cases h
        exact Or.inl ⟨_, rfl, rfl, rfl, hfades, rfl⟩
      · rcases createContainer_cases h with ⟨err, -, rfl, rfl⟩ | ⟨c, hc, rfl, rfl⟩
        · exact Or.inl ⟨_, rfl, rfl, rfl, hfades, rfl⟩
        · refine Or.inr ⟨c, rfl, Or.inr hc, rfl, rfl, ⟨_, Function.update_self _ _ _⟩, fun d hd => ?_, rfl⟩
          have hd' : Function.update containers c (some (sandboxContainer ds env config
              (randomizeName (makeSandboxName config) env.random))) d = containers d := Function.update_of_ne hd _ _
          exact (hfades d).imp hd'.trans hd'.trans

theorem createSandbox_cases {env : RunEnv} {config : PodSandboxConfig} {runtimeHandler : Text} {r : Except GoError Text}
    (h : createSandbox ds env config runtimeHandler s = (r, t)) :
    (∃ err, r = .error err ∧ NotCreated s t) ∨ ∃ c, r = .ok c ∧ Created ds env config c s t := by
  dsimp only [createSandbox] at h
  have hsame : NotCreated s s := ⟨rfl, rfl, fun _ => Or.inl rfl, rfl⟩
  split at h
  · cases h
    exact Or.inl ⟨_, rfl, hsame⟩
  split at h
  · cases h
    exact Or.inl ⟨_, rfl, hsame⟩
  split at h
  · cases h
    exact Or.inl ⟨_, rfl, hsame⟩
  split at h
  · rename_i c u hcreate
    cases h
    rcases createContainer_cases hcreate with ⟨err, -, hr, -⟩ | ⟨c', hc, hr, rfl⟩
    · cases hr
    · cases hr
      exact Or.inr ⟨_, rfl, Or.inl hc, rfl, rfl, ⟨_, Function.update_self _ _ _⟩,
        fun d hd => Or.inl (Function.update_of_ne hd _ _), rfl⟩
  · rename_i err u hcreate
    rcases createContainer_cases hcreate with ⟨err', -, -, rfl⟩ | ⟨c', -, hr, -⟩
    · split at h
      · rename_i c v hrecover
        cases h
        rcases recover_cases hrecover with ⟨_, hr, -⟩ | ⟨c', hr, hcreated⟩
        · cases hr
        · cases hr
          exact Or.inr ⟨_, rfl, hcreated⟩
      · rename_i err v hrecover
        cases h
        rcases recover_cases hrecover with ⟨_, hr, hnot⟩ | ⟨c', hr, -⟩
        · exact Or.inl ⟨_, rfl, hnot⟩
        · cases hr
    · cases hr

/-! ### From the container to the network -/

def Writes (env : RunEnv) (c : Text) : Prop := validateKey c = none ∧ env.writeCheckpoint = none

def DNSFails (env : RunEnv) (config : PodSandboxConfig) : Prop :=
  ∃ dns, config.dnsConfig = some dns ∧ (env.inspectContainer ≠ none ∨
    rewriteResolvFile env.resolvMissing env.rewriteFile env.resolvConfPath dns ≠ none)

def MarshalFails (env : RunEnv) (config : PodSandboxConfig) : Prop := config.dnsConfig ≠ none ∧ env.marshalDNS ≠ none

theorem createCheckpoint_failed (spew : CheckpointData → List UInt8) {env : RunEnv} {config : PodSandboxConfig}
    (h : ¬Writes env c) {dir : Dir Blob} :
    ∃ err, createCheckpoint (podSandboxCheckpoint spew) env.writeCheckpoint c (constructPodSandboxCheckpoint config) dir =
      (.error err, dir) := by
  have hmarshal : marshalCheckpoint spew (constructPodSandboxCheckpoint config) =
      .ok (.json (checkpointOf spew config).toJson) := rfl
  cases hkey : validateKey c with
  | some err => exact ⟨err, by simp only [createCheckpoint, podSandboxCheckpoint, hmarshal, write, hkey]⟩
  | none =>
    cases hwrite : env.writeCheckpoint with
    | some err => exact ⟨.other err, by simp only [createCheckpoint, podSandboxCheckpoint, hmarshal, write, hkey]⟩
    | none => exact absurd ⟨hkey, hwrite⟩ h

/-- The ways out of RunPodSandbox for a container that was created, with what has been recorded. -/
inductive SandboxExit (env : RunEnv) (config : PodSandboxConfig) (c : Text) : Exit → List Event → Prop
  | notWritten {err : GoError} (hw : ¬Writes env c) : SandboxExit env config c ⟨none, .error err, some err⟩ []
  | notStarted {err startErr : GoError} (hw : Writes env c) (hs : env.startContainer = some startErr) :
      SandboxExit env config c ⟨none, .error err, some startErr⟩ [.wroteCheckpoint c]
  | dnsFails {err : GoError} (hw : Writes env c) (hs : env.startContainer = none) (hd : DNSFails env config) :
      SandboxExit env config c ⟨none, .error err, none⟩ [.wroteCheckpoint c]
  | hostNetwork (hw : Writes env c) (hs : env.startContainer = none) (hd : ¬DNSFails env config) (hn : config.network = .node) :
      SandboxExit env config c ⟨some c, .ok (), none⟩ [.wroteCheckpoint c]
  | marshalFails {err : GoError} (hw : Writes env c) (hs : env.startContainer = none) (hn : config.network ≠ .node)
      (hm : MarshalFails env config) : SandboxExit env config c ⟨none, .error err, none⟩ [.wroteCheckpoint c]
  | connected (hw : Writes env c) (hs : env.startContainer = none) (hd : ¬DNSFails env config) (hn : config.network ≠ .node)
      (hm : ¬MarshalFails env config) (hup : env.setUpPod.err = none) :
      SandboxExit env config c ⟨some c, .ok (), none⟩ [.setUpPod c true, .wroteCheckpoint c]
  | notConnected {err : GoError} (hw : Writes env c) (hs : env.startContainer = none) (hd : ¬DNSFails env config)
      (hn : config.network ≠ .node) (hm : ¬MarshalFails env config) (hup : env.setUpPod.err ≠ none) {down : Bool}
      (hdown : down = env.tearDownPod.err.isNone) :
      SandboxExit env config c ⟨some c, .error err, env.stopContainer⟩
        [.tearDownPod c down, .setUpPod c false, .wroteCheckpoint c]

/-- What RunPodSandbox has done when it leaves its body. -/
structure Started (ds : DockerService) (env : RunEnv) (config : PodSandboxConfig) (c : Text) (exit : Exit)
    (events : List Event) (s t : State) : Prop where
  way : SandboxExit env config c exit events
  networkReady : t.networkReady = s.networkReady
  containers : t.containers = s.containers
  history : t.history = events ++ s.history
  others : ∀ d, d ≠ c → t.checkpoints d = s.checkpoints d
  written : Writes env c →
    t.checkpoints c = some (.json (checkpointOf ds.spew config).toJson) ∨ t.checkpoints c = none
  kept : Writes env c → env.setUpPod.Keeps → env.tearDownPod.Keeps →
    t.checkpoints c = some (.json (checkpointOf ds.spew config).toJson)

section
variable {env : RunEnv} {config : PodSandboxConfig} {exit : Exit}

theorem callContainer_of_created {k : Container} (hk : s.containers c = some k) (fault : Option GoError) :
    callContainer fault c s.containers = fault := by
  cases fault with
  | none => simp only [callContainer, inspectContainer, hk]
  | some err => simp only [callContainer, inspectContainer]

theorem configureDNS_eq_none (hk : ∃ name, s.containers c = some (sandboxContainer ds env config name)) :
    configureDNS env config c s = none ↔ ¬DNSFails env config := by
  obtain ⟨name, hk⟩ := hk
  unfold configureDNS DNSFails
  cases config.dnsConfig with
  | none => simp
  | some dns =>
    cases hfault : env.inspectContainer with
    | some err => simp [inspectContainer]
    | none => simp [inspectContainer, hk, sandboxContainer]

theorem marshalDNS_eq_none : marshalDNS env config = none ↔ ¬MarshalFails env config := by
  unfold marshalDNS MarshalFails
  cases config.dnsConfig with
  | none => simp
  | some dns => simp

/-- SetUpPod has succeeded, or the cleanup was made and the variable is the error of StopContainer. -/
theorem setUpNetwork_cases {k : Container} (hk : s.containers c = some k) (hread : Unaltered ds c s.checkpoints)
    (h : setUpNetwork ds env config c s = (exit, t)) :
    (env.setUpPod.err = none ∧ exit = ⟨some c, .ok (), none⟩ ∧ Plugged ds c env.setUpPod (.setUpPod c true) s t) ∨
    (env.setUpPod.err ≠ none ∧ (∃ err, exit = ⟨some c, .error err, env.stopContainer⟩) ∧
      ∃ u, Plugged ds c env.setUpPod (.setUpPod c false) s u ∧
        Plugged ds c env.tearDownPod (.tearDownPod c env.tearDownPod.err.isNone) u t) := by
  rw [setUpNetwork] at h
  cases hup : setUpPod ds env.setUpPod config.metadata.namespace_ config.metadata.name c s with
  | mk r u =>
    rw [hup] at h
    rcases callPlugin_cases hup with ⟨-, hpanic, -⟩ | ⟨rfl, herr, hplug⟩ | ⟨err, rfl, herr, hplug⟩
    · rw [hread.lookUpAll_eq_false] at hpanic
      cases hpanic
    · cases h
      exact Or.inl ⟨herr, rfl, hplug⟩
    · dsimp only at h
      have hstop : ∀ tearDownErr v, v.containers = s.containers →
          ∃ err', stopUnconnected env config c err tearDownErr v = (⟨some c, .error err', env.stopContainer⟩, v) := by
        intro tearDownErr v hv
        rw [stopUnconnected, stopContainer, hv, callContainer_of_created hk]
        exact ⟨_, rfl⟩
      cases hdown : tearDownPod ds env.tearDownPod config.metadata.namespace_ config.metadata.name c u with
      | mk r v =>
        rw [hdown] at h
        rcases callPlugin_cases hdown with ⟨-, hpanic, -⟩ | ⟨rfl, herr', hplug'⟩ | ⟨err₂, rfl, herr', hplug'⟩
        · rw [(hread.drops hplug.drops).lookUpAll_eq_false] at hpanic
          cases hpanic
        · obtain ⟨err', heq⟩ := hstop none v (hplug'.containers.trans hplug.containers)
          cases heq.symm.trans h
          have hnone : env.tearDownPod.err.isNone = true := by rw [herr', Option.isNone_none]
          exact Or.inr ⟨herr, ⟨err', rfl⟩, u, hplug, hnone ▸ hplug'⟩
        · obtain ⟨err', heq⟩ := hstop (some err₂) v (hplug'.containers.trans hplug.containers)
          cases heq.symm.trans h
          have hsome : env.tearDownPod.err.isNone = false := Option.isNone_eq_false_iff.mpr (Option.isSome_iff_ne_none.mpr herr')
          exact Or.inr ⟨herr, ⟨err', rfl⟩, u, hplug, hsome ▸ hplug'⟩

theorem Plugged.kept {call : PluginCall} {event : Event} (h : Plugged ds id call event s t) (hcall : call.Keeps)
    (hconfig : config.WellTyped) (hkey : validateKey id = none)
    (hdir : s.checkpoints id = some (.json (checkpointOf ds.spew config).toJson)) :
    t.checkpoints id = some (.json (checkpointOf ds.spew config).toJson) := by
  rw [h.checkpoints, lookUpAll_kept hconfig hcall hkey hdir, hdir]

theorem connectSandbox_started (hconfig : config.WellTyped) (hw : Writes env c) (hs : env.startContainer = none)
    (hk : ∃ name, s.containers c = some (sandboxContainer ds env config name))
    (hdir : s.checkpoints c = some (.json (checkpointOf ds.spew config).toJson))
    (hhistory : s.history = .wroteCheckpoint c :: u.history) (hready : s.networkReady = u.networkReady)
    (hcontainers : s.containers = u.containers) (hothers : ∀ d, d ≠ c → s.checkpoints d = u.checkpoints d)
    (h : connectSandbox ds env config c s = (exit, t)) : ∃ events, Started ds env config c exit events u t := by
  -- An exit before the plugin is called leaves the state as it is.
  have hearly : ∀ {exit : Exit}, SandboxExit env config c exit [.wroteCheckpoint c] →
      Started ds env config c exit [.wroteCheckpoint c] u s := fun hexit =>
    { way := hexit, networkReady := hready, containers := hcontainers, history := hhistory, others := hothers,
      written := fun _ => Or.inl hdir, kept := fun _ _ _ => hdir }
  rw [connectSandbox] at h
  cases hdns : configureDNS env config c s with
  | some err =>
    rw [hdns] at h
    cases h
    have hd : DNSFails env config := by
      by_contra hnot
      rw [(configureDNS_eq_none hk).mpr hnot] at hdns
      cases hdns
    exact ⟨_, hearly (.dnsFails hw hs hd)⟩
  | none =>
    rw [hdns] at h
    dsimp only at h
    have hd := (configureDNS_eq_none hk).mp hdns
    by_cases hn : config.network = .node
    · rw [if_pos hn] at h
      cases h
      exact ⟨_, hearly (.hostNetwork hw hs hd hn)⟩
    rw [if_neg hn] at h
    cases hmarshal : marshalDNS env config with
    | some err =>
      rw [hmarshal] at h
      cases h
      have hm : MarshalFails env config := by
        by_contra hnot
        rw [marshalDNS_eq_none.mpr hnot] at hmarshal
        cases hmarshal
      exact ⟨_, hearly (.marshalFails hw hs hn hm)⟩
    | none =>
      rw [hmarshal] at h
      have hm := marshalDNS_eq_none.mp hmarshal
      obtain ⟨name, hname⟩ := hk
      have hread : Unaltered ds c s.checkpoints := by
        intro blob hblob
        rw [hdir] at hblob
        cases hblob
        exact ⟨config, hconfig, hn, rfl⟩
      rcases setUpNetwork_cases hname hread h with ⟨herr, rfl, hplug⟩ | ⟨herr, ⟨err, rfl⟩, v, hplug, hplug'⟩
      · exact ⟨_,
          { way := .connected hw hs hd hn hm herr
            networkReady := hplug.networkReady.trans hready
            containers := hplug.containers.trans hcontainers
            history := by rw [hplug.history, hhistory]; rfl
            others := fun d hne => (hplug.drops.others d hne).trans (hothers d hne)
            written := fun _ => hdir ▸ hplug.drops.own
            kept := fun _ hup _ => hplug.kept hup hconfig hw.1 hdir }⟩
      · have hdrops := hplug.drops.trans hplug'.drops
        exact ⟨_,
          { way := .notConnected hw hs hd hn hm herr rfl
            networkReady := hplug'.networkReady.trans (hplug.networkReady.trans hready)
            containers := hplug'.containers.trans (hplug.containers.trans hcontainers)
            history := by rw [hplug'.history, hplug.history, hhistory]; rfl
            others := fun d hne => (hdrops.others d hne).trans (hothers d hne)
            written := fun _ => hdir ▸ hdrops.own
            kept := fun _ hup hdown => hplug'.kept hdown hconfig hw.1 (hplug.kept hup hconfig hw.1 hdir) }⟩

theorem startSandbox_started (hconfig : config.WellTyped)
    (hk : ∃ name, s.containers c = some (sandboxContainer ds env config name))
    (h : startSandbox ds env config c s = (exit, t)) : ∃ events, Started ds env config c exit events s t := by
  rw [startSandbox] at h
  by_cases hw : Writes env c
  · rw [hw.2, createCheckpoint_written ds.spew hw.1] at h
    obtain ⟨name, hname⟩ := hk
    have hstart : startContainer env.startContainer c s.containers = env.startContainer := callContainer_of_created hname _
    dsimp only [State.record] at h
    rw [hstart] at h
    have hdir : Function.update s.checkpoints c (some (.json (checkpointOf ds.spew config).toJson)) c =
        some (.json (checkpointOf ds.spew config).toJson) := Function.update_self _ _ _
    have hothers : ∀ d, d ≠ c → Function.update s.checkpoints c (some (.json (checkpointOf ds.spew config).toJson)) d =
        s.checkpoints d := fun d hd => Function.update_of_ne hd _ _
    cases hs : env.startContainer with
    | some err =>
      rw [hs] at h
      cases h
      exact ⟨_,
        { way := .notStarted hw hs, networkReady := rfl, containers := rfl, history := rfl, others := hothers,
          written := fun _ => Or.inl hdir, kept := fun _ _ _ => hdir }⟩
    | none =>
      rw [hs] at h
      refine connectSandbox_started hconfig hw hs ?_ ?_ ?_ ?_ ?_ ?_ h
      · exact ⟨name, hname⟩
      · exact hdir
      · rfl
      · rfl
      · rfl
      · exact hothers
  · have hfailed : ∃ err, createCheckpoint (podSandboxCheckpoint ds.spew) env.writeCheckpoint c
        (constructPodSandboxCheckpoint config) s.checkpoints = (.error err, s.checkpoints) := createCheckpoint_failed ds.spew hw
    obtain ⟨err, hfailed⟩ := hfailed
    rw [hfailed] at h
    cases h
    exact ⟨_,
      { way := .notWritten hw, networkReady := rfl, containers := rfl, history := rfl, others := fun _ _ => rfl,
        written := fun h => absurd h hw, kept := fun h => absurd h hw }⟩

/-- What RunPodSandbox has done with a container that was created; the mark follows the variable `err`. -/
structure Ran (ds : DockerService) (env : RunEnv) (config : PodSandboxConfig) (c : Text) (exit : Exit)
    (events : List Event) (s t : State) : Prop where
  answer : env.createContainer = .ok c ∨ env.createContainerAgain = .ok c
  way : SandboxExit env config c exit events
  networkReady : t.networkReady = Function.update s.networkReady c (some (decide (exit.err = none)))
  container : ∃ name, t.containers c = some (sandboxContainer ds env config name)
  otherContainers : ∀ d, d ≠ c → t.containers d = s.containers d ∨ t.containers d = none
  otherCheckpoints : ∀ d, d ≠ c → t.checkpoints d = s.checkpoints d
  written : Writes env c →
    t.checkpoints c = some (.json (checkpointOf ds.spew config).toJson) ∨ t.checkpoints c = none
  kept : Writes env c → env.setUpPod.Keeps → env.tearDownPod.Keeps →
    t.checkpoints c = some (.json (checkpointOf ds.spew config).toJson)
  history : t.history = events ++ .created c :: s.history

theorem runPodSandbox_cases {runtimeHandler : Text} {resp : Option Text} {result : Outcome GoError Unit}
    (hconfig : config.WellTyped) (h : runPodSandbox ds env config runtimeHandler s = (resp, result, t)) :
    (∃ err, (createSandbox ds env config runtimeHandler s).1 = .error err ∧ NotCreated s t) ∨
    ∃ c exit events, (createSandbox ds env config runtimeHandler s).1 = .ok c ∧ exit.result = result ∧
      Ran ds env config c exit events s t := by
  rw [runPodSandbox] at h
  cases hcreate : createSandbox ds env config runtimeHandler s with
  | mk r u =>
    rw [hcreate] at h
    rcases createSandbox_cases hcreate with ⟨err, rfl, hnot⟩ | ⟨c, rfl, hcreated⟩
    · cases h
      exact Or.inl ⟨err, rfl, hnot⟩
    · dsimp only at h
      cases hstart : startSandbox ds env config c (u.setNetworkReady c false) with
      | mk exit v =>
        obtain ⟨events, hstarted⟩ := startSandbox_started (s := u.setNetworkReady c false) hconfig hcreated.container hstart
        rw [hstart] at h
        -- The deferred function changes nothing but the mark.
        have hready : v.networkReady = Function.update u.networkReady c (some false) := hstarted.networkReady
        have ht : t = { v with networkReady := Function.update s.networkReady c (some (decide (exit.err = none))) } := by
          rw [← (Prod.mk.inj (Prod.mk.inj h).2).2, ← hcreated.networkReady]
          split
          · rename_i herr
            rw [State.setNetworkReady, hready, Function.update_idem, decide_eq_true herr]
          · rename_i herr
            rw [decide_eq_false herr, ← hready]
        refine Or.inr ⟨c, exit, events, rfl, (Prod.mk.inj (Prod.mk.inj h).2).1, ?_⟩
        subst ht
        exact
          { answer := hcreated.answer
            way := hstarted.way
            networkReady := rfl
            container := hstarted.containers ▸ hcreated.container
            otherContainers := fun d hd => hstarted.containers ▸ hcreated.others d hd
            otherCheckpoints := fun d hd => (hstarted.others d hd).trans (congrFun hcreated.checkpoints d)
            written := hstarted.written
            kept := hstarted.kept
            history := hstarted.history.trans (congrArg (events ++ ·) hcreated.history) }

end

/-! ### Stopping -/

theorem getPodSandboxDetails_ok {fault : Option GoError} {container : Container} {metadata : PodSandboxMetadata}
    (h : getPodSandboxDetails fault id s = .ok (container, metadata)) : s.containers id = some container := by
  unfold getPodSandboxDetails inspectContainer at h
  cases fault with
  | some err => cases h
  | none =>
    cases hcontainer : s.containers id with
    | none =>
      rw [hcontainer] at h
      cases h
    | some k =>
      rw [hcontainer] at h
      dsimp only at h
      split at h
      · cases h
      · cases h
        rfl

theorem sandboxInfo_cases {env : StopEnv} {r : Outcome GoError (Text × Text × Bool)} (h : sandboxInfo ds env id s = (r, t)) :
    t.networkReady = s.networkReady ∧ t.containers = s.containers ∧ t.history = s.history ∧
      Drops id s.checkpoints t.checkpoints := by
  have hsame : s.networkReady = s.networkReady ∧ s.containers = s.containers ∧ s.history = s.history ∧
      Drops id s.checkpoints s.checkpoints := ⟨rfl, rfl, rfl, Drops.refl id s.checkpoints⟩
  have hdrop : ∀ (b : Prop) [Decidable b], t = (if b then s else s.dropCheckpoint env.checkpoint.remove id) →
      t.networkReady = s.networkReady ∧ t.containers = s.containers ∧ t.history = s.history ∧
        Drops id s.checkpoints t.checkpoints := by
    intro b _ ht
    split at ht
    · rw [ht]
      exact hsame
    · rw [ht]
      exact ⟨rfl, rfl, rfl, removeCheckpoint_drops _ _ _⟩
  rw [sandboxInfo] at h
  split at h
  · cases h
    exact hsame
  · split at h
    · cases h
      exact hsame
    · split at h
      · cases h
        exact hsame
      · cases h
        exact hsame
    · dsimp only at h
      split at h
      · cases h
        exact hdrop _ rfl
      · cases h
        exact hdrop _ rfl

theorem stopSandboxContainer_cases {env : StopEnv} {errList : List (Option GoError)} {r : Outcome GoError Unit}
    (h : stopSandboxContainer env id errList s = (r, t)) :
    t = s ∨ t = s.dropCheckpoint env.removeCheckpoint id ∧
      ∃ err, stopContainer env.stopContainer id s.containers = some err ∧ isContainerNotFoundError err = true := by
  rw [stopSandboxContainer] at h
  split at h
  · cases h
    exact Or.inl rfl
  · rename_i err hstop
    split at h
    · cases h
      exact Or.inl rfl
    · rename_i hfound
      cases h
      exact Or.inr ⟨rfl, err, hstop, by simpa using hfound⟩

/-- The ways through StopPodSandbox. -/
inductive StopPath (ds : DockerService) (env : StopEnv) (id : Text) (s : State) : State → Prop
  | noInfo {r : Outcome GoError (Text × Text × Bool)} {t : State} (hinfo : sandboxInfo ds env id s = (r, t))
      (hr : ∀ info, r ≠ .ok info) : StopPath ds env id s t
  | skipped {ns name : Text} {hostNetwork : Bool} {v t : State} {r : Outcome GoError Unit}
      (hinfo : sandboxInfo ds env id s = (.ok (ns, name, hostNetwork), v))
      (hskip : hostNetwork = true ∨ v.networkReady id = some false) (hstop : stopSandboxContainer env id [] v = (r, t)) :
      StopPath ds env id s t
  | panics {ns name : Text} {v t : State} (hinfo : sandboxInfo ds env id s = (.ok (ns, name, false), v))
      (hplug : Plugged ds id env.tearDownPod (.tearDownPod id false) v t) : StopPath ds env id s t
  | tornDown {ns name : Text} {v w t : State} {r : Outcome GoError Unit}
      (hinfo : sandboxInfo ds env id s = (.ok (ns, name, false), v))
      (hplug : Plugged ds id env.tearDownPod (.tearDownPod id true) v w)
      (hstop : stopSandboxContainer env id [] (w.setNetworkReady id false) = (r, t)) : StopPath ds env id s t
  | failed {ns name : Text} {v w t : State} {errList : List (Option GoError)} {r : Outcome GoError Unit}
      (hinfo : sandboxInfo ds env id s = (.ok (ns, name, false), v))
      (hplug : Plugged ds id env.tearDownPod (.tearDownPod id false) v w)
      (hstop : stopSandboxContainer env id errList w = (r, t)) : StopPath ds env id s t

/-- The test of StopPodSandbox: on the host's network, or with the entry taken back, there is nothing to tear down. -/
theorem tearsDown_iff {hostNetwork : Bool} {entry : Option Bool} :
    (!hostNetwork && (entry.getD false || !entry.isSome)) = true ↔ ¬(hostNetwork = true ∨ entry = some false) := by
  cases hostNetwork with
  | true => simp
  | false => rcases entry with _ | _ | _ <;> simp

theorem stopPodSandbox_path {env : StopEnv} {r : Outcome GoError Unit} (h : stopPodSandbox ds env id s = (r, t)) :
    StopPath ds env id s t := by
  rw [stopPodSandbox] at h
  split at h
  · rename_i v hinfo
    cases h
    exact .noInfo hinfo nofun
  · rename_i err v hinfo
    cases h
    exact .noInfo hinfo nofun
  · rename_i ns name hostNetwork v hinfo
    dsimp only at h
    split at h
    · rename_i htear
      obtain ⟨hhost, -⟩ := not_or.mp (tearsDown_iff.mp htear)
      obtain rfl := Bool.eq_false_iff.mpr hhost
      cases hdown : tearDownPod ds env.tearDownPod ns name id v with
      | mk r' w =>
        rw [hdown] at h
        rcases callPlugin_cases hdown with ⟨rfl, -, hplug⟩ | ⟨rfl, -, hplug⟩ | ⟨err, rfl, -, hplug⟩
        · cases h
          exact .panics hinfo hplug
        · exact .tornDown hinfo hplug h
        · exact .failed hinfo hplug h
    · rename_i hskip
      exact .skipped hinfo (Classical.not_not.mp (mt tearsDown_iff.mpr hskip)) h

/-- What StopPodSandbox leaves: it tears the network down with success or without, or does not try. -/
structure Stopped (id : Text) (s t : State) : Prop where
  containers : t.containers = s.containers
  checkpoints : Drops id s.checkpoints t.checkpoints
  network : (t.networkReady = s.networkReady ∧ t.history = s.history) ∨
    (t.networkReady = s.networkReady ∧ t.history = .tearDownPod id false :: s.history) ∨
    (t.networkReady = Function.update s.networkReady id (some false) ∧ t.history = .tearDownPod id true :: s.history)

theorem stopSandboxContainer_same {env : StopEnv} {errList : List (Option GoError)} {r : Outcome GoError Unit}
    (h : stopSandboxContainer env id errList s = (r, t)) :
    t.networkReady = s.networkReady ∧ t.containers = s.containers ∧ t.history = s.history ∧
      Drops id s.checkpoints t.checkpoints := by
  rcases stopSandboxContainer_cases h with rfl | ⟨rfl, -⟩
  · exact ⟨rfl, rfl, rfl, Drops.refl id _⟩
  · exact ⟨rfl, rfl, rfl, removeCheckpoint_drops _ _ _⟩

theorem StopPath.stopped {env : StopEnv} (h : StopPath ds env id s t) : Stopped id s t := by
  cases h with
  | noInfo hinfo hr =>
    obtain ⟨hready, hcontainers, hhistory, hdrops⟩ := sandboxInfo_cases hinfo
    exact ⟨hcontainers, hdrops, Or.inl ⟨hready, hhistory⟩⟩
  | skipped hinfo hskip hstop =>
    obtain ⟨hready, hcontainers, hhistory, hdrops⟩ := sandboxInfo_cases hinfo
    obtain ⟨hready', hcontainers', hhistory', hdrops'⟩ := stopSandboxContainer_same hstop
    exact ⟨hcontainers'.trans hcontainers, hdrops.trans hdrops', Or.inl ⟨hready'.trans hready, hhistory'.trans hhistory⟩⟩
  | panics hinfo hplug =>
    obtain ⟨hready, hcontainers, hhistory, hdrops⟩ := sandboxInfo_cases hinfo
    refine ⟨hplug.containers.trans hcontainers, hdrops.trans hplug.drops, Or.inr (Or.inl ⟨hplug.networkReady.trans hready, ?_⟩)⟩
    rw [hplug.history, hhistory]
  | tornDown hinfo hplug hstop =>
    obtain ⟨hready, hcontainers, hhistory, hdrops⟩ := sandboxInfo_cases hinfo
    obtain ⟨hready', hcontainers', hhistory', hdrops'⟩ := stopSandboxContainer_same hstop
    refine ⟨hcontainers'.trans (hplug.containers.trans hcontainers), (hdrops.trans hplug.drops).trans hdrops',
      Or.inr (Or.inr ⟨hready'.trans ?_, hhistory'.trans (hplug.history.trans ?_)⟩)⟩
    · rw [State.setNetworkReady, hplug.networkReady, hready]
    · rw [hhistory]
  | failed hinfo hplug hstop =>
    obtain ⟨hready, hcontainers, hhistory, hdrops⟩ := sandboxInfo_cases hinfo
    obtain ⟨hready', hcontainers', hhistory', hdrops'⟩ := stopSandboxContainer_same hstop
    refine ⟨hcontainers'.trans (hplug.containers.trans hcontainers), (hdrops.trans hplug.drops).trans hdrops',
      Or.inr (Or.inl ⟨hready'.trans (hplug.networkReady.trans hready), hhistory'.trans (hplug.history.trans ?_)⟩)⟩
    rw [hhistory]

/-- What StopPodSandbox does about the network of the sandbox. -/
inductive StopNetwork (ds : DockerService) (env : StopEnv) (id : Text) (s : State) (r : Outcome GoError Unit) (t : State) : Prop
  | unknown (hinfo : ∀ info, (sandboxInfo ds env id s).1 ≠ .ok info) (hr : r ≠ .ok ()) (hhistory : t.history = s.history)
  | skipped {ns name : Text} {hostNetwork : Bool} (hinfo : (sandboxInfo ds env id s).1 = .ok (ns, name, hostNetwork))
      (hskip : hostNetwork = true ∨ s.networkReady id = some false) (hready : t.networkReady = s.networkReady)
      (hhistory : t.history = s.history)
  | tornDown {ns name : Text} {ok : Bool} (hinfo : (sandboxInfo ds env id s).1 = .ok (ns, name, false))
      (hready : s.networkReady id ≠ some false) (hhistory : t.history = .tearDownPod id ok :: s.history)
      (hok : r = .ok () → t.networkReady id = some false)

theorem stopSandboxContainer_ne_ok {env : StopEnv} {err : GoError} {r : Outcome GoError Unit}
    (h : stopSandboxContainer env id [some err] s = (r, t)) : r ≠ .ok () := by
  rw [stopSandboxContainer] at h
  split at h
  · cases h
    rintro ⟨⟩
  · split at h
    · cases h
      rintro ⟨⟩
    · cases h
      rintro ⟨⟩

theorem stopPodSandbox_network {env : StopEnv} {r : Outcome GoError Unit} (h : stopPodSandbox ds env id s = (r, t)) :
    StopNetwork ds env id s r t := by
  rw [stopPodSandbox] at h
  cases hinfo : sandboxInfo ds env id s with
  | mk info v =>
    obtain ⟨hready, -, hhistory, -⟩ := sandboxInfo_cases hinfo
    have hinfo' : (sandboxInfo ds env id s).1 = info := by rw [hinfo]
    rw [hinfo] at h
    rcases info with ⟨ns, name, hostNetwork⟩ | err | _
    · dsimp only at h
      split at h
      · rename_i htear
        rw [hready] at htear
        obtain ⟨hhost, hmark⟩ := not_or.mp (tearsDown_iff.mp htear)
        obtain rfl := Bool.eq_false_iff.mpr hhost
        cases hdown : tearDownPod ds env.tearDownPod ns name id v with
        | mk r' w =>
          rw [hdown] at h
          rcases callPlugin_cases hdown with ⟨rfl, -, hplug⟩ | ⟨rfl, -, hplug⟩ | ⟨err, rfl, -, hplug⟩
          · cases h
            refine .tornDown hinfo' hmark (hplug.history.trans (congrArg _ hhistory)) ?_
            rintro ⟨⟩
          · obtain ⟨hready', -, hhistory', -⟩ := stopSandboxContainer_same h
            refine .tornDown hinfo' hmark (hhistory'.trans (hplug.history.trans (congrArg _ hhistory))) fun _ => ?_
            rw [hready']
            exact Function.update_self _ _ _
          · obtain ⟨-, -, hhistory', -⟩ := stopSandboxContainer_same h
            exact .tornDown hinfo' hmark (hhistory'.trans (hplug.history.trans (congrArg _ hhistory)))
              fun hok => absurd hok (stopSandboxContainer_ne_ok h)
      · rename_i hskip
        rw [hready] at hskip
        obtain ⟨hready', -, hhistory', -⟩ := stopSandboxContainer_same h
        exact .skipped hinfo' (Classical.not_not.mp (mt tearsDown_iff.mpr hskip)) (hready'.trans hready) (hhistory'.trans hhistory)
    · cases h
      refine .unknown (fun info hok => ?_) ?_ hhistory
      · cases hinfo'.symm.trans hok
      · rintro ⟨⟩
    · cases h
      refine .unknown (fun info hok => ?_) ?_ hhistory
      · cases hinfo'.symm.trans hok
      · rintro ⟨⟩

/-! ### Removing and listing -/

theorem removeContainerOf_fades (env : RemoveContainerEnv) (id : Text) (containers : Containers) (d : Text) :
    (removeContainerOf env id containers).2 d = containers d ∨ (removeContainerOf env id containers).2 d = none := by
  unfold removeContainerOf
  split
  · exact Or.inl rfl
  · exact Or.inl rfl
  · have hfades := removeContainer_fades env.removeContainer id containers d
    split
    · rename_i err containers' hremove
      rw [hremove] at hfades
      exact hfades
    · rename_i containers' hremove
      rw [hremove] at hfades
      exact hfades

theorem removeAll_fades (env : Text → RemoveContainerEnv) (cs : List ListedContainer) (errs : List (Option GoError))
    (containers : Containers) (d : Text) :
    (removeAll env cs errs containers).2 d = containers d ∨ (removeAll env cs errs containers).2 d = none := by
  induction cs generalizing errs containers with
  | nil => exact Or.inl rfl
  | cons c rest ih =>
    have hfirst := removeContainerOf_fades (env c.id) c.id containers d
    have hthen : ∀ errs containers', (containers' d = containers d ∨ containers' d = none) →
        ((removeAll env rest errs containers').2 d = containers d ∨ (removeAll env rest errs containers').2 d = none) := by
      intro errs containers' h
      rcases ih errs containers' with heq | hgone
      · rw [heq]
        exact h
      · exact Or.inr hgone
    rw [removeAll]
    split
    · rename_i err containers' hremove
      rw [hremove] at hfirst
      exact hthen _ _ hfirst
    · rename_i containers' hremove
      rw [hremove] at hfirst
      exact hthen _ _ hfirst

/-- What RemovePodSandbox leaves: the containers may be gone, and with the sandbox's one its readiness. -/
structure Removed (env : RemoveEnv) (id : Text) (s t : State) : Prop where
  networkReady : ∀ d, t.networkReady d = s.networkReady d ∨ t.networkReady d = none
  containers : ∀ d, t.containers d = s.containers d ∨ t.containers d = none
  gone : env.removeContainer = none → t.containers id = none
  checkpoints : t.checkpoints = (removeCheckpoint env.removeCheckpoint id s.checkpoints).2
  history : t.history = s.history

theorem removeContainer_gone (id : Text) (containers : Containers) : (removeContainer none id containers).2 id = none := by
  unfold removeContainer callContainer inspectContainer
  cases h : containers id with
  | none => exact h
  | some k => exact Function.update_self _ _ _

theorem removeListed_cases (env : RemoveEnv) (id : Text) (s : State) :
    ∃ errs containers, removeListed env id s = (errs, { s with containers }) ∧
      ∀ d, containers d = s.containers d ∨ containers d = none := by
  unfold removeListed
  split
  · exact ⟨_, s.containers, rfl, fun _ => Or.inl rfl⟩
  · exact ⟨_, _, rfl, removeAll_fades _ _ _ _⟩

theorem removePodSandbox_removed (env : RemoveEnv) (id : Text) (s : State) : Removed env id s (removePodSandbox env id s).2 := by
  have hclear := update_cases s.networkReady id none
  obtain ⟨errs, containers, hlisted, hfades⟩ := removeListed_cases env id s
  have hfades' : ∀ d, (removeContainer env.removeContainer id containers).2 d = s.containers d ∨
      (removeContainer env.removeContainer id containers).2 d = none := by
    intro d
    rcases removeContainer_fades env.removeContainer id containers d with heq | hgone
    · rw [heq]
      exact hfades d
    · exact Or.inr hgone
  have hgone : env.removeContainer = none → (removeContainer env.removeContainer id containers).2 id = none := by
    intro hfault
    rw [hfault]
    exact removeContainer_gone id containers
  rw [removePodSandbox, hlisted]
  dsimp only [removeSandboxContainer]
  generalize removeContainer env.removeContainer id containers = removed at hfades' hgone ⊢
  obtain ⟨_ | err, containers'⟩ := removed
  · exact ⟨hclear, hfades', hgone, rfl, rfl⟩
  · dsimp only
    split
    · exact ⟨hclear, hfades', hgone, rfl, rfl⟩
    · exact ⟨fun _ => Or.inl rfl, hfades', hgone, rfl, rfl⟩

/-- The error of a checkpoint whose checksum does not match is not `ErrCorruptCheckpoint`. -/
theorem getCheckpoint_ne_corrupt (spew : CheckpointData → List UInt8) (fsErr : Option GoError) (id : Text)
    (checkpoint : PodSandboxCheckpoint) (dir : Dir Blob) :
    getCheckpoint (podSandboxCheckpoint spew) fsErr id checkpoint dir ≠ .error .errCorruptCheckpoint := by
  rw [getCheckpoint]
  have hread : Store.read fsErr id dir ≠ .error .errCorruptCheckpoint := by
    unfold Store.read
    split
    · rename_i err hkey
      unfold validateKey at hkey
      split at hkey
      · cases hkey
      · cases hkey
        rintro ⟨⟩
    · rintro ⟨⟩
    · rintro ⟨⟩
    · rintro ⟨⟩
  split
  · rintro ⟨⟩
  · rename_i err hne herr
    rintro heq
    cases heq
    exact hread herr
  · split
    · rintro ⟨⟩
    · split
      · rintro ⟨⟩
      · rintro ⟨⟩
      · rintro ⟨⟩

theorem checkpointOnly_state (ds : DockerService) (faults : Text → CheckpointFaults) (ids : List Text)
    (result : List PodSandbox) (s : State) :
    (checkpointOnly ds faults ids result s).2 = s := by
  induction ids generalizing result with
  | nil => rfl
  | cons id rest ih =>
    rw [checkpointOnly]
    split
    · rfl
    · rename_i err herr
      rw [if_neg fun heq => getCheckpoint_ne_corrupt ds.spew _ _ _ _ (heq ▸ herr)]
      exact ih result
    · split
      · rfl
      · exact ih _

theorem listPodSandbox_state (env : ListEnv) (filter : Option PodSandboxFilter) (s : State) :
    (listPodSandbox ds env filter s).2 = s := by
  dsimp only [listPodSandbox]
  split
  · rfl
  · rename_i cs _
    have hstate := checkpointOnly_state ds env.checkpoint
    split
    · rename_i t heq
      exact (congrArg Prod.snd heq).symm.trans (hstate _ _ _)
    · rename_i result t heq
      exact (congrArg Prod.snd heq).symm.trans (hstate _ _ _)

/-! ### Runs -/

/-- Docker gives IDs that are new, and the ports of a config are `int32` values. -/
def Call.Regular (s : State) : Call → Prop
  | .runPodSandbox env config _ => config.WellTyped ∧
      ∀ id, env.createContainer = .ok id ∨ env.createContainerAgain = .ok id →
        s.containers id = none ∧ .created id ∉ s.history
  | _ => True

/-- The states that a service gets to by calls that are allowed. -/
def ServiceReachable (ds : DockerService) (allowed : State → Call → Prop) : State → Prop :=
  Reachable (fun s => ∃ checkpoints containers, s = State.initial checkpoints containers) allowed (Call.run ds)

end CriDockerd.Core
