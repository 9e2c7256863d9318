import CriDockerd.Core.Requests

/-! What the config of a container is made of. The name, the labels and the mounts are set first, and no later step
    changes them; Docker gets the config once, or once more under a randomized name. -/

namespace CriDockerd.Core.Requests
open Text

section
variable {env : CreateEnv} {r : Runtimeapi.CreateContainerRequest} {config : Runtimeapi.ContainerConfig}
  {sandboxConfig : Runtimeapi.PodSandboxConfig} {createConfig made : ContainerCreateConfig}

/-- What the options of the platform leave as it is. -/
structure Kept (createConfig made : ContainerCreateConfig) : Prop where
  name : made.name = createConfig.name
  labels : made.config.labels = createConfig.config.labels
  mounts : made.hostConfig.mounts = createConfig.hostConfig.mounts

theorem eq_of_guarded {α : Type} {p : Prop} [Decidable p] {err : GoError} {a b : α}
    (h : (if p then .error err else .ok a : Except GoError α) = .ok b) : b = a := by
  split at h
  · cases h
  · exact (Except.ok.inj h).symm

theorem modifyContainerConfig_labels {sc : Option Runtimeapi.LinuxContainerSecurityContext} {before after : Config}
    (h : modifyContainerConfig sc before = .ok after) : after.labels = before.labels := by
  unfold modifyContainerConfig at h
  split at h
  · cases h
    rfl
  · dsimp only at h
    split at h
    · cases h
      rfl
    · have heq := eq_of_guarded h
      rw [heq]

theorem modifyHostConfig_mounts (sc : Option Runtimeapi.LinuxContainerSecurityContext) (separator : Char) (hc : HostConfig) :
    (modifyHostConfig sc separator hc).mounts = hc.mounts := by
  cases sc with
  | none => rfl
  | some sc => rfl

theorem applyContainerSecurityContext_kept {lc : Runtimeapi.LinuxContainerConfig} {podSandboxID : Text} {separator : Char}
    (h : applyContainerSecurityContext lc podSandboxID separator createConfig = .ok made) : Kept createConfig made := by
  rw [applyContainerSecurityContext] at h
  split at h
  · cases h
  · rename_i modified hmodified
    cases h
    exact ⟨rfl, modifyContainerConfig_labels hmodified, modifyHostConfig_mounts ..⟩

theorem updateCreateConfig_kept {podSandboxID name : Text}
    (h : updateCreateConfig env config sandboxConfig podSandboxID name createConfig = .ok made) : Kept createConfig made := by
  unfold updateCreateConfig at h
  dsimp only at h
  split at h
  · cases h
  · rename_i applied happlied
    cases h
    split at happlied
    · cases happlied
      exact ⟨rfl, rfl, rfl⟩
    · obtain ⟨hname, hlabels, hmounts⟩ := applyContainerSecurityContext_kept happlied
      refine ⟨hname.trans ?_, hlabels.trans ?_, hmounts.trans ?_⟩ <;> split <;> rfl

/-- The config of a container is the initial one with the options of the platform, the devices and the security options. -/
theorem containerCreateConfig_ok (hconfig : r.config = some config) (h : containerCreateConfig env r = .ok made) :
    ∃ sandboxConfig containerName name runtime mounts updated resources securityOpt,
      mountBindings env config.mounts = .ok (runtime, mounts) ∧
      updateCreateConfig env config sandboxConfig r.podSandboxId name
        (initialCreateConfig r config sandboxConfig containerName runtime mounts) = .ok updated ∧
      made = { updated with hostConfig := { updated.hostConfig with resources, securityOpt } } := by
  unfold containerCreateConfig at h
  rw [hconfig] at h
  split at h
  · cases h
  · split at h <;> cases h
  · rename_i sandboxConfig hsome hsandbox
    cases hsome
    split at h
    · cases h
    · split at h
      · split at h
        · cases h
        · rename_i hnamed
          cases h
          unfold namedCreateConfig at hnamed
          split at hnamed
          · cases hnamed
          · rename_i hmounts
            split at hnamed
            · cases hnamed
            · split at hnamed
              · cases hnamed
              · rename_i hupdated
                split at hnamed
                · cases hnamed
                · cases hnamed
                  exact ⟨_, _, _, _, _, _, _, _, hmounts, hupdated, rfl⟩
      · cases h

theorem containerCreateConfig_kept (hconfig : r.config = some config) (h : containerCreateConfig env r = .ok made) :
    ∃ sandboxConfig containerName runtime mounts, mountBindings env config.mounts = .ok (runtime, mounts) ∧
      Kept (initialCreateConfig r config sandboxConfig containerName runtime mounts) made := by
  obtain ⟨_, _, _, _, _, _, _, _, hmounts, hupdated, rfl⟩ := containerCreateConfig_ok hconfig h
  obtain ⟨hname, hlabels, hkept⟩ := updateCreateConfig_kept hupdated
  exact ⟨_, _, _, _, hmounts, hname, hlabels, hkept⟩

/-- A config that Docker gets for one that was made. -/
structure Passed (random : UInt32) (made createConfig : ContainerCreateConfig) : Prop where
  name : createConfig.name = made.name ∨ createConfig.name = randomizeName made.name random
  config : createConfig.config = made.config
  hostConfig : createConfig.hostConfig = made.hostConfig

theorem createContainer_cases (env : CreateEnv) (r : Runtimeapi.CreateContainerRequest) :
    (∃ made, containerCreateConfig env r = .ok made ∧
      ∀ createConfig ∈ (createContainer env r).2, Passed env.random made createConfig) ∨
    (createContainer env r).2 = [] ∧ ∀ id, (createContainer env r).1 ≠ .ok id := by
  unfold createContainer
  split
  · exact Or.inr ⟨rfl, fun id h => by cases h⟩
  · exact Or.inr ⟨rfl, fun id h => by cases h⟩
  · rename_i made hmade
    have hfirst : Passed env.random made made := ⟨Or.inl rfl, rfl, rfl⟩
    have honce : ∀ createConfig ∈ [made], Passed env.random made createConfig := fun createConfig hmem =>
      List.mem_singleton.mp hmem ▸ hfirst
    refine Or.inl ⟨made, hmade, ?_⟩
    split
    · exact honce
    · split
      · split
        · exact honce
        · have htwice : ∀ createConfig ∈ [made, { made with name := randomizeName made.name env.random }],
              Passed env.random made createConfig := by
            simp only [List.forall_mem_cons]
            exact ⟨hfirst, ⟨Or.inr rfl, rfl, rfl⟩, by simp⟩
          dsimp only
          split <;> exact htwice
      · exact honce

end

end CriDockerd.Core.Requests
