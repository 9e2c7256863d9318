import CriDockerd.Theorems.Requests.Mounts

/-! Labels and annotations on their way through Docker, which has labels only. An annotation is kept under its key with
    a prefix, and the service adds labels of its own: no two of these get in each other's way, if no label of the
    config has a key that the service uses or the prefix. -/

namespace CriDockerd.Core
open Text

/-- The same map of labels, whatever the order in which its keys come. -/
def SameLabels (input written : Labels) : Prop := ∀ k, input.lookup k = written.lookup k

/-- No key is one of the service's own or has the prefix of annotations. -/
def FreeKeys (labels : Labels) : Prop := ∀ k ∈ labels.map (·.1), k ∉ internalLabelKeys ∧ hasPrefix k annotationPrefix = false

/-- What is read from Docker's labels are these labels and annotations. -/
structure Recovers (labels annotations input : Labels) : Prop where
  labels : ∀ k, (extractLabels input).1.lookup k = labels.lookup k
  annotations : ∀ k, (extractLabels input).2.lookup k = annotations.lookup k

/-- The key is not shown, neither as that of a label nor as that of an annotation. -/
structure Hides (input : Labels) (k : Text) : Prop where
  label : (extractLabels input).1.lookup k = none
  unprefixed : hasPrefix k annotationPrefix = false

/-! ### Lookups -/

theorem lookup_filter_key (p : Text → Bool) (l : Labels) (k : Text) :
    (l.filter fun kv => p kv.1).lookup k = if p k then l.lookup k else none := by
  induction l with
  | nil => simp
  | cons kv rest ih =>
    obtain ⟨key, value⟩ := kv
    by_cases hk : k = key
    · subst hk
      cases hp : p k with
      | true => simp [hp]
      | false => simpa [hp] using ih
    · have hne : (k == key) = false := beq_eq_false_iff_ne.mpr hk
      cases hp : p key with
      | true => simp [hp, List.lookup_cons, hne, ih]
      | false => simp [hp, List.lookup_cons, hne, ih]

theorem lookup_prefixed (p : Text) (l : Labels) (k : Text) :
    (l.map fun kv => (p ++ kv.1, kv.2)).lookup (p ++ k) = l.lookup k := by
  induction l with
  | nil => rfl
  | cons kv rest ih =>
    rw [List.map_cons, List.lookup_cons, List.lookup_cons, ih]
    by_cases hk : k = kv.1
    · rw [hk, beq_self_eq_true, beq_self_eq_true]
    · rw [beq_eq_false_iff_ne.mpr hk, beq_eq_false_iff_ne.mpr fun heq => hk (List.append_cancel_left heq)]

theorem lookup_prefixed_none {p k : Text} (h : hasPrefix k p = false) (l : Labels) :
    (l.map fun kv => (p ++ kv.1, kv.2)).lookup k = none := by
  rw [List.lookup_eq_none_iff]
  intro kv hmem
  obtain ⟨kv', -, rfl⟩ := List.mem_map.mp hmem
  rw [bne_iff_ne]
  rintro rfl
  rw [hasPrefix_append] at h
  cases h

theorem lookup_trimmed (p : Text) (l : Labels) (k : Text) :
    ((l.filter fun kv => hasPrefix kv.1 p).map fun kv => (trimPrefix kv.1 p, kv.2)).lookup k = l.lookup (p ++ k) := by
  induction l with
  | nil => rfl
  | cons kv rest ih =>
    obtain ⟨key, value⟩ := kv
    cases hp : hasPrefix key p with
    | true =>
      obtain ⟨key', rfl⟩ := hasPrefix_iff.mp hp
      rw [List.filter_cons, if_pos hp, List.map_cons, List.lookup_cons, List.lookup_cons, ih, trimPrefix_append]
      by_cases hk : k = key'
      · rw [hk, beq_self_eq_true, beq_self_eq_true]
      · rw [beq_eq_false_iff_ne.mpr hk, beq_eq_false_iff_ne.mpr fun heq => hk (List.append_cancel_left heq)]
    | false =>
      have hne : (p ++ k == key) = false := by
        rw [beq_eq_false_iff_ne]
        rintro rfl
        rw [hasPrefix_append] at hp
        cases hp
      rw [List.filter_cons, if_neg (Bool.eq_false_iff.mp hp), ih, List.lookup_cons, hne]

theorem lookup_eq_none_of_keys {l : Labels} {k : Text} (h : k ∉ l.map (·.1)) : l.lookup k = none := by
  rw [List.lookup_eq_none_iff]
  intro kv hmem
  rw [bne_iff_ne]
  rintro rfl
  exact h (List.mem_map_of_mem hmem)

/-! ### Writing and reading -/

section
variable {labels annotations input : Labels} {k : Text}

theorem makeLabels_prefixed (h : labels.lookup (annotationPrefix ++ k) = none) :
    (makeLabels labels annotations).lookup (annotationPrefix ++ k) = annotations.lookup k := by
  rw [makeLabels, List.lookup_append, lookup_prefixed, h, Option.or_none]

theorem makeLabels_label (h : hasPrefix k annotationPrefix = false) :
    (makeLabels labels annotations).lookup k = labels.lookup k := by
  rw [makeLabels, List.lookup_append, lookup_prefixed_none h, Option.none_or]

/-- The keys that are not shown as labels. -/
def hiddenKey (input : Labels) (k : Text) : Bool :=
  k ∈ internalLabelKeys ∨ (k = kubernetesContainerNameLabel ∧ input.lookup containerTypeLabelKey = some containerTypeLabelSandbox)

theorem extractLabels_label (input : Labels) (k : Text) :
    (extractLabels input).1.lookup k =
      if hiddenKey input k = true ∨ hasPrefix k annotationPrefix = true then none else input.lookup k := by
  have hshown : (extractLabels input).1 =
      (input.filter fun kv => !hiddenKey input kv.1).filter fun kv => !hasPrefix kv.1 annotationPrefix := by
    simp [extractLabels, hiddenKey]
  rw [hshown, lookup_filter_key (fun k => !hasPrefix k annotationPrefix), lookup_filter_key fun k => !hiddenKey input k]
  cases hiddenKey input k <;> cases hasPrefix k annotationPrefix <;> rfl

theorem hiddenKey_prefixed (input : Labels) (k : Text) : hiddenKey input (annotationPrefix ++ k) = false := by
  have hfirst : ∀ key ∈ kubernetesContainerNameLabel :: internalLabelKeys, key.head? = some 'i' := by decide
  rw [hiddenKey, decide_eq_false_iff_not]
  rintro (hmem | ⟨heq, -⟩)
  · cases hfirst _ (List.mem_cons_of_mem _ hmem)
  · have hhead := hfirst kubernetesContainerNameLabel List.mem_cons_self
    rw [← heq] at hhead
    cases hhead

theorem extractLabels_prefixed (input : Labels) (k : Text) :
    (extractLabels input).2.lookup k = input.lookup (annotationPrefix ++ k) := by
  have hshown : (extractLabels input).2 =
      ((input.filter fun kv => !hiddenKey input kv.1).filter fun kv => hasPrefix kv.1 annotationPrefix).map
        fun kv => (trimPrefix kv.1 annotationPrefix, kv.2) := by
    simp [extractLabels, hiddenKey]
  rw [hshown, lookup_trimmed, lookup_filter_key fun k => !hiddenKey input k, hiddenKey_prefixed]
  rfl

theorem hides_of_hiddenKey (h : hiddenKey input k = true) : Hides input k := by
  refine ⟨?_, ?_⟩
  · rw [extractLabels_label, if_pos (Or.inl h)]
  · by_contra hprefix
    obtain ⟨rest, rfl⟩ := hasPrefix_iff.mp (Bool.of_not_eq_false hprefix)
    rw [hiddenKey_prefixed] at h
    cases h

theorem recovers_of_added {added : Labels} (hinput : SameLabels input (added ++ makeLabels labels annotations))
    (hadded : ∀ k ∈ added.map (·.1), hiddenKey input k = true) (hfree : FreeKeys labels)
    (hlabels : ∀ k ∈ labels.map (·.1), hiddenKey input k = false) : Recovers labels annotations input := by
  have hlookup : ∀ k, hiddenKey input k = false → input.lookup k = (makeLabels labels annotations).lookup k := by
    intro k hk
    have hnone : added.lookup k = none := by
      refine lookup_eq_none_of_keys fun hmem => ?_
      rw [hadded k hmem] at hk
      cases hk
    rw [hinput k, List.lookup_append, hnone, Option.none_or]
  refine ⟨fun k => ?_, fun k => ?_⟩
  · rw [extractLabels_label]
    split
    · rename_i hhidden
      refine (lookup_eq_none_of_keys fun hmem => ?_).symm
      rcases hhidden with hhidden | hprefix
      · rw [hlabels k hmem] at hhidden
        cases hhidden
      · rw [(hfree k hmem).2] at hprefix
        cases hprefix
    · rename_i hshown
      rw [not_or, Bool.not_eq_true, Bool.not_eq_true] at hshown
      rw [hlookup k hshown.1, makeLabels_label hshown.2]
  · rw [extractLabels_prefixed, hlookup _ (hiddenKey_prefixed input k), makeLabels_prefixed]
    refine lookup_eq_none_of_keys fun hmem => ?_
    have hprefix := (hfree _ hmem).2
    rw [hasPrefix_append] at hprefix
    cases hprefix

end

/-! ### Sandboxes and containers -/

theorem makeSandboxDockerConfig_labels {pluginName cgroupDriver image : Text} {c : Runtimeapi.PodSandboxConfig}
    {createConfig : ContainerCreateConfig}
    (h : makeSandboxDockerConfig pluginName cgroupDriver (some c) image = .ok createConfig) :
    createConfig.config.labels = [(kubernetesContainerNameLabel, sandboxContainerName),
      (containerTypeLabelKey, containerTypeLabelSandbox)] ++ makeLabels c.labels c.annotations := by
  unfold makeSandboxDockerConfig at h
  split at h
  · rename_i c' name hc hname
    cases hc
    dsimp only at h
    split at h
    · cases h
    · rename_i applied happlied
      cases h
      unfold applySandboxLinuxOptions at happlied
      split at happlied
      · cases happlied
        rfl
      · rename_i lc _
        unfold applySandboxSecurityContext at happlied
        dsimp only at happlied
        split at happlied
        · cases happlied
        · rename_i modified hmodified
          cases happlied
          exact Requests.modifyContainerConfig_labels hmodified
  · cases h

theorem createContainer_labels {env : Requests.CreateEnv} {r : Runtimeapi.CreateContainerRequest}
    {config : Runtimeapi.ContainerConfig} {createConfig : ContainerCreateConfig} (hconfig : r.config = some config)
    (h : createConfig ∈ (Requests.createContainer env r).2) :
    ∃ logPath, createConfig.config.labels = [(sandboxIDLabelKey, r.podSandboxId), (containerLogPathLabelKey, logPath),
      (containerTypeLabelKey, containerTypeLabelContainer)] ++ makeLabels config.labels config.annotations := by
  rcases Requests.createContainer_cases env r with ⟨made, hmade, hpassed⟩ | ⟨hnone, -⟩
  · obtain ⟨sandboxConfig, containerName, runtime, mounts, -, hkept⟩ :=
      Requests.containerCreateConfig_kept hconfig hmade
    exact ⟨_, (congrArg Config.labels (hpassed createConfig h).config).trans hkept.labels⟩
  · rw [hnone] at h
    cases h

/-- What is read back from the labels of a sandbox or of a container are the labels and the annotations of its config,
    in whatever order Docker gives them; and no key that the service has added is shown, whatever the config is. -/
theorem extractLabels_recovers :
    (∀ (pluginName cgroupDriver image : Text) (c : Runtimeapi.PodSandboxConfig) (createConfig : ContainerCreateConfig),
      makeSandboxDockerConfig pluginName cgroupDriver (some c) image = .ok createConfig →
      ∀ input, SameLabels input createConfig.config.labels →
        (∀ k ∈ kubernetesContainerNameLabel :: internalLabelKeys, Hides input k) ∧
        (FreeKeys c.labels → kubernetesContainerNameLabel ∉ c.labels.map (·.1) → Recovers c.labels c.annotations input)) ∧
    (∀ (env : Requests.CreateEnv) (r : Runtimeapi.CreateContainerRequest) (config : Runtimeapi.ContainerConfig),
      r.config = some config → ∀ createConfig ∈ (Requests.createContainer env r).2,
      ∀ input, SameLabels input createConfig.config.labels →
        (∀ k ∈ internalLabelKeys, Hides input k) ∧
        (FreeKeys config.labels → Recovers config.labels config.annotations input)) := by
  have hinternal : ∀ input : Labels, ∀ k ∈ internalLabelKeys, hiddenKey input k = true := fun input k hk =>
    decide_eq_true (Or.inl hk)
  constructor
  · intro pluginName cgroupDriver image c createConfig hmade input hinput
    rw [makeSandboxDockerConfig_labels hmade] at hinput
    have hsandbox : input.lookup containerTypeLabelKey = some containerTypeLabelSandbox := hinput containerTypeLabelKey
    have hhidden : ∀ k ∈ kubernetesContainerNameLabel :: internalLabelKeys, hiddenKey input k = true := by
      rw [List.forall_mem_cons]
      exact ⟨decide_eq_true (Or.inr ⟨rfl, hsandbox⟩), hinternal input⟩
    refine ⟨fun k hk => hides_of_hiddenKey (hhidden k hk), fun hfree hname => ?_⟩
    refine recovers_of_added hinput ?_ hfree fun k hk => decide_eq_false ?_
    · simp only [List.map_cons, List.forall_mem_cons]
      exact ⟨hhidden _ List.mem_cons_self, hinternal input _ List.mem_cons_self, by simp⟩
    · rintro (hmem | ⟨rfl, -⟩)
      · exact (hfree k hk).1 hmem
      · exact hname hk
  · intro env r config hconfig createConfig hpassed input hinput
    obtain ⟨logPath, hlabels⟩ := createContainer_labels hconfig hpassed
    rw [hlabels] at hinput
    have hcontainer : input.lookup containerTypeLabelKey = some containerTypeLabelContainer := hinput containerTypeLabelKey
    refine ⟨fun k hk => hides_of_hiddenKey (hinternal input k hk), fun hfree => ?_⟩
    refine recovers_of_added hinput ?_ hfree fun k hk => decide_eq_false ?_
    · simp only [List.map_cons, List.forall_mem_cons]
      exact ⟨hinternal input _ (by decide), hinternal input _ (by decide), hinternal input _ (by decide), by simp⟩
    · rintro (hmem | ⟨-, htype⟩)
      · exact (hfree k hk).1 hmem
      · rw [hcontainer] at htype
        revert htype
        decide

/-- A sandbox with annotations whose keys look like those that the service uses. -/
def labelledConfig : Runtimeapi.PodSandboxConfig where
  metadata := some { name := "web", uid := "u1", namespace_ := "default", attempt := 0 }
  hostname := "web"
  logDirectory := []
  dnsConfig := none
  portMappings := []
  labels := [("app", "web")]
  annotations := [("annotation.a", "1"), (containerTypeLabelKey, "2")]
  linux := none

def labelledContainer : Runtimeapi.ContainerConfig :=
  { Requests.rroContainer with labels := labelledConfig.labels, annotations := labelledConfig.annotations }

def labelledRequest : Runtimeapi.CreateContainerRequest :=
  { Requests.rroRequest with config := some labelledContainer }

theorem extractLabels_recovers_labelled :
    (∃ createConfig, makeSandboxDockerConfig "cni" "cgroupfs" (some labelledConfig) "pause" =
        .ok createConfig ∧
      Recovers labelledConfig.labels labelledConfig.annotations createConfig.config.labels) ∧
    ∃ createConfig,
      (Requests.createContainer (Requests.createEnv (Requests.oneRuntime "runc" "runc")) labelledRequest).2 =
        [createConfig] ∧
      Recovers labelledContainer.labels labelledContainer.annotations createConfig.config.labels := by
  have hfree : FreeKeys labelledConfig.labels := by
    unfold FreeKeys
    decide
  constructor
  · obtain ⟨createConfig, hmade⟩ : ∃ createConfig,
      makeSandboxDockerConfig "cni" "cgroupfs" (some labelledConfig) "pause" = .ok createConfig := ⟨_, rfl⟩
    exact ⟨createConfig, hmade, (extractLabels_recovers.1 _ _ _ _ _ hmade _ fun _ => rfl).2 hfree (by decide)⟩
  · obtain ⟨createConfig, hone⟩ : ∃ createConfig, (Requests.createContainer
      (Requests.createEnv (Requests.oneRuntime "runc" "runc")) labelledRequest).2 = [createConfig] := ⟨_, rfl⟩
    exact ⟨createConfig, hone, (extractLabels_recovers.2 _ labelledRequest labelledContainer rfl createConfig
      (hone ▸ List.mem_singleton_self _) _ fun _ => rfl).2 hfree⟩

end CriDockerd.Core
