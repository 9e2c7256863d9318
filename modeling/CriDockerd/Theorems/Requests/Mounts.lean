import CriDockerd.Theorems.Requests.CreateConfig

/-! The mounts of a container: those that Docker gets are the requested ones, and a recursive read-only mount is only
    passed on when the runtime of the sandbox has it. The handler of that runtime is found by its name; the one
    without a name stands for the default runtime. -/

namespace CriDockerd.Core.Requests
open Text

/-! ### What a request may ask for -/

/-- Docker makes a read-only mount recursively so unless it is told not to. -/
def recursivelyReadOnly (b : Libdocker.Mount) : Bool := b.readOnly && !b.readOnlyNonRecursive

/-- A mount of Docker's config is the requested one. -/
structure Bound (m : Runtimeapi.Mount) (b : Libdocker.Mount) : Prop where
  source : b.source = m.hostPath
  target : b.target = m.containerPath
  readOnly : b.readOnly = m.readonly
  recursive : recursivelyReadOnly b = m.recursiveReadOnly

/-- The OCI features that are reported for a runtime list `rro`. -/
def ListsRRO (env : RROEnv) (info : Info) (runtime : Text) : Prop :=
  ∃ features options, (runtime, some features) ∈ info.runtimes ∧ env.mountOptions features = .ok options ∧
    "rro".toList ∈ options

/-- What a recursive read-only mount needs of a runtime. -/
structure Admissible (env : RROEnv) (info : Info) (runtime : Text) (m : Runtimeapi.Mount) : Prop where
  features : ListsRRO env info runtime
  kernel : env.kernelSupportsRRO = true
  readonly : m.readonly = true
  propagation : m.propagation = .priv

/-- The runtime that a name stands for: the default one for the empty name, if Docker reports it. -/
def servingRuntime (info : Info) (name : Text) : Text :=
  if name = [] ∧ info.defaultRuntime ∈ info.runtimes.map (·.1) then info.defaultRuntime else name

/-! ### Handlers -/

section
variable {env : RROEnv} {info : Info} {defaultRuntime name : Text} {runtimes : List (Text × Option Text)}
  {features : Option Text} {handlers acc : List Libdocker.RuntimeHandler}

/-- Whether features list `rro`, for a kernel that has it. -/
def rroOf (env : RROEnv) (features : Option Text) : Bool :=
  match supportsRRO env features with
  | .ok rro => rro
  | .error _ => false

theorem rroOf_iff : rroOf env features = true ↔ env.kernelSupportsRRO = true ∧
    ∃ text options, features = some text ∧ env.mountOptions text = .ok options ∧ "rro".toList ∈ options := by
  unfold rroOf supportsRRO
  cases features with
  | none => simp
  | some text =>
    cases hkernel : env.kernelSupportsRRO with
    | false => simp
    | true =>
      cases hoptions : env.mountOptions text with
      | error err => simp [hoptions]
      | ok options => simp [hoptions]

theorem handlersLoop_ok (h : handlersLoop env defaultRuntime runtimes acc = .ok handlers) :
    handlers = ((runtimes.filter (·.1 = defaultRuntime)).map fun rt => ⟨[], rroOf env rt.2⟩).reverse ++ acc ++
      runtimes.map fun rt => ⟨rt.1, rroOf env rt.2⟩ := by
  induction runtimes generalizing acc with
  | nil =>
    cases h
    simp
  | cons rt rest ih =>
    obtain ⟨dockerName, features⟩ := rt
    rw [handlersLoop] at h
    cases hrro : supportsRRO env features with
    | error err =>
      rw [hrro] at h
      cases h
    | ok rro =>
      have hof : rroOf env features = rro := by rw [rroOf, hrro]
      rw [hrro] at h
      have hrest := ih h
      by_cases hdefault : dockerName = defaultRuntime
      · rw [if_pos hdefault] at hrest
        simp [hrest, hdefault, hof]
      · rw [if_neg hdefault] at hrest
        simp [hrest, hdefault, hof]

section
variable {α : Type} (r : α → α → Prop) [DecidableRel r] {p : α → Bool}

theorem filter_orderedInsert (hr : ∀ a b, p a = true → p b = true → r a b) (a : α) (l : List α) :
    (l.orderedInsert r a).filter p = (a :: l).filter p := by
  induction l with
  | nil => rfl
  | cons b l ih =>
    rw [List.orderedInsert]
    split
    · rfl
    · rename_i hab
      rw [List.filter_cons, ih]
      -- One of the two is left out, or they would be in order.
      by_cases ha : p a = true
      · have hb : p b ≠ true := fun hb => hab (hr a b ha hb)
        simp [ha, hb]
      · simp [ha, List.filter_cons]

/-- Sorting keeps the order of elements that all stand before each other. -/
theorem filter_insertionSort (hr : ∀ a b, p a = true → p b = true → r a b) (l : List α) :
    (l.insertionSort r).filter p = l.filter p := by
  induction l with
  | nil => rfl
  | cons a l ih => rw [List.insertionSort_cons, filter_orderedInsert r hr, List.filter_cons, List.filter_cons, ih]

end

theorem find?_sorted (handlers : List Libdocker.RuntimeHandler) (name : Text) :
    (handlers.insertionSort fun a b => Store.nameLE a.name b.name).find? (·.name = name) = handlers.find? (·.name = name) := by
  rw [← List.head?_filter, ← List.head?_filter, filter_insertionSort]
  intro a b ha hb
  rw [of_decide_eq_true ha, of_decide_eq_true hb]
  exact Store.nameLE_refl name

theorem any_named (hnodup : (runtimes.map (·.1)).Nodup) :
    ((runtimes.map fun rt => (⟨rt.1, rroOf env rt.2⟩ : Libdocker.RuntimeHandler)).find? (·.name = name)).any
        (·.recursiveReadOnlyMounts) = true ↔
      ∃ features, (name, features) ∈ runtimes ∧ rroOf env features = true := by
  induction runtimes with
  | nil => simp
  | cons rt rest ih =>
    obtain ⟨n, f⟩ := rt
    obtain ⟨hfresh, hrest⟩ := List.nodup_cons.mp hnodup
    by_cases h : n = name
    · subst h
      have honly : ∀ features, (n, features) ∈ rest → False := fun features hmem =>
        hfresh (List.mem_map.mpr ⟨_, hmem, rfl⟩)
      simp only [List.map_cons, decide_true, List.find?_cons_of_pos, Option.any_some, List.mem_cons, Prod.mk.injEq, true_and]
      constructor
      · intro hrro
        exact ⟨f, Or.inl rfl, hrro⟩
      · rintro ⟨features, rfl | hmem, hrro⟩
        · exact hrro
        · exact absurd hmem (honly features)
    · have hne : ∀ features, (name, features) ∈ (n, f) :: rest ↔ (name, features) ∈ rest := by
        intro features
        simp [Ne.symm h]
      rw [List.map_cons, List.find?_cons_of_neg (by simpa using h), ih hrest]
      simp only [hne]

theorem filter_default (h : (defaultRuntime, features) ∈ runtimes) (hnodup : (runtimes.map (·.1)).Nodup) :
    runtimes.filter (·.1 = defaultRuntime) = [(defaultRuntime, features)] := by
  obtain ⟨before, after, rfl⟩ := List.append_of_mem h
  rw [List.map_append, List.map_cons, List.nodup_middle, List.nodup_cons, List.mem_append, not_or] at hnodup
  obtain ⟨⟨hbefore, hafter⟩, -⟩ := hnodup
  have hnone : ∀ l : List (Text × Option Text), defaultRuntime ∉ l.map (·.1) → l.filter (·.1 = defaultRuntime) = [] := by
    intro l hl
    refine List.filter_eq_nil_iff.mpr fun rt hrt => ?_
    intro heq
    exact hl (List.mem_map.mpr ⟨rt, hrt, of_decide_eq_true heq⟩)
  rw [List.filter_append, List.filter_cons_of_pos (by simp), hnone _ hbefore, hnone _ hafter]
  rfl

/-- The handler that is found for a name has the features of the runtime that it stands for. -/
theorem supported_iff (h : getRuntimeHandlers env info = .ok handlers) (name : Text) :
    (handlers.find? (·.name = name)).any (·.recursiveReadOnlyMounts) = true ↔
      env.kernelSupportsRRO = true ∧ ListsRRO env info (servingRuntime info name) := by
  obtain ⟨unsorted, hloop, rfl⟩ : ∃ unsorted, handlersLoop env info.defaultRuntime info.runtimes [] = .ok unsorted ∧
      unsorted.insertionSort (fun a b => Store.nameLE a.name b.name) = handlers := by
    rw [getRuntimeHandlers] at h
    cases hloop : handlersLoop env info.defaultRuntime info.runtimes [] with
    | error err =>
      rw [hloop] at h
      cases h
    | ok unsorted =>
      rw [hloop] at h
      exact ⟨unsorted, rfl, Except.ok.inj h⟩
  have hlists : (∃ features, (servingRuntime info name, features) ∈ info.runtimes ∧ rroOf env features = true) ↔
      env.kernelSupportsRRO = true ∧ ListsRRO env info (servingRuntime info name) := by
    simp only [rroOf_iff, ListsRRO]
    constructor
    · rintro ⟨_, hmem, hkernel, text, options, rfl, hoptions, hrro⟩
      exact ⟨hkernel, text, options, hmem, hoptions, hrro⟩
    · rintro ⟨hkernel, text, options, hmem, hoptions, hrro⟩
      exact ⟨_, hmem, hkernel, text, options, rfl, hoptions, hrro⟩
  rw [find?_sorted, handlersLoop_ok hloop, List.append_nil, List.find?_append, ← hlists, servingRuntime]
  by_cases hserves : name = [] ∧ info.defaultRuntime ∈ info.runtimes.map (·.1)
  · obtain ⟨rfl, hlisted⟩ := hserves
    obtain ⟨⟨d, features⟩, hmem, hd⟩ := List.mem_map.mp hlisted
    obtain rfl : d = info.defaultRuntime := hd
    have honly : ∀ features', (info.defaultRuntime, features') ∈ info.runtimes → features' = features := by
      intro features' hmem'
      have heq := (filter_default hmem' info.nodup).symm.trans (filter_default hmem info.nodup)
      exact (Prod.mk.inj (List.cons.inj heq).1).2
    rw [if_pos ⟨rfl, hlisted⟩, filter_default hmem info.nodup]
    constructor
    · intro hrro
      exact ⟨features, hmem, hrro⟩
    · rintro ⟨features', hmem', hrro⟩
      rw [honly features' hmem'] at hrro
      exact hrro
  · -- No handler in front has the name.
    have hfront : (((info.runtimes.filter (·.1 = info.defaultRuntime)).map fun rt =>
        (⟨[], rroOf env rt.2⟩ : Libdocker.RuntimeHandler)).reverse).find? (·.name = name) = none := by
      refine List.find?_eq_none.mpr fun h hh heq => hserves ?_
      obtain ⟨rt, hrt, rfl⟩ := List.mem_map.mp (List.mem_reverse.mp hh)
      obtain ⟨hlisted, hname⟩ := List.mem_filter.mp hrt
      exact ⟨(of_decide_eq_true heq).symm, List.mem_map.mpr ⟨rt, hlisted, of_decide_eq_true hname⟩⟩
    rw [if_neg hserves, ← any_named info.nodup, hfront, Option.none_or]

end

/-! ### Bindings -/

section
variable {m : Runtimeapi.Mount} {b : Libdocker.Mount} {mounts : List Runtimeapi.Mount} {binds : List Libdocker.Mount}
  {rroSupported : Bool} {handler : Option Libdocker.RuntimeHandler}

theorem mountBinding_ok (h : Libdocker.mountBinding rroSupported m = .ok b) : Bound m b ∧
    (m.recursiveReadOnly = true → rroSupported = true ∧ m.readonly = true ∧ m.propagation = .priv) := by
  unfold Libdocker.mountBinding at h
  dsimp only at h
  split at h
  · cases h
  · rename_i hsupported
    split at h
    · cases h
    · rename_i hprivate
      split at h
      · cases h
      · rename_i hreadonly
        cases h
        have hneeds : m.recursiveReadOnly = true → rroSupported = true ∧ m.readonly = true ∧ m.propagation = .priv := by
          intro hrro
          simp only [hrro, true_and, Bool.not_eq_true', Bool.not_eq_false, ne_eq, not_not] at hsupported hprivate hreadonly
          exact ⟨hsupported, hreadonly, hprivate⟩
        refine ⟨⟨rfl, rfl, rfl, ?_⟩, hneeds⟩
        cases hrro : m.recursiveReadOnly with
        | false => simp [recursivelyReadOnly]
        | true => simp [recursivelyReadOnly, (hneeds hrro).2.1]

theorem generateMountBindings_ok (h : Libdocker.generateMountBindings mounts handler = .ok binds) :
    List.Forall₂ Bound mounts binds ∧ ∀ m ∈ mounts, m.recursiveReadOnly = true →
      handler.any (·.recursiveReadOnlyMounts) = true ∧ m.readonly = true ∧ m.propagation = .priv := by
  unfold Libdocker.generateMountBindings at h
  generalize handler.any (·.recursiveReadOnlyMounts) = rroSupported at h ⊢
  induction mounts generalizing binds with
  | nil =>
    cases h
    exact ⟨.nil, fun m hm => absurd hm List.not_mem_nil⟩
  | cons m rest ih =>
    rw [List.mapM_cons] at h
    cases hm : Libdocker.mountBinding rroSupported m with
    | error err =>
      rw [hm] at h
      cases h
    | ok b =>
      cases hrest : rest.mapM (Libdocker.mountBinding rroSupported) with
      | error err =>
        rw [hm, hrest] at h
        cases h
      | ok bs =>
        rw [hm, hrest] at h
        cases h
        obtain ⟨hbound, hneeds⟩ := mountBinding_ok hm
        obtain ⟨hbounds, hall⟩ := ih hrest
        refine ⟨.cons hbound hbounds, ?_⟩
        rintro m' (_ | ⟨_, hm'⟩)
        · exact hneeds
        · exact hall m' hm'

end

/-! ### The config that is passed on -/

section
variable {env : CreateEnv} {info : Info} {runtime : Text}

theorem mountBindings_ok {rt : Text} {mounts : List Runtimeapi.Mount} {binds : List Libdocker.Mount}
    (hruntime : env.inspectContainer = .ok runtime)
    (hinfo : env.getDockerInfo = .ok info) (h : mountBindings env mounts = .ok (rt, binds)) :
    rt = runtime ∧ List.Forall₂ Bound mounts binds ∧ ∀ m ∈ mounts, m.recursiveReadOnly = true →
      Admissible env.rro info (servingRuntime info runtime) m := by
  simp only [mountBindings, hruntime, hinfo] at h
  cases hhandlers : getRuntimeHandlers env.rro info with
  | error err =>
    rw [hhandlers] at h
    cases h
  | ok handlers =>
    rw [hhandlers] at h
    dsimp only at h
    cases hbinds : Libdocker.generateMountBindings mounts (handlers.find? fun h => h.name = runtime) with
    | error err =>
      rw [hbinds] at h
      cases h
    | ok made =>
      rw [hbinds] at h
      cases h
      obtain ⟨hbound, hneeds⟩ := generateMountBindings_ok hbinds
      refine ⟨rfl, hbound, fun m hm hrro => ?_⟩
      obtain ⟨hsupported, hreadonly, hprivate⟩ := hneeds m hm hrro
      obtain ⟨hkernel, hlists⟩ := (supported_iff hhandlers runtime).mp hsupported
      exact ⟨hlists, hkernel, hreadonly, hprivate⟩

end

/-- The mounts that Docker gets are the requested ones, and a recursive read-only mount among them has all that it
    needs. With one that has not nothing is passed to Docker, and the call fails. -/
theorem createContainer_mounts {env : CreateEnv} {r : Runtimeapi.CreateContainerRequest} {config : Runtimeapi.ContainerConfig}
    {info : Info} {runtime : Text} (hconfig : r.config = some config) (hruntime : env.inspectContainer = .ok runtime)
    (hinfo : env.getDockerInfo = .ok info) :
    (∀ createConfig ∈ (createContainer env r).2, List.Forall₂ Bound config.mounts createConfig.hostConfig.mounts ∧
      ∀ m ∈ config.mounts, m.recursiveReadOnly = true → Admissible env.rro info (servingRuntime info runtime) m) ∧
    ((∃ m ∈ config.mounts, m.recursiveReadOnly = true ∧ ¬Admissible env.rro info (servingRuntime info runtime) m) →
      (createContainer env r).2 = [] ∧ ∀ id, (createContainer env r).1 ≠ .ok id) := by
  rcases createContainer_cases env r with ⟨made, hmade, hpassed⟩ | ⟨hnone, hfailed⟩
  · obtain ⟨sandboxConfig, containerName, rt, mounts, hmounts, hkept⟩ := containerCreateConfig_kept hconfig hmade
    obtain ⟨-, hbound, hadmissible⟩ := mountBindings_ok hruntime hinfo hmounts
    constructor
    · intro createConfig hmem
      rw [(hpassed createConfig hmem).hostConfig, hkept.mounts]
      exact ⟨hbound, hadmissible⟩
    · rintro ⟨m, hm, hrro, hnot⟩
      exact absurd (hadmissible m hm hrro) hnot
  · constructor
    · intro createConfig hmem
      rw [hnone] at hmem
      cases hmem
    · intro _
      exact ⟨hnone, hfailed⟩

/-! ### A sandbox and a recursive read-only mount -/

def rroMount : Runtimeapi.Mount where
  containerPath := "/data"
  hostPath := "/srv/data"
  readonly := true
  selinuxRelabel := false
  propagation := .priv
  recursiveReadOnly := true

def rroContainer : Runtimeapi.ContainerConfig where
  metadata := some { name := "web", attempt := 0 }
  image := some "web"
  command := []
  args := []
  workingDir := []
  envs := []
  mounts := [rroMount]
  devices := []
  cdiDevices := []
  labels := []
  annotations := []
  logPath := []
  stdin := false
  stdinOnce := false
  tty := false
  linux := none

def podOfContainer : Runtimeapi.PodSandboxConfig where
  metadata := some { name := "p", uid := "u", namespace_ := "ns", attempt := 0 }
  hostname := []
  logDirectory := []
  dnsConfig := none
  portMappings := []
  labels := []
  annotations := []
  linux := none

def rroRequest : Runtimeapi.CreateContainerRequest where
  podSandboxId := "c1"
  config := some rroContainer
  sandboxConfig := some podOfContainer

/-- A sandbox with the default runtime, which has this name, while Docker reports one runtime, which lists `rro`. -/
def oneRuntime (reported default : Text) : Info where
  runtimes := [(reported, some "features")]
  defaultRuntime := default
  nodup := List.nodup_singleton _

/-- Nothing fails. -/
def createEnv (info : Info) : CreateEnv where
  getDockerAPIVersion := none
  inspectContainer := .ok []
  getDockerInfo := .ok info
  rro := { kernelSupportsRRO := true, mountOptions := fun _ => .ok ["rro"] }
  initLabels _ := .ok []
  relabel _ _ := none
  cgroupDriver := "systemd"
  seccomp := { readFile := .ok, unmarshal := fun _ => .ok { defaultAction := [] }, marshal := fun _ => .ok [], compact := .ok }
  createContainer := .ok "k1"
  removeConflicting := none
  random := 0
  createContainerAgain := .ok []

/-- The default runtime is the one that Docker reports. -/
theorem createContainer_mounts_runc :
    ∃ createConfig, (createContainer (createEnv (oneRuntime "runc" "runc")) rroRequest).2 = [createConfig] ∧
      List.Forall₂ Bound [rroMount] createConfig.hostConfig.mounts ∧
      Admissible (createEnv (oneRuntime "runc" "runc")).rro (oneRuntime "runc" "runc")
        "runc" rroMount := by
  have hpassed : ∃ createConfig,
      (createContainer (createEnv (oneRuntime "runc" "runc")) rroRequest).2 = [createConfig] := ⟨_, rfl⟩
  obtain ⟨createConfig, hone⟩ := hpassed
  have hmounts := (@createContainer_mounts (createEnv (oneRuntime "runc" "runc")) rroRequest rroContainer
    (oneRuntime "runc" "runc") [] rfl rfl rfl).1 createConfig (by rw [hone]; exact List.mem_cons_self)
  exact ⟨createConfig, hone, hmounts.1, hmounts.2 rroMount List.mem_cons_self rfl⟩

/-- Docker reports a runtime without a name and not the default one: the mount is passed on for the sandbox with the
    default runtime, for which no features are reported. -/
theorem createContainer_mounts_unreported :
    (∃ createConfig, (createContainer (createEnv (oneRuntime [] "runc")) rroRequest).2 = [createConfig] ∧
      createConfig.hostConfig.mounts.map recursivelyReadOnly = [true]) ∧
    ¬ListsRRO (createEnv (oneRuntime [] "runc")).rro (oneRuntime [] "runc") "runc" := by
  refine ⟨⟨_, rfl, rfl⟩, ?_⟩
  rintro ⟨features, options, hmem, -, -⟩
  have hname := (Prod.mk.inj (List.mem_singleton.mp hmem)).1
  cases hname

end CriDockerd.Core.Requests
