import CriDockerd.Kubenet.Plugin

/-! What is left of a pod after TearDownPod of kubenet has returned nil. The plugin forgets the addresses of a
    pod with the first tear down, whatever became of the hostports, and a tear down without addresses drops
    its errors; so a tear down that fails must not leave anything for the next one to do. -/

namespace CriDockerd.Kubenet
open Text NetIP Hostport

variable {s t u : State} {id id' namespace_ name ip : Text} {portMappings : List PortMapping} {iplist : List Text}

def Call.pod : Call → Text
  | .setUpPod _ _ _ id => id
  | .tearDownPod _ _ _ _ id => id

/-- How far a set up comes: it fails before the addresses are known, or between them and the hostports, or
    it ends with the hostports. -/
theorem setup_cases (env : SetUpEnv) (namespace_ name id : Text) (s : State) :
    (∃ err, setup env namespace_ name id s = (some err, s)) ∨
    ∃ ipv4 ipv6, (∃ err, setup env namespace_ name id s = (some err, cacheIPs id ipv4 ipv6 s)) ∨
      setup env namespace_ name id s = addPortMapping env namespace_ name id (cacheIPs id ipv4 ipv6 s) := by
  unfold setup
  split
  · exact Or.inl ⟨_, rfl⟩
  split
  · exact Or.inl ⟨_, rfl⟩
  split
  · exact Or.inl ⟨_, rfl⟩
  dsimp only
  split
  · exact Or.inl ⟨_, rfl⟩
  split
  · exact Or.inl ⟨_, rfl⟩
  split
  · exact Or.inr ⟨_, _, Or.inl ⟨_, rfl⟩⟩
  · exact Or.inr ⟨_, _, Or.inr rfl⟩

/-- A mapping that the manager of the family takes. -/
def Installed.eligible (x : Installed) : Prop :=
  0 < x.mapping.hostPort ∧ (x.mapping.hostIP = [] ∨ isIPv6String x.mapping.hostIP = x.v6)

/-! ### Other pods -/

/-- Nothing has changed for a pod. -/
structure SamePod (id : Text) (s t : State) : Prop where
  podIPs : t.podIPs id = s.podIPs id
  hostports : ∀ x : Installed, x.id = id → (x ∈ t.hostports ↔ x ∈ s.hostports)

namespace SamePod

theorem refl (id : Text) (s : State) : SamePod id s s := ⟨rfl, fun _ _ => Iff.rfl⟩

theorem trans (h₁ : SamePod id s t) (h₂ : SamePod id t u) : SamePod id s u :=
  ⟨h₂.podIPs.trans h₁.podIPs, fun x hx => (h₂.hostports x hx).trans (h₁.hostports x hx)⟩

theorem addPodIP (h : id ≠ id') (ip : Text) (s : State) : SamePod id s (s.addPodIP id' ip) :=
  ⟨Function.update_of_ne h _ _, fun _ _ => Iff.rfl⟩

theorem removePodIP (h : id ≠ id') (ip : Text) (s : State) : SamePod id s (s.removePodIP id' ip) := by
  unfold State.removePodIP
  split
  · exact refl id s
  · exact ⟨Function.update_of_ne h _ _, fun _ _ => Iff.rfl⟩

theorem install (h : id ≠ id') (v6 : Bool) (mappings : List PortMapping) (s : State) :
    SamePod id s (s.install id' v6 mappings) where
  podIPs := rfl
  hostports x hx := by
    have hnot : x ∉ mappings.map (⟨id', v6, ·⟩) := by
      intro hmem
      obtain ⟨pm, -, rfl⟩ := List.mem_map.mp hmem
      exact h hx.symm
    simp only [State.install, List.mem_append, hnot, or_false]

theorem uninstall (h : id ≠ id') (v6 : Bool) (mappings : List PortMapping) (s : State) :
    SamePod id s (s.uninstall id' v6 mappings) where
  podIPs := rfl
  hostports x hx := by
    have hne : x.id ≠ id' := hx ▸ h
    simp [State.uninstall, hne]

theorem removeHostports (h : id ≠ id') (env : TearDownEnv) (s : State) :
    SamePod id s (removeHostports env namespace_ name id' portMappings ip s).2 := by
  unfold Kubenet.removeHostports
  split
  · exact refl id s
  · split
    · exact refl id s
    · exact uninstall h _ _ s

theorem tearDownIPs (h : id ≠ id') (env : TearDownEnv) (errList : List (Option GoError)) (s : State) :
    SamePod id s (tearDownIPs env namespace_ name id' portMappings iplist errList s).2 := by
  induction iplist generalizing errList s with
  | nil => exact refl id s
  | cons ip rest ih => exact ((removeHostports h env s).trans (removePodIP h ip _)).trans (ih _ _)

theorem teardown (h : id ≠ id') (env : TearDownEnv) (s : State) : SamePod id s (teardown env namespace_ name id' s).2 := by
  unfold Kubenet.teardown
  split
  · exact refl id s
  · exact refl id s
  · split
    · exact tearDownIPs h env _ s
    · exact tearDownIPs h env _ s

theorem addHostports (h : id ≠ id') (env : SetUpEnv) (s : State) :
    SamePod id s (addHostports env namespace_ name id' portMappings ip s).2 := by
  unfold Kubenet.addHostports
  split
  · exact refl id s
  · split
    · exact refl id s
    · exact install h _ _ s

theorem addAll (h : id ≠ id') (env : SetUpEnv) (s : State) :
    SamePod id s (addAll env namespace_ name id' portMappings iplist s).2 := by
  induction iplist generalizing s with
  | nil => exact refl id s
  | cons ip rest ih =>
    have hfirst : SamePod id s (Kubenet.addHostports env namespace_ name id' portMappings ip s).2 := addHostports h env s
    rw [Kubenet.addAll]
    split
    · rename_i err u heq
      rw [heq] at hfirst
      exact hfirst
    · rename_i u heq
      rw [heq] at hfirst
      exact hfirst.trans (ih u)

theorem addPortMapping (h : id ≠ id') (env : SetUpEnv) (s : State) :
    SamePod id s (addPortMapping env namespace_ name id' s).2 := by
  unfold Kubenet.addPortMapping
  split
  · exact refl id s
  · split
    · exact refl id s
    · split
      · exact refl id s
      · exact addAll h env s

theorem cacheIPs (h : id ≠ id') (ipv4 ipv6 : Option IP) (s : State) : SamePod id s (cacheIPs id' ipv4 ipv6 s) := by
  unfold Kubenet.cacheIPs
  cases ipv4 with
  | none =>
    cases ipv6 with
    | none => exact refl id s
    | some ip => exact addPodIP h _ s
  | some ip =>
    cases ipv6 with
    | none => exact addPodIP h _ s
    | some ip' => exact (addPodIP h _ s).trans (addPodIP h _ _)

theorem setUpPod (h : id ≠ id') (env : SetUpEnv) (s : State) : SamePod id s (setUpPod env namespace_ name id' s).2 := by
  unfold Kubenet.setUpPod
  split
  · exact refl id s
  have hsetup : SamePod id s (setup env namespace_ name id' s).2 := by
    rcases setup_cases env namespace_ name id' s with ⟨err, heq⟩ | ⟨ipv4, ipv6, ⟨err, heq⟩ | heq⟩
    · rw [heq]
      exact refl id s
    · rw [heq]
      exact cacheIPs h ipv4 ipv6 s
    · rw [heq]
      exact (cacheIPs h ipv4 ipv6 s).trans (addPortMapping h env _)
  split
  · rename_i err u heq
    rw [heq] at hsetup
    exact hsetup.trans (teardown h env.cleanup u)
  · rename_i u heq
    rw [heq] at hsetup
    exact hsetup

theorem call (h : id ≠ id') (c : Call) (hc : c.pod = id') (s : State) : SamePod id s (c.run s) := by
  subst hc
  cases c with
  | setUpPod env namespace_ name id' => exact setUpPod h env s
  | tearDownPod netConfig env namespace_ name id' =>
    rw [Call.run, Kubenet.tearDownPod]
    split
    · exact refl id s
    · exact teardown h env s

end SamePod

/-! ### The pod itself -/

/-- No hostport of the pod is left. -/
def Clean (id : Text) (s : State) : Prop := ∀ x ∈ s.hostports, x.id ≠ id

/-- The hostports of a pod are of a family of which the plugin remembers an address. -/
def Covered (id : Text) (s : State) : Prop :=
  ∀ x ∈ s.hostports, x.id = id → x.eligible ∧ ∃ ips, s.podIPs id = some ips ∧ ∃ ip ∈ ips, isIPv6String ip = x.v6

/-- The mappings of a pod's hostports are among these. -/
def Listed (id : Text) (known : List PortMapping) (s : State) : Prop := ∀ x ∈ s.hostports, x.id = id → x.mapping ∈ known

theorem Clean.covered (h : Clean id s) : Covered id s := fun x hx hid => absurd hid (h x hx)

theorem Covered.of_same (h : Covered id s) (hsame : SamePod id s t) : Covered id t := by
  intro x hx hid
  rw [hsame.podIPs]
  exact h x ((hsame.hostports x hid).mp hx) hid

theorem Covered.clean (h : Covered id s) (hnone : (s.podIPs id).getD [] = []) : Clean id s := by
  intro x hx hid
  obtain ⟨-, ips, hips, ip, hip, -⟩ := h x hx hid
  rw [hips, Option.getD_some] at hnone
  rw [hnone] at hip
  cases hip

theorem mem_gather {x : Installed} {addr : IP} :
    x.mapping ∈ gatherHostportMappings (podPortMapping namespace_ name portMappings addr) x.v6 ↔
      x.mapping ∈ portMappings ∧ x.eligible := by
  simp [gatherHostportMappings, podPortMapping, Installed.eligible]

/-! ### Set up -/

theorem Covered.addPodIP (h : Covered id s) (ip : Text) : Covered id (s.addPodIP id ip) := by
  intro x hx hid
  obtain ⟨helig, ips, hips, ip', hip', hfamily⟩ := h x hx hid
  refine ⟨helig, _, Function.update_self _ _ _, ip', ?_, hfamily⟩
  rw [hips, Option.getD_some]
  split
  · exact hip'
  · exact List.mem_cons_of_mem _ hip'

theorem cacheIPs_covered (h : Covered id s) (ipv4 ipv6 : Option IP) : Covered id (cacheIPs id ipv4 ipv6 s) := by
  unfold cacheIPs
  cases ipv4 with
  | none =>
    cases ipv6 with
    | none => exact h
    | some ip => exact h.addPodIP _
  | some ip =>
    cases ipv6 with
    | none => exact h.addPodIP _
    | some ip' => exact (h.addPodIP _).addPodIP _

theorem cacheIPs_hostports (id : Text) (ipv4 ipv6 : Option IP) (s : State) : (cacheIPs id ipv4 ipv6 s).hostports = s.hostports := by
  unfold cacheIPs
  cases ipv4 <;> cases ipv6 <;> rfl

theorem addHostports_covered {env : SetUpEnv} {known : List PortMapping} {ips : List Text} (h : Covered id s)
    (hlisted : Listed id known s) (hknown : portMappings ⊆ known) (hips : s.podIPs id = some ips) (hip : ip ∈ ips)
    {err : Option GoError} (heq : addHostports env namespace_ name id portMappings ip s = (err, t)) :
    Covered id t ∧ Listed id known t ∧ t.podIPs id = some ips := by
  unfold addHostports at heq
  split at heq
  · cases heq
    exact ⟨h, hlisted, hips⟩
  · rename_i addr haddr
    split at heq
    · cases heq
      exact ⟨h, hlisted, hips⟩
    · cases heq
      have hfamily : isIPv6String ip = isIPv6 addr := by
        rw [isIPv6String, parseIPSloppy_of_parseIP haddr, Option.any_some]
      -- A hostport is an old one or comes from the mappings of this call.
      have hcases : ∀ x ∈ (s.install id (isIPv6 addr)
          (gatherHostportMappings (podPortMapping namespace_ name portMappings addr) (isIPv6 addr))).hostports,
          x ∈ s.hostports ∨ x.v6 = isIPv6 addr ∧ x.mapping ∈ portMappings ∧ x.eligible := by
        intro x hx
        rcases List.mem_append.mp hx with hx | hx
        · exact Or.inl hx
        · obtain ⟨pm, hpm, rfl⟩ := List.mem_map.mp hx
          exact Or.inr ⟨rfl, mem_gather.mp hpm⟩
      refine ⟨fun x hx hid => ?_, fun x hx hid => ?_, hips⟩
      · rcases hcases x hx with hx | ⟨hv6, -, helig⟩
        · exact h x hx hid
        · exact ⟨helig, ips, hips, ip, hip, hfamily.trans hv6.symm⟩
      · rcases hcases x hx with hx | ⟨-, hmapping, -⟩
        · exact hlisted x hx hid
        · exact hknown hmapping

theorem addAll_covered {env : SetUpEnv} {known : List PortMapping} {ips : List Text} (hknown : portMappings ⊆ known) :
    ∀ {iplist : List Text} {s t : State} {err : Option GoError}, Covered id s → Listed id known s →
      s.podIPs id = some ips → iplist ⊆ ips → addAll env namespace_ name id portMappings iplist s = (err, t) →
      Covered id t ∧ Listed id known t
  | [], s, t, err, h, hlisted, hips, hsub, heq => by
    cases heq
    exact ⟨h, hlisted⟩
  | ip :: rest, s, t, err, h, hlisted, hips, hsub, heq => by
    rw [addAll] at heq
    split at heq
    · rename_i err' u hfirst
      cases heq
      obtain ⟨hcovered, hlisted', -⟩ := addHostports_covered h hlisted hknown hips (hsub List.mem_cons_self) hfirst
      exact ⟨hcovered, hlisted'⟩
    · rename_i u hfirst
      obtain ⟨hcovered, hlisted', hips'⟩ := addHostports_covered h hlisted hknown hips (hsub List.mem_cons_self) hfirst
      exact addAll_covered hknown hcovered hlisted' hips' (fun x hx => hsub (List.mem_cons_of_mem _ hx)) heq

/-- The mappings that the lookup of a set up tells. -/
def SetUpEnv.mappings (env : SetUpEnv) : List PortMapping :=
  match env.getPodPortMappings with
  | .ok portMappings => portMappings
  | .error _ => []

theorem addPortMapping_covered {env : SetUpEnv} {known : List PortMapping} (h : Covered id s) (hlisted : Listed id known s)
    (hknown : env.mappings ⊆ known) {err : Option GoError} (heq : addPortMapping env namespace_ name id s = (err, t)) :
    Covered id t ∧ Listed id known t := by
  unfold addPortMapping at heq
  split at heq
  · cases heq
    exact ⟨h, hlisted⟩
  · rename_i portMappings hlookup
    have hmappings : portMappings ⊆ known := by
      rwa [SetUpEnv.mappings, hlookup] at hknown
    split at heq
    · cases heq
      exact ⟨h, hlisted⟩
    · split at heq
      · cases heq
        exact ⟨h, hlisted⟩
      · rename_i iplist hcached
        obtain ⟨ips, hips, rfl⟩ := Option.map_eq_some_iff.mp hcached
        exact addAll_covered hmappings h hlisted hips (env.order.perm ips).subset heq

theorem setup_covered {env : SetUpEnv} {known : List PortMapping} (h : Covered id s) (hlisted : Listed id known s)
    (hknown : env.mappings ⊆ known) {err : Option GoError} (heq : setup env namespace_ name id s = (err, t)) :
    Covered id t ∧ Listed id known t := by
  have hcached : ∀ ipv4 ipv6, Covered id (cacheIPs id ipv4 ipv6 s) ∧ Listed id known (cacheIPs id ipv4 ipv6 s) := by
    intro ipv4 ipv6
    refine ⟨cacheIPs_covered h ipv4 ipv6, fun x hx => hlisted x ?_⟩
    rwa [cacheIPs_hostports] at hx
  rcases setup_cases env namespace_ name id s with ⟨err', hsetup⟩ | ⟨ipv4, ipv6, ⟨err', hsetup⟩ | hsetup⟩
  · rw [hsetup] at heq
    cases heq
    exact ⟨h, hlisted⟩
  · rw [hsetup] at heq
    cases heq
    exact hcached ipv4 ipv6
  · rw [hsetup] at heq
    exact addPortMapping_covered (hcached ipv4 ipv6).1 (hcached ipv4 ipv6).2 hknown heq

/-! ### Tear down -/

theorem removePodIP_hostports (id ip : Text) (s : State) : (s.removePodIP id ip).hostports = s.hostports := by
  unfold State.removePodIP
  split <;> rfl

theorem removeHostports_subset {env : TearDownEnv} (x : Installed)
    (hx : x ∈ (removeHostports env namespace_ name id portMappings ip s).2.hostports) : x ∈ s.hostports := by
  unfold removeHostports at hx
  split at hx
  · exact hx
  · split at hx
    · exact hx
    · exact List.mem_of_mem_filter hx

theorem tearDownIPs_subset {env : TearDownEnv} {errList : List (Option GoError)} (x : Installed)
    (hx : x ∈ (tearDownIPs env namespace_ name id portMappings iplist errList s).2.hostports) : x ∈ s.hostports := by
  induction iplist generalizing errList s with
  | nil => exact hx
  | cons ip rest ih =>
    have hrest := ih hx
    rw [removePodIP_hostports] at hrest
    exact removeHostports_subset x hrest

theorem removeHostports_gone {env : TearDownEnv} {x : Installed} (hid : x.id = id) (helig : x.eligible)
    (hmapping : x.mapping ∈ portMappings) (hfamily : isIPv6String ip = x.v6) (hremove : env.remove ip = none) :
    x ∉ (removeHostports env namespace_ name id portMappings ip s).2.hostports := by
  rw [removeHostports, if_neg (List.ne_nil_of_mem hmapping), hremove]
  intro hx
  have hkept := List.of_mem_filter hx
  rw [Bool.not_eq_true', decide_eq_false_iff_not] at hkept
  rw [hfamily] at hkept
  exact hkept ⟨hid, rfl, mem_gather.mpr ⟨hmapping, helig⟩⟩

theorem tearDownIPs_gone {env : TearDownEnv} {x : Installed} (hid : x.id = id) (helig : x.eligible)
    (hmapping : x.mapping ∈ portMappings) (hremove : ∀ ip, env.remove ip = none) :
    ∀ {iplist : List Text} {errList : List (Option GoError)} {s : State}, (∃ ip ∈ iplist, isIPv6String ip = x.v6) →
      x ∉ (tearDownIPs env namespace_ name id portMappings iplist errList s).2.hostports
  | [], _, _, h => by
    obtain ⟨ip, hip, -⟩ := h
    cases hip
  | ip :: rest, errList, s, h => by
    intro hx
    obtain ⟨ip', hip', hfamily⟩ := h
    rcases List.mem_cons.mp hip' with rfl | hip'
    · have hrest : x ∈ ((removeHostports env namespace_ name id portMappings ip' s).2.removePodIP id ip').hostports :=
        tearDownIPs_subset x hx
      rw [removePodIP_hostports] at hrest
      exact removeHostports_gone hid helig hmapping hfamily (hremove ip') hrest
    · exact tearDownIPs_gone hid helig hmapping hremove ⟨ip', hip', hfamily⟩ hx

theorem tearDownIPs_errList {env : TearDownEnv} {errList : List (Option GoError)} {e : Option GoError} (he : e ∈ errList) :
    e ∈ (tearDownIPs env namespace_ name id portMappings iplist errList s).1 := by
  induction iplist generalizing errList s with
  | nil => exact he
  | cons ip rest ih => exact ih (List.mem_append_left _ he)

theorem teardown_of_no_ips {env : TearDownEnv} (h : (s.podIPs id).getD [] = []) :
    teardown env namespace_ name id s = (none, s) := by
  unfold teardown
  split
  · rfl
  · rfl
  · rename_i iplist hne hcached
    obtain ⟨ips, hips, rfl⟩ := Option.map_eq_some_iff.mp hcached
    rw [hips, Option.getD_some] at h
    subst h
    exact absurd (List.perm_nil.mp (env.order.perm [])) hne

theorem teardown_of_ips {env : TearDownEnv} (h : (s.podIPs id).getD [] ≠ [])
    (hlookup : env.getPodPortMappings = .ok portMappings) :
    ∃ ips, s.podIPs id = some ips ∧
      (teardown env namespace_ name id s).1 = newAggregate (tearDownIPs env namespace_ name id portMappings
        (env.order.list ips) [delContainerFromNetwork env.delLoopback, delContainerFromNetwork env.delInterface] s).1 ∧
      (teardown env namespace_ name id s).2 = (tearDownIPs env namespace_ name id portMappings
        (env.order.list ips) [delContainerFromNetwork env.delLoopback, delContainerFromNetwork env.delInterface] s).2 := by
  unfold teardown
  split
  · rename_i hcached
    rw [Option.map_eq_none_iff.mp hcached] at h
    exact absurd rfl h
  · rename_i hcached
    obtain ⟨ips, hips, hlist⟩ := Option.map_eq_some_iff.mp hcached
    rw [hips, Option.getD_some] at h
    exact absurd (List.perm_nil.mp (hlist ▸ (env.order.perm ips).symm)) h
  · rename_i hcached
    obtain ⟨ips, hips, rfl⟩ := Option.map_eq_some_iff.mp hcached
    rw [hlookup]
    exact ⟨ips, hips, rfl, rfl⟩

theorem teardown_clean {env : TearDownEnv} (h : Covered id s) (hlisted : Listed id portMappings s)
    (hlookup : env.getPodPortMappings = .ok portMappings) (hremove : ∀ ip, env.remove ip = none) :
    Clean id (teardown env namespace_ name id s).2 := by
  by_cases hcached : (s.podIPs id).getD [] = []
  · rw [teardown_of_no_ips hcached]
    exact h.clean hcached
  · obtain ⟨ips, hips, -, hstate⟩ := teardown_of_ips hcached hlookup
    rw [hstate]
    intro x hx hid
    have hold := tearDownIPs_subset x hx
    obtain ⟨helig, ips', hips', ip, hip, hfamily⟩ := h x hold hid
    rw [hips] at hips'
    cases hips'
    exact tearDownIPs_gone hid helig (hlisted x hold hid) hremove
      ⟨ip, (env.order.perm ips).symm.subset hip, hfamily⟩ hx

/-! ### Runs -/

/-- CNI DEL for the pod's interface has succeeded, or has found nothing to delete. -/
def TearDownEnv.InterfaceDeleted (env : TearDownEnv) : Prop :=
  ∀ err, env.delInterface = some err → contains err.error "no such file or directory" = true

theorem delContainerFromNetwork_eq_none {env : TearDownEnv} :
    delContainerFromNetwork env.delInterface = none ↔ env.InterfaceDeleted := by
  unfold delContainerFromNetwork TearDownEnv.InterfaceDeleted
  cases env.delInterface with
  | none => exact ⟨fun _ err h => (nomatch h), fun _ => rfl⟩
  | some err =>
    dsimp only
    split
    · rename_i hgone
      refine ⟨fun _ err' h => ?_, fun _ => rfl⟩
      cases h
      exact hgone
    · rename_i hgone
      exact ⟨fun h => (nomatch h), fun h => absurd (h err rfl) hgone⟩

/-- The lookup of a tear down tells the mappings that are installed for the pod and these, and no removal
    fails. -/
def TearDownEnv.Removes (env : TearDownEnv) (id : Text) (s : State) (more : List PortMapping) : Prop :=
  (∃ portMappings, env.getPodPortMappings = .ok portMappings ∧ Listed id portMappings s ∧ more ⊆ portMappings) ∧
    ∀ ip, env.remove ip = none

/-- A tear down of the pod leaves nothing to do for the next one: with addresses its lookup and its
    removals succeed, without them CNI DEL does. -/
def Call.Clears (id : Text) (s : State) : Call → Prop
  | .setUpPod env _ _ id' => id' = id → env.cleanup.Removes id s env.mappings
  | .tearDownPod _ env _ _ id' => id' = id →
      if (s.podIPs id).getD [] = [] then env.InterfaceDeleted else env.Removes id s []

theorem Call.covered {c : Call} (h : Covered id s) (hc : c.Clears id s) : Covered id (c.run s) := by
  by_cases hid : c.pod = id
  · cases c with
    | setUpPod env namespace_ name id' =>
      obtain rfl : id' = id := hid
      obtain ⟨⟨portMappings, hlookup, hlisted, hmore⟩, hremove⟩ := hc rfl
      rw [Call.run, Kubenet.setUpPod]
      split
      · exact h
      split
      · rename_i err u hsetup
        obtain ⟨hcovered, hlisted'⟩ := setup_covered h hlisted hmore hsetup
        exact (teardown_clean hcovered hlisted' hlookup hremove).covered
      · rename_i u hsetup
        exact (setup_covered h hlisted hmore hsetup).1
    | tearDownPod netConfig env namespace_ name id' =>
      obtain rfl : id' = id := hid
      have hcond := hc rfl
      rw [Call.run, Kubenet.tearDownPod]
      split
      · exact h
      split at hcond
      · rename_i hnone
        rw [teardown_of_no_ips hnone]
        exact h
      · obtain ⟨⟨portMappings, hlookup, hlisted, -⟩, hremove⟩ := hcond
        exact (teardown_clean h hlisted hlookup hremove).covered
  · exact h.of_same (SamePod.call (Ne.symm hid) c rfl s)

/-- In a run that starts without hostports of the pod, and in which every tear down of the pod leaves nothing
    to do for the next one, TearDownPod returns nil only after CNI DEL for the pod's interface, and with the
    pod's hostports removed. -/
theorem tearDownPod_nil_complete
    (hr : Reachable (fun s => ∃ hostports, s = State.initial hostports ∧ ∀ x ∈ hostports, x.id ≠ id)
      (fun s c => c.Clears id s) Call.run s)
    {netConfig : Bool} {env : TearDownEnv} (hcall : (Call.tearDownPod netConfig env namespace_ name id).Clears id s)
    (hnil : (tearDownPod netConfig env namespace_ name id s).1 = none) :
    env.InterfaceDeleted ∧ ∀ x ∈ (tearDownPod netConfig env namespace_ name id s).2.hostports, x.id ≠ id := by
  have hcovered : Covered id s := by
    refine Reachable.invariant (Covered id) ?_ (fun s c h hc => Call.covered h hc) hr
    rintro s ⟨hostports, rfl, hstart⟩
    exact Clean.covered hstart
  have hcond := hcall rfl
  rw [tearDownPod] at hnil ⊢
  split at hnil
  · cases hnil
  rename_i hconfig
  rw [if_neg hconfig]
  split at hcond
  · rename_i hnone
    rw [teardown_of_no_ips hnone]
    exact ⟨hcond, hcovered.clean hnone⟩
  · rename_i hsome
    obtain ⟨⟨portMappings, hlookup, hlisted, -⟩, hremove⟩ := hcond
    refine ⟨?_, teardown_clean hcovered hlisted hlookup hremove⟩
    -- The error of CNI DEL would be in the aggregate.
    obtain ⟨ips, -, herr, -⟩ := teardown_of_ips hsome hlookup
    rw [herr] at hnil
    rw [← delContainerFromNetwork_eq_none]
    exact newAggregate_eq_none.mp hnil _ (tearDownIPs_errList (List.mem_cons_of_mem _ List.mem_cons_self))

def webPort : PortMapping := { hostPort := 8080, containerPort := 80, protocol := "TCP", hostIP := [] }

def quietTearDown : TearDownEnv :=
  { delLoopback := none, delInterface := none, order := { list := fun ips => ips, perm := List.Perm.refl }
    getPodPortMappings := .ok [webPort], remove := fun _ => none }

def quietSetUp : SetUpEnv :=
  { status := none, addLoopback := none, addInterface := none, getResult := .ok (some [10, 180, 0, 2], none)
    setPromiscuous := none, addTrafficShaping := none, order := quietTearDown.order
    getPodPortMappings := .ok [webPort], add := fun _ => none, cleanup := quietTearDown }

def webSetUp : Call := .setUpPod quietSetUp "default" "web" "c1"

def webTearDown (env : TearDownEnv) : Call := .tearDownPod true env "default" "web" "c1"

def webState : State := webSetUp.run (State.initial [])

theorem webState_hostports : webState.hostports = [⟨"c1", false, webPort⟩] := by decide +kernel

theorem tearDownPod_nil_complete_web :
    quietTearDown.InterfaceDeleted ∧
      ∀ x ∈ (tearDownPod true quietTearDown "default" "web" "c1" webState).2.hostports,
        x.id ≠ "c1" := by
  have hset : webSetUp.Clears "c1" (State.initial []) :=
    fun _ => ⟨⟨[webPort], rfl, fun _ hx => absurd hx List.not_mem_nil, List.Subset.refl _⟩, fun _ => rfl⟩
  have hlisted : Listed "c1" [webPort] webState := by
    intro x hx _
    rw [webState_hostports, List.mem_singleton] at hx
    rw [hx]
    exact List.mem_singleton_self _
  have htear : (webTearDown quietTearDown).Clears "c1" webState := by
    intro _
    rw [if_neg (by decide +kernel)]
    exact ⟨⟨[webPort], rfl, hlisted, List.nil_subset _⟩, fun _ => rfl⟩
  have hnil : (tearDownPod true quietTearDown "default" "web" "c1" webState).1.isNone = true := by
    decide +kernel
  exact tearDownPod_nil_complete (.call (.start ⟨[], rfl, fun _ hx => absurd hx List.not_mem_nil⟩) hset) htear
    (Option.isNone_iff_eq_none.mp hnil)

/-- The hostport of the pod cannot be removed. -/
def stuckTearDown : TearDownEnv := { quietTearDown with remove := fun _ => some (.text "iptables-save failed") }

/-- CNI DEL for the pod's interface fails. -/
def failedDelTearDown : TearDownEnv := { quietTearDown with delInterface := some (.text "bridge plugin failed") }

/-- After a tear down that could not remove the hostport, the next one returns nil, with the hostport still
    there and although its CNI DEL has failed. -/
theorem tearDownPod_nil_after_failure :
    Reachable (fun s => ∃ hostports, s = State.initial hostports) (fun _ _ => True) Call.run
        ((webTearDown stuckTearDown).run webState) ∧
      (tearDownPod true failedDelTearDown "default" "web" "c1"
        ((webTearDown stuckTearDown).run webState)).1 = none ∧
      ¬ failedDelTearDown.InterfaceDeleted ∧
      ⟨"c1", false, webPort⟩ ∈ (tearDownPod true failedDelTearDown "default" "web" "c1"
        ((webTearDown stuckTearDown).run webState)).2.hostports := by
  have hend : (tearDownPod true failedDelTearDown "default" "web" "c1"
        ((webTearDown stuckTearDown).run webState)).1.isNone = true ∧
      ⟨"c1", false, webPort⟩ ∈ (tearDownPod true failedDelTearDown "default" "web" "c1"
        ((webTearDown stuckTearDown).run webState)).2.hostports := by
    decide +kernel
  obtain ⟨hnil, hleft⟩ := hend
  have hdel : ¬ failedDelTearDown.InterfaceDeleted := fun h => absurd (h _ rfl) (by decide +kernel)
  exact ⟨.call (.call (.start ⟨[], rfl⟩) trivial) trivial, Option.isNone_iff_eq_none.mp hnil, hdel, hleft⟩

end CriDockerd.Kubenet
