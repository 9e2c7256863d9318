import CriDockerd.Kubenet.NetworkStatus

/-! Whether the addresses that kubenet reports for a pod, and with them its primary IP, are the same at every call. The
    addresses are listed from a set, in any order; so they are not as soon as the pod has two of them. -/

namespace CriDockerd.Kubenet
open Text NetIP

section
variable (env : NetworkStatusEnv) (id : Text) (s : State)

def NetworkStatusEnv.podIPs : List Text :=
  match env.getNetNS, getPodIPs env.ipv6DualStackEnabled env.commands with
  | .ok (_ :: _), .ok ips => ips.map ipString
  | _, _ => []

/-- The addresses that the plugin remembers for a pod, or those in its namespace if it remembers none. -/
def addresses : List Text :=
  match s.podIPs id with
  | some (ip :: ips) => ip :: ips
  | _ => env.podIPs

/-- While the pod is unchanged, the result is the same in whatever order its addresses are listed, also at the next
    call. The first address is the primary IP, and IPv4 addresses come before IPv6 addresses. -/
structure Steady : Prop where
  same : ∀ order order', (getPodNetworkStatus env order id s).1 = (getPodNetworkStatus env order' id s).1
  again : ∀ order order',
    (getPodNetworkStatus env order' id (getPodNetworkStatus env order id s).2).1 = (getPodNetworkStatus env order id s).1
  primary : ∀ order status, (getPodNetworkStatus env order id s).1 = .ok (some status) → status.ips.head? = some status.ip
  sorted : ∀ order status, (getPodNetworkStatus env order id s).1 = .ok (some status) →
    status.ips.Pairwise fun a b => a.any isIPv6 = true → b.any isIPv6 = true

end

/-- No two of the texts stand for different addresses. -/
def OneAddress (ips : List Text) : Prop := ∀ a ∈ ips, ∀ b ∈ ips, parseIP a = parseIP b

variable {env : NetworkStatusEnv} {id : Text} {s t : State} {ips : List Text} {order order' : Listing}

/-! ### What a call gives -/

theorem getNetworkStatus_of_podIPs (h : s.podIPs id = some ips) (hne : ips ≠ []) :
    ∃ ip rest, (order.list ips).map parseIP = ip :: rest ∧ getNetworkStatus order id s = some { ip, ips := ip :: rest } := by
  have hlisted : (order.list ips).map parseIP ≠ [] := by
    intro hnil
    rw [List.map_eq_nil_iff] at hnil
    exact hne (List.perm_nil.mp (hnil ▸ (order.perm ips).symm))
  obtain ⟨ip, rest, hcons⟩ := List.exists_cons_of_ne_nil hlisted
  refine ⟨ip, rest, hcons, ?_⟩
  simp only [getNetworkStatus, State.getCachedPodIPs, h, Option.map_some, hcons]

theorem getNetworkStatus_of_empty (h : s.podIPs id = none ∨ s.podIPs id = some []) : getNetworkStatus order id s = none := by
  rcases h with h | h
  · simp only [getNetworkStatus, State.getCachedPodIPs, h, Option.map_none]
  · have hnil : order.list [] = [] := List.perm_nil.mp (order.perm [])
    simp only [getNetworkStatus, State.getCachedPodIPs, h, Option.map_some, hnil, List.map_nil]

theorem podIPs_addAll (found : List IP) (hne : found ≠ []) :
    ∃ set, (found.foldl (fun s ip => s.addPodIP id (ipString ip)) s).podIPs id = some set ∧ set ≠ [] ∧
      ∀ a, a ∈ set ↔ a ∈ (s.podIPs id).getD [] ∨ a ∈ found.map ipString := by
  have hadd : ∀ (ip : IP) (s : State), ∃ set, (s.addPodIP id (ipString ip)).podIPs id = some set ∧
      ∀ a, a ∈ set ↔ a ∈ (s.podIPs id).getD [] ∨ a = ipString ip := by
    intro ip s
    refine ⟨_, Function.update_self _ _ _, fun a => ?_⟩
    split
    · rename_i hmem
      exact ⟨Or.inl, fun h => h.elim (fun h => h) fun h => h ▸ hmem⟩
    · rw [List.mem_cons, or_comm]
  induction found generalizing s with
  | nil => exact absurd rfl hne
  | cons ip rest ih =>
    obtain ⟨first, hfirst, hmem⟩ := hadd ip s
    rw [List.foldl_cons]
    by_cases hrest : rest = []
    · subst hrest
      refine ⟨first, hfirst, List.ne_nil_of_mem ((hmem _).mpr (Or.inr rfl)), fun a => ?_⟩
      rw [hmem, List.map_singleton, List.mem_singleton]
    · obtain ⟨set, hset, hsetne, hset'⟩ := @ih (s.addPodIP id (ipString ip)) hrest
      refine ⟨set, hset, hsetne, fun a => ?_⟩
      rw [hset', hfirst, Option.getD_some, hmem, List.map_cons, List.mem_cons, or_assoc]

theorem getPodIPs_ne_nil {dualStack : Bool} {commands : AddrType → CommandOutput} {found : List IP}
    (h : getPodIPs dualStack commands = .ok found) : found ≠ [] := by
  unfold getPodIPs at h
  split at h <;> cases h <;> exact List.cons_ne_nil _ _

/-- A call fails and changes nothing, or it gives what is listed from a set with the addresses of the pod, which is
    then what the plugin remembers. -/
theorem getPodNetworkStatus_cases (env : NetworkStatusEnv) (id : Text) (s : State) :
    (addresses env id s = [] ∧ ∃ err, ∀ order, getPodNetworkStatus env order id s = (.error err, s)) ∨
    ∃ set t, set ≠ [] ∧ (∀ a, a ∈ set ↔ a ∈ addresses env id s) ∧ t.podIPs id = some set ∧
      ∀ order, getPodNetworkStatus env order id s = (.ok (getNetworkStatus order id t), t) := by
  by_cases hcached : s.podIPs id = none ∨ s.podIPs id = some []
  · have hnone : ∀ order, getNetworkStatus order id s = none := fun order => getNetworkStatus_of_empty hcached
    have haddresses : addresses env id s = env.podIPs := by
      rcases hcached with h | h <;> simp only [addresses, h]
    cases hns : env.getNetNS with
    | error err =>
      refine Or.inl ⟨by simp only [haddresses, NetworkStatusEnv.podIPs, hns], ?_⟩
      simp only [getPodNetworkStatus, hnone, hns]
      exact ⟨_, fun _ => rfl⟩
    | ok netnsPath =>
      cases netnsPath with
      | nil =>
        refine Or.inl ⟨by simp only [haddresses, NetworkStatusEnv.podIPs, hns], ?_⟩
        simp only [getPodNetworkStatus, hnone, hns, if_true]
        exact ⟨_, fun _ => rfl⟩
      | cons c path =>
        cases hips : getPodIPs env.ipv6DualStackEnabled env.commands with
        | error err =>
          refine Or.inl ⟨by simp only [haddresses, NetworkStatusEnv.podIPs, hns, hips], err, fun order => ?_⟩
          simp only [getPodNetworkStatus, hnone, hns, hips, reduceCtorEq, if_false]
        | ok found =>
          obtain ⟨set, hset, hne, hmem⟩ := @podIPs_addAll id s found (getPodIPs_ne_nil hips)
          refine Or.inr ⟨set, _, hne, fun a => ?_, hset, fun order => ?_⟩
          · have hempty : (s.podIPs id).getD [] = [] := by rcases hcached with h | h <;> rw [h] <;> rfl
            simp only [hmem, hempty, haddresses, NetworkStatusEnv.podIPs, hns, hips, List.not_mem_nil, false_or]
          · simp only [getPodNetworkStatus, hnone, hns, hips, reduceCtorEq, if_false]
  · rw [not_or] at hcached
    obtain ⟨ips, hips⟩ := Option.ne_none_iff_exists'.mp hcached.1
    have hne : ips ≠ [] := fun hnil => hcached.2 (hnil ▸ hips)
    refine Or.inr ⟨ips, s, hne, fun a => ?_, hips, fun order => ?_⟩
    · obtain ⟨ip, rest, rfl⟩ := List.exists_cons_of_ne_nil hne
      simp only [addresses, hips]
    · obtain ⟨ip, rest, -, hstatus⟩ := @getNetworkStatus_of_podIPs id s ips order hips hne
      simp only [getPodNetworkStatus, hstatus]

/-! ### The order of a set -/

/-- A set listed with a given address first. -/
def Listing.first (a : Text) : Listing where
  list ips := if a ∈ ips then a :: ips.erase a else ips
  perm ips := by
    split
    · rename_i hmem
      exact (List.perm_cons_erase hmem).symm
    · exact List.Perm.refl ips

theorem getNetworkStatus_first {a : Text} (h : s.podIPs id = some ips) (ha : a ∈ ips) :
    ∃ rest, getNetworkStatus (Listing.first a) id s = some { ip := parseIP a, ips := parseIP a :: rest } := by
  have hlist : (Listing.first a).list ips = a :: ips.erase a := if_pos ha
  obtain ⟨ip, rest, hcons, hstatus⟩ := @getNetworkStatus_of_podIPs id s ips (Listing.first a) h (List.ne_nil_of_mem ha)
  rw [hlist, List.map_cons] at hcons
  cases hcons
  exact ⟨_, hstatus⟩

theorem OneAddress.getNetworkStatus (h : OneAddress ips) (hips : s.podIPs id = some ips) {a : Text} (ha : a ∈ ips)
    (order : Listing) :
    getNetworkStatus order id s = some { ip := parseIP a, ips := List.replicate ips.length (parseIP a) } := by
  have hlisted : (order.list ips).map parseIP = List.replicate ips.length (parseIP a) := by
    rw [← (order.perm ips).length_eq]
    exact List.map_eq_replicate_iff.mpr fun b hb => h b ((order.perm ips).mem_iff.mp hb) a ha
  obtain ⟨ip, rest, hcons, hsome⟩ := @getNetworkStatus_of_podIPs id s ips order hips (List.ne_nil_of_mem ha)
  rw [hlisted] at hcons
  have hip : ip = parseIP a := List.eq_of_mem_replicate (hcons ▸ List.mem_cons_self)
  rw [hsome, ← hcons, hip]

theorem Steady.of_error {err : GoError} (herr : ∀ order, getPodNetworkStatus env order id s = (.error err, s)) :
    Steady env id s where
  same order order' := by rw [herr, herr]
  again order order' := by rw [herr, herr]
  primary order status hstatus := by
    rw [herr] at hstatus
    cases hstatus
  sorted order status hstatus := by
    rw [herr] at hstatus
    cases hstatus

theorem Steady.of_replicate {n : Nat} {ip : Option IP} (hn : n ≠ 0)
    (hcall : ∀ order, getPodNetworkStatus env order id s = (.ok (getNetworkStatus order id t), t))
    (hstatus : ∀ order, getNetworkStatus order id t = some { ip, ips := List.replicate n ip }) : Steady env id s where
  same order order' := by rw [hcall, hcall, hstatus, hstatus]
  again order order' := by
    rw [hcall order, hstatus]
    dsimp only
    rw [getPodNetworkStatus, hstatus]
  primary order status hok := by
    rw [hcall, hstatus] at hok
    cases hok
    rw [List.head?_replicate, if_neg hn]
  sorted order status hok := by
    rw [hcall, hstatus] at hok
    cases hok
    exact List.pairwise_replicate.mpr (Or.inr fun h => h)

/-- Whatever is remembered of a pod, and whatever its namespace tells, the addresses that are reported for it are the
    same at every call exactly if it has not two different ones. -/
theorem getPodNetworkStatus_steady_iff (env : NetworkStatusEnv) (id : Text) (s : State) :
    Steady env id s ↔ OneAddress (addresses env id s) := by
  rcases getPodNetworkStatus_cases env id s with ⟨hempty, err, herr⟩ | ⟨set, t, hne, hmem, hset, hcall⟩
  · refine ⟨fun _ a ha => ?_, fun _ => Steady.of_error herr⟩
    rw [hempty] at ha
    cases ha
  · constructor
    · intro hsteady a ha b hb
      obtain ⟨rest, hfirst⟩ := getNetworkStatus_first hset ((hmem a).mpr ha)
      obtain ⟨rest', hfirst'⟩ := getNetworkStatus_first hset ((hmem b).mpr hb)
      have hsame := hsteady.same (Listing.first a) (Listing.first b)
      rw [hcall, hcall, hfirst, hfirst'] at hsame
      exact congrArg PodNetworkStatus.ip (Option.some.inj (Except.ok.inj hsame))
    · intro hone
      have hset' : OneAddress set := fun a ha b hb => hone a ((hmem a).mp ha) b ((hmem b).mp hb)
      obtain ⟨a, ha⟩ := List.exists_mem_of_ne_nil set hne
      exact Steady.of_replicate (fun hzero => hne (List.length_eq_zero_iff.mp hzero)) hcall
        (hset'.getNetworkStatus hset ha)

def dualStackPod : NetworkStatusEnv where
  getNetNS := .ok "/proc/42/ns/net"
  ipv6DualStackEnabled := true
  commands
    | .v4 => ⟨"3: eth0    inet 10.0.0.2/24 brd 10.0.0.255 scope global eth0", none⟩
    | .v6 => ⟨"3: eth0    inet6 fd00::2/64 scope global", none⟩

/-- The pod is unchanged between two calls: the first gives its IPv6 address as the primary IP, and the next one its
    IPv4 address. -/
theorem primary_ip_changes :
    let ip₄ : IP := v4InV6 ++ [10, 0, 0, 2]
    let ip₆ : IP := [0xfd, 0, 0, 0, 0, 0, 0, 0, 0, 0, 0, 0, 0, 0, 0, 2]
    let first := getPodNetworkStatus dualStackPod (Listing.first "fd00::2") "c1" (State.initial [])
    getPodIPs dualStackPod.ipv6DualStackEnabled dualStackPod.commands = .ok [ip₄, ip₆] ∧
    first.1 = .ok (some { ip := some ip₆, ips := [some ip₆, some ip₄] }) ∧
    (getPodNetworkStatus dualStackPod (Listing.first "10.0.0.2") "c1" first.2).1 =
      .ok (some { ip := some ip₄, ips := [some ip₄, some ip₆] }) ∧
    ¬Steady dualStackPod "c1" (State.initial []) := by
  intro ip₄ ip₆ first
  refine ⟨by decide +kernel, by decide +kernel, by decide +kernel, fun h => ?_⟩
  have hsame := h.same (Listing.first "fd00::2") (Listing.first "10.0.0.2")
  revert hsame
  decide +kernel

end CriDockerd.Kubenet
