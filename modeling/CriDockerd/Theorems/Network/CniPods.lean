import CriDockerd.Network.CniPods
import CriDockerd.Theorems.Network.DefaultNetwork
import CriDockerd.Theorems.Sandbox.Steps

/-! What the CNI plugin asks of libcni, in every order of the steps of its calls. A call may find another default network at
    each of its reads, but never none again, so that nothing is dereferenced that is not there. A sandbox is detached from the
    network that is the default one when it is torn down, which is the one it was attached to if the config has not changed. -/

namespace CriDockerd.Cni
open Text Store

/-! ### Port mappings -/

/-- The file of a sandbox is as it was written, or it is gone where that may be. -/
def Written (spew : Core.CheckpointData → List UInt8) (config : Text → Core.PodSandboxConfig) (mayLose : Text → Prop) (id : Text)
    (dir : Dir Core.Blob) : Prop :=
  dir id = some (.json (Core.checkpointOf spew (config id)).toJson) ∨ dir id = none ∧ mayLose id

section
variable {spew : Core.CheckpointData → List UInt8} {config : Text → Core.PodSandboxConfig} {mayLose : Text → Prop} {id : Text}
  {dir : Dir Core.Blob} {faults : Core.CheckpointFaults}

theorem Written.congr {dir' : Dir Core.Blob} (h : Written spew config mayLose id dir) (heq : dir' id = dir id) :
    Written spew config mayLose id dir' := by
  unfold Written
  rw [heq]
  exact h

theorem validateKey_eq_some {err : StoreError} (h : validateKey id = some err) : ∃ e, err = .other e := by
  unfold validateKey at h
  split at h
  · cases h
  · cases h
    exact ⟨_, rfl⟩

theorem Written.lookup (h : Written spew config mayLose id dir) (hconfig : (config id).WellTyped)
    (hfaults : ¬ faults.Keeps → mayLose id) :
    Written spew config mayLose id (Core.getPodPortMappings spew faults id dir).2 ∧
      (Core.getPodPortMappings spew faults id dir).1 ≠ .panic ∧
      ∀ portMappings, (Core.getPodPortMappings spew faults id dir).1 = .ok portMappings →
        portMappings = (config id).portMappings.map (·.checkpointed) ∨ portMappings = [] ∧ mayLose id := by
  cases hkey : validateKey id with
  | some err =>
    obtain ⟨e, rfl⟩ := validateKey_eq_some hkey
    simp only [Core.getPodPortMappings, getCheckpoint, Store.read, hkey, removeCheckpoint, delete]
    exact ⟨h, fun heq => (by cases heq), fun _ heq => (by cases heq)⟩
  | none =>
    cases hread : faults.read with
    | some err =>
      have hlost : Written spew config mayLose id (removeCheckpoint faults.remove id dir).2 := by
        by_cases hremove : faults.remove = none
        · refine Or.inr ⟨?_, hfaults fun hkeeps => hkeeps.elim (by simp [hread]) (absurd hremove)⟩
          simp only [removeCheckpoint, delete, hkey, hremove, Function.update_self]
        · rw [Core.removeCheckpoint_of_fault hremove]
          exact h
      simp only [Core.getPodPortMappings, getCheckpoint, Store.read, hkey, hread]
      exact ⟨hlost, fun heq => (by cases heq), fun _ heq => (by cases heq)⟩
    | none =>
      rcases h with hdir | ⟨hdir, hlose⟩
      · rw [Core.getPodPortMappings_written spew hconfig hkey hdir hread]
        exact ⟨Or.inl hdir, fun heq => (by cases heq), fun portMappings heq => Or.inl (Outcome.ok.inj heq).symm⟩
      · simp only [Core.getPodPortMappings, getCheckpoint, Store.read, hkey, hread, hdir]
        exact ⟨Or.inr ⟨hdir, hlose⟩, fun heq => (by cases heq),
          fun portMappings heq => Or.inr ⟨(Outcome.ok.inj heq).symm, hlose⟩⟩

end

/-! ### Steps -/

/-- What a run of calls is about: `config` has the configs of the sandboxes, `mayLose` tells which of them may have lost
    their checkpoint, and `found` holds for the networks that may be found in the directory. -/
structure World where
  settings : Settings
  config : Text → Core.PodSandboxConfig
  mayLose : Text → Prop
  confDir : Text
  binDirs : List Text
  found : CniNetwork → Prop
  config_wellTyped : ∀ id, (config id).WellTyped
  lo_plugins : ∀ n, settings.loNetwork = some n → n.networkConfig.plugins ≠ []
  found_plugins : ∀ n, found n → n.networkConfig.plugins ≠ []

/-- What is true of the state at all times. -/
structure World.Inv (w : World) (s : State) : Prop where
  confDir : s.plugin.confDir = w.confDir
  binDirs : s.plugin.binDirs = w.binDirs
  network : ∀ n, s.plugin.defaultNetwork = some n → w.found n
  checkpoints : ∀ id, Written w.settings.spew w.config w.mayLose id s.checkpoints

/-- The networks that requests are for. -/
def World.Used (w : World) (network : NetworkConfigList) : Prop :=
  ∃ n, (w.settings.loNetwork = some n ∨ w.found n) ∧ n.networkConfig = network

/-- The port mappings of the config of the sandbox, or none if its checkpoint may have been lost. -/
def World.Mapped (w : World) (id : Text) (portMappings : List PortMapping) : Prop :=
  portMappings = portMappingsParam ((w.config id).portMappings.map (·.checkpointed)) ∨ portMappings = [] ∧ w.mayLose id

/-- What the steps of all calls keep. -/
structure Preserves (w : World) (s t : State) : Prop where
  inv : w.Inv s → w.Inv t
  initialized : s.plugin.defaultNetwork.isSome → t.plugin.defaultNetwork.isSome

/-- What the steps of the others keep. -/
structure Others (w : World) (a : Actor) (s t : State) : Prop extends Preserves w s t where
  attached : ∀ id, a = .pod id → ∀ network, (id, network) ∈ t.attached ↔ (id, network) ∈ s.attached

/-- What the steps of an actor do: those of a sandbox attach and detach it, from the networks that requests are for. -/
structure Own (w : World) (a : Actor) (s t : State) : Prop extends Preserves w s t where
  attached : ∀ id network, ¬ (a = .pod id ∧ w.Used network) → ((id, network) ∈ t.attached ↔ (id, network) ∈ s.attached)
  requests : ∀ r ∈ t.requests, r ∈ s.requests ∨ w.Used r.network ∧ w.Mapped r.rt.containerID r.rt.portMappings

section
variable {w : World} {a b : Actor} {s t u : State}

theorem Preserves.trans (hst : Preserves w s t) (htu : Preserves w t u) : Preserves w s u :=
  ⟨htu.inv ∘ hst.inv, htu.initialized ∘ hst.initialized⟩

theorem Others.refl (w : World) (a : Actor) (s : State) : Others w a s s := ⟨⟨id, id⟩, fun _ _ _ => Iff.rfl⟩

theorem Others.trans (hst : Others w a s t) (htu : Others w a t u) : Others w a s u :=
  ⟨hst.toPreserves.trans htu.toPreserves, fun id ha network => (htu.attached id ha network).trans (hst.attached id ha network)⟩

theorem Own.refl (w : World) (a : Actor) (s : State) : Own w a s s := ⟨⟨id, id⟩, fun _ _ _ => Iff.rfl, fun _ => Or.inl⟩

theorem Own.others (h : Own w a s t) (hab : a ≠ b) : Others w b s t :=
  ⟨h.toPreserves, fun id hb network => h.attached id network fun ha => hab (ha.1.trans hb.symm)⟩

end

/-- Among the other calls, a thread of an actor ends with a result for which a property holds. -/
def Keeps {α : Type} (w : World) (a : Actor) (t : Thread State α) (post : α → State → Prop) (s : State) : Prop :=
  t.Ensures (Others w a) (Own w a) (fun r u => w.Inv u ∧ post r u) s

namespace Keeps
variable {α β : Type} {w : World} {a : Actor} {s : State}

theorem pure {r : α} {post : α → State → Prop} (hs : w.Inv s) (h : ∀ u, Others w a s u → post r u) :
    Keeps w a (Pure.pure r) post s := fun u hu => ⟨hu.inv hs, h u hu⟩

theorem atom {op : State → α × State} {post : α → State → Prop} (hs : w.Inv s)
    (h : ∀ u, w.Inv u → Others w a s u → Own w a u (op u).2 ∧ ∀ v, Others w a (op u).2 v → post (op u).1 v) :
    Keeps w a (Thread.atom op) post s := by
  intro u hu
  obtain ⟨hop, hpost⟩ := h u (hu.inv hs) hu
  exact ⟨hop, fun v hv => ⟨hv.inv (hop.inv (hu.inv hs)), hpost v hv⟩⟩

theorem bind {t : Thread State α} {k : α → Thread State β} {mid : α → State → Prop} {post : β → State → Prop}
    (ht : Keeps w a t mid s) (hk : ∀ r u, w.Inv u → Preserves w s u → mid r u → Keeps w a (k r) post u) :
    Keeps w a (t >>= k) post s := by
  have htrans : ∀ s t u, Preserves w s t → Preserves w t u → Preserves w s u := fun _ _ _ => Preserves.trans
  have hsince := ht.along htrans (fun _ _ h => h.toPreserves) (fun _ _ h => h.toPreserves) ⟨id, id⟩
  exact Thread.Ensures.bind (Others.refl w a) (hsince.mono fun r u hu => hk r u hu.2.1 hu.1 hu.2.2)

theorem mono {t : Thread State α} {post post' : α → State → Prop} (ht : Keeps w a t post s)
    (h : ∀ r u, post r u → post' r u) : Keeps w a t post' s :=
  Thread.Ensures.mono ht fun r u hu => ⟨hu.1, h r u hu.2⟩

end Keeps

section
variable {w : World} {a : Actor} {s : State} {id : Text}

/-! ### Reads -/

theorem keeps_getDefaultNetwork (hs : w.Inv s) :
    Keeps w a getDefaultNetwork (fun n u => (∀ m, n = some m → w.found m ∧ u.plugin.defaultNetwork.isSome) ∧
      (s.plugin.defaultNetwork.isSome → n.isSome)) s := by
  refine Keeps.atom hs fun u hu hsu => ⟨Own.refl w a u, fun v hv => ⟨fun m hm => ⟨hu.network m hm, ?_⟩, hsu.initialized⟩⟩
  exact hv.initialized (by rw [show u.plugin.defaultNetwork = some m from hm]; rfl)

theorem keeps_getPodCidr (hs : w.Inv s) : Keeps w a getPodCidr (fun _ _ => True) s :=
  Keeps.atom hs fun u _ _ => ⟨Own.refl w a u, fun _ _ => trivial⟩

theorem keeps_checkInitialized (hs : w.Inv s) :
    Keeps w a checkInitialized (fun o u => o ≠ .panic ∧ (o = .ok () → u.plugin.defaultNetwork.isSome)) s := by
  refine (keeps_getDefaultNetwork hs).bind fun n u hu hsu hn => ?_
  cases n with
  | none => exact Keeps.pure hu fun v hv => ⟨nofun, nofun⟩
  | some n =>
    refine (keeps_getDefaultNetwork hu).bind fun m v hv huv hm => ?_
    cases m with
    | none => exact absurd (hm.2 (hn.1 n rfl).2) nofun
    | some m =>
      have hinit := (hm.1 m rfl).2
      dsimp only
      split
      · refine (keeps_getPodCidr hv).bind fun podCidr x hx hvx _ => Keeps.pure hx fun y hy => ⟨?_, fun _ => ?_⟩
        · split <;> nofun
        · exact hy.initialized (hvx.initialized hinit)
      · exact Keeps.pure hv fun x hx => ⟨nofun, fun _ => hx.initialized hinit⟩

theorem keeps_getPodPortMappings {faults : Core.CheckpointFaults} (hs : w.Inv s) (hfaults : ¬ faults.Keeps → w.mayLose id) :
    Keeps w (.pod id) (getPodPortMappings w.settings faults id) (fun o _ => o ≠ .panic ∧
      ∀ portMappings, o = .ok portMappings → w.Mapped id (portMappingsParam portMappings)) s := by
  refine Keeps.atom hs fun u hu _ => ?_
  obtain ⟨hwritten, hpanic, hok⟩ := (hu.checkpoints id).lookup (w.config_wellTyped id) hfaults
  refine ⟨⟨⟨fun _ => ⟨hu.confDir, hu.binDirs, hu.network, fun d => ?_⟩, fun h => h⟩, fun _ _ _ => Iff.rfl, fun _ => Or.inl⟩,
    fun v _ => ⟨hpanic, fun portMappings heq => ?_⟩⟩
  · by_cases hd : d = id
    · exact hd ▸ hwritten
    · have hother := (Core.getPodPortMappings_drops w.settings.spew faults id u.checkpoints).others d hd
      exact (hu.checkpoints d).congr hother
  · rcases hok portMappings heq with rfl | ⟨rfl, hlose⟩
    · exact Or.inl rfl
    · exact Or.inr ⟨rfl, hlose⟩

theorem keeps_buildCNIRuntimeConf {env : NetworkEnv} {pod : Pod} {podNetnsPath : Text} {annotations options : Core.Labels}
    (hs : w.Inv s) (hfaults : ¬ env.lookup.Keeps → w.mayLose id) :
    Keeps w (.pod id) (buildCNIRuntimeConf w.settings env pod id podNetnsPath annotations options) (fun o _ => o ≠ .panic ∧
      ∀ rt, o = .ok rt → rt.containerID = id ∧ w.Mapped id rt.portMappings) s := by
  refine (keeps_getPodPortMappings hs hfaults).bind fun o u hu _ ho => ?_
  cases o with
  | panic => exact absurd rfl ho.1
  | error err => exact Keeps.pure hu fun _ _ => ⟨nofun, nofun⟩
  | ok portMappings =>
    dsimp only
    cases extractPodBandwidthResources env.parseQuantity annotations with
    | error err => exact Keeps.pure hu fun _ _ => ⟨nofun, nofun⟩
    | ok bandwidth =>
      refine (keeps_getPodCidr hu).bind fun podCidr v hv _ _ => ?_
      cases checkDNS env.unmarshalDNS options with
      | some err => exact Keeps.pure hv fun _ _ => ⟨nofun, nofun⟩
      | none =>
        refine Keeps.pure hv fun _ _ => ⟨nofun, fun rt hrt => ?_⟩
        cases hrt
        exact ⟨rfl, ho.2 portMappings rfl⟩

/-! ### Requests -/

theorem mem_request_of_ne {r : Request} {answer : Answer} {c : Text} {network : NetworkConfigList}
    (h : ¬ (c = r.rt.containerID ∧ network = r.network)) :
    (c, network) ∈ (s.request r answer).attached ↔ (c, network) ∈ s.attached := by
  unfold State.request
  dsimp only
  split
  · rfl
  · split
    · rw [List.mem_cons, Prod.mk.injEq]
      exact or_iff_right h
    · rw [List.mem_filter, decide_eq_true_eq, ne_eq, Prod.mk.injEq]
      exact and_iff_left h

theorem not_mem_request_del {r : Request} {answer : Answer} (hr : r.command = .del)
    (h : answer.err = none ∨ answer.done = true) : (r.rt.containerID, r.network) ∉ (s.request r answer).attached := by
  unfold State.request
  dsimp only
  rw [if_neg (by rcases h with h | h <;> simp [h]), hr]
  simp

theorem own_request {r : Request} {answer : Answer} (hid : r.rt.containerID = id) (hused : w.Used r.network)
    (hmapped : w.Mapped id r.rt.portMappings) : Own w (.pod id) s (s.request r answer) where
  inv h := ⟨h.confDir, h.binDirs, h.network, h.checkpoints⟩
  initialized h := h
  attached c network hne := mem_request_of_ne fun heq => hne ⟨by rw [heq.1, hid], heq.2 ▸ hused⟩
  requests r' hr' := by
    rcases List.mem_append.mp hr' with hmem | hmem
    · exact Or.inl hmem
    · cases List.mem_singleton.mp hmem
      exact Or.inr ⟨hused, hid ▸ hmapped⟩

/-- An error that is passed over is that of a container which is detached. -/
def Answer.Honest (answer : Answer) (ignored : GoError → Bool) : Prop :=
  ∀ err, answer.err = some err → ignored err = true → answer.done = true

theorem keeps_requestNetwork {command : Command} {env : NetworkEnv} {ignored : GoError → Bool} {n : CniNetwork}
    {rt : RuntimeConf} (hs : w.Inv s) (hn : w.settings.loNetwork = some n ∨ w.found n) (hid : rt.containerID = id)
    (hmapped : w.Mapped id rt.portMappings) :
    Keeps w (.pod id) (requestNetwork command env ignored (some n) rt) (fun o u => o ≠ .panic ∧
      (command = .del → env.answer.Honest ignored → o = .ok () → (id, n.networkConfig) ∉ u.attached)) s := by
  have hplugins : n.networkConfig.plugins ≠ [] := hn.elim (w.lo_plugins n) (w.found_plugins n)
  refine Keeps.atom hs fun u hu _ => ⟨own_request hid ⟨n, hn, rfl⟩ hmapped, fun v hv => ⟨?_, fun hdel hhonest hok hmem => ?_⟩⟩
  · dsimp only
    split
    · nofun
    · split
      · nofun
      · nofun
  · refine @not_mem_request_del u { command, network := n.networkConfig, rt } env.answer hdel ?_ ?_
    · dsimp only at hok
      split at hok
      · rename_i hnone
        exact Or.inl hnone
      · rename_i err herr
        split at hok
        · rename_i hignored
          exact Or.inr (hhonest err herr hignored)
        · cases hok
    · exact hid ▸ (hv.attached id rfl n.networkConfig).mp hmem

/-! ### Calls -/

/-- Lookups that cost a checkpoint are only made for sandboxes that may lose it. -/
def World.Looks (w : World) (id : Text) (env : PodEnv) : Prop :=
  ¬ (env.lo.lookup.Keeps ∧ env.network.lookup.Keeps) → w.mayLose id

theorem keeps_addToNetwork {env : NetworkEnv} {n : CniNetwork} {pod : Pod} {podNetnsPath : Text}
    {annotations options : Core.Labels} (hs : w.Inv s) (hfaults : ¬ env.lookup.Keeps → w.mayLose id)
    (hn : w.settings.loNetwork = some n ∨ w.found n) :
    Keeps w (.pod id) (addToNetwork w.settings env (some n) pod id podNetnsPath annotations options) (fun o _ => o ≠ .panic) s := by
  refine (keeps_buildCNIRuntimeConf hs hfaults).bind fun o u hu _ ho => ?_
  cases o with
  | panic => exact absurd rfl ho.1
  | error err => exact Keeps.pure hu fun _ _ => nofun
  | ok rt =>
    obtain ⟨hid, hmapped⟩ := ho.2 rt rfl
    exact (keeps_requestNetwork hu hn hid hmapped).mono fun _ _ h => h.1

theorem keeps_deleteFromNetwork {env : NetworkEnv} {n : CniNetwork} {pod : Pod} {podNetnsPath : Text} {annotations : Core.Labels}
    (hs : w.Inv s) (hfaults : ¬ env.lookup.Keeps → w.mayLose id) (hn : w.settings.loNetwork = some n ∨ w.found n) :
    Keeps w (.pod id) (deleteFromNetwork w.settings env (some n) pod id podNetnsPath annotations) (fun o u => o ≠ .panic ∧
      (env.answer.Honest noSuchFile → o = .ok () → (id, n.networkConfig) ∉ u.attached)) s := by
  refine (keeps_buildCNIRuntimeConf hs hfaults).bind fun o u hu _ ho => ?_
  cases o with
  | panic => exact absurd rfl ho.1
  | error err => exact Keeps.pure hu fun _ _ => ⟨nofun, nofun⟩
  | ok rt =>
    obtain ⟨hid, hmapped⟩ := ho.2 rt rfl
    exact (keeps_requestNetwork hu hn hid hmapped).mono fun _ _ h => ⟨h.1, h.2 rfl⟩

theorem keeps_addToLoNetwork {env : NetworkEnv} {pod : Pod} {netnsPath : Text} {annotations options : Core.Labels} (hs : w.Inv s)
    (hfaults : ¬ env.lookup.Keeps → w.mayLose id) :
    Keeps w (.pod id) (addToLoNetwork w.settings env pod id netnsPath annotations options) (fun o _ => o ≠ .panic) s := by
  unfold addToLoNetwork
  split
  · exact Keeps.pure hs fun _ _ => nofun
  · rename_i n hlo
    exact keeps_addToNetwork hs hfaults (.inl hlo)

theorem keeps_deleteFromLoNetwork {env : NetworkEnv} {pod : Pod} {netnsPath : Text} (hs : w.Inv s)
    (hfaults : ¬ env.lookup.Keeps → w.mayLose id) :
    Keeps w (.pod id) (deleteFromLoNetwork w.settings env pod id netnsPath) (fun o _ => o ≠ .panic) s := by
  unfold deleteFromLoNetwork
  split
  · exact Keeps.pure hs fun _ _ => nofun
  · rename_i n hlo
    exact (keeps_deleteFromNetwork hs hfaults (.inl hlo)).mono fun _ _ h => h.1

theorem keeps_setUpPod {env : PodEnv} {pod : Pod} {annotations options : Core.Labels} (hs : w.Inv s) (hlooks : w.Looks id env) :
    Keeps w (.pod id) (setUpPod w.settings env pod id annotations options) (fun o _ => o ≠ .panic) s := by
  refine (keeps_checkInitialized hs).bind fun o u hu _ ho => ?_
  cases o with
  | panic => exact absurd rfl ho.1
  | error err => exact Keeps.pure hu fun _ _ => nofun
  | ok =>
    have hinit := ho.2 rfl
    dsimp only
    cases env.getNetNS with
    | error err => exact Keeps.pure hu fun _ _ => nofun
    | ok netnsPath =>
      refine (keeps_addToLoNetwork hu fun h => hlooks fun hk => h hk.1).bind fun o v hv huv ho => ?_
      cases o with
      | panic => exact absurd rfl ho
      | error err => exact Keeps.pure hv fun _ _ => nofun
      | ok =>
        refine (keeps_getDefaultNetwork hv).bind fun n x hx _ hn => ?_
        cases n with
        | none => exact absurd (hn.2 (huv.initialized hinit)) nofun
        | some n => exact keeps_addToNetwork hx (fun h => hlooks fun hk => h hk.2) (.inr (hn.1 n rfl).1)

/-- A sandbox is detached from a network that was the default one while the call ran. -/
theorem keeps_tearDownPod {env : PodEnv} {pod : Pod} (hs : w.Inv s) (hlooks : w.Looks id env) :
    Keeps w (.pod id) (tearDownPod w.settings env pod id) (fun o u => o ≠ .panic ∧
      (env.network.answer.Honest noSuchFile → o = .ok () → ∃ n, w.found n ∧ (id, n.networkConfig) ∉ u.attached)) s := by
  refine (keeps_checkInitialized hs).bind fun o u hu _ ho => ?_
  cases o with
  | panic => exact absurd rfl ho.1
  | error err => exact Keeps.pure hu fun _ _ => ⟨nofun, nofun⟩
  | ok =>
    have hinit := ho.2 rfl
    refine (keeps_deleteFromLoNetwork hu fun h => hlooks fun hk => h hk.1).bind fun o v hv huv ho => ?_
    have hnetwork : Keeps w (.pod id) (do
        let network ← getDefaultNetwork
        deleteFromNetwork w.settings env.network network pod id env.netnsPath []) (fun o u => o ≠ .panic ∧
          (env.network.answer.Honest noSuchFile → o = .ok () → ∃ n, w.found n ∧ (id, n.networkConfig) ∉ u.attached)) v := by
      refine (keeps_getDefaultNetwork hv).bind fun n x hx _ hn => ?_
      cases n with
      | none => exact absurd (hn.2 (huv.initialized hinit)) nofun
      | some n =>
        exact (keeps_deleteFromNetwork hx (fun h => hlooks fun hk => h hk.2) (.inr (hn.1 n rfl).1)).mono
          fun _ _ h => ⟨h.1, fun hhonest hok => ⟨n, (hn.1 n rfl).1, h.2 hhonest hok⟩⟩
    cases o with
    | panic => exact absurd rfl ho
    | error err => exact hnetwork
    | ok => exact hnetwork

def PodCall.env : PodCall → PodEnv
  | .setUp env .. => env
  | .tearDown env _ => env

theorem keeps_podCall {call : PodCall} (hs : w.Inv s) (hlooks : w.Looks id call.env) :
    Keeps w (.pod id) (call.run w.settings id) (fun o _ => o ≠ .panic) s := by
  cases call with
  | setUp env pod annotations options => exact keeps_setUpPod hs hlooks
  | tearDown env pod => exact (keeps_tearDownPod hs hlooks).mono fun _ _ h => h.1

theorem keeps_podCalls {calls : List PodCall} {last : Outcome GoError Unit} (hs : w.Inv s) (hlast : last ≠ .panic)
    (hlooks : ∀ call ∈ calls, w.Looks id call.env) :
    Keeps w (.pod id) (podCalls w.settings id last calls) (fun o _ => o ≠ .panic) s := by
  induction calls generalizing s last with
  | nil => exact Keeps.pure hs fun _ _ => hlast
  | cons call rest ih =>
    refine (keeps_podCall hs (hlooks call List.mem_cons_self)).bind fun o u hu _ ho => ?_
    have hrest (o : Outcome GoError Unit) (ho : o ≠ .panic) := ih hu ho fun c hc => hlooks c (List.mem_cons_of_mem _ hc)
    cases o with
    | panic => exact absurd rfl ho
    | error err => exact hrest _ ho
    | ok => exact hrest _ ho

theorem keeps_podCalls_tearDown {calls : List PodCall} {env : PodEnv} {pod : Pod} {last : Outcome GoError Unit} (hs : w.Inv s)
    (hlooks : ∀ call ∈ calls ++ [.tearDown env pod], w.Looks id call.env) (hhonest : env.network.answer.Honest noSuchFile) :
    Keeps w (.pod id) (podCalls w.settings id last (calls ++ [.tearDown env pod])) (fun o u => o ≠ .panic ∧
      (o = .ok () → ∃ n, w.found n ∧ (id, n.networkConfig) ∉ u.attached)) s := by
  induction calls generalizing s last with
  | nil =>
    refine (keeps_tearDownPod hs (hlooks _ List.mem_cons_self)).bind fun o u hu _ ho => ?_
    have hdone (o' : Outcome GoError Unit) (heq : o' = o) : Keeps w (.pod id) (pure o') (fun o u => o ≠ .panic ∧
        (o = .ok () → ∃ n, w.found n ∧ (id, n.networkConfig) ∉ u.attached)) u := by
      refine Keeps.pure hu fun v hv => ⟨heq ▸ ho.1, fun hok => ?_⟩
      obtain ⟨n, hfound, hnot⟩ := ho.2 hhonest (heq ▸ hok)
      exact ⟨n, hfound, fun hmem => hnot ((hv.attached id rfl n.networkConfig).mp hmem)⟩
    cases o with
    | panic => exact absurd rfl ho.1
    | error err => exact hdone _ rfl
    | ok => exact hdone _ rfl
  | cons call rest ih =>
    refine (keeps_podCall hs (hlooks call List.mem_cons_self)).bind fun o u hu _ ho => ?_
    have hrest (o : Outcome GoError Unit) := @ih u o hu fun c hc => hlooks c (List.mem_cons_of_mem _ hc)
    cases o with
    | panic => exact absurd rfl ho
    | error err => exact hrest _
    | ok => exact hrest _

/-! ### Runs -/

theorem getDefaultCNINetwork_plugins {confDir : Text} {binDirs : List Text} {d : ConfDir} {n : CniNetwork}
    (h : getDefaultCNINetwork confDir binDirs d = .ok n) : n.networkConfig.plugins ≠ [] := by
  unfold getDefaultCNINetwork at h
  split at h
  · cases h
  · cases h
  · obtain ⟨file, -, hfile⟩ := List.exists_of_findSome?_eq_some (firstNetwork_ok_iff.mp h)
    exact (loadNetwork_ok_iff.mp (toOption_eq_some_iff.mp hfile)).2.1

theorem own_sync {d : ConfDir} (hfinds : ∀ n, getDefaultCNINetwork w.confDir w.binDirs d = .ok n → w.found n) (hs : w.Inv s) :
    Own w a s { s with plugin := syncNetworkConfig d s.plugin } := by
  have hdirs := syncNetworkConfig_dirs d s.plugin
  refine ⟨⟨fun _ => ⟨hdirs.1.trans hs.confDir, hdirs.2.trans hs.binDirs, ?_, hs.checkpoints⟩, ?_⟩, fun _ _ _ => Iff.rfl,
    fun _ => Or.inl⟩
  · dsimp only [syncNetworkConfig]
    rw [hs.confDir, hs.binDirs]
    split
    · exact hs.network
    · rename_i network hfound
      intro n hn
      cases hn
      exact hfinds network hfound
  · dsimp only [syncNetworkConfig]
    split
    · exact fun h => h
    · exact fun _ => rfl

theorem keeps_hostCall {call : HostCall} (hs : w.Inv s)
    (hfinds : ∀ d n, call = .sync d → getDefaultCNINetwork w.confDir w.binDirs d = .ok n → w.found n) :
    Keeps w a call.run (fun o _ => o ≠ .panic) s := by
  cases call with
  | status => exact (keeps_checkInitialized hs).mono fun _ _ h => h.1
  | event isPodCIDRChange podCIDR =>
    refine Keeps.atom hs fun u hu _ => ⟨?_, fun _ _ => nofun⟩
    dsimp only
    split
    · split
      · exact Own.refl w a u
      · exact ⟨⟨fun h => ⟨h.confDir, h.binDirs, h.network, h.checkpoints⟩, fun h => h⟩, fun _ _ _ => Iff.rfl, fun _ => Or.inl⟩
    · exact Own.refl w a u
  | sync d => exact Keeps.atom hs fun u hu _ => ⟨own_sync (fun n => hfinds d n rfl) hu, fun _ _ => nofun⟩

end

/-- The result of an actor: no panic, and a sandbox whose last call tears it down is detached if there is no error. -/
def Result (w : World) (pods : Text → List PodCall) (a : Actor) (o : Outcome GoError Unit) (u : State) : Prop :=
  o ≠ .panic ∧ ∀ id calls env pod, a = .pod id → pods id = calls ++ [.tearDown env pod] →
    env.network.answer.Honest noSuchFile → o = .ok () → ∃ n, w.found n ∧ (id, n.networkConfig) ∉ u.attached

/-- What the steps of all actors do together. -/
structure Moves (w : World) (s t : State) : Prop where
  attached : ∀ id network, ¬ w.Used network → ((id, network) ∈ t.attached ↔ (id, network) ∈ s.attached)
  requests : ∀ r ∈ t.requests, r ∈ s.requests ∨ w.Used r.network ∧ w.Mapped r.rt.containerID r.rt.portMappings

theorem Moves.trans {w : World} {s t u : State} (hst : Moves w s t) (htu : Moves w t u) : Moves w s u :=
  ⟨fun id network hn => (htu.attached id network hn).trans (hst.attached id network hn),
    fun r hr => (htu.requests r hr).elim (hst.requests r) Or.inr⟩

/-- Calls that fit a world, in a state that does. -/
structure World.Runs (w : World) (s : State) (pods : Text → List PodCall) (host : Nat → HostCall) : Prop where
  inv : w.Inv s
  looks : ∀ id, ∀ call ∈ pods id, w.Looks id call.env
  finds : ∀ i d n, host i = .sync d → getDefaultCNINetwork w.confDir w.binDirs d = .ok n → w.found n

namespace World.Runs
variable {w : World} {s : State} {pods : Text → List PodCall} {host : Nat → HostCall}
  {p : Thread.Pool State Actor (Outcome GoError Unit)}

theorem threads (hr : w.Runs s pods host) (a : Actor) :
    Keeps w a ((start w.settings s pods host).threads a) (Result w pods a) s := by
  cases a with
  | host i => exact (keeps_hostCall hr.inv (hr.finds i)).mono fun o u ho => ⟨ho, fun id calls env pod ha => nomatch ha⟩
  | pod id =>
    show Keeps w (.pod id) (podCalls w.settings id (.ok ()) (pods id)) _ s
    by_cases htears : ∃ calls env pod, pods id = calls ++ [.tearDown env pod] ∧ env.network.answer.Honest noSuchFile
    · obtain ⟨calls, env, pod, hpods, hhonest⟩ := htears
      have hlooks := hr.looks id
      rw [hpods] at hlooks ⊢
      refine (keeps_podCalls_tearDown hr.inv hlooks hhonest).mono fun o u ho => ⟨ho.1, fun id' _ _ _ ha _ _ hok => ?_⟩
      cases ha
      exact ho.2 hok
    · have hok : (.ok () : Outcome GoError Unit) ≠ .panic := nofun
      refine (keeps_podCalls hr.inv hok (hr.looks id)).mono fun o u ho =>
        ⟨ho, fun id' calls env pod ha hpods hhonest => ?_⟩
      cases ha
      exact absurd ⟨calls, env, pod, hpods, hhonest⟩ htears

theorem done (hr : w.Runs s pods host) (h : (start w.settings s pods host).Reaches p) {a : Actor} {o : Outcome GoError Unit}
    (hdone : p.threads a = .done o) : Result w pods a o p.state := by
  have hensures := h.ensures (Others.refl w) (fun _ _ _ _ => Others.trans) (fun _ _ hij _ _ hown => hown.others hij) hr.threads a
  rw [hdone] at hensures
  exact (hensures p.state (Others.refl w a p.state)).2

theorem moves (hr : w.Runs s pods host) (h : (start w.settings s pods host).Reaches p) : Moves w s p.state :=
  h.along (Others.refl w) (fun _ _ _ _ => Others.trans) (fun _ _ hij _ _ hown => hown.others hij) hr.threads
    (fun _ => ⟨fun _ _ _ => Iff.rfl, fun _ => Or.inl⟩) (fun _ _ _ => Moves.trans)
    fun _ _ _ hown => ⟨fun id network hn => hown.attached id network fun hu => hn hu.2, hown.requests⟩

end World.Runs

/-! ### Results -/

def initial (confDir : Text) (binDirs : List Text) (checkpoints : Dir Core.Blob) : State where
  plugin := { confDir, binDirs, defaultNetwork := none }
  podCidr := []
  checkpoints
  attached := []
  requests := []

/-- A sandbox whose checkpoint is not there, or may be deleted by a lookup that fails to read it. -/
def MayLose (checkpoints : Dir Core.Blob) (pods : Text → List PodCall) (id : Text) : Prop :=
  checkpoints id = none ∨ ∃ call ∈ pods id, ¬ (call.env.lo.lookup.Keeps ∧ call.env.network.lookup.Keeps)

section
variable {settings : Settings} {confDir : Text} {binDirs : List Text} {checkpoints : Dir Core.Blob}
  {config : Text → Core.PodSandboxConfig} {pods : Text → List PodCall} {host : Nat → HostCall}
  {p : Thread.Pool State Actor (Outcome GoError Unit)}

/-- The world of a state and of the calls in it. -/
def World.of (settings : Settings) (s : State) (pods : Text → List PodCall) (found : CniNetwork → Prop)
    (hconfig : ∀ id, (config id).WellTyped) (hlo : ∀ n, settings.loNetwork = some n → n.networkConfig.plugins ≠ []) : World where
  settings
  config
  mayLose := MayLose s.checkpoints pods
  confDir := s.plugin.confDir
  binDirs := s.plugin.binDirs
  found n := found n ∧ n.networkConfig.plugins ≠ []
  config_wellTyped := hconfig
  lo_plugins := hlo
  found_plugins _ hn := hn.2

theorem World.of_runs (pods : Text → List PodCall) (host : Nat → HostCall) {s : State} {found : CniNetwork → Prop}
    (hconfig : ∀ id, (config id).WellTyped)
    (hlo : ∀ n, settings.loNetwork = some n → n.networkConfig.plugins ≠ [])
    (hcheckpoints : ∀ id blob, s.checkpoints id = some blob → blob = .json (Core.checkpointOf settings.spew (config id)).toJson)
    (hdefault : ∀ n, s.plugin.defaultNetwork = some n → found n ∧ n.networkConfig.plugins ≠ [])
    (hsync : ∀ i d n, host i = .sync d → getDefaultCNINetwork s.plugin.confDir s.plugin.binDirs d = .ok n → found n) :
    (World.of settings s pods found hconfig hlo).Runs s pods host where
  inv := by
    refine ⟨rfl, rfl, hdefault, fun id => ?_⟩
    cases hdir : s.checkpoints id with
    | none => exact Or.inr ⟨hdir, Or.inl hdir⟩
    | some blob =>
      rw [hcheckpoints id blob hdir] at hdir
      exact Or.inl hdir
  looks id call hcall hkeeps := Or.inr ⟨call, hcall, hkeeps⟩
  finds i d n hi hn := ⟨hsync i d n hi hn, getDefaultCNINetwork_plugins hn⟩

/-- If the directory only ever has one network, then in every order of the steps of all calls nothing is dereferenced that
    is not there, sandboxes are attached to that network and the loopback network only, and a sandbox whose last call has torn it
    down without an error is attached to the loopback network at most. -/
theorem calls_detach {network : NetworkConfigList} (hconfig : ∀ id, (config id).WellTyped)
    (hcheckpoints : ∀ id blob, checkpoints id = some blob → blob = .json (Core.checkpointOf settings.spew (config id)).toJson)
    (hlo : ∀ n, settings.loNetwork = some n → n.networkConfig.plugins ≠ [])
    (hsync : ∀ i d n, host i = .sync d → getDefaultCNINetwork confDir binDirs d = .ok n → n.networkConfig = network)
    (h : (start settings (initial confDir binDirs checkpoints) pods host).Reaches p) :
    (∀ a, p.threads a ≠ .done .panic) ∧
      (∀ id l, (id, l) ∈ p.state.attached → l = network ∨ settings.loNetwork.map (·.networkConfig) = some l) ∧
      ∀ id calls env pod, pods id = calls ++ [.tearDown env pod] → env.network.answer.Honest noSuchFile →
        p.threads (.pod id) = .done (.ok ()) →
        ∀ l, (id, l) ∈ p.state.attached → settings.loNetwork.map (·.networkConfig) = some l := by
  have hr := World.of_runs pods host (s := initial confDir binDirs checkpoints) hconfig hlo hcheckpoints nofun hsync
  have hattached (id : Text) (l : NetworkConfigList) (hmem : (id, l) ∈ p.state.attached) :
      l = network ∨ settings.loNetwork.map (·.networkConfig) = some l := by
    by_contra hne
    refine absurd (((hr.moves h).attached id l ?_).mp hmem) List.not_mem_nil
    rintro ⟨n, hn | hn, rfl⟩
    · exact hne (Or.inr (by rw [show settings.loNetwork = some n from hn]; rfl))
    · exact hne (Or.inl hn.1)
  refine ⟨fun a hpanic => (hr.done h hpanic).1 rfl, hattached, fun id calls env pod hpods hhonest hdone l hmem => ?_⟩
  obtain ⟨n, hn, hnot⟩ := (hr.done h hdone).2 id calls env pod rfl hpods hhonest rfl
  refine (hattached id l hmem).resolve_left fun hl => hnot ?_
  rw [hn.1, ← hl]
  exact hmem

/-- Every request for a sandbox has the port mappings of its config with a host port, also when it is torn down; it has none
    only after a lookup that failed has deleted the checkpoint, or without one. -/
theorem requests_mapped (hconfig : ∀ id, (config id).WellTyped)
    (hcheckpoints : ∀ id blob, checkpoints id = some blob → blob = .json (Core.checkpointOf settings.spew (config id)).toJson)
    (hlo : ∀ n, settings.loNetwork = some n → n.networkConfig.plugins ≠ [])
    (h : (start settings (initial confDir binDirs checkpoints) pods host).Reaches p) {r : Request} (hr : r ∈ p.state.requests) :
    r.rt.portMappings = portMappingsParam ((config r.rt.containerID).portMappings.map (·.checkpointed)) ∨
      r.rt.portMappings = [] ∧ MayLose checkpoints pods r.rt.containerID := by
  have hruns := World.of_runs pods host (s := initial confDir binDirs checkpoints) hconfig hlo hcheckpoints nofun
    fun _ _ _ _ _ => trivial
  exact (((hruns.moves h).requests r hr).resolve_left List.not_mem_nil).2

end

def bridge (name : Text) : NetworkConfigList where
  name
  cniVersion := "1.0.0"
  disableCheck := false
  plugins := [{ type := "bridge", bytes := [] }]
  bytes := []

def bridgeDir (name : Text) : ConfDir where
  readDir := .ok [{ name := "net.conflist", isDir := false, isName := ⟨by decide, by decide, by decide, by decide⟩ }]
  libcni :=
    { confListFromFile := fun _ => .ok (bridge name)
      confFromFile := fun _ => .error (.text [])
      confListFromConf := fun _ => .error (.text [])
      validateNetworkList := fun _ _ => .ok [] }

def quiet : PodEnv where
  getNetNS := .ok "/proc/7/ns/net"
  lo := ⟨⟨none, none⟩, fun _ => .error (.text []), fun _ => none, ⟨none, true⟩⟩
  network := ⟨⟨none, none⟩, fun _ => .error (.text []), fun _ => none, ⟨none, true⟩⟩

def webPod : Pod := ⟨"default", "web"⟩

def upAndDown : Text → List PodCall := fun _ => [.setUp quiet webPod [] [], .tearDown quiet webPod]

def plain : Settings := ⟨none, [], fun _ => []⟩

/-- The steps of some actors, one after the other. -/
def advanceAll (actors : List Actor) (p : Thread.Pool State Actor (Outcome GoError Unit)) :
    Thread.Pool State Actor (Outcome GoError Unit) :=
  actors.foldl (fun p a => p.advance a) p

theorem reaches_advanceAll (actors : List Actor) (p : Thread.Pool State Actor (Outcome GoError Unit)) :
    p.Reaches (advanceAll actors p) :=
  List.foldlRecOn _ _ (Reachable.start rfl) fun _ hp _ _ => Reachable.call hp trivial

/-- A sandbox is set up and torn down after a first look at the directory. -/
def tornDown (checkpoints : Dir Core.Blob) : Thread.Pool State Actor (Outcome GoError Unit) :=
  advanceAll (.host 0 :: List.replicate 12 (.pod "c1"))
    (start plain (initial [] [] checkpoints) upAndDown fun _ => .sync (bridgeDir "net"))

theorem wellTyped_mixedConfig : Core.mixedConfig.WellTyped := ⟨by decide, by decide⟩

theorem getDefaultCNINetwork_bridgeDir (name : Text) :
    getDefaultCNINetwork [] [] (bridgeDir name) = .ok ⟨name, bridge name, [], []⟩ := rfl

theorem calls_detach_tornDown :
    (tornDown fun _ => none).threads (.pod "c1") = .done (.ok ()) ∧
      ¬ ∃ l, ("c1".toList, l) ∈ (tornDown fun _ => none).state.attached := by
  have hconfig : ∀ id : Text, ((fun _ => Core.mixedConfig) id).WellTyped := fun _ => wellTyped_mixedConfig
  have hdone : (tornDown fun _ => none).threads (.pod "c1") = .done (.ok ()) := rfl
  refine ⟨hdone, fun ⟨l, hl⟩ => ?_⟩
  have hdetached := (@calls_detach plain [] [] (fun _ => none) _ upAndDown (fun _ => .sync (bridgeDir "net")) _
    (bridge "net") hconfig nofun nofun (fun i d n hi hn => by
      cases hi
      rw [getDefaultCNINetwork_bridgeDir] at hn
      cases hn
      rfl) (reaches_advanceAll _ _)).2.2 "c1" [_] quiet webPod rfl nofun hdone l hl
  cases hdetached

/-- A sandbox of a network that was replaced. -/
def replaced : State where
  plugin := { confDir := [], binDirs := [], defaultNetwork := some ⟨"new", bridge "new", [], []⟩ }
  podCidr := []
  checkpoints := fun _ => none
  attached := [("c1", bridge "net")]
  requests := []

/-- The checkpoints of a config with one host port. -/
def mixedCheckpoints : Dir Core.Blob := fun _ => some (.json (Core.checkpointOf plain.spew Core.mixedConfig).toJson)

theorem requests_mapped_tornDown : ∃ r ∈ (tornDown mixedCheckpoints).state.requests, r.command = .del ∧
    r.rt.portMappings = [⟨8080, 80, "tcp", "127.0.0.1"⟩] := by
  have hconfig : ∀ id : Text, ((fun _ => Core.mixedConfig) id).WellTyped := fun _ => wellTyped_mixedConfig
  have hlength : 1 < (tornDown mixedCheckpoints).state.requests.length := by decide
  refine ⟨_, List.getElem_mem hlength, rfl, ?_⟩
  have hcheckpoints : ∀ (id : Text) blob, mixedCheckpoints id = some blob →
      blob = .json (Core.checkpointOf plain.spew ((fun _ => Core.mixedConfig) id)).toJson :=
    fun _ _ h => (Option.some.inj h).symm
  rcases requests_mapped hconfig hcheckpoints (fun _ h => nomatch h) (reaches_advanceAll _ _) (List.getElem_mem hlength) with
    h | ⟨-, hlose | ⟨call, hcall, hlookup⟩⟩
  · exact h
  · cases hlose
  · refine absurd ?_ hlookup
    simp only [upAndDown, List.mem_cons, List.not_mem_nil, or_false] at hcall
    rcases hcall with rfl | rfl <;> exact ⟨Or.inl rfl, Or.inl rfl⟩

end CriDockerd.Cni
