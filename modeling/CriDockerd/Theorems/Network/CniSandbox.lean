import CriDockerd.Theorems.Network.CniPods

/-! The sandbox handlers know a network plugin by the lookups of port mappings that a call makes and by its result
    (`Core.PluginCall`). A call of the CNI plugin is such a call. -/

namespace CriDockerd.Cni
open Text Store

def panics {ε α : Type} : Outcome ε α → Bool
  | .panic => true
  | _ => false

/-- What is done to the checkpoints is what lookups for the sandbox do, one of which panics if the thread does. -/
def Acts {ε α : Type} (ds : Core.DockerService) (id : Text) (t : Thread State (Outcome ε α)) (s : State) : Prop :=
  (t.run s).2.plugin = s.plugin ∧
    ∃ lookups, Core.lookUpAll ds id lookups s.checkpoints = (panics (t.run s).1, (t.run s).2.checkpoints)

section
variable {ds : Core.DockerService} {id : Text} {s : State}

/-! ### Lookups -/

theorem lookUpAll_append {faults : List Core.CheckpointFaults} {dir dir' : Dir Core.Blob}
    (h : Core.lookUpAll ds id faults dir = (false, dir')) (later : List Core.CheckpointFaults) :
    Core.lookUpAll ds id (faults ++ later) dir = Core.lookUpAll ds id later dir' := by
  induction faults generalizing dir with
  | nil =>
    cases h
    rfl
  | cons f faults ih =>
    rw [Core.lookUpAll] at h
    rw [List.cons_append, Core.lookUpAll]
    generalize Core.getPodPortMappings ds.spew f id dir = result at h ⊢
    obtain ⟨_ | _ | _, dir''⟩ := result
    · exact ih h
    · exact ih h
    · cases h

namespace Acts
variable {ε α β γ : Type}

theorem pure {o : Outcome ε α} (ho : o ≠ .panic) : Acts ds id (Pure.pure o) s := by
  refine ⟨rfl, [], ?_⟩
  cases o with
  | panic => exact absurd rfl ho
  | error err => rfl
  | ok a => rfl

theorem of_run {t : Thread State β} {r : β} {k : β → Thread State (Outcome ε α)} (ht : t.run s = (r, s))
    (hk : Acts ds id (k r) s) : Acts ds id (t >>= k) s := by
  unfold Acts
  rw [Thread.run_bind, ht]
  exact hk

theorem bind {t : Thread State (Outcome γ α)} {k : Outcome γ α → Thread State (Outcome ε β)} (ht : Acts ds id t s)
    (hpanic : k .panic = Pure.pure .panic) (hk : ∀ o u, o ≠ .panic → u.plugin = s.plugin → Acts ds id (k o) u) :
    Acts ds id (t >>= k) s := by
  obtain ⟨hplugin, lookups, hlookups⟩ := ht
  unfold Acts
  rw [Thread.run_bind]
  generalize t.run s = result at hplugin hlookups
  obtain ⟨o, u⟩ := result
  cases o with
  | panic =>
    rw [hpanic]
    exact ⟨hplugin, lookups, hlookups⟩
  | error err =>
    obtain ⟨hplugin', lookups', hlookups'⟩ := hk (.error err) u nofun hplugin
    exact ⟨hplugin'.trans hplugin, lookups ++ lookups', (lookUpAll_append hlookups lookups').trans hlookups'⟩
  | ok a =>
    obtain ⟨hplugin', lookups', hlookups'⟩ := hk (.ok a) u nofun hplugin
    exact ⟨hplugin'.trans hplugin, lookups ++ lookups', (lookUpAll_append hlookups lookups').trans hlookups'⟩

end Acts

/-! ### Calls of the CNI plugin -/

variable {settings : Settings} {env : NetworkEnv} {pod : Pod} {netnsPath : Text} {annotations options : Core.Labels}
  {n : CniNetwork}

theorem acts_getPodPortMappings (hspew : settings.spew = ds.spew) (faults : Core.CheckpointFaults) :
    Acts ds id (getPodPortMappings settings faults id) s := by
  refine ⟨rfl, [faults], ?_⟩
  rw [getPodPortMappings, Thread.run_atom, Core.lookUpAll, hspew]
  generalize Core.getPodPortMappings ds.spew faults id s.checkpoints = result
  obtain ⟨_ | _ | _, dir⟩ := result <;> rfl

theorem acts_buildCNIRuntimeConf (hspew : settings.spew = ds.spew) :
    Acts ds id (buildCNIRuntimeConf settings env pod id netnsPath annotations options) s := by
  refine (acts_getPodPortMappings hspew env.lookup).bind rfl fun o u ho _ => ?_
  cases o with
  | panic => exact absurd rfl ho
  | error err => exact Acts.pure nofun
  | ok portMappings =>
    dsimp only
    cases extractPodBandwidthResources env.parseQuantity annotations with
    | error err => exact Acts.pure nofun
    | ok bandwidth =>
      refine Acts.of_run rfl ?_
      cases checkDNS env.unmarshalDNS options with
      | some err => exact Acts.pure nofun
      | none => exact Acts.pure nofun

theorem acts_requestNetwork {command : Command} {ignored : GoError → Bool} {rt : RuntimeConf}
    (hn : n.networkConfig.plugins ≠ []) : Acts ds id (requestNetwork command env ignored (some n) rt) s := by
  refine ⟨rfl, [], ?_⟩
  rw [requestNetwork, Thread.run_atom]
  dsimp only
  split
  · rfl
  · split
    · rfl
    · rfl

theorem acts_addToNetwork (hspew : settings.spew = ds.spew) (hn : n.networkConfig.plugins ≠ []) :
    Acts ds id (addToNetwork settings env (some n) pod id netnsPath annotations options) s := by
  refine (acts_buildCNIRuntimeConf hspew).bind rfl fun o u ho _ => ?_
  cases o with
  | panic => exact absurd rfl ho
  | error err => exact Acts.pure nofun
  | ok rt => exact acts_requestNetwork hn

theorem acts_deleteFromNetwork (hspew : settings.spew = ds.spew) (hn : n.networkConfig.plugins ≠ []) :
    Acts ds id (deleteFromNetwork settings env (some n) pod id netnsPath annotations) s := by
  refine (acts_buildCNIRuntimeConf hspew).bind rfl fun o u ho _ => ?_
  cases o with
  | panic => exact absurd rfl ho
  | error err => exact Acts.pure nofun
  | ok rt => exact acts_requestNetwork hn

theorem acts_addToLoNetwork (hspew : settings.spew = ds.spew)
    (hlo : ∀ n, settings.loNetwork = some n → n.networkConfig.plugins ≠ []) :
    Acts ds id (addToLoNetwork settings env pod id netnsPath annotations options) s := by
  unfold addToLoNetwork
  split
  · exact Acts.pure nofun
  · rename_i n hn
    exact acts_addToNetwork hspew (hlo n hn)

theorem acts_deleteFromLoNetwork (hspew : settings.spew = ds.spew)
    (hlo : ∀ n, settings.loNetwork = some n → n.networkConfig.plugins ≠ []) :
    Acts ds id (deleteFromLoNetwork settings env pod id netnsPath) s := by
  unfold deleteFromLoNetwork
  split
  · exact Acts.pure nofun
  · rename_i n hn
    exact acts_deleteFromNetwork hspew (hlo n hn)

theorem run_checkInitialized (s : State) : ∃ o, checkInitialized.run s = (o, s) ∧ o ≠ .panic ∧
    (o = .ok () → ∃ n, s.plugin.defaultNetwork = some n) := by
  rw [checkInitialized, Thread.run_bind, getDefaultNetwork, Thread.run_atom]
  dsimp only
  cases hdefault : s.plugin.defaultNetwork with
  | none => exact ⟨_, rfl, nofun, nofun⟩
  | some n =>
    dsimp only
    rw [Thread.run_bind, Thread.run_atom, hdefault]
    dsimp only
    split
    · refine ⟨_, rfl, ?_, fun _ => ⟨n, rfl⟩⟩
      split <;> nofun
    · exact ⟨_, rfl, nofun, fun _ => ⟨n, rfl⟩⟩

theorem acts_setUpPod {env : PodEnv} (hspew : settings.spew = ds.spew)
    (hlo : ∀ n, settings.loNetwork = some n → n.networkConfig.plugins ≠ [])
    (hdefault : ∀ n, s.plugin.defaultNetwork = some n → n.networkConfig.plugins ≠ []) :
    Acts ds id (setUpPod settings env pod id annotations options) s := by
  obtain ⟨o, hrun, ho, hinit⟩ := run_checkInitialized s
  refine Acts.of_run hrun ?_
  cases o with
  | panic => exact absurd rfl ho
  | error err => exact Acts.pure nofun
  | ok =>
    obtain ⟨n, hn⟩ := hinit rfl
    dsimp only
    cases env.getNetNS with
    | error err => exact Acts.pure nofun
    | ok netnsPath =>
      refine (acts_addToLoNetwork hspew hlo).bind rfl fun o u ho hu => ?_
      cases o with
      | panic => exact absurd rfl ho
      | error err => exact Acts.pure nofun
      | ok =>
        have hread : getDefaultNetwork.run u = (some n, u) := by rw [getDefaultNetwork, Thread.run_atom, hu, hn]
        exact Acts.of_run hread (acts_addToNetwork hspew (hdefault n hn))

theorem acts_tearDownPod {env : PodEnv} (hspew : settings.spew = ds.spew)
    (hlo : ∀ n, settings.loNetwork = some n → n.networkConfig.plugins ≠ [])
    (hdefault : ∀ n, s.plugin.defaultNetwork = some n → n.networkConfig.plugins ≠ []) :
    Acts ds id (tearDownPod settings env pod id) s := by
  obtain ⟨o, hrun, ho, hinit⟩ := run_checkInitialized s
  refine Acts.of_run hrun ?_
  cases o with
  | panic => exact absurd rfl ho
  | error err => exact Acts.pure nofun
  | ok =>
    obtain ⟨n, hn⟩ := hinit rfl
    refine (acts_deleteFromLoNetwork hspew hlo).bind rfl fun o u ho hu => ?_
    have hnetwork : Acts ds id (getDefaultNetwork >>= fun network =>
        deleteFromNetwork settings env.network network pod id env.netnsPath []) u := by
      have hread : getDefaultNetwork.run u = (some n, u) := by rw [getDefaultNetwork, Thread.run_atom, hu, hn]
      exact Acts.of_run hread (acts_deleteFromNetwork hspew (hdefault n hn))
    cases o with
    | panic => exact absurd rfl ho
    | error err => exact hnetwork
    | ok => exact hnetwork

end

/-! ### Refinement -/

/-- What the handlers of the sandboxes get: the plugin manager puts the pod before an error. -/
def managed (ds : Core.DockerService) (failed : Text) (pod : Pod) : Outcome GoError Unit → Outcome GoError Unit
  | .ok () => .ok ()
  | .panic => .panic
  | .error err =>
    .error (.text ("networkPlugin " ++ ds.pluginName ++ ' ' :: failed ++ ' ' ::
      quote (pod.name ++ '_' :: pod.namespace_) ++ " network: " ++ err.error))

def PodCall.managed (ds : Core.DockerService) : PodCall → Outcome GoError Unit → Outcome GoError Unit
  | .setUp _ pod _ _ => Cni.managed ds "failed to set up pod" pod
  | .tearDown _ pod => Cni.managed ds "failed to teardown pod" pod

/-- The call as the handlers of the sandboxes make it, of a plugin of which only lookups and result are known. -/
def PodCall.abstract (ds : Core.DockerService) (c : Core.PluginCall) (id : Text) :
    PodCall → Core.State → Outcome GoError Unit × Core.State
  | .setUp _ pod _ _ => Core.setUpPod ds c pod.namespace_ pod.name id
  | .tearDown _ pod => Core.tearDownPod ds c pod.namespace_ pod.name id

/-- Calls one after the other, with their results. -/
def runCalls (settings : Settings) : List (Text × PodCall) → State → List (Outcome GoError Unit) × State
  | [], s => ([], s)
  | (id, call) :: rest, s =>
    let result := (call.run settings id).run s
    let results := runCalls settings rest result.2
    (result.1 :: results.1, results.2)

def abstractCalls (ds : Core.DockerService) :
    List ((Text × PodCall) × Core.PluginCall) → Core.State → List (Outcome GoError Unit) × Core.State
  | [], t => ([], t)
  | ((id, call), c) :: rest, t =>
    let result := call.abstract ds c id t
    let results := abstractCalls ds rest result.2
    (result.1 :: results.1, results.2)

section
variable {ds : Core.DockerService} {settings : Settings}

theorem callPlugin_of_acts {id : Text} {o : Outcome GoError Unit} {dir : Dir Core.Blob} {lookups : List Core.CheckpointFaults}
    {t : Core.State} (h : Core.lookUpAll ds id lookups t.checkpoints = (panics o, dir)) (event : Bool → Core.Event)
    (failed : Text) (pod : Pod) :
    ∃ c, (Core.callPlugin ds event failed c pod.namespace_ pod.name id t).2.checkpoints = dir ∧
      (Core.callPlugin ds event failed c pod.namespace_ pod.name id t).1 = managed ds failed pod o := by
  cases o with
  | ok =>
    refine ⟨⟨lookups, none⟩, ?_⟩
    simp only [Core.callPlugin, h, panics]
    exact ⟨rfl, rfl⟩
  | panic =>
    refine ⟨⟨lookups, none⟩, ?_⟩
    simp only [Core.callPlugin, h, panics]
    exact ⟨rfl, rfl⟩
  | error err =>
    refine ⟨⟨lookups, some err⟩, ?_⟩
    simp only [Core.callPlugin, h, panics]
    exact ⟨rfl, rfl⟩

theorem podCall_simulated (hspew : settings.spew = ds.spew)
    (hlo : ∀ n, settings.loNetwork = some n → n.networkConfig.plugins ≠ []) {s : State} {t : Core.State}
    (hdefault : ∀ n, s.plugin.defaultNetwork = some n → n.networkConfig.plugins ≠ []) (hdir : t.checkpoints = s.checkpoints)
    (id : Text) (call : PodCall) :
    ((call.run settings id).run s).2.plugin = s.plugin ∧
      ∃ c, (call.abstract ds c id t).2.checkpoints = ((call.run settings id).run s).2.checkpoints ∧
        (call.abstract ds c id t).1 = call.managed ds ((call.run settings id).run s).1 := by
  have hacts : Acts ds id (call.run settings id) s := by
    cases call with
    | setUp env pod annotations options => exact acts_setUpPod hspew hlo hdefault
    | tearDown env pod => exact acts_tearDownPod hspew hlo hdefault
  obtain ⟨hplugin, lookups, hlookups⟩ := hacts
  refine ⟨hplugin, ?_⟩
  rw [← hdir] at hlookups
  generalize (call.run settings id).run s = result at hlookups
  obtain ⟨o, u⟩ := result
  cases call with
  | setUp env pod annotations options => exact callPlugin_of_acts hlookups _ _ pod
  | tearDown env pod => exact callPlugin_of_acts hlookups _ _ pod

/-- Whatever the CNI plugin does in a run of calls, a plugin of which only the lookups and the results are known can do: with
    the same checkpoints in the end, and results that the sandbox handlers cannot tell from those of the CNI plugin. So what
    holds of the handlers with every such plugin holds of them with the CNI plugin. -/
theorem runCalls_simulated (hspew : settings.spew = ds.spew)
    (hlo : ∀ n, settings.loNetwork = some n → n.networkConfig.plugins ≠ []) (calls : List (Text × PodCall)) {s : State}
    {t : Core.State} (hdefault : ∀ n, s.plugin.defaultNetwork = some n → n.networkConfig.plugins ≠ [])
    (hdir : t.checkpoints = s.checkpoints) :
    ∃ cs, cs.length = calls.length ∧
      (abstractCalls ds (calls.zip cs) t).2.checkpoints = (runCalls settings calls s).2.checkpoints ∧
      (abstractCalls ds (calls.zip cs) t).1 =
        List.zipWith (fun call o => call.2.managed ds o) calls (runCalls settings calls s).1 := by
  induction calls generalizing s t with
  | nil => exact ⟨[], rfl, hdir, rfl⟩
  | cons call calls ih =>
    obtain ⟨id, call⟩ := call
    obtain ⟨hplugin, c, hdir', hresult⟩ := podCall_simulated hspew hlo hdefault hdir id call
    obtain ⟨cs, hlength, hend, hresults⟩ := ih (hplugin.symm ▸ hdefault) hdir'
    refine ⟨c :: cs, congrArg (· + 1) hlength, hend, ?_⟩
    show (call.abstract ds c id t).1 :: (abstractCalls ds (calls.zip cs) (call.abstract ds c id t).2).1 = _
    rw [hresult, hresults]
    rfl

end

/-- A sandbox is set up, and then torn down. -/
theorem runCalls_simulated_upAndDown :
    ∃ cs, cs.length = 2 ∧
      (abstractCalls ⟨"cni".toList, plain.spew⟩ (((upAndDown "c1".toList).map ("c1".toList, ·)).zip cs)
        (.initial (fun _ => none) fun _ => none)).1 = [.ok (), .ok ()] := by
  have hdefault : ∀ n, replaced.plugin.defaultNetwork = some n → n.networkConfig.plugins ≠ [] := fun n hn => by
    cases hn
    decide
  obtain ⟨cs, hlength, -, hresults⟩ := @runCalls_simulated ⟨"cni", plain.spew⟩ plain rfl nofun
    ((upAndDown "c1").map ("c1", ·)) replaced (.initial (fun _ => none) fun _ => none) hdefault rfl
  exact ⟨cs, hlength, hresults⟩

end CriDockerd.Cni
