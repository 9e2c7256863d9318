import CriDockerd.Core.Status
import CriDockerd.Theorems.Sandbox.NetworkReady

/-! A sandbox that was stopped with success stays down: its status has no addresses, and another StopPodSandbox
    does not tear the network down again. The mark of the sandbox says so if the network was torn down. A sandbox
    in the host's network keeps the mark that it had, and is told by its container or by its checkpoint; when both
    are gone, the next StopPodSandbox takes it for one with a network of its own. -/

namespace CriDockerd.Core
open Text Store

variable {ds : DockerService} {s t : State} {c id : Text}

/-! ### What is known of the network of a sandbox -/

/-- The host-network flag of a checkpoint, if it can be read. -/
def checkpointedHostNetwork (ds : DockerService) (id : Text) (dir : Dir Blob) : Option Bool :=
  match getCheckpoint (podSandboxCheckpoint ds.spew) none id emptyCheckpoint dir with
  | .ok checkpoint => checkpoint.getData.map fun (_, _, _, _, hostNetwork) => hostNetwork
  | _ => none

/-- The container and the checkpoint of a sandbox say the same of its network. -/
def Agreeing (ds : DockerService) (c : Text) (s : State) : Prop :=
  ∀ container flag, s.containers c = some container → checkpointedHostNetwork ds c s.checkpoints = some flag →
    (networkNamespaceMode container = .node ↔ flag = true)

/-- Whatever there is of a sandbox says that it is in the host's network. -/
structure OnHost (ds : DockerService) (c : Text) (s : State) : Prop where
  container : ∀ container, s.containers c = some container → networkNamespaceMode container = .node
  checkpoint : ∀ flag, checkpointedHostNetwork ds c s.checkpoints = some flag → flag = true

/-- The container and the checkpoint of a sandbox may be gone. -/
structure Fades (c : Text) (s t : State) : Prop where
  container : t.containers c = s.containers c ∨ t.containers c = none
  checkpoint : t.checkpoints c = s.checkpoints c ∨ t.checkpoints c = none

theorem getCheckpoint_congr {dir dir' : Dir Blob} (h : dir' id = dir id) (fsErr : Option GoError) :
    getCheckpoint (podSandboxCheckpoint ds.spew) fsErr id emptyCheckpoint dir' =
      getCheckpoint (podSandboxCheckpoint ds.spew) fsErr id emptyCheckpoint dir := by
  simp only [getCheckpoint, Store.read, h]

theorem getCheckpoint_ok {fsErr : Option GoError} {dir : Dir Blob} {checkpoint : PodSandboxCheckpoint}
    (h : getCheckpoint (podSandboxCheckpoint ds.spew) fsErr id emptyCheckpoint dir = .ok checkpoint) :
    fsErr = none ∧ dir id ≠ none := by
  cases hread : Store.read fsErr id dir with
  | error err =>
    obtain ⟨err', herr⟩ : ∃ err', getCheckpoint (podSandboxCheckpoint ds.spew) fsErr id emptyCheckpoint dir = .error err' :=
      getCheckpoint_of_read_error hread
    rw [herr] at h
    cases h
  | ok blob =>
    obtain ⟨-, hfault, hblob⟩ := read_ok hread
    refine ⟨hfault, ?_⟩
    rw [hblob]
    rintro ⟨⟩

theorem checkpointedHostNetwork_of_ok {fsErr : Option GoError} {dir : Dir Blob} {checkpoint : PodSandboxCheckpoint}
    {version name ns : Text} {pms : List (Option PortMapping)} {flag : Bool}
    (h : getCheckpoint (podSandboxCheckpoint ds.spew) fsErr id emptyCheckpoint dir = .ok checkpoint)
    (hdata : checkpoint.getData = some (version, name, ns, pms, flag)) : checkpointedHostNetwork ds id dir = some flag := by
  obtain ⟨rfl, -⟩ := getCheckpoint_ok h
  simp only [checkpointedHostNetwork, h, hdata, Option.map_some]

theorem checkpointedHostNetwork_of_none {dir : Dir Blob} (h : dir id = none) : checkpointedHostNetwork ds id dir = none := by
  unfold checkpointedHostNetwork
  split
  · rename_i checkpoint hget
    exact absurd h (getCheckpoint_ok hget).2
  · rfl

theorem checkpointedHostNetwork_fades {dir dir' : Dir Blob} {flag : Bool} (hfades : dir' id = dir id ∨ dir' id = none)
    (h : checkpointedHostNetwork ds id dir' = some flag) : checkpointedHostNetwork ds id dir = some flag := by
  rcases hfades with heq | hnone
  · rw [← h, checkpointedHostNetwork, checkpointedHostNetwork, getCheckpoint_congr heq]
  · rw [checkpointedHostNetwork_of_none hnone] at h
    cases h

theorem Agreeing.fades (h : Agreeing ds c s) (hfades : Fades c s t) : Agreeing ds c t := by
  intro container flag hcontainer hflag
  refine h container flag ?_ (checkpointedHostNetwork_fades hfades.checkpoint hflag)
  rcases hfades.container with heq | hnone
  · exact heq ▸ hcontainer
  · rw [hnone] at hcontainer
    cases hcontainer

theorem OnHost.fades (h : OnHost ds c s) (hfades : Fades c s t) : OnHost ds c t where
  container container hcontainer := by
    rcases hfades.container with heq | hnone
    · exact h.container container (heq ▸ hcontainer)
    · rw [hnone] at hcontainer
      cases hcontainer
  checkpoint flag hflag := h.checkpoint flag (checkpointedHostNetwork_fades hfades.checkpoint hflag)

/-! ### RunPodSandbox -/

section
variable {env : RunEnv} {config : PodSandboxConfig} {runtimeHandler : Text} {exit : Exit} {events : List Event}

theorem networkNamespaceMode_sandboxContainer (name : Text) :
    networkNamespaceMode (sandboxContainer ds env config name) = .node ↔ config.network = .node := by
  constructor
  · intro hmode
    by_contra hnetwork
    have hne : (sandboxContainer ds env config name).networkMode ≠ some namespaceModeHost := fun heq =>
      sandboxNetworkMode_ne_host hnetwork ds.pluginName (Option.some.inj heq)
    rw [networkNamespaceMode, if_neg hne] at hmode
    cases hmode
  · intro hnetwork
    have hlinux : config.linux = some .node := by
      unfold PodSandboxConfig.network at hnetwork
      cases hlinux : config.linux with
      | none =>
        rw [hlinux] at hnetwork
        cases hnetwork
      | some network =>
        rw [hlinux] at hnetwork
        exact congrArg some hnetwork
    refine if_pos ?_
    simp only [sandboxContainer, sandboxNetworkMode, hlinux, modifyHostOptionsForSandbox, if_true]

theorem checkpointedHostNetwork_written (hconfig : config.WellTyped) (hkey : validateKey id = none) {dir : Dir Blob}
    (hdir : dir id = some (.json (checkpointOf ds.spew config).toJson)) :
    checkpointedHostNetwork ds id dir = some (decide (config.network = .node)) :=
  checkpointedHostNetwork_of_ok (getCheckpoint_written ds.spew hconfig hkey hdir) rfl

theorem SandboxExit.writes_of_ok (h : SandboxExit env config c exit events) (hok : exit.result = .ok ()) :
    Writes env c ∧ exit.resp = some c := by
  cases h with
  | hostNetwork hw => exact ⟨hw, rfl⟩
  | connected hw => exact ⟨hw, rfl⟩
  | _ => cases hok

/-- A success is one of the sandbox that was created, and its checkpoint was written. Without a write the
    checkpoints stay as they are. -/
theorem runPodSandbox_created (hconfig : config.WellTyped) (hcreate : (createSandbox ds env config runtimeHandler s).1 = .ok c) :
    ((runPodSandbox ds env config runtimeHandler s).2.1 = .ok () →
      Writes env c ∧ (runPodSandbox ds env config runtimeHandler s).1 = some c) ∧
    (¬Writes env c → (runPodSandbox ds env config runtimeHandler s).2.2.checkpoints = s.checkpoints) := by
  cases hcreated : createSandbox ds env config runtimeHandler s with
  | mk r u =>
    rw [hcreated] at hcreate
    obtain rfl : r = .ok c := hcreate
    rcases createSandbox_cases hcreated with ⟨err, hr, -⟩ | ⟨c', hr, hnew⟩
    · cases hr
    cases hr
    rw [runPodSandbox, hcreated]
    dsimp only
    constructor
    · intro hok
      cases hstart : startSandbox ds env config c (u.setNetworkReady c false) with
      | mk exit v =>
        obtain ⟨events, hstarted⟩ := startSandbox_started (s := u.setNetworkReady c false) hconfig hnew.container hstart
        rw [hstart] at hok
        exact hstarted.way.writes_of_ok hok
    · intro hw
      have hfailed : ∃ err, createCheckpoint (podSandboxCheckpoint ds.spew) env.writeCheckpoint c
          (constructPodSandboxCheckpoint config) u.checkpoints = (.error err, u.checkpoints) := createCheckpoint_failed ds.spew hw
      obtain ⟨err, hfailed⟩ := hfailed
      have hstart : startSandbox ds env config c (u.setNetworkReady c false) =
          (⟨none, .error (.text err.error), some (.text err.error)⟩, u.setNetworkReady c false) := by
        rw [startSandbox]
        dsimp only [State.setNetworkReady]
        rw [hfailed]
      rw [hstart]
      exact hnew.checkpoints

theorem Ran.agreeing (h : Ran ds env config c exit events s t) (hconfig : config.WellTyped)
    (hnone : ¬Writes env c → t.checkpoints c = none) : Agreeing ds c t := by
  intro container flag hcontainer hflag
  obtain ⟨name, hname⟩ := h.container
  rw [hname] at hcontainer
  cases hcontainer
  rw [networkNamespaceMode_sandboxContainer]
  have habsent : t.checkpoints c = none → (config.network = .node ↔ flag = true) := by
    intro habsent
    rw [checkpointedHostNetwork_of_none habsent] at hflag
    cases hflag
  by_cases hw : Writes env c
  · rcases h.written hw with hwritten | hgone
    · rw [checkpointedHostNetwork_written hconfig hw.1 hwritten] at hflag
      cases hflag
      exact decide_eq_true_iff.symm
    · exact habsent hgone
  · exact habsent (hnone hw)

end

/-! ### StopPodSandbox -/

section
variable {env : StopEnv}

theorem sandboxInfo_host (hagree : Agreeing ds id s) {ns name : Text} (h : (sandboxInfo ds env id s).1 = .ok (ns, name, true)) :
    OnHost ds id s := by
  rw [sandboxInfo] at h
  cases hdetails : getPodSandboxDetails env.inspectContainer id s with
  | ok details =>
    obtain ⟨container, metadata⟩ := details
    rw [hdetails] at h
    have hcontainer := getPodSandboxDetails_ok hdetails
    have hmode : networkNamespaceMode container = .node := by
      simp only [Outcome.ok.injEq, Prod.mk.injEq, decide_eq_true_eq] at h
      exact h.2.2
    refine ⟨fun container' hcontainer' => ?_, fun flag hflag => (hagree container flag hcontainer hflag).mp hmode⟩
    rw [hcontainer] at hcontainer'
    cases hcontainer'
    exact hmode
  | error statusErr =>
    rw [hdetails] at h
    dsimp only at h
    split at h
    · cases h
    · rename_i checkpoint hget
      split at h
      · cases h
      · rename_i version name' ns' pms flag hdata
        cases h
        have hflag := checkpointedHostNetwork_of_ok hget hdata
        refine ⟨fun container hcontainer => (hagree container true hcontainer hflag).mpr rfl, fun flag hflag' => ?_⟩
        rw [hflag] at hflag'
        exact (Option.some.inj hflag').symm
    · split at h <;> cases h

/-- Neither Docker nor the checkpoint tells anything of the sandbox, and its mark does not keep StopPodSandbox
    from tearing the network down. -/
structure Lost (ds : DockerService) (env : StopEnv) (id : Text) (s : State) : Prop where
  ready : s.networkReady id ≠ some false
  container : ∃ err, getPodSandboxDetails env.inspectContainer id s = .error err ∧ isContainerNotFoundError err = true
  checkpoint : ∃ err,
    getCheckpoint (podSandboxCheckpoint ds.spew) env.checkpoint.read id emptyCheckpoint s.checkpoints = .error err

theorem OnHost.sandboxInfo (h : OnHost ds id s) (hready : s.networkReady id ≠ some false) :
    (∃ ns name, (sandboxInfo ds env id s).1 = .ok (ns, name, false)) ↔ Lost ds env id s := by
  rw [Core.sandboxInfo]
  constructor
  · rintro ⟨ns, name, hinfo⟩
    cases hdetails : getPodSandboxDetails env.inspectContainer id s with
    | ok details =>
      obtain ⟨container, metadata⟩ := details
      rw [hdetails] at hinfo
      have hmode := h.container container (getPodSandboxDetails_ok hdetails)
      simp only [hmode, decide_true, Outcome.ok.injEq, Prod.mk.injEq, Bool.true_eq_false, and_false] at hinfo
    | error statusErr =>
      rw [hdetails] at hinfo
      dsimp only at hinfo
      split at hinfo
      · cases hinfo
      · rename_i checkpoint hget
        split at hinfo
        · cases hinfo
        · rename_i version name' ns' pms flag hdata
          have hflag := h.checkpoint flag (checkpointedHostNetwork_of_ok hget hdata)
          subst hflag
          cases hinfo
      · rename_i checkpointErr hget
        split at hinfo
        · rename_i hfound
          exact ⟨hready, ⟨statusErr, hdetails, hfound⟩, checkpointErr, hget⟩
        · cases hinfo
  · rintro ⟨-, ⟨statusErr, hdetails, hfound⟩, checkpointErr, hget⟩
    rw [hdetails]
    dsimp only
    rw [hget]
    dsimp only
    rw [if_pos hfound]
    exact ⟨[], [], rfl⟩

/-- The calls of TearDownPod for a sandbox. -/
def tearDowns (c : Text) (s : State) : Nat := s.history.countP fun e => e = .tearDownPod c true ∨ e = .tearDownPod c false

theorem tearDowns_same (h : t.history = s.history) : tearDowns c t = tearDowns c s := by
  rw [tearDowns, tearDowns, h]

theorem tearDowns_tornDown {ok : Bool} (h : t.history = .tearDownPod c ok :: s.history) : tearDowns c t = tearDowns c s + 1 := by
  rw [tearDowns, h, List.countP_cons_of_pos]
  · rfl
  · cases ok <;> simp

end

/-! ### Runs -/

/-- A service, with the sandboxes that were stopped with success and neither removed nor made anew since. -/
structure Watched where
  state : State
  stopped : Text → Bool

namespace Watched

/-- A service that has just started; the sandboxes on the host were made from configs. -/
def Start (ds : DockerService) (w : Watched) : Prop :=
  (∃ checkpoints containers, w.state = State.initial checkpoints containers) ∧ (∀ c, Agreeing ds c w.state) ∧
    ∀ c, w.stopped c = false

def call (ds : DockerService) (call : Call) (w : Watched) : Watched where
  state := call.run ds w.state
  stopped := match call with
    | .stopPodSandbox env id =>
      if (stopPodSandbox ds env id w.state).1 = .ok () then Function.update w.stopped id true else w.stopped
    | .removePodSandbox _ id => Function.update w.stopped id false
    | .runPodSandbox env config runtimeHandler =>
      let (resp, result, _) := runPodSandbox ds env config runtimeHandler w.state
      fun id => if resp = some id ∧ result = .ok () then false else w.stopped id
    | _ => w.stopped

/-- Calls of the handlers, with whatever fails, and containers that go missing. The ID that Docker gives to a
    sandbox is new, or RunPodSandbox returns it. -/
def Allowed (ds : DockerService) (w : Watched) : Call → Prop
  | .runPodSandbox env config runtimeHandler => config.WellTyped ∧
      ∀ id, (createSandbox ds env config runtimeHandler w.state).1 = .ok id →
        (w.state.checkpoints id = none ∧ w.stopped id = false) ∨
          (runPodSandbox ds env config runtimeHandler w.state).2.1 = .ok ()
  | .alterCheckpoint _ _ => False
  | .restart => False
  | _ => True

/-- The states that a watched service gets to. -/
def Reached (ds : DockerService) : Watched → Prop := Reachable (Start ds) (Allowed ds) (Watched.call ds)

/-- A sandbox that was stopped is marked, or nothing says that it has a network of its own. -/
structure Settled (ds : DockerService) (w : Watched) : Prop where
  agreeing : ∀ c, Agreeing ds c w.state
  down : ∀ c, w.stopped c = true → w.state.networkReady c = some false ∨ OnHost ds c w.state

variable {w : Watched}

theorem Settled.kept (h : Settled ds w) (hstopped : w.stopped c = true) (hfades : Fades c w.state t)
    (hready : t.networkReady c = w.state.networkReady c ∨ t.networkReady c = some false) :
    t.networkReady c = some false ∨ OnHost ds c t := by
  rcases h.down c hstopped with hmark | hhost
  · exact Or.inl (hready.elim (·.trans hmark) id)
  · exact Or.inr (hhost.fades hfades)

theorem Settled.lose (h : Settled ds w) (hfades : ∀ c, Fades c w.state t) (hready : t.networkReady = w.state.networkReady) :
    Settled ds ⟨t, w.stopped⟩ where
  agreeing c := (h.agreeing c).fades (hfades c)
  down c hstopped := h.kept hstopped (hfades c) (Or.inl (congrFun hready c))

theorem stopped_of_update {id : Text} (h : Function.update w.stopped id false c = true) : c ≠ id ∧ w.stopped c = true := by
  have hne : c ≠ id := by
    rintro rfl
    rw [Function.update_self] at h
    cases h
  rw [Function.update_of_ne hne] at h
  exact ⟨hne, h⟩

theorem stopped_of_run {env : RunEnv} {config : PodSandboxConfig} {runtimeHandler : Text} {resp : Option Text}
    {result : Outcome GoError Unit} (hrun : runPodSandbox ds env config runtimeHandler w.state = (resp, result, t))
    (h : (w.call ds (.runPodSandbox env config runtimeHandler)).stopped c = true) :
    w.stopped c = true ∧ ¬(resp = some c ∧ result = .ok ()) := by
  simp only [Watched.call, hrun] at h
  split at h
  · cases h
  · rename_i hother
    exact ⟨h, hother⟩

theorem Settled.run (h : Settled ds w) {env : RunEnv} {config : PodSandboxConfig} {runtimeHandler : Text}
    (hallowed : w.Allowed ds (.runPodSandbox env config runtimeHandler)) :
    Settled ds (w.call ds (.runPodSandbox env config runtimeHandler)) := by
  obtain ⟨hconfig, hnew⟩ := hallowed
  cases hrun : Core.runPodSandbox ds env config runtimeHandler w.state with
  | mk resp rest =>
    obtain ⟨result, t⟩ := rest
    have hstate : (w.call ds (.runPodSandbox env config runtimeHandler)).state = t := by
      simp only [Watched.call, Call.run, hrun]
    rcases runPodSandbox_cases hconfig hrun with ⟨err, -, hnot⟩ | ⟨c', exit, events, hcreate, -, hran⟩
    · have hfades : ∀ c, Fades c w.state t := fun c => ⟨hnot.containers c, Or.inl (congrFun hnot.checkpoints c)⟩
      refine ⟨fun c => hstate ▸ (h.agreeing c).fades (hfades c), fun c hc => ?_⟩
      rw [hstate]
      exact h.kept (stopped_of_run hrun hc).1 (hfades c) (Or.inl (congrFun hnot.networkReady c))
    obtain ⟨hok, hsame⟩ := runPodSandbox_created hconfig hcreate
    have hfresh := hnew c' hcreate
    rw [hrun] at hok hsame hfresh
    have hfades : ∀ c, c ≠ c' → Fades c w.state t := fun c hc =>
      ⟨hran.otherContainers c hc, Or.inl (hran.otherCheckpoints c hc)⟩
    refine ⟨fun c => ?_, fun c hc => ?_⟩
    · rw [hstate]
      by_cases hne : c = c'
      · subst hne
        refine hran.agreeing hconfig fun hw => ?_
        rcases hfresh with ⟨hnone, -⟩ | hresult
        · exact (congrFun (hsame hw) c).trans hnone
        · exact absurd (hok hresult).1 hw
      · exact (h.agreeing c).fades (hfades c hne)
    · obtain ⟨hold, hother⟩ := stopped_of_run hrun hc
      have hne : c ≠ c' := by
        rintro rfl
        rcases hfresh with ⟨-, hnone⟩ | hresult
        · rw [hold] at hnone
          cases hnone
        · exact hother ⟨(hok hresult).2, hresult⟩
      rw [hstate]
      refine h.kept hold (hfades c hne) (Or.inl ?_)
      rw [hran.networkReady, Function.update_of_ne hne]

theorem Settled.stop (h : Settled ds w) (env : StopEnv) (id : Text) : Settled ds (w.call ds (.stopPodSandbox env id)) := by
  cases hstop : Core.stopPodSandbox ds env id w.state with
  | mk r t =>
    have hstopped := (stopPodSandbox_path hstop).stopped
    have hfades : ∀ c, Fades c w.state t := fun c =>
      ⟨Or.inl (congrFun hstopped.containers c), hstopped.checkpoints.fades c⟩
    have hready : ∀ c, t.networkReady c = w.state.networkReady c ∨ t.networkReady c = some false := by
      intro c
      rcases hstopped.network with ⟨hready, -⟩ | ⟨hready, -⟩ | ⟨hready, -⟩
      · exact Or.inl (congrFun hready c)
      · exact Or.inl (congrFun hready c)
      · rw [hready]
        exact update_cases _ _ _ _
    have hcall : w.call ds (.stopPodSandbox env id) =
        ⟨t, if r = .ok () then Function.update w.stopped id true else w.stopped⟩ := by
      simp only [Watched.call, Call.run, hstop]
    rw [hcall]
    refine ⟨fun c => (h.agreeing c).fades (hfades c), fun c hc => ?_⟩
    by_cases hold : w.stopped c = true
    · exact h.kept hold (hfades c) (hready c)
    -- The sandbox is stopped by this call.
    dsimp only at hc ⊢
    split at hc
    · rename_i hok
      have hid : c = id := by
        by_contra hne
        rw [Function.update_of_ne hne] at hc
        exact hold hc
      subst hid
      cases stopPodSandbox_network hstop with
      | unknown _ hr => exact absurd hok hr
      | skipped hinfo hskip hsame =>
        rcases hskip with rfl | hmark
        · exact Or.inr ((sandboxInfo_host (h.agreeing c) hinfo).fades (hfades c))
        · exact Or.inl ((congrFun hsame c).trans hmark)
      | tornDown _ _ _ hdown => exact Or.inl (hdown hok)
    · exact absurd hc hold

theorem removePodSandbox_networkReady {env : RemoveEnv} {id : Text} (s : State) (hne : c ≠ id) :
    (removePodSandbox env id s).2.networkReady c = s.networkReady c := by
  obtain ⟨errs, containers, hlisted, -⟩ := removeListed_cases env id s
  have hclear : Function.update s.networkReady id none c = s.networkReady c := Function.update_of_ne hne _ _
  rw [removePodSandbox, hlisted]
  dsimp only [removeSandboxContainer]
  generalize removeContainer env.removeContainer id containers = removed
  obtain ⟨_ | err, containers'⟩ := removed
  · exact hclear
  · dsimp only
    split
    · exact hclear
    · rfl

theorem Settled.remove (h : Settled ds w) (env : RemoveEnv) (id : Text) : Settled ds (w.call ds (.removePodSandbox env id)) := by
  have hremoved := removePodSandbox_removed env id w.state
  have hfades : ∀ c, Fades c w.state (removePodSandbox env id w.state).2 := fun c =>
    ⟨hremoved.containers c, hremoved.checkpoints ▸ (removeCheckpoint_drops _ _ _).fades c⟩
  refine ⟨fun c => (h.agreeing c).fades (hfades c), fun c hc => ?_⟩
  obtain ⟨hne, hold⟩ := stopped_of_update hc
  exact h.kept hold (hfades c) (Or.inl (removePodSandbox_networkReady w.state hne))

theorem Settled.call {call : Call} (h : Settled ds w) (hallowed : w.Allowed ds call) : Settled ds (w.call ds call) := by
  cases call with
  | runPodSandbox env config runtimeHandler => exact h.run hallowed
  | stopPodSandbox env id => exact h.stop env id
  | removePodSandbox env id => exact h.remove env id
  | listPodSandbox env filter =>
    have hstate : (listPodSandbox ds env filter w.state).2 = w.state := listPodSandbox_state env filter w.state
    refine h.lose (fun c => ?_) (congrArg State.networkReady hstate)
    rw [Call.run, hstate]
    exact ⟨Or.inl rfl, Or.inl rfl⟩
  | getPodPortMappings faults id =>
    exact h.lose (fun c => ⟨Or.inl rfl, (getPodPortMappings_drops ds.spew faults id w.state.checkpoints).fades c⟩) rfl
  | loseContainer id =>
    exact h.lose (fun c => ⟨update_cases w.state.containers id none c, Or.inl rfl⟩) rfl
  | alterCheckpoint id content => exact hallowed.elim
  | restart => exact hallowed.elim

theorem Reached.settled (hr : Reached ds w) : Settled ds w := by
  refine Reachable.invariant (Settled ds) ?_ (fun w call h hallowed => h.call hallowed) hr
  rintro w ⟨-, hagree, hnone⟩
  refine ⟨hagree, fun c hc => ?_⟩
  rw [hnone c] at hc
  cases hc

end Watched

/-! ### Sandboxes that were stopped -/

theorem getIPs_down {env : StatusEnv} {container : Container} (hcontainer : s.containers c = some container)
    (h : s.networkReady c = some false ∨ OnHost ds c s) : getIPs ds env c container s = [] := by
  unfold getIPs
  split
  · rfl
  · rcases h with hmark | hhost
    · rw [if_pos hmark]
      split <;> rfl
    · rw [if_pos (hhost.container container hcontainer)]

theorem podSandboxStatus_ok {env : StatusEnv} {status : PodSandboxStatus} (h : podSandboxStatus ds env c s = .ok status) :
    ∃ container, s.containers c = some container ∧ status.ip = (getIPs ds env c container s).headD [] ∧
      status.additionalIps = (getIPs ds env c container s).tail := by
  unfold podSandboxStatus at h
  split at h
  · cases h
  · rename_i container metadata hdetails
    split at h
    · cases h
    · cases h
      exact ⟨container, getPodSandboxDetails_ok hdetails, rfl, rfl⟩

/-- After StopPodSandbox has succeeded for a sandbox, another one tears its network down exactly when the mark
    does not tell that this was done, and neither a container nor a checkpoint can be found; and no status of the
    sandbox has an address. -/
theorem stopped_stays_down_iff {w : Watched} (hr : w.Reached ds) (hstopped : w.stopped c = true) :
    (∀ env, tearDowns c (stopPodSandbox ds env c w.state).2 = tearDowns c w.state ↔ ¬Lost ds env c w.state) ∧
      ∀ env status, podSandboxStatus ds env c w.state = .ok status → status.ip = [] ∧ status.additionalIps = [] := by
  have hdown := hr.settled.down c hstopped
  refine ⟨fun env => ?_, fun env status hstatus => ?_⟩
  · cases hstop : stopPodSandbox ds env c w.state with
    | mk r t =>
      have hlost : Lost ds env c w.state → ∃ ns name, (sandboxInfo ds env c w.state).1 = .ok (ns, name, false) := by
        intro hlost
        rcases hdown with hmark | hhost
        · exact absurd hmark hlost.ready
        · exact (hhost.sandboxInfo hlost.ready).mpr hlost
      cases stopPodSandbox_network hstop with
      | unknown hinfo _ hhistory =>
        refine iff_of_true (tearDowns_same hhistory) fun h => ?_
        obtain ⟨ns, name, hok⟩ := hlost h
        exact hinfo _ hok
      | skipped hinfo hskip _ hhistory =>
        refine iff_of_true (tearDowns_same hhistory) fun h => ?_
        obtain ⟨ns, name, hok⟩ := hlost h
        rcases hskip with rfl | hmark
        · cases hinfo.symm.trans hok
        · exact h.ready hmark
      | tornDown hinfo hready hhistory _ =>
        refine iff_of_false ?_ (not_not.mpr ?_)
        · rw [tearDowns_tornDown hhistory]
          exact Nat.succ_ne_self _
        · rcases hdown with hmark | hhost
          · exact absurd hmark hready
          · exact (hhost.sandboxInfo hready).mp ⟨_, _, hinfo⟩
  · obtain ⟨container, hcontainer, hip, hadditional⟩ := podSandboxStatus_ok hstatus
    rw [getIPs_down hcontainer hdown] at hip hadditional
    exact ⟨hip, hadditional⟩

def stoppedSandbox (config : PodSandboxConfig) (env : StopEnv) : Watched :=
  let w : Watched := { state := emptyHost, stopped := fun _ => false }
  (w.call cniService (.runPodSandbox (quietRun "c1") config [])).call cniService (.stopPodSandbox env "c1")

theorem stoppedSandbox_reached {config : PodSandboxConfig} (hconfig : config.WellTyped) (env : StopEnv) :
    (stoppedSandbox config env).Reached cniService := by
  refine .call (.call (.start ⟨⟨_, _, rfl⟩, ?_, fun _ => rfl⟩) ⟨hconfig, fun _ _ => .inl ⟨rfl, rfl⟩⟩) trivial
  rintro c container flag ⟨⟩

theorem stopped_stays_down_iff_quiet :
    (stoppedSandbox plainConfig quietStop).stopped "c1" = true ∧
      tearDowns "c1" (stopPodSandbox cniService quietStop "c1" (stoppedSandbox plainConfig quietStop).state).2 =
        tearDowns "c1" (stoppedSandbox plainConfig quietStop).state ∧
      ∀ env status, podSandboxStatus cniService env "c1" (stoppedSandbox plainConfig quietStop).state = .ok status →
        status.ip = [] ∧ status.additionalIps = [] := by
  have hstopped : (stoppedSandbox plainConfig quietStop).stopped "c1" = true ∧
      (stoppedSandbox plainConfig quietStop).state.networkReady "c1" = some false := by
    decide +kernel
  obtain ⟨hstops, hstatus⟩ := stopped_stays_down_iff (stoppedSandbox_reached plainConfig_wellTyped quietStop) hstopped.1
  exact ⟨hstopped.1, (hstops quietStop).mpr fun hlost => hlost.ready hstopped.2, hstatus⟩

def hostConfig : PodSandboxConfig := { plainConfig with linux := some .node }

/-- Docker does not find the sandbox any more. -/
def missingStop : StopEnv :=
  { quietStop with
    inspectContainer := some (noSuchContainer "c1")
    stopContainer := some (noSuchContainer "c1") }

/-- A sandbox in the host's network is stopped with success, which costs its checkpoint, and the next
    StopPodSandbox calls TearDownPod for it. -/
theorem stopPodSandbox_tears_down_host_network :
    (stoppedSandbox hostConfig missingStop).Reached cniService ∧
      (stoppedSandbox hostConfig missingStop).stopped "c1" = true ∧
      tearDowns "c1" (stoppedSandbox hostConfig missingStop).state = 0 ∧
      tearDowns "c1"
        (stopPodSandbox cniService missingStop "c1" (stoppedSandbox hostConfig missingStop).state).2 = 1 := by
  have hconfig : hostConfig.WellTyped := ⟨plainConfig_wellTyped.containerPort, plainConfig_wellTyped.hostPort⟩
  exact ⟨stoppedSandbox_reached hconfig missingStop, by decide +kernel⟩

end CriDockerd.Core
