import CriDockerd.Theorems.Sandbox.Steps

/-! Whether the network of a sandbox is ready. RunPodSandbox marks it ready in a deferred function that
    reads one variable, which does not hold every error that is returned. StopPodSandbox goes by the mark,
    so a cleanup that has failed is tried again unless the mark says that there is nothing to clean up. -/

namespace CriDockerd.Core
open Text Store

variable {ds : DockerService} {s t u : State} {c : Text} {env : RunEnv} {config : PodSandboxConfig} {exit : Exit}
  {events : List Event}

/-! ### RunPodSandbox and its error -/

/-- The sandbox is marked as ready if no error is returned and only then; other marks are as before. -/
structure ReadyIffNoError (c : Text) (result : Outcome GoError Unit) (s t : State) : Prop where
  error : ∀ err, result = .error err → t.networkReady c ≠ some true
  ok : result = .ok () → t.networkReady c = some true
  others : ∀ d, d ≠ c → t.networkReady d = s.networkReady d

/-- An error is returned that the deferred function does not see: one of the two for DNS, which have
    variables of their own, or one of SetUpPod, whose variable StopContainer clears. -/
def HidesError (env : RunEnv) (config : PodSandboxConfig) (c : Text) : Prop :=
  Writes env c ∧ env.startContainer = none ∧ (DNSFails env config ∨
    config.network ≠ .node ∧ (MarshalFails env config ∨ env.setUpPod.err ≠ none ∧ env.stopContainer = none))

theorem SandboxExit.hidesError_iff (h : SandboxExit env config c exit events) :
    HidesError env config c ↔ exit.err = none ∧ exit.result ≠ .ok () := by
  unfold HidesError
  cases h with
  | notWritten hw => simp [hw]
  | notStarted hw hs => simp [hs]
  | dnsFails hw hs hd => simp [hw, hs, hd]
  | hostNetwork hw hs hd hn => simp [hd, hn]
  | marshalFails hw hs hn hm => simp [hw, hs, hn, hm]
  | connected hw hs hd hn hm hup => simp [hd, hm, hup]
  | notConnected hw hs hd hn hm hup hdown => simp [hw, hs, hd, hn, hm, hup]

theorem SandboxExit.err_of_ok (h : SandboxExit env config c exit events) (hok : exit.result = .ok ()) : exit.err = none := by
  cases h with
  | hostNetwork => rfl
  | connected => rfl
  | _ => cases hok

theorem SandboxExit.ne_panic (h : SandboxExit env config c exit events) : exit.result ≠ .panic := by
  cases h <;> exact nofun

/-- The mark and the result of RunPodSandbox agree exactly when no error is hidden. -/
theorem runPodSandbox_networkReady_iff {runtimeHandler : Text} (hconfig : config.WellTyped)
    (hcreate : (createSandbox ds env config runtimeHandler s).1 = .ok c) :
    ReadyIffNoError c (runPodSandbox ds env config runtimeHandler s).2.1 s (runPodSandbox ds env config runtimeHandler s).2.2 ↔
      ¬HidesError env config c := by
  cases hrun : runPodSandbox ds env config runtimeHandler s with
  | mk resp rest =>
    obtain ⟨result, t⟩ := rest
    rcases runPodSandbox_cases hconfig hrun with ⟨err, herr, -⟩ | ⟨c', exit, events, hc', hresult, hran⟩
    · rw [herr] at hcreate
      cases hcreate
    rw [hc'] at hcreate
    cases hcreate
    subst hresult
    have hown : t.networkReady c = some (decide (exit.err = none)) := by
      rw [hran.networkReady]
      exact Function.update_self _ _ _
    rw [hran.way.hidesError_iff]
    constructor
    · rintro h ⟨herr, hne⟩
      cases hresult : exit.result with
      | ok _ => exact hne hresult
      | panic => exact hran.way.ne_panic hresult
      | error err =>
        refine h.error err hresult ?_
        rw [hown, decide_eq_true herr]
    · intro hhides
      refine ⟨fun err hresult htrue => ?_, fun hok => ?_, fun d hd => ?_⟩
      · rw [hown, Option.some_inj, decide_eq_true_iff] at htrue
        exact hhides ⟨htrue, fun hok => nomatch hresult.symm.trans hok⟩
      · rw [hown, decide_eq_true (hran.way.err_of_ok hok)]
      · rw [hran.networkReady]
        exact Function.update_of_ne hd _ _

def cniService : DockerService := { pluginName := "cni", spew := fun _ => [] }

def emptyHost : State := State.initial (fun _ => none) (fun _ => none)

def plainConfig : PodSandboxConfig where
  metadata := { name := "p", uid := "u", namespace_ := "ns", attempt := 0 }
  dnsConfig := none
  portMappings := []
  linux := some .pod

theorem plainConfig_wellTyped : plainConfig.WellTyped where
  containerPort _ hpm := absurd hpm List.not_mem_nil
  hostPort _ hpm := absurd hpm List.not_mem_nil

def quietRun (id : Text) : RunEnv where
  ensureSandboxImageExists := none
  makeSandboxDockerConfig := none
  dockerInfo := .ok []
  createContainer := .ok id
  removeConflicting := none
  random := 0
  createContainerAgain := .ok id
  resolvConfPath := []
  writeCheckpoint := none
  startContainer := none
  inspectContainer := none
  resolvMissing _ := false
  rewriteFile _ _ := none
  marshalDNS := none
  setUpPod := { lookups := [], err := none }
  tearDownPod := { lookups := [], err := none }
  stopContainer := none

theorem runPodSandbox_networkReady_iff_quiet :
    (createSandbox cniService (quietRun "c1") plainConfig [] emptyHost).1 = .ok "c1" ∧
      ReadyIffNoError "c1" (runPodSandbox cniService (quietRun "c1") plainConfig [] emptyHost).2.1 emptyHost
        (runPodSandbox cniService (quietRun "c1") plainConfig [] emptyHost).2.2 := by
  refine ⟨rfl, (runPodSandbox_networkReady_iff plainConfig_wellTyped rfl).mpr ?_⟩
  rintro ⟨-, -, ⟨dns, hdns, -⟩ | ⟨-, ⟨hdns, -⟩ | ⟨hup, -⟩⟩⟩
  · cases hdns
  · exact hdns rfl
  · exact hup rfl

/-- A RunPodSandbox call in which SetUpPod fails. -/
def unconnectedRun : RunEnv :=
  { quietRun "c1" with setUpPod := { lookups := [], err := some (.text "no address") } }

/-- RunPodSandbox fails and the sandbox is marked as ready: its container could be stopped. -/
theorem runPodSandbox_ready_after_error :
    (∃ err, (runPodSandbox cniService unconnectedRun plainConfig [] emptyHost).2.1 = .error err) ∧
      (runPodSandbox cniService unconnectedRun plainConfig [] emptyHost).2.2.networkReady "c1" = some true ∧
      ¬ReadyIffNoError "c1" (runPodSandbox cniService unconnectedRun plainConfig [] emptyHost).2.1 emptyHost
        (runPodSandbox cniService unconnectedRun plainConfig [] emptyHost).2.2 := by
  have hready : (runPodSandbox cniService unconnectedRun plainConfig [] emptyHost).2.2.networkReady "c1" = some true := by
    decide +kernel
  obtain ⟨err, herr⟩ : ∃ err, (runPodSandbox cniService unconnectedRun plainConfig [] emptyHost).2.1 = .error err := ⟨_, rfl⟩
  exact ⟨⟨err, herr⟩, hready, fun h => h.error err herr hready⟩

/-! ### Cleanup that is still to be done -/

/-- SetUpPod was called for the sandbox, and TearDownPod has not succeeded since. -/
def owesTearDown (c : Text) : List Event → Bool
  | [] => false
  | .setUpPod id _ :: rest => id == c || owesTearDown c rest
  | .tearDownPod id ok :: rest => !(id == c && ok) && owesTearDown c rest
  | .created _ :: rest => owesTearDown c rest
  | .wroteCheckpoint _ :: rest => owesTearDown c rest
  | .alteredCheckpoint _ :: rest => owesTearDown c rest

/-- What lets StopPodSandbox find out that the network is to be torn down. -/
structure Owing (ds : DockerService) (c : Text) (s : State) : Prop where
  ready : s.networkReady c ≠ some false
  container : ∀ k, s.containers c = some k → k.networkMode ≠ some namespaceModeHost
  checkpoint : Unaltered ds c s.checkpoints
  created : .created c ∈ s.history

theorem Owing.fades (h : Owing ds c s) (hready : t.networkReady c = s.networkReady c ∨ t.networkReady c = none)
    (hcontainer : t.containers c = s.containers c ∨ t.containers c = none)
    (hcheckpoint : t.checkpoints c = s.checkpoints c ∨ t.checkpoints c = none) (hhistory : s.history ⊆ t.history) :
    Owing ds c t where
  ready := by
    rcases hready with heq | hnone
    · rw [heq]
      exact h.ready
    · rw [hnone]
      exact nofun
  container k hk := by
    rcases hcontainer with heq | hnone
    · exact h.container k (heq ▸ hk)
    · rw [hnone] at hk
      cases hk
  checkpoint blob hblob := by
    rcases hcheckpoint with heq | hnone
    · exact h.checkpoint blob (heq ▸ hblob)
    · rw [hnone] at hblob
      cases hblob
  created := hhistory h.created

theorem sandboxNetworkMode_ne_host (h : config.network ≠ .node) (pluginName : Text) :
    sandboxNetworkMode config pluginName ≠ namespaceModeHost := by
  unfold sandboxNetworkMode
  split
  · exact nofun
  · rename_i network hlinux
    have hnetwork : network ≠ .node := by
      rwa [PodSandboxConfig.network, hlinux] at h
    rw [modifyHostOptionsForSandbox, if_neg hnetwork]
    split <;> exact nofun

theorem SandboxExit.owesTearDown_of_ne (h : SandboxExit env config c exit events) {d : Text} (hd : d ≠ c) (history : List Event) :
    owesTearDown d (events ++ history) = owesTearDown d history := by
  have hbeq : (c == d) = false := beq_eq_false_iff_ne.mpr hd.symm
  cases h <;> simp [owesTearDown, hbeq]

/-- RunPodSandbox leaves something to clean up only with the mark set, if one of its three calls for the
    network and the container has succeeded. -/
theorem SandboxExit.owing (h : SandboxExit env config c exit events) {history : List Event}
    (hclean : env.setUpPod.err = none ∨ env.tearDownPod.err = none ∨ env.stopContainer = none)
    (hold : owesTearDown c history = false) (howes : owesTearDown c (events ++ history) = true) :
    exit.err = none ∧ config.network ≠ .node ∧ Writes env c := by
  cases h with
  | connected hw hs hd hn hm hup => exact ⟨rfl, hn, hw⟩
  | notConnected hw hs hd hn hm hup hdown =>
    refine ⟨?_, hn, hw⟩
    rcases hclean with hclean | hclean | hclean
    · exact absurd hclean hup
    · rw [hdown, hclean] at howes
      simp [owesTearDown] at howes
    · exact hclean
  | _ => simp [owesTearDown, hold] at howes

/-- One of SetUpPod, TearDownPod and StopContainer succeeds in RunPodSandbox; nobody changes checkpoints. -/
def Call.CleansUp : Call → Prop
  | .runPodSandbox env _ _ => env.setUpPod.err = none ∨ env.tearDownPod.err = none ∨ env.stopContainer = none
  | .alterCheckpoint _ _ => False
  | _ => True

theorem run_owing {runtimeHandler : Text} (hinv : ∀ c, owesTearDown c s.history = true → Owing ds c s)
    (hregular : (Call.runPodSandbox env config runtimeHandler).Regular s)
    (hclean : (Call.runPodSandbox env config runtimeHandler).CleansUp) {resp : Option Text} {result : Outcome GoError Unit}
    (hrun : runPodSandbox ds env config runtimeHandler s = (resp, result, t)) (howes : owesTearDown c t.history = true) :
    Owing ds c t := by
  obtain ⟨hconfig, hfresh⟩ := hregular
  rcases runPodSandbox_cases hconfig hrun with ⟨err, -, hnot⟩ | ⟨c', exit, events, -, -, hran⟩
  · rw [hnot.history] at howes
    refine (hinv c howes).fades (Or.inl (congrFun hnot.networkReady c)) (hnot.containers c)
      (Or.inl (congrFun hnot.checkpoints c)) ?_
    rw [hnot.history]
    exact List.Subset.refl _
  rw [hran.history] at howes
  by_cases hc : c = c'
  · -- The new sandbox: it was not known before.
    subst hc
    have hold : owesTearDown c (.created c :: s.history) = false :=
      Bool.eq_false_iff.mpr fun hold => (hfresh c hran.answer).2 (hinv c hold).created
    obtain ⟨herr, hnetwork, hwrites⟩ := hran.way.owing hclean hold howes
    obtain ⟨name, hname⟩ := hran.container
    refine ⟨?_, fun k hk => ?_, fun blob hblob => ?_, ?_⟩
    · rw [hran.networkReady, Function.update_self, decide_eq_true herr]
      exact nofun
    · rw [hname] at hk
      cases hk
      exact fun hmode => sandboxNetworkMode_ne_host hnetwork ds.pluginName (Option.some.inj hmode)
    · rcases hran.written hwrites with heq | hgone
      · rw [heq] at hblob
        cases hblob
        exact ⟨config, hconfig, hnetwork, rfl⟩
      · rw [hgone] at hblob
        cases hblob
    · rw [hran.history]
      exact List.mem_append_right _ List.mem_cons_self
  · rw [hran.way.owesTearDown_of_ne hc] at howes
    refine (hinv c howes).fades (Or.inl ?_) (hran.otherContainers c hc) (Or.inl (hran.otherCheckpoints c hc)) ?_
    · rw [hran.networkReady, Function.update_of_ne hc]
    · rw [hran.history]
      exact fun e he => List.mem_append_right _ (List.mem_cons_of_mem _ he)

theorem stop_owing {id : Text} (hinv : ∀ c, owesTearDown c s.history = true → Owing ds c s)
    (hstopped : Stopped id s t) (howes : owesTearDown c t.history = true) : Owing ds c t := by
  have hcontainer : t.containers c = s.containers c ∨ t.containers c = none := Or.inl (congrFun hstopped.containers c)
  have hcheckpoint := hstopped.checkpoints.fades c
  rcases hstopped.network with ⟨hready, hhistory⟩ | ⟨hready, hhistory⟩ | ⟨hready, hhistory⟩
  · rw [hhistory] at howes
    exact (hinv c howes).fades (Or.inl (congrFun hready c)) hcontainer hcheckpoint (hhistory ▸ List.Subset.refl _)
  · have hold : owesTearDown c s.history = true := by
      rw [hhistory] at howes
      simpa [owesTearDown] using howes
    refine (hinv c hold).fades (Or.inl (congrFun hready c)) hcontainer hcheckpoint ?_
    rw [hhistory]
    exact List.subset_cons_self _ _
  · -- The network is torn down: nothing is left to do for this sandbox.
    rw [hhistory] at howes
    simp only [owesTearDown, Bool.and_true, Bool.and_eq_true, Bool.not_eq_true', beq_eq_false_iff_ne] at howes
    obtain ⟨hne, hold⟩ := howes
    refine (hinv c hold).fades (Or.inl ?_) hcontainer hcheckpoint ?_
    · rw [hready, Function.update_of_ne hne.symm]
    · rw [hhistory]
      exact List.subset_cons_self _ _

theorem Call.owing {call : Call} (hinv : ∀ c, owesTearDown c s.history = true → Owing ds c s) (hregular : call.Regular s)
    (hclean : call.CleansUp) (howes : owesTearDown c (call.run ds s).history = true) : Owing ds c (call.run ds s) := by
  cases call with
  | runPodSandbox env config runtimeHandler =>
    cases hrun : Core.runPodSandbox ds env config runtimeHandler s with
    | mk resp rest =>
      rw [Call.run, hrun] at howes ⊢
      exact run_owing hinv hregular hclean hrun howes
  | stopPodSandbox env id =>
    cases hstop : Core.stopPodSandbox ds env id s with
    | mk r t =>
      rw [Call.run, hstop] at howes ⊢
      exact stop_owing hinv (stopPodSandbox_path hstop).stopped howes
  | removePodSandbox env id =>
    have hremoved := removePodSandbox_removed env id s
    rw [Call.run] at howes ⊢
    rw [hremoved.history] at howes
    refine (hinv c howes).fades (hremoved.networkReady c) (hremoved.containers c) ?_ ?_
    · rw [hremoved.checkpoints]
      exact (removeCheckpoint_drops _ _ _).fades c
    · rw [hremoved.history]
      exact List.Subset.refl _
  | listPodSandbox env filter =>
    rw [Call.run, listPodSandbox_state] at howes ⊢
    exact hinv c howes
  | getPodPortMappings faults id =>
    exact (hinv c howes).fades (Or.inl rfl) (Or.inl rfl) ((getPodPortMappings_drops ds.spew faults id s.checkpoints).fades c)
      (List.Subset.refl _)
  | loseContainer id =>
    exact (hinv c howes).fades (Or.inl rfl) (update_cases s.containers id none c) (Or.inl rfl) (List.Subset.refl _)
  | alterCheckpoint id content => exact hclean.elim
  | restart => exact (hinv c howes).fades (Or.inr rfl) (Or.inl rfl) (Or.inl rfl) (List.Subset.refl _)

theorem Owing.sandboxInfo (h : Owing ds c s) {env : StopEnv} {ns name : Text} {hostNetwork : Bool}
    (hinfo : (sandboxInfo ds env c s).1 = .ok (ns, name, hostNetwork)) : hostNetwork = false := by
  rw [Core.sandboxInfo] at hinfo
  cases hdetails : getPodSandboxDetails env.inspectContainer c s with
  | ok details =>
    obtain ⟨container, metadata⟩ := details
    rw [hdetails] at hinfo
    cases hinfo
    have hmode := h.container container (getPodSandboxDetails_ok hdetails)
    rw [networkNamespaceMode, if_neg hmode]
    rfl
  | error statusErr =>
    rw [hdetails] at hinfo
    dsimp only at hinfo
    rcases h.checkpoint.getCheckpoint env.checkpoint.read with ⟨err, herr⟩ | ⟨config, -, hnetwork, hok, -⟩
    · rw [herr] at hinfo
      dsimp only at hinfo
      split at hinfo
      · cases hinfo
        rfl
      · cases hinfo
    · rw [hok] at hinfo
      cases hinfo
      exact decide_eq_false hnetwork

/-- In a run in which RunPodSandbox never fails at all three of SetUpPod, TearDownPod and StopContainer, a
    sandbox whose network is still to be torn down gets its TearDownPod from every StopPodSandbox that finds
    out about the sandbox. -/
theorem stopPodSandbox_tearsDown (hr : ServiceReachable ds (fun s call => call.Regular s ∧ call.CleansUp) s)
    (howes : owesTearDown c s.history = true) {env : StopEnv} {info : Text × Text × Bool}
    (hinfo : (sandboxInfo ds env c s).1 = .ok info) :
    ∃ ok, (stopPodSandbox ds env c s).2.history = .tearDownPod c ok :: s.history := by
  have hinv : ∀ c, owesTearDown c s.history = true → Owing ds c s := by
    refine Reachable.invariant (fun s => ∀ c, owesTearDown c s.history = true → Owing ds c s) ?_ ?_ hr
    · rintro s ⟨checkpoints, containers, rfl⟩ c howes
      cases howes
    · intro s call hinv ⟨hregular, hclean⟩ c howes
      exact Call.owing hinv hregular hclean howes
  have howing := hinv c howes
  obtain ⟨ns, name, hostNetwork⟩ := info
  have hhost := howing.sandboxInfo hinfo
  subst hhost
  cases hstop : stopPodSandbox ds env c s with
  | mk r t =>
    -- The lookup succeeds, and neither it nor the mark keeps from tearing down.
    cases stopPodSandbox_network hstop with
    | unknown hnone => exact absurd hinfo (hnone _)
    | skipped hinfo' hskip =>
      rw [hinfo'] at hinfo
      cases hinfo
      rcases hskip with hskip | hskip
      · cases hskip
      · exact absurd hskip howing.ready
    | tornDown _ _ hhistory => exact ⟨_, hhistory⟩

/-- RunPodSandbox cannot set the network up or clean it up, but stops the container. -/
def unconnectedCall : Call :=
  .runPodSandbox { unconnectedRun with tearDownPod := { lookups := [], err := some (.text "busy") } } plainConfig []

theorem unconnectedCall_regular : unconnectedCall.Regular emptyHost :=
  ⟨plainConfig_wellTyped, fun _ _ => ⟨rfl, List.not_mem_nil⟩⟩

def quietStop : StopEnv where
  inspectContainer := none
  checkpoint := { read := none, remove := none }
  tearDownPod := { lookups := [], err := none }
  stopContainer := none
  removeCheckpoint := none

theorem stopPodSandbox_tearsDown_unconnected :
    owesTearDown "c1" (unconnectedCall.run cniService emptyHost).history = true ∧
      ∃ ok, (stopPodSandbox cniService quietStop "c1" (unconnectedCall.run cniService emptyHost)).2.history =
        .tearDownPod "c1" ok :: (unconnectedCall.run cniService emptyHost).history := by
  have hrun : owesTearDown "c1" (unconnectedCall.run cniService emptyHost).history = true ∧
      (sandboxInfo cniService quietStop "c1" (unconnectedCall.run cniService emptyHost)).1 =
        .ok ("ns", "p", false) := by
    decide +kernel
  obtain ⟨howes, hinfo⟩ := hrun
  have hr : ServiceReachable cniService (fun s call => call.Regular s ∧ call.CleansUp) (unconnectedCall.run cniService emptyHost) :=
    .call (.start ⟨_, _, rfl⟩) ⟨unconnectedCall_regular, Or.inr (Or.inr rfl)⟩
  exact ⟨howes, stopPodSandbox_tearsDown hr howes hinfo⟩

/-- RunPodSandbox cannot set the network up, clean it up or stop the container. -/
def helplessCall : Call :=
  .runPodSandbox { unconnectedRun with
    tearDownPod := { lookups := [], err := some (.text "busy") }
    stopContainer := some (.text "busy") } plainConfig []

theorem helplessCall_reachable :
    ServiceReachable cniService (fun s call => call.Regular s) (helplessCall.run cniService emptyHost) :=
  .call (.start ⟨_, _, rfl⟩) ⟨plainConfig_wellTyped, fun _ _ => ⟨rfl, List.not_mem_nil⟩⟩

/-- StopPodSandbox finds the sandbox and stops it, and its network is never torn down. -/
theorem stopPodSandbox_forgets_network :
    ServiceReachable cniService (fun s call => call.Regular s) (helplessCall.run cniService emptyHost) ∧
      owesTearDown "c1" (helplessCall.run cniService emptyHost).history = true ∧
      (sandboxInfo cniService quietStop "c1" (helplessCall.run cniService emptyHost)).1 =
        .ok ("ns", "p", false) ∧
      (stopPodSandbox cniService quietStop "c1" (helplessCall.run cniService emptyHost)).1 = .ok () ∧
      (stopPodSandbox cniService quietStop "c1" (helplessCall.run cniService emptyHost)).2.history =
        (helplessCall.run cniService emptyHost).history :=
  ⟨helplessCall_reachable, by decide +kernel⟩

end CriDockerd.Core
