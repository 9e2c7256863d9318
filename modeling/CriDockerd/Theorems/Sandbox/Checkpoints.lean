import CriDockerd.Theorems.Sandbox.NetworkReady

/-! How long the checkpoint of a sandbox lives. A reader takes every error of a read for corruption and deletes
    the file, and RemovePodSandbox deletes it even if the container cannot be removed; so a checkpoint is safe
    only in runs where no read fails and every removal of a sandbox succeeds. -/

namespace CriDockerd.Core
open Text Store

variable {ds : DockerService} {s t v : State} {c id : Text}

/-- The checkpoint is the one that was written. -/
def Held (ds : DockerService) (c : Text) (s : State) : Prop :=
  validateKey c = none ∧ ∃ config : PodSandboxConfig, config.WellTyped ∧
    s.checkpoints c = some (.json (checkpointOf ds.spew config).toJson)

theorem Held.of_eq (h : Held ds c s) (heq : t.checkpoints c = s.checkpoints c) : Held ds c t := by
  obtain ⟨hkey, config, hconfig, hdir⟩ := h
  exact ⟨hkey, config, hconfig, heq.trans hdir⟩

/-- Checkpoints that were written and not altered are there as long as their containers. -/
structure Holding (ds : DockerService) (s : State) : Prop where
  held : ∀ c, .wroteCheckpoint c ∈ s.history → .alteredCheckpoint c ∉ s.history → s.containers c ≠ none → Held ds c s
  created : ∀ c, .wroteCheckpoint c ∈ s.history → .created c ∈ s.history

theorem Holding.step (h : Holding ds s) (hcontainers : ∀ c, t.containers c = s.containers c ∨ t.containers c = none)
    (hcheckpoints : ∀ c, Held ds c s → t.containers c ≠ none → t.checkpoints c = s.checkpoints c)
    (hwrote : ∀ c, .wroteCheckpoint c ∈ t.history → .wroteCheckpoint c ∈ s.history) (hhistory : s.history ⊆ t.history) :
    Holding ds t where
  held c hw ha hcontainer := by
    have hbefore : s.containers c ≠ none := by
      rcases hcontainers c with heq | hgone
      · exact heq ▸ hcontainer
      · exact absurd hgone hcontainer
    have hheld := h.held c (hwrote c hw) (fun halt => ha (hhistory halt)) hbefore
    exact hheld.of_eq (hcheckpoints c hheld hcontainer)
  created c hw := hhistory (h.created c (hwrote c hw))

/-! ### Stopping -/

/-- StopContainer does not say of an existing container that it is missing, or nothing comes of it. -/
def StopEnv.Honest (env : StopEnv) : Prop :=
  ∀ err, env.stopContainer = some err → isContainerNotFoundError err = false ∨ env.removeCheckpoint ≠ none

theorem sandboxInfo_kept {env : StopEnv} {r : Outcome GoError (Text × Text × Bool)} (hheld : Held ds id s)
    (hlookup : (∃ details, getPodSandboxDetails env.inspectContainer id s = .ok details) ∨ env.checkpoint.Keeps)
    (h : sandboxInfo ds env id s = (r, v)) : v.checkpoints = s.checkpoints := by
  obtain ⟨hkey, config, hconfig, hdir⟩ := hheld
  rw [sandboxInfo] at h
  cases hdetails : getPodSandboxDetails env.inspectContainer id s with
  | ok details =>
    rw [hdetails] at h
    cases h
    rfl
  | error statusErr =>
    rw [hdetails] at h
    dsimp only at h
    rcases hlookup with ⟨details, hok⟩ | hread | hremove
    · rw [hok] at hdetails
      cases hdetails
    · rw [hread, getCheckpoint_written ds.spew hconfig hkey hdir] at h
      cases h
      rfl
    · split at h
      · cases h
        rfl
      · split at h
        · cases h
          rfl
        · cases h
          rfl
      · rename_i err herr
        have hsame : (if err = .errCheckpointNotFound then s else s.dropCheckpoint env.checkpoint.remove id).checkpoints =
            s.checkpoints := by
          split
          · rfl
          · exact removeCheckpoint_of_fault hremove id s.checkpoints
        split at h
        · cases h
          exact hsame
        · cases h
          exact hsame

theorem stopSandboxContainer_kept {env : StopEnv} {errList : List (Option GoError)} {r : Outcome GoError Unit}
    (hhonest : env.Honest) {k : Container} (hk : s.containers id = some k)
    (h : stopSandboxContainer env id errList s = (r, t)) : t.checkpoints = s.checkpoints := by
  rcases stopSandboxContainer_cases h with rfl | ⟨rfl, err, hstop, hfound⟩
  · rfl
  · rw [stopContainer, callContainer_of_created hk] at hstop
    rcases hhonest err hstop with hnot | hremove
    · rw [hfound] at hnot
      cases hnot
    · exact removeCheckpoint_of_fault hremove id s.checkpoints

theorem Plugged.held {call : PluginCall} {event : Event} (h : Plugged ds id call event s t) (hcall : call.Keeps)
    (hheld : Held ds id s) : t.checkpoints id = s.checkpoints id := by
  obtain ⟨hkey, config, hconfig, hdir⟩ := hheld
  rw [h.kept hcall hconfig hkey hdir, hdir]

theorem StopPath.kept {env : StopEnv} (h : StopPath ds env id s t) (hheld : Held ds id s)
    (hlookup : (∃ details, getPodSandboxDetails env.inspectContainer id s = .ok details) ∨ env.checkpoint.Keeps)
    (hdown : env.tearDownPod.Keeps) (hhonest : env.Honest) {k : Container} (hk : s.containers id = some k) :
    t.checkpoints id = s.checkpoints id := by
  cases h with
  | noInfo hinfo hr => rw [sandboxInfo_kept hheld hlookup hinfo]
  | skipped hinfo hskip hstop =>
    have hv := sandboxInfo_kept hheld hlookup hinfo
    rw [stopSandboxContainer_kept hhonest ((congrFun (sandboxInfo_cases hinfo).2.1 id).trans hk) hstop, hv]
  | panics hinfo hplug =>
    have hv := congrFun (sandboxInfo_kept hheld hlookup hinfo) id
    exact (hplug.held hdown (hheld.of_eq hv)).trans hv
  | @tornDown _ _ v w _ _ hinfo hplug hstop =>
    have hv := congrFun (sandboxInfo_kept hheld hlookup hinfo) id
    have hw : (w.setNetworkReady id false).containers id = some k :=
      (congrFun (hplug.containers.trans (sandboxInfo_cases hinfo).2.1) id).trans hk
    rw [stopSandboxContainer_kept hhonest hw hstop]
    exact (hplug.held hdown (hheld.of_eq hv)).trans hv
  | @failed _ _ v w _ _ _ hinfo hplug hstop =>
    have hv := congrFun (sandboxInfo_kept hheld hlookup hinfo) id
    have hw : w.containers id = some k := (congrFun (hplug.containers.trans (sandboxInfo_cases hinfo).2.1) id).trans hk
    rw [stopSandboxContainer_kept hhonest hw hstop]
    exact (hplug.held hdown (hheld.of_eq hv)).trans hv

/-! ### Runs -/

/-- No checkpoint of a sandbox that exists is given up: reads of it succeed where they are made, and a
    sandbox is removed as a whole. It does not matter where the deletion of the file fails. -/
def Call.KeepsCheckpoints (s : State) : Call → Prop
  | .runPodSandbox env _ _ => env.setUpPod.Keeps ∧ env.tearDownPod.Keeps
  | .stopPodSandbox env id => s.containers id = none ∨
      (((∃ details, getPodSandboxDetails env.inspectContainer id s = .ok details) ∨ env.checkpoint.Keeps) ∧
        env.tearDownPod.Keeps ∧ env.Honest)
  | .removePodSandbox env id => s.containers id = none ∨ env.removeContainer = none ∨ env.removeCheckpoint ≠ none
  | .getPodPortMappings faults id => s.containers id = none ∨ faults.Keeps
  | _ => True

theorem SandboxExit.wrote {env : RunEnv} {config : PodSandboxConfig} {exit : Exit} {events : List Event}
    (h : SandboxExit env config c exit events) {d : Text} (hd : .wroteCheckpoint d ∈ events) : d = c ∧ Writes env c := by
  cases h with
  | notWritten hw => cases hd
  | notStarted hw hs => exact ⟨by simpa using hd, hw⟩
  | dnsFails hw => exact ⟨by simpa using hd, hw⟩
  | hostNetwork hw => exact ⟨by simpa using hd, hw⟩
  | marshalFails hw => exact ⟨by simpa using hd, hw⟩
  | connected hw => exact ⟨by simpa using hd, hw⟩
  | notConnected hw => exact ⟨by simpa using hd, hw⟩

theorem run_holding {env : RunEnv} {config : PodSandboxConfig} {runtimeHandler : Text} (h : Holding ds s)
    (hregular : (Call.runPodSandbox env config runtimeHandler).Regular s)
    (hkeeps : (Call.runPodSandbox env config runtimeHandler).KeepsCheckpoints s) {resp : Option Text}
    {result : Outcome GoError Unit} (hrun : runPodSandbox ds env config runtimeHandler s = (resp, result, t)) : Holding ds t := by
  obtain ⟨hconfig, hfresh⟩ := hregular
  rcases runPodSandbox_cases hconfig hrun with ⟨err, -, hnot⟩ | ⟨c, exit, events, -, -, hran⟩
  · exact h.step hnot.containers (fun d _ _ => congrFun hnot.checkpoints d) (fun d hd => hnot.history ▸ hd)
      (hnot.history ▸ List.Subset.refl _)
  have hold : s.history ⊆ t.history := by
    rw [hran.history]
    exact fun e he => List.mem_append_right _ (List.mem_cons_of_mem _ he)
  -- A checkpoint that is there was written now, for the new container, or before, for another one.
  have hwrote : ∀ d, .wroteCheckpoint d ∈ t.history →
      (d = c ∧ Writes env c) ∨ (d ≠ c ∧ .wroteCheckpoint d ∈ s.history) := by
    intro d hd
    rw [hran.history] at hd
    rcases List.mem_append.mp hd with hd | hd
    · exact Or.inl (hran.way.wrote hd)
    · have hd : .wroteCheckpoint d ∈ s.history := by simpa using hd
      refine Or.inr ⟨fun heq => ?_, hd⟩
      exact (hfresh c hran.answer).2 (heq ▸ h.created d hd)
  refine ⟨fun d hd halt hcontainer => ?_, fun d hd => ?_⟩
  · rcases hwrote d hd with ⟨rfl, hw⟩ | ⟨hne, hd⟩
    · exact ⟨hw.1, config, hconfig, hran.kept hw hkeeps.1 hkeeps.2⟩
    · have hbefore : s.containers d ≠ none := by
        rcases hran.otherContainers d hne with heq | hgone
        · exact heq ▸ hcontainer
        · exact absurd hgone hcontainer
      exact (h.held d hd (fun ha => halt (hold ha)) hbefore).of_eq (hran.otherCheckpoints d hne)
  · rcases hwrote d hd with ⟨rfl, -⟩ | ⟨-, hd⟩
    · rw [hran.history]
      exact List.mem_append_right _ List.mem_cons_self
    · exact hold (h.created d hd)

theorem Holding.drops (h : Holding ds s) (hcontainers : t.containers = s.containers)
    (hdrops : Drops id s.checkpoints t.checkpoints)
    (hkept : Held ds id s → s.containers id ≠ none → t.checkpoints id = s.checkpoints id)
    (hwrote : ∀ c, .wroteCheckpoint c ∈ t.history → .wroteCheckpoint c ∈ s.history) (hhistory : s.history ⊆ t.history) :
    Holding ds t := by
  refine h.step (fun c => Or.inl (congrFun hcontainers c)) (fun c hheld hcontainer => ?_) hwrote hhistory
  by_cases hc : c = id
  · subst hc
    exact hkept hheld (hcontainers ▸ hcontainer)
  · exact hdrops.others c hc

theorem Stopped.history_mono (h : Stopped id s t) :
    s.history ⊆ t.history ∧ ∀ c, .wroteCheckpoint c ∈ t.history → .wroteCheckpoint c ∈ s.history := by
  rcases h.network with ⟨-, hhistory⟩ | ⟨-, hhistory⟩ | ⟨-, hhistory⟩
  · rw [hhistory]
    exact ⟨List.Subset.refl _, fun _ hc => hc⟩
  · rw [hhistory]
    exact ⟨List.subset_cons_self _ _, fun c hc => by simpa using hc⟩
  · rw [hhistory]
    exact ⟨List.subset_cons_self _ _, fun c hc => by simpa using hc⟩

theorem Call.holding {call : Call} (h : Holding ds s) (hregular : call.Regular s) (hkeeps : call.KeepsCheckpoints s) :
    Holding ds (call.run ds s) := by
  cases call with
  | runPodSandbox env config runtimeHandler =>
    cases hrun : Core.runPodSandbox ds env config runtimeHandler s with
    | mk resp rest =>
      rw [Call.run, hrun]
      exact run_holding h hregular hkeeps hrun
  | stopPodSandbox env id =>
    cases hstop : Core.stopPodSandbox ds env id s with
    | mk r t =>
      rw [Call.run, hstop]
      have hpath := stopPodSandbox_path hstop
      obtain ⟨hhistory, hwrote⟩ := hpath.stopped.history_mono
      refine h.drops hpath.stopped.containers hpath.stopped.checkpoints (fun hheld hcontainer => ?_) hwrote hhistory
      rcases hkeeps with hgone | ⟨hlookup, hdown, hhonest⟩
      · exact absurd hgone hcontainer
      · obtain ⟨k, hk⟩ := Option.ne_none_iff_exists'.mp hcontainer
        exact hpath.kept hheld hlookup hdown hhonest hk
  | removePodSandbox env id =>
    have hremoved := removePodSandbox_removed env id s
    refine h.step hremoved.containers (fun c hheld hcontainer => ?_) (fun c hc => ?_) ?_
    · -- The sandbox's own checkpoint goes with its container, or stays if it cannot be deleted.
      rw [Call.run] at hcontainer ⊢
      rw [hremoved.checkpoints]
      by_cases hc : c = id
      · subst hc
        have hbefore : s.containers c ≠ none := by
          rcases hremoved.containers c with heq | hgone
          · exact heq ▸ hcontainer
          · exact absurd hgone hcontainer
        rcases hkeeps with hgone | hfault | hremove
        · exact absurd hgone hbefore
        · exact absurd (hremoved.gone hfault) hcontainer
        · rw [removeCheckpoint_of_fault hremove]
      · exact (removeCheckpoint_drops env.removeCheckpoint id s.checkpoints).others c hc
    · rw [Call.run, hremoved.history] at hc
      exact hc
    · rw [Call.run, hremoved.history]
      exact List.Subset.refl _
  | listPodSandbox env filter =>
    rw [Call.run, listPodSandbox_state]
    exact h
  | getPodPortMappings faults id =>
    refine h.drops rfl (getPodPortMappings_drops ds.spew faults id s.checkpoints) (fun hheld hcontainer => ?_)
      (fun _ hc => hc) (List.Subset.refl _)
    rcases hkeeps with hgone | hfaults
    · exact absurd hgone hcontainer
    · obtain ⟨hkey, config, hconfig, hdir⟩ := hheld
      exact congrFun (getPodPortMappings_kept hconfig hfaults hkey hdir) id
  | loseContainer id =>
    exact h.step (update_cases s.containers id none) (fun _ _ _ => rfl) (fun _ hc => hc) (List.Subset.refl _)
  | alterCheckpoint id content =>
    have hwrote : ∀ c, .wroteCheckpoint c ∈ (Call.alterCheckpoint id content |>.run ds s).history →
        .wroteCheckpoint c ∈ s.history := fun c hc => by simpa [Call.run, State.record] using hc
    refine ⟨fun c hw halt hcontainer => ?_, fun c hw => List.mem_cons_of_mem _ (h.created c (hwrote c hw))⟩
    have hne : c ≠ id := fun heq => halt (heq ▸ List.mem_cons_self)
    have hheld := h.held c (hwrote c hw) (fun ha => halt (List.mem_cons_of_mem _ ha)) hcontainer
    exact hheld.of_eq (Function.update_of_ne hne _ _)
  | restart => exact ⟨h.held, h.created⟩

/-- In a run that gives up no checkpoint of a sandbox that exists, the checkpoint of a sandbox is there as
    long as its container, once it was written and if nobody else has changed it. -/
theorem checkpoint_outlives_container
    (hr : ServiceReachable ds (fun s call => call.Regular s ∧ call.KeepsCheckpoints s) s)
    (hwrote : .wroteCheckpoint c ∈ s.history) (hcontainer : s.containers c ≠ none)
    (halter : .alteredCheckpoint c ∉ s.history) : s.checkpoints c ≠ none := by
  have hholding : Holding ds s := by
    refine Reachable.invariant (Holding ds) ?_ (fun s call h hcall => Call.holding h hcall.1 hcall.2) hr
    rintro s ⟨checkpoints, containers, rfl⟩
    exact ⟨fun c hc => absurd hc List.not_mem_nil, fun c hc => absurd hc List.not_mem_nil⟩
  obtain ⟨-, config, -, hdir⟩ := hholding.held c hwrote halter hcontainer
  rw [hdir]
  exact nofun

def quietCall : Call := .runPodSandbox (quietRun "c1") plainConfig []

theorem quietCall_regular : quietCall.Regular emptyHost := ⟨plainConfig_wellTyped, fun _ _ => ⟨rfl, List.not_mem_nil⟩⟩

theorem checkpoint_outlives_container_quiet :
    .wroteCheckpoint "c1" ∈ (quietCall.run cniService emptyHost).history ∧
      (quietCall.run cniService emptyHost).checkpoints "c1" ≠ none := by
  have hrun : .wroteCheckpoint "c1" ∈ (quietCall.run cniService emptyHost).history ∧
      (quietCall.run cniService emptyHost).containers "c1" ≠ none ∧
      .alteredCheckpoint "c1" ∉ (quietCall.run cniService emptyHost).history := by
    decide +kernel
  obtain ⟨hwrote, hcontainer, halter⟩ := hrun
  have hr : ServiceReachable cniService (fun s call => call.Regular s ∧ call.KeepsCheckpoints s)
      (quietCall.run cniService emptyHost) :=
    .call (.start ⟨_, _, rfl⟩) ⟨quietCall_regular, fun _ h => absurd h List.not_mem_nil, fun _ h => absurd h List.not_mem_nil⟩
  exact ⟨hwrote, checkpoint_outlives_container hr hwrote hcontainer halter⟩

/-- The port mappings of the sandbox are asked for, and the file cannot be read just then. -/
def unreadableCall : Call := .getPodPortMappings { read := some (.text "input/output error"), remove := none } "c1"

theorem unreadableCall_reachable : ServiceReachable cniService (fun s call => call.Regular s)
    (unreadableCall.run cniService (quietCall.run cniService emptyHost)) :=
  .call (.call (.start ⟨_, _, rfl⟩) quietCall_regular) trivial

/-- One failure to read costs a sandbox that exists its checkpoint. -/
theorem checkpoint_lost_by_read_error :
    ServiceReachable cniService (fun s call => call.Regular s)
        (unreadableCall.run cniService (quietCall.run cniService emptyHost)) ∧
      .wroteCheckpoint "c1" ∈ (unreadableCall.run cniService (quietCall.run cniService emptyHost)).history ∧
      (unreadableCall.run cniService (quietCall.run cniService emptyHost)).containers "c1" ≠ none ∧
      .alteredCheckpoint "c1" ∉ (unreadableCall.run cniService (quietCall.run cniService emptyHost)).history ∧
      (unreadableCall.run cniService (quietCall.run cniService emptyHost)).checkpoints "c1" = none := by
  have hgone : .wroteCheckpoint "c1" ∈ (unreadableCall.run cniService (quietCall.run cniService emptyHost)).history ∧
      (unreadableCall.run cniService (quietCall.run cniService emptyHost)).containers "c1" ≠ none ∧
      .alteredCheckpoint "c1" ∉ (unreadableCall.run cniService (quietCall.run cniService emptyHost)).history ∧
      ((unreadableCall.run cniService (quietCall.run cniService emptyHost)).checkpoints "c1").isNone = true := by
    decide +kernel
  obtain ⟨hwrote, hcontainer, halter, hnone⟩ := hgone
  exact ⟨unreadableCall_reachable, hwrote, hcontainer, halter, Option.isNone_iff_eq_none.mp hnone⟩

end CriDockerd.Core
