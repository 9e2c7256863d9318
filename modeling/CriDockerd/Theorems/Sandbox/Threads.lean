import CriDockerd.Core.Threads
import CriDockerd.Theorems.Sandbox.Listing

/-! A thread of RunPodSandbox or of ListPodSandbox that nothing comes in between does what the handler does. -/

namespace CriDockerd.Core
open Text Store

variable {ds : DockerService} {s t u : State}

namespace Threads

@[simp] theorem run_look {α : Type} (f : State → α) (s : State) : (look f).run s = (f s, s) := rfl

@[simp] theorem run_change (f : State → State) (s : State) : (change f).run s = ((), f s) := rfl

/-! ### RunPodSandbox -/

section
variable {env : RunEnv} {config : PodSandboxConfig}

theorem run_recover (err : GoError) (s : State) :
    (recoverFromCreationConflictIfNeeded ds env config err).run s =
      Core.recoverFromCreationConflictIfNeeded ds env config err s := by
  unfold recoverFromCreationConflictIfNeeded Core.recoverFromCreationConflictIfNeeded
  cases conflictRE err.error with
  | none => rfl
  | some id =>
    dsimp only
    rw [Thread.run_bind, removeConflicting, Thread.run_atom]
    cases removeContainer env.removeConflicting id s.containers with
    | mk rmErr containers =>
      cases rmErr with
      | none => rfl
      | some rmErr =>
        dsimp only
        split <;> rfl

theorem run_createSandbox (runtimeHandler : Text) (s : State) :
    (createSandbox ds env config runtimeHandler).run s = Core.createSandbox ds env config runtimeHandler s := by
  unfold createSandbox Core.createSandbox
  cases env.ensureSandboxImageExists with
  | some err => rfl
  | none =>
    cases env.makeSandboxDockerConfig with
    | some err => rfl
    | none =>
      dsimp only
      generalize (if runtimeHandler ≠ [] ∧ runtimeHandler ≠ runtimeName then
        isRuntimeConfigured env.dockerInfo runtimeHandler else none) = runtimeErr
      cases runtimeErr with
      | some err => rfl
      | none =>
        dsimp only
        rw [Thread.run_bind, Thread.run_atom]
        cases createContainer env.createContainer (sandboxContainer ds env config (makeSandboxName config)) s with
        | mk r u =>
          cases r with
          | ok id => rfl
          | error err =>
            dsimp only
            rw [Thread.run_bind, run_recover]
            cases Core.recoverFromCreationConflictIfNeeded ds env config err u with
            | mk r v => cases r <;> rfl

theorem run_lookUp {id : Text} {faults : CheckpointFaults} {r : Outcome StoreError (List Hostport.PortMapping)} {dir : Dir Blob}
    (h : getPodPortMappings ds.spew faults id s.checkpoints = (r, dir)) :
    ∃ panics, (lookUp ds id faults).run s = (panics, { s with checkpoints := dir }) ∧ (panics = true ↔ r = .panic) := by
  unfold getPodPortMappings at h
  rw [lookUp, Thread.run_bind, run_look]
  dsimp only
  cases hget : getCheckpoint (podSandboxCheckpoint ds.spew) faults.read id emptyCheckpoint s.checkpoints with
  | panic =>
    rw [hget] at h
    cases h
    exact ⟨true, rfl, by simp⟩
  | error err =>
    rw [hget] at h
    cases err with
    | errCheckpointNotFound =>
      cases h
      exact ⟨false, rfl, by simp⟩
    | _ =>
      cases h
      exact ⟨false, rfl, by simp⟩
  | ok checkpoint =>
    rw [hget] at h
    dsimp only at h ⊢
    cases hdata : checkpoint.getData with
    | none =>
      rw [hdata] at h
      cases h
      exact ⟨true, rfl, by simp⟩
    | some data =>
      obtain ⟨version, name, ns, pms, flag⟩ := data
      rw [hdata] at h
      dsimp only at h ⊢
      cases hderef : pms.mapM fun pm => pm.bind (·.deref) with
      | none =>
        rw [hderef] at h
        cases h
        exact ⟨true, rfl, by simp⟩
      | some portMappings =>
        rw [hderef] at h
        cases h
        exact ⟨false, rfl, by simp⟩

theorem run_lookUpAll (id : Text) (lookups : List CheckpointFaults) (s : State) :
    (lookUpAll ds id lookups).run s =
      ((Core.lookUpAll ds id lookups s.checkpoints).1,
        { s with checkpoints := (Core.lookUpAll ds id lookups s.checkpoints).2 }) := by
  induction lookups generalizing s with
  | nil => rfl
  | cons faults rest ih =>
    rw [lookUpAll, Core.lookUpAll, Thread.run_bind]
    cases hlookUp : getPodPortMappings ds.spew faults id s.checkpoints with
    | mk r dir =>
      obtain ⟨panics, hrun, hpanics⟩ := run_lookUp hlookUp
      rw [hrun]
      cases panics with
      | true =>
        obtain rfl := hpanics.mp rfl
        rfl
      | false =>
        cases r with
        | panic => cases hpanics.mpr rfl
        | ok _ => exact ih { s with checkpoints := dir }
        | error _ => exact ih { s with checkpoints := dir }

theorem run_callPlugin (event : Bool → Event) (failed ns name id : Text) (call : PluginCall) (s : State) :
    (callPlugin ds event failed call ns name id).run s = Core.callPlugin ds event failed call ns name id s := by
  rw [callPlugin, Core.callPlugin, Thread.run_bind, run_lookUpAll]
  cases Core.lookUpAll ds id call.lookups s.checkpoints with
  | mk panics dir =>
    cases panics with
    | true => rfl
    | false =>
      dsimp only
      rw [Thread.run_bind, run_change]
      cases call.err <;> rfl

theorem run_setUpNetwork (id : Text) (s : State) :
    (setUpNetwork ds env config id).run s = Core.setUpNetwork ds env config id s := by
  rw [setUpNetwork, Core.setUpNetwork, Thread.run_bind, setUpPod, run_callPlugin, Core.setUpPod]
  cases Core.callPlugin ds (.setUpPod id) "failed to set up pod" env.setUpPod config.metadata.namespace_
      config.metadata.name id s with
  | mk r u =>
    cases r with
    | panic => rfl
    | ok _ => rfl
    | error setUpErr =>
      dsimp only
      rw [Thread.run_bind, tearDownPod, run_callPlugin, Core.tearDownPod]
      cases Core.callPlugin ds (.tearDownPod id) "failed to teardown pod" env.tearDownPod config.metadata.namespace_
          config.metadata.name id u with
      | mk r v => cases r <;> rfl

theorem run_connectSandbox (id : Text) (s : State) :
    (connectSandbox ds env config id).run s = Core.connectSandbox ds env config id s := by
  rw [connectSandbox, Core.connectSandbox, Thread.run_bind, run_look]
  cases configureDNS env config id s with
  | some err => rfl
  | none =>
    dsimp only
    split
    · rfl
    · cases marshalDNS env config with
      | some err => rfl
      | none => exact run_setUpNetwork id s

theorem run_startSandbox (id : Text) (s : State) :
    (startSandbox ds env config id).run s = Core.startSandbox ds env config id s := by
  rw [startSandbox, Core.startSandbox, Thread.run_bind, Thread.run_atom, writeCheckpoint]
  cases createCheckpoint (podSandboxCheckpoint ds.spew) env.writeCheckpoint id (constructPodSandboxCheckpoint config)
      s.checkpoints with
  | mk r dir =>
    cases r with
    | panic => rfl
    | error err => rfl
    | ok _ =>
      dsimp only
      rw [Thread.run_bind, run_look]
      dsimp only
      cases startContainer env.startContainer id ({ s with checkpoints := dir }.record (.wroteCheckpoint id)).containers with
      | some err => rfl
      | none => exact run_connectSandbox id _

/-- A RunPodSandbox call that nothing comes in between. -/
theorem run_runPodSandbox (runtimeHandler : Text) (s : State) :
    (runPodSandbox ds env config runtimeHandler).run s =
      (((Core.runPodSandbox ds env config runtimeHandler s).1, (Core.runPodSandbox ds env config runtimeHandler s).2.1),
        (Core.runPodSandbox ds env config runtimeHandler s).2.2) := by
  rw [runPodSandbox, Core.runPodSandbox, Thread.run_bind, run_createSandbox]
  cases Core.createSandbox ds env config runtimeHandler s with
  | mk r u =>
    cases r with
    | error err => rfl
    | ok id =>
      dsimp only
      rw [Thread.run_bind, run_change, Thread.run_bind, run_startSandbox]
      cases Core.startSandbox ds env config id (u.setNetworkReady id false) with
      | mk exit v =>
        dsimp only
        split <;> rfl

end

/-! ### ListPodSandbox -/

/-- What a ListPodSandbox call meets when nothing comes in between. -/
def ListEnv.alone (env : ListEnv) (s : State) : Core.ListEnv where
  listCheckpoints := env.listCheckpoints s.checkpoints
  listContainers opts := env.listContainers opts s.containers
  checkpoint := env.checkpoint

theorem run_checkpointOnly (faults : Text → CheckpointFaults) (ids : List Text) (result : List PodSandbox) (s : State) :
    Core.checkpointOnly ds faults ids result s =
      (((checkpointOnly ds faults ids).run s).1.map (result ++ ·), ((checkpointOnly ds faults ids).run s).2) := by
  induction ids generalizing result s with
  | nil => simp [checkpointOnly, Core.checkpointOnly]
  | cons id rest ih =>
    rw [checkpointOnly, Core.checkpointOnly, Thread.run_bind, run_look]
    dsimp only
    cases getCheckpoint (podSandboxCheckpoint ds.spew) (faults id).read id emptyCheckpoint s.checkpoints with
    | panic => rfl
    | error err =>
      dsimp only
      rw [Thread.run_bind, run_change]
      exact ih result _
    | ok checkpoint =>
      dsimp only
      cases checkpointToRuntimeAPISandbox id checkpoint with
      | none => rfl
      | some sandbox =>
        dsimp only
        rw [Thread.run_bind, ih]
        cases ((checkpointOnly ds faults rest).run s).1 with
        | none => rfl
        | some found => simp

theorem run_convert {env : ListEnv} {filter : Option PodSandboxFilter} {checkpoints : List Text} {cs : List ListedContainer}
    {result : Option (List PodSandbox)}
    (h : Core.checkpointOnly ds env.checkpoint (checkpoints.filter (· ∉ (shownSandboxes filter cs).map (·.id)))
      (shownSandboxes filter cs) s = (result, t)) :
    ∃ r, (convert ds env filter checkpoints cs).run s = (r, t) ∧ response r = result.elim .panic .ok := by
  rw [run_checkpointOnly] at h
  cases hfound : (checkpointOnly ds env.checkpoint
      (checkpoints.filter (· ∉ (shownSandboxes filter cs).map (·.id)))).run s with
  | mk found u =>
    rw [hfound] at h
    have hrun : (convert ds env filter checkpoints cs).run s = (assemble (shownSandboxes filter cs) found, u) := by
      refine (Thread.run_bind _ _ _).trans ?_
      exact congrArg (fun r : Option (List PodSandbox) × State => (assemble (shownSandboxes filter cs) r.1, r.2)) hfound
    cases h
    refine ⟨_, hrun, ?_⟩
    cases found with
    | none => rfl
    | some found => rfl

theorem run_response (env : ListEnv) (filter : Option PodSandboxFilter) (checkpoints : List Text) (cs : List ListedContainer) :
    (match Core.checkpointOnly ds env.checkpoint (checkpoints.filter (· ∉ (shownSandboxes filter cs).map (·.id)))
        (shownSandboxes filter cs) s with
      | (none, s) => (Outcome.panic, s)
      | (some result, s) => (.ok result, s)) =
      (response ((convert ds env filter checkpoints cs).run s).1, ((convert ds env filter checkpoints cs).run s).2) := by
  cases hcheckpoints : Core.checkpointOnly ds env.checkpoint
      (checkpoints.filter (· ∉ (shownSandboxes filter cs).map (·.id))) (shownSandboxes filter cs) s with
  | mk result t =>
    obtain ⟨r, hrun, hresponse⟩ := run_convert hcheckpoints
    rw [hrun, hresponse]
    cases result with
    | none => rfl
    | some items => rfl

/-- A ListPodSandbox call that nothing comes in between. -/
theorem run_listPodSandbox (env : ListEnv) (filter : Option PodSandboxFilter) (s : State) :
    Core.listPodSandbox ds (env.alone s) filter s =
      (response ((listPodSandbox ds env filter).run s).1, ((listPodSandbox ds env filter).run s).2) := by
  rw [listPodSandbox, Thread.run_bind]
  dsimp only [Core.listPodSandbox, ListEnv.alone]
  cases filter with
  | none =>
    rw [listCheckpoints, run_look, Thread.run_bind, run_look]
    dsimp only [ListEnv.checkpointIDs]
    cases env.listContainers (listOptions none) s.containers with
    | ok cs =>
      cases env.listCheckpoints s.checkpoints with
      | ok ids => exact run_response env none ids cs
      | error _ => exact run_response env none [] cs
    | error err =>
      by_cases hfound : isContainerNotFoundError err = true
      · dsimp only [afterListContainers]
        rw [if_pos hfound, if_pos hfound]
        cases env.listCheckpoints s.checkpoints with
        | ok ids => exact run_response env none ids []
        | error _ => exact run_response env none [] []
      · dsimp only [afterListContainers]
        rw [if_neg hfound, if_neg hfound]
        rfl
  | some f =>
    rw [listCheckpoints, Thread.run_pure, Thread.run_bind, run_look]
    dsimp only
    cases env.listContainers (listOptions (some f)) s.containers with
    | ok cs => exact run_response env (some f) [] cs
    | error err =>
      by_cases hfound : isContainerNotFoundError err = true
      · dsimp only [afterListContainers]
        rw [if_pos hfound, if_pos hfound]
        exact run_response env (some f) [] []
      · dsimp only [afterListContainers]
        rw [if_neg hfound, if_neg hfound]
        rfl

end Threads

end CriDockerd.Core
