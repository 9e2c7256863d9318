import Mathlib.Data.List.Nodup
import CriDockerd.Core.Threads
import CriDockerd.Theorems.Sandbox.Listing

/-! ListPodSandbox among any number of RunPodSandbox calls. The lister reads the checkpoints before the containers, and
    a sandbox gets its container before its checkpoint: a sandbox that is found by its checkpoint had its container
    before the containers were listed, so it is only missing there if the container was removed. -/

namespace CriDockerd.Core
open Text Store

variable {ds : DockerService} {s t u : State}

/-- The container of a sandbox, by its label. -/
def Container.IsSandbox (container : Container) : Prop :=
  container.labels.lookup containerTypeLabelKey = some containerTypeLabelSandbox

theorem sandboxContainer_isSandbox (env : RunEnv) (config : PodSandboxConfig) (name : Text) :
    (sandboxContainer ds env config name).IsSandbox := rfl

/-! ### What happens to containers and checkpoints -/

/-- At most one event is recorded, and it is no new container. -/
def Records (s t : State) : Prop := t.history = s.history ∨ ∃ e, t.history = e :: s.history ∧ ∀ d, e ≠ .created d

theorem Records.subset (h : Records s t) : s.history ⊆ t.history := by
  rcases h with heq | ⟨e, heq, -⟩
  · exact heq ▸ List.Subset.refl _
  · exact heq ▸ List.subset_cons_self _ _

theorem Records.created {d : Text} (h : Records s t) (hd : .created d ∈ t.history) : .created d ∈ s.history := by
  rcases h with heq | ⟨e, heq, hne⟩
  · exact heq ▸ hd
  · rw [heq] at hd
    rcases List.mem_cons.mp hd with hd | hd
    · exact absurd hd.symm (hne d)
    · exact hd

/-- What RunPodSandbox calls with these new IDs do: a container comes with its ID, which has not been there before,
    and a checkpoint only comes for a container that has come; both may go. -/
structure Evolves (new : Text → Prop) (s t : State) : Prop where
  history : s.history ⊆ t.history
  created : ∀ d, .created d ∈ t.history → .created d ∈ s.history ∨ new d
  containers : ∀ d, t.containers d = s.containers d ∨ t.containers d = none ∨
    (.created d ∈ t.history ∧ .created d ∉ s.history ∧
      ∃ container, t.containers d = some container ∧ container.IsSandbox)
  checkpoints : ∀ d, t.checkpoints d ≠ none → s.checkpoints d ≠ none ∨ .created d ∈ t.history

namespace Evolves
variable {new new' : Text → Prop}

theorem of_fades (hcontainers : ∀ d, t.containers d = s.containers d ∨ t.containers d = none)
    (hcheckpoints : ∀ d, t.checkpoints d = s.checkpoints d ∨ t.checkpoints d = none) (hrecords : Records s t) :
    Evolves new s t where
  history := hrecords.subset
  created d hd := Or.inl (hrecords.created hd)
  containers d := (hcontainers d).imp id Or.inl
  checkpoints d hd := by
    rcases hcheckpoints d with heq | hnone
    · exact Or.inl (heq ▸ hd)
    · exact absurd hnone hd

theorem of_checkpoint {id : Text} (hcreated : .created id ∈ s.history) (hcontainers : t.containers = s.containers)
    (hothers : ∀ d, d ≠ id → t.checkpoints d = s.checkpoints d) (hrecords : Records s t) : Evolves new s t where
  history := hrecords.subset
  created d hd := Or.inl (hrecords.created hd)
  containers d := Or.inl (congrFun hcontainers d)
  checkpoints d hd := by
    by_cases hid : d = id
    · exact Or.inr (hid ▸ hrecords.subset hcreated)
    · exact Or.inl (hothers d hid ▸ hd)

theorem refl (s : State) : Evolves new s s :=
  of_fades (fun _ => Or.inl rfl) (fun _ => Or.inl rfl) (Or.inl rfl)

theorem trans (h₁ : Evolves new s t) (h₂ : Evolves new t u) : Evolves new s u where
  history := List.Subset.trans h₁.history h₂.history
  created d hd := by
    rcases h₂.created d hd with hd | hnew
    · exact h₁.created d hd
    · exact Or.inr hnew
  containers d := by
    rcases h₂.containers d with heq | hnone | ⟨hcreated, hbefore, hcontainer⟩
    · rcases h₁.containers d with heq' | hnone | ⟨hcreated, hbefore, hcontainer⟩
      · exact Or.inl (heq.trans heq')
      · exact Or.inr (Or.inl (heq.trans hnone))
      · exact Or.inr (Or.inr ⟨h₂.history hcreated, hbefore, heq ▸ hcontainer⟩)
    · exact Or.inr (Or.inl hnone)
    · exact Or.inr (Or.inr ⟨hcreated, fun hold => hbefore (h₁.history hold), hcontainer⟩)
  checkpoints d hd := by
    rcases h₂.checkpoints d hd with hd | hcreated
    · exact (h₁.checkpoints d hd).imp id (h₂.history ·)
    · exact Or.inr hcreated

theorem mono (h : Evolves new s t) (hnew : ∀ d, new d → new' d) : Evolves new' s t where
  history := h.history
  created d hd := (h.created d hd).imp id (hnew d)
  containers := h.containers
  checkpoints := h.checkpoints

end Evolves

/-! ### RunPodSandbox -/

section
variable {env : RunEnv} {config : PodSandboxConfig} {new others : Text → Prop} {id : Text}

/-- An ID that Docker may give to the sandbox. -/
def RunEnv.Answers (env : RunEnv) (c : Text) : Prop := env.createContainer = .ok c ∨ env.createContainerAgain = .ok c

theorem change_always {f : State → State} (h : ∀ s, Evolves new s (f s)) : (Threads.change f).Always (Evolves new) :=
  Thread.Always.atom h

theorem look_always {α : Type} (f : State → α) : (Threads.look f).Always (Evolves new) :=
  Thread.Always.atom Evolves.refl

section
variable {α β : Type} {rely : State → State → Prop} {post : β → State → Prop}

theorem atom_ensures {op : State → α × State} {k : α → Thread State β}
    (h : ∀ t, rely s t → Evolves new t (op t).2 ∧ (k (op t).1).Ensures rely (Evolves new) post (op t).2) :
    (Thread.atom op >>= k).Ensures rely (Evolves new) post s := h

theorem look_ensures {f : State → α} {k : α → Thread State β}
    (h : ∀ t, rely s t → (k (f t)).Ensures rely (Evolves new) post t) :
    (Threads.look f >>= k).Ensures rely (Evolves new) post s := fun t ht => ⟨Evolves.refl t, h t ht⟩

theorem change_ensures {f : State → State} {k : Unit → Thread State β} (hf : ∀ t, Evolves new t (f t))
    (h : ∀ t, rely s t → (k ()).Ensures rely (Evolves new) post (f t)) :
    (Threads.change f >>= k).Ensures rely (Evolves new) post s := fun t ht => ⟨hf t, h t ht⟩

end

theorem dropCheckpoint_evolves (fsErr : Option GoError) (id : Text) (s : State) : Evolves new s (s.dropCheckpoint fsErr id) :=
  .of_fades (fun _ => Or.inl rfl) (removeCheckpoint_drops fsErr id s.checkpoints).fades (Or.inl rfl)

theorem record_evolves {e : Event} (he : ∀ d, e ≠ .created d) (s : State) : Evolves new s (s.record e) :=
  .of_fades (fun _ => Or.inl rfl) (fun _ => Or.inl rfl) (Or.inr ⟨e, rfl, he⟩)

theorem setNetworkReady_evolves (id : Text) (ready : Bool) (s : State) : Evolves new s (s.setNetworkReady id ready) :=
  .of_fades (fun _ => Or.inl rfl) (fun _ => Or.inl rfl) (Or.inl rfl)

theorem lookUp_always (faults : CheckpointFaults) : (Threads.lookUp ds id faults).Always (Evolves new) := by
  refine (look_always _).bind fun r => ?_
  split
  · trivial
  · trivial
  · exact (change_always (dropCheckpoint_evolves _ _)).bind fun _ => trivial
  · split
    · trivial
    · split <;> trivial

theorem lookUpAll_always (lookups : List CheckpointFaults) : (Threads.lookUpAll ds id lookups).Always (Evolves new) := by
  induction lookups with
  | nil => trivial
  | cons faults rest ih =>
    refine (lookUp_always faults).bind fun panics => ?_
    cases panics with
    | true => trivial
    | false => exact ih

theorem callPlugin_always {event : Bool → Event} (hevent : ∀ ok d, event ok ≠ .created d) (failed ns name : Text)
    (call : PluginCall) : (Threads.callPlugin ds event failed call ns name id).Always (Evolves new) := by
  refine (lookUpAll_always _).bind fun panics => ?_
  cases panics with
  | true => exact (change_always (record_evolves (hevent _))).bind fun _ => trivial
  | false =>
    refine (change_always (record_evolves (hevent _))).bind fun _ => ?_
    split <;> trivial

theorem setUpNetwork_always : (Threads.setUpNetwork ds env config id).Always (Evolves new) := by
  refine (callPlugin_always (fun _ _ => ?_) _ _ _ _).bind fun r => ?_
  · rintro ⟨⟩
  split
  · trivial
  · trivial
  · refine (callPlugin_always (fun _ _ => ?_) _ _ _ _).bind fun r => ?_
    · rintro ⟨⟩
    split
    · trivial
    · exact look_always _
    · exact look_always _

theorem connectSandbox_always : (Threads.connectSandbox ds env config id).Always (Evolves new) := by
  refine (look_always _).bind fun r => ?_
  split
  · trivial
  · split
    · trivial
    · split
      · trivial
      · exact setUpNetwork_always

theorem createCheckpoint_others (methods : Checkpoint PodSandboxCheckpoint Blob) (fsErr : Option GoError)
    (checkpoint : PodSandboxCheckpoint) (dir : Dir Blob) {d : Text} (hd : d ≠ id) :
    (createCheckpoint methods fsErr id checkpoint dir).2 d = dir d := by
  unfold createCheckpoint
  split
  · rfl
  · rfl
  · unfold write
    split
    · rename_i hwrite
      split at hwrite <;> cases hwrite <;> rfl
    · rename_i hwrite
      split at hwrite
      · cases hwrite
      · cases hwrite
      · cases hwrite
        exact Function.update_of_ne hd _ _

theorem writeCheckpoint_evolves (hcreated : .created id ∈ s.history) :
    Evolves new s (Threads.writeCheckpoint ds env config id s).2 := by
  have hothers : ∀ d, d ≠ id → (createCheckpoint (podSandboxCheckpoint ds.spew) env.writeCheckpoint id
      (constructPodSandboxCheckpoint config) s.checkpoints).2 d = s.checkpoints d := fun d =>
    createCheckpoint_others _ _ _ _
  unfold Threads.writeCheckpoint
  generalize createCheckpoint (podSandboxCheckpoint ds.spew) env.writeCheckpoint id (constructPodSandboxCheckpoint config)
    s.checkpoints = written at hothers ⊢
  obtain ⟨r, dir⟩ := written
  cases r with
  | ok _ =>
    refine .of_checkpoint hcreated rfl hothers (Or.inr ⟨_, rfl, ?_⟩)
    rintro d ⟨⟩
  | error err => exact .of_checkpoint hcreated rfl hothers (Or.inl rfl)
  | panic => exact .of_checkpoint hcreated rfl hothers (Or.inl rfl)

theorem startSandbox_ensures (hcreated : .created id ∈ s.history) :
    (Threads.startSandbox ds env config id).Ensures (Evolves others) (Evolves new) (fun _ _ => True) s := by
  refine atom_ensures fun t ht => ⟨writeCheckpoint_evolves (ht.history hcreated), Thread.Always.ensures ?_ _⟩
  split
  · trivial
  · trivial
  · refine (look_always _).bind fun r => ?_
    split
    · trivial
    · exact connectSandbox_always

/-- None of the IDs that Docker may give to the sandbox has been given before. -/
def RunEnv.Unused (env : RunEnv) (s : State) : Prop := ∀ c, env.Answers c → .created c ∉ s.history

theorem RunEnv.Unused.stable (h : env.Unused s) (hothers : ∀ c, env.Answers c → ¬others c) (hevolves : Evolves others s t) :
    env.Unused t := by
  intro c hc hcreated
  rcases hevolves.created c hcreated with hbefore | hother
  · exact h c hc hbefore
  · exact hothers c hc hother

section
variable (hnew : ∀ c, env.Answers c → new c) (hothers : ∀ c, env.Answers c → ¬others c)
include hnew hothers

theorem createContainer_ensures {answer : Except GoError Text} {container : Container} (hsandbox : container.IsSandbox)
    (hanswer : ∀ c, answer = .ok c → env.Answers c) (hunused : env.Unused s) :
    (Thread.atom (createContainer answer container)).Ensures (Evolves others) (Evolves new)
      (fun r s => (∀ c, r = .ok c → .created c ∈ s.history) ∧ (∀ err, r = .error err → env.Unused s)) s := by
  intro t ht
  have hunused' := hunused.stable hothers ht
  cases answer with
  | error err =>
    refine ⟨Evolves.refl t, fun u hu => ⟨?_, fun _ _ => hunused'.stable hothers hu⟩⟩
    rintro c ⟨⟩
  | ok c =>
    have hc := hanswer c rfl
    refine ⟨⟨List.subset_cons_self _ _, fun d hd => ?_, fun d => ?_, fun _ => Or.inl⟩, fun u hu => ⟨?_, ?_⟩⟩
    · rcases List.mem_cons.mp hd with heq | hbefore
      · cases heq
        exact Or.inr (hnew c hc)
      · exact Or.inl hbefore
    · by_cases hd : d = c
      · subst hd
        exact Or.inr (Or.inr ⟨List.mem_cons_self, hunused' d hc, container, Function.update_self _ _ _, hsandbox⟩)
      · exact Or.inl (Function.update_of_ne hd _ _)
    · rintro c' ⟨⟩
      exact hu.history List.mem_cons_self
    · rintro err ⟨⟩

theorem recover_ensures (err : GoError) (hunused : env.Unused s) :
    (Threads.recoverFromCreationConflictIfNeeded ds env config err).Ensures (Evolves others) (Evolves new)
      (fun r s => ∀ c, r = .ok c → .created c ∈ s.history) s := by
  unfold Threads.recoverFromCreationConflictIfNeeded
  split
  · rintro t - c ⟨⟩
  · rename_i id _
    refine atom_ensures fun t ht => ⟨.of_fades (removeContainer_fades _ _ _) (fun _ => Or.inl rfl) (Or.inl rfl), ?_⟩
    have hremoved : env.Unused { t with containers := (removeContainer env.removeConflicting id t.containers).2 } :=
      fun c hc => hunused.stable hothers ht c hc
    dsimp only
    split
    · rintro u - c ⟨⟩
    · split
      · rintro u - c ⟨⟩
      · exact (createContainer_ensures hnew hothers (sandboxContainer_isSandbox _ _ _) (fun _ => Or.inr) hremoved).mono
          fun r s hr => hr.1

theorem createSandbox_ensures (runtimeHandler : Text) (hunused : env.Unused s) :
    (Threads.createSandbox ds env config runtimeHandler).Ensures (Evolves others) (Evolves new)
      (fun r s => ∀ c, r = .ok c → .created c ∈ s.history) s := by
  unfold Threads.createSandbox
  dsimp only
  split
  · rintro t - c ⟨⟩
  split
  · rintro t - c ⟨⟩
  split
  · rintro t - c ⟨⟩
  refine .bind Evolves.refl ?_
  refine (createContainer_ensures hnew hothers (sandboxContainer_isSandbox _ _ _) (fun _ => Or.inl) hunused).mono
    fun r t hr => ?_
  cases r with
  | ok id =>
    rintro u hu c ⟨⟩
    exact hu.history (hr.1 id rfl)
  | error err =>
    refine .bind Evolves.refl ((recover_ensures hnew hothers err (hr.2 err rfl)).mono fun r u hr => ?_)
    cases r with
    | ok id =>
      rintro v hv c ⟨⟩
      exact hv.history (hr id rfl)
    | error err => rintro v - c ⟨⟩

theorem runPodSandbox_ensures (runtimeHandler : Text) (hunused : env.Unused s) :
    (Threads.runPodSandbox ds env config runtimeHandler).Ensures (Evolves others) (Evolves new) (fun _ _ => True) s := by
  refine .bind Evolves.refl ((createSandbox_ensures hnew hothers runtimeHandler hunused).mono fun r t hr => ?_)
  cases r with
  | error err => exact fun _ _ => trivial
  | ok id =>
    refine change_ensures (setNetworkReady_evolves _ _) fun u hu => ?_
    have hcreated : .created id ∈ (u.setNetworkReady id false).history := hu.history (hr id rfl)
    refine .bind Evolves.refl ((startSandbox_ensures hcreated).mono fun exit v _ => Thread.Always.ensures ?_ v)
    split
    · exact (change_always (setNetworkReady_evolves _ _)).bind fun _ => trivial
    · trivial

end

end

/-! ### ListPodSandbox -/

section
variable {env : Threads.ListEnv} {new : Text → Prop}

/-- The answers to the list calls: the checkpoints that are listed are there, and the containers are a snapshot, with
    every sandbox by its name. An error for the containers is one that ListPodSandbox returns. -/
structure Threads.ListEnv.Snapshots (env : Threads.ListEnv) : Prop where
  checkpoints : ∀ dir ids, env.listCheckpoints dir = .ok ids → ids.Nodup ∧ ∀ id ∈ ids, dir id ≠ none
  error : ∀ containers err, env.listContainers (listOptions none) containers = .error err →
    isContainerNotFoundError err = false
  nodup : ∀ containers cs, env.listContainers (listOptions none) containers = .ok cs → (cs.map (·.id)).Nodup
  complete : ∀ containers cs, env.listContainers (listOptions none) containers = .ok cs →
    ∀ c container, containers c = some container → container.IsSandbox →
      ∃ l ∈ cs, l.id = c ∧ ∃ rest, l.names = container.name :: rest

theorem Threads.ListEnv.Snapshots.checkpointIDs (h : env.Snapshots) (dir : Dir Blob) :
    (env.checkpointIDs dir).Nodup ∧ ∀ id ∈ env.checkpointIDs dir, dir id ≠ none := by
  unfold Threads.ListEnv.checkpointIDs
  split
  · rename_i ids hlist
    exact h.checkpoints dir ids hlist
  · exact ⟨List.nodup_nil, fun _ hid => absurd hid List.not_mem_nil⟩

/-- What is found has IDs of the list, in its order. -/
def FoundAmong (ids : List Text) (r : Option (List PodSandbox)) : Prop :=
  ∀ found, r = some found → (found.map (·.id)).Sublist ids

theorem checkpointOnly_ensures {rely : State → State → Prop} (hrefl : ∀ s, rely s s) (faults : Text → CheckpointFaults)
    (ids : List Text) (s : State) :
    (Threads.checkpointOnly ds faults ids).Ensures rely (Evolves new) (fun r _ => FoundAmong ids r) s := by
  induction ids generalizing s with
  | nil =>
    rintro t - found ⟨⟩
    exact List.Sublist.slnil
  | cons id rest ih =>
    refine look_ensures fun t _ => ?_
    split
    · rintro u - found ⟨⟩
    · refine change_ensures (fun u => ?_) fun u _ => (ih _).mono fun r _ hr found hfound => (hr found hfound).cons _
      split
      · exact dropCheckpoint_evolves _ _ _
      · exact Evolves.refl u
    · split
      · rintro u - found ⟨⟩
      · rename_i sandbox hsandbox
        have hid : sandbox.id = id := by
          obtain ⟨data, -, rfl⟩ := Option.map_eq_some_iff.mp hsandbox
          rfl
        refine .bind hrefl ((ih t).mono fun r u hr => ?_)
        rintro v - found hfound
        obtain ⟨found', rfl, rfl⟩ := Option.map_eq_some_iff.mp hfound
        rw [List.map_cons, hid]
        exact (hr found' rfl).cons_cons _

/-- What a response should be: an entry for every ID, and sandboxes whose containers are there and have parsable names
    are not only found by their checkpoints. -/
structure WellListed (listed : Threads.Listed) (s : State) : Prop where
  nodup : ((listed.converted ++ listed.checkpointOnly).map (·.id)).Nodup
  checkpointOnly : ∀ item ∈ listed.checkpointOnly, ∀ container, s.containers item.id = some container →
    container.IsSandbox → ∃ err, parseSandboxName container.name = .error err

theorem wellListed_nodup {checkpoints : List Text} {cs : List ListedContainer} {found : List PodSandbox}
    (hcheckpoints : checkpoints.Nodup) (hcs : (cs.map (·.id)).Nodup)
    (hfound : (found.map (·.id)).Sublist (checkpoints.filter (· ∉ (shownSandboxes none cs).map (·.id)))) :
    ((shownSandboxes none cs ++ found).map (·.id)).Nodup := by
  rw [List.map_append]
  refine (hcs.sublist shownSandboxes_sublist).append ((hcheckpoints.filter _).sublist hfound) fun id hshown hid => ?_
  have hnot := (List.mem_filter.mp (hfound.subset hid)).2
  exact absurd hshown (by simpa using hnot)

theorem Threads.ListEnv.Snapshots.shown (h : env.Snapshots) {containers : Containers} {cs : List ListedContainer}
    (hlist : env.listContainers (listOptions none) containers = .ok cs) {c : Text} {container : Container}
    (hcontainer : containers c = some container) (hsandbox : container.IsSandbox)
    (hname : ∀ err, parseSandboxName container.name ≠ .error err) : c ∈ (shownSandboxes none cs).map (·.id) := by
  obtain ⟨l, hl, rfl, rest, hnames⟩ := h.complete containers cs hlist c container hcontainer hsandbox
  cases hparse : parseSandboxName container.name with
  | error err => exact absurd hparse (hname err)
  | ok metadata =>
    obtain ⟨sandbox, hsandbox⟩ := containerToRuntimeAPISandbox_of_name hnames hparse
    refine List.mem_map.mpr ⟨sandbox, mem_shownSandboxes.mpr ⟨⟨l, hl, hsandbox⟩, ?_⟩,
      (containerToRuntimeAPISandbox_eq_some hsandbox).1⟩
    rintro ⟨⟨⟩, -⟩

/-- What a lister among RunPodSandbox calls with new IDs ends with. -/
theorem listPodSandbox_ensures (henv : env.Snapshots) (hnew : ∀ d, new d → s.checkpoints d = none) :
    (Threads.listPodSandbox ds env none).Ensures (Evolves new) (Evolves fun _ => False)
      (fun r t => Evolves new s t ∧ ∀ listed, r = .ok listed → WellListed listed t) s := by
  have hsteps : ∀ {t u : State}, Evolves (fun _ => False) t u → Evolves new t u := fun h => h.mono fun _ => False.elim
  -- The lister sees the checkpoints in the state t and the containers in the state u.
  refine look_ensures fun t ht => look_ensures fun u hu => ?_
  obtain ⟨hnodup, hthere⟩ := henv.checkpointIDs t.checkpoints
  have hsu := ht.trans hu
  cases hlist : env.listContainers (listOptions none) u.containers with
  | error err =>
    rw [Threads.afterListContainers, henv.error _ _ hlist, if_neg Bool.false_ne_true]
    intro v hv
    refine ⟨hsu.trans hv, ?_⟩
    rintro listed ⟨⟩
  | ok cs =>
    have hfound : (Threads.checkpointOnly ds env.checkpoint
        ((env.checkpointIDs t.checkpoints).filter (· ∉ (shownSandboxes none cs).map (·.id)))).Ensures (Evolves new)
        (Evolves fun _ => False) (fun r _ => FoundAmong _ r) u := checkpointOnly_ensures Evolves.refl _ _ u
    refine .bind Evolves.refl ((hfound.since (fun _ _ _ => Evolves.trans) (fun _ _ => hsteps) (Evolves.refl u)).mono ?_)
    rintro r v ⟨huv, hr⟩ w hvw
    have huw := huv.trans hvw
    refine ⟨hsu.trans huw, fun listed hlisted => ?_⟩
    cases r with
    | none => cases hlisted
    | some found =>
      obtain rfl : listed = ⟨shownSandboxes none cs, found⟩ := (Outcome.ok.inj hlisted).symm
      refine ⟨wellListed_nodup hnodup (henv.nodup _ _ hlist) (hr found rfl), ?_⟩
      intro item hitem container hcontainer hsandbox
      obtain ⟨hmem, hnot⟩ := List.mem_filter.mp ((hr found rfl).subset (List.mem_map_of_mem hitem))
      -- The checkpoint was there before the containers were listed, so the container has not come since.
      have hcontainer' : u.containers item.id = some container := by
        rcases huw.containers item.id with heq | hnone | ⟨hcreated, hbefore, -⟩
        · exact heq ▸ hcontainer
        · rw [hnone] at hcontainer
          cases hcontainer
        · exfalso
          rcases ht.checkpoints item.id (hthere item.id hmem) with hold | hcreated'
          · rcases (hsu.trans huw).created item.id hcreated with hstart | hid
            · exact hbefore (hsu.history hstart)
            · exact hold (hnew item.id hid)
          · exact hbefore (hu.history hcreated')
      by_contra hname
      have hshown := henv.shown hlist hcontainer' hsandbox fun err herr => hname ⟨err, herr⟩
      exact absurd hshown (by simpa using hnot)

end

/-! ### Interleavings -/

structure RunCall where
  env : RunEnv
  config : PodSandboxConfig
  runtimeHandler : Text

inductive Response where
  | listed (result : Outcome GoError Threads.Listed)
  | ran (result : Option Text × Outcome GoError Unit)

section
variable {ι : Type}

/-- ListPodSandbox without a filter, and RunPodSandbox calls. -/
def concurrently (ds : DockerService) (lister : Threads.ListEnv) (runs : ι → RunCall) (s : State) :
    Thread.Pool State (Option ι) Response where
  state := s
  threads
    | none => do
      let result ← Threads.listPodSandbox ds lister none
      pure (.listed result)
    | some i => do
      let result ← Threads.runPodSandbox ds (runs i).env (runs i).config (runs i).runtimeHandler
      pure (.ran result)

/-- Docker gives IDs that are new, and no ID twice. -/
structure UniqueIDs (runs : ι → RunCall) (s : State) : Prop where
  containers : ∀ i c, (runs i).env.Answers c → s.containers c = none
  checkpoints : ∀ i c, (runs i).env.Answers c → s.checkpoints c = none
  history : ∀ i c, (runs i).env.Answers c → .created c ∉ s.history
  apart : ∀ i j c, (runs i).env.Answers c → (runs j).env.Answers c → i = j

/-- The steps that a thread relies on: those of the runs but perhaps itself. -/
def relied (runs : ι → RunCall) (i : Option ι) : State → State → Prop :=
  Evolves fun c => ∃ j, some j ≠ i ∧ (runs j).env.Answers c

def guaranteed (runs : ι → RunCall) : Option ι → State → State → Prop
  | none => Evolves fun _ => False
  | some i => Evolves (runs i).env.Answers

def ending (runs : ι → RunCall) (s : State) : Option ι → Response → State → Prop
  | none, r, t => ∀ listed, r = .listed (.ok listed) → relied runs none s t ∧ WellListed listed t
  | some _, _, _ => True

variable {lister : Threads.ListEnv} {runs : ι → RunCall}

theorem guaranteed_relied {i j : Option ι} (hij : i ≠ j) (h : guaranteed runs i s t) : relied runs j s t := by
  cases i with
  | none => exact h.mono fun _ => False.elim
  | some i => exact h.mono fun c hc => ⟨i, hij, hc⟩

theorem concurrently_ensures (hlister : lister.Snapshots) (hids : UniqueIDs runs s) (i : Option ι) :
    ((concurrently ds lister runs s).threads i).Ensures (relied runs i) (guaranteed runs i) (ending runs s i) s := by
  cases i with
  | none =>
    have hnew : ∀ d, (∃ j, some j ≠ none ∧ (runs j).env.Answers d) → s.checkpoints d = none := by
      rintro d ⟨j, -, hd⟩
      exact hids.checkpoints j d hd
    refine .map ((listPodSandbox_ensures hlister hnew).mono ?_)
    rintro r t ⟨hst, hr⟩ listed ⟨⟩
    exact ⟨hst, hr listed rfl⟩
  | some i =>
    have hothers : ∀ c, (runs i).env.Answers c → ¬∃ j, some j ≠ some i ∧ (runs j).env.Answers c := by
      rintro c hc ⟨j, hne, hc'⟩
      exact hne (congrArg some (hids.apart j i c hc' hc))
    exact .map (runPodSandbox_ensures (fun _ => id) hothers _ (hids.history i))

/-- In any interleaving of an unfiltered ListPodSandbox with RunPodSandbox calls, the IDs of a response are distinct, and
    an item that is only found by its checkpoint is not one of a sandbox with a parsable name whose container is there:
    a container that has come and was not removed. -/
theorem concurrent_listPodSandbox [DecidableEq ι] (hlister : lister.Snapshots) (hids : UniqueIDs runs s)
    {p : Thread.Pool State (Option ι) Response} (hp : (concurrently ds lister runs s).Reaches p) {listed : Threads.Listed}
    (hdone : p.threads none = .done (.listed (.ok listed))) :
    (∃ items, Threads.response (.ok listed) = .ok items ∧ (items.map (·.id)).Nodup) ∧
      ∀ item ∈ listed.checkpointOnly, ∀ container, p.state.containers item.id = some container →
        (container.IsSandbox ∨ ∃ i, (runs i).env.Answers item.id) →
        ∃ err, parseSandboxName container.name = .error err := by
  have hends : ∀ i, (p.threads i).Ensures (relied runs i) (guaranteed runs i) (ending runs s i) p.state :=
    hp.ensures (fun _ => Evolves.refl) (fun _ _ _ _ => Evolves.trans) (fun _ _ hij _ _ => guaranteed_relied hij)
      (concurrently_ensures hlister hids)
  have hend := hends none
  rw [hdone] at hend
  obtain ⟨hevolves, hlisted⟩ := hend p.state (Evolves.refl _) listed rfl
  refine ⟨⟨_, rfl, hlisted.nodup⟩, fun item hitem container hcontainer hsandbox => ?_⟩
  refine hlisted.checkpointOnly item hitem container hcontainer ?_
  rcases hsandbox with hsandbox | ⟨i, hanswers⟩
  · exact hsandbox
  -- The container of a run has the label.
  · rcases hevolves.containers item.id with heq | hnone | ⟨-, -, container', hcontainer', hsandbox⟩
    · rw [heq, hids.containers i item.id hanswers] at hcontainer
      cases hcontainer
    · rw [hnone] at hcontainer
      cases hcontainer
    · rw [hcontainer'] at hcontainer
      cases hcontainer
      exact hsandbox

end

open Classical in
/-- Docker has no container but perhaps c1, and lists it. -/
noncomputable def onePodLister : Threads.ListEnv where
  listCheckpoints dir := .ok (["c1".toList].filter fun id => (dir id).isSome)
  listContainers _ containers :=
    if ∀ d, d ≠ "c1".toList → containers d = none then
      .ok ((containers "c1".toList).toList.map fun container =>
        ⟨"c1".toList, [container.name], [], [], container.labels, "Created".toList, 0⟩)
    else .error (.text "too many containers".toList)
  checkpoint _ := { read := none, remove := none }

theorem onePodLister_snapshots : onePodLister.Snapshots where
  checkpoints dir ids hids := by
    cases hids
    refine ⟨(List.nodup_singleton _).filter _, fun id hid => ?_⟩
    exact Option.isSome_iff_ne_none.mp (List.mem_filter.mp hid).2
  error containers err herr := by
    simp only [onePodLister] at herr
    split at herr
    · cases herr
    · cases herr
      decide
  nodup containers cs hcs := by
    simp only [onePodLister] at hcs
    split at hcs
    · cases hcs
      cases containers "c1" with
      | none => exact List.nodup_nil
      | some container => exact List.nodup_singleton _
    · cases hcs
  complete containers cs hcs c container hcontainer hsandbox := by
    simp only [onePodLister] at hcs
    split at hcs
    · rename_i hothers
      cases hcs
      by_cases hc : c = "c1"
      · subst hc
        rw [hcontainer]
        exact ⟨_, List.mem_singleton_self _, rfl, [], rfl⟩
      · rw [hothers c hc] at hcontainer
        cases hcontainer
    · cases hcs

def oneRun (_ : Unit) : RunCall := { env := quietRun "c1", config := plainConfig, runtimeHandler := [] }

theorem oneRun_uniqueIDs : UniqueIDs oneRun emptyHost where
  containers _ _ _ := rfl
  checkpoints _ _ _ := rfl
  history _ _ _ := List.not_mem_nil
  apart _ _ _ _ _ := rfl

/-- The run makes its container and its checkpoint, and then the lister lists the checkpoints. -/
noncomputable def checkpointsListed : Thread.Pool State (Option Unit) Response :=
  ((((concurrently cniService onePodLister oneRun emptyHost).advance (some ())).advance (some ())).advance (some ())).advance none

theorem checkpointsListed_reached :
    (concurrently cniService onePodLister oneRun emptyHost).Reaches (checkpointsListed.advance none) :=
  .call (.call (.call (.call (.call (.start rfl) trivial) trivial) trivial) trivial) trivial

/-- The response has the container of the run. -/
def containerListed : Threads.Listed where
  converted := [{ id := "c1", metadata := plainConfig.metadata, state := .notReady, createdAt := 0 }]
  checkpointOnly := []

theorem checkpointsListed_done :
    (checkpointsListed.advance none).threads none = .done (.listed (.ok containerListed)) := by
  have hlist : onePodLister.listContainers (listOptions none) checkpointsListed.state.containers =
      .ok [⟨"c1", ['/' :: makeSandboxName plainConfig], [], [], sandboxLabels plainConfig, "Created", 0⟩] :=
    if_pos fun d hd => Function.update_of_ne hd _ _
  have hstep : (checkpointsListed.advance none).threads none =
      (Threads.afterListContainers cniService onePodLister none ["c1".toList]
        (onePodLister.listContainers (listOptions none) checkpointsListed.state.containers) >>= fun result =>
          pure (.listed result)) := rfl
  rw [hstep, hlist]
  rfl

theorem concurrent_listPodSandbox_oneRun :
    (checkpointsListed.advance none).threads none = .done (.listed (.ok containerListed)) ∧
      ∃ items, Threads.response (.ok containerListed) = .ok items ∧ (items.map (·.id)).Nodup := by
  obtain ⟨hnodup, -⟩ := concurrent_listPodSandbox onePodLister_snapshots oneRun_uniqueIDs checkpointsListed_reached
    checkpointsListed_done
  exact ⟨checkpointsListed_done, hnodup⟩

end CriDockerd.Core
