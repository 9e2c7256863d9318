import CriDockerd.Core.LogLinks
import CriDockerd.Lib.Reachable

/-! Where the links to container logs lead, over runs of CreateContainer, StartContainer and RemoveContainer (which is also
    how RemovePodSandbox removes containers) in which any call of Docker and of the file system may fail. -/

namespace CriDockerd.Core.LogLinks
open Text

/-! ### Single calls -/

theorem getContainerLogPath_ok {fault : Option GoError} {id path : Text} {containers : Containers}
    (h : getContainerLogPath fault id containers = .ok path) : ∃ c, containers id = some c ∧ logPath c = path := by
  unfold getContainerLogPath inspectContainer at h
  split at h
  · cases h
  · rename_i info hinspect
    split at hinspect
    · cases hinspect
    · cases hinspect
    · cases hinspect
      exact ⟨_, ‹_›, Except.ok.inj h⟩

section
variable {fault : Option GoError} {path p target : Text} {links : Links}

theorem osRemove_ne (h : p ≠ path) : (osRemove fault path links).2 p = links p := by
  unfold osRemove
  split
  · rfl
  · rfl
  · exact Function.update_of_ne h _ _

theorem osRemove_le (h : (osRemove fault path links).2 p = some target) : links p = some target := by
  unfold osRemove at h
  split at h
  · exact h
  · exact h
  · by_cases hp : p = path
    · subst hp
      exact absurd ((Function.update_self p none links).symm.trans h) (by simp)
    · exact (Function.update_of_ne hp none links).symm.trans h

/-- After a removal that reports no error, or that the file is missing, there is no link. -/
theorem osRemove_gone (h : ∀ err, (osRemove fault path links).1 = some err → isNotExist err = true) :
    (osRemove fault path links).2 path = none := by
  unfold osRemove at h ⊢
  split at h
  · cases h _ rfl
  · assumption
  · exact Function.update_self ..

theorem osSymlink_ne {old : Text} (h : p ≠ path) : (osSymlink fault old path links).2 p = links p := by
  unfold osSymlink
  split
  · rfl
  · rfl
  · exact Function.update_of_ne h _ _

theorem osSymlink_self {old : Text} (h : (osSymlink fault old path links).2 path = some target) :
    target = old ∨ links path = some target := by
  unfold osSymlink at h
  split at h
  · exact .inr h
  · exact .inr h
  · exact .inl (Option.some.inj ((Function.update_self path (some old) links).symm.trans h)).symm

theorem osSymlink_ok {old : Text} (h : (osSymlink fault old path links).1 = none) :
    (osSymlink fault old path links).2 path = some old := by
  unfold osSymlink at h ⊢
  split at h
  · cases h
  · cases h
  · exact Function.update_self ..

end

/-! ### StartContainer -/

section
variable {realPath : Text → Text} {env : StartEnv} {id : Text} {s : State}

theorem startContainer_state : (startContainer realPath env id s).2 = s ∨ ∃ c, s.containers id = some c ∧ logPath c ≠ [] ∧
    (startContainer realPath env id s).2 = { s with links :=
      (osSymlink env.symlink (realPath id) (logPath c) (osRemove env.remove (logPath c) s.links).2).2 } := by
  have hstart : (startContainer realPath env id s).2 = (createContainerLogSymlink realPath env id s).2 := by
    unfold startContainer
    dsimp only
    split <;> rename_i h <;> rw [h]
  rw [hstart]
  unfold createContainerLogSymlink
  split
  · exact .inl rfl
  · rename_i path hpath
    obtain ⟨c, hc, rfl⟩ := getContainerLogPath_ok hpath
    split
    · exact .inl rfl
    · rename_i hne
      refine .inr ⟨c, hc, fun hnil => hne (.inl hnil), ?_⟩
      split <;> rename_i h <;> rw [h]

theorem startContainer_ok {c : Container} (hc : s.containers id = some c) (hpath : logPath c ≠ []) (hreal : realPath id ≠ [])
    (h : (startContainer realPath env id s).1 = none) :
    (startContainer realPath env id s).2.links (logPath c) = some (realPath id) := by
  unfold startContainer at h ⊢
  dsimp only at h ⊢
  generalize hlink : createContainerLogSymlink realPath env id s = r at h ⊢
  obtain ⟨err, t⟩ := r
  cases err with
  | some err => cases h
  | none =>
    show t.links (logPath c) = some (realPath id)
    unfold createContainerLogSymlink at hlink
    split at hlink
    · cases hlink
    · rename_i path hlog
      obtain ⟨c', hc', rfl⟩ := getContainerLogPath_ok hlog
      cases hc.symm.trans hc'
      rw [if_neg (not_or.mpr ⟨hpath, hreal⟩)] at hlink
      split at hlink
      · rename_i links hsymlink
        cases hlink
        have hself := @osSymlink_ok env.symlink (logPath c) (osRemove env.remove (logPath c) s.links).2 (realPath id)
        rw [hsymlink] at hself
        exact hself rfl
      · cases hlink

end

/-! ### RemoveContainer -/

section
variable {env : RemoveEnv} {id p target : Text} {s : State}

theorem coreRemove_cases (fault : Option GoError) (id : Text) (containers : Containers) :
    (∃ err, Core.removeContainer fault id containers = (some err, containers)) ∨
    Core.removeContainer fault id containers = (none, Function.update containers id none) := by
  unfold Core.removeContainer
  cases callContainer fault id containers with
  | some err => exact .inl ⟨err, rfl⟩
  | none => exact .inr rfl

theorem removeContainerOf_cases (env : RemoveContainerEnv) (id : Text) (containers : Containers) :
    (∃ err, removeContainerOf env id containers = (some err, containers)) ∨
    removeContainerLogSymlink env id containers = none ∧
      removeContainerOf env id containers = (none, Function.update containers id none) := by
  unfold removeContainerOf
  split
  · exact .inl ⟨_, rfl⟩
  · exact .inl ⟨_, rfl⟩
  · rename_i hsymlink _
    rcases coreRemove_cases env.removeContainer id containers with ⟨err, hremove⟩ | hremove <;> rw [hremove]
    · exact .inl ⟨_, rfl⟩
    · exact .inr ⟨hsymlink, rfl⟩

theorem removeContainer_links (env : RemoveEnv) (id : Text) (s : State) :
    (removeContainer env id s).2.links = s.links ∨ ∃ c, s.containers id = some c ∧ logPath c ≠ [] ∧
      (removeContainer env id s).2.links = (osRemove env.remove (logPath c) s.links).2 := by
  unfold removeContainer
  dsimp only
  split
  · exact .inl rfl
  · rename_i path hpath
    obtain ⟨c, hc, rfl⟩ := getContainerLogPath_ok hpath
    by_cases hnil : logPath c = []
    · rw [if_pos hnil]
      exact .inl rfl
    · rw [if_neg hnil]
      exact .inr ⟨c, hc, hnil, rfl⟩

theorem removeContainerLogSymlink_none {links : Links} {containers : Containers}
    (h : removeContainerLogSymlink (env.toEnv links) id containers = none) : ∃ c, containers id = some c ∧
      getContainerLogPath env.inspectContainer id containers = .ok (logPath c) ∧
      (logPath c ≠ [] → (osRemove env.remove (logPath c) links).2 (logPath c) = none) := by
  unfold removeContainerLogSymlink at h
  split at h
  · cases h
  · rename_i path hpath
    obtain ⟨c, hc, rfl⟩ := getContainerLogPath_ok hpath
    refine ⟨c, hc, hpath, fun hne => osRemove_gone fun err herr => ?_⟩
    have hremove : (env.toEnv links).remove (logPath c) = some err := herr
    rw [if_neg hne, hremove] at h
    dsimp only at h
    split at h
    · assumption
    · cases h

/-- The container goes only when its link has gone before. -/
theorem removeContainer_cases (env : RemoveEnv) (id : Text) (s : State) :
    (∃ err, (removeContainer env id s).1 = some err) ∧ (removeContainer env id s).2.containers = s.containers ∨
    (removeContainer env id s).1 = none ∧ (removeContainer env id s).2.containers = Function.update s.containers id none ∧
      ∃ c, s.containers id = some c ∧ (logPath c ≠ [] → (removeContainer env id s).2.links (logPath c) = none) := by
  have hresult : (removeContainer env id s).1 = (removeContainerOf (env.toEnv s.links) id s.containers).1 ∧
      (removeContainer env id s).2.containers = (removeContainerOf (env.toEnv s.links) id s.containers).2 := ⟨rfl, rfl⟩
  rw [hresult.1, hresult.2]
  rcases removeContainerOf_cases (env.toEnv s.links) id s.containers with ⟨err, h⟩ | ⟨hsymlink, h⟩
  · rw [h]
    exact .inl ⟨⟨err, rfl⟩, rfl⟩
  · obtain ⟨c, hc, hpath, hgone⟩ := removeContainerLogSymlink_none hsymlink
    rw [h]
    refine .inr ⟨rfl, rfl, c, hc, fun hne => ?_⟩
    have hlinks : (removeContainer env id s).2.links = (osRemove env.remove (logPath c) s.links).2 := by
      unfold removeContainer
      dsimp only
      rw [hpath]
      exact if_neg hne
    rw [hlinks]
    exact hgone hne

end

/-! ### CreateContainer -/

/-- A CreateContainer call changes nothing, or makes a container with an ID that Docker has answered with, or removes the
    one that is in its way. -/
theorem createContainer_cases (env : CreateEnv) (container again : Container) (s : State) :
    (createContainer env container again s).2 = s ∨
    (∃ id c, (env.createContainer = .ok id ∨ env.createContainerAgain = .ok id) ∧
      (createContainer env container again s).2 = { s with containers := Function.update s.containers id (some c) }) ∨
    ∃ id, (createContainer env container again s).2 = { s with
      containers := Function.update s.containers id none, dropped := ((s.containers id).map (id, ·)).toList ++ s.dropped } := by
  unfold createContainer
  cases hanswer : env.createContainer with
  | ok id => exact .inr (.inl ⟨id, container, .inl rfl, rfl⟩)
  | error err =>
    dsimp only [create, recoverFromCreationConflictIfNeeded]
    split
    · exact .inl rfl
    · rename_i id hid
      rcases coreRemove_cases env.removeConflicting id s.containers with ⟨rmErr, hremove⟩ | hremove
      · rw [hremove]
        dsimp only
        split
        · exact .inl rfl
        · cases hagain : env.createContainerAgain with
          | error err => exact .inl rfl
          | ok id => exact .inr (.inl ⟨id, again, .inr rfl, rfl⟩)
      · rw [hremove]
        exact .inr (.inr ⟨id, rfl⟩)

/-! ### Where links lead -/

/-- Every link leads to the log of a container that has its path: one that Docker has, or one that the recovery from a
    name conflict has removed. -/
structure Inv (realPath : Text → Text) (s : State) : Prop where
  noPath : s.links [] = none
  leads : ∀ path target, s.links path = some target →
    ∃ id c, (s.containers id = some c ∨ (id, c) ∈ s.dropped) ∧ logPath c = path ∧ realPath id = target

section
variable {realPath : Text → Text} {s : State}

theorem Inv.startContainer (h : Inv realPath s) (env : StartEnv) (id : Text) :
    Inv realPath (startContainer realPath env id s).2 := by
  rcases @startContainer_state realPath env id s with hs | ⟨c, hc, hne, hs⟩
  · rw [hs]
    exact h
  · rw [hs]
    refine ⟨?_, fun path target hlink => ?_⟩
    · show (osSymlink _ _ _ _).2 [] = none
      rw [osSymlink_ne hne.symm, osRemove_ne hne.symm]
      exact h.noPath
    · have hlink : (osSymlink env.symlink (realPath id) (logPath c) (osRemove env.remove (logPath c) s.links).2).2 path =
        some target := hlink
      by_cases hp : path = logPath c
      · subst hp
        rcases osSymlink_self hlink with rfl | hold
        · exact ⟨id, c, .inl hc, rfl, rfl⟩
        · exact h.leads _ _ (osRemove_le hold)
      · rw [osSymlink_ne hp] at hlink
        exact h.leads _ _ (osRemove_le hlink)

theorem removeContainer_links_le {env : RemoveEnv} {id path target : Text}
    (h : (removeContainer env id s).2.links path = some target) : s.links path = some target := by
  rcases removeContainer_links env id s with hlinks | ⟨c, -, -, hlinks⟩
  · rwa [hlinks] at h
  · rw [hlinks] at h
    exact osRemove_le h

theorem Inv.removeContainer (h : Inv realPath s) (env : RemoveEnv) (id : Text) :
    Inv realPath (removeContainer env id s).2 := by
  refine ⟨?_, fun path target hlink => ?_⟩
  · cases hnil : (LogLinks.removeContainer env id s).2.links [] with
    | none => rfl
    | some target => exact absurd (h.noPath.symm.trans (removeContainer_links_le hnil)) (by simp)
  · have hold := removeContainer_links_le hlink
    obtain ⟨i, c, hknown, hpath, htarget⟩ := h.leads path target hold
    refine ⟨i, c, hknown.imp_left fun hc => ?_, hpath, htarget⟩
    rcases removeContainer_cases env id s with ⟨-, hcontainers⟩ | ⟨-, hcontainers, c', hc', hgone⟩
    · rw [hcontainers]
      exact hc
    · have hi : i ≠ id := by
        -- The link of the removed container is gone.
        rintro rfl
        cases hc.symm.trans hc'
        have hne : logPath c ≠ [] := by
          rintro hnil
          rw [← hpath, hnil, h.noPath] at hold
          cases hold
        rw [← hpath, hgone hne] at hlink
        cases hlink
      rw [hcontainers, Function.update_of_ne hi]
      exact hc

theorem Inv.create (h : Inv realPath s) {id : Text} (hfresh : s.containers id = none) (c : Container) :
    Inv realPath { s with containers := Function.update s.containers id (some c) } := by
  refine ⟨h.noPath, fun path target hlink => ?_⟩
  obtain ⟨i, c', hknown, hpath, htarget⟩ := h.leads path target hlink
  refine ⟨i, c', hknown.imp_left fun hc' => ?_, hpath, htarget⟩
  have hi : i ≠ id := by
    rintro rfl
    rw [hfresh] at hc'
    cases hc'
  exact (Function.update_of_ne hi _ _).trans hc'

theorem Inv.drop (h : Inv realPath s) (id : Text) : Inv realPath { s with
    containers := Function.update s.containers id none, dropped := ((s.containers id).map (id, ·)).toList ++ s.dropped } := by
  refine ⟨h.noPath, fun path target hlink => ?_⟩
  obtain ⟨i, c, hknown, hpath, htarget⟩ := h.leads path target hlink
  refine ⟨i, c, ?_, hpath, htarget⟩
  rcases hknown with hc | hdropped
  · by_cases hi : i = id
    · subst hi
      refine .inr (List.mem_append_left _ ?_)
      rw [hc]
      exact List.mem_singleton_self _
    · exact .inl ((Function.update_of_ne hi _ _).trans hc)
  · exact .inr (List.mem_append_right _ hdropped)

theorem Inv.createContainer (h : Inv realPath s) {env : CreateEnv} {container again : Container}
    (hfresh : (Call.createContainer env container again).Fresh s) :
    Inv realPath (createContainer env container again s).2 := by
  rcases createContainer_cases env container again s with hs | ⟨id, c, hmakes, hs⟩ | ⟨id, hs⟩ <;> rw [hs]
  · exact h
  · exact h.create (hfresh id hmakes) c
  · exact h.drop id

theorem Inv.call (h : Inv realPath s) (call : Call) (hfresh : call.Fresh s) : Inv realPath (call.run realPath s) := by
  cases call with
  | createContainer env container again => exact h.createContainer hfresh
  | startContainer env id => exact h.startContainer env id
  | removeContainer env id => exact h.removeContainer env id

/-- In every run a link leads to the log of a container that has the path of the link. Docker has that container, with one
    exception: it was removed to make place for another of the same name, and that removal leaves the link. -/
theorem links_lead (hr : Reachable (· = State.initial) (fun s (call : Call) => call.Fresh s) (Call.run realPath) s)
    {path target : Text} (hlink : s.links path = some target) :
    ∃ id c, (s.containers id = some c ∨ (id, c) ∈ s.dropped) ∧ logPath c = path ∧ realPath id = target := by
  have hinv : Inv realPath s := hr.invariant (Inv realPath) (fun s hs => by
    subst hs
    exact ⟨rfl, fun _ _ hlink => by cases hlink⟩) fun s call h hfresh => h.call call hfresh
  exact hinv.leads path target hlink

/-! ### Until when a link stays -/

/-- A start or a removal of a container with a given log path. -/
def Call.Names (path : Text) (s : State) : Call → Prop
  | .createContainer .. => False
  | .startContainer _ id => ∃ c, s.containers id = some c ∧ logPath c = path
  | .removeContainer _ id => ∃ c, s.containers id = some c ∧ logPath c = path

def run (realPath : Text → Text) (calls : List Call) (s : State) : State := calls.foldl (fun s call => call.run realPath s) s

/-- None of the calls starts or removes a container with the path. -/
def Untouched (realPath : Text → Text) (path : Text) : List Call → State → Prop
  | [], _ => True
  | call :: calls, s => ¬call.Names path s ∧ Untouched realPath path calls (call.run realPath s)

theorem links_of_not_names {path : Text} {call : Call} (h : ¬call.Names path s) :
    (call.run realPath s).links path = s.links path := by
  cases call with
  | createContainer env container again =>
    show (createContainer env container again s).2.links path = _
    rcases createContainer_cases env container again s with hs | ⟨_, _, _, hs⟩ | ⟨_, hs⟩ <;> rw [hs]
  | startContainer env id =>
    rcases @startContainer_state realPath env id s with hs | ⟨c, hc, -, hs⟩
    · exact congrArg (fun s : State => s.links path) hs
    · have hne : path ≠ logPath c := fun heq => h ⟨c, hc, heq.symm⟩
      refine (congrArg (fun s : State => s.links path) hs).trans ?_
      exact (osSymlink_ne hne).trans (osRemove_ne hne)
  | removeContainer env id =>
    rcases removeContainer_links env id s with hlinks | ⟨c, hc, -, hlinks⟩
    · exact congrFun hlinks path
    · exact (congrFun hlinks path).trans (osRemove_ne fun heq => h ⟨c, hc, heq.symm⟩)

theorem links_of_untouched {path : Text} {calls : List Call} (h : Untouched realPath path calls s) :
    (run realPath calls s).links path = s.links path := by
  induction calls generalizing s with
  | nil => rfl
  | cons call calls ih => exact (ih h.2).trans (links_of_not_names h.1)

/-- A container that is gone stays so until Docker gives its ID to a new one. -/
theorem gone_of_not_makes {id : Text} {call : Call} (h : ¬call.Makes id) (hgone : s.containers id = none) :
    (call.run realPath s).containers id = none := by
  have hupdate : ∀ i, Function.update s.containers i none id = none := fun i => by
    by_cases hi : id = i
    · rw [hi, Function.update_self]
    · rw [Function.update_of_ne hi, hgone]
  cases call with
  | createContainer env container again =>
    show (createContainer env container again s).2.containers id = none
    rcases createContainer_cases env container again s with hs | ⟨i, c, hmakes, hs⟩ | ⟨i, hs⟩ <;> rw [hs]
    · exact hgone
    · have hi : id ≠ i := by
        rintro rfl
        exact h hmakes
      exact (Function.update_of_ne hi _ _).trans hgone
    · exact hupdate i
  | startContainer env i =>
    rcases @startContainer_state realPath env i s with hs | ⟨c, -, -, hs⟩ <;>
      exact (congrArg (fun s : State => s.containers id) hs).trans hgone
  | removeContainer env i =>
    rcases removeContainer_cases env i s with ⟨-, hcontainers⟩ | ⟨-, hcontainers, -⟩
    · exact (congrFun hcontainers id).trans hgone
    · exact (congrFun hcontainers id).trans (hupdate i)

theorem gone_of_none_makes {id : Text} {calls : List Call} (h : ∀ call ∈ calls, ¬call.Makes id)
    (hgone : s.containers id = none) : (run realPath calls s).containers id = none := by
  induction calls generalizing s with
  | nil => exact hgone
  | cons call calls ih =>
    obtain ⟨hfirst, hrest⟩ := List.forall_mem_cons.mp h
    exact ih hrest (gone_of_not_makes hfirst hgone)

/-- A start without an error leaves a link to the log of the container, a removal without an error none; and so it is until
    a container with the same log path is started or removed, whatever else happens. The removed container is gone, until
    its ID is given to another. -/
theorem link_stays {id : Text} {c : Container} (hc : s.containers id = some c) (hpath : logPath c ≠ []) (calls : List Call) :
    (∀ env, realPath id ≠ [] → (startContainer realPath env id s).1 = none →
      Untouched realPath (logPath c) calls (startContainer realPath env id s).2 →
      (run realPath calls (startContainer realPath env id s).2).links (logPath c) = some (realPath id)) ∧
    ∀ env, (removeContainer env id s).1 = none →
      ((∀ call ∈ calls, ¬call.Makes id) → (run realPath calls (removeContainer env id s).2).containers id = none) ∧
      (Untouched realPath (logPath c) calls (removeContainer env id s).2 →
        (run realPath calls (removeContainer env id s).2).links (logPath c) = none) := by
  refine ⟨fun env hreal hok huntouched => ?_, fun env hok => ?_⟩
  · exact (links_of_untouched huntouched).trans (startContainer_ok hc hpath hreal hok)
  · rcases removeContainer_cases env id s with ⟨⟨err, herr⟩, -⟩ | ⟨-, hcontainers, c', hc', hgone⟩
    · rw [hok] at herr
      cases herr
    · cases hc.symm.trans hc'
      refine ⟨fun hmakes => gone_of_none_makes hmakes ?_, fun huntouched => (links_of_untouched huntouched).trans (hgone hpath)⟩
      rw [hcontainers, Function.update_self]

end

/-! ### Two containers with one log path -/

def sharedPath : Container :=
  { name := "/k8s_web", networkMode := none, resolvConfPath := [], labels := [(containerLogPathLabelKey, "/logs/0.log")] }

def noFaults : StartEnv := ⟨none, none, none, none⟩

/-- The first container is started, and a second one with its log path is made. -/
def twoMade : State := run id [.createContainer ⟨.ok "a", none, .ok "a"⟩ sharedPath sharedPath,
  .startContainer noFaults "a", .createContainer ⟨.ok "b", none, .ok "b"⟩ sharedPath sharedPath] State.initial

theorem links_lead_twoMade : ∃ i c, (twoMade.containers i = some c ∨ (i, c) ∈ twoMade.dropped) ∧
    logPath c = "/logs/0.log" ∧ id i = "a" := by
  have hcreate {s : State} {i : Text} (hi : s.containers i = none) :
      (Call.createContainer ⟨.ok i, none, .ok i⟩ sharedPath sharedPath).Fresh s := by
    rintro j (h | h) <;> exact Except.ok.inj h ▸ hi
  have hmade := @Reachable.call State Call (· = State.initial) (fun s call => call.Fresh s) (Call.run id) _
    (.createContainer ⟨.ok "a", none, .ok "a"⟩ sharedPath sharedPath) (.start rfl) (hcreate rfl)
  have hstarted := @Reachable.call State Call (· = State.initial) (fun s call => call.Fresh s) (Call.run id) _
    (.startContainer noFaults "a") hmade fun _ hmakes => hmakes.elim
  exact links_lead (.call hstarted (hcreate rfl)) rfl

def otherPath : Container := { sharedPath with labels := [(containerLogPathLabelKey, "/logs/1.log")] }

/-- A container with a log path of its own is made and started. -/
def thirdStarted : List Call :=
  [.createContainer ⟨.ok "d", none, .ok "d"⟩ otherPath otherPath, .startContainer noFaults "d"]

/-- The removal of the second container takes the link to the log of the first one away, and a third one does not bring
    it back. -/
theorem link_stays_twoMade :
    (run id thirdStarted (removeContainer ⟨none, none, [], none⟩ "b" twoMade).2).links "/logs/0.log" = none ∧
      (run id thirdStarted (removeContainer ⟨none, none, [], none⟩ "b" twoMade).2).containers "b" = none := by
  have huntouched : Untouched id "/logs/0.log" thirdStarted (removeContainer ⟨none, none, [], none⟩ "b" twoMade).2 := by
    refine ⟨fun hnames => hnames, ?_, trivial⟩
    rintro ⟨c, hc, hpath⟩
    have hother : c = otherPath := (Option.some.inj hc).symm
    rw [hother] at hpath
    exact absurd hpath (by decide)
  have hmakes : ∀ call ∈ thirdStarted, ¬call.Makes "b" := by
    simp only [thirdStarted, List.forall_mem_cons]
    refine ⟨?_, fun hmakes => hmakes, by simp⟩
    rintro (h | h) <;> exact absurd (Except.ok.inj h) (by decide)
  have hremoved := (@link_stays id twoMade "b" sharedPath rfl (by decide) thirdStarted).2 ⟨none, none, [], none⟩ rfl
  exact ⟨hremoved.2 huntouched, hremoved.1 hmakes⟩

end CriDockerd.Core.LogLinks
