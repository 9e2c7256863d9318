import CriDockerd.Theorems.Sandbox.Steps

/-! What a successful RemovePodSandbox has done. An error in the removal of a container is taken for a missing
    container by its text, and the text of a failed clean-up quotes the log path of the container: with such a
    path a container that is still there is passed over. Without that, success means that everything is gone. -/

namespace CriDockerd.Core
open Text Store

/-! ### Messages -/

structure IsID (id : Text) : Prop where
  ne_nil : id ≠ []
  chars : ∀ c ∈ id, isIDChar c = true

theorem notFound_append {pre t : Text} (h : 'N' ∉ pre) :
    isContainerNotFoundError (.text (pre ++ t)) = isContainerNotFoundError (.text t) := by
  induction pre with
  | nil => rfl
  | cons c pre ih =>
    rw [← ih fun hpre => h (List.mem_cons_of_mem _ hpre)]
    have hc : 'N' ≠ c := fun hc => h (hc ▸ List.mem_cons_self)
    simp [isContainerNotFoundError, GoError.error, hasPrefix, List.isPrefixOf, hc]

theorem notFound_text (err : GoError) : isContainerNotFoundError (.text err.error) = isContainerNotFoundError err := rfl

theorem quoteChar_of_isIDChar {c : Char} (h : isIDChar c = true) : quoteChar c = [c] := by
  have hrange : ¬ (c.toNat < 32 ∨ c.toNat = 127) := by
    have hdigit : c.isDigit = (decide (48 ≤ c.toNat) && decide (c.toNat ≤ 57)) := rfl
    have hlower : c.isLower = (decide (97 ≤ c.toNat) && decide (c.toNat ≤ 122)) := rfl
    simp only [isIDChar, hdigit, hlower, Bool.or_eq_true, Bool.and_eq_true, decide_eq_true_eq] at h
    omega
  have hne : ∀ d, isIDChar d = false → c ≠ d := fun d hd heq => by
    rw [heq, hd] at h
    cases h
  unfold quoteChar
  rw [if_neg (hne _ (by decide)), if_neg (hne _ (by decide)), if_neg (hne _ (by decide)), if_neg (hne _ (by decide)),
    if_neg (hne _ (by decide)), if_neg (hne _ (by decide)), if_neg (hne _ (by decide)), if_neg (hne _ (by decide)),
    if_neg (hne _ (by decide)), if_neg hrange]

theorem not_mem_quote {id : Text} (hid : IsID id) : 'N' ∉ quote id := by
  have hbody : 'N' ∉ id.flatMap quoteChar := by
    intro h
    obtain ⟨c, hc, hN⟩ := List.mem_flatMap.mp h
    rw [quoteChar_of_isIDChar (hid.chars c hc), List.mem_singleton] at hN
    exact absurd (hN ▸ hid.chars c hc) (by decide)
  simp [quote, hbody]

theorem notFound_front {c : Char} (hc : isIDChar c = true) (rest : Text) :
    isContainerNotFoundError (.text ("No such container: " ++ c :: rest)) = true := by
  refine List.any_eq_true.mpr ⟨_, (List.mem_tails _ _).mpr (List.suffix_refl _), Bool.and_eq_true_iff.mpr ⟨?_, ?_⟩⟩
  · exact List.isPrefixOf_iff_prefix.mpr (List.prefix_append _ _)
  · dsimp only [GoError.error]
    rw [List.drop_left]
    exact hc

theorem notFound_noSuchContainer {id : Text} (hid : IsID id) : isContainerNotFoundError (noSuchContainer id) = true := by
  obtain ⟨c, rest, rfl⟩ := List.exists_cons_of_ne_nil hid.ne_nil
  have htext : "Error response from daemon: No such container: " =
      "Error response from daemon: ".toList ++ "No such container: ".toList := rfl
  rw [noSuchContainer, htext, List.append_assoc, notFound_append (by decide)]
  exact notFound_front (hid.chars c List.mem_cons_self) rest

/-! ### The removal of one container -/

section
variable {env : RemoveContainerEnv} {c : Text} {containers : Containers}

/-- The failure to remove the log symlink. -/
def symlinkFailure (env : RemoveContainerEnv) (c : Text) (container : Container) : Option GoError :=
  let path := (container.labels.lookup containerLogPathLabelKey).getD []
  if path = [] then none
  else ((env.remove path).filter fun err => !isNotExist err).map (logSymlinkError c path)

/-- What goes wrong before Docker is asked to remove a container: its log symlink stays, or the clean-up of the
    platform fails. -/
def cleanupFailure (env : RemoveContainerEnv) (c : Text) (container : Container) : Option GoError :=
  (symlinkFailure env c container).or (if env.platformCleanup = [] then none else some (cleanupError c env.platformCleanup))

def Missing (env : RemoveContainerEnv) (c : Text) (containers : Containers) : Prop :=
  env.inspectContainer = none ∧ containers c = none

/-- Nothing fails. -/
def Removes (env : RemoveContainerEnv) (c : Text) (containers : Containers) : Prop :=
  env.inspectContainer = none ∧ env.removeContainer = none ∧ ∃ container, containers c = some container ∧
    cleanupFailure env c container = none

/-- A clean-up fails with a text that looks like the one for a missing container. -/
def Masked (env : RemoveContainerEnv) (c : Text) (containers : Containers) : Prop :=
  env.inspectContainer = none ∧ ∃ container err, containers c = some container ∧
    cleanupFailure env c container = some err ∧ isContainerNotFoundError err = true

def Passes (env : RemoveContainerEnv) (c : Text) (containers : Containers) : Prop :=
  Missing env c containers ∨ Removes env c containers ∨ Masked env c containers

/-- Docker says of no container that it has that it is missing. -/
def RemoveContainerEnv.Honest (env : RemoveContainerEnv) : Prop :=
  ∀ err, env.inspectContainer = some err ∨ env.removeContainer = some err → isContainerNotFoundError err = false

theorem removeContainerOf_fault {err : GoError} (h : env.inspectContainer = some err) :
    removeContainerOf env c containers = (some (.text ("failed to get container " ++ quote c ++
      " log path: " ++ ("failed to inspect container " ++ quote c ++ ": " ++ err.error))), containers) := by
  simp only [removeContainerOf, removeContainerLogSymlink, getContainerLogPath, inspectContainer, h]
  rfl

theorem removeContainerOf_missing (h : Missing env c containers) :
    removeContainerOf env c containers = (some (.text ("failed to get container " ++ quote c ++ " log path: " ++
      ("failed to inspect container " ++ quote c ++ ": " ++ (noSuchContainer c).error))), containers) := by
  simp only [removeContainerOf, removeContainerLogSymlink, getContainerLogPath, inspectContainer, h.1, h.2]
  rfl

theorem removeContainerLogSymlink_present {container : Container} (hinspect : env.inspectContainer = none)
    (hcontainer : containers c = some container) :
    removeContainerLogSymlink env c containers = symlinkFailure env c container := by
  simp only [removeContainerLogSymlink, getContainerLogPath, inspectContainer, hinspect, hcontainer, symlinkFailure]
  split
  · rfl
  · cases env.remove ((container.labels.lookup containerLogPathLabelKey).getD []) with
    | none => rfl
    | some err => cases herr : isNotExist err <;> simp [herr, Option.filter]

theorem removeContainerOf_failure {container : Container} {err : GoError} (hinspect : env.inspectContainer = none)
    (hcontainer : containers c = some container) (h : cleanupFailure env c container = some err) :
    removeContainerOf env c containers = (some err, containers) := by
  rw [removeContainerOf, removeContainerLogSymlink_present hinspect hcontainer]
  rw [cleanupFailure] at h
  cases hsymlink : symlinkFailure env c container with
  | some symlinkErr =>
    rw [hsymlink] at h
    cases h
    rfl
  | none =>
    rw [hsymlink, Option.none_or] at h
    cases hplatform : env.platformCleanup with
    | nil => simp [hplatform] at h
    | cons e errors =>
      simp only [hplatform, reduceCtorEq, if_false] at h
      cases h
      rfl

theorem removeContainerOf_clean {container : Container} (hinspect : env.inspectContainer = none)
    (hcontainer : containers c = some container) (h : cleanupFailure env c container = none) :
    removeContainerOf env c containers =
      (env.removeContainer.map fun err => .text ("failed to remove container " ++ quote c ++ ": " ++ err.error),
        if env.removeContainer = none then Function.update containers c none else containers) := by
  obtain ⟨hsymlink, hplatform⟩ := Option.or_eq_none_iff.mp h
  have hnil : env.platformCleanup = [] := by
    by_contra hne
    rw [if_neg hne] at hplatform
    cases hplatform
  rw [removeContainerOf, removeContainerLogSymlink_present hinspect hcontainer, hsymlink, hnil]
  simp only [removeContainer, callContainer, inspectContainer, hcontainer]
  cases env.removeContainer <;> simp

theorem notFound_wrapped (hid : IsID c) {what colon t : Text} (hwhat : 'N' ∉ what) (hcolon : 'N' ∉ colon) :
    isContainerNotFoundError (.text (what ++ quote c ++ colon ++ t)) = isContainerNotFoundError (.text t) := by
  refine notFound_append fun h => ?_
  rcases List.mem_append.mp h with h | h
  · rcases List.mem_append.mp h with h | h
    · exact hwhat h
    · exact not_mem_quote hid h
  · exact hcolon h

/-- A removal fails so that it counts, or is passed over, or is done. -/
theorem removeContainerOf_cases (hid : IsID c) (hhonest : env.Honest) (containers : Containers) :
    (∃ err, removeContainerOf env c containers = (some err, containers) ∧ isContainerNotFoundError err = false ∧
        ¬ Passes env c containers) ∨
      (∃ err, removeContainerOf env c containers = (some err, containers) ∧ isContainerNotFoundError err = true ∧
        (Missing env c containers ∨ Masked env c containers)) ∨
      (removeContainerOf env c containers = (none, Function.update containers c none) ∧ Removes env c containers) := by
  cases hinspect : env.inspectContainer with
  | some err =>
    refine .inl ⟨_, removeContainerOf_fault hinspect, ?_, ?_⟩
    · rw [notFound_wrapped hid (by decide) (by decide), notFound_wrapped hid (by decide) (by decide), notFound_text]
      exact hhonest err (.inl hinspect)
    · rintro (⟨h, -⟩ | ⟨h, -⟩ | ⟨h, -⟩) <;> simp [hinspect] at h
  | none =>
  cases hcontainer : containers c with
  | none =>
    refine .inr (.inl ⟨_, removeContainerOf_missing ⟨hinspect, hcontainer⟩, ?_, .inl ⟨hinspect, hcontainer⟩⟩)
    rw [notFound_wrapped hid (by decide) (by decide), notFound_wrapped hid (by decide) (by decide), notFound_text]
    exact notFound_noSuchContainer hid
  | some container =>
  cases hfailure : cleanupFailure env c container with
  | some err =>
    cases hmatch : isContainerNotFoundError err with
    | true => exact .inr (.inl ⟨err, removeContainerOf_failure hinspect hcontainer hfailure, hmatch,
        .inr ⟨hinspect, container, err, hcontainer, hfailure, hmatch⟩⟩)
    | false =>
      refine .inl ⟨err, removeContainerOf_failure hinspect hcontainer hfailure, hmatch, ?_⟩
      rintro (⟨-, h⟩ | ⟨-, -, k, hk, h⟩ | ⟨-, k, err', hk, h, hmatch'⟩)
      · simp [hcontainer] at h
      · cases hcontainer.symm.trans hk
        simp [hfailure] at h
      · cases hcontainer.symm.trans hk
        cases hfailure.symm.trans h
        simp [hmatch] at hmatch'
  | none =>
    have hclean := removeContainerOf_clean hinspect hcontainer hfailure
    cases hremove : env.removeContainer with
    | none =>
      rw [hremove] at hclean
      exact .inr (.inr ⟨hclean, hinspect, hremove, container, hcontainer, hfailure⟩)
    | some err =>
      rw [hremove] at hclean
      refine .inl ⟨_, hclean, ?_, ?_⟩
      · rw [notFound_wrapped hid (by decide) (by decide), notFound_text]
        exact hhonest err (.inr hremove)
      · rintro (⟨-, h⟩ | ⟨-, h, -⟩ | ⟨-, k, err', hk, h, -⟩)
        · simp [hcontainer] at h
        · simp [hremove] at h
        · cases hcontainer.symm.trans hk
          simp [hfailure] at h

end

/-! ### The loop -/

section
variable {env : Text → RemoveContainerEnv} {c d : Text} {containers containers' : Containers}

theorem removes_congr {env : RemoveContainerEnv} (h : containers' d = containers d) :
    Removes env d containers' ↔ Removes env d containers := by
  simp only [Removes, h]

theorem passes_congr {env : RemoveContainerEnv} (h : containers' d = containers d) :
    Passes env d containers' ↔ Passes env d containers := by
  simp only [Passes, Missing, Removes, Masked, h]

theorem passes_update (h : Removes (env c) c containers) :
    Passes (env d) d (Function.update containers c none) ↔ Passes (env d) d containers := by
  by_cases hd : d = c
  · subst hd
    exact ⟨fun _ => .inr (.inl h), fun _ => .inl ⟨h.1, Function.update_self ..⟩⟩
  · exact passes_congr (Function.update_of_ne hd ..)

/-- What the loop adds to the errors, and which containers it removes. -/
structure Looped (env : Text → RemoveContainerEnv) (cs : List ListedContainer) (extra : List (Option GoError))
    (containers containers' : Containers) : Prop where
  errors : ∀ e ∈ extra, e ≠ none
  passes : extra = [] ↔ ∀ c ∈ cs, Passes (env c.id) c.id containers
  gone : ∀ c ∈ cs, Removes (env c.id) c.id containers → containers' c.id = none
  kept : ∀ d, ((∃ c ∈ cs, c.id = d) → ¬ Removes (env d) d containers) → containers' d = containers d

theorem removeAll_looped {cs : List ListedContainer} (hids : ∀ c ∈ cs, IsID c.id) (hhonest : ∀ c, (env c).Honest)
    (errs : List (Option GoError)) (containers : Containers) :
    ∃ extra, (removeAll env cs errs containers).1 = errs ++ extra ∧
      Looped env cs extra containers (removeAll env cs errs containers).2 := by
  induction cs generalizing errs containers with
  | nil => exact ⟨[], (List.append_nil _).symm, by simp, by simp, by simp, fun _ _ => rfl⟩
  | cons c rest ih =>
    have ih := ih fun d hd => hids d (List.mem_cons_of_mem _ hd)
    have hlater : ∀ {d}, (∃ e ∈ rest, e.id = d) → ∃ e ∈ c :: rest, e.id = d := by
      rintro d ⟨e, he, heq⟩
      exact ⟨e, List.mem_cons_of_mem _ he, heq⟩
    rw [removeAll]
    rcases removeContainerOf_cases (hids c List.mem_cons_self) (hhonest c.id) containers with
      ⟨err, hremove, hmatch, hfails⟩ | ⟨err, hremove, hmatch, hpassed⟩ | ⟨hremove, hremoves⟩
    · -- The error is added to the list.
      simp only [hremove, hmatch, Bool.false_eq_true, if_false]
      obtain ⟨extra, hextra, hloop⟩ := ih (errs ++ [some err]) containers
      refine ⟨some err :: extra, by simp [hextra], ?_, ?_, ?_, ?_⟩
      · simpa using hloop.errors
      · simp [hfails]
      · intro d hd hremoves
        rcases List.mem_cons.mp hd with rfl | hd
        · exact absurd (.inr (.inl hremoves)) hfails
        · exact hloop.gone d hd hremoves
      · exact fun d hd => hloop.kept d (hd ∘ hlater)
    · simp only [hremove, hmatch, if_true]
      obtain ⟨extra, hextra, hloop⟩ := ih errs containers
      have hnot : ¬ Removes (env c.id) c.id containers := by
        rintro ⟨-, -, container, hcontainer, hclean⟩
        rcases hpassed with ⟨-, hnone⟩ | ⟨-, k, e, hk, hfailure, -⟩
        · simp [hcontainer] at hnone
        · cases hcontainer.symm.trans hk
          simp [hclean] at hfailure
      have hpasses : Passes (env c.id) c.id containers := hpassed.elim .inl fun h => .inr (.inr h)
      refine ⟨extra, hextra, hloop.errors, ?_, ?_, ?_⟩
      · simp [hloop.passes, hpasses]
      · intro d hd hremoves
        rcases List.mem_cons.mp hd with rfl | hd
        · exact absurd hremoves hnot
        · exact hloop.gone d hd hremoves
      · exact fun d hd => hloop.kept d (hd ∘ hlater)
    · simp only [hremove]
      obtain ⟨extra, hextra, hloop⟩ := ih errs (Function.update containers c.id none)
      have hgone : (removeAll env rest errs (Function.update containers c.id none)).2 c.id = none := by
        rcases removeAll_fades env rest errs (Function.update containers c.id none) c.id with heq | hnone
        · rw [heq, Function.update_self]
        · exact hnone
      refine ⟨extra, hextra, hloop.errors, ?_, ?_, ?_⟩
      · simp only [hloop.passes, passes_update hremoves, List.forall_mem_cons]
        exact ⟨fun h => ⟨.inr (.inl hremoves), h⟩, fun h => h.2⟩
      · intro d hd hremovesD
        by_cases heq : d.id = c.id
        · rw [heq]
          exact hgone
        · rcases List.mem_cons.mp hd with rfl | hd
          · exact absurd rfl heq
          · exact hloop.gone d hd ((removes_congr (Function.update_of_ne heq ..)).mpr hremovesD)
      · intro d hd
        have hne : d ≠ c.id := fun heq => hd ⟨c, List.mem_cons_self, heq.symm⟩ (heq ▸ hremoves)
        have hsame := Function.update_of_ne hne none containers
        rw [hloop.kept d fun hlisted hr => hd (hlater hlisted) ((removes_congr hsame).mp hr), hsame]

end

/-! ### RemovePodSandbox -/

section
variable {env : RemoveEnv} {id : Text} {s : State}

/-- The arguments of the list call for the containers of a sandbox. -/
def containersOf (id : Text) : ListOptions := ⟨true, [(sandboxIDLabelKey, id)], none, none⟩

/-- What Docker lists are the containers with the label of the sandbox; some may be gone by now. -/
structure Truthful (env : RemoveEnv) (id : Text) (s : State) : Prop where
  ids : ∀ cs, env.listContainers (containersOf id) = .ok cs → ∀ c ∈ cs, IsID c.id
  sound : ∀ cs, env.listContainers (containersOf id) = .ok cs → ∀ c ∈ cs, ∀ container, s.containers c.id = some container →
    container.labels.lookup sandboxIDLabelKey = some id
  complete : ∀ cs, env.listContainers (containersOf id) = .ok cs → ∀ c container, s.containers c = some container →
    container.labels.lookup sandboxIDLabelKey = some id → ∃ l ∈ cs, l.id = c

/-- Docker says of no container that it has that it is missing. -/
structure RemoveEnv.Honest (env : RemoveEnv) : Prop where
  container : ∀ c, (env.container c).Honest
  sandbox : ∀ err, env.removeContainer = some err → isContainerNotFoundError err = false

/-- Neither Docker nor the checkpoint file fails. -/
structure RemoveEnv.Faultless (env : RemoveEnv) (id : Text) : Prop where
  list : ∃ cs, env.listContainers (containersOf id) = .ok cs
  container : ∀ c, (env.container c).inspectContainer = none ∧ (env.container c).removeContainer = none
  sandbox : env.removeContainer = none
  checkpoint : env.removeCheckpoint = none

theorem RemoveEnv.Faultless.honest (h : env.Faultless id) : env.Honest where
  container c err herr := by
    rcases herr with herr | herr
    · rw [(h.container c).1] at herr
      cases herr
    · rw [(h.container c).2] at herr
      cases herr
  sandbox err herr := by
    rw [h.sandbox] at herr
    cases herr

/-- What success of RemovePodSandbox promises, and what it does to the readiness in any case. -/
structure RemovalContract (env : RemoveEnv) (id : Text) (s : State) : Prop where
  listed : (removePodSandbox env id s).1 = .ok () → ∃ cs, env.listContainers (containersOf id) = .ok cs ∧
    ∀ c ∈ cs, (removePodSandbox env id s).2.containers c.id = none
  sandbox : (removePodSandbox env id s).1 = .ok () → (removePodSandbox env id s).2.containers id = none
  checkpoint : (removePodSandbox env id s).1 = .ok () → (removePodSandbox env id s).2.checkpoints id = none
  networkReady : (removePodSandbox env id s).1 = .ok () → (removePodSandbox env id s).2.networkReady id = none
  kept : (removePodSandbox env id s).2.containers id ≠ none → (removePodSandbox env id s).2.networkReady id = s.networkReady id
  again : (removePodSandbox env id s).1 = .ok () → ∀ env' : RemoveEnv, env'.Faultless id →
    Truthful env' id (removePodSandbox env id s).2 →
    removePodSandbox env' id (removePodSandbox env id s).2 = (.ok (), (removePodSandbox env id s).2)

/-- Nothing fails in a way that counts: Docker answers, and the checkpoint can be removed. -/
structure Unopposed (env : RemoveEnv) (id : Text) (s : State) (cs : List ListedContainer) : Prop where
  list : env.listContainers (containersOf id) = .ok cs
  passes : ∀ c ∈ cs, Passes (env.container c.id) c.id s.containers
  removeContainer : env.removeContainer = none
  missing : s.containers id = none → isContainerNotFoundError (noSuchContainer id) = true
  removeCheckpoint : env.removeCheckpoint = none
  validKey : validateKey id = none

/-- A container of the sandbox is passed over, and nothing else fails. -/
def Hidden (env : RemoveEnv) (id : Text) (s : State) : Prop :=
  ∃ cs, Unopposed env id s cs ∧ ∃ c ∈ cs, c.id ≠ id ∧ Masked (env.container c.id) c.id s.containers

/-- The state after a removal in which nothing fails; the loop has left the containers. -/
def State.removed (s : State) (id : Text) (containers : Containers) : State :=
  { networkReady := Function.update s.networkReady id none, checkpoints := Function.update s.checkpoints id none,
    containers := Function.update containers id none, history := s.history }

theorem removed_containers_of_ne {c : Text} {containers : Containers} (h : c ≠ id) :
    (s.removed id containers).containers c = containers c := Function.update_of_ne h ..

theorem removeSandboxContainer_cases {fault : Option GoError}
    (hhonest : ∀ err, fault = some err → isContainerNotFoundError err = false) (id : Text) (errs : List (Option GoError)) (s : State) :
    (fault = none ∧ (s.containers id = none → isContainerNotFoundError (noSuchContainer id) = true) ∧
        removeSandboxContainer fault id errs s =
          (errs, { s with containers := Function.update s.containers id none }.clearNetworkReady id)) ∨
      (¬ (fault = none ∧ (s.containers id = none → isContainerNotFoundError (noSuchContainer id) = true)) ∧
        ∃ err, removeSandboxContainer fault id errs s = (errs ++ [some err], s)) := by
  cases fault with
  | some err =>
    refine .inr ⟨by simp, err, ?_⟩
    simp only [removeSandboxContainer, removeContainer, callContainer, inspectContainer, hhonest err rfl, Bool.false_eq_true,
      if_false]
  | none =>
    cases hcontainer : s.containers id with
    | some container =>
      refine .inl ⟨rfl, by simp, ?_⟩
      simp only [removeSandboxContainer, removeContainer, callContainer, inspectContainer, hcontainer]
    | none =>
      have hupdate : Function.update s.containers id none = s.containers := by
        rw [← hcontainer]
        exact Function.update_eq_self ..
      cases hmatch : isContainerNotFoundError (noSuchContainer id) with
      | true =>
        refine .inl ⟨rfl, fun _ => rfl, ?_⟩
        simp only [removeSandboxContainer, removeContainer, callContainer, inspectContainer, hcontainer, hmatch, if_true, hupdate]
      | false =>
        refine .inr ⟨by simp, noSuchContainer id, ?_⟩
        simp only [removeSandboxContainer, removeContainer, callContainer, inspectContainer, hcontainer, hmatch,
          Bool.false_eq_true, if_false]

theorem removeCheckpoint_cases (fsErr : Option GoError) (id : Text) (dir : Dir Blob) :
    (fsErr = none ∧ validateKey id = none ∧ removeCheckpoint fsErr id dir = (none, Function.update dir id none)) ∨
      (¬ (fsErr = none ∧ validateKey id = none) ∧ ∃ err, (removeCheckpoint fsErr id dir).1 = some err) := by
  unfold removeCheckpoint delete
  cases hkey : validateKey id with
  | some err => exact .inr ⟨by simp, err, rfl⟩
  | none =>
    cases fsErr with
    | some err => exact .inr ⟨by simp, _, rfl⟩
    | none => exact .inl ⟨rfl, rfl, rfl⟩

theorem ofErr_ne_ok {errs : List (Option GoError)} {e : Option GoError} (h : e ∈ errs) (hne : e ≠ none) :
    Outcome.ofErr (newAggregate errs) ≠ .ok () := by
  cases hagg : newAggregate errs with
  | none => exact absurd (newAggregate_eq_none.mp hagg e h) hne
  | some err => simp [Outcome.ofErr]

/-- RemovePodSandbox on a list of containers: it succeeds if nothing opposes it, and only then. -/
theorem removePodSandbox_cases {cs : List ListedContainer} (hids : ∀ c, s.containers c ≠ none → IsID c)
    (hlisted : ∀ c ∈ cs, IsID c.id) (hhonest : env.Honest) (hlist : env.listContainers (containersOf id) = .ok cs) :
    (Unopposed env id s cs ∧ ∃ containers, Looped env.container cs [] s.containers containers ∧
        removePodSandbox env id s = (.ok (), s.removed id containers)) ∨
      (¬ Unopposed env id s cs ∧ (removePodSandbox env id s).1 ≠ .ok ()) := by
  obtain ⟨extra, hextra, hloop⟩ := removeAll_looped hlisted hhonest.container [] s.containers
  rw [List.nil_append] at hextra
  have hremoveListed : removeListed env id s = (extra, { s with containers := (removeAll env.container cs [] s.containers).2 }) := by
    rw [containersOf] at hlist
    simp only [removeListed, hlist, hextra]
  generalize (removeAll env.container cs [] s.containers).2 = containers at hloop hremoveListed
  -- The sandbox's own container is missing after the loop if it was before, or the loop has removed it.
  have hmissing : (containers id = none → isContainerNotFoundError (noSuchContainer id) = true) ↔
      (s.containers id = none → isContainerNotFoundError (noSuchContainer id) = true) := by
    cases hcontainer : s.containers id with
    | some container =>
      have hmatch := notFound_noSuchContainer (hids id (by simp [hcontainer]))
      exact ⟨fun _ _ => hmatch, fun _ _ => hmatch⟩
    | none =>
      rw [hloop.kept id fun _ hremoves => by simp [Removes, hcontainer] at hremoves, hcontainer]
  rw [removePodSandbox, hremoveListed]
  dsimp only
  rcases removeSandboxContainer_cases hhonest.sandbox id extra { s with containers } with ⟨hremove, hmiss, heq⟩ | ⟨hnot, err, heq⟩
  · rw [heq]
    rcases removeCheckpoint_cases env.removeCheckpoint id s.checkpoints with ⟨hremoveCheckpoint, hkey, hck⟩ | ⟨hnot, err, hck⟩
    · cases extra with
      | nil =>
        refine .inl ⟨⟨hlist, hloop.passes.mp rfl, hremove, hmissing.mp hmiss, hremoveCheckpoint, hkey⟩, containers, hloop, ?_⟩
        simp only [State.clearNetworkReady, hck]
        rfl
      | cons e extra =>
        refine .inr ⟨fun h => absurd (hloop.passes.mpr h.passes) (by simp), ?_⟩
        exact ofErr_ne_ok (List.mem_append_left _ List.mem_cons_self) (hloop.errors e List.mem_cons_self)
    · refine .inr ⟨fun h => hnot ⟨h.removeCheckpoint, h.validKey⟩, ?_⟩
      simp only [State.clearNetworkReady, hck]
      exact ofErr_ne_ok (List.mem_append_right _ List.mem_cons_self) (by simp)
  · rw [heq]
    refine .inr ⟨fun h => hnot ⟨h.removeContainer, hmissing.mpr h.missing⟩, ?_⟩
    exact ofErr_ne_ok (List.mem_append_left _ (List.mem_append_right _ List.mem_cons_self)) (by simp)

theorem unopposed_of_ok (hids : ∀ c, s.containers c ≠ none → IsID c) (htruthful : Truthful env id s) (hhonest : env.Honest)
    (h : (removePodSandbox env id s).1 = .ok ()) : ∃ cs containers, Unopposed env id s cs ∧
      Looped env.container cs [] s.containers containers ∧ removePodSandbox env id s = (.ok (), s.removed id containers) := by
  cases hlist : env.listContainers (containersOf id) with
  | error err =>
    rw [containersOf] at hlist
    refine absurd h ?_
    simp only [removePodSandbox, removeListed, hlist]
    rcases removeSandboxContainer_cases hhonest.sandbox id [some err] s with ⟨-, -, heq⟩ | ⟨-, err', heq⟩
    · rw [heq]
      exact ofErr_ne_ok (List.mem_append_left _ List.mem_cons_self) (by simp)
    · rw [heq]
      exact ofErr_ne_ok (List.mem_append_left _ List.mem_cons_self) (by simp)
  | ok cs =>
    rcases removePodSandbox_cases hids (htruthful.ids cs hlist) hhonest hlist with ⟨hun, containers, hloop, heq⟩ | ⟨-, hfail⟩
    · exact ⟨cs, containers, hun, hloop, heq⟩
    · exact absurd h hfail

/-- The readiness is cleared only after Docker has removed the container of the sandbox, or does not have it. -/
theorem removePodSandbox_kept (hhonest : env.Honest) (h : (removePodSandbox env id s).2.containers id ≠ none) :
    (removePodSandbox env id s).2.networkReady id = s.networkReady id := by
  obtain ⟨errs, containers, hlisted, -⟩ := removeListed_cases env id s
  simp only [removePodSandbox, hlisted] at h ⊢
  rcases removeSandboxContainer_cases hhonest.sandbox id errs { s with containers } with ⟨-, -, heq⟩ | ⟨-, err, heq⟩
  · rw [heq] at h
    exact absurd (Function.update_self ..) h
  · rw [heq]

theorem removed_listed {cs : List ListedContainer} {containers : Containers} (hhidden : ¬ Hidden env id s)
    (hun : Unopposed env id s cs) (hloop : Looped env.container cs [] s.containers containers) :
    ∀ c ∈ cs, (s.removed id containers).containers c.id = none := by
  intro c hc
  by_cases hid : c.id = id
  · rw [hid]
    exact Function.update_self ..
  · rw [removed_containers_of_ne hid]
    rcases hun.passes c hc with ⟨-, hnone⟩ | hremoves | hmasked
    · rw [hloop.kept c.id fun _ hremoves => by simp [Removes, hnone] at hremoves, hnone]
    · exact hloop.gone c hc hremoves
    · exact absurd ⟨cs, hun, c, hc, hid, hmasked⟩ hhidden

theorem removed_fades {cs : List ListedContainer} {containers : Containers}
    (hloop : Looped env.container cs [] s.containers containers) (d : Text) :
    (s.removed id containers).containers d = s.containers d ∨ (s.removed id containers).containers d = none := by
  by_cases hid : d = id
  · rw [hid]
    exact .inr (Function.update_self ..)
  · rw [removed_containers_of_ne hid]
    by_cases hremoved : ∃ c ∈ cs, c.id = d ∧ Removes (env.container d) d s.containers
    · obtain ⟨c, hc, rfl, hremoves⟩ := hremoved
      exact .inr (hloop.gone c hc hremoves)
    · exact .inl (hloop.kept d fun ⟨c, hc, heq⟩ hremoves => hremoved ⟨c, hc, heq, hremoves⟩)

theorem removed_again {env' : RemoveEnv} {cs : List ListedContainer} {containers : Containers}
    (hids : ∀ c, s.containers c ≠ none → IsID c) (htruthful : Truthful env id s) (hun : Unopposed env id s cs)
    (hloop : Looped env.container cs [] s.containers containers)
    (hgone : ∀ c ∈ cs, (s.removed id containers).containers c.id = none) (hfaultless : env'.Faultless id)
    (htruthful' : Truthful env' id (s.removed id containers)) :
    removePodSandbox env' id (s.removed id containers) = (.ok (), s.removed id containers) := by
  obtain ⟨cs', hlist'⟩ := hfaultless.list
  have hids' : ∀ c, (s.removed id containers).containers c ≠ none → IsID c := by
    intro c hc
    rcases removed_fades hloop c with heq | hnone
    · exact hids c (heq ▸ hc)
    · exact absurd hnone hc
  -- What is listed now and still there had the label before, so the first call has removed it.
  have hmissing : ∀ c ∈ cs', Missing (env'.container c.id) c.id (s.removed id containers).containers := by
    refine fun c hc => ⟨(hfaultless.container c.id).1, ?_⟩
    cases hcontainer : (s.removed id containers).containers c.id with
    | none => rfl
    | some container =>
      have hlabel := htruthful'.sound cs' hlist' c hc container hcontainer
      rcases removed_fades hloop c.id with heq | hnone
      · obtain ⟨l, hl, hlc⟩ := htruthful.complete cs hun.list c.id container (heq ▸ hcontainer) hlabel
        rw [← hcontainer, ← hlc]
        exact hgone l hl
      · rw [hcontainer] at hnone
        cases hnone
  have hun' : Unopposed env' id (s.removed id containers) cs' := by
    refine ⟨hlist', fun c hc => .inl (hmissing c hc), hfaultless.sandbox, fun _ => ?_, hfaultless.checkpoint, hun.validKey⟩
    by_cases hcontainer : s.containers id = none
    · exact hun.missing hcontainer
    · exact notFound_noSuchContainer (hids id hcontainer)
  rcases removePodSandbox_cases hids' (htruthful'.ids cs' hlist') hfaultless.honest hlist' with
    ⟨-, containers', hloop', heq⟩ | ⟨hnot, -⟩
  · have hsame : containers' = (s.removed id containers).containers := funext fun d => by
      refine hloop'.kept d fun ⟨c, hc, hcd⟩ hremoves => ?_
      obtain ⟨-, -, container, hsome, -⟩ := hremoves
      rw [← hcd, (hmissing c hc).2] at hsome
      cases hsome
    rw [heq, hsame]
    simp only [State.removed, Function.update_idem]
  · exact absurd hun' hnot

/-- RemovePodSandbox keeps its promises unless a failed clean-up of a container looks like a missing container. -/
theorem removalContract_iff (hids : ∀ c, s.containers c ≠ none → IsID c) (htruthful : Truthful env id s)
    (hhonest : env.Honest) : RemovalContract env id s ↔ ¬ Hidden env id s := by
  constructor
  · rintro hcontract ⟨cs, hun, c, hc, hne, hmasked⟩
    rcases removePodSandbox_cases hids (htruthful.ids cs hun.list) hhonest hun.list with ⟨-, containers, hloop, heq⟩ | ⟨hnot, -⟩
    · obtain ⟨cs', hlist', hgone⟩ := hcontract.listed (by rw [heq])
      cases hun.list.symm.trans hlist'
      have hleft := hgone c hc
      obtain ⟨-, container, err, hcontainer, hfailure, -⟩ := hmasked
      rw [heq, removed_containers_of_ne hne, hloop.kept c.id ?_, hcontainer] at hleft
      · cases hleft
      · rintro - ⟨-, -, container', hcontainer', hclean⟩
        cases hcontainer.symm.trans hcontainer'
        rw [hfailure] at hclean
        cases hclean
    · exact hnot hun
  · intro hhidden
    have hok : (removePodSandbox env id s).1 = .ok () → ∃ cs containers, Unopposed env id s cs ∧
        Looped env.container cs [] s.containers containers ∧ removePodSandbox env id s = (.ok (), s.removed id containers) :=
      unopposed_of_ok hids htruthful hhonest
    constructor
    · intro h
      obtain ⟨cs, containers, hun, hloop, heq⟩ := hok h
      rw [heq]
      exact ⟨cs, hun.list, removed_listed hhidden hun hloop⟩
    · intro h
      obtain ⟨cs, containers, hun, hloop, heq⟩ := hok h
      rw [heq]
      exact Function.update_self ..
    · intro h
      obtain ⟨cs, containers, hun, hloop, heq⟩ := hok h
      rw [heq]
      exact Function.update_self ..
    · intro h
      obtain ⟨cs, containers, hun, hloop, heq⟩ := hok h
      rw [heq]
      exact Function.update_self ..
    · exact removePodSandbox_kept hhonest
    · intro h env' hfaultless htruthful'
      obtain ⟨cs, containers, hun, hloop, heq⟩ := hok h
      rw [heq] at htruthful' ⊢
      exact removed_again hids htruthful hun hloop (removed_listed hhidden hun hloop) hfaultless htruthful'

end

def podHost (logPath : Text) : State :=
  State.initial (fun _ => none) fun c =>
    if c = "c1" then some ⟨"/k8s_POD_web_default_u1_0", none, [], [(containerTypeLabelKey, containerTypeLabelSandbox)]⟩
    else if c = "c2" then
      some ⟨"/k8s_web_web_default_u1_0", none, [],
        [(sandboxIDLabelKey, "c1"), (containerLogPathLabelKey, logPath)]⟩
    else none

/-- Docker lists the container, and nothing fails but perhaps the removal of the symlink. -/
def removeWith (remove : Text → Option FsError) : RemoveEnv where
  listContainers _ := .ok [⟨"c2", ["/k8s_web_web_default_u1_0"], [], [], [], "Up 2 minutes", 0⟩]
  container _ := ⟨none, remove, [], none⟩
  removeContainer := none
  removeCheckpoint := none

theorem podHost_containers {logPath c : Text} {container : Container} (h : (podHost logPath).containers c = some container) :
    (c = "c1" ∧ container.labels.lookup sandboxIDLabelKey = none) ∨ c = "c2" := by
  simp only [podHost, State.initial] at h
  split at h
  · rename_i hc
    cases h
    exact .inl ⟨hc, rfl⟩
  · split at h
    · rename_i hc
      exact .inr hc
    · cases h

theorem podHost_isID {logPath c : Text} (h : (podHost logPath).containers c ≠ none) : IsID c := by
  obtain ⟨container, hcontainer⟩ := Option.ne_none_iff_exists'.mp h
  rcases podHost_containers hcontainer with ⟨rfl, -⟩ | rfl
  · exact ⟨by decide, by decide⟩
  · exact ⟨by decide, by decide⟩

theorem removeWith_truthful (remove : Text → Option FsError) (logPath : Text) :
    Truthful (removeWith remove) "c1" (podHost logPath) where
  ids cs hcs c hc := by
    cases hcs
    rw [List.mem_singleton.mp hc]
    exact ⟨by decide, by decide⟩
  sound cs hcs c hc container hcontainer := by
    cases hcs
    rw [List.mem_singleton.mp hc] at hcontainer
    cases hcontainer
    rfl
  complete cs hcs c container hcontainer hlabel := by
    cases hcs
    rcases podHost_containers hcontainer with ⟨-, hnone⟩ | rfl
    · rw [hnone] at hlabel
      cases hlabel
    · exact ⟨_, List.mem_singleton_self _, rfl⟩

theorem removalContract_iff_quiet : RemovalContract (removeWith fun _ => none) "c1" (podHost "/logs/web.log") := by
  have hfaultless : (removeWith fun _ => none).Faultless "c1" := ⟨⟨_, rfl⟩, fun _ => ⟨rfl, rfl⟩, rfl, rfl⟩
  refine (removalContract_iff (fun _ => podHost_isID) (removeWith_truthful _ _) hfaultless.honest).mpr ?_
  rintro ⟨cs, hun, c, hc, -, -, container, err, hcontainer, hfailure, -⟩
  cases hun.list
  rw [List.mem_singleton.mp hc] at hcontainer
  cases hcontainer
  cases hfailure

/-- The removal of a log symlink fails, at a path that reads like Docker's message. -/
def maskedRemoval : RemoveEnv :=
  removeWith fun path => some (.other (.text ("remove " ++ path ++ ": permission denied")))

/-- Success is reported, and the container is still there. -/
theorem removePodSandbox_leaves_container :
    (removePodSandbox maskedRemoval "c1" (podHost "/logs/No such container: abc")).1 = .ok () ∧
      (removePodSandbox maskedRemoval "c1" (podHost "/logs/No such container: abc")).2.containers
        "c2" ≠ none := by
  decide +kernel

end CriDockerd.Core
