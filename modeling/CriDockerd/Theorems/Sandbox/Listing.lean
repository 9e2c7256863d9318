import CriDockerd.Core.Containers
import CriDockerd.Theorems.Sandbox.NetworkReady

/-! What ListPodSandbox and ListContainers tell of the containers that Docker has. A list call that fails with the
    text for a missing container counts as one that lists nothing: the sandboxes are then only found by their
    checkpoints, as ones that are not ready, and the containers are not found at all. A checkpoint whose checksum does
    not match is left out of the response, but stays on disk. -/

namespace CriDockerd.Core
open Text Store

/-! ### Docker's containers -/

/-- The states of a container, by Docker's names for them. -/
inductive DockerState where
  | created
  | running
  | paused
  | restarting
  | removing
  | exited
  | dead
  deriving DecidableEq, Repr

def DockerState.name : DockerState → Text
  | .created => "created"
  | .running => "running"
  | .paused => "paused"
  | .restarting => "restarting"
  | .removing => "removing"
  | .exited => "exited"
  | .dead => "dead"

def DockerState.isUp (state : DockerState) : Bool := state = .running || state = .paused

/-- A container of Docker; the text of its status tells whether it is up. -/
structure DockerContainer extends ListedContainer where
  state : DockerState
  up : hasPrefix status "Up" = state.isUp

def DockerContainer.isSandbox (c : DockerContainer) : Bool :=
  c.labels.lookup containerTypeLabelKey = some containerTypeLabelSandbox

/-- What Docker has at the time of a list call, and which IDs it takes to be meant by the ID of a filter. -/
structure DockerHost where
  containers : List DockerContainer
  matchesID : Text → Text → Bool
  nodup : (containers.map (·.id)).Nodup

namespace DockerHost
variable (host : DockerHost)

/-- The containers that a list call asks for; those that are down only if it asks for all. -/
def selects (opts : ListOptions) (c : DockerContainer) : Bool :=
  (opts.all || c.state.isUp || c.state = .restarting) && opts.labels.all (fun kv => c.labels.lookup kv.1 = some kv.2) &&
    opts.id.all (host.matchesID · c.id) && opts.status.all (· = c.state.name)

/-- A list call that succeeds lists the containers that it asks for, in some order. -/
def Answers (list : ListOptions → Except GoError (List ListedContainer)) : Prop :=
  ∀ opts cs, list opts = .ok cs → cs.Perm ((host.containers.filter (host.selects opts)).map (·.toListedContainer))

/-- A sandbox that a filter asks for. -/
structure SelectsSandbox (filter : Option PodSandboxFilter) (c : DockerContainer) : Prop where
  sandbox : c.isSandbox = true
  id : ∀ f ∈ filter, f.id ≠ [] → host.matchesID f.id c.id = true
  state : ∀ f ∈ filter, ∀ state, f.state = some state → toRuntimeAPISandboxState c.status = state
  labels : ∀ f ∈ filter, ∀ kv ∈ f.labelSelector, c.labels.lookup kv.1 = some kv.2
  name : ∃ name rest metadata, c.names = name :: rest ∧ parseSandboxName name = .ok metadata

/-- A container that a filter asks for. -/
structure SelectsContainer (filter : Option ContainerFilter) (c : DockerContainer) : Prop where
  container : c.labels.lookup containerTypeLabelKey = some containerTypeLabelContainer
  id : ∀ f ∈ filter, f.id ≠ [] → host.matchesID f.id c.id = true
  state : ∀ f ∈ filter, ∀ state, f.state = some state → toRuntimeAPIContainerState c.status = state
  podSandboxId : ∀ f ∈ filter, f.podSandboxId ≠ [] → c.labels.lookup sandboxIDLabelKey = some f.podSandboxId
  labels : ∀ f ∈ filter, ∀ kv ∈ f.labelSelector, c.labels.lookup kv.1 = some kv.2
  name : ∃ name rest metadata, c.names = name :: rest ∧ parseContainerName name = .ok metadata

/-! ### What a response should tell -/

/-- A response has one entry for each sandbox that the filter asks for, and none of a sandbox that is up as one
    that is not ready. -/
structure ReportsSandboxes (filter : Option PodSandboxFilter) (items : List PodSandbox) : Prop where
  entries : ∀ c ∈ host.containers, host.SelectsSandbox filter c → (items.map (·.id)).count c.id = 1
  ready : ∀ c ∈ host.containers, c.isSandbox = true → c.state.isUp = true →
    ∀ item ∈ items, item.id = c.id → item.state = .ready

/-- A response has one entry for each container that the filter asks for. -/
def ReportsContainers (filter : Option ContainerFilter) (items : List RuntimeContainer) : Prop :=
  ∀ c ∈ host.containers, host.SelectsContainer filter c → (items.map (·.id)).count c.id = 1

end DockerHost

/-! ### When a response does -/

section
variable (ds : DockerService)

def readable (faults : Text → CheckpointFaults) (s : State) (id : Text) : Bool :=
  match getCheckpoint (podSandboxCheckpoint ds.spew) (faults id).read id emptyCheckpoint s.checkpoints with
  | .ok _ => true
  | _ => false

/-- The sandboxes whose checkpoints ListPodSandbox can read; with a filter it does not look for them. -/
def checkpointedIDs (env : ListEnv) (filter : Option PodSandboxFilter) (s : State) : List Text :=
  match filter, env.listCheckpoints with
  | none, .ok ids => ids.filter (readable ds env.checkpoint s)
  | _, _ => []

/-- Docker lists its containers, and no sandbox that is up and has an unparsable name has a checkpoint that can be
    read. Or it does not list them, and every sandbox that the filter asks for is down and has one checkpoint that
    can be read, which no sandbox that is up has. -/
def KeepsSandboxes (host : DockerHost) (env : ListEnv) (filter : Option PodSandboxFilter) (s : State) : Prop :=
  match env.listContainers (listOptions filter) with
  | .ok _ => ∀ c ∈ host.containers, c.isSandbox = true → c.state.isUp = true →
      (∀ name rest, c.names = name :: rest → ∃ err, parseSandboxName name = .error err) →
      c.id ∉ checkpointedIDs ds env filter s
  | .error _ =>
    (∀ c ∈ host.containers, host.SelectsSandbox filter c → (checkpointedIDs ds env filter s).count c.id = 1) ∧
      ∀ c ∈ host.containers, c.isSandbox = true → c.state.isUp = true → c.id ∉ checkpointedIDs ds env filter s

/-- Docker lists its containers, and those that the filter asks for are in the state that Docker is asked for. Or it
    does not list them, and the filter asks for none of them. -/
def KeepsContainers (host : DockerHost) (list : ListOptions → Except GoError (List ListedContainer))
    (filter : Option ContainerFilter) : Prop :=
  match list (containerListOptions filter) with
  | .ok _ => ∀ c ∈ host.containers, host.SelectsContainer filter c →
      ∀ f ∈ filter, ∀ state, f.state = some state → c.state.name = toDockerContainerStatus state
  | .error _ => ∀ c ∈ host.containers, ¬host.SelectsContainer filter c

end

/-! ### Listed containers -/

section
variable {host : DockerHost} {list : ListOptions → Except GoError (List ListedContainer)} {opts : ListOptions}
  {cs : List ListedContainer} {c : DockerContainer}

theorem DockerHost.eq_of_id (host : DockerHost) {c d : DockerContainer} (hc : c ∈ host.containers) (hd : d ∈ host.containers)
    (h : c.id = d.id) : c = d :=
  List.inj_on_of_nodup_map host.nodup hc hd h

theorem DockerHost.Answers.mem_iff (h : host.Answers list) (hlist : list opts = .ok cs) {l : ListedContainer} :
    l ∈ cs ↔ ∃ c ∈ host.containers, host.selects opts c = true ∧ c.toListedContainer = l := by
  rw [(h opts cs hlist).mem_iff]
  simp only [List.mem_map, List.mem_filter, and_assoc]

theorem DockerHost.Answers.nodup (h : host.Answers list) (hlist : list opts = .ok cs) : (cs.map (·.id)).Nodup := by
  have hsub : ((host.containers.filter (host.selects opts)).map (·.id)).Sublist (host.containers.map (·.id)) :=
    List.filter_sublist.map _
  have hperm := (h opts cs hlist).map (·.id)
  rw [List.map_map] at hperm
  exact hperm.nodup_iff.mpr (host.nodup.sublist hsub)

theorem filterMap_ids_sublist {α : Type} {convert : ListedContainer → Option α} {getID : α → Text}
    (hid : ∀ l a, convert l = some a → getID a = l.id) (cs : List ListedContainer) :
    ((cs.filterMap convert).map getID).Sublist (cs.map (·.id)) := by
  induction cs with
  | nil => exact List.Sublist.slnil
  | cons l rest ih =>
    cases hl : convert l with
    | none =>
      rw [List.filterMap_cons_none hl, List.map_cons]
      exact ih.cons _
    | some a =>
      rw [List.filterMap_cons_some hl, List.map_cons, List.map_cons, hid l a hl]
      exact ih.cons_cons _

end

/-! ### Sandboxes -/

section
variable {ds : DockerService} {s t : State} {host : DockerHost} {env : ListEnv} {filter : Option PodSandboxFilter}
  {cs : List ListedContainer} {items : List PodSandbox} {c : DockerContainer}

theorem containerToRuntimeAPISandbox_eq_some {l : ListedContainer} {sandbox : PodSandbox}
    (h : containerToRuntimeAPISandbox l = some sandbox) :
    sandbox.id = l.id ∧ sandbox.state = toRuntimeAPISandboxState l.status ∧
      ∃ name rest metadata, l.names = name :: rest ∧ parseSandboxName name = .ok metadata := by
  unfold containerToRuntimeAPISandbox at h
  split at h
  · cases h
  · rename_i name rest hnames
    split at h
    · cases h
    · rename_i metadata hparse
      cases h
      exact ⟨rfl, rfl, name, rest, metadata, hnames, hparse⟩

theorem containerToRuntimeAPISandbox_of_name {l : ListedContainer} {name : Text} {rest : List Text}
    {metadata : PodSandboxMetadata} (hnames : l.names = name :: rest) (hparse : parseSandboxName name = .ok metadata) :
    ∃ sandbox, containerToRuntimeAPISandbox l = some sandbox := by
  simp only [containerToRuntimeAPISandbox, hnames, hparse]
  exact ⟨_, rfl⟩

/-- The sandboxes of a response that come from listed containers. -/
def shownSandboxes (filter : Option PodSandboxFilter) (cs : List ListedContainer) : List PodSandbox :=
  (cs.filterMap containerToRuntimeAPISandbox).filter fun sandbox =>
    !(decide (filter.bind (·.state) = some .notReady) && decide (sandbox.state = .ready))

theorem mem_shownSandboxes {sandbox : PodSandbox} :
    sandbox ∈ shownSandboxes filter cs ↔ (∃ l ∈ cs, containerToRuntimeAPISandbox l = some sandbox) ∧
      ¬(filter.bind (·.state) = some .notReady ∧ sandbox.state = .ready) := by
  simp only [shownSandboxes, List.mem_filter, List.mem_filterMap, Bool.not_eq_true', Bool.and_eq_false_iff,
    decide_eq_false_iff_not, not_and_or]

theorem shownSandboxes_sublist : ((shownSandboxes filter cs).map (·.id)).Sublist (cs.map (·.id)) :=
  (List.filter_sublist.map _).trans (filterMap_ids_sublist (fun _ _ h => (containerToRuntimeAPISandbox_eq_some h).1) cs)

theorem checkpointOnly_some {faults : Text → CheckpointFaults} {ids : List Text} {result : List PodSandbox}
    (h : checkpointOnly ds faults ids result s = (some items, t)) :
    ∃ extra, items = result ++ extra ∧ extra.map (·.id) = ids.filter (readable ds faults s) ∧
      ∀ item ∈ extra, item.state = .notReady := by
  induction ids generalizing result with
  | nil =>
    cases h
    exact ⟨[], (List.append_nil _).symm, rfl, fun _ hitem => absurd hitem List.not_mem_nil⟩
  | cons id rest ih =>
    rw [checkpointOnly] at h
    split at h
    · cases h
    · rename_i err hget
      rw [if_neg fun heq => getCheckpoint_ne_corrupt ds.spew _ _ _ _ (heq ▸ hget)] at h
      obtain ⟨extra, hitems, hids, hstate⟩ := ih h
      refine ⟨extra, hitems, ?_, hstate⟩
      rw [hids, List.filter_cons_of_neg]
      simp only [readable, hget, Bool.false_eq_true, not_false_eq_true]
    · rename_i checkpoint hget
      split at h
      · cases h
      · rename_i sandbox hsandbox
        obtain ⟨hid, hnotReady⟩ : sandbox.id = id ∧ sandbox.state = .notReady := by
          obtain ⟨data, -, rfl⟩ := Option.map_eq_some_iff.mp hsandbox
          exact ⟨rfl, rfl⟩
        obtain ⟨extra, hitems, hids, hstate⟩ := ih h
        refine ⟨sandbox :: extra, ?_, ?_, ?_⟩
        · rw [hitems, List.append_assoc, List.singleton_append]
        · rw [List.map_cons, hids, hid, List.filter_cons_of_pos]
          simp only [readable, hget]
        · rintro item (_ | ⟨_, hitem⟩)
          · exact hnotReady
          · exact hstate item hitem

/-- What a response is made of: the listed containers, or none of them after an error, and the checkpoints. -/
theorem listPodSandbox_ok (h : (listPodSandbox ds env filter s).1 = .ok items) :
    ∃ cs extra, (env.listContainers (listOptions filter) = .ok cs ∨
        cs = [] ∧ ∃ err, env.listContainers (listOptions filter) = .error err) ∧
      items = shownSandboxes filter cs ++ extra ∧
      extra.map (·.id) = (checkpointedIDs ds env filter s).filter (· ∉ (shownSandboxes filter cs).map (·.id)) ∧
      ∀ item ∈ extra, item.state = .notReady := by
  dsimp only [listPodSandbox] at h
  have hids : ∀ shown : List Text,
      ((match filter, env.listCheckpoints with
        | none, .ok ids => ids
        | _, _ => []).filter (· ∉ shown)).filter (readable ds env.checkpoint s) =
      (checkpointedIDs ds env filter s).filter (· ∉ shown) := by
    intro shown
    unfold checkpointedIDs
    split <;> simp [List.filter_filter, Bool.and_comm]
  split at h
  · cases h
  · rename_i cs hcs
    have hlisted : env.listContainers (listOptions filter) = .ok cs ∨
        cs = [] ∧ ∃ err, env.listContainers (listOptions filter) = .error err := by
      split at hcs
      · rename_i err herr
        split at hcs
        · cases hcs
          exact Or.inr ⟨rfl, err, herr⟩
        · cases hcs
      · rename_i cs' hok
        cases hcs
        exact Or.inl hok
    split at h
    · cases h
    · rename_i result u hcheckpoints
      cases h
      obtain ⟨extra, hitems, hextra, hstate⟩ := checkpointOnly_some hcheckpoints
      exact ⟨cs, extra, hlisted, hitems, hextra.trans (hids _), hstate⟩

theorem toRuntimeAPISandboxState_eq_ready (c : DockerContainer) :
    toRuntimeAPISandboxState c.status = .ready ↔ c.state.isUp = true := by
  rw [toRuntimeAPISandboxState, c.up]
  split <;> simp [*]

theorem DockerHost.SelectsSandbox.selects (h : host.SelectsSandbox filter c) : host.selects (listOptions filter) c = true := by
  have hsandbox := decide_eq_true_iff.mp h.sandbox
  cases filter with
  | none => simp [DockerHost.selects, listOptions, hsandbox]
  | some f =>
    have hall : f.state ≠ some .ready ∨ c.state.isUp = true := by
      by_cases hready : f.state = some .ready
      · exact Or.inr ((toRuntimeAPISandboxState_eq_ready c).mp (h.state f rfl .ready hready))
      · exact Or.inl hready
    have hid : ∀ id ∈ (listOptions (some f)).id, host.matchesID id c.id = true := by
      intro id hid
      dsimp only [listOptions] at hid
      split at hid
      · cases hid
      · rename_i hne
        cases hid
        exact h.id f rfl hne
    have hlabels := h.labels f rfl
    simp only [DockerHost.selects, Bool.and_eq_true, Option.all_eq_true]
    refine ⟨⟨⟨?_, ?_⟩, hid⟩, ?_⟩
    · rcases hall with hall | hall
      · simp [listOptions, hall]
      · simp [hall]
    · simp only [listOptions, List.all_cons, hsandbox, decide_true, Bool.true_and, List.all_eq_true, decide_eq_true_eq]
      exact hlabels
    · rintro status ⟨⟩

section
variable (hanswers : host.Answers env.listContainers) (hlist : env.listContainers (listOptions filter) = .ok cs)
include hanswers hlist

theorem shownSandboxes_nodup : ((shownSandboxes filter cs).map (·.id)).Nodup :=
  (hanswers.nodup hlist).sublist shownSandboxes_sublist

theorem shownSandboxes_of_selects (hc : c ∈ host.containers) (h : host.SelectsSandbox filter c) :
    c.id ∈ (shownSandboxes filter cs).map (·.id) := by
  obtain ⟨name, rest, metadata, hnames, hparse⟩ := h.name
  obtain ⟨sandbox, hsandbox⟩ := containerToRuntimeAPISandbox_of_name hnames hparse
  obtain ⟨hid, hstate, -⟩ := containerToRuntimeAPISandbox_eq_some hsandbox
  have hlisted : c.toListedContainer ∈ cs := (hanswers.mem_iff hlist).mpr ⟨c, hc, h.selects, rfl⟩
  refine List.mem_map.mpr ⟨sandbox, mem_shownSandboxes.mpr ⟨⟨_, hlisted, hsandbox⟩, ?_⟩, hid⟩
  rintro ⟨hfilter, hready⟩
  obtain ⟨f, hf, hnotReady⟩ := Option.bind_eq_some_iff.mp hfilter
  rw [hstate, h.state f hf .notReady hnotReady] at hready
  cases hready

theorem shownSandboxes_container (hc : c ∈ host.containers) {item : PodSandbox} (hitem : item ∈ shownSandboxes filter cs)
    (hid : item.id = c.id) : containerToRuntimeAPISandbox c.toListedContainer = some item := by
  obtain ⟨⟨l, hl, hconvert⟩, -⟩ := mem_shownSandboxes.mp hitem
  obtain ⟨d, hd, -, rfl⟩ := (hanswers.mem_iff hlist).mp hl
  have hdc := host.eq_of_id hd hc ((containerToRuntimeAPISandbox_eq_some hconvert).1.symm.trans hid)
  exact hdc ▸ hconvert

end

theorem count_ids {shown extra : List PodSandbox} {ids : List Text}
    (hextra : extra.map (·.id) = ids.filter (· ∉ shown.map (·.id))) (id : Text) :
    ((shown ++ extra).map (·.id)).count id =
      if id ∈ shown.map (·.id) then (shown.map (·.id)).count id else ids.count id := by
  rw [List.map_append, List.count_append, hextra]
  split
  · rename_i hmem
    have hnone : (ids.filter (· ∉ shown.map (·.id))).count id = 0 := by
      rw [List.count_eq_zero, List.mem_filter, decide_eq_true_eq]
      exact fun h => h.2 hmem
    rw [hnone, Nat.add_zero]
  · rename_i hmem
    have hsame : (ids.filter (· ∉ shown.map (·.id))).count id = ids.count id := List.count_filter (by simpa using hmem)
    rw [List.count_eq_zero.mpr hmem, hsame, Nat.zero_add]

theorem listPodSandbox_reports_iff (hanswers : host.Answers env.listContainers)
    (h : (listPodSandbox ds env filter s).1 = .ok items) :
    host.ReportsSandboxes filter items ↔ KeepsSandboxes ds host env filter s := by
  obtain ⟨cs, extra, hlisted, rfl, hextra, hnotReady⟩ := listPodSandbox_ok h
  have hmem : ∀ id, id ∈ extra.map (·.id) ↔
      id ∈ checkpointedIDs ds env filter s ∧ id ∉ (shownSandboxes filter cs).map (·.id) := by
    intro id
    rw [hextra, List.mem_filter, decide_eq_true_eq]
  rcases hlisted with hlist | ⟨rfl, err, hlist⟩
  · rw [KeepsSandboxes, hlist]
    constructor
    · intro hreports c hc hsandbox hup hname hcheckpointed
      -- No listed container has given the entry, so the checkpoint has.
      have hnotShown : c.id ∉ (shownSandboxes filter cs).map (·.id) := by
        intro hshown
        obtain ⟨item, hitem, hid⟩ := List.mem_map.mp hshown
        obtain ⟨-, -, name, rest, metadata, hnames, hparse⟩ :=
          containerToRuntimeAPISandbox_eq_some (shownSandboxes_container hanswers hlist hc hitem hid)
        obtain ⟨err, herr⟩ := hname name rest hnames
        rw [hparse] at herr
        cases herr
      obtain ⟨item, hitem, hid⟩ := List.mem_map.mp ((hmem c.id).mpr ⟨hcheckpointed, hnotShown⟩)
      have hready := hreports.ready c hc hsandbox hup item (List.mem_append_right _ hitem) hid
      rw [hnotReady item hitem] at hready
      cases hready
    · intro hkeeps
      refine ⟨fun c hc hselects => ?_, fun c hc hsandbox hup item hitem hid => ?_⟩
      · have hshown := shownSandboxes_of_selects hanswers hlist hc hselects
        rw [count_ids hextra, if_pos hshown]
        exact List.count_eq_one_of_mem (shownSandboxes_nodup hanswers hlist) hshown
      rcases List.mem_append.mp hitem with hitem | hitem
      · obtain ⟨-, hstate, -⟩ := containerToRuntimeAPISandbox_eq_some (shownSandboxes_container hanswers hlist hc hitem hid)
        rw [hstate]
        exact (toRuntimeAPISandboxState_eq_ready c).mpr hup
      · obtain ⟨hcheckpointed, hnotShown⟩ := (hmem c.id).mp (List.mem_map.mpr ⟨item, hitem, hid⟩)
        have hfilter : filter = none := by
          cases filter with
          | none => rfl
          | some f => exact absurd hcheckpointed List.not_mem_nil
        subst hfilter
        refine absurd hcheckpointed (hkeeps c hc hsandbox hup fun name rest hnames => ?_)
        cases hparse : parseSandboxName name with
        | error err => exact ⟨err, rfl⟩
        | ok metadata =>
          -- Without a filter, a sandbox with this name is listed.
          have hselects : host.SelectsSandbox none c :=
            { sandbox := hsandbox, id := by rintro f ⟨⟩, state := by rintro f ⟨⟩, labels := by rintro f ⟨⟩
              name := ⟨name, rest, metadata, hnames, hparse⟩ }
          exact absurd (shownSandboxes_of_selects hanswers hlist hc hselects) hnotShown
  · rw [KeepsSandboxes, hlist]
    have hids : (shownSandboxes filter [] ++ extra).map (·.id) = checkpointedIDs ds env filter s :=
      hextra.trans (List.filter_eq_self.mpr fun id _ => decide_eq_true List.not_mem_nil)
    constructor
    · intro hreports
      refine ⟨fun c hc hselects => hids ▸ hreports.entries c hc hselects, fun c hc hsandbox hup hcheckpointed => ?_⟩
      rw [← hids] at hcheckpointed
      obtain ⟨item, hitem, hid⟩ := List.mem_map.mp hcheckpointed
      have hready := hreports.ready c hc hsandbox hup item hitem hid
      rw [hnotReady item hitem] at hready
      cases hready
    · rintro ⟨hentries, hready⟩
      refine ⟨fun c hc hselects => hids.symm ▸ hentries c hc hselects, fun c hc hsandbox hup item hitem hid => ?_⟩
      refine absurd ?_ (hready c hc hsandbox hup)
      rw [← hids]
      exact List.mem_map.mpr ⟨item, hitem, hid⟩

end

/-! ### Containers -/

section
variable {host : DockerHost} {list : ListOptions → Except GoError (List ListedContainer)} {filter : Option ContainerFilter}
  {cs : List ListedContainer} {items : List RuntimeContainer} {c : DockerContainer}

theorem toRuntimeAPIContainer_eq_some {l : ListedContainer} {container : RuntimeContainer}
    (h : toRuntimeAPIContainer l = some container) :
    container.id = l.id ∧ ∃ name rest metadata, l.names = name :: rest ∧ parseContainerName name = .ok metadata := by
  unfold toRuntimeAPIContainer at h
  split at h
  · cases h
  · rename_i name rest hnames
    split at h
    · cases h
    · rename_i metadata hparse
      cases h
      exact ⟨rfl, name, rest, metadata, hnames, hparse⟩

theorem toRuntimeAPIContainer_of_name {l : ListedContainer} {name : Text} {rest : List Text} {metadata : ContainerMetadata}
    (hnames : l.names = name :: rest) (hparse : parseContainerName name = .ok metadata) :
    ∃ container, toRuntimeAPIContainer l = some container := by
  simp only [toRuntimeAPIContainer, hnames, hparse]
  exact ⟨_, rfl⟩

theorem listContainers_ok (h : listContainers list filter = .ok items) :
    (∃ cs, list (containerListOptions filter) = .ok cs ∧ items = cs.filterMap toRuntimeAPIContainer) ∨
      (∃ err, list (containerListOptions filter) = .error err) ∧ items = [] := by
  unfold listContainers at h
  split at h
  · rename_i err herr
    split at h
    · cases h
      exact Or.inr ⟨⟨err, herr⟩, rfl⟩
    · cases h
  · rename_i cs hcs
    cases h
    exact Or.inl ⟨cs, hcs, rfl⟩

theorem DockerHost.SelectsContainer.selects_iff (h : host.SelectsContainer filter c) :
    host.selects (containerListOptions filter) c = true ↔
      ∀ f ∈ filter, ∀ state, f.state = some state → c.state.name = toDockerContainerStatus state := by
  cases filter with
  | none => simp [DockerHost.selects, containerListOptions, h.container]
  | some f =>
    have hid : ∀ id ∈ (containerListOptions (some f)).id, host.matchesID id c.id = true := by
      intro id hid
      dsimp only [containerListOptions] at hid
      split at hid
      · cases hid
      · rename_i hne
        cases hid
        exact h.id f rfl hne
    have hlabels : ∀ kv ∈ (containerListOptions (some f)).labels, c.labels.lookup kv.1 = some kv.2 := by
      intro kv hkv
      dsimp only [containerListOptions] at hkv
      rcases List.mem_cons.mp hkv with rfl | hkv
      · exact h.container
      · rcases List.mem_append.mp hkv with hkv | hkv
        · split at hkv
          · cases hkv
          · rename_i hne
            obtain rfl := List.mem_singleton.mp hkv
            exact h.podSandboxId f rfl hne
        · exact h.labels f rfl kv hkv
    have hall : (containerListOptions (some f)).all = true := rfl
    have hstatus : (containerListOptions (some f)).status = f.state.map toDockerContainerStatus := rfl
    simp only [DockerHost.selects, hall, Bool.true_or, Bool.true_and, Bool.and_eq_true, Option.all_eq_true, List.all_eq_true,
      decide_eq_true_eq]
    constructor
    · rintro ⟨-, hselected⟩ f' hf state hstate
      cases hf
      refine (hselected _ ?_).symm
      rw [hstatus, hstate]
      rfl
    · intro hstate
      refine ⟨⟨hlabels, hid⟩, fun status hstatus' => ?_⟩
      rw [hstatus] at hstatus'
      obtain ⟨state, hsome, rfl⟩ := Option.map_eq_some_iff.mp hstatus'
      exact (hstate f rfl state hsome).symm

section
variable (hanswers : host.Answers list) (hlist : list (containerListOptions filter) = .ok cs)
include hanswers hlist

theorem listed_container {id : Text} (h : id ∈ (cs.filterMap toRuntimeAPIContainer).map (·.id)) :
    ∃ c ∈ host.containers, c.id = id ∧ host.selects (containerListOptions filter) c = true ∧
      ∃ name rest metadata, c.names = name :: rest ∧ parseContainerName name = .ok metadata := by
  obtain ⟨item, hitem, rfl⟩ := List.mem_map.mp h
  obtain ⟨l, hl, hconvert⟩ := List.mem_filterMap.mp hitem
  obtain ⟨c, hc, hselected, rfl⟩ := (hanswers.mem_iff hlist).mp hl
  obtain ⟨hid, hname⟩ := toRuntimeAPIContainer_eq_some hconvert
  exact ⟨c, hc, hid.symm, hselected, hname⟩

theorem listed_iff_selects (hc : c ∈ host.containers) (h : host.SelectsContainer filter c) :
    c.id ∈ (cs.filterMap toRuntimeAPIContainer).map (·.id) ↔ host.selects (containerListOptions filter) c = true := by
  constructor
  · intro hlisted
    obtain ⟨d, hd, hid, hselected, -⟩ := listed_container hanswers hlist hlisted
    have hdc := host.eq_of_id hd hc hid
    exact hdc ▸ hselected
  · intro hselected
    obtain ⟨name, rest, metadata, hnames, hparse⟩ := h.name
    obtain ⟨container, hconvert⟩ := toRuntimeAPIContainer_of_name hnames hparse
    refine List.mem_map.mpr ⟨container, List.mem_filterMap.mpr ⟨_, ?_, hconvert⟩, (toRuntimeAPIContainer_eq_some hconvert).1⟩
    exact (hanswers.mem_iff hlist).mpr ⟨c, hc, hselected, rfl⟩

end

theorem listContainers_reports_iff (hanswers : host.Answers list) (h : listContainers list filter = .ok items) :
    host.ReportsContainers filter items ↔ KeepsContainers host list filter := by
  rcases listContainers_ok h with ⟨cs, hlist, rfl⟩ | ⟨⟨err, hlist⟩, rfl⟩
  · rw [KeepsContainers, hlist]
    have hnodup : ((cs.filterMap toRuntimeAPIContainer).map (·.id)).Nodup :=
      (hanswers.nodup hlist).sublist (filterMap_ids_sublist (fun _ _ h => (toRuntimeAPIContainer_eq_some h).1) cs)
    constructor
    · intro hreports c hc hselects
      refine hselects.selects_iff.mp ((listed_iff_selects hanswers hlist hc hselects).mp (List.one_le_count_iff.mp ?_))
      rw [hreports c hc hselects]
    · intro hkeeps c hc hselects
      refine List.count_eq_one_of_mem hnodup ((listed_iff_selects hanswers hlist hc hselects).mpr ?_)
      exact hselects.selects_iff.mpr (hkeeps c hc hselects)
  · rw [KeepsContainers, hlist]
    constructor
    · intro hreports c hc hselects
      have hone := hreports c hc hselects
      cases hone
    · intro hnone c hc hselects
      exact absurd hselects (hnone c hc)

end

/-! ### Both handlers -/

/-- Whatever Docker answers to a list call, a response tells of the sandboxes and of the containers that Docker has as
    it should exactly under these conditions. -/
theorem lists_report_iff_keep {host : DockerHost} {env : ListEnv} {list : ListOptions → Except GoError (List ListedContainer)}
    (hsandboxes : host.Answers env.listContainers) (hcontainers : host.Answers list) (ds : DockerService) (s : State) :
    (∀ filter items, (listPodSandbox ds env filter s).1 = .ok items →
      (host.ReportsSandboxes filter items ↔ KeepsSandboxes ds host env filter s)) ∧
    (∀ filter items, listContainers list filter = .ok items →
      (host.ReportsContainers filter items ↔ KeepsContainers host list filter)) :=
  ⟨fun _ _ => listPodSandbox_reports_iff hsandboxes, fun _ _ => listContainers_reports_iff hcontainers⟩

def runningPod : DockerHost where
  containers :=
    [{ id := "c1", names := ["/k8s_POD_p_ns_u_0"], image := "pause", imageID := "sha256:1",
       labels := [(containerTypeLabelKey, containerTypeLabelSandbox)], status := "Up 2 minutes", created := 0,
       state := .running, up := rfl },
     { id := "k1", names := ["/k8s_web_p_ns_u_0"], image := "web", imageID := "sha256:2",
       labels := [(containerTypeLabelKey, containerTypeLabelContainer), (sandboxIDLabelKey, "c1")],
       status := "Up 2 minutes", created := 0, state := .running, up := rfl }]
  matchesID pattern id := hasPrefix id pattern
  nodup := by decide

def DockerHost.list (host : DockerHost) (opts : ListOptions) : Except GoError (List ListedContainer) :=
  .ok ((host.containers.filter (host.selects opts)).map (·.toListedContainer))

theorem DockerHost.answers_list (host : DockerHost) : host.Answers host.list := by
  rintro opts cs ⟨⟩
  exact List.Perm.refl _

/-- Docker finds a container missing when it makes a list. -/
def missingList (_ : ListOptions) : Except GoError (List ListedContainer) := .error (noSuchContainer "abc")

def listEnv (list : ListOptions → Except GoError (List ListedContainer)) (ids : List Text) : ListEnv where
  listCheckpoints := .ok ids
  listContainers := list
  checkpoint _ := { read := none, remove := none }

theorem lists_report_iff_keep_running :
    (∃ items, (listPodSandbox cniService (listEnv runningPod.list []) none emptyHost).1 = .ok items ∧
      runningPod.ReportsSandboxes none items) ∧
    ∃ items, listContainers runningPod.list none = .ok items ∧ runningPod.ReportsContainers none items := by
  obtain ⟨hsandboxes, hcontainers⟩ := @lists_report_iff_keep runningPod (listEnv runningPod.list []) runningPod.list
    runningPod.answers_list runningPod.answers_list cniService emptyHost
  refine ⟨⟨_, rfl, (hsandboxes none _ rfl).mpr ?_⟩, ⟨_, rfl, (hcontainers none _ rfl).mpr ?_⟩⟩
  · intro c _ _ _ _
    exact List.not_mem_nil
  · rintro c _ _ f ⟨⟩

def checkpointEntry : PodSandbox where
  id := "c1"
  metadata := { name := "p", namespace_ := "ns", uid := [], attempt := 0 }
  state := .notReady
  createdAt := 0

/-- A list call fails for a container that is missing: the sandbox that is running is reported as not ready, and its
    container is not reported. -/
theorem lists_lose_running_pod :
    runningPod.Answers missingList ∧
    (listPodSandbox cniService (listEnv missingList ["c1"]) none
        (runPodSandbox cniService (quietRun "c1") plainConfig [] emptyHost).2.2).1 = .ok [checkpointEntry] ∧
      ¬runningPod.ReportsSandboxes none [checkpointEntry] ∧
    listContainers missingList none = .ok [] ∧ ¬runningPod.ReportsContainers none [] := by
  have hlisted : (listPodSandbox cniService (listEnv missingList ["c1"]) none
      (runPodSandbox cniService (quietRun "c1") plainConfig [] emptyHost).2.2).1 = .ok [checkpointEntry] ∧
      listContainers missingList none = .ok [] := by
    decide +kernel
  refine ⟨?_, hlisted.1, fun h => ?_, hlisted.2, fun h => ?_⟩
  · rintro opts cs ⟨⟩
  · have hready := h.ready _ List.mem_cons_self rfl rfl checkpointEntry List.mem_cons_self rfl
    cases hready
  · have hone := h _ (List.mem_cons_of_mem _ List.mem_cons_self)
      { container := rfl, id := by rintro f ⟨⟩, state := by rintro f ⟨⟩, podSandboxId := by rintro f ⟨⟩,
        labels := by rintro f ⟨⟩, name := ⟨_, _, _, rfl, rfl⟩ }
    cases hone

/-! ### Corrupt checkpoints -/

section
variable (ds : DockerService) (env : ListEnv) (s : State)

/-- What is read for a sandbox decodes to a checkpoint with data. -/
def Decodes (id : Text) (cp : PodSandboxCheckpoint) (data : CheckpointData) : Prop :=
  ∃ j, Store.read (env.checkpoint id).read id s.checkpoints = .ok (.json j) ∧
    PodSandboxCheckpoint.decode j emptyCheckpoint = .ok cp ∧ cp.data = some data

def Corrupt (id : Text) : Prop := ∃ cp data, Decodes env s id cp data ∧ cp.checksum ≠ newChecksum ds.spew data

def Sound (id : Text) : Prop := ∃ cp data, Decodes env s id cp data ∧ cp.checksum = newChecksum ds.spew data

/-- A checkpoint is listed, and no container that Docker lists has its ID. -/
def WithoutContainer (cs : List ListedContainer) (id : Text) : Prop :=
  (∃ ids, env.listCheckpoints = .ok ids ∧ id ∈ ids) ∧ id ∉ cs.map (·.id)

def Deletable (id : Text) : Prop := (removeCheckpoint (env.checkpoint id).remove id s.checkpoints).1 = none

/-- What a list call without a filter is to make of the checkpoints, however it ends. -/
structure CleansUp (cs : List ListedContainer) : Prop where
  removed : ∀ id, WithoutContainer env cs id → Corrupt ds env s id → Deletable env s id →
    (listPodSandbox ds env none s).2.checkpoints id = none
  unlisted : ∀ id, WithoutContainer env cs id → Corrupt ds env s id →
    ∀ items, (listPodSandbox ds env none s).1 = .ok items → id ∉ items.map (·.id)
  kept : ∀ id, Sound ds env s id → (listPodSandbox ds env none s).2.checkpoints id = s.checkpoints id

variable {ds env s} {cs : List ListedContainer} {id : Text}

theorem Decodes.file {cp : PodSandboxCheckpoint} {data : CheckpointData} (h : Decodes env s id cp data) :
    s.checkpoints id ≠ none := by
  obtain ⟨j, hread, -, -⟩ := h
  intro hnone
  unfold Store.read at hread
  rw [hnone] at hread
  cases hkey : validateKey id with
  | some err =>
    rw [hkey] at hread
    cases hread
  | none =>
    rw [hkey] at hread
    cases hfault : (env.checkpoint id).read <;> rw [hfault] at hread <;> cases hread

/-- The mismatch is an error, though not the one that the list call looks for. -/
theorem Corrupt.not_readable (h : Corrupt ds env s id) : readable ds env.checkpoint s id = false := by
  obtain ⟨cp, data, ⟨j, hread, hdecode, hdata⟩, hsum⟩ := h
  simp only [readable, getCheckpoint, hread, podSandboxCheckpoint, unmarshalCheckpoint, hdecode, verifyChecksum, hdata,
    ne_eq, hsum, not_false_eq_true, if_true]

theorem Corrupt.unlisted (hcs : env.listContainers (listOptions none) = .ok cs) (h : Corrupt ds env s id)
    (hid : WithoutContainer env cs id) {items : List PodSandbox} (hitems : (listPodSandbox ds env none s).1 = .ok items) :
    id ∉ items.map (·.id) := by
  obtain ⟨cs', extra, hlisted, rfl, hextra, -⟩ := listPodSandbox_ok hitems
  have hcs' : cs' = cs := by
    rcases hlisted with hok | ⟨-, err, herr⟩
    · exact Except.ok.inj (hok.symm.trans hcs)
    · rw [herr] at hcs
      cases hcs
  subst hcs'
  rw [List.map_append, List.mem_append, hextra]
  rintro (hshown | hextra)
  · exact hid.2 (shownSandboxes_sublist.subset hshown)
  · have hids := (List.mem_filter.mp hextra).1
    unfold checkpointedIDs at hids
    split at hids
    · have hreadable := (List.mem_filter.mp hids).2
      rw [h.not_readable] at hreadable
      cases hreadable
    · exact absurd hids List.not_mem_nil

end

/-- A corrupt checkpoint is never removed by a list call, so the call cleans up exactly when no corrupt checkpoint that
    is without a container could be deleted. -/
theorem listPodSandbox_cleansUp_iff {ds : DockerService} {env : ListEnv} {s : State} {cs : List ListedContainer}
    (hcs : env.listContainers (listOptions none) = .ok cs) :
    CleansUp ds env s cs ↔ ∀ id, WithoutContainer env cs id → Corrupt ds env s id → ¬Deletable env s id := by
  constructor
  · intro h id hid hcorrupt hdelete
    have hremoved := h.removed id hid hcorrupt hdelete
    rw [listPodSandbox_state] at hremoved
    obtain ⟨cp, data, hdecodes, -⟩ := hcorrupt
    exact hdecodes.file hremoved
  · intro h
    refine ⟨fun id hid hcorrupt hdelete => absurd hdelete (h id hid hcorrupt), ?_, ?_⟩
    · intro id hid hcorrupt items hitems
      exact hcorrupt.unlisted hcs hid hitems
    · intro id _
      rw [listPodSandbox_state]

/-- A sandbox that runs has a sound checkpoint. -/
theorem listPodSandbox_cleansUp_iff_running :
    CleansUp cniService (listEnv runningPod.list ["c1"])
      (runPodSandbox cniService (quietRun "c1") plainConfig [] emptyHost).2.2
      ((runningPod.containers.filter (runningPod.selects (listOptions none))).map (·.toListedContainer)) := by
  refine (listPodSandbox_cleansUp_iff rfl).mpr ?_
  rintro id ⟨⟨ids, hids, hid⟩, hno⟩ - -
  cases hids
  cases List.mem_singleton.mp hid
  exact hno (by decide)

def corruptFile : Blob := .json (.obj [member "data" (.obj []), member "checksum" (.ofInt 0)])

def corruptHost : State := State.initial (Function.update (fun _ => none) "c1" (some corruptFile)) (fun _ => none)

/-- Docker has no containers, and there is one checkpoint, which is corrupt. It could be deleted, and it stays. -/
theorem listPodSandbox_keeps_corrupt :
    Corrupt cniService (listEnv (fun _ => .ok []) ["c1"]) corruptHost "c1" ∧
      Deletable (listEnv (fun _ => .ok []) ["c1"]) corruptHost "c1" ∧
      (listPodSandbox cniService (listEnv (fun _ => .ok []) ["c1"]) none corruptHost).1 = .ok [] ∧
      (listPodSandbox cniService (listEnv (fun _ => .ok []) ["c1"]) none corruptHost).2.checkpoints "c1" =
        some corruptFile := by
  have hdecodes : Decodes (listEnv (fun _ => .ok []) ["c1"]) corruptHost "c1"
      { emptyCheckpoint with checksum := 0 } { portMappings := none, hostNetwork := false } := ⟨_, rfl, rfl, rfl⟩
  exact ⟨⟨_, _, hdecodes, by decide⟩, rfl, rfl, rfl⟩

end CriDockerd.Core
