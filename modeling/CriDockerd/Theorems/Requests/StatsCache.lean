import CriDockerd.Core.Stats
import CriDockerd.Theorems.Sandbox.Listing

/-! What a ListContainerStats request with a filter does to the cache of stats. The list of containers that it sends is
    taken for the list of all containers, so the entries of the containers that the filter does not ask for are
    deleted, and their sizes are missing until they have been collected again. -/

namespace CriDockerd.Core
open Text

/-! ### The cache -/

namespace ContainerStatsCache
variable {c : ContainerStatsCache} {id cid : Text} {ids : List Text} {clist : List RuntimeContainer}

theorem getStats_of_mem {cstat : CStats} (h : (id, cstat) ∈ c.stats) : c.getStats id = some cstat := by
  have hnodup := c.nodup
  unfold getStats
  generalize c.stats = stats at h hnodup
  induction stats with
  | nil => cases h
  | cons kv rest ih =>
    rw [List.map_cons, List.nodup_cons] at hnodup
    rcases List.mem_cons.mp h with rfl | h
    · rw [List.lookup_cons_self]
    · have hne : id ≠ kv.1 := fun heq => hnodup.1 (heq ▸ List.mem_map_of_mem h)
      rw [List.lookup_cons, beq_false_of_ne hne]
      exact ih h hnodup.2

theorem getStats_add : (c.add cid).getStats id = if id = cid then some ((c.getStats id).getD newCstats) else c.getStats id := by
  unfold add getStats
  split
  · rename_i hnone
    rw [List.lookup_append]
    split
    · rename_i heq
      rw [heq, hnone, List.lookup_cons_self]
      rfl
    · rename_i hne
      rw [List.lookup_cons, beq_false_of_ne hne]
      exact Option.or_none
  · rename_i hsome
    split
    · rename_i heq
      obtain ⟨cstat, hstat⟩ := Option.ne_none_iff_exists'.mp hsome
      rw [heq, hstat]
      rfl
    · rfl

theorem getStats_addAll : (clist.foldl (fun c container => c.add container.id) c).getStats id =
    if id ∈ clist.map (·.id) then some ((c.getStats id).getD newCstats) else c.getStats id := by
  induction clist generalizing c with
  | nil => rfl
  | cons container rest ih =>
    rw [List.foldl_cons, ih, getStats_add, List.map_cons]
    by_cases hrest : id ∈ rest.map (·.id) <;> by_cases hid : id = container.id <;> simp [hrest, hid]

theorem getStats_cleanup : (c.cleanup ids).getStats id = if id ∈ ids then c.getStats id else none := by
  unfold cleanup getStats
  dsimp only
  induction c.stats with
  | nil => split <;> rfl
  | cons kv rest ih =>
    by_cases hid : id = kv.1
    · subst hid
      by_cases hmem : kv.1 ∈ ids
      · rw [List.filter_cons, if_pos (decide_eq_true hmem), if_pos hmem, List.lookup_cons_self, List.lookup_cons_self]
      · rw [List.filter_cons_of_neg (by simpa using hmem), ih, if_neg hmem, if_neg hmem]
    · rw [List.lookup_cons, beq_false_of_ne hid, List.filter_cons, ← ih]
      split
      · rw [List.lookup_cons, beq_false_of_ne hid]
      · rfl

/-- A list leaves the containers that it has with an entry, a new one if they had none, and no other. -/
theorem getStats_handle : (c.handle clist).getStats id =
    if id ∈ clist.map (·.id) then some ((c.getStats id).getD newCstats) else none := by
  rw [handle, getStats_cleanup, getStats_addAll]
  split <;> rfl

theorem getWriteableLayer_addAll :
    (clist.foldl (fun c container => c.add container.id) c).getWriteableLayer = c.getWriteableLayer := by
  induction clist generalizing c with
  | nil => rfl
  | cons container rest ih =>
    rw [List.foldl_cons, ih]
    unfold add getWriteableLayer
    split
    · rw [List.foldl_append]
      exact UInt64.add_zero _
    · rfl

theorem foldl_cleanup {stats : List (Text × CStats)} (h : ∀ kv ∈ stats, kv.1 ∉ ids → kv.2.rwLayerSize = 0) (total : UInt64) :
    (stats.filter fun kv => kv.1 ∈ ids).foldl (fun total stat => total + stat.2.rwLayerSize) total =
      stats.foldl (fun total stat => total + stat.2.rwLayerSize) total := by
  induction stats generalizing total with
  | nil => rfl
  | cons kv rest ih =>
    have ih := ih fun kv hkv => h kv (List.mem_cons_of_mem _ hkv)
    by_cases hmem : kv.1 ∈ ids
    · rw [List.filter_cons, if_pos (decide_eq_true hmem), List.foldl_cons, List.foldl_cons, ih]
    · rw [List.filter_cons_of_neg (by simpa using hmem), ih, List.foldl_cons, h kv List.mem_cons_self hmem, UInt64.add_zero]

theorem getWriteableLayer_cleanup (h : ∀ kv ∈ c.stats, kv.1 ∉ ids → kv.2.rwLayerSize = 0) :
    (c.cleanup ids).getWriteableLayer = c.getWriteableLayer :=
  foldl_cleanup h 0

theorem getWriteableLayer_handle
    (h : ∀ id cstat, c.getStats id = some cstat → id ∉ clist.map (·.id) → cstat.rwLayerSize = 0) :
    (c.handle clist).getWriteableLayer = c.getWriteableLayer := by
  rw [handle, getWriteableLayer_cleanup, getWriteableLayer_addAll]
  rintro ⟨id, cstat⟩ hmem hlisted
  have hstat := getStats_of_mem hmem
  rw [getStats_addAll, if_neg hlisted] at hstat
  exact h id cstat hstat hlisted

end ContainerStatsCache

/-! ### Requests -/

/-- Docker has a container with this ID, and a filter asks for it. -/
def DockerHost.HasContainer (host : DockerHost) (filter : Option ContainerFilter) (id : Text) : Prop :=
  ∃ c ∈ host.containers, c.id = id ∧ host.SelectsContainer filter c

section
variable (host : DockerHost) (filter : Option ContainerStatsFilter) (clist : List RuntimeContainer) (c : ContainerStatsCache)

/-- What the list of a request leaves of a cache: the entries of the containers that Docker has and that the filter does
    not ask for; the total, if all entries are of containers that Docker has; and the sizes in a later response, and
    the entries after a later request without a filter. -/
structure Undisturbed : Prop where
  others : ∀ id, host.HasContainer none id → ¬host.HasContainer (some (containerStatsFilter filter)) id →
    (c.handle clist).getStats id = c.getStats id
  total : (∀ id cstat, c.getStats id = some cstat → host.HasContainer none id) →
    (c.handle clist).getWriteableLayer = c.getWriteableLayer
  reported : ∀ id, host.HasContainer none id → (c.handle clist).writableLayer id = c.writableLayer id
  later : ∀ all : List RuntimeContainer, (∀ id, id ∈ all.map (·.id) ↔ host.HasContainer none id) →
    ∀ id, ((c.handle clist).handle all).getStats id = (c.handle all).getStats id

/-- The filter asks for all containers that have an entry. If Docker fails to list them, no size has been collected. -/
def CoversEntries (env : StatsEnv) : Prop :=
  ∀ id cstat, c.getStats id = some cstat → host.HasContainer none id →
    host.HasContainer (some (containerStatsFilter filter)) id ∧
      (cstat = newCstats ∨ ∃ cs, env.listContainers (containerListOptions (some (containerStatsFilter filter))) = .ok cs)

end

section
variable {host : DockerHost} {env : StatsEnv} {filter : Option ContainerStatsFilter} {clist : List RuntimeContainer}
  {response : List ContainerStats} {c c' : ContainerStatsCache} {id : Text} {f : ContainerFilter}

theorem DockerHost.selectsContainer_none {d : DockerContainer}
    (hcontainer : d.labels.lookup containerTypeLabelKey = some containerTypeLabelContainer)
    (hname : ∃ name rest metadata, d.names = name :: rest ∧ parseContainerName name = .ok metadata) :
    host.SelectsContainer none d where
  container := hcontainer
  id f hf := absurd hf (Option.not_mem_none f)
  state f hf := absurd hf (Option.not_mem_none f)
  podSandboxId f hf := absurd hf (Option.not_mem_none f)
  labels f hf := absurd hf (Option.not_mem_none f)
  name := hname

theorem DockerHost.HasContainer.exists (h : host.HasContainer (some f) id) : host.HasContainer none id := by
  obtain ⟨c, hc, hid, hselects⟩ := h
  exact ⟨c, hc, hid, DockerHost.selectsContainer_none hselects.container hselects.name⟩

theorem DockerHost.selectsContainer_of_selects {d : DockerContainer} (hstate : f.state = none)
    (hname : ∃ name rest metadata, d.names = name :: rest ∧ parseContainerName name = .ok metadata)
    (h : host.selects (containerListOptions (some f)) d = true) : host.SelectsContainer (some f) d := by
  simp only [DockerHost.selects, Bool.and_eq_true, Option.all_eq_true, List.all_eq_true, decide_eq_true_eq] at h
  obtain ⟨⟨⟨-, hlabels⟩, hid⟩, -⟩ := h
  refine ⟨hlabels (containerTypeLabelKey, containerTypeLabelContainer) List.mem_cons_self, ?_, ?_, ?_, ?_, hname⟩
  · rintro _ ⟨⟩ hne
    exact hid f.id (by simp [containerListOptions, hne])
  · rintro _ ⟨⟩ state hsome
    rw [hstate] at hsome
    cases hsome
  · rintro _ ⟨⟩ hne
    exact hlabels (sandboxIDLabelKey, f.podSandboxId) (by simp [containerListOptions, hne])
  · rintro _ ⟨⟩ kv hkv
    exact hlabels kv (by simp [containerListOptions, hkv])

theorem containerStatsFilter_state (filter : Option ContainerStatsFilter) : (containerStatsFilter filter).state = none := by
  cases filter <;> rfl

theorem listContainerStats_ok (h : listContainerStats env c filter = .ok (clist, response)) :
    listContainers env.listContainers (some (containerStatsFilter filter)) = .ok clist := by
  unfold listContainerStats at h
  split at h
  · cases h
  · rename_i containers hlist
    cases h
    exact hlist

/-- What a request sends: the containers that its filter asks for, or none if Docker has failed to list them. -/
theorem mem_clist_iff (hanswers : host.Answers env.listContainers)
    (h : listContainers env.listContainers (some (containerStatsFilter filter)) = .ok clist) :
    id ∈ clist.map (·.id) ↔ host.HasContainer (some (containerStatsFilter filter)) id ∧
      ∃ cs, env.listContainers (containerListOptions (some (containerStatsFilter filter))) = .ok cs := by
  have hstate := containerStatsFilter_state filter
  rcases listContainers_ok h with ⟨cs, hlist, rfl⟩ | ⟨⟨err, hlist⟩, rfl⟩
  · constructor
    · intro hlisted
      obtain ⟨d, hd, hid, hselected, hname⟩ := listed_container hanswers hlist hlisted
      exact ⟨⟨d, hd, hid, DockerHost.selectsContainer_of_selects hstate hname hselected⟩, cs, hlist⟩
    · rintro ⟨⟨d, hd, rfl, hselects⟩, -⟩
      refine (listed_iff_selects hanswers hlist hd hselects).mpr (hselects.selects_iff.mpr ?_)
      rintro _ ⟨⟩ state hsome
      rw [hstate] at hsome
      cases hsome
  · constructor
    · intro hmem
      cases hmem
    · rintro ⟨-, cs, hcs⟩
      rw [hlist] at hcs
      cases hcs

theorem CoversEntries.undisturbed (hclist : ∀ id, id ∈ clist.map (·.id) ↔
      host.HasContainer (some (containerStatsFilter filter)) id ∧
        ∃ cs, env.listContainers (containerListOptions (some (containerStatsFilter filter))) = .ok cs)
    (h : CoversEntries host filter c env) : Undisturbed host filter clist c := by
  -- An entry that is deleted, of a container that Docker has, is as new.
  have hnew : ∀ id cstat, c.getStats id = some cstat → host.HasContainer none id → id ∉ clist.map (·.id) →
      cstat = newCstats := by
    intro id cstat hstat hexists hlisted
    obtain ⟨hmatches, hfresh | hok⟩ := h id cstat hstat hexists
    · exact hfresh
    · exact absurd ((hclist id).mpr ⟨hmatches, hok⟩) hlisted
  refine ⟨?_, ?_, ?_, ?_⟩
  · intro id hexists hother
    rw [ContainerStatsCache.getStats_handle, if_neg fun hlisted => hother ((hclist id).mp hlisted).1]
    cases hstat : c.getStats id with
    | none => rfl
    | some cstat => exact absurd (h id cstat hstat hexists).1 hother
  · intro hexist
    refine ContainerStatsCache.getWriteableLayer_handle fun id cstat hstat hlisted => ?_
    rw [hnew id cstat hstat (hexist id cstat hstat) hlisted]
    rfl
  · intro id hexists
    by_cases hlisted : id ∈ clist.map (·.id)
    · rw [ContainerStatsCache.writableLayer, ContainerStatsCache.writableLayer, ContainerStatsCache.getStats_handle,
        if_pos hlisted]
      cases c.getStats id <;> rfl
    · rw [ContainerStatsCache.writableLayer, ContainerStatsCache.writableLayer, ContainerStatsCache.getStats_handle,
        if_neg hlisted]
      cases hstat : c.getStats id with
      | none => rfl
      | some cstat =>
        rw [hnew id cstat hstat hexists hlisted]
        rfl
  · intro all hall id
    rw [ContainerStatsCache.getStats_handle, ContainerStatsCache.getStats_handle, ContainerStatsCache.getStats_handle]
    split
    · rename_i hid
      cases hstat : c.getStats id with
      | none => split <;> rfl
      | some cstat =>
        split
        · rfl
        · rename_i hlisted
          rw [hnew id cstat hstat ((hall id).mp hid) hlisted]
          rfl
    · rfl

theorem Undisturbed.coversEntries (hclist : ∀ id, id ∈ clist.map (·.id) ↔
      host.HasContainer (some (containerStatsFilter filter)) id ∧
        ∃ cs, env.listContainers (containerListOptions (some (containerStatsFilter filter))) = .ok cs)
    {all : List RuntimeContainer} (hall : ∀ id, id ∈ all.map (·.id) ↔ host.HasContainer none id)
    (h : Undisturbed host filter clist c) : CoversEntries host filter c env := by
  intro id cstat hstat hexists
  have hmatches : host.HasContainer (some (containerStatsFilter filter)) id := by
    by_contra hother
    have hkept := h.others id hexists hother
    rw [ContainerStatsCache.getStats_handle, if_neg fun hlisted => hother ((hclist id).mp hlisted).1, hstat] at hkept
    cases hkept
  refine ⟨hmatches, ?_⟩
  by_cases hlisted : id ∈ clist.map (·.id)
  · exact Or.inr ((hclist id).mp hlisted).2
  · have hlater := h.later all hall id
    rw [ContainerStatsCache.getStats_handle, ContainerStatsCache.getStats_handle, ContainerStatsCache.getStats_handle,
      if_pos ((hall id).mpr hexists), if_pos ((hall id).mpr hexists), if_neg hlisted, hstat] at hlater
    exact Or.inl (Option.some.inj hlater).symm

theorem exists_all (host : DockerHost) :
    ∃ all : List RuntimeContainer, ∀ id, id ∈ all.map (·.id) ↔ host.HasContainer none id := by
  let env : StatsEnv := { listContainers := host.list, getContainerStats := fun _ => .error (.text []) }
  refine ⟨((host.containers.filter (host.selects (containerListOptions (some (containerStatsFilter none))))).map
    (·.toListedContainer)).filterMap toRuntimeAPIContainer, fun id => ?_⟩
  rw [@mem_clist_iff host env none _ id host.answers_list rfl]
  constructor
  · rintro ⟨hexists, -⟩
    exact hexists.exists
  · rintro ⟨d, hd, hid, hselects⟩
    refine ⟨⟨d, hd, hid, hselects.container, ?_, ?_, ?_, ?_, hselects.name⟩, _, rfl⟩
    · rintro _ ⟨⟩ hne
      exact absurd rfl hne
    · rintro _ ⟨⟩ state ⟨⟩
    · rintro _ ⟨⟩ hne
      exact absurd rfl hne
    · rintro _ ⟨⟩ kv ⟨⟩

/-- Whatever the cache holds when the list of a request is handled, and whatever Docker answers to the request, the
    cache is left undisturbed exactly if the request covers its entries. -/
theorem handle_undisturbed_iff (hanswers : host.Answers env.listContainers)
    (h : listContainerStats env c' filter = .ok (clist, response)) (c : ContainerStatsCache) :
    Undisturbed host filter clist c ↔ CoversEntries host filter c env := by
  have hclist := fun id => @mem_clist_iff host env filter clist id hanswers (listContainerStats_ok h)
  obtain ⟨all, hall⟩ := exists_all host
  exact ⟨fun hleft => hleft.coversEntries hclist hall, fun hcovers => hcovers.undisturbed hclist⟩

end

def statsEnv (host : DockerHost) : StatsEnv where
  listContainers := host.list
  getContainerStats _ := .ok { totalUsage := 5, memoryUsage := 6 }

def podFilter (podSandboxId : Text) : ContainerStatsFilter := { id := [], podSandboxId, labelSelector := [] }

def sent (host : DockerHost) (filter : Option ContainerStatsFilter) : List RuntimeContainer :=
  match listContainerStats (statsEnv host) newContainerStatsCache filter with
  | .ok (clist, _) => clist
  | .error _ => []

/-- The stats of the only pod of a host are asked for by its sandbox. -/
theorem handle_undisturbed_iff_running :
    let c := (newContainerStatsCache.handle (sent runningPod none)).collect "k1" 100
    ∃ clist response, listContainerStats (statsEnv runningPod) c (some (podFilter "c1")) = .ok (clist, response) ∧
      Undisturbed runningPod (some (podFilter "c1")) clist c ∧ (c.handle clist).getWriteableLayer = 100 := by
  intro c
  refine ⟨_, _, rfl, (@handle_undisturbed_iff runningPod (statsEnv runningPod) _ _ _ c runningPod.answers_list rfl c).mpr ?_,
    by decide +kernel⟩
  rintro id cstat - ⟨d, hd, hid, hselects⟩
  refine ⟨⟨d, hd, hid, hselects.container, ?_, ?_, ?_, ?_, hselects.name⟩, Or.inr ⟨_, rfl⟩⟩
  · rintro _ ⟨⟩ hne
    exact absurd rfl hne
  · rintro _ ⟨⟩ state ⟨⟩
  · rintro _ ⟨⟩ -
    have hcontainer := hselects.container
    rcases List.mem_cons.mp hd with rfl | hd
    · exact absurd hcontainer (by decide +kernel)
    · obtain rfl := List.mem_singleton.mp hd
      rfl
  · rintro _ ⟨⟩ kv ⟨⟩

def twoPods : DockerHost where
  containers :=
    [{ id := "k1", names := ["/k8s_web_p_ns_u_0"], image := "web", imageID := "sha256:2",
       labels := [(containerTypeLabelKey, containerTypeLabelContainer), (sandboxIDLabelKey, "c1")],
       status := "Up 3 minutes", created := 0, state := .running, up := rfl },
     { id := "k2", names := ["/k8s_db_q_ns_v_0"], image := "db", imageID := "sha256:3",
       labels := [(containerTypeLabelKey, containerTypeLabelContainer), (sandboxIDLabelKey, "c2")],
       status := "Up 3 minutes", created := 0, state := .running, up := rfl }]
  matchesID pattern id := hasPrefix id pattern
  nodup := by decide

def bothSizes : ContainerStatsCache :=
  ((newContainerStatsCache.handle (sent twoPods none)).collect "k1" 100).collect "k2" 200

/-- The stats of one pod are asked for: the size of the container of the other pod, which is running, is gone from the
    total, and from the response to a later request for all containers. -/
theorem filtered_request_drops_size :
    ∃ clist response,
      listContainerStats (statsEnv twoPods) bothSizes (some (podFilter "c1")) = .ok (clist, response) ∧
      twoPods.HasContainer none "k2" ∧
      bothSizes.getWriteableLayer = 300 ∧ (bothSizes.handle clist).getWriteableLayer = 100 ∧
      (bothSizes.handle (sent twoPods none)).writableLayer "k2" = some 200 ∧
      ((bothSizes.handle clist).handle (sent twoPods none)).writableLayer "k2" = none ∧
      ¬Undisturbed twoPods (some (podFilter "c1")) clist bothSizes := by
  have hexists : twoPods.HasContainer none "k2" :=
    ⟨_, List.mem_cons_of_mem _ List.mem_cons_self, rfl, DockerHost.selectsContainer_none rfl ⟨_, _, _, rfl, rfl⟩⟩
  refine ⟨_, _, rfl, hexists, by decide +kernel, by decide +kernel, by decide +kernel, by decide +kernel, fun h => ?_⟩
  have hreported := h.reported _ hexists
  revert hreported
  decide +kernel

end CriDockerd.Core
