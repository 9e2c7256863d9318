import CriDockerd.Core.Containers

/-! Container stats (`core/stats.go`, `core/stats_linux.go`). The sizes of the writable layers are collected apart from
    the requests, by one goroutine for each entry of a cache; the list of containers of each ListContainerStats request
    is sent to startStatsCollection, which adds and deletes the entries. The timestamps of a response, the number of
    workers and the waits of the collectors are left out. -/

namespace CriDockerd.Core
open Text

/-- `cstats`, without its container ID, which is its key in the cache. -/
structure CStats where
  rwLayerSize : UInt64
  initialized : Bool
  deriving DecidableEq, Repr

def newCstats : CStats := { rwLayerSize := 0, initialized := false }

/-- `containerStatsCache`: the map `stats`, as its entries in some order. -/
structure ContainerStatsCache where
  stats : List (Text × CStats)
  nodup : (stats.map (·.1)).Nodup

def newContainerStatsCache : ContainerStatsCache := { stats := [], nodup := List.nodup_nil }

namespace ContainerStatsCache
variable (c : ContainerStatsCache)

def getWriteableLayer : UInt64 := c.stats.foldl (fun totalLayerSize stat => totalLayerSize + stat.2.rwLayerSize) 0

def getStats (containerID : Text) : Option CStats := c.stats.lookup containerID

theorem lookup_eq_none_iff {stats : List (Text × CStats)} {cid : Text} :
    stats.lookup cid = none ↔ cid ∉ stats.map (·.1) := by
  simp only [List.lookup_eq_none_iff, List.mem_map, bne_iff_ne, not_exists, not_and]
  exact ⟨fun h p hp heq => h p hp heq.symm, fun h p hp heq => h p hp heq.symm⟩

/-- An entry for a container that has none. -/
def add (cid : Text) : ContainerStatsCache :=
  if h : c.stats.lookup cid = none then
    { stats := c.stats ++ [(cid, newCstats)]
      nodup := by
        rw [List.map_append, List.nodup_append]
        refine ⟨c.nodup, List.nodup_singleton _, fun a ha b hb heq => ?_⟩
        rw [heq, List.mem_singleton.mp hb] at ha
        exact lookup_eq_none_iff.mp h ha }
  else c

/-- The entries of the given containers only. -/
def cleanup (containerIDs : List Text) : ContainerStatsCache where
  stats := c.stats.filter fun kv => kv.1 ∈ containerIDs
  nodup := c.nodup.sublist (List.filter_sublist.map _)

/-- The body of the loop of `startStatsCollection`. -/
def handle (clist : List RuntimeContainer) : ContainerStatsCache :=
  (clist.foldl (fun c container => c.add container.id) c).cleanup (clist.map (·.id))

/-- A turn of `startCollect` that gets the size of the writable layer; a turn that fails to changes nothing. -/
def collect (containerID : Text) (sizeRw : UInt64) : ContainerStatsCache where
  stats := c.stats.map fun kv => (kv.1, if kv.1 = containerID then { rwLayerSize := sizeRw, initialized := true } else kv.2)
  nodup := by
    rw [List.map_map]
    exact c.nodup

/-- The writable layer in the stats of a container; none before its size has been collected. -/
def writableLayer (containerID : Text) : Option UInt64 :=
  match c.getStats containerID with
  | none => none
  | some cstat => if cstat.initialized then some cstat.rwLayerSize else none

end ContainerStatsCache

/-! ### Requests -/

/-- `runtimeapi.ContainerStatsFilter`; an empty ID is none. -/
structure ContainerStatsFilter where
  id : Text
  podSandboxId : Text
  labelSelector : Labels
  deriving DecidableEq, Repr

/-- What Docker's stats of a container tell. -/
structure DockerStats where
  totalUsage : UInt64
  memoryUsage : UInt64
  deriving DecidableEq, Repr

/-- `runtimeapi.ContainerStats`. -/
structure ContainerStats where
  id : Text
  metadata : ContainerMetadata
  labels : Labels
  annotations : Labels
  usageCoreNanoSeconds : UInt64
  workingSetBytes : UInt64
  writableLayer : Option UInt64
  deriving DecidableEq, Repr

/-- What a stats request meets: the lists and the stats of Docker. -/
structure StatsEnv where
  listContainers : ListOptions → Except GoError (List ListedContainer)
  getContainerStats : Text → Except GoError DockerStats

section
variable (env : StatsEnv) (c : ContainerStatsCache)

def getContainerStats (container : RuntimeContainer) : Except GoError ContainerStats :=
  match env.getContainerStats container.id with
  | .error err => .error err
  | .ok dockerStats =>
    .ok { id := container.id, metadata := container.metadata, labels := container.labels,
          annotations := container.annotations, usageCoreNanoSeconds := dockerStats.totalUsage,
          workingSetBytes := dockerStats.memoryUsage, writableLayer := c.writableLayer container.id }

/-- The filter for the containers of a stats request; there is one even if the request has none. -/
def containerStatsFilter : Option ContainerStatsFilter → ContainerFilter
  | none => { id := [], state := none, podSandboxId := [], labelSelector := [] }
  | some filter =>
    { id := filter.id, state := none, podSandboxId := filter.podSandboxId, labelSelector := filter.labelSelector }

/-- The list of containers that is sent to `startStatsCollection`, and the response, in the order in which the workers
    end if they take turns. A container whose stats fail is left out. -/
def listContainerStats (filter : Option ContainerStatsFilter) :
    Except GoError (List RuntimeContainer × List ContainerStats) :=
  match listContainers env.listContainers (some (containerStatsFilter filter)) with
  | .error err => .error err
  | .ok containers => .ok (containers, containers.filterMap fun container => (getContainerStats env c container).toOption)

end

end CriDockerd.Core
