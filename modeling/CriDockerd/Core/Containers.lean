import CriDockerd.Core.Sandbox

/-! ListContainers (`core/container_list.go`) with its conversions (`core/convert.go`). -/

namespace CriDockerd.Core
open Text

def containerTypeLabelContainer : Text := "container"

/-- `runtimeapi.ContainerState`. -/
inductive ContainerState where
  | created
  | running
  | exited
  | unknown
  deriving DecidableEq, Repr

/-- `runtimeapi.ContainerFilter`; an empty ID is none. -/
structure ContainerFilter where
  id : Text
  state : Option ContainerState
  podSandboxId : Text
  labelSelector : Labels
  deriving DecidableEq, Repr

structure ContainerMetadata where
  name : Text
  attempt : Nat
  deriving DecidableEq, Repr

/-- `runtimeapi.Container`. -/
structure RuntimeContainer where
  id : Text
  podSandboxId : Text
  metadata : ContainerMetadata
  image : Text
  imageRef : Text
  state : ContainerState
  createdAt : Int
  labels : Labels
  annotations : Labels
  deriving DecidableEq, Repr

/-! ### Conversions -/

def parseContainerName (name : Text) : Except GoError ContainerMetadata :=
  let name := trimPrefix name ['/']
  -- A random suffix is tolerated.
  match split name nameDelimiter with
  | p₀ :: p₁ :: _ :: _ :: _ :: p₅ :: rest =>
    if 1 < rest.length then .error (.text ("failed to parse the container name: " ++ quote name))
    else if p₀ ≠ kubePrefix then .error (.text ("container is not managed by kubernetes: " ++ quote name))
    else match parseUint32 p₅ with
      | .error err =>
        .error (.text ("failed to parse the container name " ++ quote name ++ ": " ++ err.error))
      | .ok attempt => .ok { name := p₁, attempt }
  | _ => .error (.text ("failed to parse the container name: " ++ quote name))

/-- The labels that are only used by the service itself. -/
def internalLabelKeys : List Text := [containerTypeLabelKey, containerLogPathLabelKey, sandboxIDLabelKey]

/-- Labels and annotations; the container name label of a sandbox is not shown. -/
def extractLabels (input : Labels) : Labels × Labels :=
  let shown := input.filter fun kv =>
    kv.1 ∉ internalLabelKeys ∧
      ¬(kv.1 = kubernetesContainerNameLabel ∧ input.lookup containerTypeLabelKey = some containerTypeLabelSandbox)
  (shown.filter fun kv => !hasPrefix kv.1 annotationPrefix,
    (shown.filter fun kv => hasPrefix kv.1 annotationPrefix).map fun kv => (trimPrefix kv.1 annotationPrefix, kv.2))

def toDockerContainerStatus : ContainerState → Text
  | .created => "created"
  | .running => "running"
  | .exited => "exited"
  | .unknown => "unknown"

def toRuntimeAPIContainerState (status : Text) : ContainerState :=
  if hasPrefix status "Up" then .running
  else if hasPrefix status "Exited" then .exited
  else if hasPrefix status "Created" then .created
  else .unknown

/-- The conversion of a listed container; the timestamp is in seconds and becomes an `int64` of nanoseconds. -/
def toRuntimeAPIContainer (c : ListedContainer) : Option RuntimeContainer :=
  match c.names with
  | [] => none
  | name :: _ =>
    match parseContainerName name with
    | .error _ => none
    | .ok metadata =>
      let (labels, annotations) := extractLabels c.labels
      some { id := c.id, podSandboxId := (c.labels.lookup sandboxIDLabelKey).getD [], metadata, image := c.image,
             imageRef := c.imageID, state := toRuntimeAPIContainerState c.status,
             createdAt := Int.bmod (c.created * 1000000000) (2 ^ 64), labels, annotations }

/-! ### ListContainers -/

/-- The containers that Docker is asked for. -/
def containerListOptions : Option ContainerFilter → ListOptions
  | none => ⟨true, [(containerTypeLabelKey, containerTypeLabelContainer)], none, none⟩
  | some filter =>
    { all := true
      labels := (containerTypeLabelKey, containerTypeLabelContainer) ::
        (if filter.podSandboxId = [] then [] else [(sandboxIDLabelKey, filter.podSandboxId)]) ++ filter.labelSelector
      id := if filter.id = [] then none else some filter.id
      status := filter.state.map toDockerContainerStatus }

/-- That a container is missing is no error; what Docker has listed is lost then. -/
def listContainers (list : ListOptions → Except GoError (List ListedContainer)) (filter : Option ContainerFilter) :
    Except GoError (List RuntimeContainer) :=
  match list (containerListOptions filter) with
  | .error err => if isContainerNotFoundError err then .ok [] else .error err
  | .ok containers => .ok (containers.filterMap toRuntimeAPIContainer)

end CriDockerd.Core
