import CriDockerd.Errors
import CriDockerd.Lib.Reference

/-! Images as they are looked up by a reference (`libdocker/helpers.go`, `libdocker/kube_docker_client.go`): Docker resolves
    the reference, and what it answers is compared with it. Errors of the parser are only logged. -/

namespace CriDockerd.Libdocker
open Text Reference

/-- `container.Config` of an image, as far as a status that is not verbose needs it. -/
structure ImageConfig where
  user : Text
  deriving DecidableEq, Repr

/-- `types.ImageInspect`, as far as it is compared or converted. -/
structure ImageInspect where
  id : Text
  repoTags : List Text
  repoDigests : List Text
  size : Int := 0
  config : Option ImageConfig := none
  deriving DecidableEq, Repr

/-- One turn of the loop over the tags: either text may have a registry in front, so that only the ends are compared. -/
def matchRepoTag (image tag : Text) : Bool :=
  if hasSuffix image tag || hasSuffix tag image then true
  else match parseNormalizedNamed tag with
    | none => false
    | some initialName =>
      -- If it does not have tags then we bail out
      if initialName.tag = none then false
      else
        let normalizedTag := initialName.string
        if normalizedTag = [] then false else hasSuffix image normalizedTag || hasSuffix normalizedTag image

/-- One turn of the loop over the digests. -/
def matchRepoDigest (digest : ImageDigest) (repoDigest : Text) : Bool :=
  match parseNormalizedNamed repoDigest with
  | none => false
  | some named => named.digest.any fun d => digest.algorithm = d.algorithm ∧ digest.encoded = d.encoded

/-- Whether a reference is one of an image; a name alone is one of every image. -/
def matchImageTagOrSHA (inspected : ImageInspect) (image : Text) : Bool :=
  match parseNormalizedNamed image with
  | none => false
  | some named =>
    if named.tag = none ∧ named.digest = none then true
    else if named.tag.isSome && inspected.repoTags.any (matchRepoTag image) then true
    else match named.digest with
      | none => false
      | some digest =>
        if inspected.repoDigests.any (matchRepoDigest digest) then true
        -- process the ID as a digest
        else match parseDigest inspected.id with
          | none => false
          | some id => digest.algorithm = id.algorithm ∧ digest.encoded = id.encoded

/-- Whether a text is the ID of an image, or a reference by a digest that the ID is. -/
def matchImageIDOnly (inspected : ImageInspect) (image : Text) : Bool :=
  if inspected.id = image then true
  else match (parse image).bind (·.digest), parseDigest inspected.id with
    | some digest, some id => digest.algorithm = id.algorithm ∧ digest.encoded = id.encoded
    | _, _ => false

end CriDockerd.Libdocker
