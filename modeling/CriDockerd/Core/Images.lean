import CriDockerd.Core.Requests
import CriDockerd.Lib.Strconv
import CriDockerd.Libdocker.Images

/-! The handlers for images (`core/image.go`): PullImage, ImageStatus and RemoveImage, over the lookups by a reference and by an
    ID of `libdocker`, and the conversion of `core/convert.go`. The daemon is a parameter, with the state that its pulls and
    removals change. -/

namespace CriDockerd.Core.Images
open Text Reference Libdocker

/-- An error of an image call; `ImageNotFoundError` is told from all others. -/
inductive ImageError where
  | notFound (id : Text)
  | other (err : GoError)
  deriving DecidableEq

structure HistoryResponseItem where
  created : Int
  createdBy : Text
  comment : Text
  size : Int
  deriving DecidableEq

/-- The daemon: `ImageInspectWithRaw`, `ImageHistory`, `ImagePull` read to its end, and `ImageRemove`. -/
structure Daemon (S : Type) where
  inspect : Text → S → Except ImageError ImageInspect
  history : Text → S → Except ImageError (List HistoryResponseItem)
  pull : Text → S → Option GoError × S
  remove : Text → S → Option ImageError × S

/-! ### Conversion -/

/-- `runtimeapi.Image`. -/
structure Image where
  id : Text
  repoTags : List Text
  repoDigests : List Text
  size : UInt64
  pinned : Bool
  uid : Option Int
  username : Text
  deriving DecidableEq

structure ImageStatusResponse where
  image : Option Image
  info : Option Text
  deriving DecidableEq

/-- The user of a `user:group`. -/
def parseUserFromImageUser (id : Text) : Text := if ':' ∈ id then (split id ':').headD [] else id

/-- The user as a number, or else as a name. -/
def getUserFromImageUser (imageUser : Text) : Option Int × Text :=
  let user := parseUserFromImageUser imageUser
  if user = [] then (none, [])
  else match Strconv.parseInt 9223372036854775808 user with
    | (_, some _) => (none, user)
    | (uid, none) => (some uid, [])

def isPinned (image : Text) (tags : List Text) : Bool := image ∈ tags

def errNilImage : GoError := .text "unable to convert a nil pointer to a runtime API image"

def imageInspectToRuntimeAPIImage (image : ImageInspect) (pinned : Bool) : Except GoError Image :=
  match image.config with
  | none => .error errNilImage
  | some config =>
    let (uid, username) := getUserFromImageUser config.user
    .ok { id := image.id, repoTags := image.repoTags, repoDigests := image.repoDigests, size := UInt64.ofInt image.size,
          pinned, uid, username }

/-- The image of the sandboxes, and the text of a verbose status: the creation of the image is parsed and its history
    marshalled, which may fail. -/
structure ImageService where
  podSandboxImage : Text
  imageInspectToRuntimeAPIImageInfo : ImageInspect → List HistoryResponseItem → Except GoError Text

def ImageService.sandboxImage (ds : ImageService) : Text :=
  if ds.podSandboxImage ≠ [] then ds.podSandboxImage else Requests.defaultSandboxImage

/-! ### Handlers -/

section
variable {S : Type} (d : Daemon S)

def inspectImageByID (imageID : Text) (s : S) : Except ImageError ImageInspect :=
  match d.inspect imageID s with
  | .error err => .error err
  | .ok resp => if matchImageIDOnly resp imageID then .ok resp else .error (.notFound imageID)

def inspectImageByRef (imageRef : Text) (s : S) : Except ImageError ImageInspect :=
  match d.inspect imageRef s with
  | .error err => .error err
  | .ok resp => if matchImageTagOrSHA resp imageRef then .ok resp else .error (.notFound imageRef)

/-- The image that ImageStatus finds: by its reference, and else by its ID. -/
def findImage (image : Text) (s : S) : Except ImageError (Option ImageInspect) :=
  match inspectImageByRef d image s with
  | .ok resp => .ok (some resp)
  | .error (.other err) => .error (.other err)
  | .error (.notFound _) =>
    match inspectImageByID d image s with
    | .ok resp => .ok (some resp)
    | .error (.other err) => .error (.other err)
    | .error (.notFound _) => .ok none

/-- The part of ImageStatus for an image that was found. -/
def foundStatus (ds : ImageService) (imageInspect : ImageInspect) (verbose : Bool) (s : S) :
    Except ImageError ImageStatusResponse :=
  let pinned := isPinned ds.sandboxImage imageInspect.repoTags
  match imageInspectToRuntimeAPIImage imageInspect pinned with
  | .error err => .error (.other err)
  | .ok image =>
    if verbose then
      match d.history imageInspect.id s with
      | .error err => .error err
      | .ok imageHistory =>
        match ds.imageInspectToRuntimeAPIImageInfo imageInspect imageHistory with
        | .error err => .error (.other err)
        | .ok info => .ok { image := some image, info := some info }
    else .ok { image := some image, info := none }

/-- There is no image in the response if there is none. -/
def imageStatus (ds : ImageService) (image : Text) (verbose : Bool) (s : S) : Except ImageError ImageStatusResponse :=
  match findImage d image s with
  | .error err => .error err
  | .ok none => .ok { image := none, info := none }
  | .ok (some imageInspect) => foundStatus d ds imageInspect verbose s

/-- The first digest of an image, or else its ID. -/
def getImageRef (image : Text) (s : S) : Except ImageError Text :=
  match inspectImageByRef d image s with
  | .error err => .error err
  | .ok img =>
    match img.repoDigests with
    | digest :: _ => .ok digest
    | [] => .ok img.id

def pullImage (image : Text) (s : S) : Except ImageError Text × S :=
  match d.pull image s with
  | (some err, s) => (.error (.other err), s)
  | (none, s) => (getImageRef d image s, s)

/-- Removes references one by one; one that is missing is no error. -/
def removeRefs : List Text → S → Option ImageError × S
  | [], s => (none, s)
  | image :: images, s =>
    match d.remove image s with
    | (some (.other err), s) => (some (.other err), s)
    | (some (.notFound _), s) => removeRefs images s
    | (none, s) => removeRefs images s

/-- What is not found by its ID counts as removed. -/
def removeImage (image : Text) (s : S) : Option ImageError × S :=
  match inspectImageByID d image s with
  | .error (.other err) => (some (.other err), s)
  | .error (.notFound _) => (none, s)
  | .ok img => removeRefs d (img.repoTags ++ img.repoDigests ++ [image]) s

end

end CriDockerd.Core.Images
