import CriDockerd.Core.Stats

/-! The usage of the file system of Docker's data root (`core/imagefs_linux.go`): the bytes of all images, and of the writable
    layers of the containers. The timestamps of the response are left out, as is the usage of the whole file system in bytes,
    which is only logged. -/

namespace CriDockerd.Core

/-- `image.Summary`: the size of an image, and how much of it is shared with other images, or -1. -/
structure ImageSummary where
  size : Int64
  sharedSize : Int64
  deriving DecidableEq, Repr

/-- `syscall.Statfs_t`. -/
structure Statfs where
  files : UInt64
  ffree : UInt64
  deriving DecidableEq, Repr

/-- `runtimeapi.FilesystemUsage`. -/
structure FilesystemUsage where
  mountpoint : Text
  usedBytes : UInt64
  inodesUsed : Option UInt64
  deriving DecidableEq, Repr

/-- `runtimeapi.ImageFsInfoResponse`. -/
structure ImageFsInfoResponse where
  imageFilesystems : List FilesystemUsage
  containerFilesystems : List FilesystemUsage
  deriving DecidableEq, Repr

/-- What the request meets. A range over a map goes through its keys in any order. -/
structure ImageFsEnv where
  statfs : Text → Except GoError Statfs
  listImages : Except GoError (List ImageSummary)
  rangeKeys : List Int64 → List Int64
  rangeKeys_perm : ∀ keys, (rangeKeys keys).Perm keys

/-- The body of the loop over the images: the total size, and the keys of `sharedSizeMap`. -/
def addImage (s : UInt64 × List Int64) (i : ImageSummary) : UInt64 × List Int64 :=
  if i.sharedSize = -1 then (s.1 + i.size.toUInt64, s.2)
  -- docker version >= 23.0
  else (s.1 + (i.size.toUInt64 - i.sharedSize.toUInt64), s.2.insert i.sharedSize)

def totalImageSize (rangeKeys : List Int64 → List Int64) (images : List ImageSummary) : UInt64 :=
  let s := images.foldl addImage (0, [])
  (rangeKeys s.2).foldl (fun totalImageSize k => totalImageSize + k.toUInt64) s.1

def imageFsInfo (env : ImageFsEnv) (dockerRootDir : Text) (containerStatsCache : ContainerStatsCache) :
    Except GoError ImageFsInfoResponse :=
  match env.statfs dockerRootDir with
  | .error err => .error err
  | .ok stat =>
    match env.listImages with
    | .error err => .error err
    | .ok images =>
      .ok {
        imageFilesystems := [{
          mountpoint := dockerRootDir
          usedBytes := totalImageSize env.rangeKeys images
          inodesUsed := some (stat.files - stat.ffree) }]
        containerFilesystems := [{
          mountpoint := dockerRootDir
          usedBytes := containerStatsCache.getWriteableLayer
          inodesUsed := none }] }

end CriDockerd.Core
