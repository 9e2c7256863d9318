import CriDockerd.Core.DockerConfig
import CriDockerd.Store.FileStore

/-! The default network of the CNI plugin (`network/cni/cni.go`). It is looked up in the directory of configs when the
    plugin is made and every few seconds from then on. What libcni makes of a file comes with the directory. -/

namespace CriDockerd.Cni
open Text

/-! ### libcni -/

/-- An entry of a directory; no name has a slash. -/
structure DirEntry where
  name : Text
  isDir : Bool
  isName : Paths.IsName name

structure NetworkConfig where
  type : Text
  bytes : List UInt8
  deriving DecidableEq

structure NetworkConfigList where
  name : Text
  cniVersion : Text
  disableCheck : Bool
  plugins : List NetworkConfig
  bytes : List UInt8
  deriving DecidableEq

/-- The functions of libcni on files and configs; a config is validated against the plugins that are on disk. -/
structure Libcni where
  confListFromFile : Text → Except GoError NetworkConfigList
  confFromFile : Text → Except GoError NetworkConfig
  confListFromConf : NetworkConfig → Except GoError NetworkConfigList
  validateNetworkList : (path : List Text) → NetworkConfigList → Except GoError (List Text)

/-- The directory of configs as a call sees it, with the entries in the order of their enumeration. -/
structure ConfDir where
  readDir : Except FsError (List DirEntry)
  libcni : Libcni

/-- `filepath.Ext`: from the last dot of the last part. -/
def fileExt (path : Text) : Text :=
  let ext := path.reverse.takeWhile fun c => c ≠ '.' ∧ c ≠ '/'
  if path.reverse[ext.length]? = some '.' then '.' :: ext.reverse else []

/-- A directory that is not there has no configs. -/
def confFiles (dir : Text) (extensions : List Text) (d : ConfDir) : Except GoError (List Text) :=
  match d.readDir with
  | .error err => if isNotExist err then .ok [] else .error err.toGoError
  | .ok files =>
    .ok (files.flatMap fun f =>
      if f.isDir then []
      else (extensions.filter (fileExt f.name = ·)).map fun _ => Core.filepathJoin dir f.name)

/-! ### The default network -/

structure CniNetwork where
  name : Text
  networkConfig : NetworkConfigList
  cniConfig : List Text
  capabilities : List Text
  deriving DecidableEq

/-- Why a file is passed over. -/
inductive Skipped where
  | notLoaded (err : GoError)
  | noType
  | notConverted (err : GoError)
  | noNetworks
  | notValidated (err : GoError)

/-- The config list of a file. A file that is no list has to have a type. -/
def loadConfList (libcni : Libcni) (confFile : Text) : Except Skipped NetworkConfigList :=
  if ".conflist".toList.isSuffixOf confFile then
    match libcni.confListFromFile confFile with
    | .error err => .error (.notLoaded err)
    | .ok confList => .ok confList
  else
    match libcni.confFromFile confFile with
    | .error err => .error (.notLoaded err)
    | .ok conf =>
      if conf.type = [] then .error .noType
      else
        match libcni.confListFromConf conf with
        | .error err => .error (.notConverted err)
        | .ok confList => .ok confList

def loadNetwork (libcni : Libcni) (binDirs : List Text) (confFile : Text) : Except Skipped CniNetwork :=
  match loadConfList libcni confFile with
  | .error skipped => .error skipped
  | .ok confList =>
    if confList.plugins = [] then .error .noNetworks
    else
      match libcni.validateNetworkList binDirs confList with
      | .error err => .error (.notValidated err)
      | .ok caps => .ok { name := confList.name, networkConfig := confList, cniConfig := binDirs, capabilities := caps }

/-- The network of the first of the files that has one. -/
def firstNetwork (libcni : Libcni) (confDir : Text) (binDirs : List Text) : (files : List Text) → Except GoError CniNetwork
  | [] => .error (.text ("no valid networks found in " ++ confDir))
  | confFile :: files =>
    match loadNetwork libcni binDirs confFile with
    | .error _ => firstNetwork libcni confDir binDirs files
    | .ok network => .ok network

def getDefaultCNINetwork (confDir : Text) (binDirs : List Text) (d : ConfDir) : Except GoError CniNetwork :=
  match confFiles confDir [".conf", ".conflist", ".json"] d with
  | .error err => .error err
  | .ok [] => .error (.text ("no networks found in " ++ confDir))
  | .ok files => firstNetwork d.libcni confDir binDirs (files.insertionSort (Store.nameLE · ·))

/-! ### The plugin -/

structure CniNetworkPlugin where
  confDir : Text
  binDirs : List Text
  defaultNetwork : Option CniNetwork
  deriving DecidableEq

def CniNetworkPlugin.setDefaultNetwork (n : CniNetwork) (plugin : CniNetworkPlugin) : CniNetworkPlugin :=
  { plugin with defaultNetwork := some n }

/-- When there is no network to be found the old one is kept. -/
def syncNetworkConfig (d : ConfDir) (plugin : CniNetworkPlugin) : CniNetworkPlugin :=
  match getDefaultCNINetwork plugin.confDir plugin.binDirs d with
  | .error _ => plugin
  | .ok network => plugin.setDefaultNetwork network

/-- A plugin that has synced with each of the directories, from the first one on. -/
def synced (confDir : Text) (binDirs : List Text) (seen : List ConfDir) : CniNetworkPlugin :=
  seen.foldl (fun plugin d => syncNetworkConfig d plugin)
    { confDir, binDirs := binDirs.filter (· ≠ []), defaultNetwork := none }

end CriDockerd.Cni
