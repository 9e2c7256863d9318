import Mathlib.Data.List.AList
import Mathlib.Data.List.Sort
import CriDockerd.Lib.Paths
import CriDockerd.Store.Checkpoints

/-! The store on files (`store/filestore.go`) over a file system (`store/filesystem.go`). A value is written
    to a temporary file of the directory, which is renamed to the key at the end; what goes wrong on the way
    is cleaned up by a deferred function. Every call of the file system may fail, and then changes nothing. -/

namespace CriDockerd.Store
open Text Paths

abbrev Bytes := List UInt8

/-! ### The file system -/

inductive Node where
  | file (data : Bytes)
  | directory
  deriving DecidableEq, Repr

/-- What is there by the names on the way to it, and the places that calls were made on, the last first. -/
structure Filesystem where
  nodes : AList fun _ : List Text => Node
  touched : List (List Text)

namespace Filesystem

def node (fs : Filesystem) (place : List Text) : Option Node := fs.nodes.lookup place

def touch (fs : Filesystem) (place : List Text) : Filesystem := { fs with touched := place :: fs.touched }

def set (fs : Filesystem) (place : List Text) (node : Node) : Filesystem := { fs with nodes := fs.nodes.insert place node }

def drop (fs : Filesystem) (place : List Text) : Filesystem := { fs with nodes := fs.nodes.erase place }

/-- The names of the entries of a directory. -/
def names (fs : Filesystem) (place : List Text) : List Text :=
  fs.nodes.keys.filterMap fun p => if p.dropLast = place then p.getLast? else none

end Filesystem

/-- The order of names: by their characters. -/
def nameLE : Text → Text → Bool
  | [], _ => true
  | _ :: _, [] => false
  | c :: cs, d :: ds => decide (c.toNat < d.toNat) || (c == d && nameLE cs ds)

section
variable {a b c : Text}

theorem nameLE_refl (name : Text) : nameLE name name = true := by
  induction name with
  | nil => rfl
  | cons c cs ih => simp [nameLE, ih]

theorem nameLE_total (a b : Text) : nameLE a b = true ∨ nameLE b a = true := by
  induction a generalizing b with
  | nil => exact .inl (by cases b <;> rfl)
  | cons x a ih =>
    cases b with
    | nil => exact .inr rfl
    | cons y b =>
      simp only [nameLE, Bool.or_eq_true, decide_eq_true_eq, Bool.and_eq_true, beq_iff_eq]
      rcases Nat.lt_trichotomy x.toNat y.toNat with hlt | heq | hgt
      · exact .inl (.inl hlt)
      · have heq : x = y := Char.toNat_inj.mp heq
        rcases ih b with hle | hle
        · exact .inl (.inr ⟨heq, hle⟩)
        · exact .inr (.inr ⟨heq.symm, hle⟩)
      · exact .inr (.inl hgt)

theorem nameLE_trans (hab : nameLE a b = true) (hbc : nameLE b c = true) : nameLE a c = true := by
  induction a generalizing b c with
  | nil => cases c <;> rfl
  | cons x a ih =>
    cases b with
    | nil => cases hab
    | cons y b =>
      cases c with
      | nil => cases hbc
      | cons z c =>
        simp only [nameLE, Bool.or_eq_true, decide_eq_true_eq, Bool.and_eq_true, beq_iff_eq] at hab hbc ⊢
        rcases hab with hlt | ⟨rfl, hle⟩ <;> rcases hbc with hlt' | ⟨rfl, hle'⟩
        · exact .inl (Nat.lt_trans hlt hlt')
        · exact .inl hlt
        · exact .inl hlt'
        · exact .inr ⟨rfl, ih hle hle'⟩

theorem nameLE_antisymm (hab : nameLE a b = true) (hba : nameLE b a = true) : a = b := by
  induction a generalizing b with
  | nil =>
    cases b with
    | nil => rfl
    | cons y b => cases hba
  | cons x a ih =>
    cases b with
    | nil => cases hab
    | cons y b =>
      simp only [nameLE, Bool.or_eq_true, decide_eq_true_eq, Bool.and_eq_true, beq_iff_eq] at hab hba
      rcases hab with hlt | ⟨rfl, hle⟩
      · rcases hba with hlt' | ⟨rfl, -⟩ <;> omega
      · rcases hba with hlt' | ⟨-, hle'⟩
        · omega
        · rw [ih hle hle']

theorem nameLE_append_left (p : Text) : nameLE (p ++ a) (p ++ b) = nameLE a b := by
  induction p with
  | nil => rfl
  | cons x p ih => simp [nameLE, ih]

end

def pathError (op path reason : Text) : FsError := .other (.text (op ++ ' ' :: path ++ ':' :: ' ' :: reason))

section
-- What the operating system makes of a call that could succeed.
variable (fault : Option GoError)

def stat (path : Text) (fs : Filesystem) : Option FsError × Filesystem :=
  let fs := fs.touch (components path)
  match fault, fs.node (components path) with
  | some err, _ => (some (.other err), fs)
  | none, none => (some (.notExist "stat" path), fs)
  | none, some _ => (none, fs)

/-- Makes a directory and those above it that are missing. -/
def mkdirAll (path : Text) (fs : Filesystem) : Option FsError × Filesystem :=
  let fs := fs.touch (components path)
  match fault, fs.node (components path) with
  | some err, _ => (some (.other err), fs)
  | none, some .directory => (none, fs)
  | none, some (.file _) => (some (pathError "mkdir" path "not a directory"), fs)
  | none, none =>
    let missing := (components path).inits.filter fun place => place ≠ [] ∧ fs.node place = none
    if (components path).inits.any fun place => (fs.node place).any (· ≠ .directory) then
      (some (pathError "mkdir" path "not a directory"), fs)
    else (none, missing.foldl (fun fs place => (fs.set place .directory).touch place) fs)

def remove (path : Text) (fs : Filesystem) : Option FsError × Filesystem :=
  let fs := fs.touch (components path)
  match fault, fs.node (components path) with
  | some err, _ => (some (.other err), fs)
  | none, none => (some (.notExist "remove" path), fs)
  | none, some (.file _) => (none, fs.drop (components path))
  | none, some .directory =>
    if fs.names (components path) = [] then (none, fs.drop (components path))
    else (some (pathError "remove" path "directory not empty"), fs)

def rename (oldpath newpath : Text) (fs : Filesystem) : Option FsError × Filesystem :=
  let fs := (fs.touch (components oldpath)).touch (components newpath)
  match fault, fs.node (components oldpath), fs.node (components newpath) with
  | some err, _, _ => (some (.other err), fs)
  | none, none, _ => (some (.notExist "rename" oldpath), fs)
  | none, some _, some .directory => (some (pathError "rename" oldpath "file exists"), fs)
  | none, some node, _ => (none, (fs.drop (components oldpath)).set (components newpath) node)

def readFile (filename : Text) (fs : Filesystem) : Except FsError Bytes × Filesystem :=
  let fs := fs.touch (components filename)
  match fault, fs.node (components filename) with
  | some err, _ => (.error (.other err), fs)
  | none, none => (.error (.notExist "open" filename), fs)
  | none, some .directory => (.error (pathError "read" filename "is a directory"), fs)
  | none, some (.file data) => (.ok data, fs)

/-- The names of the entries in their order. -/
def readDir (dirname : Text) (fs : Filesystem) : Except FsError (List Text) × Filesystem :=
  let fs := fs.touch (components dirname)
  match fault, fs.node (components dirname) with
  | some err, _ => (.error (.other err), fs)
  | none, none => (.error (.notExist "open" dirname), fs)
  | none, some (.file _) => (.error (pathError "readdirent" dirname "not a directory"), fs)
  | none, some .directory => (.ok ((fs.names (components dirname)).insertionSort (nameLE · ·)), fs)

/-- Makes an empty file with a random number in its name; a name that is taken is an error in the end. -/
def tempFile (random : Nat) (dir pattern : Text) (fs : Filesystem) : Except FsError Text × Filesystem :=
  let name := (if dir.getLast? = some '/' then dir else dir ++ ['/']) ++ pattern ++ itoa random
  let fs := fs.touch (components name)
  match fault, fs.node (components dir), fs.node (components name) with
  | some err, _, _ => (.error (.other err), fs)
  | none, some .directory, none => (.ok name, fs.set (components name) (.file []))
  | none, some .directory, some _ => (.error (pathError "createtemp" (dir ++ '/' :: pattern ++ ['*']) "file exists"), fs)
  | none, some (.file _), _ => (.error (pathError "open" name "not a directory"), fs)
  | none, none, _ => (.error (.notExist "open" name), fs)

/-- Writes to the open file, behind what it holds. -/
def fileWrite (name : Text) (b : Bytes) (fs : Filesystem) : Option GoError × Filesystem :=
  match fault, fs.node (components name) with
  | some err, _ => (some err, fs)
  | none, some (.file old) => (none, fs.set (components name) (.file (old ++ b)))
  | none, _ => (none, fs)

end

/-! ### The store -/

/-- Name prefix for the temporary files. -/
def tmpPrefix : Text := "."

structure FileStore where
  directoryPath : Text
  deriving DecidableEq, Repr

/-- What the calls of a write meet; the file is closed in one of two places. -/
structure WriteEnv where
  stat : Option GoError
  mkdirAll : Option GoError
  tempFile : Option GoError
  random : Nat
  write : Option GoError
  sync : Option GoError
  close : Option GoError
  deferredClose : Option GoError
  rename : Option GoError
  remove : Option GoError
  deriving DecidableEq, Repr

def ensureDirectory (statErr mkdirErr : Option GoError) (path : Text) (fs : Filesystem) : Option FsError × Filesystem :=
  match stat statErr path fs with
  | (some _, fs) => mkdirAll mkdirErr path fs
  | (none, fs) => (none, fs)

def removePath (fault : Option GoError) (path : Text) (fs : Filesystem) : Option FsError × Filesystem :=
  match remove fault path fs with
  | (some err, fs) => if isNotExist err then (none, fs) else (some err, fs)
  | (none, fs) => (none, fs)

/-- `NewFileStore`. -/
def newFileStore (statErr mkdirErr : Option GoError) (path : Text) (fs : Filesystem) : Except FsError FileStore × Filesystem :=
  match ensureDirectory statErr mkdirErr path fs with
  | (some err, fs) => (.error err, fs)
  | (none, fs) => (.ok { directoryPath := path }, fs)

/-- `writeFile` from the write to the rename: its error, and whether the file is still to be closed. -/
def writeTemp (env : WriteEnv) (tmpPath path : Text) (data : Bytes) (fs : Filesystem) : Option GoError × Bool × Filesystem :=
  match fileWrite env.write tmpPath data fs with
  | (some err, fs) => (some err, true, fs)
  | (none, fs) =>
    match env.sync with
    | some err => (some err, true, fs)
    | none =>
      -- Closing the file before renaming.
      match env.close with
      | some err => (some err, false, fs)
      | none =>
        match rename env.rename tmpPath path fs with
        | (some err, fs) => (some err.toGoError, false, fs)
        | (none, fs) => (none, false, fs)

/-- The error of `writeFile` after the deferred function has closed the file. -/
def closeTemp (env : WriteEnv) (shouldClose : Bool) (retErr : Option GoError) : Option GoError :=
  match shouldClose, env.deferredClose, retErr with
  | true, some err, none => some (.text ("close error: " ++ err.error))
  | true, some err, some ret =>
    some (.text ("failed to close temp file after error " ++ ret.error ++ "; close error: " ++ err.error))
  | _, _, _ => retErr

def writeFile (env : WriteEnv) (path : Text) (data : Bytes) (fs : Filesystem) : Option GoError × Filesystem :=
  match tempFile env.tempFile env.random (dirOf path) tmpPrefix fs with
  | (.error err, fs) => (some err.toGoError, fs)
  | (.ok tmpPath, fs) =>
    match writeTemp env tmpPath path data fs with
    | (retErr, shouldClose, fs) =>
      match closeTemp env shouldClose retErr with
      | none => (none, fs)
      | some ret =>
        -- Clean up the temp file on error.
        if tmpPath = [] then (some ret, fs)
        else
          match removePath env.remove tmpPath fs with
          | (none, fs) => (some ret, fs)
          | (some err, fs) =>
            (some (.text ("failed to remove the temporary file (" ++ quote tmpPath ++ ") after error " ++ ret.error ++
              "; remove error: " ++ err.toGoError.error)), fs)

namespace FileStore
variable (f : FileStore)

def getPathByKey (key : Text) : Text := Paths.join f.directoryPath key

def write (env : WriteEnv) (key : Text) (data : Bytes) (fs : Filesystem) : Option StoreError × Filesystem :=
  match validateKey key with
  | some err => (some err, fs)
  | none =>
    match ensureDirectory env.stat env.mkdirAll f.directoryPath fs with
    | (some err, fs) => (some (.other err.toGoError), fs)
    | (none, fs) =>
      match writeFile env (f.getPathByKey key) data fs with
      | (err, fs) => (err.map .other, fs)

def read (fault : Option GoError) (key : Text) (fs : Filesystem) : Except StoreError Bytes × Filesystem :=
  match validateKey key with
  | some err => (.error err, fs)
  | none =>
    match readFile fault (f.getPathByKey key) fs with
    | (.error err, fs) => (.error (if isNotExist err then .errKeyNotFound else .other err.toGoError), fs)
    | (.ok bytes, fs) => (.ok bytes, fs)

def delete (fault : Option GoError) (key : Text) (fs : Filesystem) : Option StoreError × Filesystem :=
  match validateKey key with
  | some err => (some err, fs)
  | none =>
    match removePath fault (f.getPathByKey key) fs with
    | (err, fs) => (err.map fun err => .other err.toGoError, fs)

/-- All keys: the files that are not temporary. -/
def list (fault : Option GoError) (fs : Filesystem) : Except StoreError (List Text) × Filesystem :=
  match readDir fault f.directoryPath fs with
  | (.error err, fs) => (.error (.other err.toGoError), fs)
  | (.ok files, fs) => (.ok (files.filter fun name => !hasPrefix name tmpPrefix), fs)

end FileStore

end CriDockerd.Store
