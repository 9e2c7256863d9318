import CriDockerd.Errors

/-! The store of checkpoints (`store`): a directory of files by key, and the manager that encodes and
    checks what it stores. A call meets at most one failure of the file system, which leaves the files as
    they are: data is written to a temporary file that is renamed at the end. -/

namespace CriDockerd.Store
open Text

/-- The errors of the package. `ErrKeyNotFound`, `ErrCheckpointNotFound` and `ErrCorruptCheckpoint` are
    values of their own, which no other error is equal to, whatever its text. -/
inductive StoreError where
  | errKeyNotFound
  | errCheckpointNotFound
  | errCorruptCheckpoint
  | other (err : GoError)
  deriving DecidableEq, Repr

def StoreError.error : StoreError → Text
  | .errKeyNotFound => "key is not found"
  | .errCheckpointNotFound => "checkpoint is not found"
  | .errCorruptCheckpoint => "checkpoint is corrupted"
  | .other err => err.error

/-! ### Keys -/

def keyMaxLength : Nat := 250

def isKeyChar (c : Char) : Bool := c.isAlphanum

def isKeyExtChar (c : Char) : Bool := isKeyChar c || c == '-' || c == '_' || c == '.'

/-- The key expression: it starts and ends with an alphanumeric character. -/
def keyRegex (key : Text) : Bool := key.all isKeyExtChar && key.head?.any isKeyChar && key.getLast?.any isKeyChar

def validateKey (key : Text) : Option StoreError :=
  if (utf8 key).length ≤ keyMaxLength ∧ keyRegex key then none
  else some (.other (.text ("invalid key: " ++ quote key)))

/-! ### Files -/

/-- The files of the directory, by key. -/
abbrev Dir (B : Type) := Text → Option B

section
variable {B : Type}

/-- Writes the data to a file; an error of the file system leaves the old one. -/
def write (fsErr : Option GoError) (key : Text) (data : B) (dir : Dir B) : Option StoreError × Dir B :=
  match validateKey key, fsErr with
  | some err, _ => (some err, dir)
  | none, some err => (some (.other err), dir)
  | none, none => (none, Function.update dir key (some data))

def read (fsErr : Option GoError) (key : Text) (dir : Dir B) : Except StoreError B :=
  match validateKey key, fsErr, dir key with
  | some err, _, _ => .error err
  | none, some err, _ => .error (.other err)
  | none, none, none => .error .errKeyNotFound
  | none, none, some data => .ok data

/-- Deletes a file; that there is none is no error. -/
def delete (fsErr : Option GoError) (key : Text) (dir : Dir B) : Option StoreError × Dir B :=
  match validateKey key, fsErr with
  | some err, _ => (some err, dir)
  | none, some err => (some (.other err), dir)
  | none, none => (none, Function.update dir key none)

end

/-! ### The manager -/

/-- The methods of the interface `Checkpoint`, for a type of checkpoints and one of encoded data. -/
structure Checkpoint (C B : Type) where
  marshalCheckpoint : C → Outcome GoError B
  unmarshalCheckpoint : C → B → Except GoError C
  verifyChecksum : C → Outcome GoError Unit

section
variable {C B : Type} (methods : Checkpoint C B)

def createCheckpoint (fsErr : Option GoError) (checkpointKey : Text) (checkpoint : C) (dir : Dir B) :
    Outcome StoreError Unit × Dir B :=
  match methods.marshalCheckpoint checkpoint with
  | .panic => (.panic, dir)
  | .error err => (.error (.other err), dir)
  | .ok blob =>
    match write fsErr checkpointKey blob dir with
    | (some err, dir) => (.error err, dir)
    | (none, dir) => (.ok (), dir)

/-- Reads a checkpoint into the given one. -/
def getCheckpoint (fsErr : Option GoError) (checkpointKey : Text) (checkpoint : C) (dir : Dir B) : Outcome StoreError C :=
  match read fsErr checkpointKey dir with
  | .error .errKeyNotFound => .error .errCheckpointNotFound
  | .error err => .error err
  | .ok blob =>
    match methods.unmarshalCheckpoint checkpoint blob with
    | .error err => .error (.other err)
    | .ok checkpoint =>
      match methods.verifyChecksum checkpoint with
      | .panic => .panic
      | .error err => .error (.other err)
      | .ok () => .ok checkpoint

def removeCheckpoint (fsErr : Option GoError) (checkpointKey : Text) (dir : Dir B) : Option StoreError × Dir B :=
  delete fsErr checkpointKey dir

end

end CriDockerd.Store
