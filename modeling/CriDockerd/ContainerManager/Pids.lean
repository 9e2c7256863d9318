import CriDockerd.Errors
import CriDockerd.Lib.Strconv

/-! The processes of the Docker daemon (`containermanager/helpers_linux.go`): their IDs are read from a file, or looked up by
    the name of the process. -/

namespace CriDockerd.ContainerManager
open Text

/-- The file system and `/proc`: the bytes of a file that can be opened, an error of the call that reads them, and the answer
    of `procfs.PidOf`. -/
structure ProcEnv where
  openFile : Text → Except GoError (List UInt8)
  readFault : Text → Option GoError
  pidOf : Text → Except GoError (List Int)

/-- `string(data)`, with one character for each byte. -/
def string (data : List UInt8) : Text := data.map fun b => Char.ofNat b.toNat

/-- `Read` into a buffer of zeros: bytes that are not read stay zero. At the end of the file nothing is read. -/
def read (content : List UInt8) (size : Nat) : Except GoError (List UInt8) :=
  if content = [] then .error (.text "EOF")
  else .ok (content.take size ++ List.replicate (size - content.length) 0)

def getPidFromPidFile (env : ProcEnv) (pidFile : Text) : Except GoError Int :=
  match env.openFile pidFile with
  | .error err => .error (.text ("error opening pid file " ++ pidFile ++ ": " ++ err.error))
  | .ok content =>
    match (env.readFault pidFile).elim (read content 1024) .error with
    | .error err => .error (.text ("error reading pid file " ++ pidFile ++ ": " ++ err.error))
    | .ok data =>
      -- The whole buffer is taken for the number, not only what was read.
      match Strconv.atoi (string data) with
      | .error err =>
        .error (.text ("error parsing " ++ string data ++ " as a number: strconv.Atoi: parsing " ++
          quote (string data) ++ ": " ++ err.message))
      | .ok pid => .ok pid

/-- The IDs, and the names that were looked up for them. -/
def getPidsForProcess (env : ProcEnv) (name pidFile : Text) : Except GoError (List Int) × List Text :=
  if pidFile.length = 0 then (env.pidOf name, [name])
  else
    match getPidFromPidFile env pidFile with
    | .ok pid => (.ok [pid], [])
    | .error err =>
      -- Try to lookup pid by process name
      match env.pidOf name with
      | .ok pids => (.ok pids, [name])
      -- Return error from getPidFromPidFile since that should have worked
      | .error _ => (.error err, [name])

end CriDockerd.ContainerManager
