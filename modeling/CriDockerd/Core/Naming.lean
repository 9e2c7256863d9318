import CriDockerd.Core.Checkpoint
import CriDockerd.Lib.Strconv

/-! The Docker names of sandboxes (`core/naming.go`): the metadata of a sandbox joined by underscores. -/

namespace CriDockerd.Core
open Text

def kubePrefix : Text := "k8s"

def sandboxContainerName : Text := "POD"

def nameDelimiter : Char := '_'

def makeSandboxName (s : PodSandboxConfig) : Text :=
  join [nameDelimiter] [kubePrefix, sandboxContainerName, s.metadata.name, s.metadata.namespace_, s.metadata.uid,
    itoa s.metadata.attempt]

/-- The eight hexadecimal digits of a random `uint32`. -/
def randomSuffix (random : UInt32) : Text :=
  let digits := Nat.toDigits 16 random.toNat
  List.replicate (8 - digits.length) '0' ++ digits

def randomizeName (name : Text) (random : UInt32) : Text := join [nameDelimiter] [name, randomSuffix random]

/-- `strconv.ParseUint` for base 10 and 32 bits. -/
def parseUint32 (s : Text) : Except GoError Nat :=
  (Strconv.parseUint 4294967295 s).mapError fun err =>
    .text ("strconv.ParseUint: parsing " ++ quote s ++ ": " ++ err.message)

def parseSandboxName (name : Text) : Except GoError PodSandboxMetadata :=
  let name := trimPrefix name ['/']
  -- A random suffix is tolerated.
  match split name nameDelimiter with
  | p₀ :: _ :: p₂ :: p₃ :: p₄ :: p₅ :: rest =>
    if 1 < rest.length then .error (.text ("failed to parse the sandbox name: " ++ quote name))
    else if p₀ ≠ kubePrefix then .error (.text ("container is not managed by kubernetes: " ++ quote name))
    else match parseUint32 p₅ with
      | .error err =>
        .error (.text ("failed to parse the sandbox name " ++ quote name ++ ": " ++ err.error))
      | .ok attempt => .ok { name := p₂, namespace_ := p₃, uid := p₄, attempt }
  | _ => .error (.text ("failed to parse the sandbox name: " ++ quote name))

end CriDockerd.Core
