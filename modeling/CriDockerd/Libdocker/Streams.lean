import CriDockerd.Core.Limiter

/-! The output of a container, from the daemon's answer to the writers of a request (`libdocker/kube_docker_client.go`). Of a
    container without a terminal the answer holds the two streams in frames, which `stdcopy.StdCopy` takes apart; that of a
    terminal is copied as it is. -/

namespace CriDockerd.Libdocker
open CriDockerd.Core (Writer)

/-! ### Readers -/

inductive ReadError where
  | eof
  | failed (err : GoError)
  deriving DecidableEq

/-- What a reader has ready: bytes, and the error that comes with the last of them. -/
structure Chunk where
  data : List UInt8
  err : Option ReadError := none
  deriving DecidableEq

/-- `io.Reader`: the chunks that are read one after the other. Behind them is the end. -/
abbrev Source := List Chunk

/-- A call of `Read` with room for `room` bytes. -/
def read (room : Nat) : Source → (List UInt8 × Option ReadError) × Source
  | [] => (([], some .eof), [])
  | c :: src =>
    if c.data.length ≤ room then ((c.data, c.err), src)
    else ((c.data.take room, none), { c with data := c.data.drop room } :: src)

/-! ### Frames -/

/-- The types of standard streams; the daemon's own errors come as the last of them. -/
inductive StdType where
  | stdin
  | stdout
  | stderr
  | systemerr
  deriving DecidableEq, Repr

def StdType.ofByte (b : UInt8) : Option StdType :=
  match b.toNat with
  | 0 => some .stdin
  | 1 => some .stdout
  | 2 => some .stderr
  | 3 => some .systemerr
  | _ => none

def StdType.toByte : StdType → UInt8
  | .stdin => 0
  | .stdout => 1
  | .stderr => 2
  | .systemerr => 3

def stdWriterPrefixLen : Nat := 8

def startingBufLen : Nat := 32 * 1024 + stdWriterPrefixLen + 1

/-- `binary.BigEndian.PutUint32`. -/
def putUint32 (n : Nat) : List UInt8 :=
  [UInt8.ofNat (n / 16777216), UInt8.ofNat (n / 65536), UInt8.ofNat (n / 256), UInt8.ofNat n]

/-- `binary.BigEndian.Uint32`. -/
def uint32 (bytes : List UInt8) : Nat := bytes.foldl (fun n b => n * 256 + b.toNat) 0

/-- What `stdWriter.Write` gives its writer: a header, and the bytes. -/
def stdWrite (stream : StdType) (p : List UInt8) : List UInt8 := stream.toByte :: [0, 0, 0] ++ putUint32 p.length ++ p

/-- The bytes of a message as a text; a byte is the character of its value. -/
def textOf (bytes : List UInt8) : Text := bytes.map fun b => Char.ofNat b.toNat

def errShortWrite : GoError := .text "short write"

def unrecognizedHeader (b : UInt8) : GoError := .text ("Unrecognized input header: " ++ Text.itoa b.toNat)

def systemError (msg : List UInt8) : GoError := .text ("error from daemon in stream: " ++ textOf msg)

/-! ### StdCopy -/

inductive Filled where
  | enough
  | short
  | failed (err : GoError)
  deriving DecidableEq

/-- Reads until `need` bytes are in the buffer. There is always room for them, so that no read follows one that fills the
    buffer. -/
def fill (bufLen need : Nat) (buf : List UInt8) : Source → Filled × List UInt8 × Source
  | [] => (if need ≤ buf.length then .enough else .short, buf, [])
  | c :: src =>
    if need ≤ buf.length then (.enough, buf, c :: src)
    else
      let room := bufLen - buf.length
      if c.data.length ≤ room then
        let buf := buf ++ c.data
        match c.err with
        | none => fill bufLen need buf src
        | some .eof => (if need ≤ buf.length then .enough else .short, buf, src)
        | some (.failed err) => (.failed err, buf, src)
      else (.enough, buf ++ c.data.take room, { c with data := c.data.drop room } :: src)

section
variable {σ : Type}

/-- A write that is to write all of the frame. -/
def writeFrame (out : Writer σ) (frame : List UInt8) (s : σ) : Option GoError × σ :=
  let r := out frame s
  (match r.1.2 with
    | some err => some err
    | none => if r.1.1 ≠ frame.length then some errShortWrite else none, r.2)

/-- `StdCopy` with the bytes `buf[:nr]` read, one frame in a round. What it returns are the bytes written and the error; `none`
    is for a source with more frames than rounds. -/
def stdCopyLoop (dstout dsterr : Writer σ) : (rounds bufLen : Nat) → (written : Nat) → (buf : List UInt8) → Source → σ →
    Option ((Nat × Option GoError) × σ)
  | 0, _, _, _, _, _ => none
  | rounds + 1, bufLen, written, buf, src, s =>
    match fill bufLen stdWriterPrefixLen buf src with
    | (.short, _, _) => some ((written, none), s)
    | (.failed err, _, _) => some ((0, some err), s)
    | (.enough, buf, src) =>
      match StdType.ofByte (buf.headD 0) with
      | none => some ((0, some (unrecognizedHeader (buf.headD 0))), s)
      | some stream =>
        let frameSize := uint32 ((buf.drop 4).take 4)
        let bufLen := if bufLen < frameSize + stdWriterPrefixLen then frameSize + stdWriterPrefixLen + 1 else bufLen
        match fill bufLen (frameSize + stdWriterPrefixLen) buf src with
        | (.short, _, _) => some ((written, none), s)
        | (.failed err, _, _) => some ((0, some err), s)
        | (.enough, buf, src) =>
          let frame := (buf.drop stdWriterPrefixLen).take frameSize
          if stream = .systemerr then some ((written, some (systemError frame)), s)
          else
            match writeFrame (if stream = .stderr then dsterr else dstout) frame s with
            | (some err, s) => some ((0, some err), s)
            | (none, s) =>
              stdCopyLoop dstout dsterr rounds bufLen (written + frameSize) (buf.drop (frameSize + stdWriterPrefixLen)) src s

/-- The bytes of all chunks. -/
def Source.size : Source → Nat
  | [] => 0
  | c :: src => c.data.length + Source.size src

/-- A frame takes at least the bytes of its header. -/
def stdCopy (dstout dsterr : Writer σ) (src : Source) (s : σ) : Option ((Nat × Option GoError) × σ) :=
  stdCopyLoop dstout dsterr (Source.size src + 1) startingBufLen 0 [] src s

/-! ### Copy -/

def errInvalidWrite : GoError := .text "invalid write result"

/-- The size of the buffer that `io.Copy` makes. -/
def copyBufLen : Nat := 32 * 1024

/-- `io.Copy`, a read and a write in a round. -/
def copyLoop (dst : Writer σ) : (rounds : Nat) → (written : Nat) → Source → σ → Option ((Nat × Option GoError) × σ)
  | 0, _, _, _ => none
  | rounds + 1, written, src, s =>
    let ((p, er), src) := read copyBufLen src
    let next (written : Nat) (s : σ) :=
      match er with
      | none => copyLoop dst rounds written src s
      | some .eof => some ((written, none), s)
      | some (.failed err) => some ((written, some err), s)
    if p.length = 0 then next written s
    else
      let r := dst p s
      let invalid := decide (r.1.1 < 0 ∨ p.length < r.1.1)
      let nw := if invalid then 0 else r.1.1.toNat
      let ew := if invalid ∧ r.1.2 = none then some errInvalidWrite else r.1.2
      match ew with
      | some err => some ((written + nw, some err), r.2)
      | none => if p.length ≠ nw then some ((written + nw, some errShortWrite), r.2) else next (written + nw) r.2

def copy (dst : Writer σ) (src : Source) (s : σ) : Option ((Nat × Option GoError) × σ) :=
  copyLoop dst (Source.size src + src.length + 1) 0 src s

/-! ### The streams of a request -/

/-- `io.Discard`. -/
def discard : Writer σ := fun p s => ((p.length, none), s)

/-- Where the output of a container goes; `none` for a stream that nobody wants. -/
structure StreamOptions (σ : Type) where
  rawTerminal : Bool
  outputStream : Option (Writer σ)
  errorStream : Option (Writer σ)

def redirectResponseToOutputStream (tty : Bool) (outputStream errorStream : Option (Writer σ)) (resp : Source) (s : σ) :
    Option (Option GoError × σ) :=
  let outputStream := outputStream.getD discard
  let errorStream := errorStream.getD discard
  let r := if tty then copy outputStream resp s else stdCopy outputStream errorStream resp s
  r.map fun r => (r.1.2, r.2)

end

end CriDockerd.Libdocker
