import CriDockerd.Errors
import CriDockerd.Lib.Base64
import CriDockerd.Lib.Threads

/-! Port forwarding over a WebSocket (`streaming/portforward/websocket.go`, over the connections of apimachinery's
    `util/httpstream/wsstream`). Every port has two channels, for data and for errors; a message of the socket starts with the
    number of its channel. -/

namespace CriDockerd.Streaming.WebSocket
open Text

/-! ### The connection -/

inductive Codec where
  | raw
  | base64
  deriving DecidableEq, Repr

inductive ChannelType where
  | ignore
  | read
  | write
  | readWrite
  deriving DecidableEq, Repr

def ChannelType.canWrite : ChannelType → Bool
  | .write | .readWrite => true
  | .ignore | .read => false

structure Conn where
  codec : Codec
  channels : List ChannelType

/-- A message: the number of the channel is a byte, or the character of that byte and `'0'`. -/
def frame (codec : Codec) (num : UInt8) (data : List UInt8) : List UInt8 :=
  match codec with
  | .raw => num :: data
  | .base64 => String.utf8EncodeChar (Char.ofNat (48 + num).toNat) ++ Base64.encode data

/-- The messages of a write to a channel; its number is made a byte. -/
def Conn.write (conn : Conn) (channel : Nat) (data : List UInt8) : List (List UInt8) :=
  if conn.channels[channel]?.any ChannelType.canWrite then [frame conn.codec (UInt8.ofNat channel) data] else []

/-! ### The handler -/

/-- The `uint16` of a port, the low byte first. -/
def portBytes (port : Int) : List UInt8 :=
  [UInt8.ofNat (port % 65536).toNat, UInt8.ofNat ((port % 65536).toNat / 256)]

/-- The connection of a request: two channels for every port. -/
def portConn (codec : Codec) (ports : List Int) : Conn where
  codec
  channels := ports.flatMap fun _ => [.readWrite, .write]

/-- The messages of writes to channels. -/
def Conn.sent (conn : Conn) (writes : List (Nat × List UInt8)) : List (List UInt8) :=
  writes.flatMap fun w => conn.write w.1 w.2

/-- What is written first: the port to both of its channels. `i` is the number of the first port. -/
def announce : (i : Nat) → (ports : List Int) → List (Nat × List UInt8)
  | _, [] => []
  | i, port :: ports => (2 * i, portBytes port) :: (2 * i + 1, portBytes port) :: announce (i + 1) ports

/-- What the forwarder does with the data stream of a port: the data that it writes, one write after the other, and the
    error with which it ends. -/
structure Forward where
  data : List (List UInt8)
  err : Option GoError

structure StreamHandler where
  conn : Conn
  pod : Text
  uid : Text

/-- The bytes of the message for the error stream. -/
def StreamHandler.errorBytes (h : StreamHandler) (port : Int) (err : GoError) : List UInt8 :=
  utf8 ("error forwarding port " ++ itoa port ++ " to pod " ++ h.pod ++ ", uid " ++ h.uid ++ ": " ++
    err.error)

/-- A goroutine that makes these writes. -/
def Conn.writer (conn : Conn) : List (Nat × List UInt8) → Thread (List (List UInt8)) Unit
  | [] => .done ()
  | w :: rest => .step (· ++ conn.write w.1 w.2) fun _ => conn.writer rest

/-- The writes of `portForward` for the port with number `i`. -/
def StreamHandler.portForward (h : StreamHandler) (i : Nat) (port : Int) (f : Forward) : List (Nat × List UInt8) :=
  f.data.map (2 * i, ·) ++ (f.err.map fun err => (2 * i + 1, h.errorBytes port err)).toList

/-- The messages so far, and the goroutines of the ports. -/
def StreamHandler.run (h : StreamHandler) (sent : List (List UInt8)) (ports : List Int) (forward : Nat → Forward) :
    Thread.Pool (List (List UInt8)) Nat Unit where
  state := sent
  threads i := h.conn.writer (ports[i]?.elim [] fun port => h.portForward i port (forward i))

def handleWebSocketStreams (codec : Codec) (pod uid : Text) (ports : List Int) (forward : Nat → Forward) :
    Thread.Pool (List (List UInt8)) Nat Unit :=
  StreamHandler.run { conn := portConn codec ports, pod, uid } ((portConn codec ports).sent (announce 0 ports)) ports forward

end CriDockerd.Streaming.WebSocket
