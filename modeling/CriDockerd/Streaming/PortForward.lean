import Mathlib.Logic.Function.Basic
import CriDockerd.Errors
import CriDockerd.Lib.Strconv

/-! Port forwarding over a connection with streams (`streaming/portforward/httpstream.go`). A request has two streams, one for
    data and one for errors, which come in any order, together with those of other requests. The main loop of the handler pairs
    them, a goroutine for each pair waits for the second stream or for a timeout, and another one forwards a pair that is
    complete. A step is what one of these does under a lock, or with what is its own; they make their steps in any order. -/

namespace CriDockerd.Streaming.PortForward
open Text

/-! ### Streams -/

def portHeader : Text := "port"

def streamTypeHeader : Text := "streamType"

def streamTypeError : Text := "error"

def streamTypeData : Text := "data"

/-- `httpstream.Stream`, with the headers that are asked for; one that is missing is empty. -/
structure Stream where
  identifier : UInt32
  port : Text
  streamType : Text
  requestID : Text
  deriving DecidableEq, Repr

/-- The message of a `strconv.NumError` of `ParseUint`. -/
def parseUintError (s : Text) (err : Strconv.NumError) : Text :=
  "strconv.ParseUint: parsing " ++ quote s ++ ": " ++ err.message

/-- The check of a new stream; without an error the stream is sent to the channel. -/
def httpStreamReceived (stream : Stream) : Option GoError :=
  if stream.port = [] then some (.text (quote portHeader ++ " header is required"))
  else match Strconv.parseUint 65535 stream.port with
    | .error err =>
      some (.text ("unable to parse " ++ quote stream.port ++ " as a port: " ++ parseUintError stream.port err))
    | .ok port =>
      if port < 1 then some (.text ("port " ++ quote stream.port ++ " must be > 0"))
      else if stream.streamType = [] then some (.text (quote streamTypeHeader ++ " header is required"))
      else if stream.streamType ≠ streamTypeError ∧ stream.streamType ≠ streamTypeData then
        some (.text ("invalid stream type " ++ quote stream.streamType))
      else none

/-- The request of a stream. Older clients send no request ID, and open the stream for errors just before the one for data;
    identifiers of streams are odd. -/
def requestID (stream : Stream) : Text :=
  if stream.requestID ≠ [] then stream.requestID
  else if stream.streamType = streamTypeError then itoa stream.identifier.toNat
  else if stream.streamType = streamTypeData then itoa ((stream.identifier.toNat : Int) - 2)
  else []

/-! ### Pairs -/

/-- `httpStreamPair`; `complete` tells whether the channel of this name is closed. -/
structure StreamPair where
  requestID : Text
  dataStream : Option Stream
  errorStream : Option Stream
  complete : Bool
  deriving DecidableEq, Repr

def newPortForwardPair (requestID : Text) : StreamPair := { requestID, dataStream := none, errorStream := none, complete := false }

namespace StreamPair

/-- The end of `add`. To close a channel again is a panic. -/
def checkComplete (p : StreamPair) : Outcome GoError Bool × StreamPair :=
  if p.errorStream ≠ none ∧ p.dataStream ≠ none then
    if p.complete then (.panic, p) else (.ok true, { p with complete := true })
  else (.ok false, p)

def add (stream : Stream) (p : StreamPair) : Outcome GoError Bool × StreamPair :=
  if stream.streamType = streamTypeError then
    if p.errorStream ≠ none then (.error (.text "error stream already assigned"), p)
    else { p with errorStream := some stream }.checkComplete
  else if stream.streamType = streamTypeData then
    if p.dataStream ≠ none then (.error (.text "data stream already assigned"), p)
    else { p with dataStream := some stream }.checkComplete
  else p.checkComplete

end StreamPair

/-! ### The handler -/

/-- What is seen of the handler: streams that are accepted, and what becomes of them; the calls of the forwarder, with the
    pair that they are for; what is written to a stream, and the streams that are closed. -/
inductive Event where
  | accepted (stream : Stream)
  | assigned (pair : Nat) (stream : Stream)
  | refused (pair : Nat) (stream : Stream)
  | invoked (pair : Nat) (port : Int) (stream : Stream)
  | wrote (stream : Stream) (msg : Text)
  | closed (stream : Stream)
  deriving DecidableEq, Repr

/-- Where the main loop is: it waits, it has a stream, it has the pair for the stream, or it has to tell why the pair does not
    take it. -/
inductive Loop where
  | select
  | received (stream : Stream)
  | add (stream : Stream) (pair : Nat)
  | failed (pair : Nat) (msg : Text)
  | done
  deriving DecidableEq, Repr

inductive MonitorPhase where
  | waiting
  | timedOut
  | leaving
  deriving DecidableEq, Repr

/-- `monitorStreamPair`. -/
structure Monitor where
  pair : Nat
  phase : MonitorPhase
  deriving DecidableEq, Repr

inductive ForwardPhase where
  | starting
  | forwarding (port : Int)
  | closingError
  | closingData
  deriving DecidableEq, Repr

/-- `portForward`. -/
structure Forward where
  pair : Nat
  phase : ForwardPhase
  deriving DecidableEq, Repr

/-- What is fixed in a handler; the connection as it is printed. -/
structure Handler where
  conn : Text
  pod : Text
  uid : Text

/-- `httpStreamHandler` with the pairs that its map points to, and the goroutines. The history is newest first. -/
structure System where
  streamChan : List Stream
  streamPairs : Text → Option Nat
  pairs : Nat → StreamPair
  nextPair : Nat
  loop : Loop
  monitors : List Monitor
  forwards : List Forward
  history : List Event
  panicked : Bool

def System.initial : System :=
  { streamChan := [], streamPairs := fun _ => none, pairs := fun _ => newPortForwardPair [], nextPair := 0, loop := .select,
    monitors := [], forwards := [], history := [], panicked := false }

namespace System

def record (e : Event) (s : System) : System := { s with history := e :: s.history }

def printError (pair : Nat) (msg : Text) (s : System) : System :=
  match (s.pairs pair).errorStream with
  | none => s
  | some stream => s.record (.wrote stream msg)

def getStreamPair (requestID : Text) (s : System) : (Nat × Bool) × System :=
  match s.streamPairs requestID with
  | some p => ((p, false), s)
  | none =>
    ((s.nextPair, true),
      { s with streamPairs := Function.update s.streamPairs requestID (some s.nextPair),
               pairs := Function.update s.pairs s.nextPair (newPortForwardPair requestID), nextPair := s.nextPair + 1 })

def removeStreamPair (requestID : Text) (s : System) : System :=
  { s with streamPairs := Function.update s.streamPairs requestID none }

/-- A monitor in another phase. -/
def moveMonitor (m : Monitor) (phase : MonitorPhase) (s : System) : System :=
  { s with monitors := { m with phase } :: s.monitors.erase m }

def moveForward (f : Forward) (phase : ForwardPhase) (s : System) : System :=
  { s with forwards := { f with phase } :: s.forwards.erase f }

end System

/-! ### Steps -/

inductive Step where
  | arrive (stream : Stream)
  | closeConn
  | receive
  | getStreamPair
  | add
  | printError
  | timeout (m : Monitor)
  | printTimeout (m : Monitor)
  | complete (m : Monitor)
  | remove (m : Monitor)
  | invoke (f : Forward)
  | forwarded (f : Forward) (err : Option GoError)
  | closeError (f : Forward)
  | closeData (f : Forward)
  deriving DecidableEq

def addError (requestID : Text) (err : GoError) : Text :=
  "error processing stream for request " ++ requestID ++ ": " ++ err.error

def timeoutError (h : Handler) (requestID : Text) : Text :=
  "(conn=" ++ h.conn ++ ", request=" ++ requestID ++ ") timed out waiting for streams"

def forwardError (h : Handler) (port : Int) (err : GoError) : Text :=
  "error forwarding port " ++ itoa port ++ " to pod " ++ h.pod ++ ", uid " ++ h.uid ++ ": " ++ err.error

/-- The loop has looked the pair of a stream up; a new pair gets a monitor. -/
def System.lookUp (stream : Stream) (s : System) : System :=
  match s.getStreamPair (requestID stream) with
  | ((p, created), s) =>
    { s with loop := .add stream p, monitors := if created then ⟨p, .waiting⟩ :: s.monitors else s.monitors }

/-- The loop adds a stream to its pair; a pair that is complete is forwarded. -/
def System.addStream (stream : Stream) (p : Nat) (s : System) : System :=
  match (s.pairs p).add stream with
  | (.panic, _) => { s with panicked := true }
  | (.error err, _) => { s with loop := .failed p (addError (requestID stream) err) }.record (.refused p stream)
  | (.ok complete, pair) =>
    { s with pairs := Function.update s.pairs p pair, loop := .select,
             forwards := if complete then ⟨p, .starting⟩ :: s.forwards else s.forwards }.record (.assigned p stream)

/-- The forwarder is called with the port of the data stream; the error of its parsing is not looked at. -/
def System.invokeForwarder (f : Forward) (s : System) : System :=
  match (s.pairs f.pair).dataStream with
  | none => { s with panicked := true }
  | some data =>
    let port := (Strconv.parseInt 2147483648 data.port).1
    (s.moveForward f (.forwarding port)).record (.invoked f.pair port data)

/-- The end of a call of the forwarder; its error is written to the error stream. -/
def System.forwarderReturns (h : Handler) (f : Forward) (port : Int) (err : Option GoError) (s : System) : System :=
  match err, (s.pairs f.pair).errorStream with
  | none, _ => s.moveForward f .closingError
  | some _, none => { s with panicked := true }
  | some err, some stream => (s.moveForward f .closingError).record (.wrote stream (forwardError h port err))

/-- A step; one that cannot be made changes nothing. The channel holds one stream. -/
def Step.run (h : Handler) : Step → System → System
  | .arrive stream, s =>
    if httpStreamReceived stream = none ∧ s.streamChan.length < 1 then
      { s with streamChan := s.streamChan ++ [stream] }.record (.accepted stream)
    else s
  | .closeConn, s => if s.loop = .select then { s with loop := .done } else s
  | .receive, s =>
    match s.loop, s.streamChan with
    | .select, stream :: rest => { s with loop := .received stream, streamChan := rest }
    | _, _ => s
  | .getStreamPair, s =>
    match s.loop with
    | .received stream => s.lookUp stream
    | _ => s
  | .add, s =>
    match s.loop with
    | .add stream p => s.addStream stream p
    | _ => s
  | .printError, s =>
    match s.loop with
    | .failed p msg => { s.printError p msg with loop := .select }
    | _ => s
  | .timeout m, s => if m ∈ s.monitors ∧ m.phase = .waiting then s.moveMonitor m .timedOut else s
  | .printTimeout m, s =>
    if m ∈ s.monitors ∧ m.phase = .timedOut then
      (s.moveMonitor m .leaving).printError m.pair (timeoutError h (s.pairs m.pair).requestID)
    else s
  | .complete m, s =>
    if m ∈ s.monitors ∧ m.phase = .waiting ∧ (s.pairs m.pair).complete = true then s.moveMonitor m .leaving else s
  | .remove m, s =>
    if m ∈ s.monitors ∧ m.phase = .leaving then
      { s with monitors := s.monitors.erase m }.removeStreamPair (s.pairs m.pair).requestID
    else s
  | .invoke f, s => if f ∈ s.forwards ∧ f.phase = .starting then s.invokeForwarder f else s
  | .forwarded f err, s =>
    match f.phase with
    | .forwarding port => if f ∈ s.forwards then s.forwarderReturns h f port err else s
    | _ => s
  | .closeError f, s =>
    match (s.pairs f.pair).errorStream with
    | some stream =>
      if f ∈ s.forwards ∧ f.phase = .closingError then (s.moveForward f .closingData).record (.closed stream) else s
    | none => if f ∈ s.forwards ∧ f.phase = .closingError then { s with panicked := true } else s
  | .closeData f, s =>
    match (s.pairs f.pair).dataStream with
    | some stream =>
      if f ∈ s.forwards ∧ f.phase = .closingData then { s with forwards := s.forwards.erase f }.record (.closed stream) else s
    | none => if f ∈ s.forwards ∧ f.phase = .closingData then { s with panicked := true } else s

/-- The steps one after the other; after a panic there are none. -/
def runAll (h : Handler) : List Step → System → System
  | [], s => s
  | step :: steps, s => if s.panicked then s else runAll h steps (step.run h s)

end CriDockerd.Streaming.PortForward
