import Mathlib.Logic.Function.Basic
import CriDockerd.Errors
import CriDockerd.Lib.Digest

/-! The cache of streaming requests (`streaming/request_cache.go`): a map from tokens to the elements of a list
    that is kept in the order of age. Its operations run under a lock. Times are in nanoseconds, as the clock
    tells them. -/

namespace CriDockerd.Streaming
open Text

/-- An error with a code of grpc, as it is printed. -/
def statusError (code msg : String) : GoError :=
  .text ("rpc error: code = " ++ code.toList ++ " desc = " ++ msg.toList)

def newErrorTooManyInFlight : GoError := statusError "ResourceExhausted" "maximum number of in-flight requests exceeded"

def cacheTTL : Nat := 60000000000

def maxInFlight : Nat := 1000

def tokenLen : Nat := 8

/-- An element of the list, with the entry that it holds. Two elements are told apart by their addresses. -/
structure Element (R : Type) where
  address : Nat
  token : Text
  req : R
  expireTime : Nat
  deriving DecidableEq, Repr

/-- The list has the newest element at its front. -/
structure RequestCache (R : Type) where
  tokens : Text → Option (Element R)
  ll : List (Element R)
  nextAddress : Nat

section
variable {R : Type}

def newRequestCache : RequestCache R := { tokens := fun _ => none, ll := [], nextAddress := 0 }

/-- The bytes that a token of the full length takes. -/
def tokenSize : Nat := (tokenLen * 6 + 7) / 8

/-- The bytes that the source of randomness gives, or its failure. -/
abbrev Draw := Except GoError (Fin tokenSize → UInt8)

def maxTries : Nat := 10

namespace RequestCache

/-- The loop of the garbage collection, from the back of the list. -/
def gcLoop (now : Nat) : List (Element R) → (Text → Option (Element R)) → List (Element R) × (Text → Option (Element R))
  | [], tokens => ([], tokens)
  | oldest :: rest, tokens =>
    if ¬ oldest.expireTime < now then (oldest :: rest, tokens)
    else gcLoop now rest (Function.update tokens oldest.token none)

/-- Removes expired entries. -/
def gc (now : Nat) (c : RequestCache R) : RequestCache R :=
  { c with
    ll := (gcLoop now c.ll.reverse c.tokens).1.reverse
    tokens := (gcLoop now c.ll.reverse c.tokens).2 }

/-- The tries that are left, and the draws for them. The map is asked for the encoded string, not for the
    token that is cut from it. -/
def uniqueTokenLoop (tokens : Text → Option (Element R)) (draws : Nat → Draw) : Nat → Except GoError Text
  | 0 => .error (.text "failed to generate unique token")
  | tries + 1 =>
    match draws (maxTries - (tries + 1)) with
    | .error err => .error err
    | .ok rawToken =>
      let encoded := Digest.rawURLBase64 (List.ofFn rawToken)
      let token := encoded.take tokenLen
      if tokens encoded = none then .ok token else uniqueTokenLoop tokens draws tries

def uniqueToken (draws : Nat → Draw) (c : RequestCache R) : Except GoError Text :=
  uniqueTokenLoop c.tokens draws maxTries

/-- `PushFront` of a new element, and the entry of the map. -/
def push (token : Text) (req : R) (expireTime : Nat) (c : RequestCache R) : RequestCache R :=
  let ele := { address := c.nextAddress, token, req, expireTime }
  { tokens := Function.update c.tokens token (some ele), ll := ele :: c.ll, nextAddress := c.nextAddress + 1 }

/-- The clock is read for the garbage collection, and again for the new entry. -/
def insert (req : R) (gcTime now : Nat) (draws : Nat → Draw) (c : RequestCache R) : Except GoError Text × RequestCache R :=
  let c := c.gc gcTime
  if c.ll.length = maxInFlight then (.error newErrorTooManyInFlight, c)
  else match c.uniqueToken draws with
    | .error err => (.error err, c)
    | .ok token => (.ok token, c.push token req (now + cacheTTL))

/-- Takes an element out of the list, and its token out of the map. -/
def remove (token : Text) (ele : Element R) (c : RequestCache R) : RequestCache R :=
  { c with ll := c.ll.filter (·.address ≠ ele.address), tokens := Function.update c.tokens token none }

/-- Takes a token out of the cache; its request, unless the entry has expired. -/
def consume (token : Text) (now : Nat) (c : RequestCache R) : Option R × RequestCache R :=
  match c.tokens token with
  | none => (none, c)
  | some ele => (if ele.expireTime < now then none else some ele.req, c.remove token ele)

end RequestCache

end

end CriDockerd.Streaming
