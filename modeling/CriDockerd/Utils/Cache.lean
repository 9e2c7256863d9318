import CriDockerd.Errors

/-! Memoized function calls (`utils/cache.go`). The clock is read at every call of `time.Now` and `time.Since`; a reading is the
    number of nanoseconds since 1970. -/

namespace CriDockerd.Utils

/-- The zero `time.Time`, which is the start of year 1, in nanoseconds since 1970. -/
def zeroTime : Int := -62135596800000000000

def maxDuration : Int := 9223372036854775807

def minDuration : Int := -9223372036854775808

/-- `Sub` of times: a `time.Duration`, which is an `int64`; what is out of its range is cut to the nearest. -/
def timeSub (t u : Int) : Int64 := Int64.ofInt (max minDuration (min maxDuration (t - u)))

/-- A value of type `interface{}`; nil is `none`. -/
abbrev Value (α : Type) := Option α

structure Entry (α : Type) where
  value : Value α
  generated : Int
  lastTimeTaken : Int64

/-- `&entry{}`. -/
def Entry.zero {α : Type} : Entry α := { value := none, generated := zeroTime, lastTimeTaken := 0 }

structure Cache (α : Type) where
  items : Text → Option (Entry α)

/-- A call of `Memoize`, with what its function returns if it is run, and the readings of the clock: for the age of the entry,
    before the run, after it, and for the time that it took. -/
structure MemoizeCall (α : Type) where
  key : Text
  minTTL : Int64
  fn : Value α × Option GoError
  now : Nat
  start : Nat
  generated : Nat
  taken : Nat
  now_le : now ≤ start
  start_le : start ≤ generated
  generated_le : generated ≤ taken

/-- What a call returns, and whether it ran its function. -/
structure MemoizeResult (α : Type) where
  value : Value α
  err : Option GoError
  ran : Bool

section
variable {α : Type}

namespace Cache
variable (c : Cache α)

/-- The zero Cache is ready for use. -/
def zero : Cache α := { items := fun _ => none }

def store (key : Text) (e : Entry α) : Cache α := { items := Function.update c.items key (some e) }

/-- `LoadOrStore` with an empty entry. -/
def getEntry (key : Text) : Entry α × Cache α :=
  match c.items key with
  | some e => (e, c)
  | none => (.zero, c.store key .zero)

def memoize (call : MemoizeCall α) : MemoizeResult α × Cache α :=
  let e := (c.getEntry call.key).1
  let c := (c.getEntry call.key).2
  if timeSub call.now e.generated < call.minTTL + e.lastTimeTaken then
    -- Cache hit!
    (⟨e.value, none, false⟩, c)
  else
    match call.fn with
    | (v, none) =>
      (⟨v, none, true⟩,
        c.store call.key { value := v, generated := call.generated, lastTimeTaken := timeSub call.taken call.start })
    | (v, some err) => (⟨v, some err, true⟩, c)

/-- The calls one after the other, with what they return. -/
def memoizeAll : Cache α → List (MemoizeCall α) → List (MemoizeCall α × MemoizeResult α)
  | _, [] => []
  | c, call :: calls => (call, (c.memoize call).1) :: memoizeAll (c.memoize call).2 calls

end Cache

end

end CriDockerd.Utils
