import CriDockerd.Errors

/-! Writers that share a limit (`core/helpers.go`). `GetContainerLogs` makes one for stdout and one for stderr when a request
    limits the bytes of its answer. The limit is an `int64` that is only lowered by bytes that were written under it, so that it
    never overflows, and is an integer here. -/

namespace CriDockerd.Core

/-- `io.Writer` over a state: the number of bytes that were written, and the error. -/
abbrev Writer (σ : Type) := List UInt8 → σ → (Int × Option GoError) × σ

def errMaximumWrite : GoError := .text "maximum write"

/-- The limit is behind a pointer, and part of the state. -/
structure SharedWriteLimiter (σ : Type) where
  delegate : Writer σ

/-- What a call returns, and the bytes that the delegate wrote of those that it was given. -/
structure WriteResult where
  n : Int
  err : Option GoError
  written : List UInt8
  deriving DecidableEq

section
variable {σ : Type}

def SharedWriteLimiter.write (w : SharedWriteLimiter σ) (p : List UInt8) (s : Int × σ) : WriteResult × Int × σ :=
  if p.length = 0 then (⟨0, none, []⟩, s)
  else
    let limit := s.1
    if limit ≤ 0 then (⟨0, some errMaximumWrite, []⟩, s)
    else
      let truncated := decide (limit < p.length)
      let p := if truncated then p.take limit.toNat else p
      let r := w.delegate p s.2
      let n := r.1.1
      let err := r.1.2
      (⟨n, if err = none ∧ truncated then some errMaximumWrite else err, p.take n.toNat⟩,
        if 0 < n then limit + -1 * n else limit, r.2)

def sharedLimitWriter (w : Option (Writer σ)) : Option (SharedWriteLimiter σ) :=
  match w with
  | none => none
  | some w => some { delegate := w }

/-- A call of one of the writers that `SharedLimitWriter` made for a limit. -/
structure WriteCall (σ : Type) where
  writer : SharedWriteLimiter σ
  made : ∃ w, sharedLimitWriter w = some writer
  p : List UInt8

/-- Calls one at a time. -/
def writeAll : List (WriteCall σ) → Int × σ → List WriteResult × Int × σ
  | [], s => ([], s)
  | c :: calls, s =>
    let r := c.writer.write c.p s
    let rest := writeAll calls r.2
    (r.1 :: rest.1, rest.2)

end

end CriDockerd.Core
