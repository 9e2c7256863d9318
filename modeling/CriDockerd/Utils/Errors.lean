import CriDockerd.Lib.Text

/-! Aggregates of errors (`utils/errors/errors.go`), over any errors of other packages. A nil `error` is `none`. -/

namespace CriDockerd.Utilerrors
open Text

/-- A value of type `error`: one of another package that is no `Aggregate`, an `aggregate` of this package, or another
    implementation of `Aggregate`, with the errors that it holds. -/
inductive Err (ε : Type) where
  | leaf (err : ε)
  | aggregate (errs : List (Err ε))
  | foreign (err : ε) (errs : List (Err ε))
  deriving Repr

/-- The methods of the errors of other packages: their texts, and `errors.Is` on them for a target. -/
structure Methods (ε τ : Type) where
  error : ε → Text
  is : ε → τ → Bool

abbrev Matcher (ε : Type) := Err ε → Bool

variable {ε τ : Type}

namespace Err

/-- The type assertion to `Aggregate`, with the call of `Errors`. -/
def errors : Err ε → Option (List (Err ε))
  | .leaf _ => none
  | .aggregate errs => some errs
  | .foreign _ errs => some errs

/-- The errors that `visit` calls its function with, one after the other until it matches. -/
def visited : List (Err ε) → List (Err ε)
  | [] => []
  | .leaf err :: rest => .leaf err :: visited rest
  | .aggregate errs :: rest => visited errs ++ visited rest
  | .foreign _ errs :: rest => errs ++ visited rest

theorem sizeOf_lt_of_mem_visited {e : Err ε} {errs : List (Err ε)} (h : e ∈ visited errs) : sizeOf e < sizeOf errs := by
  induction errs using visited.induct with
  | case1 =>
    rw [visited] at h
    cases h
  | case2 err rest ih =>
    rw [visited, List.mem_cons] at h
    rw [List.cons.sizeOf_spec]
    rcases h with rfl | h
    · omega
    · have := ih h
      omega
  | case3 errs rest ih₁ ih₂ =>
    rw [visited, List.mem_append] at h
    rw [List.cons.sizeOf_spec, aggregate.sizeOf_spec]
    rcases h with h | h
    · have := ih₁ h
      omega
    · have := ih₂ h
      omega
  | case4 err errs rest ih =>
    rw [visited, List.mem_append] at h
    rw [List.cons.sizeOf_spec, foreign.sizeOf_spec]
    rcases h with h | h
    · have := List.sizeOf_lt_of_mem h
      omega
    · have := ih h
      omega

end Err

/-- The function of `Error` for one message: the messages so far and the text of them. -/
def addMessage (s : List Text × Text) (msg : Text) : List Text × Text :=
  if msg ∈ s.1 then s
  else (s.1 ++ [msg], (if 1 < (s.1 ++ [msg]).length then s.2 ++ ", " else s.2) ++ msg)

/-- The text for messages: one message as it is, several different ones in brackets, each once. -/
def messagesText (msgs : List Text) : Text :=
  let s := msgs.foldl addMessage ([], [])
  if s.1.length = 1 then s.2 else '[' :: s.2 ++ [']']

/-- `Error()`. -/
def Err.error (m : Methods ε τ) : Err ε → Text
  | .leaf err => m.error err
  | .foreign err _ => m.error err
  | .aggregate [] => []
  | .aggregate [err] => err.error m
  | .aggregate errs => messagesText ((Err.visited errs).attach.map fun ⟨e, _⟩ => e.error m)
termination_by e => sizeOf e
decreasing_by
  · rw [aggregate.sizeOf_spec, List.cons.sizeOf_spec]
    omega
  · rename_i h
    have := sizeOf_lt_of_mem_visited h
    rw [aggregate.sizeOf_spec]
    omega

/-- `errors.Is`: an `aggregate` is not comparable, so that its own `Is` decides. -/
def Err.is (m : Methods ε τ) (target : τ) : Err ε → Bool
  | .leaf err => m.is err target
  | .foreign err _ => m.is err target
  | .aggregate errs => (Err.visited errs).attach.any fun ⟨e, _⟩ => e.is m target
termination_by e => sizeOf e
decreasing_by
  rename_i h
  have := sizeOf_lt_of_mem_visited h
  rw [aggregate.sizeOf_spec]
  omega

/-- `NewAggregate`: nil when no error of the list is one. -/
def newAggregate (errlist : List (Option (Err ε))) : Option (Err ε) :=
  match errlist.filterMap id with
  | [] => none
  | errs => some (.aggregate errs)

/-! ### Filtering and flattening -/

/-- `matchesError` returns true if any `Matcher` returns true. -/
def matchesError (fns : List (Matcher ε)) (err : Err ε) : Bool := fns.any fun fn => fn err

mutual

/-- `FilterOut` of an error that is not nil. -/
def filterOutErr (fns : List (Matcher ε)) : Err ε → Option (Err ε)
  | .leaf err => if matchesError fns (.leaf err) then none else some (.leaf err)
  | .aggregate errs => newAggregate ((filterErrors fns errs).map some)
  | .foreign _ errs => newAggregate ((filterErrors fns errs).map some)

def filterErrors (fns : List (Matcher ε)) : List (Err ε) → List (Err ε)
  | [] => []
  | err :: rest => (filterOutErr fns err).toList ++ filterErrors fns rest

end

def filterOut (err : Option (Err ε)) (fns : List (Matcher ε)) : Option (Err ε) := err.bind (filterOutErr fns)

/-- The loop of `Flatten`. -/
def flattenLoop : List (Err ε) → List (Err ε)
  | [] => []
  | .leaf err :: rest => .leaf err :: flattenLoop rest
  | .aggregate errs :: rest => ((newAggregate ((flattenLoop errs).map some)).bind Err.errors).getD [] ++ flattenLoop rest
  | .foreign _ errs :: rest => ((newAggregate ((flattenLoop errs).map some)).bind Err.errors).getD [] ++ flattenLoop rest

/-- `Flatten`, of an aggregate given by its errors. -/
def flatten (agg : Option (List (Err ε))) : Option (Err ε) := agg.bind fun errs => newAggregate ((flattenLoop errs).map some)

end CriDockerd.Utilerrors
