import CriDockerd.Lib.Text

/-! Errors: a message, or an aggregate of errors (`utils/errors`, and the package of the same
    name in apimachinery, which it is a copy of). A nil `error` is `none`. -/

/-- Two results are told apart by their constructors, then by what they hold. -/
instance instDecidableEqResult {ε α : Type} [DecidableEq ε] [DecidableEq α] : DecidableEq (Except ε α)
  | .ok a, .ok b => decidable_of_iff (a = b) ⟨congrArg Except.ok, Except.ok.inj⟩
  | .error a, .error b => decidable_of_iff (a = b) ⟨congrArg Except.error, Except.error.inj⟩
  | .ok _, .error _ => isFalse (fun h => by cases h)
  | .error _, .ok _ => isFalse (fun h => by cases h)

namespace CriDockerd

inductive GoError where
  | text (msg : Text)
  | aggregate (errs : List GoError)
  deriving Repr

namespace GoError

mutual

/-- The messages of the errors that are no aggregates, in the order in which `visit` meets them. -/
def leaves : GoError → List Text
  | .text msg => [msg]
  | .aggregate errs => leavesAll errs

def leavesAll : List GoError → List Text
  | [] => []
  | e :: es => e.leaves ++ leavesAll es

end

mutual

def decEq : (a b : GoError) → Decidable (a = b)
  | .text m, .text n => decidable_of_iff (m = n) (by simp)
  | .text _, .aggregate _ => .isFalse (by simp)
  | .aggregate _, .text _ => .isFalse (by simp)
  | .aggregate es, .aggregate fs =>
    match decEqList es fs with
    | .isTrue h => .isTrue (by rw [h])
    | .isFalse h => .isFalse (by simp [h])

def decEqList : (as bs : List GoError) → Decidable (as = bs)
  | [], [] => .isTrue rfl
  | [], _ :: _ => .isFalse (by simp)
  | _ :: _, [] => .isFalse (by simp)
  | a :: as, b :: bs =>
    match decEq a b, decEqList as bs with
    | .isTrue h, .isTrue h' => .isTrue (by rw [h, h'])
    | .isFalse h, _ => .isFalse (by simp [h])
    | _, .isFalse h => .isFalse (by simp [h])

end

instance : DecidableEq GoError := decEq

/-- `Error()`: one message as it is; several different ones in brackets, each once. -/
def error : GoError → Text
  | .text msg => msg
  | .aggregate [] => []
  | .aggregate errs =>
    match (leavesAll errs).foldl (fun seen msg => if msg ∈ seen then seen else seen ++ [msg]) [] with
    | [msg] => msg
    | msgs => '[' :: Text.join ", " msgs ++ [']']

end GoError

/-- `NewAggregate`: nil when no error of the list is one. -/
def newAggregate (errlist : List (Option GoError)) : Option GoError :=
  match errlist.filterMap id with
  | [] => none
  | errs => some (.aggregate errs)

theorem newAggregate_eq_none {errlist : List (Option GoError)} :
    newAggregate errlist = none ↔ ∀ e ∈ errlist, e = none := by
  unfold newAggregate
  cases h : errlist.filterMap id with
  | nil =>
    simp only [true_iff]
    intro e he
    cases e with
    | none => rfl
    | some err =>
      have : err ∈ errlist.filterMap id := List.mem_filterMap.mpr ⟨some err, he, rfl⟩
      rw [h] at this
      cases this
  | cons err errs =>
    simp only [reduceCtorEq, false_iff, not_forall]
    have : err ∈ errlist.filterMap id := h ▸ List.mem_cons_self
    obtain ⟨e, he, hid⟩ := List.mem_filterMap.mp this
    exact ⟨e, he, by simp only [id] at hid; simp [hid]⟩

@[simp] theorem newAggregate_some_cons (err : GoError) (errlist : List (Option GoError)) :
    newAggregate (some err :: errlist) = some (.aggregate (err :: errlist.filterMap id)) := by
  simp [newAggregate]

/-- An error of a call of the file system: that something does not exist is told from all others. -/
inductive FsError where
  | notExist (op path : Text)
  | other (err : GoError)
  deriving DecidableEq, Repr

def FsError.toGoError : FsError → GoError
  | .notExist op path => .text (op ++ ' ' :: path ++ ": no such file or directory")
  | .other err => err

/-- `os.IsNotExist`. -/
def isNotExist : FsError → Bool
  | .notExist .. => true
  | .other _ => false

/-- How a call ends that may dereference a nil pointer. -/
inductive Outcome (ε α : Type) where
  | ok (value : α)
  | error (err : ε)
  | panic
  deriving DecidableEq, Repr

end CriDockerd
