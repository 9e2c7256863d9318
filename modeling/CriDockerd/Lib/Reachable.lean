import Mathlib.Data.List.Basic

/-! Systems that change by calls: a call takes a state to the next one. A run starts in a start state
    and makes calls, each of them allowed in the state where it is made. -/

/-- The states that a run gets to. -/
inductive Reachable {S C : Type} (start : S → Prop) (allowed : S → C → Prop) (step : C → S → S) : S → Prop
  | start {s : S} (hs : start s) : Reachable start allowed step s
  | call {s : S} {c : C} (hr : Reachable start allowed step s) (ha : allowed s c) : Reachable start allowed step (step c s)

namespace Reachable
variable {S C : Type} {start : S → Prop} {allowed : S → C → Prop} {step : C → S → S} {s : S}

/-- What holds at the start and is kept by every allowed call holds along every run. -/
theorem invariant (inv : S → Prop) (hstart : ∀ s, start s → inv s)
    (hcall : ∀ s c, inv s → allowed s c → inv (step c s)) (hr : Reachable start allowed step s) : inv s := by
  induction hr with
  | start hs => exact hstart _ hs
  | call _ ha ih => exact hcall _ _ ih ha

end Reachable
