import Mathlib.Data.List.Basic

/-! Data that comes in pieces, each with a key: what comes under the keys of a kind, in its order. -/

namespace Demux
variable {κ β : Type}

/-- The data of the items whose key has a property. -/
def select (p : κ → Bool) (items : List (κ × List β)) : List β := (items.filter fun item => p item.1).flatMap Prod.snd

variable {p q : κ → Bool} {items : List (κ × List β)}

@[simp] theorem select_nil (p : κ → Bool) : select p ([] : List (κ × List β)) = [] := rfl

theorem select_append (p : κ → Bool) (items items' : List (κ × List β)) :
    select p (items ++ items') = select p items ++ select p items' := by
  simp only [select, List.filter_append, List.flatMap_append]

theorem select_cons_of_pos {item : κ × List β} (h : p item.1 = true) (items : List (κ × List β)) :
    select p (item :: items) = item.2 ++ select p items := by
  rw [select, List.filter_cons, if_pos h, List.flatMap_cons, select]

theorem select_cons_of_neg {item : κ × List β} (h : p item.1 = false) (items : List (κ × List β)) :
    select p (item :: items) = select p items := by
  rw [select, List.filter_cons, if_neg (by rw [h]; decide), select]

theorem select_eq_nil (h : ∀ item ∈ items, p item.1 = false) : select p items = [] := by
  rw [select, List.filter_eq_nil_iff.mpr fun item hitem => by rw [h item hitem]; decide, List.flatMap_nil]

theorem select_congr (h : ∀ item ∈ items, p item.1 = q item.1) : select p items = select q items := by
  rw [select, List.filter_congr h, select]

theorem select_filter (h : ∀ k, p k = true → q k = true) (items : List (κ × List β)) :
    select p (items.filter fun item => q item.1) = select p items := by
  rw [select, List.filter_filter, List.filter_congr fun item _ => ?_, select]
  cases hp : p item.1 with
  | false => rfl
  | true => rw [h item.1 hp]; rfl

end Demux
