import Mathlib.Algebra.BigOperators.Group.Finset.Basic
import Mathlib.Algebra.GroupWithZero.Nat
import Mathlib.Algebra.Order.BigOperators.Group.Finset

/-! The size of a collection whose members have a part of their own and maybe a part that they share with others. A shared part is
    known by its size only, and parts of one size count once. -/

namespace Overlap

variable {α : Type*} (own : α → Nat) (shared : α → Option Nat)

/-- The size of one member. -/
def size (a : α) : Nat := own a + (shared a).getD 0

/-- The sizes of the shared parts, each once. -/
def parts (l : List α) : Finset Nat := (l.filterMap shared).toFinset

def total (l : List α) : Nat := (l.map own).sum + ∑ part ∈ parts shared l, part

variable {own shared} {a : α} {l m : List α}

theorem mem_parts {n : Nat} : n ∈ parts shared l ↔ ∃ a ∈ l, shared a = some n := by
  rw [parts, List.mem_toFinset, List.mem_filterMap]

theorem parts_cons_of_none (h : shared a = none) : parts shared (a :: l) = parts shared l := by
  rw [parts, List.filterMap_cons_none h, parts]

theorem parts_cons_of_some {n : Nat} (h : shared a = some n) : parts shared (a :: l) = insert n (parts shared l) := by
  rw [parts, List.filterMap_cons_some h, List.toFinset_cons, parts]

theorem total_perm (h : l.Perm m) : total own shared l = total own shared m := by
  rw [total, total, (h.map own).sum_eq, parts, parts, List.toFinset_eq_of_perm _ _ (h.filterMap shared)]

/-- One more member adds what is its own, and its shared part unless there is one of that size. -/
theorem total_cons_le : total own shared (a :: l) ≤ size own shared a + total own shared l := by
  rw [total, total, size, List.map_cons, List.sum_cons]
  cases h : shared a with
  | none =>
    rw [parts_cons_of_none h, Option.getD_none]
    omega
  | some n =>
    have hinsert : ∑ part ∈ insert n (parts shared l), part ≤ n + ∑ part ∈ parts shared l, part := by
      by_cases hn : n ∈ parts shared l
      · rw [Finset.insert_eq_of_mem hn]
        exact Nat.le_add_left _ n
      · rw [Finset.sum_insert hn]
    rw [parts_cons_of_some h, Option.getD_some]
    omega

theorem total_le_cons : own a + total own shared l ≤ total own shared (a :: l) := by
  have hparts : parts shared l ⊆ parts shared (a :: l) := by
    intro n hn
    obtain ⟨b, hb, hshared⟩ := mem_parts.mp hn
    exact mem_parts.mpr ⟨b, List.mem_cons_of_mem a hb, hshared⟩
  have hsum : ∑ part ∈ parts shared l, part ≤ ∑ part ∈ parts shared (a :: l), part := Finset.sum_le_sum_of_subset hparts
  rw [total, total, List.map_cons, List.sum_cons]
  omega

theorem size_le_total (h : a ∈ l) : size own shared a ≤ total own shared l := by
  have hown : own a ≤ (l.map own).sum := List.single_le_sum (fun _ _ => Nat.zero_le _) _ (List.mem_map_of_mem h)
  rw [size, total]
  cases hshared : shared a with
  | none => exact Nat.le_trans hown (Nat.le_add_right _ _)
  | some n =>
    have hmem : n ∈ parts shared l := mem_parts.mpr ⟨a, h, hshared⟩
    have hpart : id n ≤ ∑ part ∈ parts shared l, id part := Finset.single_le_sum (fun _ _ => Nat.zero_le _) hmem
    exact Nat.add_le_add hown hpart

theorem total_le_sum_size (l : List α) : total own shared l ≤ (l.map (size own shared)).sum := by
  induction l with
  | nil => exact Nat.le_refl 0
  | cons a l ih =>
    rw [List.map_cons, List.sum_cons]
    exact Nat.le_trans total_cons_le (Nat.add_le_add_left ih _)

end Overlap
