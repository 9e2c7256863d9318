import Mathlib.Data.Finmap
import Mathlib.Data.Multiset.Bind

/-! Finite maps from keys to lists of values. A value is added at the end of the list of its key, so that a map which
    is made from a list of pairs holds these pairs, and for each key its values in their order. -/

abbrev Groups (κ α : Type) := Finmap fun _ : κ => List α

namespace Groups
variable {κ α : Type} [DecidableEq κ]

def append (m : Groups κ α) (k : κ) (a : α) : Groups κ α := m.insert k ((m.lookup k).getD [] ++ [a])

def ofList (ps : List (κ × α)) : Groups κ α := ps.foldl (fun m p => m.append p.1 p.2) ∅

/-- The pairs that a map holds. -/
def flatten (m : Groups κ α) : Multiset (κ × α) := m.entries.bind fun e => (e.2.map fun a => (e.1, a) : List (κ × α))

variable {m : Groups κ α} {k : κ} {as : List α}

theorem lookup_append (m : Groups κ α) (k k' : κ) (a : α) :
    ((m.append k a).lookup k').getD [] = (m.lookup k').getD [] ++ if k = k' then [a] else [] := by
  by_cases h : k' = k
  · subst h
    simp [append]
  · rw [append, Finmap.lookup_insert_of_ne _ h, if_neg (Ne.symm h), List.append_nil]

theorem keys_append (m : Groups κ α) (k : κ) (a : α) : (m.append k a).keys = insert k m.keys := by
  ext k'
  simp only [append, Finmap.mem_keys, Finmap.mem_insert, Finset.mem_insert]

theorem eq_insert_erase (h : m.lookup k = some as) : m = (m.erase k).insert k as := by
  refine Finmap.ext_lookup fun k' => ?_
  by_cases hk : k' = k
  · subst hk
    rw [h, Finmap.lookup_insert]
  · rw [Finmap.lookup_insert_of_ne _ hk, Finmap.lookup_erase_ne hk]

theorem flatten_insert (h : k ∉ m) (as : List α) :
    flatten (m.insert k as) = (as.map fun a => (k, a) : List (κ × α)) + m.flatten := by
  rw [flatten, Finmap.entries_insert_of_notMem h, Multiset.cons_bind]
  rfl

theorem flatten_append (m : Groups κ α) (k : κ) (a : α) : (m.append k a).flatten = (k, a) ::ₘ m.flatten := by
  cases h : m.lookup k with
  | none =>
    rw [append, h, flatten_insert (Finmap.lookup_eq_none.mp h)]
    rfl
  | some as =>
    -- The entry of the key is taken out and put back with one more value.
    obtain ⟨e, hk, rfl⟩ : ∃ e : Groups κ α, k ∉ e ∧ m = e.insert k as :=
      ⟨m.erase k, Finmap.notMem_erase_self, eq_insert_erase h⟩
    rw [append, h, Finmap.insert_insert, flatten_insert hk, flatten_insert hk, Option.getD_some, List.map_append,
      ← Multiset.coe_add, add_right_comm, ← Multiset.singleton_add, add_comm]
    rfl

/-! ### Maps from lists -/

theorem foldl_append (ps : List (κ × α)) (m : Groups κ α) :
    let made := ps.foldl (fun m p => m.append p.1 p.2) m
    (∀ k, (made.lookup k).getD [] = (m.lookup k).getD [] ++ (ps.filter (·.1 = k)).map (·.2)) ∧
      made.keys = m.keys ∪ (ps.map (·.1)).toFinset ∧ made.flatten = m.flatten + ps := by
  induction ps generalizing m with
  | nil => simp
  | cons p ps ih =>
    obtain ⟨hlookup, hkeys, hflatten⟩ := ih (m.append p.1 p.2)
    refine ⟨fun k => ?_, ?_, ?_⟩
    · rw [List.foldl_cons, hlookup, lookup_append, List.append_assoc]
      by_cases h : p.1 = k <;> simp [h]
    · rw [List.foldl_cons, hkeys, keys_append, List.map_cons, List.toFinset_cons, Finset.insert_union, Finset.union_insert]
    · rw [List.foldl_cons, hflatten, flatten_append, Multiset.cons_add, ← Multiset.cons_coe, Multiset.add_cons]

theorem lookup_ofList (ps : List (κ × α)) (k : κ) :
    ((ofList ps).lookup k).getD [] = (ps.filter (·.1 = k)).map (·.2) := by
  rw [ofList, (foldl_append ps ∅).1, Finmap.lookup_empty]
  rfl

theorem keys_ofList (ps : List (κ × α)) : (ofList ps).keys = (ps.map (·.1)).toFinset := by
  rw [ofList, (foldl_append ps ∅).2.1, Finmap.keys_empty, Finset.empty_union]

theorem flatten_ofList (ps : List (κ × α)) : (ofList ps).flatten = ps := by
  rw [ofList, (foldl_append ps ∅).2.2]
  exact zero_add _

end Groups
