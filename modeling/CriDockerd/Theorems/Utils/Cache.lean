import CriDockerd.Utils.Cache
import Mathlib.Data.List.Basic

/-! What `Memoize` returns over whole runs. An entry changes by the calls with its key alone, and only by a run that succeeds, so
    that it is always that of the last such run. -/

namespace CriDockerd.Utils

variable {α : Type}

/-- The entry that a successful run leaves. -/
def entryOf (x : MemoizeCall α × MemoizeResult α) : Entry α :=
  { value := x.2.value, generated := x.1.generated, lastTimeTaken := timeSub x.1.taken x.1.start }

/-- The function of the call was run for the key, and succeeded. -/
def succeeded (key : Text) (x : MemoizeCall α × MemoizeResult α) : Bool := x.1.key == key && x.2.ran && x.2.err.isNone

/-- The most recent successful run for a key. -/
def lastSuccess (key : Text) (trace : List (MemoizeCall α × MemoizeResult α)) : Option (MemoizeCall α × MemoizeResult α) :=
  (trace.filter (succeeded key)).getLast?

def NonDecreasing (calls : List (MemoizeCall α)) : Prop := calls.Pairwise fun c d => c.taken ≤ d.now

/-! ### One entry -/

/-- What a call with the key of an entry returns, and what it makes of the entry. -/
def Entry.memoize (e : Entry α) (call : MemoizeCall α) : MemoizeResult α × Entry α :=
  if timeSub call.now e.generated < call.minTTL + e.lastTimeTaken then (⟨e.value, none, false⟩, e)
  else (⟨call.fn.1, call.fn.2, true⟩, if call.fn.2 = none then entryOf (call, ⟨call.fn.1, none, true⟩) else e)

def Entry.memoizeAll : Entry α → List (MemoizeCall α) → List (MemoizeCall α × MemoizeResult α)
  | _, [] => []
  | e, call :: calls => (call, (e.memoize call).1) :: memoizeAll (e.memoize call).2 calls

/-! ### Successful runs -/

theorem lastSuccess_concat (key : Text) (trace : List (MemoizeCall α × MemoizeResult α)) (x : MemoizeCall α × MemoizeResult α) :
    lastSuccess key (trace ++ [x]) = if succeeded key x then some x else lastSuccess key trace := by
  rw [lastSuccess, List.filter_append, List.filter_singleton]
  cases succeeded key x with
  | true => exact List.getLast?_concat
  | false => exact congrArg List.getLast? (List.append_nil _)

theorem Entry.memoize_eq_last (e : Entry α) {call : MemoizeCall α} {key : Text} (hkey : call.key = key) :
    (e.memoize call).2 = if succeeded key (call, (e.memoize call).1) then entryOf (call, (e.memoize call).1) else e := by
  unfold Entry.memoize succeeded
  split
  · simp
  · cases herr : call.fn.2 with
    | none => simp [hkey]
    | some err => simp

theorem Entry.memoize_of_not_ran {e : Entry α} {call : MemoizeCall α} (h : (e.memoize call).1.ran = false) :
    timeSub call.now e.generated < call.minTTL + e.lastTimeTaken ∧ (e.memoize call).1 = ⟨e.value, none, false⟩ := by
  unfold Entry.memoize at h ⊢
  split at h
  · rename_i hhit
    exact ⟨hhit, by rw [if_pos hhit]⟩
  · cases h

/-! ### Time -/

theorem toInt_timeSub (t u : Int) : (timeSub t u).toInt = max minDuration (min maxDuration (t - u)) := by
  rw [timeSub, minDuration, maxDuration]
  exact Int64.toInt_ofInt_of_le (by omega) (by omega)

theorem not_hit_zero (now : Nat) (minTTL : Int64) : ¬timeSub now zeroTime < minTTL + 0 := by
  have hlt := Int64.toInt_lt minTTL
  rw [Int64.add_zero, Int64.lt_iff_toInt_lt, toInt_timeSub, minDuration, maxDuration, zeroTime]
  omega

/-- The sum of the durations in a hit does not overflow, and an age that is cut is no hit. -/
theorem age_lt_of_hit {now generated start taken : Int} {minTTL : Int64} (hnow : generated ≤ now) (htaken : start ≤ taken)
    (h : timeSub now generated < minTTL + timeSub taken start) : now - generated < minTTL.toInt + (taken - start) := by
  have hlt := Int64.toInt_lt minTTL
  have hge := Int64.le_toInt minTTL
  rw [Int64.lt_iff_toInt_lt, Int64.toInt_add, toInt_timeSub, toInt_timeSub, minDuration, maxDuration, Int.bmod_def] at h
  split at h <;> omega

namespace Cache
variable (c : Cache α)

/-- The entry for a key; one that is not there is as good as an empty one. -/
def entries (key : Text) : Entry α := (c.getEntry key).1

theorem entries_eq (key : Text) : c.entries key = (c.items key).getD .zero := by
  unfold entries getEntry
  cases c.items key <;> rfl

theorem entries_store (key : Text) (e : Entry α) : (c.store key e).entries = Function.update c.entries key e := by
  funext k
  rw [entries_eq, store]
  dsimp only
  rcases eq_or_ne k key with rfl | hne
  · rw [Function.update_self, Function.update_self, Option.getD_some]
  · rw [Function.update_of_ne hne, Function.update_of_ne hne, entries_eq]

theorem entries_getEntry (key : Text) : (c.getEntry key).2.entries = c.entries := by
  unfold getEntry
  cases hkey : c.items key with
  | some e => rfl
  | none =>
    have hzero : c.entries key = .zero := by
      rw [entries_eq, hkey, Option.getD_none]
    dsimp only
    rw [entries_store, ← hzero, Function.update_eq_self]

theorem memoize_eq (call : MemoizeCall α) :
    (c.memoize call).1 = ((c.entries call.key).memoize call).1 ∧
      (c.memoize call).2.entries = Function.update c.entries call.key ((c.entries call.key).memoize call).2 := by
  have hentries := c.entries_getEntry call.key
  obtain ⟨key, minTTL, ⟨v, err⟩, now, start, generated, taken, h₁, h₂, h₃⟩ := call
  have hentry : (c.getEntry key).1 = c.entries key := rfl
  unfold memoize Entry.memoize
  dsimp only at hentries ⊢
  rw [hentry]
  by_cases hhit : timeSub now (c.entries key).generated < minTTL + (c.entries key).lastTimeTaken
  · rw [if_pos hhit, if_pos hhit]
    refine ⟨rfl, ?_⟩
    dsimp only
    rw [hentries, Function.update_eq_self]
  · rw [if_neg hhit, if_neg hhit]
    cases err with
    | none =>
      refine ⟨rfl, ?_⟩
      dsimp only
      rw [entries_store, hentries]
      rfl
    | some err =>
      refine ⟨rfl, ?_⟩
      dsimp only
      rw [if_neg (by simp), hentries, Function.update_eq_self]

/-! ### Runs -/

def after (calls : List (MemoizeCall α)) : Cache α := calls.foldl (fun c call => (c.memoize call).2) c

variable {c}

theorem memoizeAll_append (pre post : List (MemoizeCall α)) :
    c.memoizeAll (pre ++ post) = c.memoizeAll pre ++ (c.after pre).memoizeAll post := by
  induction pre generalizing c with
  | nil => rfl
  | cons call pre ih => rw [List.cons_append, memoizeAll, memoizeAll, ih, List.cons_append, after, after, List.foldl_cons]

theorem fst_mem_of_mem_memoizeAll {calls : List (MemoizeCall α)} {x : MemoizeCall α × MemoizeResult α}
    (h : x ∈ c.memoizeAll calls) : x.1 ∈ calls := by
  induction calls generalizing c with
  | nil => cases h
  | cons call calls ih =>
    rw [memoizeAll] at h
    obtain rfl | hrest := List.mem_cons.mp h
    · exact List.mem_cons_self
    · exact List.mem_cons_of_mem call (ih hrest)

theorem memoizeAll_congr {c' : Cache α} (h : c.entries = c'.entries) (calls : List (MemoizeCall α)) :
    c.memoizeAll calls = c'.memoizeAll calls := by
  induction calls generalizing c c' with
  | nil => rfl
  | cons call calls ih =>
    obtain ⟨hresult, hentries⟩ := c.memoize_eq call
    obtain ⟨hresult', hentries'⟩ := c'.memoize_eq call
    have hnext : (c.memoize call).2.entries = (c'.memoize call).2.entries := by rw [hentries, hentries', h]
    rw [memoizeAll, memoizeAll, ih hnext, hresult, hresult', h]

theorem filter_memoizeAll (key : Text) (calls : List (MemoizeCall α)) :
    (c.memoizeAll calls).filter (fun x => x.1.key = key) =
      (c.entries key).memoizeAll (calls.filter fun call => call.key = key) := by
  induction calls generalizing c with
  | nil => rfl
  | cons call calls ih =>
    obtain ⟨hresult, hentries⟩ := c.memoize_eq call
    rw [memoizeAll, List.filter_cons, List.filter_cons, ih, hentries]
    by_cases hkey : call.key = key
    · rw [if_pos (by simpa using hkey), if_pos (by simpa using hkey), Entry.memoizeAll, hresult, hkey, Function.update_self]
    · rw [if_neg (by simpa using hkey), if_neg (by simpa using hkey), Function.update_of_ne (Ne.symm hkey)]

theorem entries_memoize_of_failed {call : MemoizeCall α} (h : call.fn.2 ≠ none) : (c.memoize call).2.entries = c.entries := by
  rw [(c.memoize_eq call).2, Entry.memoize]
  split
  · exact Function.update_eq_self _ _
  · exact Function.update_eq_self _ _

theorem entries_after (key : Text) (calls : List (MemoizeCall α)) :
    ((zero : Cache α).after calls).entries key = (lastSuccess key (zero.memoizeAll calls)).elim .zero entryOf := by
  induction calls using List.reverseRecOn with
  | nil => rfl
  | append_singleton calls call ih =>
    obtain ⟨hresult, hentries⟩ := ((zero : Cache α).after calls).memoize_eq call
    have hafter : (zero : Cache α).after (calls ++ [call]) = ((zero.after calls).memoize call).2 := by
      rw [after, List.foldl_concat, after]
    rw [hafter, hentries, memoizeAll_append, memoizeAll, memoizeAll, lastSuccess_concat, hresult]
    rcases eq_or_ne call.key key with rfl | hne
    · rw [Function.update_self, Entry.memoize_eq_last _ rfl]
      split
      · rw [Option.elim_some]
      · exact ih
    · rw [Function.update_of_ne hne.symm, ih, if_neg (by simp [succeeded, hne])]

theorem memoize_hit {pre : List (MemoizeCall α)} {call : MemoizeCall α} (hclock : ∀ d ∈ pre, d.taken ≤ call.now)
    (hran : (((zero : Cache α).after pre).memoize call).1.ran = false) :
    ∃ x, lastSuccess call.key (zero.memoizeAll pre) = some x ∧
      (((zero : Cache α).after pre).memoize call).1.value = x.2.value ∧
      (((zero : Cache α).after pre).memoize call).1.err = none ∧
      (call.now : Int) - x.1.generated < call.minTTL.toInt + ((x.1.taken : Int) - x.1.start) := by
  obtain ⟨hresult, -⟩ := ((zero : Cache α).after pre).memoize_eq call
  rw [hresult] at hran ⊢
  obtain ⟨hhit, hvalue⟩ := Entry.memoize_of_not_ran hran
  rw [hvalue]
  rw [entries_after] at hhit ⊢
  cases hlast : lastSuccess call.key ((zero : Cache α).memoizeAll pre) with
  | none =>
    rw [hlast] at hhit
    exact absurd hhit (not_hit_zero call.now call.minTTL)
  | some x =>
    rw [hlast] at hhit
    have hmem : x ∈ (zero : Cache α).memoizeAll pre := (List.mem_filter.mp (List.mem_of_getLast? hlast)).1
    have htaken := hclock x.1 (fst_mem_of_mem_memoizeAll hmem)
    have hstart := x.1.start_le
    have hgenerated := x.1.generated_le
    refine ⟨x, rfl, rfl, rfl, age_lt_of_hit ?_ ?_ hhit⟩
    · omega
    · omega

end Cache

/-- Calls of `Memoize` on a new cache, one after the other. A call that does not run its function returns the value of the most
    recent successful run for its key, and under a clock that does not go back the value is young enough; without a call that
    fails all others return the same; and the calls with one key return what they would return alone. -/
theorem memoizeAll_spec (calls : List (MemoizeCall α)) :
    (∀ pre call post, calls = pre ++ call :: post → ∃ r later,
      Cache.zero.memoizeAll calls = Cache.zero.memoizeAll pre ++ (call, r) :: later ∧
        (NonDecreasing calls → r.ran = false → ∃ x, lastSuccess call.key (Cache.zero.memoizeAll pre) = some x ∧
          r.value = x.2.value ∧ r.err = none ∧
          (call.now : Int) - x.1.generated < call.minTTL.toInt + ((x.1.taken : Int) - x.1.start)) ∧
        (call.fn.2 ≠ none → Cache.zero.memoizeAll (pre ++ post) = Cache.zero.memoizeAll pre ++ later)) ∧
      ∀ key, (Cache.zero.memoizeAll calls).filter (fun x => x.1.key = key) =
        Cache.zero.memoizeAll (calls.filter fun call => call.key = key) := by
  refine ⟨fun pre call post hcalls => ?_, fun key => ?_⟩
  · refine ⟨_, _, by rw [hcalls, Cache.memoizeAll_append, Cache.memoizeAll], fun hclock hran => ?_, fun hfailed => ?_⟩
    · rw [NonDecreasing, hcalls, List.pairwise_append] at hclock
      exact Cache.memoize_hit (fun d hd => hclock.2.2 d hd call List.mem_cons_self) hran
    · rw [Cache.memoizeAll_append, Cache.memoizeAll_congr (Cache.entries_memoize_of_failed hfailed)]
  · have hfilter : (Cache.zero.memoizeAll (calls.filter fun call => call.key = key)).filter (fun x => x.1.key = key) =
        Cache.zero.memoizeAll (calls.filter fun call => call.key = key) := by
      refine List.filter_eq_self.mpr fun x hx => ?_
      exact (List.mem_filter.mp (Cache.fst_mem_of_mem_memoizeAll hx)).2
    rw [← hfilter, Cache.filter_memoizeAll, Cache.filter_memoizeAll, List.filter_filter]
    simp

def infoCall (now info : Nat) : MemoizeCall Nat :=
  { key := "docker_info", minTTL := 60000000000, fn := (some info, none), now := now, start := now, generated := now + 5,
    taken := now + 5, now_le := Nat.le_refl now, start_le := Nat.le_add_right now 5, generated_le := Nat.le_refl (now + 5) }

theorem memoizeAll_spec_info :
    ∃ x, lastSuccess "docker_info" (Cache.zero.memoizeAll [infoCall 0 1]) = some x ∧ x.2.value = some 1 := by
  obtain ⟨r, later, htrace, hhit, -⟩ := (memoizeAll_spec [infoCall 0 1, infoCall 10 2]).1 [infoCall 0 1] (infoCall 10 2) [] rfl
  have hresults : (Cache.zero.memoizeAll [infoCall 0 1, infoCall 10 2]).map (fun x => (x.2.ran, x.2.value)) =
      [(true, some 1), (false, some 1)] := by decide +kernel
  have hfirst : (Cache.zero.memoizeAll [infoCall 0 1]).map (fun x => (x.2.ran, x.2.value)) = [(true, some 1)] := by decide +kernel
  rw [htrace, List.map_append, hfirst, List.map_cons] at hresults
  simp only [List.cons_append, List.nil_append, List.cons.injEq, Prod.mk.injEq, true_and] at hresults
  have hclock : NonDecreasing [infoCall 0 1, infoCall 10 2] :=
    List.pairwise_pair.mpr (show 0 + 5 ≤ 10 by decide)
  obtain ⟨x, hlast, hvalue, -⟩ := hhit hclock hresults.1.1
  exact ⟨x, hlast, by rw [← hvalue, hresults.1.2]⟩

end CriDockerd.Utils
