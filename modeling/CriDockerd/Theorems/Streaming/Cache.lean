import Mathlib.Data.List.Nodup
import CriDockerd.Lib.Reachable
import CriDockerd.Streaming.RequestCache

/-! The invariants of the request cache over all sequences of calls under a clock that does not go back: the
    map and the list have the same entries, and the list is ordered by age, so that the garbage collection
    finds all that has expired at its back. -/

namespace CriDockerd.Streaming
open Text

variable {R : Type} {c : RequestCache R} {now : Nat} {token : Text}

/-- The map and the list have the same entries, each element once in the list, in the order of age and no more
    than are allowed. -/
structure Indexed (c : RequestCache R) : Prop where
  distinct : (c.ll.map (·.address)).Nodup
  mapped : ∀ e ∈ c.ll, c.tokens e.token = some e
  listed : ∀ token e, c.tokens token = some e → e ∈ c.ll ∧ e.token = token
  ordered : c.ll.Pairwise fun newer older => older.expireTime ≤ newer.expireTime
  bounded : c.ll.length ≤ maxInFlight

/-- An indexed cache at a time: no entry lives longer than one that is made now. -/
structure Sound (now : Nat) (c : RequestCache R) : Prop extends Indexed c where
  allocated : ∀ e ∈ c.ll, e.address < c.nextAddress
  aged : ∀ e ∈ c.ll, e.expireTime ≤ now + cacheTTL

theorem Sound.initial : Sound now (newRequestCache : RequestCache R) where
  mapped _ h := absurd h List.not_mem_nil
  listed _ _ h := nomatch h
  ordered := List.Pairwise.nil
  bounded := Nat.zero_le _
  distinct := List.nodup_nil
  allocated _ h := absurd h List.not_mem_nil
  aged _ h := absurd h List.not_mem_nil

theorem Sound.later (h : Sound now c) {now' : Nat} (hle : now ≤ now') : Sound now' c :=
  { h with aged := fun e he => Nat.le_trans (h.aged e he) (Nat.add_le_add_right hle _) }

/-! ### Garbage collection -/

/-- The collection cuts off the expired entries at the back, and forgets their tokens. -/
theorem gcLoop_cases (now : Nat) (oldestFirst : List (Element R)) (tokens : Text → Option (Element R)) :
    ∃ expired, oldestFirst = expired ++ (RequestCache.gcLoop now oldestFirst tokens).1 ∧
      (∀ e ∈ (RequestCache.gcLoop now oldestFirst tokens).1.head?, now ≤ e.expireTime) ∧
      (∀ e ∈ expired, (RequestCache.gcLoop now oldestFirst tokens).2 e.token = none) ∧
      ∀ token, (∀ e ∈ expired, e.token ≠ token) → (RequestCache.gcLoop now oldestFirst tokens).2 token = tokens token := by
  induction oldestFirst generalizing tokens with
  | nil => exact ⟨[], rfl, fun _ h => (nomatch h), fun _ h => absurd h List.not_mem_nil, fun _ _ => rfl⟩
  | cons oldest rest ih =>
    rw [RequestCache.gcLoop]
    split
    · rename_i hlive
      refine ⟨[], rfl, fun e he => ?_, fun _ h => absurd h List.not_mem_nil, fun _ _ => rfl⟩
      cases he
      exact Nat.le_of_not_lt hlive
    · obtain ⟨expired, hrest, hhead, hgone, hkept⟩ := ih (Function.update tokens oldest.token none)
      refine ⟨oldest :: expired, congrArg (oldest :: ·) hrest, hhead, fun e he => ?_, fun token htoken => ?_⟩
      · by_cases hin : ∃ e' ∈ expired, e'.token = e.token
        · obtain ⟨e', he', htoken⟩ := hin
          rw [← htoken]
          exact hgone e' he'
        · rcases List.mem_cons.mp he with rfl | he
          · rw [hkept _ (fun e' he' htoken => hin ⟨e', he', htoken⟩), Function.update_self]
          · exact absurd ⟨e, he, rfl⟩ hin
      · rw [hkept token (fun e he => htoken e (List.mem_cons_of_mem _ he)),
          Function.update_of_ne (Ne.symm (htoken oldest List.mem_cons_self))]

theorem gc_cases (now : Nat) (c : RequestCache R) :
    ∃ expired, c.ll = (c.gc now).ll ++ expired ∧ (∀ e ∈ (c.gc now).ll.getLast?, now ≤ e.expireTime) ∧
      (∀ e ∈ expired, (c.gc now).tokens e.token = none) ∧
      ∀ token, (∀ e ∈ expired, e.token ≠ token) → (c.gc now).tokens token = c.tokens token := by
  obtain ⟨expired, hlist, hhead, hgone, hkept⟩ := gcLoop_cases now c.ll.reverse c.tokens
  refine ⟨expired.reverse, ?_, fun e he => hhead e ?_, fun e he => hgone e (List.mem_reverse.mp he),
    fun token htoken => hkept token fun e he => htoken e (List.mem_reverse.mpr he)⟩
  · rw [RequestCache.gc, ← List.reverse_append, ← hlist, List.reverse_reverse]
  · rwa [RequestCache.gc, List.getLast?_reverse] at he

theorem gc_tokens {e : Element R} (h : (c.gc now).tokens token = some e) : c.tokens token = some e := by
  obtain ⟨expired, -, -, hgone, hkept⟩ := gc_cases now c
  by_cases hin : ∃ old ∈ expired, old.token = token
  · obtain ⟨old, hold, rfl⟩ := hin
    rw [hgone old hold] at h
    cases h
  · rw [← hkept token (fun old hold htoken => hin ⟨old, hold, htoken⟩)]
    exact h

/-- The back of the list is the oldest entry, so what the collection leaves has not expired. -/
theorem Sound.gc_live (h : Sound now c) (gcTime : Nat) : ∀ e ∈ (c.gc gcTime).ll, gcTime ≤ e.expireTime := by
  obtain ⟨expired, hlist, hlast, -, -⟩ := gc_cases gcTime c
  have hordered := h.ordered
  rw [hlist, List.pairwise_append] at hordered
  intro e he
  obtain ⟨front, oldest, hfront⟩ : ∃ front oldest, (c.gc gcTime).ll = front ++ [oldest] :=
    ⟨_, _, (List.dropLast_concat_getLast (List.ne_nil_of_mem he)).symm⟩
  have holdest : gcTime ≤ oldest.expireTime := by
    refine hlast oldest ?_
    rw [hfront, List.getLast?_concat]
    rfl
  rw [hfront, List.pairwise_append] at hordered
  rw [hfront] at he
  rcases List.mem_append.mp he with he | he
  · exact Nat.le_trans holdest (hordered.1.2.2 e he oldest (List.mem_singleton_self _))
  · rw [List.mem_singleton.mp he]
    exact holdest

theorem Sound.gc (h : Sound now c) (gcTime : Nat) : Sound now (c.gc gcTime) := by
  obtain ⟨expired, hlist, -, hgone, hkept⟩ := gc_cases gcTime c
  have hsub : ∀ e ∈ (c.gc gcTime).ll, e ∈ c.ll := fun e he => hlist ▸ List.mem_append_left _ he
  have hdistinct := h.distinct
  rw [hlist, List.map_append, List.nodup_append] at hdistinct
  constructor
  case toIndexed =>
    constructor
    case distinct => exact hdistinct.1
    case mapped =>
      intro e he
      have hmapped := h.mapped e (hsub e he)
      rw [hkept e.token ?_]
      · exact hmapped
      intro old hold htoken
      -- The map would tell an expired entry for the token.
      have hother := h.mapped old (hlist ▸ List.mem_append_right _ hold)
      rw [htoken, hmapped] at hother
      cases hother
      exact hdistinct.2.2 _ (List.mem_map_of_mem he) _ (List.mem_map_of_mem hold) rfl
    case listed =>
      intro token e he
      have hlive : ∀ old ∈ expired, old.token ≠ token := by
        rintro old hold rfl
        rw [hgone old hold] at he
        cases he
      rw [hkept token hlive] at he
      obtain ⟨hmem, htoken⟩ := h.listed token e he
      rw [hlist] at hmem
      rcases List.mem_append.mp hmem with hmem | hmem
      · exact ⟨hmem, htoken⟩
      · exact absurd htoken (hlive e hmem)
    case ordered =>
      have hordered := h.ordered
      rw [hlist, List.pairwise_append] at hordered
      exact hordered.1
    case bounded =>
      have hbounded := h.bounded
      rw [hlist, List.length_append] at hbounded
      omega
  case allocated => exact fun e he => h.allocated e (hsub e he)
  case aged => exact fun e he => h.aged e (hsub e he)

/-! ### Tokens -/

/-- A token is the whole of the encoded string, which the map does not have. -/
theorem uniqueTokenLoop_fresh {tokens : Text → Option (Element R)} {draws : Nat → Draw} {tries : Nat}
    (h : RequestCache.uniqueTokenLoop tokens draws tries = .ok token) : tokens token = none := by
  induction tries with
  | zero => cases h
  | succ tries ih =>
    rw [RequestCache.uniqueTokenLoop] at h
    split at h
    · cases h
    · rename_i rawToken _
      have hlength : (Digest.rawURLBase64 (List.ofFn rawToken)).length = tokenLen :=
        Digest.length_rawURLBase64 (List.length_ofFn.trans (by decide : tokenSize = 3 * 2))
      dsimp only at h
      rw [← hlength, List.take_length] at h
      split at h
      · rename_i hnone
        cases h
        exact hnone
      · exact ih h

/-! ### Calls -/

theorem Sound.push (h : Sound now c) (hfresh : c.tokens token = none) (hroom : c.ll.length < maxInFlight) (req : R) :
    Sound now (c.push token req (now + cacheTTL)) where
  mapped e he := by
    rcases List.mem_cons.mp he with rfl | he
    · exact Function.update_self _ _ _
    · have hmapped := h.mapped e he
      have hne : e.token ≠ token := by
        rintro rfl
        rw [hfresh] at hmapped
        cases hmapped
      exact (Function.update_of_ne hne _ _).trans hmapped
  listed token' e he := by
    by_cases heq : token' = token
    · subst heq
      have hnew := (Function.update_self token' _ c.tokens).symm.trans he
      cases hnew
      exact ⟨List.mem_cons_self, rfl⟩
    · have hold := (Function.update_of_ne heq _ c.tokens).symm.trans he
      obtain ⟨hmem, htoken⟩ := h.listed token' e hold
      exact ⟨List.mem_cons_of_mem _ hmem, htoken⟩
  ordered := List.pairwise_cons.mpr ⟨h.aged, h.ordered⟩
  bounded := hroom
  distinct := by
    refine List.nodup_cons.mpr ⟨fun hin => ?_, h.distinct⟩
    obtain ⟨e, he, haddress⟩ := List.mem_map.mp hin
    exact absurd haddress (Nat.ne_of_lt (h.allocated e he))
  allocated e he := by
    rcases List.mem_cons.mp he with rfl | he
    · exact Nat.lt_succ_self _
    · exact Nat.lt_succ_of_lt (h.allocated e he)
  aged e he := by
    rcases List.mem_cons.mp he with rfl | he
    · exact Nat.le_refl _
    · exact h.aged e he

theorem Sound.insert (h : Sound now c) {gcTime now' : Nat} (hgc : now ≤ gcTime) (hnow : gcTime ≤ now') (req : R)
    (draws : Nat → Draw) : Sound now' (c.insert req gcTime now' draws).2 := by
  have hcollected := (h.gc gcTime).later (Nat.le_trans hgc hnow)
  rw [RequestCache.insert]
  split
  · exact hcollected
  · rename_i hroom
    split
    · exact hcollected
    · rename_i token htoken
      exact hcollected.push (uniqueTokenLoop_fresh htoken) (Nat.lt_of_le_of_ne hcollected.bounded hroom) req

/-- What an insertion leaves has not expired when it collects: the new entry is made later. -/
theorem Sound.insert_live (h : Sound now c) {gcTime now' : Nat} (hnow : gcTime ≤ now') (req : R) (draws : Nat → Draw) :
    ∀ e ∈ (c.insert req gcTime now' draws).2.ll, gcTime ≤ e.expireTime := by
  have hlive := h.gc_live gcTime
  rw [RequestCache.insert]
  split
  · exact hlive
  · split
    · exact hlive
    · intro e he
      rcases List.mem_cons.mp he with rfl | he
      · exact Nat.le_trans hnow (Nat.le_add_right _ _)
      · exact hlive e he

theorem Sound.remove (h : Sound now c) {ele : Element R} (hele : c.tokens token = some ele) :
    Sound now (c.remove token ele) := by
  obtain ⟨hmem, rfl⟩ := h.listed token ele hele
  have hsub : ∀ e ∈ c.ll.filter (·.address ≠ ele.address), e ∈ c.ll := fun e he => List.mem_of_mem_filter he
  -- An element with the token of the one that is removed is that element.
  have hother : ∀ e ∈ c.ll.filter (·.address ≠ ele.address), e.token ≠ ele.token := by
    intro e he htoken
    have hmapped := h.mapped e (hsub e he)
    rw [htoken, hele] at hmapped
    cases hmapped
    simp at he
  constructor
  case toIndexed =>
    constructor
    case distinct => exact h.distinct.sublist (List.filter_sublist.map _)
    case mapped => exact fun e he => (Function.update_of_ne (hother e he) _ _).trans (h.mapped e (hsub e he))
    case listed =>
      intro token' e he
      by_cases heq : token' = ele.token
      · rw [heq] at he
        cases (Function.update_self ele.token _ c.tokens).symm.trans he
      · have hold := (Function.update_of_ne heq _ c.tokens).symm.trans he
        obtain ⟨hmem', htoken⟩ := h.listed token' e hold
        refine ⟨List.mem_filter.mpr ⟨hmem', decide_eq_true fun haddress => heq ?_⟩, htoken⟩
        rw [← htoken, List.inj_on_of_nodup_map h.distinct hmem' hmem haddress]
    case ordered => exact h.ordered.filter _
    case bounded => exact Nat.le_trans (List.length_filter_le _ _) h.bounded
  case allocated => exact fun e he => h.allocated e (hsub e he)
  case aged => exact fun e he => h.aged e (hsub e he)

theorem Sound.consume (h : Sound now c) {now' : Nat} (hnow : now ≤ now') (token : Text) :
    Sound now' (c.consume token now').2 := by
  refine Sound.later ?_ hnow
  rw [RequestCache.consume]
  split
  · exact h
  · rename_i ele hele
    exact h.remove hele

/-! ### Runs -/

inductive CacheCall (R : Type) where
  | insert (req : R) (gcTime now : Nat) (draws : Nat → Draw)
  | consume (token : Text) (now : Nat)

/-- A cache, and the time that the clock has told last. -/
structure Clocked (R : Type) where
  cache : RequestCache R
  now : Nat

def CacheCall.run : CacheCall R → Clocked R → Clocked R
  | .insert req gcTime now draws, s => ⟨(s.cache.insert req gcTime now draws).2, now⟩
  | .consume token now, s => ⟨(s.cache.consume token now).2, now⟩

def CacheCall.InOrder (s : Clocked R) : CacheCall R → Prop
  | .insert _ gcTime now _ => s.now ≤ gcTime ∧ gcTime ≤ now
  | .consume _ now => s.now ≤ now

theorem CacheCall.sound {s : Clocked R} {call : CacheCall R} (h : Sound s.now s.cache) (horder : call.InOrder s) :
    Sound (call.run s).now (call.run s).cache := by
  cases call with
  | insert req gcTime now draws => exact h.insert horder.1 horder.2 req draws
  | consume token now => exact h.consume horder token

/-- In every run of the cache the map and the list have the same entries, ordered by age and no more than are
    allowed; a garbage collection leaves nothing that has expired, nor does the insertion that makes it, and the
    token of a new entry is no live one. -/
theorem requestCache_indexed {s : Clocked R}
    (hr : Reachable (fun s => s.cache = newRequestCache) CacheCall.InOrder CacheCall.run s) :
    Indexed s.cache ∧ (∀ gcTime, ∀ e ∈ (s.cache.gc gcTime).ll, ¬ e.expireTime < gcTime) ∧
      (∀ req gcTime now draws, (CacheCall.insert req gcTime now draws).InOrder s →
        ∀ e ∈ (s.cache.insert req gcTime now draws).2.ll, ¬ e.expireTime < gcTime) ∧
      ∀ req gcTime now draws token, (s.cache.insert req gcTime now draws).1 = .ok token →
        (s.cache.gc gcTime).tokens token = none := by
  have h : Sound s.now s.cache := by
    refine Reachable.invariant (fun s => Sound s.now s.cache) ?_ (fun s call hs horder => CacheCall.sound hs horder) hr
    intro s hstart
    rw [hstart]
    exact Sound.initial
  refine ⟨h.toIndexed, fun gcTime e he => Nat.not_lt.mpr (h.gc_live gcTime e he),
    fun req gcTime now draws horder e he => Nat.not_lt.mpr (h.insert_live horder.2 req draws e he), ?_⟩
  intro req gcTime now draws token hinsert
  rw [RequestCache.insert] at hinsert
  split at hinsert
  · cases hinsert
  · split at hinsert
    · cases hinsert
    · rename_i htoken
      cases hinsert
      exact uniqueTokenLoop_fresh htoken

def zeroDraws : Nat → Draw := fun _ => .ok fun _ => 0

def oneEntry : Clocked Text := (CacheCall.insert "exec".toList 0 0 zeroDraws).run ⟨newRequestCache, 0⟩

theorem requestCache_indexed_one : oneEntry.cache.ll.map (·.token) = ["AAAAAAAA".toList] ∧ Indexed oneEntry.cache := by
  have htokens : oneEntry.cache.ll.map (·.token) = ["AAAAAAAA".toList] := by decide
  have hr : Reachable (fun s => s.cache = newRequestCache) CacheCall.InOrder CacheCall.run oneEntry :=
    .call (.start rfl) (And.intro (Nat.le_refl _) (Nat.le_refl _))
  exact ⟨htokens, (requestCache_indexed hr).1⟩

end CriDockerd.Streaming
