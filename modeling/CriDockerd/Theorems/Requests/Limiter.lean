import CriDockerd.Core.Limiter
import Mathlib.Data.Int.Order.Basic
import Mathlib.Data.List.Forall2

/-! What writers with a shared limit let through. A call delivers no more than is left of the limit, and lowers it by what it
    delivers; if the delegates write all they are given, what is delivered is the beginning of what is written. -/

namespace CriDockerd.Core

variable {σ : Type}

/-- The contract of `io.Writer`: no less than nothing and no more than all is written. -/
def Writer.Lawful (w : Writer σ) : Prop := ∀ p s, 0 ≤ (w p s).1.1 ∧ (w p s).1.1 ≤ p.length

/-- The writer writes everything that it is given. -/
def Writer.WritesAll (w : Writer σ) : Prop := ∀ p s, (w p s).1 = ((p.length : Int), none)

theorem Writer.WritesAll.lawful {w : Writer σ} (h : w.WritesAll) : w.Lawful := by
  intro p s
  rw [h p s]
  exact ⟨Int.natCast_nonneg _, Int.le_refl _⟩

def delivered (results : List WriteResult) : List UInt8 := results.flatMap (·.written)

def inputs (calls : List (WriteCall σ)) : List UInt8 := calls.flatMap (·.p)

/-! ### Calls -/

section
variable (p : List UInt8) (s : Int × σ)

/-- A call with nothing to write, one with nothing left of the limit, and one that is passed on up to the limit. -/
theorem SharedWriteLimiter.write_cases (w : SharedWriteLimiter σ) :
    (p = [] ∧ w.write p s = (⟨0, none, []⟩, s)) ∨
    (p ≠ [] ∧ s.1 ≤ 0 ∧ w.write p s = (⟨0, some errMaximumWrite, []⟩, s)) ∨
    (p ≠ [] ∧ 0 < s.1 ∧ ∃ n err s', w.delegate (p.take s.1.toNat) s.2 = ((n, err), s') ∧
      w.write p s = (⟨n, if err = none ∧ s.1 < p.length then some errMaximumWrite else err, (p.take s.1.toNat).take n.toNat⟩,
        if 0 < n then s.1 + -1 * n else s.1, s')) := by
  unfold SharedWriteLimiter.write
  dsimp only
  rcases eq_or_ne p [] with rfl | hp
  · exact .inl ⟨rfl, rfl⟩
  · right
    rw [if_neg (List.length_eq_zero_iff.not.mpr hp)]
    by_cases hlimit : s.1 ≤ 0
    · exact .inl ⟨hp, hlimit, by rw [if_pos hlimit]⟩
    · refine .inr ⟨hp, Int.not_le.mp hlimit, _, _, _, rfl, ?_⟩
      have htake : (if decide (s.1 < p.length) = true then p.take s.1.toNat else p) = p.take s.1.toNat := by
        split
        · rfl
        · rename_i hle
          rw [decide_eq_true_eq] at hle
          exact (List.take_of_length_le (by omega)).symm
      rw [if_neg hlimit, htake]
      simp only [decide_eq_true_eq]

theorem SharedWriteLimiter.write_limit {w : SharedWriteLimiter σ} (hw : w.delegate.Lawful) :
    ((w.write p s).1.written.length : Int) ≤ max s.1 0 ∧ (w.write p s).2.1 = s.1 - (w.write p s).1.written.length := by
  obtain ⟨-, heq⟩ | ⟨-, -, heq⟩ | ⟨-, hlimit, n, err, s', hdelegate, heq⟩ := w.write_cases p s
  · rw [heq]
    exact ⟨le_max_right s.1 0, (Int.sub_zero s.1).symm⟩
  · rw [heq]
    exact ⟨le_max_right s.1 0, (Int.sub_zero s.1).symm⟩
  · have hlawful := hw (p.take s.1.toNat) s.2
    rw [hdelegate, List.length_take] at hlawful
    obtain ⟨hnonneg, hle⟩ : 0 ≤ n ∧ n ≤ ((min s.1.toNat p.length : Nat) : Int) := hlawful
    have hlength : (((p.take s.1.toNat).take n.toNat).length : Int) = n := by
      rw [List.length_take, List.length_take]
      omega
    rw [heq]
    dsimp only
    rw [hlength]
    refine ⟨by omega, ?_⟩
    split <;> omega

theorem SharedWriteLimiter.write_all {w : SharedWriteLimiter σ} (hw : w.delegate.WritesAll) :
    (w.write p s).1.written = p.take s.1.toNat ∧
      ((w.write p s).1.err = some errMaximumWrite ↔ p ≠ [] ∧ (w.write p s).1.written ≠ p) := by
  obtain ⟨rfl, heq⟩ | ⟨hp, hlimit, heq⟩ | ⟨hp, hlimit, n, err, s', hdelegate, heq⟩ := w.write_cases p s
  · rw [heq]
    exact ⟨List.take_nil.symm, by simp⟩
  · rw [heq, Int.toNat_of_nonpos hlimit]
    exact ⟨rfl, by simpa [eq_comm] using hp⟩
  · have hall := hw (p.take s.1.toNat) s.2
    rw [hdelegate] at hall
    obtain ⟨rfl, rfl⟩ := Prod.mk.inj hall
    have hwritten : (p.take s.1.toNat).take ((p.take s.1.toNat).length : Int).toNat = p.take s.1.toNat := by
      rw [Int.toNat_natCast, List.take_length]
    have htake : p.take s.1.toNat ≠ p ↔ s.1 < p.length := by
      rw [ne_eq, List.take_eq_self_iff]
      omega
    rw [heq]
    dsimp only
    rw [hwritten, htake]
    exact ⟨rfl, by simp [hp]⟩

end

/-! ### Runs -/

section
variable {calls : List (WriteCall σ)}

theorem writeAll_cons (c : WriteCall σ) (calls : List (WriteCall σ)) (s : Int × σ) :
    writeAll (c :: calls) s =
      ((c.writer.write c.p s).1 :: (writeAll calls (c.writer.write c.p s).2).1, (writeAll calls (c.writer.write c.p s).2).2) := rfl

theorem delivered_cons (r : WriteResult) (results : List WriteResult) :
    delivered (r :: results) = r.written ++ delivered results := List.flatMap_cons

theorem inputs_cons (c : WriteCall σ) (calls : List (WriteCall σ)) : inputs (c :: calls) = c.p ++ inputs calls :=
  List.flatMap_cons

theorem writeAll_limit (h : ∀ c ∈ calls, c.writer.delegate.Lawful) (s : Int × σ) :
    ((delivered (writeAll calls s).1).length : Int) ≤ max s.1 0 ∧
      (writeAll calls s).2.1 = s.1 - (delivered (writeAll calls s).1).length := by
  induction calls generalizing s with
  | nil => exact ⟨le_max_right s.1 0, (Int.sub_zero s.1).symm⟩
  | cons c calls ih =>
    obtain ⟨hwritten, hleft⟩ := SharedWriteLimiter.write_limit c.p s (h c List.mem_cons_self)
    obtain ⟨hdelivered, hlimit⟩ := ih (fun d hd => h d (List.mem_cons_of_mem c hd)) (c.writer.write c.p s).2
    rw [writeAll_cons, delivered_cons, List.length_append]
    dsimp only
    constructor <;> omega

theorem writeAll_all (h : ∀ c ∈ calls, c.writer.delegate.WritesAll) (s : Int × σ) :
    delivered (writeAll calls s).1 = (inputs calls).take s.1.toNat ∧
      List.Forall₂ (fun c r => r.err = some errMaximumWrite ↔ c.p ≠ [] ∧ r.written ≠ c.p) calls (writeAll calls s).1 := by
  induction calls generalizing s with
  | nil => exact ⟨List.take_nil.symm, .nil⟩
  | cons c calls ih =>
    have hc := h c List.mem_cons_self
    obtain ⟨hwritten, herr⟩ := SharedWriteLimiter.write_all c.p s hc
    obtain ⟨-, hleft⟩ := SharedWriteLimiter.write_limit c.p s hc.lawful
    obtain ⟨hdelivered, hresults⟩ := ih (fun d hd => h d (List.mem_cons_of_mem c hd)) (c.writer.write c.p s).2
    -- What is left of the limit is for the calls that follow.
    have hrest : (c.writer.write c.p s).2.1.toNat = s.1.toNat - c.p.length := by
      rw [hleft, hwritten, List.length_take]
      omega
    rw [writeAll_cons]
    refine ⟨?_, .cons herr hresults⟩
    rw [delivered_cons, hwritten, hdelivered, hrest, inputs_cons, List.take_append]

end

def bufferCalls : List (WriteCall (List UInt8 × List UInt8)) :=
  [⟨_, ⟨some fun p s => ((p.length, none), (s.1 ++ p, s.2)), rfl⟩, [102, 111, 111]⟩,
    ⟨_, ⟨some fun p s => ((p.length, none), (s.1, s.2 ++ p)), rfl⟩, [98, 97, 114]⟩]

end CriDockerd.Core
