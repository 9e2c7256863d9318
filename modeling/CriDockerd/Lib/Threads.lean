import Mathlib.Logic.Function.Basic
import CriDockerd.Lib.Reachable

/-! Threads that share a state. A thread makes steps, each of them at once, and goes on with what it has seen; the
    steps of several threads come in any order. What a thread does is stated under what the others may do: the
    steps that it relies on, and the steps that it guarantees in turn. -/

/-- A thread is done, or makes a step and goes on with the state that it has seen before the step. -/
inductive Thread (S α : Type) where
  | done (a : α)
  | step (f : S → S) (rest : S → Thread S α)

namespace Thread
variable {S α β : Type}

/-- A single step with a result. -/
def atom (op : S → α × S) : Thread S α := .step (fun s => (op s).2) fun s => .done (op s).1

def bind : Thread S α → (α → Thread S β) → Thread S β
  | .done a, k => k a
  | .step f rest, k => .step f fun s => (rest s).bind k

instance monad : Monad (Thread S) where
  pure := .done
  bind := Thread.bind

/-! ### A thread alone -/

/-- The result and the state when no other thread makes a step. -/
def run : Thread S α → S → α × S
  | .done a, s => (a, s)
  | .step f rest, s => (rest s).run (f s)

@[simp] theorem run_pure (a : α) (s : S) : (pure a : Thread S α).run s = (a, s) := rfl

@[simp] theorem run_atom (op : S → α × S) (s : S) : (atom op).run s = op s := rfl

@[simp] theorem run_bind (t : Thread S α) (k : α → Thread S β) (s : S) :
    (t >>= k).run s = (k (t.run s).1).run (t.run s).2 := by
  show (t.bind k).run s = _
  induction t generalizing s with
  | done a => rfl
  | step f rest ih => exact ih s (f s)

/-! ### A thread among others -/

section
variable {rely guar : S → S → Prop} {post post' : α → S → Prop} {t : Thread S α} {s s' : S}

/-- From a state on, with steps of the others in between, the thread makes the steps that it guarantees, and when it is
    done the post-condition holds. -/
def Ensures (rely guar : S → S → Prop) (post : α → S → Prop) : Thread S α → S → Prop
  | .done a, s => ∀ s', rely s s' → post a s'
  | .step f rest, s => ∀ s', rely s s' → guar s' (f s') ∧ (rest s').Ensures rely guar post (f s')

/-- Steps of the others take nothing away. -/
theorem Ensures.stable (h : t.Ensures rely guar post s) (htrans : ∀ s t u, rely s t → rely t u → rely s u)
    (hrely : rely s s') : t.Ensures rely guar post s' := by
  cases t with
  | done a => exact fun u hu => h u (htrans _ _ _ hrely hu)
  | step f rest => exact fun u hu => h u (htrans _ _ _ hrely hu)

theorem Ensures.bind (hrefl : ∀ s, rely s s) {k : α → Thread S β} {post : β → S → Prop}
    (h : t.Ensures rely guar (fun a s => (k a).Ensures rely guar post s) s) : (t >>= k).Ensures rely guar post s := by
  show (t.bind k).Ensures rely guar post s
  induction t generalizing s with
  | done a => exact h s (hrefl s)
  | step f rest ih =>
    intro u hu
    obtain ⟨hguar, hrest⟩ := h u hu
    exact ⟨hguar, ih u hrest⟩

theorem Ensures.mono (h : t.Ensures rely guar post s) (hpost : ∀ a s, post a s → post' a s) :
    t.Ensures rely guar post' s := by
  induction t generalizing s with
  | done a => exact fun u hu => hpost a u (h u hu)
  | step f rest ih =>
    intro u hu
    obtain ⟨hguar, hrest⟩ := h u hu
    exact ⟨hguar, ih u hrest⟩

theorem Ensures.map {f : α → β} {post : β → S → Prop} (h : t.Ensures rely guar (fun a s => post (f a) s) s) :
    (t >>= fun a => pure (f a)).Ensures rely guar post s := by
  show (t.bind fun a => .done (f a)).Ensures rely guar post s
  induction t generalizing s with
  | done a => exact h
  | step f rest ih =>
    intro u hu
    obtain ⟨hguar, hrest⟩ := h u hu
    exact ⟨hguar, ih u hrest⟩

/-- When the thread is done, the state has come by steps in a relation, if those of all threads are in it. -/
theorem Ensures.along {rel : S → S → Prop} (h : t.Ensures rely guar post s) (htrans : ∀ s t u, rel s t → rel t u → rel s u)
    (hrely : ∀ s t, rely s t → rel s t) (hguar : ∀ s t, guar s t → rel s t) (hs : rel s' s) :
    t.Ensures rely guar (fun a s => rel s' s ∧ post a s) s := by
  induction t generalizing s with
  | done a => exact fun u hu => ⟨htrans _ _ _ hs (hrely _ _ hu), h u hu⟩
  | step f rest ih =>
    intro u hu
    obtain ⟨hstep, hrest⟩ := h u hu
    exact ⟨hstep, ih u hrest (htrans _ _ _ (htrans _ _ _ hs (hrely _ _ hu)) (hguar _ _ hstep))⟩

/-- When the thread is done, the state has come by steps that the thread relies on, if its own are such steps. -/
theorem Ensures.since (h : t.Ensures rely guar post s) (htrans : ∀ s t u, rely s t → rely t u → rely s u)
    (hguar : ∀ s t, guar s t → rely s t) (hs : rely s' s) : t.Ensures rely guar (fun a s => rely s' s ∧ post a s) s :=
  h.along htrans (fun _ _ => id) hguar hs

/-- A thread each of whose steps is one that it guarantees, whatever the state is. -/
def Always (guar : S → S → Prop) : Thread S α → Prop
  | .done _ => True
  | .step f rest => (∀ s, guar s (f s)) ∧ ∀ s, (rest s).Always guar

theorem Always.bind {k : α → Thread S β} (ht : t.Always guar) (hk : ∀ a, (k a).Always guar) : (t >>= k).Always guar := by
  show (t.bind k).Always guar
  induction t with
  | done a => exact hk a
  | step f rest ih => exact ⟨ht.1, fun s => ih s (ht.2 s)⟩

theorem Always.atom {op : S → α × S} (h : ∀ s, guar s (op s).2) : (Thread.atom op).Always guar := ⟨h, fun _ => trivial⟩

theorem Always.ensures (h : t.Always guar) (s : S) : t.Ensures rely guar (fun _ _ => True) s := by
  induction t generalizing s with
  | done a => exact fun _ _ => trivial
  | step f rest ih => exact fun u _ => ⟨h.1 u, ih u (h.2 u) _⟩

end

/-! ### Interleavings -/

/-- A state and the threads that share it. -/
structure Pool (S ι α : Type) where
  state : S
  threads : ι → Thread S α

variable {ι : Type} [DecidableEq ι]

/-- The next step of one of the threads. -/
def Pool.advance (i : ι) (p : Pool S ι α) : Pool S ι α :=
  match p.threads i with
  | .done _ => p
  | .step f rest => { state := f p.state, threads := Function.update p.threads i (rest p.state) }

/-- What the threads of a pool get to, in any order of their steps. -/
def Pool.Reaches (start : Pool S ι α) : Pool S ι α → Prop := Reachable (· = start) (fun _ _ => True) Pool.advance

section
variable {start p : Pool S ι α} {rely guar : ι → S → S → Prop} {post : ι → α → S → Prop}

/-- A step of one thread is one that it guarantees, and what the others do goes on. -/
theorem Pool.advance_ensures (hrefl : ∀ i s, rely i s s) (htrans : ∀ i s t u, rely i s t → rely i t u → rely i s u)
    (hothers : ∀ i j, i ≠ j → ∀ s t, guar i s t → rely j s t)
    (h : ∀ i, (p.threads i).Ensures (rely i) (guar i) (post i) p.state) (j : ι) :
    ((p.advance j).state = p.state ∨ guar j p.state (p.advance j).state) ∧
      ∀ i, ((p.advance j).threads i).Ensures (rely i) (guar i) (post i) (p.advance j).state := by
  unfold Pool.advance
  split
  · exact ⟨Or.inl rfl, h⟩
  · rename_i f rest hstep
    have hj := h j
    rw [hstep] at hj
    obtain ⟨hguar, hrest⟩ := hj p.state (hrefl j p.state)
    refine ⟨Or.inr hguar, fun i => ?_⟩
    by_cases hij : i = j
    · subst hij
      dsimp only
      rw [Function.update_self]
      exact hrest
    · dsimp only
      rw [Function.update_of_ne hij]
      exact (h i).stable (htrans i) (hothers j i (Ne.symm hij) _ _ hguar)

/-- If every thread guarantees what the others rely on, then each of them does what it does on its own. -/
theorem Pool.Reaches.ensures (hrefl : ∀ i s, rely i s s) (htrans : ∀ i s t u, rely i s t → rely i t u → rely i s u)
    (hothers : ∀ i j, i ≠ j → ∀ s t, guar i s t → rely j s t)
    (hstart : ∀ i, (start.threads i).Ensures (rely i) (guar i) (post i) start.state) (h : start.Reaches p) (i : ι) :
    (p.threads i).Ensures (rely i) (guar i) (post i) p.state := by
  refine Reachable.invariant (fun p : Pool S ι α => ∀ i, (p.threads i).Ensures (rely i) (guar i) (post i) p.state)
    ?_ (fun p j hp _ => (Pool.advance_ensures hrefl htrans hothers hp j).2) h i
  rintro p rfl
  exact hstart

/-- Then the state that is reached has come by steps that the threads guarantee. -/
theorem Pool.Reaches.along {rel : S → S → Prop} (hrefl : ∀ i s, rely i s s)
    (htrans : ∀ i s t u, rely i s t → rely i t u → rely i s u) (hothers : ∀ i j, i ≠ j → ∀ s t, guar i s t → rely j s t)
    (hstart : ∀ i, (start.threads i).Ensures (rely i) (guar i) (post i) start.state) (hrel : ∀ s, rel s s)
    (hreltrans : ∀ s t u, rel s t → rel t u → rel s u) (hguar : ∀ i s t, guar i s t → rel s t) (h : start.Reaches p) :
    rel start.state p.state := by
  refine (Reachable.invariant (fun p : Pool S ι α =>
    (∀ i, (p.threads i).Ensures (rely i) (guar i) (post i) p.state) ∧ rel start.state p.state) ?_ ?_ h).2
  · rintro p rfl
    exact ⟨hstart, hrel p.state⟩
  · rintro p j ⟨hp, hstate⟩ -
    obtain ⟨hstep, hnext⟩ := Pool.advance_ensures hrefl htrans hothers hp j
    refine ⟨hnext, ?_⟩
    rcases hstep with heq | hstep
    · rw [heq]
      exact hstate
    · exact hreltrans _ _ _ hstate (hguar j _ _ hstep)

end

/-- If each step of every thread is in a relation, then the state that is reached is in it with the first one. -/
theorem Pool.Reaches.always {start p : Pool S ι α} {guar : S → S → Prop} (hrefl : ∀ s, guar s s)
    (htrans : ∀ s t u, guar s t → guar t u → guar s u) (hstart : ∀ i, (start.threads i).Always guar) (h : start.Reaches p) :
    guar start.state p.state := by
  refine (Reachable.invariant (fun p : Pool S ι α => (∀ i, (p.threads i).Always guar) ∧ guar start.state p.state)
    ?_ ?_ h).2
  · rintro p rfl
    exact ⟨hstart, hrefl p.state⟩
  · intro p j hinv _
    unfold Pool.advance
    split
    · exact hinv
    · rename_i f rest hstep
      have hj := hinv.1 j
      rw [hstep] at hj
      refine ⟨fun i => ?_, htrans _ _ _ hinv.2 (hj.1 p.state)⟩
      by_cases hij : i = j
      · subst hij
        dsimp only
        rw [Function.update_self]
        exact hj.2 p.state
      · dsimp only
        rw [Function.update_of_ne hij]
        exact hinv.1 i

end Thread
