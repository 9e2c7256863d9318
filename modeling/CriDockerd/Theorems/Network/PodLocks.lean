import CriDockerd.Network.PluginManager

/-! The locks of pods over all interleavings of network operations: the operations of a pod share one mutex,
    which no operation waits for after the map has lost it, and one of them at a time is in the plugin. -/

namespace CriDockerd.Network
open Text

variable {s : System} {pm : PluginManager} {name : Text} {lock : Nat} {call : PluginCall}

def inProgress (name : Text) (calls : List PluginCall) : Nat := calls.countP fun call => call.fullPodName = name

def holders (name : Text) (calls : List PluginCall) : Nat :=
  calls.countP fun call => call.fullPodName = name ∧ call.phase ≠ .waiting

/-! ### Counting -/

theorem inProgress_cons (call : PluginCall) (calls : List PluginCall) :
    inProgress name (call :: calls) = inProgress name calls + if call.fullPodName = name then 1 else 0 := by
  simp [inProgress, List.countP_cons]

theorem holders_cons (call : PluginCall) (calls : List PluginCall) : holders name (call :: calls) =
    holders name calls + if call.fullPodName = name ∧ call.phase ≠ .waiting then 1 else 0 := by
  simp [holders, List.countP_cons]

theorem inProgress_erase {calls : List PluginCall} (h : call ∈ calls) :
    inProgress name calls = inProgress name (calls.erase call) + if call.fullPodName = name then 1 else 0 := by
  rw [← inProgress_cons]
  exact (List.perm_cons_erase h).countP_eq _

theorem holders_erase {calls : List PluginCall} (h : call ∈ calls) : holders name calls =
    holders name (calls.erase call) + if call.fullPodName = name ∧ call.phase ≠ .waiting then 1 else 0 := by
  rw [← holders_cons]
  exact (List.perm_cons_erase h).countP_eq _

theorem inProgress_pos {calls : List PluginCall} (h : call ∈ calls) : 0 < inProgress call.fullPodName calls :=
  List.countP_pos_iff.mpr ⟨call, h, by simp⟩

theorem holders_pos {calls : List PluginCall} (h : call ∈ calls) (hphase : call.phase ≠ .waiting) :
    0 < holders call.fullPodName calls :=
  List.countP_pos_iff.mpr ⟨call, h, by simp [hphase]⟩

/-! ### The invariant -/

/-- The map has a lock for the pods with a call in progress, and every call has the mutex of the map's lock.
    A lock counts its calls, and its mutex is locked while one of them holds it. -/
structure Balanced (s : System) : Prop where
  entry : ∀ call ∈ s.calls, s.manager.pods call.fullPodName = some call.mutex
  counted : ∀ name lock, s.manager.pods name = some lock →
    (s.manager.locks lock).refcount = inProgress name s.calls ∧ 0 < inProgress name s.calls
  held : ∀ name lock, s.manager.pods name = some lock →
    holders name s.calls = if (s.manager.locks lock).locked = true then 1 else 0
  apart : ∀ name name' lock, s.manager.pods name = some lock → s.manager.pods name' = some lock → name = name'
  allocated : ∀ name lock, s.manager.pods name = some lock → lock < s.manager.nextLock

theorem Balanced.initial : Balanced System.initial where
  entry _ h := absurd h List.not_mem_nil
  counted _ _ h := nomatch h
  held _ _ h := nomatch h
  apart _ _ _ h := nomatch h
  allocated _ _ h := nomatch h

theorem Balanced.inProgress_eq_zero (h : Balanced s) (hnone : s.manager.pods name = none) : inProgress name s.calls = 0 := by
  by_contra hne
  obtain ⟨call, hcall, hname⟩ := List.countP_pos_iff.mp (Nat.pos_of_ne_zero hne)
  have hentry := h.entry call hcall
  rw [of_decide_eq_true hname, hnone] at hentry
  cases hentry

theorem Balanced.holders_eq_zero (h : Balanced s) (hnone : s.manager.pods name = none) : holders name s.calls = 0 := by
  by_contra hne
  obtain ⟨call, hcall, hname⟩ := List.countP_pos_iff.mp (Nat.pos_of_ne_zero hne)
  have hentry := h.entry call hcall
  rw [(of_decide_eq_true hname).1, hnone] at hentry
  cases hentry

theorem Balanced.ne_lock (h : Balanced s) {name name' : Text} {lock lock' : Nat} (hlock : s.manager.pods name = some lock)
    (hlock' : s.manager.pods name' = some lock') (hne : name' ≠ name) : lock' ≠ lock := by
  rintro rfl
  exact hne (h.apart _ _ _ hlock' hlock)

/-! ### Steps -/

theorem Balanced.podLock_known (h : Balanced s) (hlock : s.manager.pods name = some lock) (value : PodLock)
    (hcount : value.refcount = (s.manager.locks lock).refcount + 1) (hlocked : value.locked = (s.manager.locks lock).locked)
    (operation : Operation) :
    Balanced { manager := s.manager.setLock lock value
               calls := { operation, fullPodName := name, mutex := lock, phase := .waiting } :: s.calls } where
  entry call hcall := by
    rcases List.mem_cons.mp hcall with rfl | hcall
    · exact hlock
    · exact h.entry call hcall
  counted name' lock' hlock' := by
    obtain ⟨hcounted, hpos⟩ := h.counted name' lock' hlock'
    rw [inProgress_cons]
    dsimp only
    by_cases hname : name = name'
    · subst hname
      obtain rfl : lock = lock' := Option.some.inj (hlock.symm.trans hlock')
      rw [PluginManager.setLock_locks_self, if_pos rfl, hcount, hcounted]
      exact ⟨rfl, Nat.succ_pos _⟩
    · rw [PluginManager.setLock_locks_of_ne (h.ne_lock hlock hlock' (Ne.symm hname)), if_neg hname]
      exact ⟨hcounted, hpos⟩
  held name' lock' hlock' := by
    have hheld := h.held name' lock' hlock'
    rw [holders_cons, if_neg (fun hc => hc.2 rfl), Nat.add_zero, hheld]
    dsimp only
    by_cases hname : name = name'
    · subst hname
      obtain rfl : lock = lock' := Option.some.inj (hlock.symm.trans hlock')
      rw [PluginManager.setLock_locks_self, hlocked]
    · rw [PluginManager.setLock_locks_of_ne (h.ne_lock hlock hlock' (Ne.symm hname))]
  apart := h.apart
  allocated := h.allocated

theorem Balanced.podLock_new (h : Balanced s) (hnone : s.manager.pods name = none) (hpm : ∀ lock, pm.locks lock =
      if lock = s.manager.nextLock then ⟨1, false⟩ else s.manager.locks lock)
    (hself : pm.pods name = some s.manager.nextLock) (hother : ∀ name', name' ≠ name → pm.pods name' = s.manager.pods name')
    (hnext : pm.nextLock = s.manager.nextLock + 1) (operation : Operation) :
    Balanced { manager := pm
               calls := { operation, fullPodName := name, mutex := s.manager.nextLock, phase := .waiting } :: s.calls } := by
  -- The new lock is no other pod's.
  have hpods : ∀ name' lock', pm.pods name' = some lock' →
      name' = name ∧ lock' = s.manager.nextLock ∨ name' ≠ name ∧ s.manager.pods name' = some lock' ∧ lock' ≠ s.manager.nextLock := by
    intro name' lock' hlock'
    by_cases hname : name' = name
    · subst hname
      rw [hself] at hlock'
      exact Or.inl ⟨rfl, (Option.some.inj hlock').symm⟩
    · rw [hother name' hname] at hlock'
      exact Or.inr ⟨hname, hlock', Nat.ne_of_lt (h.allocated name' lock' hlock')⟩
  constructor
  case entry =>
    intro call hcall
    rcases List.mem_cons.mp hcall with rfl | hcall
    · exact hself
    · have hentry := h.entry call hcall
      have hname : call.fullPodName ≠ name := by
        intro hname
        rw [hname, hnone] at hentry
        cases hentry
      exact (hother _ hname).trans hentry
  case counted =>
    intro name' lock' hlock'
    rw [inProgress_cons]
    dsimp only
    rcases hpods name' lock' hlock' with ⟨rfl, rfl⟩ | ⟨hname, hold, hlock⟩
    · rw [hpm, if_pos rfl, h.inProgress_eq_zero hnone, if_pos rfl]
      exact ⟨rfl, Nat.one_pos⟩
    · rw [hpm, if_neg hlock, if_neg (Ne.symm hname)]
      exact h.counted name' lock' hold
  case held =>
    intro name' lock' hlock'
    rw [holders_cons, if_neg (fun hc => hc.2 rfl), Nat.add_zero]
    dsimp only
    rcases hpods name' lock' hlock' with ⟨rfl, rfl⟩ | ⟨hname, hold, hlock⟩
    · rw [hpm, if_pos rfl, h.holders_eq_zero hnone, if_neg Bool.false_ne_true]
    · rw [hpm, if_neg hlock]
      exact h.held name' lock' hold
  case apart =>
    intro name₁ name₂ lock' h₁ h₂
    rcases hpods name₁ lock' h₁ with ⟨rfl, rfl⟩ | ⟨-, hold₁, hlock₁⟩
    · rcases hpods name₂ _ h₂ with ⟨rfl, -⟩ | ⟨-, -, hlock₂⟩
      · rfl
      · exact absurd rfl hlock₂
    · rcases hpods name₂ lock' h₂ with ⟨-, rfl⟩ | ⟨-, hold₂, -⟩
      · exact absurd rfl hlock₁
      · exact h.apart _ _ _ hold₁ hold₂
  case allocated =>
    intro name' lock' hlock'
    dsimp only
    rw [hnext]
    rcases hpods name' lock' hlock' with ⟨-, rfl⟩ | ⟨-, hold, -⟩
    · exact Nat.lt_succ_self _
    · exact Nat.lt_succ_of_lt (h.allocated name' lock' hold)

theorem inProgress_move {phase : Phase} (hcall : call ∈ s.calls) :
    inProgress name (s.move call phase).calls = inProgress name s.calls := by
  rw [System.move, inProgress_cons, inProgress_erase hcall]

theorem Balanced.entry_move (h : Balanced s) (hcall : call ∈ s.calls) {phase : Phase} (call' : PluginCall)
    (hcall' : call' ∈ (s.move call phase).calls) : s.manager.pods call'.fullPodName = some call'.mutex := by
  rcases List.mem_cons.mp hcall' with rfl | hcall'
  · exact h.entry call hcall
  · exact h.entry call' (List.mem_of_mem_erase hcall')

theorem Balanced.acquire (h : Balanced s) (hcall : call ∈ s.calls) (hphase : call.phase = .waiting)
    (hfree : (s.manager.locks call.mutex).locked = false) :
    Balanced { s.move call .inPlugin with manager := s.manager.lockMutex call.mutex } := by
  have hentry := h.entry call hcall
  constructor
  case entry => exact fun call' hcall' => h.entry_move hcall call' hcall'
  case counted =>
    intro name' lock' hlock'
    obtain ⟨hcounted, hpos⟩ := h.counted name' lock' hlock'
    dsimp only
    rw [inProgress_move hcall, PluginManager.lockMutex]
    refine ⟨?_, hpos⟩
    by_cases hlock : lock' = call.mutex
    · subst hlock
      rw [PluginManager.setLock_locks_self, hcounted]
    · rw [PluginManager.setLock_locks_of_ne hlock, hcounted]
  case held =>
    intro name' lock' hlock'
    have hheld := h.held name' lock' hlock'
    rw [holders_erase hcall, if_neg (fun hc => hc.2 hphase), Nat.add_zero] at hheld
    dsimp only [System.move]
    rw [holders_cons, hheld, PluginManager.lockMutex]
    dsimp only
    by_cases hname : call.fullPodName = name'
    · subst hname
      obtain rfl : call.mutex = lock' := Option.some.inj (hentry.symm.trans hlock')
      rw [PluginManager.setLock_locks_self, hfree, if_neg Bool.false_ne_true, if_pos ⟨rfl, fun hc => nomatch hc⟩, if_pos rfl]
    · have hskip : ¬(call.fullPodName = name' ∧ Phase.inPlugin ≠ .waiting) := fun hc => hname hc.1
      rw [PluginManager.setLock_locks_of_ne (h.ne_lock hentry hlock' (Ne.symm hname)), if_neg hskip, Nat.add_zero]
  case apart => exact h.apart
  case allocated => exact h.allocated

theorem Balanced.pluginReturns (h : Balanced s) (hcall : call ∈ s.calls) (hphase : call.phase = .inPlugin) :
    Balanced (s.move call .returned) where
  entry call' hcall' := h.entry_move hcall call' hcall'
  counted name' lock' hlock' := by
    rw [inProgress_move hcall]
    exact h.counted name' lock' hlock'
  held name' lock' hlock' := by
    have hheld := h.held name' lock' hlock'
    rw [holders_erase hcall, hphase] at hheld
    rw [System.move, holders_cons, ← show _ = _ from hheld]
    simp
  apart := h.apart
  allocated := h.allocated

theorem Balanced.lock_of_holder (h : Balanced s) (hcall : call ∈ s.calls) (hphase : call.phase ≠ .waiting) :
    (s.manager.locks call.mutex).refcount ≠ 0 ∧ (s.manager.locks call.mutex).locked = true := by
  have hentry := h.entry call hcall
  obtain ⟨hcount, hpos⟩ := h.counted _ _ hentry
  have hheld := h.held _ _ hentry
  have hholds := holders_pos hcall hphase
  refine ⟨by omega, ?_⟩
  by_contra hfree
  rw [if_neg hfree] at hheld
  omega

theorem Balanced.podUnlock_eq (h : Balanced s) (hcall : call ∈ s.calls) (hphase : call.phase ≠ .waiting) :
    s.manager.podUnlock call.fullPodName =
      (.released, if (s.manager.locks call.mutex).refcount - 1 = 0
        then (s.manager.setLock call.mutex ⟨(s.manager.locks call.mutex).refcount - 1, false⟩).setPod call.fullPodName none
        else s.manager.setLock call.mutex ⟨(s.manager.locks call.mutex).refcount - 1, false⟩) := by
  obtain ⟨hcount, hlocked⟩ := h.lock_of_holder hcall hphase
  simp only [PluginManager.podUnlock, h.entry call hcall, if_neg hcount, hlocked, Bool.true_eq_false, if_false]

theorem Balanced.podUnlock_last (h : Balanced s) (hcall : call ∈ s.calls) (hlast : (s.manager.locks call.mutex).refcount - 1 = 0)
    (value : PodLock) :
    Balanced { manager := (s.manager.setLock call.mutex value).setPod call.fullPodName none, calls := s.calls.erase call } := by
  have hentry := h.entry call hcall
  obtain ⟨hcount, hpos⟩ := h.counted _ _ hentry
  have hnone : inProgress call.fullPodName (s.calls.erase call) = 0 := by
    have herase : inProgress call.fullPodName s.calls = _ := inProgress_erase hcall
    rw [if_pos rfl] at herase
    omega
  -- What the map has left is of other pods, with other locks.
  have hpods : ∀ name' lock', ((s.manager.setLock call.mutex value).setPod call.fullPodName none).pods name' = some lock' →
      call.fullPodName ≠ name' ∧ s.manager.pods name' = some lock' ∧ lock' ≠ call.mutex := by
    intro name' lock' hlock'
    by_cases hname : name' = call.fullPodName
    · rw [hname, PluginManager.setPod_pods_self] at hlock'
      cases hlock'
    · rw [PluginManager.setPod_pods_of_ne hname] at hlock'
      exact ⟨Ne.symm hname, hlock', h.ne_lock hentry hlock' hname⟩
  constructor
  case entry =>
    intro call' hcall'
    have hname : call'.fullPodName ≠ call.fullPodName := by
      intro hname
      have hpos' := inProgress_pos hcall'
      rw [hname] at hpos'
      dsimp only at hpos'
      omega
    exact (PluginManager.setPod_pods_of_ne hname _ _).trans (h.entry call' (List.mem_of_mem_erase hcall'))
  case counted =>
    intro name' lock' hlock'
    obtain ⟨hname, hold, hlock⟩ := hpods name' lock' hlock'
    have hcounted := h.counted name' lock' hold
    rw [inProgress_erase hcall, if_neg hname] at hcounted
    dsimp only
    rw [PluginManager.setPod_locks, PluginManager.setLock_locks_of_ne hlock]
    exact hcounted
  case held =>
    intro name' lock' hlock'
    obtain ⟨hname, hold, hlock⟩ := hpods name' lock' hlock'
    have hheld := h.held name' lock' hold
    rw [holders_erase hcall, if_neg (fun hc => hname hc.1)] at hheld
    dsimp only
    rw [PluginManager.setPod_locks, PluginManager.setLock_locks_of_ne hlock]
    exact hheld
  case apart =>
    intro name₁ name₂ lock' h₁ h₂
    exact h.apart _ _ _ (hpods name₁ lock' h₁).2.1 (hpods name₂ lock' h₂).2.1
  case allocated =>
    intro name' lock' hlock'
    exact h.allocated name' lock' (hpods name' lock' hlock').2.1

theorem Balanced.podUnlock_more (h : Balanced s) (hcall : call ∈ s.calls) (hphase : call.phase ≠ .waiting)
    (hmore : (s.manager.locks call.mutex).refcount - 1 ≠ 0) :
    Balanced { manager := s.manager.setLock call.mutex ⟨(s.manager.locks call.mutex).refcount - 1, false⟩
               calls := s.calls.erase call } := by
  have hentry := h.entry call hcall
  constructor
  case entry =>
    intro call' hcall'
    exact h.entry call' (List.mem_of_mem_erase hcall')
  case counted =>
    intro name' lock' hlock'
    have hcounted := h.counted name' lock' hlock'
    rw [inProgress_erase hcall] at hcounted
    dsimp only
    by_cases hname : call.fullPodName = name'
    · subst hname
      obtain rfl : call.mutex = lock' := Option.some.inj (hentry.symm.trans hlock')
      rw [if_pos rfl] at hcounted
      rw [PluginManager.setLock_locks_self]
      dsimp only
      omega
    · rw [if_neg hname] at hcounted
      rw [PluginManager.setLock_locks_of_ne (h.ne_lock hentry hlock' (Ne.symm hname))]
      exact hcounted
  case held =>
    intro name' lock' hlock'
    have hheld := h.held name' lock' hlock'
    rw [holders_erase hcall] at hheld
    dsimp only
    by_cases hname : call.fullPodName = name'
    · subst hname
      obtain rfl : call.mutex = lock' := Option.some.inj (hentry.symm.trans hlock')
      rw [if_pos ⟨rfl, hphase⟩, if_pos (h.lock_of_holder hcall hphase).2] at hheld
      rw [PluginManager.setLock_locks_self, if_neg Bool.false_ne_true]
      omega
    · rw [if_neg (fun hc => hname hc.1)] at hheld
      rw [PluginManager.setLock_locks_of_ne (h.ne_lock hentry hlock' (Ne.symm hname))]
      exact hheld
  case apart => exact h.apart
  case allocated => exact h.allocated

theorem Balanced.podLock (h : Balanced s) (operation : Operation) (name : Text) :
    Balanced { manager := (s.manager.podLock name).2
               calls := { operation, fullPodName := name, mutex := (s.manager.podLock name).1, phase := .waiting } :: s.calls } := by
  cases hlock : s.manager.pods name with
  | some lock =>
    simp only [PluginManager.podLock, hlock]
    exact h.podLock_known hlock ⟨(s.manager.locks lock).refcount + 1, (s.manager.locks lock).locked⟩ rfl rfl operation
  | none =>
    simp only [PluginManager.podLock, hlock]
    refine h.podLock_new hlock (fun lock => ?_) (Function.update_self _ _ _) (fun name' hname => ?_) rfl operation
    · split
      · rename_i heq
        rw [heq]
        exact Function.update_self _ _ _
      · rename_i hne
        exact Function.update_of_ne hne _ _
    · exact Function.update_of_ne hname _ _

theorem Balanced.step {step : Step} (h : Balanced s) (henabled : step.Enabled s) : Balanced (step.run s) := by
  cases step with
  | podLock operation podNamespace podName =>
    exact h.podLock operation (buildPodFullName podName podNamespace)
  | acquire call =>
    obtain ⟨hcall, hphase, hfree⟩ := henabled
    exact h.acquire hcall hphase hfree
  | pluginReturns call =>
    obtain ⟨hcall, hphase⟩ := henabled
    exact h.pluginReturns hcall hphase
  | podUnlock call =>
    obtain ⟨hcall, hphase⟩ := henabled
    have hholds : call.phase ≠ .waiting := by
      rw [hphase]
      exact fun hc => nomatch hc
    rw [Step.run, h.podUnlock_eq hcall hholds]
    dsimp only
    split
    · rename_i hlast
      exact h.podUnlock_last hcall hlast _
    · rename_i hmore
      exact h.podUnlock_more hcall hholds hmore

/-! ### Runs -/

/-- What the locks of pods are for: the calls of a pod share a mutex and one of them is in the plugin, the
    map has the pods with a call in progress and counts their calls, and `podUnlock` finds what it expects. -/
structure Synchronized (s : System) : Prop where
  sameMutex : ∀ call ∈ s.calls, ∀ call' ∈ s.calls, call.fullPodName = call'.fullPodName → call.mutex = call'.mutex
  exclusive : ∀ name, s.calls.countP (fun call => call.fullPodName = name ∧ call.phase = .inPlugin) ≤ 1
  refcount : ∀ name lock, s.manager.pods name = some lock → (s.manager.locks lock).refcount = inProgress name s.calls
  entries : ∀ name, s.manager.pods name ≠ none ↔ ∃ call ∈ s.calls, call.fullPodName = name
  released : ∀ call ∈ s.calls, call.phase = .returned → (s.manager.podUnlock call.fullPodName).1 = .released

/-- In every interleaving of network operations the operations of each pod are synchronized. -/
theorem podLocks_synchronized
    (hr : Reachable (fun s => s = System.initial) (fun s step => Step.Enabled s step) Step.run s) : Synchronized s := by
  have h : Balanced s := by
    refine Reachable.invariant Balanced ?_ (fun s step hs henabled => hs.step henabled) hr
    rintro s rfl
    exact Balanced.initial
  constructor
  case sameMutex =>
    intro call hcall call' hcall' hname
    have hentry := h.entry call hcall
    rw [hname, h.entry call' hcall'] at hentry
    exact (Option.some.inj hentry).symm
  case exclusive =>
    intro name
    have hle : s.calls.countP (fun call => call.fullPodName = name ∧ call.phase = .inPlugin) ≤ holders name s.calls := by
      refine List.countP_mono_left fun call _ hcall => ?_
      obtain ⟨hname, hphase⟩ := of_decide_eq_true hcall
      exact decide_eq_true ⟨hname, by rw [hphase]; exact fun hc => nomatch hc⟩
    cases hlock : s.manager.pods name with
    | none =>
      rw [h.holders_eq_zero hlock] at hle
      omega
    | some lock =>
      have hheld := h.held name lock hlock
      split at hheld <;> omega
  case refcount => exact fun name lock hlock => (h.counted name lock hlock).1
  case entries =>
    intro name
    constructor
    · intro hsome
      obtain ⟨lock, hlock⟩ := Option.ne_none_iff_exists'.mp hsome
      obtain ⟨call, hcall, hname⟩ := List.countP_pos_iff.mp (h.counted name lock hlock).2
      exact ⟨call, hcall, of_decide_eq_true hname⟩
    · rintro ⟨call, hcall, rfl⟩
      rw [h.entry call hcall]
      exact Option.some_ne_none _
  case released =>
    intro call hcall hphase
    rw [h.podUnlock_eq hcall (by rw [hphase]; exact fun hc => nomatch hc)]

def webSetUp : PluginCall :=
  { operation := .setUpPod, fullPodName := buildPodFullName "web" "default", mutex := 0, phase := .waiting }

def waitingSystem : System :=
  (Step.podLock .tearDownPod "default" "web").run
    ((Step.podLock .setUpPod "default" "web").run System.initial)

theorem podLocks_synchronized_web :
    ((Step.acquire webSetUp).run waitingSystem).calls.length = 2 ∧ Synchronized ((Step.acquire webSetUp).run waitingSystem) := by
  have hlength : ((Step.acquire webSetUp).run waitingSystem).calls.length = 2 := by decide
  have henabled : (Step.acquire webSetUp).Enabled waitingSystem := ⟨by decide, rfl, rfl⟩
  exact ⟨hlength, podLocks_synchronized (.call (.call (.call (.start rfl) trivial) trivial) henabled)⟩

end CriDockerd.Network
