import CriDockerd.Core.Exec

/-! The exit code in the response of ExecSync. It is the one that Docker has reported, unless Docker reports the process
    as running each time that it is asked; then the code is 0. -/

namespace CriDockerd.Core.Exec
open Text

/-- What is told of the process is what Docker has reported. -/
structure TellsExit (result : Except RpcError ExecSyncResponse × Trace) : Prop where
  zero : ∀ response, result.1 = .ok response → response.exitCode = 0 →
    ∃ inspect ∈ result.2.reported, inspect.running = false ∧ inspect.exitCode = 0
  finished : ∀ inspect ∈ result.2.reported, inspect.running = false → -2147483648 ≤ inspect.exitCode.toInt →
    inspect.exitCode.toInt < 2147483648 → ∃ response, result.1 = .ok response ∧ response.exitCode.toInt = inspect.exitCode.toInt

/-- The container is running, and StartExec returns without an error. -/
structure Attached (env : ExecEnv) (ctx : Option Int) (timeout : Duration) : Prop where
  running : ∃ id, env.inspectContainer = .ok (id, true)
  created : env.createExec = none
  returned : env.startExec (execContext ctx timeout) = .returned none

/-- The process is reported as running each time. -/
def Running (inspectExec : Nat → Except DockerError ExecInspect) (calls n : Nat) : Prop :=
  ∀ j < n, ∃ inspect, inspectExec (calls + j) = .ok inspect ∧ inspect.running = true

/-- After some reports of a running process and before the last call there is an error, or the process is reported as
    finished with an exit code that an `int32` does not make 0 of. -/
def Settles (inspectExec : Nat → Except DockerError ExecInspect) : Prop :=
  ∃ k < maxRetries, Running inspectExec 0 k ∧
    ((∃ err, inspectExec k = .error err) ∨
      ∃ inspect, inspectExec k = .ok inspect ∧ inspect.running = false ∧
        (inspect.exitCode = 0 ∨ inspect.exitCode.toInt32 ≠ 0))

/-! ### The loop -/

section
variable {inspectExec : Nat → Except DockerError ExecInspect}

theorem Running.succ {calls k : Nat} {inspect : ExecInspect} (hfirst : inspectExec calls = .ok inspect)
    (hrunning : inspect.running = true) (h : Running inspectExec (calls + 1) k) : Running inspectExec calls (k + 1) := by
  intro j hj
  cases j with
  | zero => exact ⟨inspect, hfirst, hrunning⟩
  | succ j =>
    have hnext := h j (Nat.lt_of_succ_lt_succ hj)
    rwa [Nat.add_assoc, Nat.add_comm 1 j] at hnext

/-- How the loop ends, and what Docker has reported until then. -/
inductive LoopEnd (inspectExec : Nat → Except DockerError ExecInspect) (left calls : Nat) :
    Option ExecError × List ExecInspect → Prop
  | exhausted {runs : List ExecInspect} (hrunning : Running inspectExec calls left) (hruns : ∀ i ∈ runs, i.running = true) :
      LoopEnd inspectExec left calls (none, runs)
  | failed {k : Nat} {runs : List ExecInspect} {err : DockerError} (hk : k < left) (hrunning : Running inspectExec calls k)
      (hruns : ∀ i ∈ runs, i.running = true) (herr : inspectExec (calls + k) = .error err) :
      LoopEnd inspectExec left calls (some (.docker err), runs)
  | finished {k : Nat} {runs : List ExecInspect} {inspect : ExecInspect} (hk : k < left)
      (hrunning : Running inspectExec calls k) (hruns : ∀ i ∈ runs, i.running = true)
      (hinspect : inspectExec (calls + k) = .ok inspect) (hfinished : inspect.running = false) :
      LoopEnd inspectExec left calls
        (if inspect.exitCode ≠ 0 then some (.dockerExitError inspect) else none, runs ++ [inspect])

theorem inspectLoop_ends (inspectExec : Nat → Except DockerError ExecInspect) (left calls : Nat) :
    LoopEnd inspectExec left calls (inspectLoop inspectExec left calls) := by
  induction left generalizing calls with
  | zero => exact .exhausted (fun j hj => absurd hj (Nat.not_lt_zero j)) fun i hi => absurd hi List.not_mem_nil
  | succ left ih =>
    have hnone : Running inspectExec calls 0 := fun j hj => absurd hj (Nat.not_lt_zero j)
    have hnil : ∀ i ∈ ([] : List ExecInspect), i.running = true := fun i hi => absurd hi List.not_mem_nil
    rw [inspectLoop]
    cases hinspect : inspectExec calls with
    | error err => exact .failed (Nat.succ_pos left) hnone hnil hinspect
    | ok inspect =>
      dsimp only
      cases hrunning : inspect.running with
      | false => exact .finished (Nat.succ_pos left) hnone hnil hinspect hrunning
      | true =>
        have hcons : ∀ {runs : List ExecInspect}, (∀ i ∈ runs, i.running = true) →
            ∀ i ∈ inspect :: runs, i.running = true := fun hruns => List.forall_mem_cons.mpr ⟨hrunning, hruns⟩
        have hshift : ∀ k, calls + 1 + k = calls + (k + 1) := fun k => by omega
        have hend := ih (calls + 1)
        rw [if_neg (by decide)]
        generalize inspectLoop inspectExec left (calls + 1) = ended at hend
        cases hend with
        | exhausted hrest hruns => exact .exhausted (hrest.succ hinspect hrunning) (hcons hruns)
        | failed hk hrest hruns herr =>
          rw [hshift] at herr
          exact .failed (Nat.succ_lt_succ hk) (hrest.succ hinspect hrunning) (hcons hruns) herr
        | finished hk hrest hruns hlast hfinished =>
          rw [hshift] at hlast
          exact .finished (Nat.succ_lt_succ hk) (hrest.succ hinspect hrunning) (hcons hruns) hlast hfinished

theorem Running.unique {k k' : Nat} (h : Running inspectExec 0 k) (h' : Running inspectExec 0 k')
    (hk : ∀ inspect, inspectExec k = .ok inspect → inspect.running = false)
    (hk' : ∀ inspect, inspectExec k' = .ok inspect → inspect.running = false) : k = k' := by
  have hbefore : ∀ {m n : Nat}, Running inspectExec 0 n → (∀ inspect, inspectExec m = .ok inspect → inspect.running = false) →
      n ≤ m := by
    intro m n hn hm
    by_contra hlt
    obtain ⟨inspect, hinspect, hrunning⟩ := hn m (Nat.lt_of_not_le hlt)
    rw [Nat.zero_add] at hinspect
    rw [hm inspect hinspect] at hrunning
    cases hrunning
  exact Nat.le_antisymm (hbefore h hk') (hbefore h' hk)

/-- When the loop ends with a report of the end, it is the exit code of that report that matters. -/
theorem settles_iff_of_finished {k : Nat} {inspect : ExecInspect} (hk : k < maxRetries) (hrunning : Running inspectExec 0 k)
    (hinspect : inspectExec k = .ok inspect) (hfinished : inspect.running = false) :
    Settles inspectExec ↔ inspect.exitCode = 0 ∨ inspect.exitCode.toInt32 ≠ 0 := by
  constructor
  · rintro ⟨k', -, hrunning', hends⟩
    have hk' : k = k' := by
      refine hrunning.unique hrunning' ?_ ?_
      · intro i hi
        rw [hinspect] at hi
        cases hi
        exact hfinished
      · intro i hi
        rcases hends with ⟨err, herr⟩ | ⟨inspect', hinspect', hfinished', -⟩
        · rw [herr] at hi
          cases hi
        · rw [hinspect'] at hi
          cases hi
          exact hfinished'
    subst hk'
    rcases hends with ⟨err, herr⟩ | ⟨inspect', hinspect', -, hcode⟩
    · rw [herr] at hinspect
      cases hinspect
    · rw [hinspect'] at hinspect
      cases hinspect
      exact hcode
  · intro hcode
    exact ⟨k, hk, hrunning, .inr ⟨inspect, hinspect, hfinished, hcode⟩⟩

end

/-! ### The response -/

section
variable {env : ExecEnv} {ctx : Option Int} {req : ExecSyncRequest}

theorem execSync_of_attached (h : Attached env ctx (req.timeout * second)) :
    (execSync env ctx req).1 = execResponse env (inspectLoop env.inspectExec maxRetries 0).1 ∧
      (execSync env ctx req).2.reported = (inspectLoop env.inspectExec maxRetries 0).2 := by
  obtain ⟨⟨id, hrunning⟩, hcreated, hreturned⟩ := h
  simp only [execSync, execWithContext, hrunning, execInContainer, hcreated, hreturned]
  exact ⟨rfl, rfl⟩

theorem execSync_of_not_attached (h : ¬Attached env ctx (req.timeout * second)) :
    (∃ err, (execSync env ctx req).1 = .error err) ∧ (execSync env ctx req).2.reported = [] := by
  have herror : ∀ err : DockerError, ∃ rpcErr, execResponse env (some (.docker err)) = .error rpcErr := by
    intro err
    cases err <;> exact ⟨_, rfl⟩
  unfold execSync execWithContext
  cases hinspect : env.inspectContainer with
  | error err => exact ⟨herror err, rfl⟩
  | ok container =>
    obtain ⟨id, running⟩ := container
    cases running with
    | false =>
      dsimp only
      rw [if_pos (by decide)]
      exact ⟨herror _, rfl⟩
    | true =>
      dsimp only
      rw [if_neg (by decide), execInContainer]
      cases hcreated : env.createExec with
      | some err => exact ⟨herror _, rfl⟩
      | none =>
        dsimp only
        cases hstarted : env.startExec (execContext ctx (req.timeout * second)) with
        | expired err => exact ⟨herror err, rfl⟩
        | returned err =>
          cases err with
          | some err => exact ⟨herror err, rfl⟩
          | none => exact absurd ⟨⟨id, hinspect⟩, hcreated, hstarted⟩ h

theorem toInt32_toInt {n : Int64} (hlo : -2147483648 ≤ n.toInt) (hhi : n.toInt < 2147483648) : n.toInt32.toInt = n.toInt := by
  rw [Int64.toInt_toInt32]
  exact Int.bmod_eq_of_le (by omega) (by omega)

theorem not_settles_of_running {inspectExec : Nat → Except DockerError ExecInspect} (hrunning : Running inspectExec 0 maxRetries) :
    ¬Settles inspectExec := by
  rintro ⟨k, hk, -, hlast⟩
  obtain ⟨inspect, hinspect, hstill⟩ := hrunning k hk
  rw [Nat.zero_add] at hinspect
  rcases hlast with ⟨err, herr⟩ | ⟨inspect', hinspect', hfinished, -⟩
  · rw [herr] at hinspect
    cases hinspect
  · rw [hinspect'] at hinspect
    cases hinspect
    rw [hstill] at hfinished
    cases hfinished

theorem tellsExit_of_finished {result : Except RpcError ExecSyncResponse × Trace} {inspect : ExecInspect}
    (hresponse : result.1 = execResponse env (if inspect.exitCode ≠ 0 then some (.dockerExitError inspect) else none))
    (hmem : inspect ∈ result.2.reported) (hfinished : inspect.running = false)
    (hlast : ∀ inspect' ∈ result.2.reported, inspect'.running = false → inspect' = inspect) :
    TellsExit result ↔ inspect.exitCode = 0 ∨ inspect.exitCode.toInt32 ≠ 0 := by
  by_cases hzero : inspect.exitCode = 0
  · rw [if_neg (not_not_intro hzero)] at hresponse
    refine iff_of_true ⟨fun response hok hcode => ⟨inspect, hmem, hfinished, hzero⟩, ?_⟩ (.inl hzero)
    intro inspect' hmem' hfinished' _ _
    rw [hlast inspect' hmem' hfinished', hzero]
    exact ⟨_, hresponse, rfl⟩
  · rw [if_pos hzero] at hresponse
    constructor
    · intro htells
      refine .inr fun hlost => ?_
      obtain ⟨inspect', hmem', hfinished', hcode⟩ := htells.zero _ hresponse hlost
      rw [hlast inspect' hmem' hfinished'] at hcode
      exact hzero hcode
    · intro hcode
      refine ⟨fun response hok hcode' => ?_, ?_⟩
      · rw [hresponse] at hok
        cases hok
        exact absurd hcode' (hcode.resolve_left hzero)
      · intro inspect' hmem' hfinished' hlo hhi
        rw [hlast inspect' hmem' hfinished'] at hlo hhi ⊢
        exact ⟨_, hresponse, toInt32_toInt hlo hhi⟩

theorem tellsExit_of_loopEnd {ended : Option ExecError × List ExecInspect} {result : Except RpcError ExecSyncResponse × Trace}
    (hend : LoopEnd env.inspectExec maxRetries 0 ended) (hresponse : result.1 = execResponse env ended.1)
    (hreported : result.2.reported = ended.2) : TellsExit result ↔ Settles env.inspectExec := by
  cases hend with
  | exhausted hrunning hruns =>
    refine iff_of_false (fun htells => ?_) (not_settles_of_running hrunning)
    obtain ⟨inspect, hinspect, hfinished, -⟩ := htells.zero _ hresponse rfl
    rw [hreported] at hinspect
    rw [hruns inspect hinspect] at hfinished
    cases hfinished
  | @failed k runs err hk hrunning hruns herr =>
    rw [Nat.zero_add] at herr
    refine iff_of_true ⟨fun response hok => ?_, fun inspect hinspect hfinished => ?_⟩ ⟨k, hk, hrunning, .inl ⟨err, herr⟩⟩
    · rw [hresponse] at hok
      cases err <;> cases hok
    · rw [hreported] at hinspect
      rw [hruns inspect hinspect] at hfinished
      cases hfinished
  | @finished k runs inspect hk hrunning hruns hinspect hfinished =>
    rw [Nat.zero_add] at hinspect
    rw [settles_iff_of_finished hk hrunning hinspect hfinished]
    refine tellsExit_of_finished hresponse ?_ hfinished ?_
    · rw [hreported]
      exact List.mem_append_right _ (List.mem_singleton_self inspect)
    · -- Only the last report is one of a process that has finished.
      intro inspect' hmem hfinished'
      rw [hreported] at hmem
      rcases List.mem_append.mp hmem with hmem | hmem
      · rw [hruns inspect' hmem] at hfinished'
        cases hfinished'
      · exact List.mem_singleton.mp hmem

end

/-- The exit code is the one that Docker has reported if and only if, once StartExec has returned, one of the
    first five reports is not that the process is running (and its exit code is not one that an `int32` makes 0 of). -/
theorem execSync_tellsExit_iff (env : ExecEnv) (ctx : Option Int) (req : ExecSyncRequest) :
    TellsExit (execSync env ctx req) ↔ (Attached env ctx (req.timeout * second) → Settles env.inspectExec) := by
  by_cases hattached : Attached env ctx (req.timeout * second)
  · obtain ⟨hresponse, hreported⟩ := execSync_of_attached hattached
    rw [tellsExit_of_loopEnd (inspectLoop_ends env.inspectExec maxRetries 0) hresponse hreported]
    exact ⟨fun hsettles _ => hsettles, fun hsettles => hsettles hattached⟩
  · obtain ⟨⟨err, herr⟩, hreported⟩ := execSync_of_not_attached hattached
    refine iff_of_true ⟨fun response hok => ?_, fun inspect hinspect => ?_⟩ fun h => absurd h hattached
    · rw [herr] at hok
      cases hok
    · rw [hreported] at hinspect
      exact absurd hinspect List.not_mem_nil

/-- Docker's answers for an exec whose session has ended, with its process running on. -/
def leftRunning : ExecEnv where
  inspectContainer := .ok ("c1", true)
  createExec := none
  startExec _ := .returned none
  stdout := []
  stderr := []
  inspectExec _ := .ok { running := true, exitCode := 0 }

/-- A process that is still running is told as one that has exited with 0. -/
theorem execSync_running_success :
    (execSync leftRunning none { containerId := "c1", timeout := 0 }).1 =
        .ok { stdout := [], stderr := [], exitCode := 0 } ∧
      (execSync leftRunning none { containerId := "c1", timeout := 0 }).2.reported =
        List.replicate 5 { running := true, exitCode := 0 } ∧
      ¬TellsExit (execSync leftRunning none { containerId := "c1", timeout := 0 }) := by
  have hreported : (execSync leftRunning none { containerId := "c1", timeout := 0 }).2.reported =
      List.replicate 5 { running := true, exitCode := 0 } := by decide
  have hok : (execSync leftRunning none { containerId := "c1", timeout := 0 }).1 =
      .ok { stdout := [], stderr := [], exitCode := 0 } := by decide
  refine ⟨hok, hreported, fun htells => ?_⟩
  obtain ⟨inspect, hinspect, hfinished, -⟩ := htells.zero _ hok rfl
  rw [hreported] at hinspect
  rw [List.eq_of_mem_replicate hinspect] at hfinished
  cases hfinished

end CriDockerd.Core.Exec
