import CriDockerd.Core.Exec

/-! The timeouts of StopContainer and ExecSync. A request tells them in seconds, and they are multiplied into
    nanoseconds: they are kept as long as the nanoseconds fit, and a longer timeout becomes another one. -/

namespace CriDockerd.Core.Exec
open Text

def maxSeconds : Int := 9223372036

/-- Docker is given all of the seconds to stop the container in, and the request does not end before them. -/
def StopInTime (d : Client) (t : Int64) : Prop :=
  0 ≤ t.toInt → ∀ answer id,
    (stopContainer d answer ⟨id, t⟩).2.timeout = t ∧ t.toInt * 1000000000 ≤ (stopContainer d answer ⟨id, t⟩).2.deadline

/-- A process that is started has the deadline of the timeout, or that of the call if it is before. -/
def ExecInTime (t : Int64) : Prop :=
  0 < t.toInt → ∀ env ctx id deadline, (execSync env ctx ⟨id, t⟩).2.started = some deadline →
    deadline = some (ctx.elim (t.toInt * 1000000000) fun own => min own (t.toInt * 1000000000))

/-! ### Nanoseconds -/

theorem toInt_mul_second {t : Int64} (h0 : 0 ≤ t.toInt) (ht : t.toInt ≤ maxSeconds) :
    (t * second).toInt = t.toInt * 1000000000 := by
  have hsecond : second.toInt = 1000000000 := by decide
  unfold maxSeconds at ht
  rw [Int64.toInt_mul, hsecond]
  exact Int.bmod_eq_of_le (by omega) (by omega)

theorem toInt_lt_of_long {t : Int64} (ht : maxSeconds < t.toInt) (d : Duration) : d.toInt < t.toInt * 1000000000 := by
  have hmax := Int64.toInt_le d
  unfold maxSeconds at ht
  have hmaxValue : Int64.maxValue.toInt = 9223372036854775807 := by decide
  omega

/-! ### StopContainer -/

theorem stopContainer_call (d : Client) (answer : Option DockerError) (r : StopContainerRequest) :
    (stopContainer d answer r).2 = d.stopContainer r.containerId (r.timeout * second) := by
  unfold stopContainer
  cases answer with
  | none => rfl
  | some err =>
    dsimp only
    split <;> rfl

theorem le_getCustomTimeout (d : Client) (timeout : Duration) : timeout.toInt ≤ (d.getCustomTimeout timeout).toInt := by
  unfold Client.getCustomTimeout
  split
  · next hlonger => exact Int.le_of_lt (Int64.lt_iff_toInt_lt.mp hlonger)
  · exact Int.le_refl _

theorem stopInTime_iff (d : Client) (t : Int64) : StopInTime d t ↔ t.toInt ≤ maxSeconds := by
  constructor
  · intro hstop
    by_contra hlong
    have hlong : maxSeconds < t.toInt := Int.not_le.mp hlong
    have h0 : 0 ≤ t.toInt := by
      unfold maxSeconds at hlong
      omega
    have hdeadline := (hstop h0 none []).2
    rw [stopContainer_call] at hdeadline
    exact absurd hdeadline (Int.not_le.mpr (toInt_lt_of_long hlong _))
  · intro ht h0 answer id
    have hexact := toInt_mul_second h0 ht
    rw [stopContainer_call]
    refine ⟨d.seconds.whole t hexact, ?_⟩
    rw [← hexact]
    exact le_getCustomTimeout d (t * second)

/-! ### ExecSync -/

theorem execSync_started {env : ExecEnv} {ctx : Option Int} {req : ExecSyncRequest} {deadline : Option Int}
    (h : (execSync env ctx req).2.started = some deadline) : deadline = execContext ctx (req.timeout * second) := by
  unfold execSync execWithContext at h
  cases hcontainer : env.inspectContainer with
  | error err => simp [hcontainer] at h
  | ok container =>
    obtain ⟨id, running⟩ := container
    cases running with
    | false => simp [hcontainer] at h
    | true =>
      cases hcreated : env.createExec with
      | some err => simp [hcontainer, execInContainer, hcreated] at h
      | none =>
        cases hstarted : env.startExec (execContext ctx (req.timeout * second)) with
        | expired err =>
          simp only [hcontainer, execInContainer, hcreated, hstarted] at h
          exact (Option.some.inj h).symm
        | returned err =>
          cases err <;>
          · simp only [hcontainer, execInContainer, hcreated, hstarted] at h
            exact (Option.some.inj h).symm

def exitsAtOnce : ExecEnv where
  inspectContainer := .ok ([], true)
  createExec := none
  startExec _ := .returned none
  stdout := []
  stderr := []
  inspectExec _ := .ok { running := false, exitCode := 0 }

theorem execInTime_iff (t : Int64) : ExecInTime t ↔ t.toInt ≤ maxSeconds := by
  constructor
  · intro hexec
    by_contra hlong
    have hlong : maxSeconds < t.toInt := Int.not_le.mp hlong
    have h0 : 0 < t.toInt := by
      unfold maxSeconds at hlong
      omega
    have hdeadline : execContext none (t * second) = some (t.toInt * 1000000000) := hexec h0 exitsAtOnce none [] _ rfl
    unfold execContext at hdeadline
    split at hdeadline
    · exact absurd (Option.some.inj hdeadline) (Int.ne_of_lt (toInt_lt_of_long hlong _))
    · cases hdeadline
  · intro ht h0 env ctx id deadline hstarted
    have hexact := toInt_mul_second (Int.le_of_lt h0) ht
    have hpos : t * second > 0 := by
      refine Int64.lt_iff_toInt_lt.mpr ?_
      rw [hexact]
      have hzero : (0 : Int64).toInt = 0 := by decide
      omega
    rw [execSync_started hstarted]
    unfold execContext withTimeout
    rw [if_pos hpos, hexact]
    cases ctx <;> rfl

/-! ### The timeouts that are kept -/

/-- StopContainer keeps to the timeout of its request, and so does ExecSync, if and only if its nanoseconds fit
    in 64 bits. -/
theorem timeouts_kept_iff (d : Client) (t : Int64) :
    (StopInTime d t ↔ t.toInt ≤ maxSeconds) ∧ (ExecInTime t ↔ t.toInt ≤ maxSeconds) :=
  ⟨stopInTime_iff d t, execInTime_iff t⟩

def wholeSeconds : Seconds where
  of d := Int64.ofInt (d.toInt.tdiv 1000000000)
  whole n h := by
    rw [h, Int.mul_tdiv_cancel _ (by decide), Int64.ofInt_toInt]

def twoMinutes : Client where
  timeout := 120 * second
  seconds := wholeSeconds

/-- The least timeout that does not fit gives a negative duration: the grace period is negative, the request ends after
    two minutes, and a process is started with no deadline. Twice as much gives less than a second. -/
theorem timeouts_wrapped :
    (stopContainer twoMinutes none ⟨"c1", 9223372037⟩).2 = ⟨"c1", -9223372036, 120000000000⟩ ∧
      (execSync exitsAtOnce none ⟨"c1", 9223372037⟩).2.started = some none ∧
      (stopContainer twoMinutes none ⟨"c1", 18446744074⟩).2 = ⟨"c1", 0, 120000000000⟩ ∧
      (execSync exitsAtOnce none ⟨"c1", 18446744074⟩).2.started = some (some 290448384) := by
  decide

end CriDockerd.Core.Exec
