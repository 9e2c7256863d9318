import CriDockerd.Core.DockerConfig

/-! The seccomp profile of a file. The profile that Docker is given is that of the file, with the host name left to a
    privileged container; but when no rule is left, Docker is given no profile at all and takes its own. -/

namespace CriDockerd.Core
open Text

/-- The encoder and the decoder of profiles agree. -/
structure SeccompEnv.Decodes (env : SeccompEnv) : Prop where
  decoded : ∀ {spec file text}, env.marshal spec = .ok file → env.compact file = .ok text → env.unmarshal text = .ok spec

/-- A rule that refuses system calls, without the one that sets the host name. -/
def LinuxSyscall.withoutSethostname (scall : LinuxSyscall) : LinuxSyscall :=
  if scall.action = actErrno then { scall with names := scall.names.filter (· ≠ "sethostname") } else scall

/-- The profile to be enforced for one that was read. -/
def LinuxSeccomp.enforced (spec : LinuxSeccomp) : (privileged : Bool) → LinuxSeccomp
  | false => spec
  | true => { spec with syscalls := (spec.syscalls.map LinuxSyscall.withoutSethostname).filter (·.names ≠ []) }

/-- Docker is given one profile, and it is this one. -/
def Enforces (env : SeccompEnv) (opts : List DockerOpt) (spec : LinuxSeccomp) : Prop :=
  ∃ text, opts = [⟨"seccomp", text⟩] ∧ env.unmarshal text = .ok spec

/-- Some name of some rule is kept. -/
def LinuxSeccomp.Remains (spec : LinuxSeccomp) (privileged : Bool) : Prop :=
  ∃ scall ∈ spec.syscalls, ∃ name ∈ scall.names,
    ¬(privileged = true ∧ scall.action = actErrno ∧ name = "sethostname")

/-! ### The filter -/

theorem filterSyscalls_privileged (syscalls : List LinuxSyscall) :
    filterSyscalls true syscalls = (syscalls.map LinuxSyscall.withoutSethostname).filter (·.names ≠ []) := by
  unfold filterSyscalls
  congr 2
  funext scall
  unfold LinuxSyscall.withoutSethostname
  generalize "sethostname" = sethostname
  by_cases haction : scall.action = actErrno
  · rw [if_pos haction]
    simp only [haction, Bool.true_and, decide_true, Bool.and_true, decide_not]
  · rw [if_neg haction]
    simp only [haction, decide_false, Bool.and_false, Bool.not_false, List.filter_true]

theorem filterSyscalls_unprivileged (syscalls : List LinuxSyscall) :
    filterSyscalls false syscalls = syscalls.filter (·.names ≠ []) := by
  simp [filterSyscalls]

theorem filterSyscalls_eq_nil_iff {spec : LinuxSeccomp} {privileged : Bool} :
    filterSyscalls privileged spec.syscalls = [] ↔ ¬spec.Remains privileged := by
  simp only [filterSyscalls, LinuxSeccomp.Remains, List.filter_eq_nil_iff, List.mem_map]
  constructor
  · rintro hnil ⟨scall, hscall, name, hname, hkept⟩
    refine hnil _ ⟨scall, hscall, rfl⟩ (decide_eq_true fun hnone => ?_)
    have hmem := List.filter_eq_nil_iff.mp hnone name hname
    simp only [Bool.not_eq_true', Bool.not_eq_false, Bool.and_eq_true, decide_eq_true_eq] at hmem
    exact hkept ⟨hmem.1.1, hmem.2, hmem.1.2⟩
  · rintro hnone _ ⟨scall, hscall, rfl⟩ hnames
    refine of_decide_eq_true hnames (List.filter_eq_nil_iff.mpr fun name hname => ?_)
    simp only [Bool.not_eq_true', Bool.not_eq_false, Bool.and_eq_true, decide_eq_true_eq]
    by_contra hkept
    exact hnone ⟨scall, hscall, name, hname, fun h => hkept ⟨⟨h.1, h.2.2⟩, h.2.1⟩⟩

/-- The filter leaves the profile to be enforced, unless it drops rules that were without names from the start. -/
theorem filtered_eq_enforced_iff {spec : LinuxSeccomp} {privileged : Bool} :
    { spec with syscalls := filterSyscalls privileged spec.syscalls } = spec.enforced privileged ↔
      (privileged = false → ∀ scall ∈ spec.syscalls, scall.names ≠ []) := by
  cases privileged with
  | true =>
    rw [filterSyscalls_privileged]
    exact iff_of_true rfl nofun
  | false =>
    rw [filterSyscalls_unprivileged]
    simp only [LinuxSeccomp.enforced, forall_const]
    constructor
    · intro heq scall hscall
      have hall : spec.syscalls.filter (·.names ≠ []) = spec.syscalls := congrArg LinuxSeccomp.syscalls heq
      exact of_decide_eq_true (List.filter_eq_self.mp hall scall hscall)
    · intro hnamed
      rw [List.filter_eq_self.mpr fun scall hscall => decide_eq_true (hnamed scall hscall)]

/-! ### The options -/

section
variable {env : SeccompEnv} {ref file : Text} {spec : LinuxSeccomp} {privileged : Bool} {opts : List DockerOpt}

theorem loadSeccompProfile_ok (hfile : env.readFile ref = .ok file) (hspec : env.unmarshal file = .ok spec)
    (h : loadSeccompProfile env ref privileged = .ok opts) :
    filterSyscalls privileged spec.syscalls = [] ∧ opts = [] ∨
      filterSyscalls privileged spec.syscalls ≠ [] ∧ ∃ encoded text,
        env.marshal { spec with syscalls := filterSyscalls privileged spec.syscalls } = .ok encoded ∧
        env.compact encoded = .ok text ∧ opts = [⟨"seccomp", text⟩] := by
  simp only [loadSeccompProfile, hfile, hspec] at h
  cases hfiltered : filterSyscalls privileged spec.syscalls with
  | nil =>
    simp only [hfiltered, Except.ok.injEq] at h
    exact .inl ⟨rfl, h.symm⟩
  | cons scall syscalls =>
    simp only [hfiltered] at h
    cases hencoded : env.marshal { spec with syscalls := scall :: syscalls } with
    | error err =>
      rw [hencoded] at h
      cases h
    | ok encoded =>
      rw [hencoded] at h
      dsimp only at h
      cases hcompact : env.compact encoded with
      | error err =>
        rw [hcompact] at h
        cases h
      | ok text =>
        rw [hcompact] at h
        exact .inr ⟨List.cons_ne_nil _ _, encoded, text, rfl, hcompact, (Except.ok.inj h).symm⟩

theorem getSeccompDockerOpts_localhost
    (h : getSeccompDockerOpts env (some ⟨.localhost, ref⟩) privileged = .ok opts) :
    loadSeccompProfile env ref privileged = .ok opts := by
  unfold getSeccompDockerOpts at h
  dsimp only at h
  split at h
  · cases h
  · exact h

end

/-- For a profile that is read from a file, Docker is given the one to be enforced if and only if some rule is
    left of it and, without privileges, all of its rules have names. -/
theorem getSeccompDockerOpts_enforces_iff {env : SeccompEnv} {ref file : Text} {spec : LinuxSeccomp} {privileged : Bool}
    {opts : List DockerOpt} (henv : env.Decodes) (hfile : env.readFile ref = .ok file)
    (hspec : env.unmarshal file = .ok spec)
    (hopts : getSeccompDockerOpts env (some ⟨.localhost, ref⟩) privileged = .ok opts) :
    Enforces env opts (spec.enforced privileged) ↔
      spec.Remains privileged ∧ (privileged = false → ∀ scall ∈ spec.syscalls, scall.names ≠ []) := by
  rcases loadSeccompProfile_ok hfile hspec (getSeccompDockerOpts_localhost hopts) with
    ⟨hnil, rfl⟩ | ⟨hleft, encoded, text, hencoded, htext, rfl⟩
  · refine iff_of_false ?_ fun h => filterSyscalls_eq_nil_iff.mp hnil h.1
    rintro ⟨text, hnone, -⟩
    cases hnone
  · have hremains : spec.Remains privileged := by
      by_contra hnone
      exact hleft (filterSyscalls_eq_nil_iff.mpr hnone)
    have hdecoded := henv.decoded hencoded htext
    rw [and_iff_right hremains, ← filtered_eq_enforced_iff]
    constructor
    · rintro ⟨text', hopt, henforced⟩
      cases hopt
      rw [hdecoded] at henforced
      exact Except.ok.inj henforced
    · intro heq
      exact ⟨text, rfl, hdecoded.trans (congrArg Except.ok heq)⟩

def oneProfile (spec : LinuxSeccomp) (text : Text) : SeccompEnv where
  readFile _ := .ok text
  unmarshal file := if file = text then .ok spec else .error (.text "unexpected end of JSON input")
  marshal spec' := if spec' = spec then .ok text else .error (.text "json: unsupported value")
  compact := .ok

theorem oneProfile_unmarshal (spec : LinuxSeccomp) (text : Text) : (oneProfile spec text).unmarshal text = .ok spec :=
  if_pos rfl

theorem oneProfile_decodes (spec : LinuxSeccomp) (text : Text) : (oneProfile spec text).Decodes where
  decoded {spec' file text'} hencoded htext := by
    cases Except.ok.inj htext
    simp only [oneProfile] at hencoded ⊢
    split at hencoded
    · next hspec =>
      cases hencoded
      rw [if_pos rfl, hspec]
    · cases hencoded

theorem getSeccompDockerOpts_oneProfile {spec : LinuxSeccomp} {privileged : Bool}
    (hspec : filterSyscalls privileged spec.syscalls = spec.syscalls) (text : Text) :
    getSeccompDockerOpts (oneProfile spec text) (some ⟨.localhost, "/profile"⟩) privileged =
      .ok (if spec.syscalls = [] then [] else [⟨"seccomp", text⟩]) := by
  have hload : getSeccompDockerOpts (oneProfile spec text) (some ⟨.localhost, "/profile"⟩) privileged =
      loadSeccompProfile (oneProfile spec text) "/profile" privileged := rfl
  rw [hload]
  simp only [loadSeccompProfile, oneProfile, if_true, hspec]
  cases hsyscalls : spec.syscalls with
  | nil => rfl
  | cons scall syscalls =>
    rw [if_neg (List.cons_ne_nil _ _)]
    dsimp only
    rw [← hsyscalls, if_pos rfl]
    rfl

def chmodProfile : LinuxSeccomp where
  defaultAction := "SCMP_ACT_ALLOW"
  syscalls := [{ names := ["chmod", "fchmodat"], action := actErrno }]

def chmodText : Text :=
  ("\x7b\"defaultAction\":\"SCMP_ACT_ALLOW\",\"syscalls\":" ++
    "[\x7b\"names\":[\"chmod\",\"fchmodat\"],\"action\":\"SCMP_ACT_ERRNO\"\x7d]\x7d").toList

theorem getSeccompDockerOpts_enforces_chmod :
    Enforces (oneProfile chmodProfile chmodText) [⟨"seccomp", chmodText⟩] (chmodProfile.enforced true) := by
  have hopts := getSeccompDockerOpts_oneProfile (show filterSyscalls true chmodProfile.syscalls = _ by decide) chmodText
  rw [if_neg (by decide)] at hopts
  refine (getSeccompDockerOpts_enforces_iff (oneProfile_decodes _ _) rfl (oneProfile_unmarshal _ _) hopts).mpr ⟨?_, nofun⟩
  exact ⟨_, List.mem_singleton_self _, "chmod", List.mem_cons_self, fun h => absurd h.2.2 (by decide)⟩

def refuseProfile : LinuxSeccomp where
  defaultAction := actErrno

def refuseText : Text := "\x7b\"defaultAction\":\"SCMP_ACT_ERRNO\"\x7d"

/-- A profile that refuses all system calls has no rules, so Docker is told nothing of it. -/
theorem getSeccompDockerOpts_refuse_lost :
    (oneProfile refuseProfile refuseText).readFile "/profile" = .ok refuseText ∧
      (oneProfile refuseProfile refuseText).unmarshal refuseText = .ok refuseProfile ∧
      getSeccompDockerOpts (oneProfile refuseProfile refuseText) (some ⟨.localhost, "/profile"⟩) false = .ok [] ∧
      ¬Enforces (oneProfile refuseProfile refuseText) [] (refuseProfile.enforced false) := by
  refine ⟨rfl, oneProfile_unmarshal _ _, ?_, ?_⟩
  · exact getSeccompDockerOpts_oneProfile (show filterSyscalls false refuseProfile.syscalls = _ from rfl) _
  · rintro ⟨text, hnone, -⟩
    cases hnone

end CriDockerd.Core
