import CriDockerd.Lib.Strconv
import CriDockerd.Core.Requests

/-! The Docker names of sandboxes and containers. A name is the list of its parts joined by underscores, so that it
    can be split again when no part has an underscore; a random suffix is one more part. -/

namespace CriDockerd.Core
open Text

/-! ### Names -/

/-- Metadata with names as Kubernetes makes them, and an attempt that is a `uint32`. -/
structure PodSandboxMetadata.Delimited (m : PodSandboxMetadata) : Prop where
  name : nameDelimiter ∉ m.name
  namespace_ : nameDelimiter ∉ m.namespace_
  uid : nameDelimiter ∉ m.uid
  attempt : m.attempt < 2 ^ 32

structure ContainerMetadata.Delimited (m : ContainerMetadata) : Prop where
  name : nameDelimiter ∉ m.name
  attempt : m.attempt < 2 ^ 32

/-- What a container's name stands for. -/
def containerIdentity (pod : PodSandboxMetadata) (container : ContainerMetadata) : Text × Text × Text × ContainerMetadata :=
  (pod.name, pod.namespace_, pod.uid, container)

/-- The name that Docker is given for a container: the first one, or that of the second attempt. -/
inductive Given (name : Text) : Text → Prop
  | first : Given name name
  | again (random : UInt32) : Given name (randomizeName name random)

/-- The name as Docker may tell it, with a slash in front or without. -/
inductive Told (name : Text) : Text → Prop
  | plain {given : Text} (h : Given name given) : Told name given
  | slashed {given : Text} (h : Given name given) : Told name ('/' :: given)

def nameParts (container : Text) (pod : PodSandboxMetadata) (attempt : Nat) : List Text :=
  [kubePrefix, container, pod.name, pod.namespace_, pod.uid, itoa attempt]

theorem makeContainerName_eq {s : Runtimeapi.PodSandboxConfig} {c : Runtimeapi.ContainerConfig} {pod : PodSandboxMetadata}
    {container : ContainerMetadata} (hpod : s.metadata = some pod) (hcontainer : c.metadata = some container) :
    Requests.makeContainerName s c = some (join [nameDelimiter] (nameParts container.name pod container.attempt)) := by
  rw [Requests.makeContainerName, hpod, hcontainer]
  rfl

/-! ### Numbers -/

theorem parseUint32_itoa {n : Nat} (h : n < 2 ^ 32) : parseUint32 (itoa n) = .ok n := by
  have hdigits : ∀ c ∈ itoa n, c.isDigit = true := fun c => isDigit_of_mem_itoa
  have hvalue := ofDigitChars_itoa n
  rw [parseUint32, Strconv.parseUint, if_neg (itoa_ne_nil n), Strconv.parseUintLoop_of_digits hdigits (by rw [hvalue]; omega),
    hvalue]
  rfl

/-! ### Splitting -/

theorem not_delimiter_itoa (n : Nat) : nameDelimiter ∉ itoa n := by
  intro hmem
  have hdigit : nameDelimiter.isDigit = true := isDigit_of_mem_itoa hmem
  revert hdigit
  decide

theorem not_delimiter_randomSuffix (random : UInt32) : nameDelimiter ∉ randomSuffix random := by
  intro hmem
  rcases List.mem_append.mp hmem with hzero | hdigit
  · have heq := List.eq_of_mem_replicate hzero
    revert heq
    decide
  · have hhex := NetIP.isHex_of_mem_toDigits hdigit
    revert hhex
    decide

theorem nameParts_delimited {container : Text} {pod : PodSandboxMetadata} (hcontainer : nameDelimiter ∉ container)
    (hpod : pod.Delimited) (attempt : Nat) : ∀ part ∈ nameParts container pod attempt, nameDelimiter ∉ part := by
  simp only [nameParts, List.forall_mem_cons]
  exact ⟨by decide, hcontainer, hpod.name, hpod.namespace_, hpod.uid, not_delimiter_itoa attempt, by simp⟩

theorem randomizeName_join {part : Text} {parts : List Text} (random : UInt32) :
    randomizeName (join [nameDelimiter] (part :: parts)) random =
      join [nameDelimiter] (part :: (parts ++ [randomSuffix random])) := by
  induction parts generalizing part with
  | nil =>
    rw [join_singleton]
    rfl
  | cons next rest ih =>
    have hnext := @ih next
    rw [randomizeName, join_cons_cons, join_singleton] at hnext ⊢
    rw [join_cons_cons, List.cons_append, join_cons_cons, ← hnext]
    simp only [List.append_assoc]

theorem split_given {container given : Text} {pod : PodSandboxMetadata} {attempt : Nat}
    (hcontainer : nameDelimiter ∉ container) (hpod : pod.Delimited)
    (h : Given (join [nameDelimiter] (nameParts container pod attempt)) given) :
    ∃ rest, rest.length ≤ 1 ∧ split given nameDelimiter = nameParts container pod attempt ++ rest := by
  have hparts := nameParts_delimited hcontainer hpod attempt
  cases h with
  | first => exact ⟨[], Nat.zero_le 1, List.splitOn_intercalate _ hparts (List.cons_ne_nil _ _)⟩
  | again random =>
    refine ⟨[randomSuffix random], Nat.le_refl 1, ?_⟩
    rw [nameParts, randomizeName_join]
    refine List.splitOn_intercalate _ (fun part hpart => ?_) (List.cons_ne_nil _ _)
    have hmem : part ∈ nameParts container pod attempt ++ [randomSuffix random] := hpart
    rcases List.mem_append.mp hmem with hpart | hpart
    · exact hparts part hpart
    · rw [List.mem_singleton.mp hpart]
      exact not_delimiter_randomSuffix random

theorem trimPrefix_told {container told : Text} {pod : PodSandboxMetadata} {attempt : Nat}
    (h : Told (join [nameDelimiter] (nameParts container pod attempt)) told) :
    Given (join [nameDelimiter] (nameParts container pod attempt)) (trimPrefix told ['/']) := by
  cases h with
  | plain hgiven =>
    cases hgiven with
    | first => exact Given.first
    | again random => exact Given.again random
  | slashed hgiven => exact hgiven

/-! ### Parsing -/

theorem parseSandboxName_told {told : Text} {pod : PodSandboxMetadata} (hpod : pod.Delimited)
    (h : Told (join [nameDelimiter] (nameParts sandboxContainerName pod pod.attempt)) told) :
    parseSandboxName told = .ok pod := by
  obtain ⟨rest, hrest, hsplit⟩ := split_given (by decide) hpod (trimPrefix_told h)
  rw [parseSandboxName, hsplit]
  simp only [nameParts, List.cons_append, List.nil_append, if_neg (Nat.not_lt.mpr hrest), ne_eq, not_true_eq_false,
    if_false, parseUint32_itoa hpod.attempt]

theorem parseContainerName_told {told : Text} {pod : PodSandboxMetadata} {container : ContainerMetadata}
    (hpod : pod.Delimited) (hcontainer : container.Delimited)
    (h : Told (join [nameDelimiter] (nameParts container.name pod container.attempt)) told) :
    parseContainerName told = .ok container := by
  obtain ⟨rest, hrest, hsplit⟩ := split_given hcontainer.name hpod (trimPrefix_told h)
  rw [parseContainerName, hsplit]
  simp only [nameParts, List.cons_append, List.nil_append, if_neg (Nat.not_lt.mpr hrest), ne_eq, not_true_eq_false,
    if_false, parseUint32_itoa hcontainer.attempt]

/-! ### Collisions -/

section
variable {container container' given : Text} {pod pod' : PodSandboxMetadata} {attempt attempt' : Nat}

theorem nameParts_eq_of_given (hcontainer : nameDelimiter ∉ container) (hcontainer' : nameDelimiter ∉ container')
    (hpod : pod.Delimited) (hpod' : pod'.Delimited)
    (h : Given (join [nameDelimiter] (nameParts container pod attempt)) given)
    (h' : Given (join [nameDelimiter] (nameParts container' pod' attempt')) given) :
    nameParts container pod attempt = nameParts container' pod' attempt' := by
  obtain ⟨rest, -, hsplit⟩ := split_given hcontainer hpod h
  obtain ⟨rest', -, hsplit'⟩ := split_given hcontainer' hpod' h'
  exact (List.append_inj (hsplit.symm.trans hsplit') rfl).1

theorem nameParts_inj (hattempt : attempt < 2 ^ 32) (hattempt' : attempt' < 2 ^ 32)
    (h : nameParts container pod attempt = nameParts container' pod' attempt') :
    container = container' ∧ pod.name = pod'.name ∧ pod.namespace_ = pod'.namespace_ ∧ pod.uid = pod'.uid ∧
      attempt = attempt' := by
  simp only [nameParts, List.cons.injEq, and_true, true_and] at h
  obtain ⟨hcontainer, hname, hnamespace, huid, hitoa⟩ := h
  refine ⟨hcontainer, hname, hnamespace, huid, ?_⟩
  have hparsed := congrArg parseUint32 hitoa
  rw [parseUint32_itoa hattempt, parseUint32_itoa hattempt'] at hparsed
  exact Except.ok.inj hparsed

end

/-- A name tells the metadata that it was made from, also after Docker has put a slash in front of it and after it was
    randomized; so no two sandboxes and no two containers that are to be told apart share a name, nor do a container
    and a sandbox, if the container is not named as sandboxes are. -/
theorem names_identify :
    (∀ s : PodSandboxConfig, s.metadata.Delimited →
      ∀ told, Told (makeSandboxName s) told → parseSandboxName told = .ok s.metadata) ∧
    (∀ (s : Runtimeapi.PodSandboxConfig) (c : Runtimeapi.ContainerConfig) (pod : PodSandboxMetadata)
      (container : ContainerMetadata), s.metadata = some pod → c.metadata = some container → pod.Delimited →
      container.Delimited → ∃ name, Requests.makeContainerName s c = some name ∧
        (∀ told, Told name told → parseContainerName told = .ok container) ∧
        (∀ (s' : Runtimeapi.PodSandboxConfig) (c' : Runtimeapi.ContainerConfig) (pod' : PodSandboxMetadata)
          (container' : ContainerMetadata), s'.metadata = some pod' → c'.metadata = some container' → pod'.Delimited →
          container'.Delimited → containerIdentity pod container ≠ containerIdentity pod' container' →
          ∀ name', Requests.makeContainerName s' c' = some name' → ∀ given, Given name given → ¬Given name' given) ∧
        (container.name ≠ sandboxContainerName → ∀ s' : PodSandboxConfig, s'.metadata.Delimited →
          ∀ given, Given name given → ¬Given (makeSandboxName s') given)) ∧
    (∀ s s' : PodSandboxConfig, s.metadata.Delimited → s'.metadata.Delimited → s.metadata ≠ s'.metadata →
      ∀ given, Given (makeSandboxName s) given → ¬Given (makeSandboxName s') given) := by
  have hsandbox : nameDelimiter ∉ sandboxContainerName := by decide
  refine ⟨fun s hs told h => parseSandboxName_told hs h, ?_, ?_⟩
  · intro s c pod container hpod hcontainer hpodNames hnames
    refine ⟨_, makeContainerName_eq hpod hcontainer, fun told h => parseContainerName_told hpodNames hnames h, ?_, ?_⟩
    · intro s' c' pod' container' hpod' hcontainer' hpodNames' hnames' hdiffer name' hname' given h h'
      rw [makeContainerName_eq hpod' hcontainer'] at hname'
      cases hname'
      have hparts := nameParts_eq_of_given hnames.name hnames'.name hpodNames hpodNames' h h'
      obtain ⟨hname, hpodName, hnamespace, huid, hattempt⟩ := nameParts_inj hnames.attempt hnames'.attempt hparts
      have hmetadata : container = container' := by
        cases container
        cases container'
        rw [ContainerMetadata.mk.injEq]
        exact ⟨hname, hattempt⟩
      refine hdiffer ?_
      rw [containerIdentity, containerIdentity, hpodName, hnamespace, huid, hmetadata]
    · intro hne s' hs' given h h'
      have hparts := nameParts_eq_of_given hnames.name hsandbox hpodNames hs' h h'
      exact hne (nameParts_inj hnames.attempt hs'.attempt hparts).1
  · intro s s' hs hs' hdiffer given h h'
    have hparts := nameParts_eq_of_given hsandbox hsandbox hs hs' h h'
    obtain ⟨-, hname, hnamespace, huid, hattempt⟩ := nameParts_inj hs.attempt hs'.attempt hparts
    refine hdiffer ?_
    obtain ⟨⟨name, uid, namespace_, attempt⟩, _⟩ := s
    obtain ⟨⟨name', uid', namespace_', attempt'⟩, _⟩ := s'
    rw [PodSandboxMetadata.mk.injEq]
    exact ⟨hname, huid, hnamespace, hattempt⟩

/-- The sandbox of a pod at its last attempt. -/
def lastAttempt : PodSandboxConfig where
  metadata := { name := "web", uid := "u1", namespace_ := "default", attempt := 4294967295 }
  dnsConfig := none
  portMappings := []
  linux := none
  labels := []
  annotations := []

theorem names_identify_lastAttempt :
    makeSandboxName lastAttempt = "k8s_POD_web_default_u1_4294967295" ∧
      parseSandboxName ('/' :: randomizeName (makeSandboxName lastAttempt) 10) = .ok lastAttempt.metadata := by
  have hdelimited : lastAttempt.metadata.Delimited := ⟨by decide, by decide, by decide, by decide⟩
  exact ⟨by decide +kernel, names_identify.1 lastAttempt hdelimited _ (.slashed (.again 10))⟩

end CriDockerd.Core
