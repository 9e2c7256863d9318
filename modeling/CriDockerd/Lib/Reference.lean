import CriDockerd.Lib.NetIP

/-! References to images, with the grammar of a `reference` package: a name, which may start with the domain of a
    registry, and after it a tag, a digest or both. What is no reference is `none`. -/

/-- A digest with the algorithm that it was made by. -/
structure ImageDigest where
  algorithm : Text
  encoded : Text
  deriving DecidableEq, Repr

structure Reference where
  domain : Text
  path : Text
  tag : Option Text
  digest : Option ImageDigest
  deriving DecidableEq, Repr

namespace Reference
open Text NetIP

/-! ### Digests -/

/-- The known algorithms, with the number of digits that their digests have. -/
def algorithms : List (Text × Nat) := [("sha256", 64), ("sha384", 96), ("sha512", 128)]

/-- A digit of `[a-f0-9]`. -/
def isLowerHex (c : Char) : Bool := c.isDigit || ('a' ≤ c && c ≤ 'f')

/-- The digest of a text `algorithm:encoded`. -/
def parseDigest (s : Text) : Option ImageDigest :=
  match s.dropWhile (· ≠ ':') with
  | [] => none
  | _ :: encoded =>
    let algorithm := s.takeWhile (· ≠ ':')
    if (algorithm, encoded.length) ∈ algorithms ∧ encoded.all isLowerHex then some { algorithm, encoded } else none

/-! ### Names -/

/-- A character of `[a-z0-9]`. -/
def isAlphanumeric (c : Char) : Bool := c.isDigit || ('a' ≤ c && c ≤ 'z')

/-- One period, one or two underscores, or any number of dashes. -/
def isSeparator (s : Text) : Bool := s == ['.'] || s == ['_'] || s == ['_', '_'] || s.all (· == '-')

/-- The rest of a component; `sep` is what stands between it and the last character that is alphanumeric. -/
def isPathRest (sep : Text) : Text → Bool
  | [] => sep == []
  | c :: s => if isAlphanumeric c then isSeparator sep && isPathRest [] s else isPathRest (sep ++ [c]) s

def isPathComponent : Text → Bool
  | [] => false
  | c :: s => isAlphanumeric c && isPathRest [] s

def isRemoteName (s : Text) : Bool := (split s '/').all isPathComponent

def isDomainComponent (s : Text) : Bool :=
  s.head?.any Char.isAlphanum && s.getLast?.any Char.isAlphanum && s.all fun c => c.isAlphanum || c == '-'

/-- A colon and a port, or nothing. -/
def isOptionalPort : Text → Bool
  | [] => true
  | c :: digits => c == ':' && digits != [] && digits.all Char.isDigit

/-- A domain name or an IPv6 address in brackets, with a port after it or not. -/
def isDomainAndPort : Text → Bool
  | '[' :: s =>
    let isAddress := fun c => isHex c || c == ':'
    s.takeWhile isAddress != [] &&
      match s.dropWhile isAddress with
      | ']' :: port => isOptionalPort port
      | _ => false
  | s => (split (s.takeWhile (· ≠ ':')) '.').all isDomainComponent && isOptionalPort (s.dropWhile (· ≠ ':'))

/-- The domain and the path of a name; the domain is empty if what comes first cannot be one. -/
def splitName (name : Text) : Option (Text × Text) :=
  match name.dropWhile (· ≠ '/') with
  | _ :: path =>
    let domain := name.takeWhile (· ≠ '/')
    if isDomainAndPort domain && isRemoteName path then some (domain, path)
    else if isRemoteName name then some ([], name)
    else none
  | [] => if isRemoteName name then some ([], name) else none

/-! ### References -/

def isWordCharacter (c : Char) : Bool := c.isAlphanum || c == '_'

def isTag (s : Text) : Bool :=
  s.head?.any isWordCharacter && (s.all fun c => isWordCharacter c || c == '.' || c == '-') && decide (s.length ≤ 128)

/-- The text before the tag, and the tag: it follows the last colon, if there is no slash after that. -/
def cutTag (s : Text) : Text × Option Text :=
  let inTag := fun c : Char => c ≠ ':' && c ≠ '/'
  match s.reverse.dropWhile inTag with
  | ':' :: before => (before.reverse, some (s.reverse.takeWhile inTag).reverse)
  | _ => (s, none)

def repositoryNameTotalLengthMax : Nat := 255

/-- A name, and a tag if there is one. -/
def parseNameTag (s : Text) (digest : Option ImageDigest) : Option Reference :=
  let (name, tag) := cutTag s
  match splitName name with
  | none => none
  | some (domain, path) =>
    if tag.all isTag = false ∨ repositoryNameTotalLengthMax < path.length then none else some { domain, path, tag, digest }

/-- The grammar has no other `@` than the one before the digest. -/
def parse (s : Text) : Option Reference :=
  match s.dropWhile (· ≠ '@') with
  | [] => parseNameTag s none
  | _ :: digest =>
    match parseDigest digest with
    | none => none
    | some digest => parseNameTag (s.takeWhile (· ≠ '@')) (some digest)

def name (r : Reference) : Text := if r.domain = [] then r.path else r.domain ++ '/' :: r.path

/-- The text of a reference. -/
def string (r : Reference) : Text :=
  let tag := r.tag.elim [] fun tag => ':' :: tag
  let digest := r.digest.elim [] fun digest => '@' :: (digest.algorithm ++ ':' :: digest.encoded)
  r.name ++ tag ++ digest

/-! ### Normal form -/

def defaultDomain : Text := "docker.io"
def legacyDefaultDomain : Text := "index.docker.io"
def localhost : Text := "localhost"
def officialRepoPrefix : Text := "library/"

/-- A name on the default domain is in `library` if it has only one component. -/
def addOfficial (domain remoteName : Text) : Text × Text :=
  if domain = defaultDomain ∧ '/' ∉ remoteName then (domain, officialRepoPrefix ++ remoteName) else (domain, remoteName)

/-- The domain of a familiar name, and the rest of the name. -/
def splitDockerDomain (name : Text) : Text × Text :=
  match name.dropWhile (· ≠ '/') with
  | [] => (defaultDomain, officialRepoPrefix ++ name)
  | _ :: maybeRemoteName =>
    let maybeDomain := name.takeWhile (· ≠ '/')
    if maybeDomain = localhost then addOfficial maybeDomain maybeRemoteName
    else if maybeDomain = legacyDefaultDomain then addOfficial defaultDomain maybeRemoteName
    else if '.' ∈ maybeDomain ∨ ':' ∈ maybeDomain then addOfficial maybeDomain maybeRemoteName
    -- Uppercase namespaces are not allowed, so this is a domain.
    else if toLower maybeDomain ≠ maybeDomain then addOfficial maybeDomain maybeRemoteName
    else addOfficial defaultDomain name

/-- A hexadecimal text that stands for a digest. -/
def isIdentifier (s : Text) : Bool := s.all isLowerHex && decide (s.length = 64)

/-- The reference of a familiar or a full name. -/
def parseNormalizedNamed (s : Text) : Option Reference :=
  if isIdentifier s then none
  else
    let (domain, remainder) := splitDockerDomain s
    let remote := remainder.takeWhile (· ≠ ':')
    if toLower remote ≠ remote then none else parse (domain ++ '/' :: remainder)

/-! ### Where the tag stands -/

/-- A text that ends with a colon and a tag. -/
structure HasTag (s name tag : Text) : Prop where
  eq_append : s = name ++ ':' :: tag
  no_slash : '/' ∉ tag
  no_colon : ':' ∉ tag

section
variable {a b name tag : Text}

theorem HasTag.append_slash (h : HasTag a name tag) (before : Text) :
    HasTag (before ++ '/' :: a) (before ++ '/' :: name) tag := by
  refine ⟨?_, h.no_slash, h.no_colon⟩
  rw [h.eq_append, List.append_assoc, List.cons_append]

theorem HasTag.of_append_slash {before : Text} (h : HasTag (before ++ '/' :: b) name tag) :
    ∃ repo, HasTag b repo tag ∧ name = before ++ '/' :: repo := by
  have hslash : '/' ∉ ':' :: tag := by simp [h.no_slash]
  obtain ⟨repo, rfl⟩ := suffix_of_suffix_append hslash ⟨name, h.eq_append.symm⟩
  refine ⟨repo, ⟨rfl, h.no_slash, h.no_colon⟩, ?_⟩
  have heq := h.eq_append
  rw [← List.cons_append, ← List.append_assoc] at heq
  exact (List.append_cancel_right heq).symm

theorem HasTag.eq_or_slash {repo : Text} (ha : HasTag a name tag) (hb : HasTag b repo tag)
    (h : split repo '/' <:+ split name '/') : a = b ∨ '/' :: b <:+ a := by
  rw [ha.eq_append, hb.eq_append]
  rcases split_suffix_iff.mp h with rfl | ⟨before, rfl⟩
  · exact Or.inl rfl
  · exact Or.inr ⟨before, by rw [List.append_assoc, List.cons_append]⟩

end

theorem hasTag_of_cutTag {s name tag : Text} (h : cutTag s = (name, some tag)) : HasTag s name tag := by
  unfold cutTag at h
  dsimp only at h
  split at h
  · rename_i before hdrop
    cases h
    have hcut := @List.takeWhile_append_dropWhile _ (fun c : Char => c ≠ ':' && c ≠ '/') s.reverse
    rw [hdrop] at hcut
    refine ⟨?_, ?_, ?_⟩
    · have hreverse := congrArg List.reverse hcut
      rw [List.reverse_append, List.reverse_cons, List.append_assoc, List.reverse_reverse] at hreverse
      exact hreverse.symm
    all_goals
      intro hmem
      have hin := List.mem_takeWhile_imp (List.mem_reverse.mp hmem)
      simp at hin
  · cases h

theorem parseNameTag_eq_some {s : Text} {digest : Option ImageDigest} {r : Reference} (h : parseNameTag s digest = some r) :
    r.digest = digest ∧ ∀ tag ∈ r.tag, ∃ name, HasTag s name tag := by
  unfold parseNameTag at h
  cases hcut : cutTag s with
  | mk name tag =>
    rw [hcut] at h
    dsimp only at h
    split at h
    · cases h
    · split at h
      · cases h
      · cases h
        refine ⟨rfl, ?_⟩
        rintro tag ⟨⟩
        exact ⟨name, hasTag_of_cutTag hcut⟩

theorem hasTag_of_parse {s tag : Text} {r : Reference} (h : parse s = some r) (htag : r.tag = some tag)
    (hdigest : r.digest = none) : ∃ name, HasTag s name tag := by
  unfold parse at h
  split at h
  · exact (parseNameTag_eq_some h).2 tag htag
  · split at h
    · cases h
    · rw [(parseNameTag_eq_some h).1] at hdigest
      cases hdigest

/-- An end without a slash stays where it is when the domain is split off and the name completed. -/
theorem suffix_of_splitDockerDomain {s domain remainder p : Text} (h : splitDockerDomain s = (domain, remainder)) (hp : '/' ∉ p)
    (hsuffix : p <:+ remainder) : p <:+ s := by
  have hlibrary : ∀ {rest}, p <:+ officialRepoPrefix ++ rest → p <:+ rest := fun {rest} h =>
    @suffix_of_suffix_append '/' p "library" rest hp h
  have hofficial : ∀ {d rest}, addOfficial d rest = (domain, remainder) → p <:+ rest := fun hadd => by
    unfold addOfficial at hadd
    split at hadd
    · cases hadd
      exact hlibrary hsuffix
    · cases hadd
      exact hsuffix
  unfold splitDockerDomain at h
  split at h
  · cases h
    exact hlibrary hsuffix
  · rename_i slash maybeRemoteName hdrop
    have hremote : maybeRemoteName <:+ s := by
      have hcut : slash :: maybeRemoteName <:+ s := hdrop ▸ List.dropWhile_suffix _
      exact (List.suffix_cons slash _).trans hcut
    dsimp only at h
    split_ifs at h
    · exact (hofficial h).trans hremote
    · exact (hofficial h).trans hremote
    · exact (hofficial h).trans hremote
    · exact (hofficial h).trans hremote
    · exact hofficial h

/-- A reference with a tag and without a digest ends with the tag, as it is written and in normal form. -/
theorem hasTag_of_parseNormalizedNamed {s tag : Text} {r : Reference} (h : parseNormalizedNamed s = some r)
    (htag : r.tag = some tag) (hdigest : r.digest = none) : (∃ name, HasTag s name tag) ∧ HasTag r.string r.name tag := by
  unfold parseNormalizedNamed at h
  split at h
  · cases h
  cases hdomain : splitDockerDomain s with
  | mk domain remainder =>
    rw [hdomain] at h
    dsimp only at h
    split at h
    · cases h
    obtain ⟨name, hname⟩ := hasTag_of_parse h htag hdigest
    have hslash : '/' ∉ ':' :: tag := by simp [hname.no_slash]
    have hremainder : ':' :: tag <:+ remainder := suffix_of_suffix_append hslash ⟨name, hname.eq_append.symm⟩
    obtain ⟨before, hbefore⟩ := suffix_of_splitDockerDomain hdomain hslash hremainder
    refine ⟨⟨before, hbefore.symm, hname.no_slash, hname.no_colon⟩, ?_, hname.no_slash, hname.no_colon⟩
    simp only [string, htag, hdigest, Option.elim_some, Option.elim_none, List.append_nil]

end Reference
