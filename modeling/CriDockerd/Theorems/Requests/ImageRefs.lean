import CriDockerd.Libdocker.Images

/-! Which images a reference with a tag matches. Two references are of one image if they have the same tag, and the name of
    one is that of the other without some of its leading components. The ends of the texts are compared without a look at
    the components, so that `busybox:1` matches an image `mybusybox:1` as well. -/

namespace CriDockerd.Libdocker
open Text Reference

/-! ### References to one image -/

def normalizedTag (s : Text) : Option Text := (parseNormalizedNamed s).bind fun r => if r.tag = none then none else some r.string

/-- How a reference can be written: as it is, and in normal form. -/
def forms (s : Text) : List Text := s :: (normalizedTag s).toList

/-- The tag is the same, and one name is the other one without some of its leading components. -/
def SameImage (a b : Text) : Prop :=
  ∃ name repo tag, HasTag a name tag ∧ HasTag b repo tag ∧
    (split repo '/' <:+ split name '/' ∨ split name '/' <:+ split repo '/')

/-- A tag of an image is one that the reference is for. -/
def Corresponds (image repoTag : Text) : Prop := ∃ a ∈ forms image, ∃ b ∈ forms repoTag, SameImage a b

/-! ### Where texts meet -/

/-- The texts are the same, or one ends with a slash and the other. -/
def Whole (a b : Text) : Prop := a = b ∨ '/' :: b <:+ a ∨ '/' :: a <:+ b

instance (a b : Text) : Decidable (Whole a b) := inferInstanceAs (Decidable (_ ∨ _))

/-- The texts meet at the start of a component. -/
def MeetsWhole (image repoTag : Text) : Prop := ∃ a ∈ forms image, ∃ b ∈ forms repoTag, Whole a b

instance (image repoTag : Text) : Decidable (MeetsWhole image repoTag) :=
  inferInstanceAs (Decidable (∃ a ∈ forms image, ∃ b ∈ forms repoTag, Whole a b))

/-- One text is the end of the other, after a character that is no slash; and they do not meet at the start of a
    component in another form. -/
def MeetsInside (image repoTag : Text) : Prop :=
  (∃ b ∈ forms repoTag, ∃ c, c ≠ '/' ∧ (c :: b <:+ image ∨ c :: image <:+ b)) ∧ ¬MeetsWhole image repoTag

/-- References are of one image exactly when their texts are the same from the start of a component on. -/
theorem sameImage_iff {a b name tag : Text} (ha : HasTag a name tag) : SameImage a b ↔ Whole a b := by
  constructor
  · rintro ⟨name', repo, tag', ha', hb, hrepo | hname⟩
    · exact (ha'.eq_or_slash hb hrepo).imp_right Or.inl
    · rcases hb.eq_or_slash ha' hname with heq | hslash
      · exact Or.inl heq.symm
      · exact Or.inr (Or.inr hslash)
  · rintro (rfl | ⟨before, rfl⟩ | ⟨before, rfl⟩)
    · exact ⟨name, name, tag, ha, ha, Or.inl List.suffix_rfl⟩
    · obtain ⟨repo, hb, rfl⟩ := ha.of_append_slash
      exact ⟨_, repo, tag, ha, hb, Or.inl (split_suffix_iff.mpr (Or.inr (List.suffix_append _ _)))⟩
    · exact ⟨name, _, tag, ha, ha.append_slash before, Or.inr (split_suffix_iff.mpr (Or.inr (List.suffix_append _ _)))⟩

/-! ### Tags -/

section
variable {image repoTag : Text}

theorem mem_forms {b : Text} : b ∈ forms repoTag ↔
    b = repoTag ∨ ∃ r, parseNormalizedNamed repoTag = some r ∧ r.tag ≠ none ∧ b = r.string := by
  rw [forms, List.mem_cons, Option.mem_toList, normalizedTag, Option.bind_eq_some_iff]
  refine or_congr_right (exists_congr fun r => and_congr_right fun _ => ?_)
  split
  · rename_i htag
    exact iff_of_false nofun fun h => h.1 htag
  · rename_i htag
    exact ⟨fun h => ⟨htag, (Option.some.inj h).symm⟩, fun h => congrArg some h.2.symm⟩

theorem string_ne_nil {r : Reference} (h : r.tag ≠ none) : r.string ≠ [] := by
  obtain ⟨tag, htag⟩ := Option.ne_none_iff_exists'.mp h
  simp [Reference.string, htag]

theorem matchRepoTag_iff : matchRepoTag image repoTag = true ↔ ∃ b ∈ forms repoTag, b <:+ image ∨ image <:+ b := by
  have hends : ∀ b, (hasSuffix image b || hasSuffix b image) = true ↔ b <:+ image ∨ image <:+ b := fun b => by
    rw [Bool.or_eq_true, hasSuffix_iff, hasSuffix_iff]
  simp only [mem_forms, or_and_right, exists_or, exists_eq_left]
  rw [← hends, matchRepoTag]
  split
  · rename_i hraw
    exact iff_of_true rfl (Or.inl hraw)
  · rename_i hraw
    rw [or_iff_right hraw]
    cases parseNormalizedNamed repoTag with
    | none => exact iff_of_false nofun (by rintro ⟨b, ⟨r, hr, -⟩, -⟩; cases hr)
    | some r =>
      dsimp only
      split
      · rename_i htag
        refine iff_of_false nofun ?_
        rintro ⟨b, ⟨r', hr, htag', -⟩, -⟩
        cases hr
        exact htag' htag
      · rename_i htag
        rw [if_neg (string_ne_nil htag), hends]
        constructor
        · intro h
          exact ⟨r.string, ⟨r, rfl, htag, rfl⟩, h⟩
        · rintro ⟨b, ⟨r', hr, -, rfl⟩, h⟩
          cases hr
          exact h

theorem meetsWhole_of_matchRepoTag_iff : (matchRepoTag image repoTag = true → MeetsWhole image repoTag) ↔
    ¬MeetsInside image repoTag := by
  constructor
  · rintro h ⟨⟨b, hb, c, -, hends⟩, hnot⟩
    refine hnot (h (matchRepoTag_iff.mpr ⟨b, hb, hends.imp ?_ ?_⟩))
    · exact (List.suffix_cons c b).trans
    · exact (List.suffix_cons c image).trans
  · intro hinside hmatch
    by_contra hnot
    obtain ⟨b, hb, hends⟩ := matchRepoTag_iff.mp hmatch
    have himage : image ∈ forms image := List.mem_cons_self
    refine hinside ⟨⟨b, hb, ?_⟩, hnot⟩
    -- The character before the shorter text is no slash, or the two would meet there.
    rcases hends with hshort | hlong
    · rcases eq_or_cons_suffix hshort with heq | ⟨c, hc⟩
      · exact absurd ⟨image, himage, b, hb, Or.inl heq⟩ hnot
      · refine ⟨c, ?_, Or.inl hc⟩
        rintro rfl
        exact hnot ⟨image, himage, b, hb, Or.inr (Or.inl hc)⟩
    · rcases eq_or_cons_suffix hlong with heq | ⟨c, hc⟩
      · exact absurd ⟨image, himage, b, hb, Or.inl heq.symm⟩ hnot
      · refine ⟨c, ?_, Or.inr hc⟩
        rintro rfl
        exact hnot ⟨image, himage, b, hb, Or.inr (Or.inr hc)⟩

end

/-! ### References with a tag -/

section
variable {image : Text} {named : Reference} (hparse : parseNormalizedNamed image = some named) (htag : named.tag ≠ none)
  (hdigest : named.digest = none)
include hparse htag hdigest

theorem corresponds_iff (repoTag : Text) : Corresponds image repoTag ↔ MeetsWhole image repoTag := by
  obtain ⟨tag, htag'⟩ := Option.ne_none_iff_exists'.mp htag
  obtain ⟨⟨name, hwritten⟩, hnormal⟩ := hasTag_of_parseNormalizedNamed hparse htag' hdigest
  have hform : ∀ a ∈ forms image, ∃ name, HasTag a name tag := by
    intro a ha
    rcases mem_forms.mp ha with rfl | ⟨r, hr, -, rfl⟩
    · exact ⟨name, hwritten⟩
    · cases hparse.symm.trans hr
      exact ⟨_, hnormal⟩
  refine exists_congr fun a => and_congr_right fun ha => exists_congr fun b => and_congr_right fun _ => ?_
  obtain ⟨name, hname⟩ := hform a ha
  exact sameImage_iff hname

theorem matchImageTagOrSHA_iff (inspected : ImageInspect) : matchImageTagOrSHA inspected image = true ↔
    ∃ t ∈ inspected.repoTags, matchRepoTag image t = true := by
  obtain ⟨tag, htag'⟩ := Option.ne_none_iff_exists'.mp htag
  rw [← List.any_eq_true, matchImageTagOrSHA, hparse]
  simp only [htag', hdigest, reduceCtorEq, false_and, if_false, Option.isSome_some, Bool.true_and]
  cases inspected.repoTags.any (matchRepoTag image) with
  | true => rfl
  | false => rfl

/-- No tag of an image matches a reference other than one that it corresponds to, exactly when none meets it
    inside a component. And when a reference matches an image, one of the tags corresponds to it, exactly when a tag that
    meets it inside a component is only found together with one that meets it at the start of a component. -/
theorem matchImageTagOrSHA_corresponds_iff (inspected : ImageInspect) :
    ((∀ t ∈ inspected.repoTags, matchRepoTag image t = true → Corresponds image t) ↔
      ∀ t ∈ inspected.repoTags, ¬MeetsInside image t) ∧
    ((matchImageTagOrSHA inspected image = true → ∃ t ∈ inspected.repoTags, Corresponds image t) ↔
      ((∃ t ∈ inspected.repoTags, MeetsInside image t) → ∃ t ∈ inspected.repoTags, MeetsWhole image t)) := by
  simp only [corresponds_iff hparse htag hdigest]
  refine ⟨forall₂_congr fun t _ => meetsWhole_of_matchRepoTag_iff, ?_⟩
  rw [matchImageTagOrSHA_iff hparse htag hdigest]
  constructor
  · rintro h ⟨t, ht, hinside⟩
    refine h ⟨t, ht, ?_⟩
    by_contra hmatch
    exact meetsWhole_of_matchRepoTag_iff.mp (fun hmatched => absurd hmatched hmatch) hinside
  · rintro h ⟨t, ht, hmatch⟩
    by_cases hinside : MeetsInside image t
    · exact h ⟨t, ht, hinside⟩
    · exact ⟨t, ht, meetsWhole_of_matchRepoTag_iff.mpr hinside hmatch⟩

end

/-- The tag and the reference have the same normal form. -/
theorem matchImageTagOrSHA_corresponds_library :
    matchImageTagOrSHA { id := [], repoTags := ["docker.io/busybox:1".toList], repoDigests := [] }
        "docker.io/library/busybox:1" = true ∧
      ∃ t ∈ ["docker.io/busybox:1".toList], Corresponds "docker.io/library/busybox:1".toList t := by
  have hparse : parseNormalizedNamed "docker.io/library/busybox:1" =
      some { domain := "docker.io", path := "library/busybox", tag := some ['1'], digest := none } := by
    decide +kernel
  have hmatch : matchImageTagOrSHA { id := [], repoTags := ["docker.io/busybox:1".toList], repoDigests := [] }
      "docker.io/library/busybox:1" = true := by
    decide +kernel
  have hwhole : ∃ t ∈ ["docker.io/busybox:1".toList], MeetsWhole "docker.io/library/busybox:1".toList t := by
    decide +kernel
  exact ⟨hmatch, (matchImageTagOrSHA_corresponds_iff hparse (Option.some_ne_none _) rfl
    { id := [], repoTags := ["docker.io/busybox:1".toList], repoDigests := [] }).2.mpr (fun _ => hwhole) hmatch⟩

/-- An image of another name is taken for `busybox:1`. -/
theorem matchImageTagOrSHA_mybusybox :
    matchImageTagOrSHA { id := [], repoTags := ["mybusybox:1".toList], repoDigests := [] } "busybox:1".toList = true ∧
      ¬∃ t ∈ ["mybusybox:1".toList], Corresponds "busybox:1".toList t := by
  have hparse : parseNormalizedNamed "busybox:1" =
      some { domain := "docker.io", path := "library/busybox", tag := some ['1'], digest := none } := by
    decide +kernel
  simp only [corresponds_iff hparse (Option.some_ne_none _) rfl]
  decide +kernel

end CriDockerd.Libdocker
