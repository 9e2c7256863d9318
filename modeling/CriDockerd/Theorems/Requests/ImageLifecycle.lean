import CriDockerd.Core.Images

/-! What the reference that PullImage returns is good for: ImageStatus finds the image by it, and RemoveImage does not. -/

namespace CriDockerd.Core.Images
open Text Reference Libdocker

section
variable {S : Type} {d : Daemon S} {s s' : S} {image ref : Text} {img : ImageInspect}

/-- A reference by a digest, both as it is and in its normal form. -/
def IsRepoDigest (ref : Text) (digest : ImageDigest) : Prop :=
  (parse ref).bind (·.digest) = some digest ∧ (parseNormalizedNamed ref).bind (·.digest) = some digest

/-- What Docker tells of an image that it has: the ID is a digest, the digests are references by a digest, and it is found
    by each of them. -/
structure Daemon.Resolves (d : Daemon S) (s : S) (img : ImageInspect) : Prop where
  id : d.inspect img.id s = .ok img
  idDigest : parseDigest img.id ≠ none
  digests : ∀ ref ∈ img.repoDigests, d.inspect ref s = .ok img
  repoDigest : ∀ ref ∈ img.repoDigests, ∃ digest, IsRepoDigest ref digest

theorem matchImageTagOrSHA_repoDigest {digest : ImageDigest} (href : ref ∈ img.repoDigests) (h : IsRepoDigest ref digest) :
    matchImageTagOrSHA img ref = true := by
  obtain ⟨named, hparse, hdigest⟩ := Option.bind_eq_some_iff.mp h.2
  have hmatch : img.repoDigests.any (matchRepoDigest digest) = true := by
    refine List.any_eq_true.mpr ⟨ref, href, ?_⟩
    simp only [matchRepoDigest, hparse, hdigest, Option.any_some, and_self, decide_true]
  unfold matchImageTagOrSHA
  simp only [hparse, hdigest, hmatch, reduceCtorEq, and_false, if_true, ite_self]

theorem findImage_repoDigest (h : d.Resolves s img) (href : ref ∈ img.repoDigests) : findImage d ref s = .ok (some img) := by
  obtain ⟨digest, hdigest⟩ := h.repoDigest ref href
  have hbyRef : inspectImageByRef d ref s = .ok img := by
    simp only [inspectImageByRef, h.digests ref href, matchImageTagOrSHA_repoDigest href hdigest, if_true]
  simp only [findImage, hbyRef]

theorem findImage_id (h : d.Resolves s img) : findImage d img.id s = .ok (some img) := by
  have hbyID : inspectImageByID d img.id s = .ok img := by
    simp only [inspectImageByID, h.id, matchImageIDOnly, if_true]
  unfold findImage inspectImageByRef
  rw [h.id]
  dsimp only
  cases matchImageTagOrSHA img img.id with
  | true => rfl
  | false =>
    simp only [Bool.false_eq_true, if_false, hbyID]

theorem imageStatus_found (h : findImage d image s = .ok (some img)) (ds : ImageService) (verbose : Bool) :
    imageStatus d ds image verbose s = foundStatus d ds img verbose s := by
  rw [imageStatus, h]

theorem foundStatus_config {config : ImageConfig} (h : img.config = some config) (ds : ImageService) :
    ∃ found, foundStatus d ds img false s = .ok ⟨some found, none⟩ ∧ found.id = img.id ∧ found.repoTags = img.repoTags ∧
      found.repoDigests = img.repoDigests := by
  unfold foundStatus imageInspectToRuntimeAPIImage
  rw [h]
  exact ⟨_, rfl, rfl, rfl, rfl⟩

theorem inspectImageByRef_ok (h : inspectImageByRef d image s = .ok img) : d.inspect image s = .ok img := by
  unfold inspectImageByRef at h
  split at h
  · cases h
  · rename_i resp hresp
    split at h
    · cases h
      exact hresp
    · cases h

/-! ### Removal -/

theorem at_not_mem_of_parseDigest {x : Text} {digest : ImageDigest} (h : parseDigest x = some digest) : '@' ∉ x := by
  unfold parseDigest at h
  split at h
  · cases h
  · rename_i c encoded hdrop
    dsimp only at h
    split at h
    · rename_i hvalid
      have hx : x = x.takeWhile (· ≠ ':') ++ c :: encoded := by rw [← hdrop, List.takeWhile_append_dropWhile]
      have hc : c = ':' := by
        have hhead := List.head?_dropWhile_not (fun c : Char => decide (c ≠ ':')) x
        rw [hdrop] at hhead
        simpa using hhead
      have halgorithm : '@' ∉ x.takeWhile (· ≠ ':') := by
        have hall : ∀ a ∈ algorithms, '@' ∉ a.1 := by decide
        exact hall _ hvalid.1
      rw [hx, hc]
      simp only [List.mem_append, List.mem_cons, not_or]
      refine ⟨halgorithm, by decide, fun hmem => ?_⟩
      have hhex := List.all_eq_true.mp hvalid.2 '@' hmem
      revert hhex
      decide
    · cases h

theorem at_mem_of_parse {x : Text} {digest : ImageDigest} (h : (parse x).bind (·.digest) = some digest) : '@' ∈ x := by
  obtain ⟨named, hparse, hdigest⟩ := Option.bind_eq_some_iff.mp h
  unfold parse at hparse
  split at hparse
  · cases (parseNameTag_eq_some hparse).1.symm.trans hdigest
  · rename_i c rest hdrop
    have hhead := List.head?_dropWhile_not (fun c : Char => decide (c ≠ '@')) x
    rw [hdrop] at hhead
    have hc : c = '@' := by simpa using hhead
    refine (List.dropWhile_suffix fun c : Char => decide (c ≠ '@')).subset ?_
    rw [hdrop, hc]
    exact List.mem_cons_self

/-- A digest of the image is not taken for its ID, unless it is the digest that the ID is. -/
theorem matchImageIDOnly_repoDigest (h : d.Resolves s img) (href : ref ∈ img.repoDigests)
    (hne : (parse ref).bind (·.digest) ≠ parseDigest img.id) : matchImageIDOnly img ref = false := by
  obtain ⟨digest, hdigest, -⟩ := h.repoDigest ref href
  cases hid : parseDigest img.id with
  | none => exact absurd hid h.idDigest
  | some id =>
    have hnot : img.id ≠ ref := fun heq => at_not_mem_of_parseDigest hid (heq ▸ at_mem_of_parse hdigest)
    have hdiffer : ¬(digest.algorithm = id.algorithm ∧ digest.encoded = id.encoded) := by
      rintro ⟨halgorithm, hencoded⟩
      refine hne (hdigest.trans (Eq.trans ?_ hid.symm))
      cases digest
      cases id
      cases halgorithm
      cases hencoded
      rfl
    simp only [matchImageIDOnly, if_neg hnot, hdigest, hid, decide_eq_false hdiffer]

theorem removeImage_repoDigest (h : d.Resolves s img) (href : ref ∈ img.repoDigests)
    (hne : (parse ref).bind (·.digest) ≠ parseDigest img.id) : removeImage d ref s = (none, s) := by
  simp only [removeImage, inspectImageByID, h.digests ref href, matchImageIDOnly_repoDigest h href hne, Bool.false_eq_true,
    if_false]

theorem removeImage_id (h : d.Resolves s img) :
    removeImage d img.id s = removeRefs d (img.repoTags ++ img.repoDigests ++ [img.id]) s := by
  simp only [removeImage, inspectImageByID, h.id, matchImageIDOnly, if_true]

theorem pullImage_eq (hpull : pullImage d image s = (.ok ref, s')) :
    ∃ img, d.inspect image s' = .ok img ∧ (ref = img.id ∧ img.repoDigests = [] ∨ ref ∈ img.repoDigests) := by
  unfold pullImage at hpull
  split at hpull
  · cases hpull
  · rename_i t _
    unfold getImageRef at hpull
    cases hbyRef : inspectImageByRef d image t with
    | error err =>
      rw [hbyRef] at hpull
      cases hpull
    | ok img =>
      rw [hbyRef] at hpull
      dsimp only at hpull
      cases hdigests : img.repoDigests with
      | nil =>
        rw [hdigests] at hpull
        cases hpull
        exact ⟨img, inspectImageByRef_ok hbyRef, .inl ⟨rfl, hdigests⟩⟩
      | cons digest rest =>
        rw [hdigests] at hpull
        cases hpull
        exact ⟨img, inspectImageByRef_ok hbyRef, .inr (hdigests ▸ List.mem_cons_self)⟩

/-- ImageStatus answers for the reference that PullImage returned as for the image that was pulled: with its ID, tags and digests
    if Docker has a config for it, and with an error if it has none. RemoveImage asks for all of its tags and digests and
    then for the ID to be removed, if it is called with the ID; called with the reference it removes nothing and succeeds,
    unless the image has no digest or its ID is the digest of the reference. -/
theorem pullImage_ref (hpull : pullImage d image s = (.ok ref, s'))
    (hresolves : ∀ img, d.inspect image s' = .ok img → d.Resolves s' img) :
    ∃ img, d.inspect image s' = .ok img ∧
      (∀ ds verbose, imageStatus d ds ref verbose s' = foundStatus d ds img verbose s') ∧
      (∀ ds config, img.config = some config → ∃ found, imageStatus d ds ref false s' = .ok ⟨some found, none⟩ ∧
        found.id = img.id ∧ found.repoTags = img.repoTags ∧ found.repoDigests = img.repoDigests) ∧
      (∀ ds verbose, img.config = none → imageStatus d ds ref verbose s' = .error (.other errNilImage)) ∧
      removeImage d img.id s' = removeRefs d (img.repoTags ++ img.repoDigests ++ [img.id]) s' ∧
      (ref = img.id ∧ img.repoDigests = [] ∨
        ref ∈ img.repoDigests ∧ ((parse ref).bind (·.digest) ≠ parseDigest img.id → removeImage d ref s' = (none, s'))) := by
  obtain ⟨img, hinspect, href⟩ := pullImage_eq hpull
  have h := hresolves img hinspect
  have hfind : findImage d ref s' = .ok (some img) := by
    rcases href with ⟨rfl, -⟩ | href
    · exact findImage_id h
    · exact findImage_repoDigest h href
  refine ⟨img, hinspect, imageStatus_found hfind, fun ds config hconfig => ?_, fun ds verbose hconfig => ?_, removeImage_id h, ?_⟩
  · rw [imageStatus_found hfind]
    exact foundStatus_config hconfig ds
  · rw [imageStatus_found hfind, foundStatus, imageInspectToRuntimeAPIImage, hconfig]
  · exact href.imp_right fun href => ⟨href, removeImage_repoDigest h href⟩

end

/-! ### An image with a digest -/

def busybox : ImageInspect where
  id := "sha256:" ++ List.replicate 64 'a'
  repoTags := ["busybox:latest"]
  repoDigests := ["busybox@sha256:" ++ List.replicate 64 'b']
  config := some { user := "0:0" }

def oneImage : Daemon Unit where
  inspect ref _ := if ref ∈ busybox.id :: "busybox" :: busybox.repoTags ++ busybox.repoDigests then .ok busybox
    else .error (.notFound ref)
  history _ _ := .ok []
  pull _ s := (none, s)
  remove _ s := (none, s)

theorem pullImage_ref_busybox : ∃ found, imageStatus oneImage ⟨[], fun _ _ => .ok []⟩
    ("busybox@sha256:" ++ List.replicate 64 'b') false () = .ok ⟨some found, none⟩ ∧ found.id = busybox.id := by
  have hresolves (img : ImageInspect) (himg : oneImage.inspect "busybox" () = .ok img) : oneImage.Resolves () img := by
    have heq : busybox = img := Except.ok.inj himg
    subst heq
    refine ⟨rfl, by decide, ?_, ?_⟩
    · decide
    · intro ref href
      refine ⟨⟨"sha256", List.replicate 64 'b'⟩, ?_⟩
      rw [List.mem_singleton.mp href]
      exact ⟨by decide +kernel, by decide +kernel⟩
  obtain ⟨img, hinspect, -, hstatus, -⟩ := @pullImage_ref Unit oneImage () () "busybox" _ rfl hresolves
  obtain rfl : busybox = img := Except.ok.inj hinspect
  obtain ⟨found, hfound, hid, -⟩ := hstatus ⟨[], fun _ _ => .ok []⟩ _ rfl
  exact ⟨found, hfound, hid⟩

end CriDockerd.Core.Images
