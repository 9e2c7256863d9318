import CriDockerd.Core.ImageFs
import CriDockerd.Lib.Overlap

/-! The bytes of all images. Each image counts with what is not shared, and the shared parts of one size count once, so that
    the total lies between the size of each image and the sum of all sizes. -/

namespace CriDockerd.Core

namespace ImageSummary
variable {i : ImageSummary}

/-- The sizes of an image as Docker gives them. -/
structure Sized (i : ImageSummary) : Prop where
  size_nonneg : 0 ≤ i.size
  shared : i.sharedSize = -1 ∨ 0 ≤ i.sharedSize ∧ i.sharedSize ≤ i.size

def ownBytes (i : ImageSummary) : Nat :=
  if i.sharedSize = -1 then i.size.toNatClampNeg else i.size.toNatClampNeg - i.sharedSize.toNatClampNeg

def sharedBytes (i : ImageSummary) : Option Nat :=
  if i.sharedSize = -1 then none else some i.sharedSize.toNatClampNeg

end ImageSummary

def sumSizes (images : List ImageSummary) : Nat := (images.map (·.size.toNatClampNeg)).sum

/-- The bytes of the images, with each shared part once. -/
def imageBytes (images : List ImageSummary) : Nat := Overlap.total ImageSummary.ownBytes ImageSummary.sharedBytes images

/-- A list from Docker whose sum of sizes is a `uint64`. -/
structure WellSized (images : List ImageSummary) : Prop where
  sized : ∀ i ∈ images, i.Sized
  fits : sumSizes images < 18446744073709551616

/-! ### Numbers -/

theorem toUInt64_eq_ofNat {x : Int64} (h : 0 ≤ x) : x.toUInt64 = UInt64.ofNat x.toNatClampNeg := by
  have hnonneg : 0 ≤ x.toInt := Int64.le_iff_toInt_le.mp h
  have hclamp : x.toNatClampNeg = x.toInt.toNat := rfl
  have hcond : x.toInt = if 2 * x.toUInt64.toNat < 2 ^ 64 then (x.toUInt64.toNat : Int) else (x.toUInt64.toNat : Int) - 2 ^ 64 :=
    BitVec.toInt_eq_toNat_cond x.toBitVec
  have hlt := x.toUInt64.toNat_lt
  have hnat : x.toUInt64.toNat = x.toNatClampNeg := by
    split at hcond <;> omega
  rw [← hnat, UInt64.ofNat_toNat]

theorem toNatClampNeg_inj {x y : Int64} (hx : 0 ≤ x) (hy : 0 ≤ y) (h : x.toNatClampNeg = y.toNatClampNeg) : x = y := by
  have hx' : 0 ≤ x.toInt := Int64.le_iff_toInt_le.mp hx
  have hy' : 0 ≤ y.toInt := Int64.le_iff_toInt_le.mp hy
  have hnat : x.toInt.toNat = y.toInt.toNat := h
  exact Int64.toInt_inj.mp (by omega)

theorem toNatClampNeg_le {x y : Int64} (h : x ≤ y) : x.toNatClampNeg ≤ y.toNatClampNeg :=
  Int.toNat_le_toNat (Int64.le_iff_toInt_le.mp h)

namespace ImageSummary.Sized
variable {i : ImageSummary}

theorem size_eq (h : i.Sized) : Overlap.size ownBytes sharedBytes i = i.size.toNatClampNeg := by
  rw [Overlap.size, ownBytes, sharedBytes]
  rcases h.shared with hnone | ⟨hnonneg, hle⟩
  · rw [if_pos hnone, if_pos hnone, Option.getD_none, Nat.add_zero]
  · have hne : i.sharedSize ≠ -1 := by
      intro heq
      rw [heq] at hnonneg
      exact absurd hnonneg (by decide)
    rw [if_neg hne, if_neg hne, Option.getD_some, Nat.sub_add_cancel (toNatClampNeg_le hle)]

theorem shared_nonneg (h : i.Sized) (hne : i.sharedSize ≠ -1) : 0 ≤ i.sharedSize ∧ i.sharedSize ≤ i.size :=
  h.shared.resolve_left hne

theorem addImage_fst (h : i.Sized) (s : UInt64 × List Int64) : (addImage s i).1 = s.1 + UInt64.ofNat i.ownBytes := by
  rw [addImage, ownBytes]
  split
  · rw [toUInt64_eq_ofNat h.size_nonneg]
  · rename_i hne
    obtain ⟨hnonneg, hle⟩ := h.shared_nonneg hne
    rw [toUInt64_eq_ofNat h.size_nonneg, toUInt64_eq_ofNat hnonneg, UInt64.ofNat_sub (toNatClampNeg_le hle)]

end ImageSummary.Sized

/-! ### The loops -/

section
variable {images : List ImageSummary}

theorem foldl_addImage_fst (hsized : ∀ i ∈ images, i.Sized) (s : UInt64 × List Int64) :
    (images.foldl addImage s).1 = s.1 + UInt64.ofNat (images.map ImageSummary.ownBytes).sum := by
  induction images generalizing s with
  | nil => exact (UInt64.add_zero s.1).symm
  | cons i images ih =>
    rw [List.foldl_cons, ih (fun j hj => hsized j (List.mem_cons_of_mem i hj)),
      (hsized i List.mem_cons_self).addImage_fst, List.map_cons, List.sum_cons, UInt64.ofNat_add, UInt64.add_assoc]

theorem mem_foldl_addImage {s : UInt64 × List Int64} {k : Int64} :
    k ∈ (images.foldl addImage s).2 ↔ k ∈ s.2 ∨ ∃ i ∈ images, i.sharedSize ≠ -1 ∧ i.sharedSize = k := by
  induction images generalizing s with
  | nil => simp
  | cons i images ih =>
    have hstep : k ∈ (addImage s i).2 ↔ k ∈ s.2 ∨ i.sharedSize ≠ -1 ∧ i.sharedSize = k := by
      rw [addImage]
      split
      · rename_i heq
        simp [heq]
      · rename_i hne
        rw [List.mem_insert_iff, or_comm, eq_comm]
        simp [hne]
    rw [List.foldl_cons, ih, hstep]
    simp only [List.mem_cons, exists_eq_or_imp, or_assoc]

theorem nodup_foldl_addImage {s : UInt64 × List Int64} (h : s.2.Nodup) : (images.foldl addImage s).2.Nodup := by
  induction images generalizing s with
  | nil => exact h
  | cons i images ih =>
    refine ih ?_
    rw [addImage]
    split
    · exact h
    · exact h.insert

theorem foldl_addKey {keys : List Int64} (hkeys : ∀ k ∈ keys, 0 ≤ k) (total : UInt64) :
    keys.foldl (fun totalImageSize k => totalImageSize + k.toUInt64) total =
      total + UInt64.ofNat (keys.map (·.toNatClampNeg)).sum := by
  induction keys generalizing total with
  | nil => exact (UInt64.add_zero total).symm
  | cons k keys ih =>
    rw [List.foldl_cons, ih (fun l hl => hkeys l (List.mem_cons_of_mem k hl)), toUInt64_eq_ofNat (hkeys k List.mem_cons_self),
      List.map_cons, List.sum_cons, UInt64.ofNat_add, UInt64.add_assoc]

theorem sum_keys (hsized : ∀ i ∈ images, i.Sized) (s : UInt64) :
    ((images.foldl addImage (s, [])).2.map (·.toNatClampNeg)).sum =
      ∑ part ∈ Overlap.parts ImageSummary.sharedBytes images, part := by
  have hmem (k : Int64) : k ∈ (images.foldl addImage (s, [])).2 ↔ ∃ i ∈ images, i.sharedSize ≠ -1 ∧ i.sharedSize = k := by
    rw [mem_foldl_addImage, or_iff_right List.not_mem_nil]
  have hnonneg : ∀ k ∈ (images.foldl addImage (s, [])).2, 0 ≤ k := by
    intro k hk
    obtain ⟨i, hi, hne, rfl⟩ := (hmem k).mp hk
    exact ((hsized i hi).shared_nonneg hne).1
  have hnodup : ((images.foldl addImage (s, [])).2.map (·.toNatClampNeg)).Nodup :=
    (nodup_foldl_addImage List.nodup_nil).map_on fun k hk l hl h => toNatClampNeg_inj (hnonneg k hk) (hnonneg l hl) h
  have hparts : ((images.foldl addImage (s, [])).2.map (·.toNatClampNeg)).toFinset =
      Overlap.parts ImageSummary.sharedBytes images := by
    ext n
    rw [List.mem_toFinset, List.mem_map, Overlap.mem_parts]
    constructor
    · rintro ⟨k, hk, rfl⟩
      obtain ⟨i, hi, hne, rfl⟩ := (hmem k).mp hk
      exact ⟨i, hi, if_neg hne⟩
    · rintro ⟨i, hi, hshared⟩
      rw [ImageSummary.sharedBytes] at hshared
      split at hshared
      · cases hshared
      · rename_i hne
        exact ⟨i.sharedSize, (hmem _).mpr ⟨i, hi, hne, rfl⟩, Option.some.inj hshared⟩
  have hsum := List.sum_toFinset id hnodup
  rw [hparts, List.map_id] at hsum
  exact hsum.symm

/-- The total in 64 bits is that of the natural numbers, whatever the order of the keys. -/
theorem totalImageSize_eq {rangeKeys : List Int64 → List Int64} (hrange : ∀ keys, (rangeKeys keys).Perm keys)
    (hsized : ∀ i ∈ images, i.Sized) : totalImageSize rangeKeys images = UInt64.ofNat (imageBytes images) := by
  have hkeys := hrange (images.foldl addImage (0, [])).2
  have hnonneg : ∀ k ∈ rangeKeys (images.foldl addImage (0, [])).2, 0 ≤ k := by
    intro k hk
    rcases mem_foldl_addImage.mp (hkeys.mem_iff.mp hk) with hnil | ⟨i, hi, hne, rfl⟩
    · cases hnil
    · exact ((hsized i hi).shared_nonneg hne).1
  have hsum : ((rangeKeys (images.foldl addImage (0, [])).2).map (·.toNatClampNeg)).sum =
      ∑ part ∈ Overlap.parts ImageSummary.sharedBytes images, part :=
    (hkeys.map _).sum_eq.trans (sum_keys hsized 0)
  rw [totalImageSize, foldl_addKey hnonneg, hsum, foldl_addImage_fst hsized, UInt64.zero_add, ← UInt64.ofNat_add]
  rfl

theorem imageBytes_le_sumSizes (hsized : ∀ i ∈ images, i.Sized) : imageBytes images ≤ sumSizes images := by
  have hsizes : images.map (Overlap.size ImageSummary.ownBytes ImageSummary.sharedBytes) = images.map (·.size.toNatClampNeg) :=
    List.map_congr_left fun i hi => (hsized i hi).size_eq
  rw [sumSizes, ← hsizes]
  exact Overlap.total_le_sum_size images

theorem WellSized.toNat_totalImageSize (h : WellSized images) {rangeKeys : List Int64 → List Int64}
    (hrange : ∀ keys, (rangeKeys keys).Perm keys) : (totalImageSize rangeKeys images).toNat = imageBytes images := by
  rw [totalImageSize_eq hrange h.sized]
  exact UInt64.toNat_ofNat_of_lt' (Nat.lt_of_le_of_lt (imageBytes_le_sumSizes h.sized) h.fits)

theorem imageFsInfo_ok {env : ImageFsEnv} {dockerRootDir : Text} {stat : Statfs} (hstat : env.statfs dockerRootDir = .ok stat)
    (hlist : env.listImages = .ok images) (c : ContainerStatsCache) :
    ∃ r, imageFsInfo env dockerRootDir c = .ok r ∧ r.imageFilesystems.map (·.usedBytes) = [totalImageSize env.rangeKeys images] := by
  rw [imageFsInfo, hstat, hlist]
  exact ⟨_, rfl, rfl⟩

end

/-- Two requests that list well sized images return: the bytes of the images do not wrap, the order of the list and that of the
    map do not matter, and an image that is added lowers nothing. -/
theorem imageFsInfo_usedBytes {env env' : ImageFsEnv} {images images' : List ImageSummary} {dockerRootDir dockerRootDir' : Text}
    {stat stat' : Statfs} (hsized : WellSized images) (hsized' : WellSized images')
    (hstat : env.statfs dockerRootDir = .ok stat) (hstat' : env'.statfs dockerRootDir' = .ok stat')
    (hlist : env.listImages = .ok images) (hlist' : env'.listImages = .ok images') (c c' : ContainerStatsCache) :
    ∃ (r r' : ImageFsInfoResponse) (bytes bytes' : UInt64),
      imageFsInfo env dockerRootDir c = .ok r ∧ imageFsInfo env' dockerRootDir' c' = .ok r' ∧
      r.imageFilesystems.map (·.usedBytes) = [bytes] ∧ r'.imageFilesystems.map (·.usedBytes) = [bytes'] ∧
      bytes.toNat = imageBytes images ∧
      (images'.Perm images → bytes' = bytes) ∧
      (∀ i ∈ images, i.size.toNatClampNeg ≤ bytes.toNat) ∧ bytes.toNat ≤ sumSizes images ∧
      (∀ i, images'.Perm (i :: images) → bytes ≤ bytes') := by
  have hbytes := hsized.toNat_totalImageSize env.rangeKeys_perm
  have hbytes' := hsized'.toNat_totalImageSize env'.rangeKeys_perm
  obtain ⟨r, hr, hused⟩ := imageFsInfo_ok hstat hlist c
  obtain ⟨r', hr', hused'⟩ := imageFsInfo_ok hstat' hlist' c'
  refine ⟨r, r', _, _, hr, hr', hused, hused', hbytes, ?_, ?_, ?_, ?_⟩
  · intro hperm
    refine UInt64.toNat_inj.mp ?_
    rw [hbytes, hbytes', imageBytes, imageBytes, Overlap.total_perm hperm]
  · intro i hi
    rw [hbytes, ← (hsized.sized i hi).size_eq]
    exact Overlap.size_le_total hi
  · rw [hbytes]
    exact imageBytes_le_sumSizes hsized.sized
  · intro i hperm
    rw [UInt64.le_iff_toNat_le, hbytes, hbytes', imageBytes, imageBytes, Overlap.total_perm hperm]
    exact Nat.le_trans (Nat.le_add_left _ _) Overlap.total_le_cons

/-- A host with the given images, where a range over a map goes backwards. -/
def imageHost (images : List ImageSummary) : ImageFsEnv :=
  { statfs := fun _ => .ok ⟨10, 4⟩, listImages := .ok images, rangeKeys := List.reverse, rangeKeys_perm := List.reverse_perm }

/-- Two images, and a third one that shares 40 bytes with the first. -/
theorem imageFsInfo_usedBytes_shared :
    ∃ (r r' : ImageFsInfoResponse) (bytes' : UInt64),
      imageFsInfo (imageHost [⟨100, 40⟩, ⟨50, -1⟩]) "/var/lib/docker" newContainerStatsCache = .ok r ∧
      imageFsInfo (imageHost [⟨100, 40⟩, ⟨70, 40⟩, ⟨50, -1⟩]) "/var/lib/docker" newContainerStatsCache = .ok r' ∧
      r.imageFilesystems.map (·.usedBytes) = [150] ∧ r'.imageFilesystems.map (·.usedBytes) = [bytes'] ∧ 150 ≤ bytes' := by
  have hsized : WellSized [⟨100, 40⟩, ⟨50, -1⟩] := ⟨fun i hi => by
    simp only [List.mem_cons, List.not_mem_nil, or_false] at hi
    obtain rfl | rfl := hi <;> exact ⟨by decide, by decide⟩, by decide⟩
  have hsized' : WellSized [⟨100, 40⟩, ⟨70, 40⟩, ⟨50, -1⟩] := ⟨fun i hi => by
    simp only [List.mem_cons, List.not_mem_nil, or_false] at hi
    obtain rfl | rfl | rfl := hi <;> exact ⟨by decide, by decide⟩, by decide⟩
  obtain ⟨r, r', bytes, bytes', hr, hr', hused, hused', hbytes, -, -, -, hadded⟩ :=
    @imageFsInfo_usedBytes (imageHost [⟨100, 40⟩, ⟨50, -1⟩]) (imageHost [⟨100, 40⟩, ⟨70, 40⟩, ⟨50, -1⟩]) _ _
      "/var/lib/docker" "/var/lib/docker" _ _ hsized hsized' rfl rfl rfl rfl newContainerStatsCache
      newContainerStatsCache
  obtain rfl : bytes = 150 := UInt64.toNat_inj.mp (hbytes.trans (by decide))
  exact ⟨r, r', bytes', hr, hr', hused, hused', hadded ⟨70, 40⟩ (List.Perm.swap _ _ _)⟩

end CriDockerd.Core
