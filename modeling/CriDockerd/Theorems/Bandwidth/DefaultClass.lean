import CriDockerd.Bandwidth.Setup
import CriDockerd.Theorems.Bandwidth.Leaks

/-! The default class of the interface, whose limit is for all packets that no filter is for. The shaper gives its ID to a
    pod like any other, once all IDs before it are in use. An ID with a letter is read up to the letter, so that the ID
    before it seems to be in use. -/

namespace CriDockerd.Bandwidth
open Text

/-- The qdisc is one that the set up adds, whatever there was before. -/
def Qdisc.SetUp (q : Qdisc) : Prop := ∃ env iface, ∃ args ∈ (reconcileInterface env iface).2, rootHtb args = some q

/-- The ID is the least one that is free and may be given to a pod. -/
structure Allocated (q : Qdisc) (s : Interface) (class_ : Nat) : Prop where
  free : classID class_ ∉ s.classes.map (·.id)
  notDefault : classID class_ ≠ q.defaultClass
  least : ∀ j, 1 ≤ j → j < class_ → classID j ∈ s.classes.map (·.id) ∨ classID j = q.defaultClass

/-- The ID of the class goes on with a letter after an ID of the shaper. -/
def HtbClass.Hides (c : HtbClass) (n : Nat) : Prop :=
  ∃ letter rest, c.id = classID n ++ letter :: rest ∧ letter.isDigit = false

/-- An ID that is free, and that no class hides. -/
structure Open (s : Interface) (n : Nat) : Prop where
  free : classID n ∉ s.classes.map (·.id)
  not_hidden : ∀ c ∈ s.classes, ¬c.Hides n

/-- The number of every class starts with a decimal digit, and one of the IDs of the shaper is open. -/
structure Answers (s : Interface) : Prop where
  readable : ∀ c ∈ s.classes, ∃ digit rest, c.id = "1:".toList ++ digit :: rest ∧ digit.isDigit = true
  some_open : ∃ n, 1 ≤ n ∧ n < 10000 ∧ Open s n

/-- One of the IDs before 30 is open, or 30 is not. -/
def LeavesDefault (s : Interface) : Prop := (∃ n, 1 ≤ n ∧ n < 30 ∧ Open s n) ∨ ¬Open s 30

/-- An ID other than 30 that is free and hidden comes after one that is open. -/
def NoneHidden (s : Interface) : Prop :=
  ∀ n, 1 ≤ n → n ≠ 30 → classID n ∉ s.classes.map (·.id) → Open s n ∨ ∃ m, 1 ≤ m ∧ m < n ∧ Open s m

/-- The IDs before 30 that are free. -/
def freeIDs (s : Interface) : List Nat := (List.range' 1 29).filter fun n => classID n ∉ s.classes.map (·.id)

/-- The number of classes that a call may add. -/
def Call.classes : Call → Nat
  | .limit _ upload download => upload.toList.length + download.toList.length
  | .reconcileCIDR _ upload download => upload.toList.length + download.toList.length
  | .reset _ _ => 0

/-- The states that calls lead to which are made only while there are IDs for them before 30. -/
abbrev ReachedWithin (env : Env) : World → Prop :=
  Reachable (· = World.initial) (fun w call => call.classes ≤ (freeIDs w.iface).length) (Call.run env)

/-! ### The qdisc -/

theorem mem_initializeInterface {env : SetupEnv} {iface : Text} {before : List (List Text)} {args : List Text} {q : Qdisc}
    (hbefore : ∀ args ∈ before, rootHtb args = none) (hargs : args ∈ (initializeInterface env iface before).2)
    (hq : rootHtb args = some q) : q.defaultClass = classID 30 := by
  have hcommands : (initializeInterface env iface before).2 = before ++ [["qdisc".toList, "add", "dev", iface,
      "root", "handle", "1:", "htb", "default", "30"]] := by
    unfold initializeInterface
    cases env.qdiscAdd <;> rfl
  rw [hcommands] at hargs
  rcases List.mem_append.mp hargs with hold | hadd
  · rw [hbefore args hold] at hq
    cases hq
  · rw [List.mem_singleton.mp hadd] at hq
    cases hq
    decide

theorem Qdisc.SetUp.defaultClass {q : Qdisc} (h : q.SetUp) : q.defaultClass = classID 30 := by
  obtain ⟨env, iface, args, hargs, hq⟩ := h
  -- The other commands add no qdisc.
  have hshow : ∀ args ∈ [["qdisc".toList, "show", "dev", iface]], rootHtb args = none := by
    intro args hargs
    rw [List.mem_singleton.mp hargs]
    rfl
  have hdelete : ∀ handle, ∀ args ∈ [["qdisc".toList, "show", "dev", iface]] ++ [["qdisc".toList, "delete",
      "dev", iface, "root", "handle", handle]], rootHtb args = none := by
    intro handle args hargs
    rcases List.mem_append.mp hargs with hargs | hargs
    · exact hshow args hargs
    · rw [List.mem_singleton.mp hargs]
      rfl
  have hnone : ∀ {before : List (List Text)}, (∀ args ∈ before, rootHtb args = none) → args ∉ before := by
    intro before hbefore hmem
    rw [hbefore args hmem] at hq
    cases hq
  unfold reconcileInterface at hargs
  dsimp only at hargs
  split at hargs
  · exact absurd hargs (hnone hshow)
  · exact mem_initializeInterface hshow hargs hq
  · split at hargs
    · split at hargs
      · exact absurd hargs (hnone hshow)
      · split at hargs
        · exact absurd hargs (hnone (hdelete _))
        · exact mem_initializeInterface (hdelete _) hargs hq
    · exact absurd hargs (hnone hshow)

/-! ### IDs -/

theorem classID_inj {a b : Nat} (h : classID a = classID b) : a = b := itoa_inj (List.append_cancel_left h)

theorem digits_ne_nil_iff (c : HtbClass) :
    c.digits ≠ [] ↔ ∃ digit rest, c.id = "1:".toList ++ digit :: rest ∧ digit.isDigit = true := by
  simp only [HtbClass.digits, HtbClass.id, List.append_right_inj]
  cases hexOr c.minor with
  | nil => simp
  | cons d rest => cases hd : d.isDigit <;> simp [hd]

theorem digits_eq_iff (c : HtbClass) (n : Nat) : c.digits = itoa n ↔ c.id = classID n ∨ c.Hides n := by
  constructor
  · intro h
    have hsplit := List.takeWhile_append_dropWhile (p := Char.isDigit) (l := hexOr c.minor)
    rw [← HtbClass.digits, h] at hsplit
    cases hrest : (hexOr c.minor).dropWhile Char.isDigit with
    | nil =>
      rw [hrest, List.append_nil] at hsplit
      exact .inl (congrArg _ hsplit.symm)
    | cons letter rest =>
      have hletter := List.head?_dropWhile_not Char.isDigit (hexOr c.minor)
      rw [hrest] at hsplit hletter
      refine .inr ⟨letter, rest, ?_, by simpa using hletter⟩
      rw [HtbClass.id, ← hsplit, classID, List.append_assoc]
  · rintro (hid | ⟨letter, rest, hid, hletter⟩)
    · exact digits_of_id hid
    · rw [HtbClass.id, classID, List.append_assoc, List.append_right_inj] at hid
      rw [HtbClass.digits, hid]
      exact takeWhile_append_stop (fun _ => isDigit_of_mem_itoa) (by rintro _ ⟨⟩; exact hletter)

section
variable {s : Interface} {class_ n : Nat}

theorem open_iff : Open s n ↔ ∀ c ∈ s.classes, c.digits ≠ itoa n := by
  simp only [ne_eq, digits_eq_iff, not_or, forall_and]
  exact ⟨fun h => ⟨fun c hc hid => h.free (List.mem_map.mpr ⟨c, hc, hid⟩), h.not_hidden⟩,
    fun h => ⟨fun hmem => (List.mem_map.mp hmem).elim fun c hc => h.1 c hc.1 hc.2, h.2⟩⟩

theorem NextClass.open (h : NextClass s class_) : Open s class_ := open_iff.mpr h.unread

theorem NextClass.le (h : NextClass s class_) (hn : 1 ≤ n) (hopen : Open s n) : class_ ≤ n := by
  by_contra hlt
  obtain ⟨c, hc, hdigits⟩ := h.least n hn (Nat.lt_of_not_le hlt)
  exact open_iff.mp hopen c hc hdigits

theorem NextClass.answers (h : NextClass s class_) : Answers s :=
  ⟨fun c hc => (digits_ne_nil_iff c).mp (h.readable c hc), class_, h.pos, h.lt, h.open⟩

end

theorem nextClassID_ok {env : Env} {w : World} (henv : env.faults w.log.length .classShow = none) (h : Answers w.iface) :
    ∃ class_ w', NextClass w.iface class_ ∧ nextClassID env w = (.ok class_, w') := by
  have hexec : exec env .classShow w = (.ok (w.iface.classes.map classLine), w.note [(.classShow, true)]) := by
    unfold exec
    rw [henv]
    rfl
  have hall : ∀ c ∈ w.iface.classes, c.digits ≠ [] := fun c hc => (digits_ne_nil_iff c).mpr (h.readable c hc)
  rcases scanClasses_classLines w.iface.classes [] with ⟨-, hscan⟩ | ⟨⟨c, hc, hnil⟩, -⟩
  · unfold nextClassID
    simp only [hexec, hscan, search_eq]
    cases hfind : (List.range' 1 9999).find? fun nextClass : Nat => ∀ c ∈ w.iface.classes, c.digits ≠ itoa nextClass with
    | none =>
      obtain ⟨n, hn, hlt, hopen⟩ := h.some_open
      have hused := List.find?_eq_none.mp hfind n (List.mem_range'_1.mpr ⟨hn, by omega⟩)
      exact absurd (decide_eq_true (open_iff.mp hopen)) hused
    | some class_ => exact ⟨class_, _, nextClass_of_find hall hfind, rfl⟩
  · exact absurd hnil (hall c hc)

theorem allocated_iff {q : Qdisc} (hq : q.SetUp) (w : World) :
    (∀ env class_ w', nextClassID env w = (.ok class_, w') → Allocated q w.iface class_) ↔
      (Answers w.iface → LeavesDefault w.iface ∧ NoneHidden w.iface) := by
  have hdefault := hq.defaultClass
  constructor
  · intro hallocated hanswers
    obtain ⟨class_, w', hnext, heq⟩ := @nextClassID_ok ⟨linuxTc .new, fun _ _ => none⟩ w rfl hanswers
    have h := hallocated _ _ _ heq
    refine ⟨?_, fun n hn hne hfree => ?_⟩
    · by_contra hleaves
      obtain ⟨hused, hopen⟩ := not_or.mp hleaves
      have hle := hnext.le (by decide) (not_not.mp hopen)
      refine h.notDefault (hdefault ▸ congrArg classID ?_)
      by_contra hne
      exact hused ⟨class_, hnext.pos, by omega, hnext.open⟩
    · rcases Nat.lt_trichotomy n class_ with hlt | rfl | hgt
      · rcases h.least n hn hlt with hused | hid
        · exact absurd hused hfree
        · exact absurd (classID_inj (hid.trans hdefault)) hne
      · exact .inl hnext.open
      · exact .inr ⟨class_, hnext.pos, hgt, hnext.open⟩
  · intro hcond env class_ w' heq
    rcases nextClassID_cases env w with ⟨err, ok, hnext⟩ | ⟨class_', hnext, heq'⟩
    · rw [hnext] at heq
      cases heq
    · rw [heq'] at heq
      cases heq
      obtain ⟨hleaves, hnone⟩ := hcond hnext.answers
      refine ⟨hnext.free, fun h => ?_, fun j hj hlt => ?_⟩
      · obtain rfl : class_ = 30 := classID_inj (h.trans hdefault)
        rcases hleaves with ⟨n, hn, hlt, hopen⟩ | hclosed
        · have := hnext.le hn hopen
          omega
        · exact hclosed hnext.open
      · by_contra hneither
        obtain ⟨hfree, hid⟩ := not_or.mp hneither
        rcases hnone j hj (fun h30 => hid (by rw [h30, hdefault])) hfree with hopen | ⟨m, hm, hmj, hopen⟩
        · have := hnext.le hj hopen
          omega
        · have := hnext.le hm hopen
          omega

/-! ### Runs -/

section
variable {env : Env} {w : World} {s : Interface}

theorem nodup_freeIDs (s : Interface) : (freeIDs s).Nodup := List.Nodup.filter _ List.nodup_range'

theorem mem_freeIDs_iff {n : Nat} : n ∈ freeIDs s ↔ 1 ≤ n ∧ n < 30 ∧ classID n ∉ s.classes.map (·.id) := by
  unfold freeIDs
  rw [List.mem_filter, List.mem_range'_1, decide_eq_true_iff, and_assoc]

theorem length_freeIDs_add {t : Interface} {class_ : Nat} {rate : Rate} (hpos : 0 < class_)
    (ht : t.classes = s.classes ++ [.ofID class_ rate]) : (freeIDs s).length - 1 ≤ (freeIDs t).length := by
  have hsub : (freeIDs s).erase class_ ⊆ freeIDs t := by
    intro n hn
    obtain ⟨hne, hmem⟩ := (nodup_freeIDs s).mem_erase_iff.mp hn
    obtain ⟨hlo, hhi, hfree⟩ := mem_freeIDs_iff.mp hmem
    refine mem_freeIDs_iff.mpr ⟨hlo, hhi, fun hused => ?_⟩
    rw [ht, List.map_append] at hused
    rcases List.mem_append.mp hused with hused | hnew
    · exact hfree hused
    · exact hne (classID_inj ((List.mem_singleton.mp hnew).trans (id_ofID hpos rate)))
  exact List.le_length_erase.trans ((nodup_freeIDs s).erase class_ |>.length_le_of_subset hsub)

theorem limitDirection_classes (cidr : Text) (direction : Direction) (quantity : Option Int) :
    (limitDirection env cidr direction quantity w).2.iface.classes = w.iface.classes ∨
      quantity.isSome = true ∧ ∃ class_ rate, NextClass w.iface class_ ∧
        (limitDirection env cidr direction quantity w).2.iface.classes = w.iface.classes ++ [.ofID class_ rate] := by
  cases quantity with
  | none => exact .inl rfl
  | some quantity =>
    unfold limitDirection
    dsimp only
    rcases makeNewClass_cases env w (makeKBitString quantity) with ⟨err, entries, -, hmake⟩ | ⟨class_, entries, -, hclass, hmake⟩
    · rw [hmake]
      exact .inl rfl
    · rw [hmake]
      refine .inr ⟨rfl, class_, makeKBitString quantity, hclass, ?_⟩
      dsimp only
      rcases exec_filterAdd_cases env
          { iface := { w.iface with classes := w.iface.classes ++ [.ofID class_ (makeKBitString quantity)] },
            log := w.log ++ entries } direction cidr class_ with ⟨err, hexec⟩ | ⟨node, network, -, -, hexec⟩
      · rw [hexec]
        rfl
      · rw [hexec]

/-- The classes have IDs of the shaper, the default class is not there, and there are IDs before it for some classes. -/
structure Within (s : Interface) (room : Nat) : Prop where
  ids : ∀ c ∈ s.classes, ∃ n, c.id = classID n
  default_free : classID 30 ∉ s.classes.map (·.id)
  room : room ≤ (freeIDs s).length

theorem Within.mono {t : Interface} {room room' : Nat} (h : Within s room) (hclasses : t.classes = s.classes) (hle : room' ≤ room) :
    Within t room' := by
  refine ⟨hclasses ▸ h.ids, hclasses ▸ h.default_free, ?_⟩
  unfold freeIDs
  rw [hclasses]
  exact hle.trans h.room

/-- No class has a letter in its ID that could hide one. -/
theorem Within.open {room n : Nat} (h : Within s room) (hfree : classID n ∉ s.classes.map (·.id)) : Open s n := by
  refine ⟨hfree, fun c hc => ?_⟩
  rintro ⟨letter, rest, hid, hletter⟩
  obtain ⟨m, hm⟩ := h.ids c hc
  have hdigits : itoa m = itoa n ++ letter :: rest := by
    rw [hm, classID, classID, List.append_assoc] at hid
    exact List.append_cancel_left hid
  have hmem : letter ∈ itoa m := hdigits ▸ List.mem_append_right _ List.mem_cons_self
  rw [isDigit_of_mem_itoa hmem] at hletter
  cases hletter

theorem Within.add {t : Interface} {room class_ : Nat} {rate : Rate} (h : Within s (room + 1)) (hclass : NextClass s class_)
    (ht : t.classes = s.classes ++ [.ofID class_ rate]) : Within t room := by
  obtain ⟨n, hn⟩ := List.exists_mem_of_length_pos (Nat.lt_of_lt_of_le (Nat.succ_pos room) h.room)
  obtain ⟨hlo, hhi, hfree⟩ := mem_freeIDs_iff.mp hn
  have hle := hclass.le hlo (h.open hfree)
  have hid := id_ofID hclass.pos rate
  refine ⟨fun c hc => ?_, fun hused => ?_, (Nat.le_sub_one_of_lt h.room).trans (length_freeIDs_add hclass.pos ht)⟩
  · rcases List.mem_append.mp (ht ▸ hc) with hc | hc
    · exact h.ids c hc
    · exact ⟨class_, List.mem_singleton.mp hc ▸ hid⟩
  · rw [ht, List.map_append] at hused
    rcases List.mem_append.mp hused with hused | hnew
    · exact h.default_free hused
    · have heq : 30 = class_ := classID_inj ((List.mem_singleton.mp hnew).trans hid)
      omega

theorem Within.limitDirection {cidr : Text} {direction : Direction} {quantity : Option Int} {room : Nat}
    (h : Within w.iface (room + quantity.toList.length)) :
    Within (Bandwidth.limitDirection env cidr direction quantity w).2.iface room := by
  rcases @limitDirection_classes env w cidr direction quantity with hclasses | ⟨hsome, class_, rate, hclass, hclasses⟩
  · exact h.mono hclasses (Nat.le_add_right _ _)
  · obtain ⟨quantity, rfl⟩ := Option.isSome_iff_exists.mp hsome
    exact h.add hclass hclasses

theorem Within.limit {cidr : Text} {upload download : Option Int}
    (h : Within w.iface (upload.toList.length + download.toList.length)) :
    Within (Bandwidth.limit env cidr upload download w).2.iface 0 := by
  have hdownload := @Within.limitDirection env w cidr .dst download _ h
  unfold Bandwidth.limit
  cases hfirst : Bandwidth.limitDirection env cidr .dst download w with
  | mk err w₁ =>
    rw [hfirst] at hdownload
    cases err with
    | some err => exact hdownload.mono rfl (Nat.zero_le _)
    | none =>
      rw [← Nat.zero_add upload.toList.length] at hdownload
      exact hdownload.limitDirection

theorem resetAll_classes (found : List (Text × Text)) (w : World) :
    (resetAll env found w).2.iface.classes ⊆ w.iface.classes := by
  induction found generalizing w with
  | nil => exact List.Subset.refl _
  | cons e found ih =>
    obtain ⟨class_, handle⟩ := e
    rcases @resetAll_cons_cases env class_ handle found w with ⟨err, hreset⟩ | ⟨-, ⟨err, hreset⟩ | hreset⟩
    · rw [hreset]
      exact List.Subset.refl _
    · rw [hreset]
      exact List.Subset.refl _
    · rw [hreset]
      exact List.Subset.trans (ih _) (List.filter_subset_self _)

theorem Within.of_subset {t : Interface} {room : Nat} (h : Within s room) (hsub : t.classes ⊆ s.classes) : Within t 0 :=
  ⟨fun c hc => h.ids c (hsub hc), fun hused => h.default_free (List.map_subset _ hsub hused), Nat.zero_le _⟩

theorem Within.run {call : Call} (h : Within w.iface call.classes) : Within (call.run env w).iface 0 := by
  cases call with
  | limit cidr upload download => exact @Within.limit env w cidr upload download h
  | reconcileCIDR cidr upload download =>
    show Within (reconcileCIDR env cidr upload download w).2.iface 0
    unfold reconcileCIDR
    rcases findCIDRClass_cases env w cidr with ⟨err, ok, hfind⟩ | ⟨entries, ip, net, -, -, hfind⟩
    · rw [hfind]
      exact h.mono rfl (Nat.zero_le _)
    · rw [hfind]
      cases entries with
      | nil => exact @Within.limit env (w.note [(.filterShow, true)]) cidr upload download h
      | cons entry entries => exact h.mono rfl (Nat.zero_le _)
  | reset iface cidr =>
    show Within (reset env iface cidr w).2.iface 0
    unfold reset
    rcases findCIDRClass_cases env w cidr with ⟨err, ok, hfind⟩ | ⟨entries, ip, net, -, -, hfind⟩
    · rw [hfind]
      exact h.mono rfl (Nat.zero_le _)
    · rw [hfind]
      cases entries with
      | nil => exact h.mono rfl (Nat.zero_le _)
      | cons entry entries => exact h.of_subset (@resetAll_classes env (entry :: entries) (w.note [(.filterShow, true)]))

theorem ReachedWithin.within (h : ReachedWithin env w) : Within w.iface 0 := by
  refine h.invariant (fun w => Within w.iface 0) ?_ fun w call hw hallowed => ?_
  · rintro w rfl
    exact ⟨fun c hc => absurd hc List.not_mem_nil, List.not_mem_nil, Nat.zero_le _⟩
  · exact Within.run ⟨hw.ids, hw.default_free, hallowed⟩

end

/-- On an interface that was set up by the shaper, an ID that is given out is the least free one other than that of the default
    class, if and only if no ID can be given out, or: an ID before 30 is open or 30 is not, and no other free ID is hidden
    before the first that is open. In a run whose calls are made while there are IDs for them before 30, no limit of a pod is
    one for all other packets. -/
theorem nextClassID_allocated_iff {q : Qdisc} (hq : q.SetUp) :
    (∀ w, (∀ env class_ w', nextClassID env w = (.ok class_, w') → Allocated q w.iface class_) ↔
      (Answers w.iface → LeavesDefault w.iface ∧ NoneHidden w.iface)) ∧
      ∀ env w, ReachedWithin env w → q.unclassifiedRate w.iface = none := by
  refine ⟨allocated_iff hq, fun env w hreached => ?_⟩
  unfold Qdisc.unclassifiedRate
  rw [Option.map_eq_none_iff, List.find?_eq_none]
  intro c hc hid
  refine hreached.within.default_free (List.mem_map.mpr ⟨c, hc, ?_⟩)
  rw [of_decide_eq_true hid, hq.defaultClass]

def shaperQdisc : Qdisc := ⟨"1:".toList, "30".toList⟩

theorem shaperQdisc_setUp : shaperQdisc.SetUp :=
  ⟨⟨.ok [], none, none⟩, "cbr0".toList, ["qdisc".toList, "add", "dev", "cbr0", "root",
    "handle", "1:", "htb", "default", "30"], by decide, by decide⟩

theorem nextClassID_allocated_iff_pod :
    ∃ w, ReachedWithin (failingAt []) w ∧ w.iface.classes.length = 2 ∧ shaperQdisc.unclassifiedRate w.iface = none := by
  have hreached : ReachedWithin (failingAt []) _ :=
    Reachable.call (c := .limit "10.0.0.2/32".toList (some 1000000) (some 2000000)) (Reachable.start rfl) (by decide)
  exact ⟨_, hreached, by decide +kernel, (nextClassID_allocated_iff shaperQdisc_setUp).2 _ _ hreached⟩

/-- The interface after limits in both directions for a number of pods. -/
def limitedPods (pods : Nat) : World :=
  (List.range pods).foldl (fun w i =>
    (limit (failingAt []) ("10.0.0.".toList ++ itoa (i + 1) ++ "/32".toList) (some 1000000) (some 2000000) w).2) World.initial

/-- The fifteenth pod gets the default class, and all packets that are for no pod its limit. Next to a class `1:1a` that the
    shaper has not added, it does not give out the ID `1:1`, which is free. -/
theorem limitedPods_unclassified :
    (nextClassID (failingAt []) ⟨⟨(List.range' 1 29).map (.ofID · ⟨1000⟩), []⟩, []⟩).1 = .ok 30 ∧
      shaperQdisc.defaultClass = classID 30 ∧ shaperQdisc.unclassifiedRate (limitedPods 15).iface = some ⟨1000⟩ ∧
      (nextClassID (failingAt []) ⟨⟨[⟨0x1a, ⟨1000⟩⟩], []⟩, []⟩).1 = .ok 2 ∧
      classID 1 ∉ [HtbClass.id ⟨0x1a, ⟨1000⟩⟩] := by
  refine ⟨by decide +kernel, by decide, by decide +kernel, by decide +kernel, by decide +kernel⟩

end CriDockerd.Bandwidth
