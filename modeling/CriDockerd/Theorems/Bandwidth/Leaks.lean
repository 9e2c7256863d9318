import CriDockerd.Lib.Reachable
import CriDockerd.Theorems.Bandwidth.Changes

/-! Whether a class of the shaper can be left behind. A class is only found by the filter that points to it; so it is
    lost as soon as its filter is not added, or is deleted without it, and it stays for good. -/

namespace CriDockerd.Bandwidth
open Text NetIP

/-- Each filter points to a class of its own. -/
structure WellFormed (s : Interface) : Prop where
  ids : (s.classes.map (·.id)).Nodup
  targets : ∀ f ∈ s.filters, f.classid ∈ s.classes.map (·.id)
  classids : (s.filters.map (·.classid)).Nodup
  handles : (s.filters.map (·.handle)).Nodup

/-- A class that no filter points to. -/
structure Leaked (s : Interface) (c : HtbClass) : Prop where
  class_ : c ∈ s.classes
  filters : ∀ f ∈ s.filters, f.classid ≠ c.id

/-- A class is leaked exactly if a command has failed where that leaves one. -/
structure Accounted (w : World) : Prop where
  wellFormed : WellFormed w.iface
  leaked : (∃ c, Leaked w.iface c) ↔ ¬Harmless w.log

/-! ### Steps -/

theorem handle_inj {f g : U32Filter} (h : f.handle = g.handle) : f.node = g.node := by
  have hnode : f.nodeText = g.nodeText := List.append_cancel_left h
  simp only [U32Filter.nodeText, List.cons.injEq, and_true] at hnode
  obtain ⟨hhi, hmid, hlo⟩ := hnode
  calc f.node = ⟨f.node.hi, f.node.mid, f.node.lo⟩ := rfl
    _ = ⟨g.node.hi, g.node.mid, g.node.lo⟩ := by rw [digitChar_inj hhi, digitChar_inj hmid, digitChar_inj hlo]
    _ = g.node := rfl

theorem nodup_append_singleton {α β : Type} {f : α → β} {l : List α} {a : α} (h : (l.map f).Nodup) (ha : f a ∉ l.map f) :
    ((l ++ [a]).map f).Nodup := by
  rw [List.map_append, List.nodup_append]
  refine ⟨h, List.nodup_singleton _, fun x hx y hy heq => ?_⟩
  rw [heq, List.mem_singleton.mp hy] at hx
  exact ha hx

theorem nodup_filter {α β : Type} {f : α → β} {l : List α} (p : α → Bool) (h : (l.map f).Nodup) :
    ((l.filter p).map f).Nodup := h.sublist (List.filter_sublist.map f)

section
variable {w : World} {entries : List (Command × Bool)} {class_ : Nat} {rate : Rate} {node : Node} {direction : Direction}
  {network : U32Match} {f : U32Filter}

theorem not_harmless_append {a b : List (Command × Bool)} (h : Harmless b) : ¬Harmless (a ++ b) ↔ ¬Harmless a :=
  not_congr ⟨fun hab e he => hab e (List.mem_append_left b he), fun ha => ha.append h⟩

theorem not_harmless_failed {a : List (Command × Bool)} {cmd : Command} (h : cmd.leaks = true) :
    ¬Harmless (a ++ [(cmd, false)]) := by
  intro hharmless
  have hleaks := hharmless (cmd, false) (List.mem_append_right a List.mem_cons_self) rfl
  rw [h] at hleaks
  cases hleaks

theorem Accounted.note (h : Accounted w) (hentries : Harmless entries) : Accounted (w.note entries) :=
  ⟨h.wellFormed, h.leaked.trans (not_harmless_append hentries).symm⟩

theorem Accounted.added (h : Accounted w) (hentries : Harmless entries) (hpos : 0 < class_)
    (hclass : classID class_ ∉ w.iface.classes.map (·.id)) (hnode : node ∉ w.iface.filters.map (·.node)) :
    Accounted
      { iface :=
          { classes := w.iface.classes ++ [.ofID class_ rate]
            filters := w.iface.filters ++ [⟨node, direction, network, class_⟩] }
        log := w.log ++ entries } := by
  have hid := id_ofID hpos rate
  have hclassid : (U32Filter.mk node direction network class_).classid = (HtbClass.ofID class_ rate).id :=
    (classid_eq _).trans hid.symm
  rw [← hid] at hclass
  have hnew : ∀ g ∈ w.iface.filters, g.classid ≠ (HtbClass.ofID class_ rate).id := fun g hg heq =>
    hclass (heq ▸ h.wellFormed.targets g hg)
  refine ⟨⟨nodup_append_singleton h.wellFormed.ids hclass, ?_, nodup_append_singleton h.wellFormed.classids ?_,
    nodup_append_singleton h.wellFormed.handles ?_⟩, Iff.trans ⟨?_, ?_⟩ (h.leaked.trans (not_harmless_append hentries).symm)⟩
  · intro g hg
    dsimp only
    rw [List.map_append]
    rcases List.mem_append.mp hg with hg | hg
    · exact List.mem_append_left _ (h.wellFormed.targets g hg)
    · rw [List.mem_singleton.mp hg, hclassid]
      exact List.mem_append_right _ List.mem_cons_self
  · intro hmem
    obtain ⟨g, hg, heq⟩ := List.mem_map.mp hmem
    exact hnew g hg (heq.trans hclassid)
  · intro hmem
    obtain ⟨g, hg, heq⟩ := List.mem_map.mp hmem
    exact hnode (List.mem_map.mpr ⟨g, hg, handle_inj heq⟩)
  · rintro ⟨c, hleak⟩
    rcases List.mem_append.mp hleak.class_ with hc | hc
    · exact ⟨c, hc, fun g hg => hleak.filters g (List.mem_append_left _ hg)⟩
    · rw [List.mem_singleton.mp hc] at hleak
      exact absurd hclassid (hleak.filters _ (List.mem_append_right _ List.mem_cons_self))
  · rintro ⟨c, hleak⟩
    refine ⟨c, List.mem_append_left _ hleak.class_, fun g hg heq => ?_⟩
    rcases List.mem_append.mp hg with hg | hg
    · exact hleak.filters g hg heq
    · rw [List.mem_singleton.mp hg, hclassid] at heq
      exact hclass (List.mem_map.mpr ⟨c, hleak.class_, heq.symm⟩)

theorem Accounted.classAdded (h : Accounted w) {cmd : Command} (hcmd : cmd.leaks = true) (hpos : 0 < class_)
    (hclass : classID class_ ∉ w.iface.classes.map (·.id)) :
    Accounted
      { iface := { w.iface with classes := w.iface.classes ++ [.ofID class_ rate] }
        log := w.log ++ entries ++ [(cmd, false)] } := by
  rw [← id_ofID hpos rate] at hclass
  refine ⟨⟨nodup_append_singleton h.wellFormed.ids hclass, fun g hg => ?_, h.wellFormed.classids, h.wellFormed.handles⟩,
    ⟨fun _ => not_harmless_failed hcmd, fun _ => ?_⟩⟩
  · dsimp only
    rw [List.map_append]
    exact List.mem_append_left _ (h.wellFormed.targets g hg)
  · refine ⟨.ofID class_ rate, List.mem_append_right _ List.mem_cons_self, fun g hg heq => ?_⟩
    exact hclass (heq ▸ h.wellFormed.targets g hg)

theorem WellFormed.classid_ne (h : WellFormed w.iface) (hf : f ∈ w.iface.filters) {g : U32Filter}
    (hg : g ∈ w.iface.filters.filter fun g => g.handle ≠ f.handle) : g.classid ≠ f.classid := by
  obtain ⟨hmem, hne⟩ := List.mem_filter.mp hg
  rw [decide_eq_true_iff] at hne
  intro heq
  exact hne (congrArg U32Filter.handle (List.inj_on_of_nodup_map h.classids hmem hf heq))

theorem Accounted.deleted (h : Accounted w) (hentries : Harmless entries) (hf : f ∈ w.iface.filters) :
    Accounted
      { iface :=
          { classes := w.iface.classes.filter fun c => c.id ≠ f.classid
            filters := w.iface.filters.filter fun g => g.handle ≠ f.handle }
        log := w.log ++ entries } := by
  refine ⟨⟨nodup_filter _ h.wellFormed.ids, fun g hg => ?_, nodup_filter _ h.wellFormed.classids,
    nodup_filter _ h.wellFormed.handles⟩, Iff.trans ⟨?_, ?_⟩ (h.leaked.trans (not_harmless_append hentries).symm)⟩
  · obtain ⟨c, hc, hid⟩ := List.mem_map.mp (h.wellFormed.targets g (List.mem_filter.mp hg).1)
    refine List.mem_map.mpr ⟨c, List.mem_filter.mpr ⟨hc, decide_eq_true ?_⟩, hid⟩
    exact hid ▸ h.wellFormed.classid_ne hf hg
  · rintro ⟨c, hleak⟩
    obtain ⟨hc, hne⟩ := List.mem_filter.mp hleak.class_
    rw [decide_eq_true_iff] at hne
    refine ⟨c, hc, fun g hg heq => ?_⟩
    by_cases hhandle : g.handle = f.handle
    · have hgf := List.inj_on_of_nodup_map h.wellFormed.handles hg hf hhandle
      exact hne (heq.symm.trans (congrArg U32Filter.classid hgf))
    · exact hleak.filters g (List.mem_filter.mpr ⟨hg, decide_eq_true hhandle⟩) heq
  · rintro ⟨c, hleak⟩
    refine ⟨c, List.mem_filter.mpr ⟨hleak.class_, decide_eq_true fun heq => hleak.filters f hf heq.symm⟩, fun g hg => ?_⟩
    exact hleak.filters g (List.mem_filter.mp hg).1

theorem Accounted.filterDeleted (h : Accounted w) {cmd : Command} (hcmd : cmd.leaks = true) (hf : f ∈ w.iface.filters) :
    Accounted
      { iface := { w.iface with filters := w.iface.filters.filter fun g => g.handle ≠ f.handle }
        log := w.log ++ entries ++ [(cmd, false)] } := by
  refine ⟨⟨h.wellFormed.ids, fun g hg => h.wellFormed.targets g (List.mem_filter.mp hg).1,
    nodup_filter _ h.wellFormed.classids, nodup_filter _ h.wellFormed.handles⟩,
    ⟨fun _ => not_harmless_failed hcmd, fun _ => ?_⟩⟩
  obtain ⟨c, hc, hid⟩ := List.mem_map.mp (h.wellFormed.targets f hf)
  exact ⟨c, hc, fun g hg heq => h.wellFormed.classid_ne hf hg (heq.trans hid)⟩

theorem Accounted.change {w' : World} (h : Accounted w) (hchange : Change w w') : Accounted w' := by
  cases hchange with
  | note hentries => exact h.note hentries
  | added hentries hpos hclass hnode => exact h.added hentries hpos hclass hnode
  | classAdded _ hpos hclass => exact h.classAdded rfl hpos hclass
  | deleted hentries hf => exact h.deleted hentries hf
  | filterDeleted _ hf => exact h.filterDeleted rfl hf

theorem Accounted.changes {w' : World} (h : Accounted w) (hchanges : Changes w w') : Accounted w' := by
  induction hchanges with
  | refl => exact h
  | tail _ hchange ih => exact ih.change hchange

theorem Accounted.run {env : Env} (h : Accounted w) (call : Call) : Accounted (call.run env w) := by
  cases call with
  | limit cidr upload download => exact h.changes (limit_changes env w cidr upload download)
  | reconcileCIDR cidr upload download => exact h.changes (reconcileCIDR_changes env w cidr upload download)
  | reset iface cidr => exact h.changes (reset_changes h.wellFormed.handles iface cidr)

end

/-! ### Runs -/

def World.initial : World := { iface := { classes := [], filters := [] }, log := [] }

abbrev Reached (env : Env) : World → Prop := Reachable (· = World.initial) (fun _ _ => True) (Call.run env)

theorem Reached.accounted {env : Env} {w : World} (h : Reached env w) : Accounted w := by
  refine h.invariant Accounted ?_ fun w call hw _ => hw.run call
  rintro w rfl
  refine ⟨⟨List.nodup_nil, fun f hf => absurd hf List.not_mem_nil, List.nodup_nil, List.nodup_nil⟩, ⟨?_, fun h => ?_⟩⟩
  · rintro ⟨c, hleak⟩
    cases hleak.class_
  · exact absurd (fun e he => absurd he List.not_mem_nil) h

/-- A filter points to the class, or some reset deletes it. -/
def Kept (tc : Tc) (s : Interface) (c : HtbClass) : Prop :=
  (∃ f ∈ s.filters, f.classid = c.id) ∨
    ∃ faults iface cidr, c ∉ (reset { tc, faults } iface cidr { iface := s, log := [] }).2.iface.classes

/-- Every class is kept, and there are no more classes than filters. -/
structure WithoutLeaks (tc : Tc) (s : Interface) : Prop where
  kept : ∀ c ∈ s.classes, Kept tc s c
  count : s.classes.length ≤ s.filters.length

section
variable {env : Env} {s : Interface} {c : HtbClass}

theorem resetAll_keeps {entries : List (Text × Text)} (hentries : ∀ e ∈ entries, e.1 ≠ c.id) {w : World}
    (hc : c ∈ w.iface.classes) : c ∈ (resetAll env entries w).2.iface.classes := by
  induction entries generalizing w with
  | nil => exact hc
  | cons entry entries ih =>
    obtain ⟨class_, handle⟩ := entry
    rcases resetAll_cons_cases class_ handle entries w with ⟨err, hreset⟩ | ⟨-, ⟨err, hreset⟩ | hreset⟩
    · rw [hreset]
      exact hc
    · rw [hreset]
      exact hc
    · rw [hreset]
      refine ih (fun e he => hentries e (List.mem_cons_of_mem _ he)) ?_
      exact List.mem_filter.mpr ⟨hc, decide_eq_true (hentries _ List.mem_cons_self).symm⟩

theorem classids_of_reads {targets : List U32Filter} {entries : List (Text × Text)} (h : List.Forall₂ Reads targets entries) :
    entries.map (·.1) = targets.map (·.classid) := by
  induction h with
  | nil => rfl
  | cons hread _ ih => rw [List.map_cons, List.map_cons, hread.classid, ih]

theorem Leaked.not_kept {tc : Tc} (h : Leaked s c) : ¬Kept tc s c := by
  rintro (⟨f, hf, heq⟩ | ⟨faults, iface, cidr, hgone⟩)
  · exact h.filters f hf heq
  · refine hgone ?_
    unfold reset
    rcases findCIDRClass_cases { tc, faults } { iface := s, log := [] } cidr with ⟨err, ok, hfind⟩ |
      ⟨entries, ip, net, -, hreads, hfind⟩
    · rw [hfind]
      exact h.class_
    · rw [hfind]
      cases entries with
      | nil => exact h.class_
      | cons entry entries =>
        refine resetAll_keeps (fun e he => ?_) h.class_
        obtain ⟨f, hf, hid⟩ := List.mem_map.mp (classids_of_reads hreads ▸ List.mem_map_of_mem he)
        exact fun heq => h.filters f (List.mem_filter.mp hf).1 (hid.trans heq)

theorem WellFormed.count (h : WellFormed s) (hfree : ∀ c, ¬Leaked s c) : s.classes.length ≤ s.filters.length := by
  have hsub : s.classes.map (·.id) ⊆ s.filters.map (·.classid) := by
    intro id hid
    obtain ⟨c, hc, rfl⟩ := List.mem_map.mp hid
    by_contra hnone
    exact hfree c ⟨hc, fun f hf heq => hnone (List.mem_map.mpr ⟨f, hf, heq⟩)⟩
  have hle := h.ids.length_le_of_subset hsub
  rwa [List.length_map, List.length_map] at hle

/-- In every run of the shaper, whichever commands fail, no class is left behind exactly if no `tc filter add` and no
    `tc class del` has failed. -/
theorem reached_withoutLeaks_iff {w : World} (h : Reached env w) : WithoutLeaks env.tc w.iface ↔ Harmless w.log := by
  have haccounted := h.accounted
  constructor
  · intro hkept
    by_contra hfailed
    obtain ⟨c, hleak⟩ := haccounted.leaked.mpr hfailed
    exact hleak.not_kept (hkept.kept c hleak.class_)
  · intro hharmless
    have hfree : ∀ c, ¬Leaked w.iface c := fun c hleak => haccounted.leaked.mp ⟨c, hleak⟩ hharmless
    refine ⟨fun c hc => Or.inl ?_, haccounted.wellFormed.count hfree⟩
    by_contra hnone
    exact hfree c ⟨hc, fun f hf heq => hnone ⟨f, hf, heq⟩⟩

end

/-- Commands that fail as told by their number in the run. -/
def failingAt (numbers : List Nat) : Env where
  tc := linuxTc .new
  faults n _ := if n ∈ numbers then some (.text "exit status 1") else none

theorem reached_calls {env : Env} {w : World} (h : Reached env w) (calls : List Call) :
    Reached env (calls.foldl (fun w call => call.run env w) w) := by
  induction calls generalizing w with
  | nil => exact h
  | cons call calls ih => exact ih (Reachable.call h trivial)

/-- The first `tc class show` fails; the pod is then limited in both directions, and another one in one. -/
theorem reached_withoutLeaks_iff_retry :
    ∃ w, Reached (failingAt [1]) w ∧ WithoutLeaks (linuxTc .new) w.iface ∧ w.iface.classes.length = 3 := by
  have hreached := @reached_calls (failingAt [1]) _ (Reachable.start rfl)
    [.reconcileCIDR "10.0.0.2/32" (some 1000000) (some 2000000),
     .reconcileCIDR "10.0.0.2/32" (some 1000000) (some 2000000),
     .limit "10.0.0.3/32" none (some 3000000)]
  refine ⟨_, hreached, (reached_withoutLeaks_iff hreached).mpr ?_, by decide +kernel⟩
  unfold Harmless
  decide +kernel

/-- A `tc filter add` fails: the call returns an error, and its class stays, although no filter points to it and no
    reset deletes it. The same comes of a `tc class del` that fails. -/
theorem failed_command_leaks_class :
    let c : HtbClass := ⟨1, ⟨2000⟩⟩
    let first := limit (failingAt [2]) "10.0.0.2/32" none (some 2000000) World.initial
    let limited := limit (failingAt [5]) "10.0.0.2/32" none (some 2000000) World.initial
    let second := reset (failingAt [5]) "cbr0" "10.0.0.2/32" limited.2
    first.1 ≠ none ∧ first.2.iface = { classes := [c], filters := [] } ∧
    limited.1 = none ∧ second.1 ≠ none ∧ second.2.iface = { classes := [c], filters := [] } ∧
    ¬Kept (linuxTc .new) { classes := [c], filters := [] } c := by
  refine ⟨by decide +kernel, by decide +kernel, by decide +kernel, by decide +kernel, by decide +kernel, ?_⟩
  exact Leaked.not_kept ⟨List.mem_cons_self, fun f hf => absurd hf List.not_mem_nil⟩

end CriDockerd.Bandwidth
