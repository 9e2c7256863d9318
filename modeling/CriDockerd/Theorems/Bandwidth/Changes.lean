import Mathlib.Data.List.Nodup
import Mathlib.Logic.Relation
import CriDockerd.Theorems.Bandwidth.Output

/-! What the calls of the shaper do to the interface, whichever of their commands fail. A class comes with its filter
    and goes with it, unless the second of the two commands fails. -/

namespace CriDockerd.Bandwidth
open Text NetIP

/-- The commands whose failure leaves a class without a filter. -/
def Command.leaks : Command → Bool
  | .filterAdd .. | .classDel _ => true
  | _ => false

/-- None of these commands has failed where that leaves a class without a filter. -/
def Harmless (entries : List (Command × Bool)) : Prop := ∀ e ∈ entries, e.2 = false → e.1.leaks = false

/-- Further commands that have not changed the interface. -/
def World.note (w : World) (entries : List (Command × Bool)) : World := { w with log := w.log ++ entries }

@[simp] theorem note_iface (w : World) (entries : List (Command × Bool)) : (w.note entries).iface = w.iface := rfl

/-- A step of a call: nothing is changed; a class and a filter to it are added, or only the class; a filter and its
    class are deleted, or only the filter. -/
inductive Change (w : World) : World → Prop
  | note {entries : List (Command × Bool)} (hentries : Harmless entries) : Change w (w.note entries)
  | added {entries : List (Command × Bool)} (hentries : Harmless entries) {class_ : Nat} {rate : Rate} {node : Node}
      {direction : Direction} {network : U32Match} (hpos : 0 < class_) (hclass : classID class_ ∉ w.iface.classes.map (·.id))
      (hnode : node ∉ w.iface.filters.map (·.node)) :
      Change w
        { iface :=
            { classes := w.iface.classes ++ [.ofID class_ rate]
              filters := w.iface.filters ++ [⟨node, direction, network, class_⟩] }
          log := w.log ++ entries }
  | classAdded {entries : List (Command × Bool)} (hentries : Harmless entries) {class_ : Nat} {rate : Rate}
      {direction : Direction} {cidr : Text} (hpos : 0 < class_) (hclass : classID class_ ∉ w.iface.classes.map (·.id)) :
      Change w
        { iface := { w.iface with classes := w.iface.classes ++ [.ofID class_ rate] }
          log := w.log ++ entries ++ [(.filterAdd direction cidr class_, false)] }
  | deleted {entries : List (Command × Bool)} (hentries : Harmless entries) {f : U32Filter} (hf : f ∈ w.iface.filters) :
      Change w
        { iface :=
            { classes := w.iface.classes.filter fun c => c.id ≠ f.classid
              filters := w.iface.filters.filter fun g => g.handle ≠ f.handle }
          log := w.log ++ entries }
  | filterDeleted {entries : List (Command × Bool)} (hentries : Harmless entries) {f : U32Filter} (hf : f ∈ w.iface.filters) :
      Change w
        { iface := { w.iface with filters := w.iface.filters.filter fun g => g.handle ≠ f.handle }
          log := w.log ++ entries ++ [(.classDel f.classid, false)] }

abbrev Changes : World → World → Prop := Relation.ReflTransGen Change

/-- The least number that the shaper reads in no ID, if it can read all of them. -/
structure NextClass (s : Interface) (class_ : Nat) : Prop where
  pos : 1 ≤ class_
  lt : class_ < 10000
  readable : ∀ c ∈ s.classes, c.digits ≠ []
  unread : ∀ c ∈ s.classes, c.digits ≠ itoa class_
  least : ∀ j, 1 ≤ j → j < class_ → ∃ c ∈ s.classes, c.digits = itoa j

theorem digits_of_id {c : HtbClass} {class_ : Nat} (h : c.id = classID class_) : c.digits = itoa class_ := by
  have hdigits : hexOr c.minor = itoa class_ := List.append_cancel_left h
  rw [HtbClass.digits, hdigits, List.takeWhile_eq_self_iff.mpr fun _ => isDigit_of_mem_itoa]

theorem NextClass.free {s : Interface} {class_ : Nat} (h : NextClass s class_) : classID class_ ∉ s.classes.map (·.id) := by
  intro hmem
  obtain ⟨c, hc, hid⟩ := List.mem_map.mp hmem
  exact h.unread c hc (digits_of_id hid)

/-! ### Commands -/

section
variable (env : Env) (w : World)

theorem exec_cases (cmd : Command) : (∃ err, exec env cmd w = (.error err, w.note [(cmd, false)])) ∨
    ∃ data iface, env.tc.exec cmd w.iface = some (data, iface) ∧
      exec env cmd w = (.ok data, { iface, log := w.log ++ [(cmd, true)] }) := by
  unfold exec
  cases env.faults w.log.length cmd with
  | some err => exact Or.inl ⟨err, rfl⟩
  | none =>
    cases hexec : env.tc.exec cmd w.iface with
    | none => exact Or.inl ⟨_, rfl⟩
    | some result => exact Or.inr ⟨result.1, result.2, rfl, rfl⟩

theorem exec_filterAdd_cases (direction : Direction) (cidr : Text) (class_ : Nat) :
    (∃ err, exec env (.filterAdd direction cidr class_) w =
      (.error err, w.note [(.filterAdd direction cidr class_, false)])) ∨
    ∃ node network, node ∉ w.iface.filters.map (·.node) ∧ env.tc.network cidr = some network ∧
      exec env (.filterAdd direction cidr class_) w =
        (.ok [], { iface := { w.iface with filters := w.iface.filters ++ [⟨node, direction, network, class_⟩] }
                   log := w.log ++ [(.filterAdd direction cidr class_, true)] }) := by
  rcases exec_cases env w (.filterAdd direction cidr class_) with herr | ⟨data, iface, htc, hexec⟩
  · exact Or.inl herr
  · rw [Tc.exec] at htc
    split at htc
    · rename_i network node hnetwork hnode
      cases htc
      exact Or.inr ⟨node, network, env.tc.node_fresh hnode, hnetwork, hexec⟩
    · cases htc

theorem exec_filterDel_cases (handle : Text) :
    (∃ err, exec env (.filterDel handle) w = (.error err, w.note [(.filterDel handle, false)])) ∨
    handle ∈ w.iface.filters.map (·.handle) ∧
      exec env (.filterDel handle) w =
        (.ok [], { iface := { w.iface with filters := w.iface.filters.filter fun f => f.handle ≠ handle }
                   log := w.log ++ [(.filterDel handle, true)] }) := by
  rcases exec_cases env w (.filterDel handle) with herr | ⟨data, iface, htc, hexec⟩
  · exact Or.inl herr
  · rw [Tc.exec] at htc
    split at htc
    · rename_i hhandle
      cases htc
      exact Or.inr ⟨hhandle, hexec⟩
    · cases htc

theorem exec_classDel_cases (classid : Text) :
    (∃ err, exec env (.classDel classid) w = (.error err, w.note [(.classDel classid, false)])) ∨
    exec env (.classDel classid) w =
      (.ok [], { iface := { w.iface with classes := w.iface.classes.filter fun c => c.id ≠ classid }
                 log := w.log ++ [(.classDel classid, true)] }) := by
  rcases exec_cases env w (.classDel classid) with herr | ⟨data, iface, htc, hexec⟩
  · exact Or.inl herr
  · rw [Tc.exec] at htc
    split at htc
    · cases htc
      exact Or.inr hexec
    · cases htc

end

theorem harmless_ok (cmd : Command) : Harmless [(cmd, true)] := by
  intro e he hfalse
  rw [List.mem_singleton.mp he] at hfalse
  cases hfalse

theorem harmless_of_not_leaks (cmd : Command) (h : cmd.leaks = false) (ok : Bool) : Harmless [(cmd, ok)] := by
  intro e he _
  rw [List.mem_singleton.mp he]
  exact h

theorem Harmless.append {a b : List (Command × Bool)} (ha : Harmless a) (hb : Harmless b) : Harmless (a ++ b) := by
  intro e he
  rcases List.mem_append.mp he with he | he
  · exact ha e he
  · exact hb e he

/-! ### Reading -/

section
variable (env : Env) (w : World)

/-- The search among the numbers that are read, if all classes can be read. -/
theorem search_eq (classes : List HtbClass) :
    ((List.range' 1 9999).find? fun nextClass : Nat =>
        classID nextClass ∉ (classes.map fun c => "1:".toList ++ c.digits).reverse ++ []) =
      (List.range' 1 9999).find? fun nextClass : Nat => ∀ c ∈ classes, c.digits ≠ itoa nextClass := by
  congr 1
  funext nextClass
  simp only [List.append_nil, List.mem_reverse, List.mem_map, classID, List.append_right_inj, not_exists, not_and, ne_eq]

theorem nextClass_of_find {s : Interface} {nextClass : Nat} (hall : ∀ c ∈ s.classes, c.digits ≠ [])
    (h : ((List.range' 1 9999).find? fun nextClass : Nat => ∀ c ∈ s.classes, c.digits ≠ itoa nextClass) = some nextClass) :
    NextClass s nextClass := by
  obtain ⟨hfree, before, after, hsplit, hbefore⟩ := List.find?_eq_some_iff_append.mp h
  have hmem : nextClass ∈ List.range' 1 9999 := List.mem_of_find?_eq_some h
  obtain ⟨hlo, hhi⟩ := List.mem_range'_1.mp hmem
  refine ⟨hlo, hhi, hall, of_decide_eq_true hfree, fun j hj hlt => ?_⟩
  -- What is less than the number comes before it in the search.
  have hj : j ∈ before ++ nextClass :: after := hsplit ▸ List.mem_range'_1.mpr ⟨hj, by omega⟩
  have hsorted : (before ++ nextClass :: after).Pairwise (· < ·) := hsplit ▸ List.pairwise_lt_range'
  rcases List.mem_append.mp hj with hin | hin
  · simpa using hbefore j hin
  · rcases List.mem_cons.mp hin with rfl | hin
    · exact absurd hlt (Nat.lt_irrefl _)
    · exact absurd hlt (Nat.lt_asymm (List.rel_of_pairwise_cons (List.pairwise_append.mp hsorted).2.1 hin))

theorem nextClassID_cases :
    (∃ err ok, nextClassID env w = (.error err, w.note [(.classShow, ok)])) ∨
    ∃ class_, NextClass w.iface class_ ∧ nextClassID env w = (.ok class_, w.note [(.classShow, true)]) := by
  unfold nextClassID
  rcases exec_cases env w .classShow with ⟨err, hexec⟩ | ⟨data, iface, htc, hexec⟩
  · rw [hexec]
    exact Or.inl ⟨err, false, rfl⟩
  · cases htc
    rw [hexec]
    rcases scanClasses_classLines w.iface.classes [] with ⟨hall, hscan⟩ | ⟨-, err, hscan⟩
    · simp only [hscan, search_eq]
      cases hfind : (List.range' 1 9999).find? fun nextClass : Nat => ∀ c ∈ w.iface.classes, c.digits ≠ itoa nextClass with
      | none => exact Or.inl ⟨_, true, rfl⟩
      | some nextClass => exact Or.inr ⟨nextClass, nextClass_of_find hall hfind, rfl⟩
    · simp only [hscan]
      exact Or.inl ⟨err, true, rfl⟩

theorem findCIDRClass_cases (cidr : Text) :
    (∃ err ok, findCIDRClass env cidr w = (.error err, w.note [(.filterShow, ok)])) ∨
    ∃ entries ip net, parseCIDRSloppy cidr = some (ip, net) ∧
      List.Forall₂ Reads (w.iface.filters.filter fun f => f.network.net = net) entries ∧
      findCIDRClass env cidr w = (.ok entries, w.note [(.filterShow, true)]) := by
  unfold findCIDRClass
  rcases exec_cases env w .filterShow with ⟨err, hexec⟩ | ⟨data, iface, htc, hexec⟩
  · rw [hexec]
    exact Or.inl ⟨err, false, rfl⟩
  · cases htc
    rw [hexec]
    cases hparse : parseCIDRSloppy cidr with
    | none =>
      simp only [hexCIDR, hparse]
      exact Or.inl ⟨_, true, rfl⟩
    | some parsed =>
      obtain ⟨ip, net⟩ := parsed
      obtain ⟨-, ones, bits, hnet⟩ := parseCIDRWith_net hparse
      rw [hexCIDR_eq hparse]
      dsimp only
      split
      · rename_i hempty
        refine Or.inr ⟨[], ip, net, rfl, ?_, rfl⟩
        rw [hempty]
        exact List.Forall₂.nil
      · obtain ⟨filter', hheader⟩ := @scanFilters_header env.tc.version _ [] []
          (w.iface.filters.flatMap (U32Filter.lines env.tc.version))
        rw [hheader]
        cases hscan : scanFilters _ (w.iface.filters.flatMap (U32Filter.lines env.tc.version)) filter' [] with
        | error err => exact Or.inl ⟨err, true, rfl⟩
        | ok entries =>
          obtain ⟨new, hnew, hreads⟩ := scanFilters_ok rfl hnet.length_eq hscan
          exact Or.inr ⟨entries, ip, net, rfl, hnew ▸ hreads, rfl⟩

end

/-! ### Limiting -/

section
variable (env : Env) (w : World)

theorem makeNewClass_cases (rate : Rate) :
    (∃ err entries, Harmless entries ∧ makeNewClass env rate w = (.error err, w.note entries)) ∨
    ∃ class_ entries, Harmless entries ∧ NextClass w.iface class_ ∧
      makeNewClass env rate w =
        (.ok class_, { iface := { w.iface with classes := w.iface.classes ++ [.ofID class_ rate] }, log := w.log ++ entries }) := by
  unfold makeNewClass
  rcases nextClassID_cases env w with ⟨err, ok, hnext⟩ | ⟨class_, hclass, hnext⟩
  · rw [hnext]
    exact Or.inl ⟨err, _, harmless_of_not_leaks _ rfl ok, rfl⟩
  · rw [hnext]
    dsimp only
    have hshow := harmless_ok .classShow
    rcases exec_cases env (w.note [(.classShow, true)]) (.classAdd class_ rate) with ⟨err, hexec⟩ | ⟨data, iface, htc, hexec⟩
    · rw [hexec]
      refine Or.inl ⟨err, _, hshow.append (harmless_of_not_leaks (.classAdd class_ rate) rfl false), ?_⟩
      exact congrArg (Prod.mk _) (congrArg (World.mk _) (List.append_assoc _ _ _))
    · rw [hexec]
      rw [Tc.exec, note_iface] at htc
      split at htc
      · cases htc
      · cases htc
        refine Or.inr ⟨class_, _, hshow.append (harmless_ok (.classAdd class_ rate)), hclass, ?_⟩
        exact congrArg (Prod.mk _) (congrArg (World.mk _) (List.append_assoc _ _ _))

/-- A direction is limited by a new class and a filter to it, or there is an error. -/
theorem limitDirection_cases (cidr : Text) (direction : Direction) (quantity : Int) :
    (∃ err w', limitDirection env cidr direction (some quantity) w = (some err, w') ∧ Change w w') ∨
    ∃ class_ node network entries, Harmless entries ∧ NextClass w.iface class_ ∧
      node ∉ w.iface.filters.map (·.node) ∧ env.tc.network cidr = some network ∧
      limitDirection env cidr direction (some quantity) w =
        (none, { iface := { classes := w.iface.classes ++ [.ofID class_ (makeKBitString quantity)]
                            filters := w.iface.filters ++ [⟨node, direction, network, class_⟩] }
                 log := w.log ++ entries }) := by
  unfold limitDirection
  dsimp only
  rcases makeNewClass_cases env w (makeKBitString quantity) with ⟨err, entries, hentries, hmake⟩ |
    ⟨class_, entries, hentries, hclass, hmake⟩
  · rw [hmake]
    exact Or.inl ⟨err, _, rfl, Change.note hentries⟩
  · rw [hmake]
    dsimp only
    rcases exec_filterAdd_cases env
        { iface := { w.iface with classes := w.iface.classes ++ [.ofID class_ (makeKBitString quantity)] },
          log := w.log ++ entries } direction cidr class_ with ⟨err, hexec⟩ | ⟨node, network, hnode, hnetwork, hexec⟩
    · rw [hexec]
      exact Or.inl ⟨err, _, rfl, Change.classAdded hentries hclass.pos hclass.free⟩
    · rw [hexec]
      refine Or.inr ⟨class_, node, network, _, hentries.append (harmless_ok (.filterAdd direction cidr class_)), hclass,
        hnode, hnetwork, ?_⟩
      exact congrArg (Prod.mk _) (congrArg (World.mk _) (List.append_assoc _ _ _))

theorem limitDirection_changes (cidr : Text) (direction : Direction) (quantity : Option Int) :
    Changes w (limitDirection env cidr direction quantity w).2 := by
  cases quantity with
  | none => exact Relation.ReflTransGen.refl
  | some quantity =>
    rcases limitDirection_cases env w cidr direction quantity with ⟨err, w', hlimit, hchange⟩ |
      ⟨class_, node, network, entries, hentries, hclass, hnode, -, hlimit⟩
    · rw [hlimit]
      exact Relation.ReflTransGen.single hchange
    · rw [hlimit]
      exact Relation.ReflTransGen.single (Change.added hentries hclass.pos hclass.free hnode)

theorem limit_changes (cidr : Text) (upload download : Option Int) : Changes w (limit env cidr upload download w).2 := by
  have hdownload := limitDirection_changes env w cidr .dst download
  unfold limit
  cases hlimit : limitDirection env cidr .dst download w with
  | mk err w₁ =>
    rw [hlimit] at hdownload
    cases err with
    | some err => exact hdownload
    | none => exact hdownload.trans (limitDirection_changes env w₁ cidr .src upload)

theorem filterShow_changes (ok : Bool) : Changes w (w.note [(.filterShow, ok)]) :=
  Relation.ReflTransGen.single (Change.note (harmless_of_not_leaks .filterShow rfl ok))

theorem reconcileCIDR_changes (cidr : Text) (upload download : Option Int) :
    Changes w (reconcileCIDR env cidr upload download w).2 := by
  unfold reconcileCIDR
  rcases findCIDRClass_cases env w cidr with ⟨err, ok, hfind⟩ | ⟨entries, ip, net, -, -, hfind⟩
  · rw [hfind]
    exact filterShow_changes w ok
  · rw [hfind]
    cases entries with
    | nil => exact (filterShow_changes w true).trans (limit_changes env _ cidr upload download)
    | cons entry entries => exact filterShow_changes w true

end

/-! ### Resetting -/

section
variable {env : Env}

/-- One round of the loop: the filter is not deleted, or it is deleted and its class is not, or both are. -/
theorem resetAll_cons_cases (class_ handle : Text) (rest : List (Text × Text)) (w : World) :
    (∃ err, resetAll env ((class_, handle) :: rest) w = (some err, w.note [(.filterDel handle, false)])) ∨
    handle ∈ w.iface.filters.map (·.handle) ∧
      ((∃ err, resetAll env ((class_, handle) :: rest) w =
        (some err, { iface := { w.iface with filters := w.iface.filters.filter fun f => f.handle ≠ handle }
                     log := w.log ++ [(.filterDel handle, true)] ++ [(.classDel class_, false)] })) ∨
      resetAll env ((class_, handle) :: rest) w =
        resetAll env rest
          { iface :=
              { classes := w.iface.classes.filter fun c => c.id ≠ class_
                filters := w.iface.filters.filter fun f => f.handle ≠ handle }
            log := w.log ++ [(.filterDel handle, true)] ++ [(.classDel class_, true)] }) := by
  rw [resetAll]
  rcases exec_filterDel_cases env w handle with ⟨err, hexec⟩ | ⟨hhandle, hexec⟩
  · rw [hexec]
    exact Or.inl ⟨err, rfl⟩
  · rw [hexec]
    refine Or.inr ⟨hhandle, ?_⟩
    dsimp only
    rcases exec_classDel_cases env
        { iface := { w.iface with filters := w.iface.filters.filter fun f => f.handle ≠ handle },
          log := w.log ++ [(.filterDel handle, true)] } class_ with ⟨err, hexec'⟩ | hexec'
    · rw [hexec']
      exact Or.inl ⟨err, rfl⟩
    · rw [hexec']
      exact Or.inr rfl

/-- A filter that is deleted by its handle as it was read is the one that was read. -/
theorem resetAll_changes {fs targets : List U32Filter} {entries : List (Text × Text)} (hnodup : (fs.map (·.handle)).Nodup)
    (htargets : targets ⊆ fs) (hreads : List.Forall₂ Reads targets entries) {w : World} (hsub : w.iface.filters ⊆ fs) :
    Changes w (resetAll env entries w).2 := by
  induction hreads generalizing w with
  | nil => exact Relation.ReflTransGen.refl
  | @cons f entry targets entries hread _ ih =>
    obtain ⟨class_, handle⟩ := entry
    obtain rfl : class_ = f.classid := hread.classid
    rcases resetAll_cons_cases f.classid handle entries w with ⟨err, hreset⟩ | ⟨hhandle, hreset⟩
    · rw [hreset]
      exact Relation.ReflTransGen.single (Change.note (harmless_of_not_leaks (.filterDel handle) rfl false))
    · obtain ⟨g, hg, hhandle⟩ := List.mem_map.mp hhandle
      have hgf : g.handle = f.handle := hread.handle_eq hhandle.symm
      have hf : f ∈ w.iface.filters := by
        have heq := List.inj_on_of_nodup_map hnodup (hsub hg) (htargets List.mem_cons_self) hgf
        exact heq ▸ hg
      obtain rfl : handle = f.handle := hhandle.symm.trans hgf
      have hfilterDel := harmless_ok (.filterDel f.handle)
      rcases hreset with ⟨err, hreset⟩ | hreset
      · rw [hreset]
        exact Relation.ReflTransGen.single (Change.filterDeleted hfilterDel hf)
      · rw [hreset]
        have hdeleted := Change.deleted (hfilterDel.append (harmless_ok (.classDel f.classid))) hf
        rw [← List.append_assoc] at hdeleted
        refine Relation.ReflTransGen.head hdeleted (ih (fun t ht => htargets (List.mem_cons_of_mem _ ht)) ?_)
        exact fun g hg => hsub (List.mem_filter.mp hg).1

theorem reset_changes {w : World} (hnodup : (w.iface.filters.map (·.handle)).Nodup) (iface cidr : Text) :
    Changes w (reset env iface cidr w).2 := by
  unfold reset
  rcases findCIDRClass_cases env w cidr with ⟨err, ok, hfind⟩ | ⟨entries, ip, net, -, hreads, hfind⟩
  · rw [hfind]
    exact filterShow_changes w ok
  · rw [hfind]
    cases entries with
    | nil => exact filterShow_changes w true
    | cons entry entries =>
      refine (filterShow_changes w true).trans ?_
      exact resetAll_changes hnodup (List.filter_subset_self _) hreads (List.Subset.refl _)

end

end CriDockerd.Bandwidth
