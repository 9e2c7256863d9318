import CriDockerd.Errors
import CriDockerd.Utils.Errors

/-! Trees of errors that `NewAggregate` builds. Everything that the package tells about such a tree, it tells about its leaves. -/

namespace CriDockerd.Utilerrors
open Text

variable {ε τ : Type}

mutual

def Err.leaves : Err ε → List ε
  | .leaf err => [err]
  | .aggregate errs => leavesAll errs
  | .foreign _ errs => leavesAll errs

def leavesAll : List (Err ε) → List ε
  | [] => []
  | e :: es => e.leaves ++ leavesAll es

end

def leavesOf (err : Option (Err ε)) : List ε := err.elim [] Err.leaves

/-- What `NewAggregate` makes of errors of other packages, of nil, and of what it made before. -/
inductive Built : Option (Err ε) → Prop
  | leaf (err : ε) : Built (some (.leaf err))
  | newAggregate {errlist : List (Option (Err ε))} (h : ∀ e ∈ errlist, Built e) : Built (newAggregate errlist)

/-! ### Aggregates -/

theorem newAggregate_eq_some {errlist : List (Option (Err ε))} {agg : Err ε} :
    newAggregate errlist = some agg ↔ errlist.filterMap id ≠ [] ∧ .aggregate (errlist.filterMap id) = agg := by
  unfold newAggregate
  cases errlist.filterMap id with
  | nil => simp
  | cons err errs => simp

theorem newAggregate_map_some (errs : List (Err ε)) :
    newAggregate (errs.map some) = if errs = [] then none else some (.aggregate errs) := by
  have hid : (errs.map some).filterMap id = errs := by
    rw [List.filterMap_map]
    exact List.filterMap_some
  unfold newAggregate
  rw [hid]
  cases errs with
  | nil => rfl
  | cons err errs => rfl

theorem leavesOf_newAggregate (errs : List (Err ε)) : leavesOf (newAggregate (errs.map some)) = leavesAll errs := by
  rw [newAggregate_map_some]
  split
  · rename_i hnil
    rw [hnil, leavesAll]
    rfl
  · rw [leavesOf, Option.elim_some, Err.leaves]

theorem Built.forall_mem {P : Err ε → Prop} (hleaf : ∀ err, P (.leaf err))
    (haggregate : ∀ errs, errs ≠ [] → (∀ e ∈ errs, Built (some e)) → (∀ e ∈ errs, P e) → P (.aggregate errs))
    {t : Option (Err ε)} (h : Built t) : ∀ e ∈ t, P e := by
  induction h with
  | leaf err =>
    intro e he
    obtain rfl := Option.some.inj he
    exact hleaf err
  | @newAggregate errlist hbuilt ih =>
    intro e he
    obtain ⟨hne, rfl⟩ := newAggregate_eq_some.mp he
    have hmem : ∀ e' ∈ errlist.filterMap id, some e' ∈ errlist := by
      intro e' he'
      obtain ⟨x, hx, rfl⟩ := List.mem_filterMap.mp he'
      exact hx
    exact haggregate _ hne (fun e' he' => hbuilt _ (hmem e' he')) fun e' he' => ih _ (hmem e' he') e' rfl

theorem Built.leaves_ne_nil {t : Option (Err ε)} (h : Built t) : ∀ e ∈ t, e.leaves ≠ [] := by
  refine h.forall_mem (fun err => by simp [Err.leaves]) fun errs hne _ ih => ?_
  obtain ⟨e, rest, rfl⟩ := List.exists_cons_of_ne_nil hne
  rw [Err.leaves, leavesAll]
  exact List.append_ne_nil_of_left_ne_nil (ih e List.mem_cons_self) _

/-! ### Traversals -/

theorem eq_map_leavesAll {f : List (Err ε) → List (Err ε)} (hnil : f [] = []) (hcons : ∀ e rest, f (e :: rest) = f [e] ++ f rest)
    {errs : List (Err ε)} (h : ∀ e ∈ errs, f [e] = e.leaves.map .leaf) : f errs = (leavesAll errs).map .leaf := by
  induction errs with
  | nil => rw [hnil, leavesAll, List.map_nil]
  | cons e rest ih =>
    rw [hcons, h e List.mem_cons_self, ih fun e' he' => h e' (List.mem_cons_of_mem e he'), leavesAll, List.map_append]

theorem visited_cons (e : Err ε) (rest : List (Err ε)) : Err.visited (e :: rest) = Err.visited [e] ++ Err.visited rest := by
  cases e <;> simp [Err.visited]

theorem flattenLoop_cons (e : Err ε) (rest : List (Err ε)) : flattenLoop (e :: rest) = flattenLoop [e] ++ flattenLoop rest := by
  cases e <;> simp [flattenLoop]

theorem flattenLoop_aggregate (errs : List (Err ε)) : flattenLoop [.aggregate errs] = flattenLoop errs := by
  rw [flattenLoop, flattenLoop, newAggregate_map_some, List.append_nil]
  split
  · rename_i hnil
    rw [hnil]
    rfl
  · rfl

theorem Built.visited_eq {t : Option (Err ε)} (h : Built t) : ∀ e ∈ t, Err.visited [e] = e.leaves.map .leaf := by
  refine h.forall_mem (fun err => by simp [Err.visited, Err.leaves]) fun errs _ _ ih => ?_
  have hself : Err.visited [.aggregate errs] = Err.visited errs := by simp [Err.visited]
  rw [hself, eq_map_leavesAll (by rw [Err.visited]) visited_cons ih, Err.leaves]

theorem Built.flattenLoop_eq {t : Option (Err ε)} (h : Built t) : ∀ e ∈ t, flattenLoop [e] = e.leaves.map .leaf := by
  refine h.forall_mem (fun err => by simp [flattenLoop, Err.leaves]) fun errs _ _ ih => ?_
  rw [flattenLoop_aggregate, eq_map_leavesAll (by rw [flattenLoop]) flattenLoop_cons ih, Err.leaves]

theorem visited_eq_of_built {errs : List (Err ε)} (h : ∀ e ∈ errs, Built (some e)) :
    Err.visited errs = (leavesAll errs).map .leaf :=
  eq_map_leavesAll (by rw [Err.visited]) visited_cons fun e he => (h e he).visited_eq e rfl

/-! ### Texts and targets -/

theorem messagesText_singleton (msg : Text) : messagesText [msg] = msg := by
  simp [messagesText, addMessage]

theorem Err.error_aggregate (m : Methods ε τ) (a b : Err ε) (errs : List (Err ε)) :
    Err.error m (.aggregate (a :: b :: errs)) = messagesText ((Err.visited (a :: b :: errs)).map (Err.error m)) := by
  rw [Err.error, List.map_attach_eq_pmap, List.pmap_eq_map]
  all_goals simp

theorem Built.error_eq (m : Methods ε τ) {t : Option (Err ε)} (h : Built t) :
    ∀ e ∈ t, e.error m = messagesText (e.leaves.map m.error) := by
  refine h.forall_mem (fun err => ?_) fun errs hne hbuilt ih => ?_
  · rw [Err.error, Err.leaves, List.map_singleton, messagesText_singleton]
  · obtain ⟨e, rest, rfl⟩ := List.exists_cons_of_ne_nil hne
    cases rest with
    | nil => rw [Err.error, ih e List.mem_cons_self, Err.leaves, leavesAll, leavesAll, List.append_nil]
    | cons b errs =>
      have hleaf : Err.error m ∘ Err.leaf = m.error := by
        funext err
        rw [Function.comp_apply, Err.error]
      rw [Err.error_aggregate, visited_eq_of_built hbuilt, List.map_map, hleaf, Err.leaves]

theorem Built.is_eq (m : Methods ε τ) (target : τ) {t : Option (Err ε)} (h : Built t) :
    ∀ e ∈ t, e.is m target = e.leaves.any fun err => m.is err target := by
  refine h.forall_mem (fun err => by simp [Err.is, Err.leaves]) fun errs _ hbuilt _ => ?_
  have hattach : Err.is m target (.aggregate errs) = (Err.visited errs).any (Err.is m target) := by
    rw [Err.is, Bool.eq_iff_iff]
    simp
  have hleaf : Err.is m target ∘ Err.leaf = fun err => m.is err target := by
    funext err
    rw [Function.comp_apply, Err.is]
  rw [hattach, visited_eq_of_built hbuilt, List.any_map, hleaf, Err.leaves]

/-! ### Filters -/

/-- The leaves that no matcher accepts. -/
def unmatched (fns : List (Matcher ε)) (errs : List ε) : List ε := errs.filter fun err => !matchesError fns (.leaf err)

/-- What is left of an error are its leaves that no matcher accepts, and nothing is left if there are none. -/
structure LeavesUnmatched (fns : List (Matcher ε)) (e : Err ε) : Prop where
  leaves : leavesOf (filterOutErr fns e) = unmatched fns e.leaves
  eq_none : filterOutErr fns e = none ↔ unmatched fns e.leaves = []

theorem leavesAll_append (es fs : List (Err ε)) : leavesAll (es ++ fs) = leavesAll es ++ leavesAll fs := by
  induction es with
  | nil => rw [leavesAll, List.nil_append, List.nil_append]
  | cons e es ih => rw [List.cons_append, leavesAll, leavesAll, ih, List.append_assoc]

theorem leavesAll_toList (t : Option (Err ε)) : leavesAll t.toList = leavesOf t := by
  cases t with
  | none => rw [Option.toList_none, leavesAll, leavesOf, Option.elim_none]
  | some e => rw [Option.toList_some, leavesAll, leavesAll, List.append_nil, leavesOf, Option.elim_some]

theorem leavesAll_filterErrors {fns : List (Matcher ε)} {errs : List (Err ε)} (h : ∀ e ∈ errs, LeavesUnmatched fns e) :
    leavesAll (filterErrors fns errs) = unmatched fns (leavesAll errs) := by
  induction errs with
  | nil => rw [filterErrors, leavesAll, unmatched, List.filter_nil]
  | cons e rest ih =>
    have hrest := ih fun e' he' => h e' (List.mem_cons_of_mem e he')
    rw [filterErrors, leavesAll_append, leavesAll_toList, (h e List.mem_cons_self).leaves, hrest, leavesAll, unmatched, unmatched,
      unmatched, List.filter_append]

theorem filterErrors_eq_nil {fns : List (Matcher ε)} {errs : List (Err ε)} (h : ∀ e ∈ errs, LeavesUnmatched fns e) :
    filterErrors fns errs = [] ↔ unmatched fns (leavesAll errs) = [] := by
  induction errs with
  | nil => simp [filterErrors, leavesAll, unmatched]
  | cons e rest ih =>
    have hrest := ih fun e' he' => h e' (List.mem_cons_of_mem e he')
    have hsplit : unmatched fns (e.leaves ++ leavesAll rest) = unmatched fns e.leaves ++ unmatched fns (leavesAll rest) :=
      List.filter_append ..
    rw [filterErrors, List.append_eq_nil_iff, Option.toList_eq_nil_iff, (h e List.mem_cons_self).eq_none, hrest, leavesAll, hsplit,
      List.append_eq_nil_iff]

theorem Built.leavesUnmatched (fns : List (Matcher ε)) {t : Option (Err ε)} (h : Built t) :
    ∀ e ∈ t, LeavesUnmatched fns e := by
  refine h.forall_mem (fun err => ?_) fun errs _ _ ih => ?_
  · by_cases hmatch : matchesError fns (.leaf err) = true
    · constructor <;> simp [filterOutErr, hmatch, Err.leaves, unmatched, leavesOf]
    · constructor <;> simp [filterOutErr, hmatch, Err.leaves, unmatched, leavesOf]
  · refine ⟨?_, ?_⟩
    · rw [filterOutErr, leavesOf_newAggregate, Err.leaves, leavesAll_filterErrors ih]
    · rw [filterOutErr, newAggregate_map_some, Err.leaves, ← filterErrors_eq_nil ih]
      simp

/-! ### Trees -/

theorem leavesAll_map_leaf (errs : List ε) : leavesAll (errs.map .leaf) = errs := by
  induction errs with
  | nil => rw [List.map_nil, leavesAll]
  | cons err errs ih => rw [List.map_cons, leavesAll, ih, Err.leaves, List.singleton_append]

theorem built_flat {errs : List ε} (hne : errs ≠ []) : Built (some (.aggregate (errs.map .leaf))) := by
  have hflat := newAggregate_map_some (errs.map Err.leaf)
  rw [if_neg (by simpa using hne)] at hflat
  rw [← hflat]
  refine .newAggregate fun e he => ?_
  simp only [List.map_map, List.mem_map, Function.comp_apply] at he
  obtain ⟨err, -, rfl⟩ := he
  exact .leaf err

theorem flatten_newAggregate {errlist : List (Option (Err ε))} (h : ∀ e ∈ errlist, Built e) {agg : Err ε}
    (hagg : newAggregate errlist = some agg) : flatten agg.errors = some (.aggregate (agg.leaves.map .leaf)) := by
  have hleaves := (Built.newAggregate h).flattenLoop_eq agg hagg
  have hne := (Built.newAggregate h).leaves_ne_nil agg hagg
  obtain ⟨-, rfl⟩ := newAggregate_eq_some.mp hagg
  rw [flattenLoop_aggregate] at hleaves
  rw [Err.errors, flatten, Option.bind_some, hleaves, newAggregate_map_some, if_neg (by simpa using hne)]

/-- A tree of errors and its leaves: they are the errors of the flat aggregate, which has the text and the targets of the tree; a
    target is found exactly in a leaf; and a filter leaves those that no matcher accepts. -/
theorem newAggregate_leaves (m : Methods ε τ) {errlist : List (Option (Err ε))} (h : ∀ e ∈ errlist, Built e) :
    (∀ agg ∈ newAggregate errlist, ∃ flat, flatten agg.errors = some flat ∧ flat.errors = some (agg.leaves.map .leaf) ∧
      flat.error m = agg.error m ∧ ∀ target, flat.is m target = agg.is m target ∧
        (agg.is m target = true ↔ ∃ err ∈ agg.leaves, m.is err target = true)) ∧
    ∀ fns, leavesOf (filterOut (newAggregate errlist) fns) = unmatched fns (leavesOf (newAggregate errlist)) ∧
      (filterOut (newAggregate errlist) fns = none ↔ unmatched fns (leavesOf (newAggregate errlist)) = []) := by
  have hbuilt := Built.newAggregate h
  refine ⟨fun agg hagg => ?_, fun fns => ?_⟩
  · have hflat := built_flat (hbuilt.leaves_ne_nil agg hagg)
    have hleaves : (Err.aggregate (agg.leaves.map Err.leaf)).leaves = agg.leaves := by
      rw [Err.leaves, leavesAll_map_leaf]
    refine ⟨_, flatten_newAggregate h hagg, rfl, ?_, fun target => ⟨?_, ?_⟩⟩
    · rw [hflat.error_eq m _ rfl, hbuilt.error_eq m agg hagg, hleaves]
    · rw [hflat.is_eq m target _ rfl, hbuilt.is_eq m target agg hagg, hleaves]
    · rw [hbuilt.is_eq m target agg hagg, List.any_eq_true]
  · cases hagg : newAggregate errlist with
    | none => simp [filterOut, leavesOf, unmatched]
    | some agg =>
      obtain ⟨hleaves, hnone⟩ := hbuilt.leavesUnmatched fns agg hagg
      exact ⟨hleaves, hnone⟩

/-- Errors that are their texts, and match what is the same. -/
def textMethods : Methods Text Text := { error := id, is := fun err target => err == target }

def nestedErrors : List (Option (Err Text)) :=
  [some (.leaf "a"), none, newAggregate [some (.leaf "b"), some (.leaf "a")]]

theorem newAggregate_leaves_nested :
    leavesOf (filterOut (newAggregate nestedErrors) [fun e => e.leaves == ["a".toList]]) = ["b".toList] := by
  have hinner : ∀ e ∈ [some (Err.leaf "b".toList), some (.leaf "a")], Built e := by
    intro e he
    simp only [List.mem_cons, List.not_mem_nil, or_false] at he
    obtain rfl | rfl := he <;> exact .leaf _
  have hbuilt : ∀ e ∈ nestedErrors, Built e := by
    intro e he
    simp only [nestedErrors, List.mem_cons, List.not_mem_nil, or_false] at he
    obtain rfl | rfl | rfl := he
    · exact .leaf _
    · exact .newAggregate fun e he => absurd he List.not_mem_nil
    · exact .newAggregate hinner
  rw [((newAggregate_leaves textMethods hbuilt).2 _).1]
  rfl

/-! ### Messages -/

mutual

/-- An error that is known by its messages only. -/
def ofGoError : GoError → Err Text
  | .text msg => .leaf msg
  | .aggregate errs => .aggregate (ofGoErrors errs)

def ofGoErrors : List GoError → List (Err Text)
  | [] => []
  | e :: es => ofGoError e :: ofGoErrors es

end

mutual

theorem leaves_ofGoError : ∀ e : GoError, (ofGoError e).leaves = e.leaves
  | .text msg => by rw [ofGoError, Err.leaves, GoError.leaves]
  | .aggregate errs => by rw [ofGoError, Err.leaves, GoError.leaves, leavesAll_ofGoErrors errs]

theorem leavesAll_ofGoErrors : ∀ errs : List GoError, leavesAll (ofGoErrors errs) = GoError.leavesAll errs
  | [] => by rw [ofGoErrors, leavesAll, GoError.leavesAll]
  | e :: es => by rw [ofGoErrors, leavesAll, GoError.leavesAll, leaves_ofGoError e, leavesAll_ofGoErrors es]

end

theorem foldl_addMessage (msgs seen : List Text) :
    msgs.foldl addMessage (seen, join ", " seen) =
      (msgs.foldl (fun seen msg => if msg ∈ seen then seen else seen ++ [msg]) seen,
        join ", " (msgs.foldl (fun seen msg => if msg ∈ seen then seen else seen ++ [msg]) seen)) := by
  induction msgs generalizing seen with
  | nil => rfl
  | cons msg msgs ih =>
    have hstep : addMessage (seen, join ", " seen) msg =
        (if msg ∈ seen then seen else seen ++ [msg], join ", " (if msg ∈ seen then seen else seen ++ [msg])) := by
      rw [addMessage]
      dsimp only
      split
      · rfl
      · rcases eq_or_ne seen [] with rfl | hne
        · simp
        · have hlength := List.length_pos_of_ne_nil hne
          rw [if_pos (by rw [List.length_append, List.length_singleton]; omega), join_append hne (List.cons_ne_nil msg []),
            join_singleton, List.append_assoc]
    rw [List.foldl_cons, hstep, ih, List.foldl_cons]

/-- The errors of the rest of the model are such trees, with the same texts. -/
theorem error_ofGoError {e : GoError} (h : Built (some (ofGoError e))) : (ofGoError e).error textMethods = e.error := by
  rw [h.error_eq textMethods _ rfl, leaves_ofGoError]
  have hid : e.leaves.map textMethods.error = e.leaves := List.map_id _
  rw [hid]
  cases e with
  | text msg => rw [GoError.leaves, messagesText_singleton, GoError.error]
  | aggregate errs =>
    cases errs with
    | nil => exact absurd (by rw [leaves_ofGoError]; rfl) (h.leaves_ne_nil _ rfl)
    | cons e es =>
      rw [GoError.leaves, messagesText]
      have hfold := foldl_addMessage (GoError.leavesAll (e :: es)) []
      rw [join_nil] at hfold
      rw [hfold, GoError.error.eq_def]
      dsimp only
      generalize (GoError.leavesAll (e :: es)).foldl (fun seen msg => if msg ∈ seen then seen else seen ++ [msg]) [] = seen
      rcases seen with _ | ⟨msg, _ | ⟨b, msgs⟩⟩
      · rfl
      · rw [if_pos List.length_singleton]
        exact join_singleton _ msg
      · rfl

end CriDockerd.Utilerrors
