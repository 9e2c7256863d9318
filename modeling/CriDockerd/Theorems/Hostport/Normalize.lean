import CriDockerd.Hostport.FakeIPTables

/-! The normal form of a rule: its arguments one by one, an address with its mask, the destination of a
    DNAT as an argument of its own. Normal forms are kept. -/

namespace CriDockerd.Hostport
open Text NetIP

namespace FakeTables

/-! ### Arguments -/

/-- An argument of a rule: a word or a quoted text. -/
inductive IsArg : Text → Prop
  | word {w : Text} (h : IsWord w) : IsArg w
  | quoted {body : Text} (h : '"' ∉ body) : IsArg ('"' :: body ++ ['"'])

/-- An argument that is not split. -/
def Plain (arg : Text) : Prop := IsArg arg ∧ hasPrefix arg "--to-destination=" = false

theorem IsArg.ne_nil {arg : Text} (h : IsArg arg) : arg ≠ [] := by
  cases h with
  | word h => exact h.ne_nil
  | quoted h => simp

theorem IsArg.first {arg : Text} (h : IsArg arg) {c : Char} {t : Text} (heq : arg = c :: t) : isSpace c = false := by
  cases h with
  | word h => exact (h.2 c (heq ▸ List.mem_cons_self)).1
  | quoted h =>
    rw [List.cons_append, List.cons.injEq] at heq
    exact heq.1 ▸ rfl

theorem IsArg.last {arg : Text} (h : IsArg arg) {c : Char} {t : Text} (heq : arg = t ++ [c]) : isSpace c = false := by
  cases h with
  | word h => exact (h.2 c (heq ▸ List.mem_append_right t List.mem_cons_self)).1
  | @quoted body h =>
    have hlast : ['"'] = [c] := (List.append_inj' heq rfl).2
    rw [List.cons.injEq] at hlast
    exact hlast.1 ▸ rfl

theorem IsArg.trimSpace {arg : Text} (h : IsArg arg) : trimSpace arg = arg :=
  trimSpace_eq_self (fun _ _ heq => h.first heq) fun _ _ heq => h.last heq

theorem nextArg_word {c : Char} {rest : Text} (h : c ≠ '"') :
    nextArg (c :: rest) = .ok ((c :: rest).takeWhile (· ≠ ' '), (c :: rest).dropWhile (· ≠ ' ')) := by
  unfold nextArg
  split
  · rename_i heq
    cases heq
  · rename_i heq
    rw [List.cons.injEq] at heq
    exact absurd heq.1 h
  · rfl

theorem nextArg_append {arg : Text} (h : IsArg arg) (rest : Text) : nextArg (arg ++ ' ' :: rest) = .ok (arg, ' ' :: rest) := by
  cases h with
  | word h =>
    obtain ⟨c, w, rfl⟩ := List.exists_cons_of_ne_nil h.ne_nil
    rw [List.cons_append, nextArg_word (h.2 c List.mem_cons_self).2, ← List.cons_append]
    rw [takeWhile_ne h.not_space, dropWhile_ne h.not_space]
  | @quoted body h =>
    have hline : '"' :: body ++ ['"'] ++ ' ' :: rest = '"' :: (body ++ '"' :: ' ' :: rest) := by simp
    rw [hline]
    simp only [nextArg, takeWhile_ne h, dropWhile_ne h]

theorem nextArg_last {arg : Text} (h : IsArg arg) : nextArg arg = .ok (arg, []) := by
  cases h with
  | word h =>
    have hall := all_ne h.not_space
    obtain ⟨c, w, rfl⟩ := List.exists_cons_of_ne_nil h.ne_nil
    rw [nextArg_word (h.2 c List.mem_cons_self).2, List.takeWhile_eq_self_iff.mpr hall, List.dropWhile_eq_nil_iff.mpr hall]
  | @quoted body h =>
    simp only [List.cons_append, nextArg, takeWhile_ne h, dropWhile_ne h]

/-! ### The normal form of an argument -/

theorem not_parseIP_of_mem {arg : Text} {c : Char} (hc : c ∈ arg) (hno : ¬IsAddressChar c) : parseIP arg = none := by
  cases h : parseIP arg with
  | none => rfl
  | some ip => exact absurd (isAddressChar_of_parseIPWith h c hc) hno

theorem normalizeArg_eq {arg : Text} (h : IsArg arg) :
    normalizeArg arg = if parseIP arg ≠ none then arg ++ "/32" else arg := by
  unfold normalizeArg
  split
  · rename_i hip
    cases h with
    | word h => exact (IsArg.word (h.append (by decide))).trimSpace
    | quoted h =>
      refine absurd (not_parseIP_of_mem (c := '"') (by simp) ?_) hip
      rintro (h | h | h) <;> revert h <;> decide
  · exact h.trimSpace

theorem normalizeArg_plain {arg : Text} (h : Plain arg) :
    Plain (normalizeArg arg) ∧ normalizeArg (normalizeArg arg) = normalizeArg arg := by
  have hidem : ∀ a, Plain a → parseIP a = none → Plain a ∧ normalizeArg a = a := by
    intro a ha hno
    refine ⟨ha, ?_⟩
    rw [normalizeArg_eq ha.1, if_neg (by simp [hno])]
  rw [normalizeArg_eq h.1]
  split
  · rename_i hip
    obtain ⟨ip, hip⟩ := Option.ne_none_iff_exists'.mp hip
    have hchars := isAddressChar_of_parseIPWith hip
    have hword : IsWord arg := by
      cases h.1 with
      | word h => exact h
      | quoted h =>
        refine absurd (hchars '"' (by simp)) ?_
        rintro (h | h | h) <;> revert h <;> decide
    refine hidem _ ⟨.word (hword.append (by decide)), ?_⟩ (not_parseIP_of_mem (c := '/') (by simp) ?_)
    · -- An address does not start with a hyphen.
      obtain ⟨c, w, rfl⟩ := List.exists_cons_of_ne_nil hword.ne_nil
      have hc : c ≠ '-' := by
        rintro rfl
        rcases hchars '-' List.mem_cons_self with h | h | h <;> revert h <;> decide
      rw [Bool.eq_false_iff]
      intro hp
      obtain ⟨t, ht⟩ := hasPrefix_iff.mp hp
      rw [List.cons_append] at ht
      exact hc (List.cons.inj ht).1.symm
    · rintro (h | h | h) <;> revert h <;> decide
  · rename_i hno
    exact hidem arg h (not_not.mp hno)

/-! ### The normal form of a rule -/

theorem splitDestination_plain {arg : Text} (h : Plain arg) (rest : Text) :
    splitDestination arg = arg ∧ splitDestination (arg ++ ' ' :: rest) = arg ++ ' ' :: rest := by
  unfold splitDestination
  rw [hasPrefix_append_space (by decide), h.2]
  exact ⟨rfl, rfl⟩

theorem normalizeLoop_last {arg : Text} (h : Plain arg) (fuel : Nat) (normalized : Text) :
    normalizeLoop (fuel + 1) normalized arg = .ok (appendArg normalized arg) := by
  rw [normalizeLoop, (splitDestination_plain h []).1, nextArg_last h.1]

theorem normalizeLoop_cons {arg : Text} (h : Plain arg) (fuel : Nat) (normalized rest : Text) :
    normalizeLoop (fuel + 1) normalized (arg ++ ' ' :: rest) = normalizeLoop fuel (appendArg normalized arg) rest := by
  rw [normalizeLoop, (splitDestination_plain h rest).2, nextArg_append h.1]

theorem normalizeLoop_join {args : List Text} (hargs : ∀ a ∈ args, Plain a) (hne : args ≠ []) {fuel : Nat}
    (hfuel : args.length ≤ fuel) (normalized : Text) :
    normalizeLoop fuel normalized (join [' '] args) = .ok (args.foldl appendArg normalized) := by
  induction args generalizing fuel normalized with
  | nil => exact absurd rfl hne
  | cons a args ih =>
    obtain ⟨fuel, rfl⟩ : ∃ n, fuel = n + 1 := ⟨fuel - 1, by simp at hfuel; omega⟩
    have ha := hargs a List.mem_cons_self
    cases args with
    | nil =>
      rw [join_singleton]
      exact normalizeLoop_last ha fuel normalized
    | cons b args =>
      rw [join_cons_cons, List.append_assoc, List.singleton_append, normalizeLoop_cons ha]
      exact ih (fun x hx => hargs x (List.mem_cons_of_mem _ hx)) (by simp) (by simpa using hfuel) _

theorem foldl_appendArg {args : List Text} (hargs : ∀ a ∈ args, Plain a) (hne : args ≠ []) (normalized : Text) :
    args.foldl appendArg normalized =
      (if normalized ≠ [] then normalized ++ [' '] else []) ++ join [' '] (args.map normalizeArg) := by
  induction args generalizing normalized with
  | nil => exact absurd rfl hne
  | cons a args ih =>
    have ha := hargs a List.mem_cons_self
    have hnil : appendArg normalized a ≠ [] :=
      List.append_ne_nil_of_right_ne_nil _ (normalizeArg_plain ha).1.1.ne_nil
    cases args with
    | nil => simp [appendArg]
    | cons b args =>
      rw [List.foldl_cons, ih (fun x hx => hargs x (List.mem_cons_of_mem _ hx)) (by simp), if_pos hnil]
      simp [appendArg]

theorem getLast_join {args : List Text} (hargs : ∀ a ∈ args, IsArg a) {c : Char} {t : Text}
    (heq : join [' '] args = t ++ [c]) : ∃ a ∈ args, ∃ u, a = u ++ [c] := by
  induction args generalizing t with
  | nil => simp at heq
  | cons a args ih =>
    cases args with
    | nil =>
      rw [join_singleton] at heq
      exact ⟨a, List.mem_cons_self, t, heq⟩
    | cons b args =>
      have hb : join [' '] (b :: args) ≠ [] :=
        join_ne_nil (by simp) (fun x hx => (hargs x (List.mem_cons_of_mem _ hx)).ne_nil) [' ']
      obtain ⟨u, d, hu⟩ := List.eq_nil_or_concat (join [' '] (b :: args)) |>.resolve_left hb
      rw [List.concat_eq_append] at hu
      rw [join_cons_cons, hu, ← List.append_assoc] at heq
      obtain rfl : d = c := by simpa using (List.append_inj' heq rfl).2
      obtain ⟨x, hx, v, hv⟩ := ih (fun x hx => hargs x (List.mem_cons_of_mem _ hx)) hu
      exact ⟨x, List.mem_cons_of_mem _ hx, v, hv⟩

theorem trimSpace_join {args : List Text} (hargs : ∀ a ∈ args, IsArg a) : trimSpace (join [' '] args) = join [' '] args := by
  refine trimSpace_eq_self (fun c t heq => ?_) fun t c heq => ?_
  · cases args with
    | nil => simp at heq
    | cons a args =>
      have ha := hargs a List.mem_cons_self
      obtain ⟨d, w, rfl⟩ := List.exists_cons_of_ne_nil ha.ne_nil
      obtain rfl : d = c := by
        cases args with
        | nil => simpa using (List.cons.inj ((join_singleton _ _).symm.trans heq)).1
        | cons b args => simpa using (List.cons.inj heq).1
      exact ha.first rfl
  · obtain ⟨a, ha, u, hu⟩ := getLast_join hargs heq
    exact (hargs a ha).last hu

theorem normalizeRule_join {args : List Text} (hargs : ∀ a ∈ args, Plain a) (hne : args ≠ []) :
    normalizeRule (join [' '] args) = .ok (join [' '] (args.map normalizeArg)) := by
  have hlen := length_le_length_join (fun a ha => (hargs a ha).1.ne_nil) [' ']
  unfold normalizeRule
  rw [trimSpace_join fun a ha => (hargs a ha).1]
  show normalizeLoop _ [] _ = _
  rw [normalizeLoop_join hargs hne (Nat.le_succ_of_le hlen), foldl_appendArg hargs hne]
  rfl

theorem normalizeRule_normal {args : List Text} (hargs : ∀ a ∈ args, Plain a) (hne : args ≠ []) :
    normalizeRule (join [' '] (args.map normalizeArg)) = .ok (join [' '] (args.map normalizeArg)) := by
  rw [normalizeRule_join, List.map_map]
  · refine congrArg (fun l => Except.ok (join [' '] l)) (List.map_congr_left fun a ha => ?_)
    exact (normalizeArg_plain (hargs a ha)).2
  · intro a ha
    obtain ⟨b, hb, rfl⟩ := List.mem_map.mp ha
    exact (normalizeArg_plain (hargs b hb)).1
  · simpa using hne

/-- A rule that ends with `--to-destination=x` is read as one with two arguments in that place. -/
theorem normalizeRule_destination {args : List Text} (hargs : ∀ a ∈ args, Plain a) {x : Text} (hx : IsWord x) :
    normalizeRule (join [' '] (args ++ ["--to-destination=".toList ++ x])) =
      normalizeRule (join [' '] (args ++ ["--to-destination".toList, x])) := by
  have hdest : IsArg ("--to-destination=" ++ x) := .word (IsWord.append (by decide) hx.2)
  have hloop : ∀ fuel normalized,
      normalizeLoop fuel normalized (join [' '] (args ++ ["--to-destination=".toList ++ x])) =
        normalizeLoop fuel normalized (join [' '] (args ++ ["--to-destination".toList, x])) := by
    induction args with
    | nil =>
      intro fuel normalized
      cases fuel with
      | zero => rfl
      | succ fuel =>
        have hsplit : splitDestination ("--to-destination=" ++ x) = "--to-destination" ++ ' ' :: x := by
          rw [splitDestination, if_pos (hasPrefix_append _ _), List.drop_left]
          rfl
        rw [List.nil_append, List.nil_append, join_singleton, join_cons_cons, join_singleton, List.append_assoc,
          List.singleton_append, normalizeLoop, normalizeLoop, hsplit,
          (splitDestination_plain ⟨.word (by decide), by decide⟩ x).2]
    | cons a args ih =>
      intro fuel normalized
      cases fuel with
      | zero => rfl
      | succ fuel =>
        have ha := hargs a List.mem_cons_self
        have hcons : ∀ w rest, join [' '] (a :: args ++ w :: rest) = a ++ ' ' :: join [' '] (args ++ w :: rest) := by
          intro w rest
          cases args with
          | nil => simp
          | cons b args => simp
        rw [hcons, hcons, normalizeLoop_cons ha, normalizeLoop_cons ha]
        exact ih (fun b hb => hargs b (List.mem_cons_of_mem _ hb)) fuel _
  have hlen : (join [' '] (args ++ ["--to-destination=".toList ++ x])).length =
      (join [' '] (args ++ ["--to-destination".toList, x])).length := by
    clear hloop hargs
    induction args with
    | nil => simp
    | cons a args ih =>
      cases args with
      | nil => simp
      | cons b args => simpa using ih
  have hall : ∀ y : List Text, (∀ a ∈ y, IsArg a) → ∀ a ∈ args ++ y, IsArg a := by
    intro y hy a ha
    rcases List.mem_append.mp ha with ha | ha
    · exact (hargs a ha).1
    · exact hy a ha
  unfold normalizeRule
  rw [trimSpace_join (hall _ (by simpa using hdest)),
    trimSpace_join (hall _ (by simpa using ⟨IsArg.word (w := "--to-destination") (by decide), IsArg.word hx⟩))]
  show normalizeLoop _ [] _ = normalizeLoop _ [] _
  rw [hloop, hlen]

end FakeTables

end CriDockerd.Hostport
