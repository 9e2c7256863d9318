import CriDockerd.Lib.Text

/-! Searches in texts, in the order in which a regular expression is searched for: an expression at its first place, and
    after a greedy wildcard at its last one. A text in pieces and in words. -/

namespace Text
variable {α : Type} {m : Text → Option α} {s t : Text} {a : α}

/-- The match at the first place that has one. -/
def firstMatch (m : Text → Option α) : Text → Option α
  | [] => m []
  | c :: s =>
    match m (c :: s) with
    | some a => some a
    | none => firstMatch m s

/-- The match at the last place that has one. -/
def lastMatch (m : Text → Option α) : Text → Option α
  | [] => m []
  | c :: s =>
    match lastMatch m s with
    | some a => some a
    | none => m (c :: s)

/-- What follows a literal. -/
def matchLiteral (p s : Text) : Option Text := if hasPrefix s p then some (s.drop p.length) else none

/-- All decimal digits, at least one, and what follows them. -/
def matchDigits (s : Text) : Option (Text × Text) :=
  match s.takeWhile Char.isDigit with
  | [] => none
  | c :: digits => some (c :: digits, s.dropWhile Char.isDigit)

/-! ### What a match is a match of -/

theorem firstMatch_suffix (h : firstMatch m s = some a) : ∃ t, t <:+ s ∧ m t = some a := by
  induction s with
  | nil => exact ⟨[], List.suffix_rfl, h⟩
  | cons c s ih =>
    rw [firstMatch] at h
    split at h
    · rename_i b hb
      exact ⟨c :: s, List.suffix_rfl, hb.trans h⟩
    · obtain ⟨t, ht, ha⟩ := ih h
      exact ⟨t, ht.trans (List.suffix_cons c s), ha⟩

theorem lastMatch_suffix (h : lastMatch m s = some a) : ∃ t, t <:+ s ∧ m t = some a := by
  induction s with
  | nil => exact ⟨[], List.suffix_rfl, h⟩
  | cons c s ih =>
    rw [lastMatch] at h
    split at h
    · rename_i b hb
      obtain ⟨t, ht, ha⟩ := ih (hb.trans h)
      exact ⟨t, ht.trans (List.suffix_cons c s), ha⟩
    · exact ⟨c :: s, List.suffix_rfl, h⟩

theorem firstMatch_of_match (h : m s = some a) : firstMatch m s = some a := by
  cases s with
  | nil => exact h
  | cons c s => rw [firstMatch, h]

theorem lastMatch_isSome (ht : t <:+ s) (h : m t = some a) : ∃ b, lastMatch m s = some b := by
  induction s with
  | nil =>
    rw [List.suffix_nil.mp ht] at h
    exact ⟨a, h⟩
  | cons c s ih =>
    rw [lastMatch]
    rcases List.suffix_cons_iff.mp ht with rfl | ht
    · cases lastMatch m s with
      | none => exact ⟨a, h⟩
      | some b => exact ⟨b, rfl⟩
    · obtain ⟨b, hb⟩ := ih ht
      rw [hb]
      exact ⟨b, rfl⟩

theorem matchLiteral_append (p s : Text) : matchLiteral p (p ++ s) = some s := by
  rw [matchLiteral, if_pos (hasPrefix_append p s), List.drop_left]

theorem matchLiteral_eq_some {p : Text} (h : matchLiteral p s = some t) : s = p ++ t := by
  unfold matchLiteral at h
  split at h
  · rename_i hp
    obtain ⟨r, rfl⟩ := hasPrefix_iff.mp hp
    cases h
    rw [List.drop_left]
  · cases h

theorem matchDigits_eq_some {digits : Text} (h : matchDigits s = some (digits, t)) :
    digits ≠ [] ∧ digits = s.takeWhile Char.isDigit ∧ t = s.dropWhile Char.isDigit := by
  unfold matchDigits at h
  split at h
  · cases h
  · rename_i c rest htake
    cases h
    exact ⟨List.cons_ne_nil _ _, htake.symm, rfl⟩

theorem matchDigits_of_ne_nil {digits : Text} (hne : digits ≠ []) (h : s.takeWhile Char.isDigit = digits) :
    matchDigits s = some (digits, s.dropWhile Char.isDigit) := by
  rw [matchDigits, h]
  cases digits with
  | nil => exact absurd rfl hne
  | cons c digits => rfl

theorem takeWhile_prefix_of_not {p : Char → Bool} {c : Char} (hc : p c = false) (s rest : Text) :
    (s ++ c :: rest).takeWhile p <+: s := by
  rw [List.takeWhile_append, List.takeWhile_cons, hc]
  split
  · exact ⟨[], by simp⟩
  · exact List.takeWhile_prefix p

/-! ### Lines of words -/

/-- A word that is followed by a space in a line of words is the end of one of them. -/
theorem suffix_join {u v : Text} (hu : ' ' ∉ u) {ws : List Text} (hws : ∀ w ∈ ws, ' ' ∉ w)
    (h : u ++ ' ' :: v <:+ join [' '] ws) :
    ∃ before w after, ws = before ++ w :: after ∧ u <:+ w ∧ v = join [' '] after := by
  induction ws with
  | nil => simp [join] at h
  | cons w ws ih =>
    have hw := hws w List.mem_cons_self
    cases ws with
    | nil =>
      rw [join_singleton] at h
      exact absurd (h.subset (by simp)) hw
    | cons x ws =>
      rw [join_cons_cons, List.append_assoc, List.singleton_append] at h
      rcases suffix_word_append hu hw h with ⟨huw, hv⟩ | hrest
      · exact ⟨[], w, x :: ws, rfl, huw, hv⟩
      · obtain ⟨before, y, after, hsplit, hy, hv⟩ := ih (fun z hz => hws z (List.mem_cons_of_mem _ hz)) hrest
        exact ⟨w :: before, y, after, by rw [hsplit]; rfl, hy, hv⟩

/-- What follows a word in a line in which no other word ends with it. -/
theorem join_after {u v : Text} {before after : List Text} (hws : ∀ w ∈ before ++ u :: after, ' ' ∉ w)
    (hbefore : ∀ w ∈ before, ¬u <:+ w) (hafter : ∀ w ∈ after, ¬u <:+ w)
    (h : u ++ ' ' :: v <:+ join [' '] (before ++ u :: after)) : v = join [' '] after := by
  have hu : ' ' ∉ u := hws u (List.mem_append_right _ List.mem_cons_self)
  obtain ⟨before', w, after', hsplit, hw, rfl⟩ := suffix_join hu hws h
  rcases List.append_eq_append_iff.mp hsplit with ⟨c, -, hc⟩ | ⟨c, hb, hc⟩
  · cases c with
    | nil => rw [(List.cons.inj hc).2]
    | cons d c =>
      have hmem : w ∈ after := (List.cons.inj hc).2 ▸ List.mem_append_right c List.mem_cons_self
      exact absurd hw (hafter w hmem)
  · cases c with
    | nil => rw [(List.cons.inj hc).2]
    | cons d c =>
      obtain ⟨rfl, -⟩ := List.cons.inj hc
      exact absurd hw (hbefore w (hb ▸ List.mem_append_right _ List.mem_cons_self))

theorem getLast?_join {ws : List Text} (hws : ∀ w ∈ ws, IsWord w) {c : Char} (h : (join [' '] ws).getLast? = some c) :
    isSpace c = false := by
  induction ws with
  | nil => cases h
  | cons w ws ih =>
    have hw := hws w List.mem_cons_self
    cases ws with
    | nil =>
      rw [join_singleton] at h
      exact (hw.2 c (List.mem_of_getLast? h)).1
    | cons v ws =>
      have hne : join [' '] (v :: ws) ≠ [] :=
        join_ne_nil (List.cons_ne_nil _ _) (fun x hx => (hws x (List.mem_cons_of_mem _ hx)).ne_nil) _
      refine ih (fun x hx => hws x (List.mem_cons_of_mem _ hx)) ?_
      rw [join_cons_cons, List.getLast?_append] at h
      cases hlast : (join [' '] (v :: ws)).getLast? with
      | none => exact absurd (List.getLast?_eq_none_iff.mp hlast) hne
      | some d =>
        rw [hlast] at h
        exact h

theorem trimSpace_join {ws : List Text} (hws : ∀ w ∈ ws, IsWord w) : trimSpace (join [' '] ws) = join [' '] ws := by
  refine trimSpace_eq_self (fun c t heq => ?_) fun t c heq => ?_
  · cases ws with
    | nil => cases heq
    | cons w ws =>
      have hw := hws w List.mem_cons_self
      obtain ⟨d, w', rfl⟩ := List.exists_cons_of_ne_nil hw.ne_nil
      have hcd : c = d := by
        cases ws with
        | nil => rw [join_singleton] at heq; exact (List.cons.inj heq).1.symm
        | cons v ws => rw [join_cons_cons] at heq; exact (List.cons.inj heq).1.symm
      exact hcd ▸ (hw.2 d List.mem_cons_self).1
  · exact getLast?_join hws (by rw [heq, List.getLast?_concat])

theorem trimSpace_cons {c : Char} (hc : isSpace c = true) (s : Text) : trimSpace (c :: s) = trimSpace s := by
  rw [trimSpace, List.dropWhile_cons, hc]
  rfl

/-! ### Pieces and words -/

/-- What follows a piece: nothing, or a separator. -/
def Ends (sep : Char) (rest : Text) : Prop := rest = [] ∨ ∃ t, rest = sep :: t

theorem split_cases (s : Text) (sep : Char) :
    sep ∉ s ∧ split s sep = [s] ∨ ∃ p t, s = p ++ sep :: t ∧ sep ∉ p ∧ split s sep = p :: split t sep := by
  by_cases h : sep ∈ s
  · obtain ⟨p, t, rfl, hp⟩ := List.eq_append_cons_of_mem h
    exact .inr ⟨p, t, rfl, hp, List.splitOn_append_cons_self_of_not_mem hp t⟩
  · exact .inl ⟨h, List.splitOn_eq_singleton h⟩

theorem length_split (s : Text) (sep : Char) : (split s sep).length = s.count sep + 1 := by
  induction hn : s.length using Nat.strong_induction_on generalizing s with
  | _ n ih =>
    rcases split_cases s sep with ⟨hs, heq⟩ | ⟨p, t, rfl, hp, heq⟩
    · rw [heq, List.count_eq_zero.mpr hs, List.length_singleton]
    · rw [heq, List.length_cons, ih t.length (by simp at hn; omega) t rfl, List.count_append, List.count_eq_zero.mpr hp,
        List.count_cons_self, Nat.zero_add]

theorem head?_split {s piece : Text} {sep : Char} :
    (split s sep)[0]? = some piece ↔ ∃ rest, s = piece ++ rest ∧ sep ∉ piece ∧ Ends sep rest := by
  constructor
  · intro h
    rcases split_cases s sep with ⟨hs, heq⟩ | ⟨p, t, rfl, hp, heq⟩
    · obtain rfl : s = piece := by simpa [heq] using h
      exact ⟨[], (List.append_nil s).symm, hs, .inl rfl⟩
    · obtain rfl : p = piece := by simpa [heq] using h
      exact ⟨sep :: t, rfl, hp, .inr ⟨t, rfl⟩⟩
  · rintro ⟨rest, rfl, hpiece, rfl | ⟨t, rfl⟩⟩
    · rw [List.append_nil, split, List.splitOn_eq_singleton hpiece]
      rfl
    · rw [split, List.splitOn_append_cons_self_of_not_mem hpiece]
      rfl

/-- A piece after the first stands between two separators, with as many separators before them as its index says. -/
theorem getElem?_split_succ {s piece : Text} {sep : Char} (n : Nat) :
    (split s sep)[n + 1]? = some piece ↔ ∃ before rest, s = before ++ sep :: (piece ++ rest) ∧ before.count sep = n ∧
      sep ∉ piece ∧ Ends sep rest := by
  induction n generalizing s with
  | zero =>
    constructor
    · intro h
      rcases split_cases s sep with ⟨-, heq⟩ | ⟨p, t, rfl, hp, heq⟩
      · rw [heq] at h
        cases h
      · obtain ⟨rest, rfl, hpiece, hrest⟩ := head?_split.mp (by rwa [heq, List.getElem?_cons_succ] at h)
        exact ⟨p, rest, rfl, List.count_eq_zero.mpr hp, hpiece, hrest⟩
    · rintro ⟨before, rest, rfl, hbefore, hpiece, hrest⟩
      rw [split, List.splitOn_append_cons_self_of_not_mem (List.count_eq_zero.mp hbefore), List.getElem?_cons_succ]
      exact head?_split.mpr ⟨rest, rfl, hpiece, hrest⟩
  | succ n ih =>
    constructor
    · intro h
      rcases split_cases s sep with ⟨-, heq⟩ | ⟨p, t, rfl, hp, heq⟩
      · rw [heq] at h
        cases h
      · obtain ⟨before, rest, rfl, hbefore, hpiece, hrest⟩ := ih.mp (by rwa [heq, List.getElem?_cons_succ] at h)
        refine ⟨p ++ sep :: before, rest, by simp, ?_, hpiece, hrest⟩
        rw [List.count_append, List.count_eq_zero.mpr hp, List.count_cons_self, hbefore, Nat.zero_add]
    · rintro ⟨before, rest, rfl, hbefore, hpiece, hrest⟩
      obtain ⟨p, t, rfl, hp⟩ := List.eq_append_cons_of_mem (List.count_pos_iff.mp (by omega : 0 < before.count sep))
      rw [List.append_assoc, List.cons_append, split, List.splitOn_append_cons_self_of_not_mem hp, List.getElem?_cons_succ]
      refine ih.mpr ⟨t, rest, rfl, ?_, hpiece, hrest⟩
      rw [List.count_append, List.count_eq_zero.mpr hp, List.count_cons_self] at hbefore
      omega

theorem fields_word {word : Text} (hne : word ≠ []) (hword : ∀ c ∈ word, isSpace c = false) : fields word = [word] := by
  rw [fields, List.splitOnP_eq_singleton hword, List.filter_cons_of_pos (by simpa using hne), List.filter_nil]

theorem fields_word_append {word rest : Text} (hne : word ≠ []) (hword : ∀ c ∈ word, isSpace c = false)
    (hrest : Ends ' ' rest) : fields (word ++ rest) = word :: fields rest := by
  rcases hrest with rfl | ⟨t, rfl⟩
  · rw [List.append_nil, fields_word hne hword]
    rfl
  · have hspace : fields (' ' :: t) = fields t := fields_append_cons (s := []) (by decide) t
    rw [fields_append_cons (by decide), fields_word hne hword, hspace]
    rfl

/-- A property of texts that holds without white space, and of two texts with white space between them, holds of all. -/
theorem fields_induction {motive : Text → Prop} (word : ∀ s, (∀ c ∈ s, isSpace c = false) → motive s)
    (append : ∀ s c t, isSpace c = true → motive s → motive t → motive (s ++ c :: t)) (s : Text) : motive s := by
  induction hn : s.length using Nat.strong_induction_on generalizing s with
  | _ n ih =>
    by_cases h : ∃ c ∈ s, isSpace c = true
    · obtain ⟨c, hc, hspace⟩ := h
      obtain ⟨p, t, rfl⟩ := List.append_of_mem hc
      rw [List.length_append, List.length_cons] at hn
      exact append p c t hspace (ih p.length (by omega) p rfl) (ih t.length (by omega) t rfl)
    · exact word s fun c hc => Bool.eq_false_iff.mpr fun hspace => h ⟨c, hc, hspace⟩

theorem word_of_mem_fields {s word : Text} : word ∈ fields s → word ≠ [] ∧ ∀ c ∈ word, isSpace c = false := by
  induction s using fields_induction with
  | word s hs =>
    intro h
    rw [fields, List.splitOnP_eq_singleton hs, List.mem_filter, List.mem_singleton] at h
    obtain ⟨rfl, hne⟩ := h
    exact ⟨by simpa using hne, hs⟩
  | append s c t hc ihs iht =>
    rw [fields_append_cons hc, List.mem_append]
    exact fun h => h.elim ihs iht

theorem isSpace_of_fields_eq_nil {s : Text} : fields s = [] → ∀ c ∈ s, isSpace c = true := by
  induction s using fields_induction with
  | word s hs =>
    intro h c hc
    rw [fields_word (List.ne_nil_of_mem hc) hs] at h
    cases h
  | append s c t hc ihs iht =>
    intro h d hd
    rw [fields_append_cons hc, List.append_eq_nil_iff] at h
    rcases List.mem_append.mp hd with hd | hd
    · exact ihs h.1 d hd
    · rcases List.mem_cons.mp hd with rfl | hd
      · exact hc
      · exact iht h.2 d hd

theorem fields_ne_nil_of_trimSpace {s p : Text} (hp : p <+: trimSpace s) (hne : p ≠ []) : fields p ≠ [] := by
  obtain ⟨c, p, rfl⟩ := List.exists_cons_of_ne_nil hne
  have hdrop : trimSpace s <+: s.dropWhile isSpace := by
    rw [trimSpace, ← List.reverse_suffix, List.reverse_reverse]
    exact List.dropWhile_suffix isSpace
  have hhead : (s.dropWhile isSpace).head? = some c := by
    obtain ⟨t, ht⟩ := hp.trans hdrop
    rw [← ht]
    rfl
  intro hnil
  have hc := List.head?_dropWhile_not isSpace s
  rw [hhead] at hc
  have := isSpace_of_fields_eq_nil hnil c List.mem_cons_self
  simp [this] at hc

/-- Where the piece at index two is the field at index two: two words stand before it, or the piece repeats the third word,
    which stands before it or right after it. -/
theorem getElem?_fields_two_iff {before word rest : Text} (hne : word ≠ []) (hword : ∀ c ∈ word, isSpace c = false)
    (hrest : Ends ' ' rest) (hbefore : fields before ≠ []) :
    (fields (before ++ ' ' :: (word ++ rest)))[2]? = some word ↔
      (fields before).length = 2 ∨ (fields before)[2]? = some word ∨
        (fields before).length = 1 ∧ (fields rest)[0]? = some word := by
  rw [fields_append_cons (by decide), fields_word_append hne hword hrest]
  match hfields : fields before with
  | [] => exact absurd hfields hbefore
  | [w] => simp
  | [w, v] => simp
  | w :: v :: u :: ws => simp

end Text
