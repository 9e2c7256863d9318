import Mathlib.Data.List.Basic
import Mathlib.Data.List.Infix

/-! Text as the list of its characters, with the operations of a `strings` package on it: prefixes,
    substrings, splitting and joining, lines, decimal numbers. -/

abbrev Text := List Char

/-- A literal stands for its characters. -/
instance : Coe String Text := ⟨String.toList⟩

namespace Text

/-- `s` starts with `p`. -/
def hasPrefix (s p : Text) : Bool := p.isPrefixOf s

/-- `s` ends with `p`. -/
def hasSuffix (s p : Text) : Bool := p.isSuffixOf s

/-- `sub` occurs in `s`. -/
def contains (s sub : Text) : Bool := decide (sub <:+: s)

/-- `s` without the leading `p`, or `s` itself when it does not start with `p`. -/
def trimPrefix (s p : Text) : Text := if hasPrefix s p then s.drop p.length else s

/-- The parts of `s` between the occurrences of `sep`; never empty. -/
def split (s : Text) (sep : Char) : List Text := s.splitOn sep

def join (sep : Text) (parts : List Text) : Text := sep.intercalate parts

/-- White space as Unicode defines it. -/
def isSpace (c : Char) : Bool :=
  c ∈ ['\t', '\n', '\x0b', '\x0c', '\r', ' ', '\u0085', '\u00a0', '\u1680', '\u2028', '\u2029', '\u202f',
    '\u205f', '\u3000'] || ('\u2000' ≤ c && c ≤ '\u200a')

/-- `s` without leading and trailing white space. -/
def trimSpace (s : Text) : Text := ((s.dropWhile isSpace).reverse.dropWhile isSpace).reverse

/-- The words between spaces. -/
def fields (s : Text) : List Text := (s.splitOnP isSpace).filter (· ≠ [])

/-- `s` with its ASCII letters in lower case. -/
def toLower (s : Text) : Text := s.map Char.toLower

/-- The lines of `s` that a newline ends; what follows the last newline is not one of them. -/
def lines (s : Text) : List Text := (s.splitOn '\n').dropLast

/-- The text of a list of lines, each ended by a newline. -/
def unlines (ls : List Text) : Text := ls.flatMap fun l => l ++ ['\n']

/-- Decimal digits, after a minus sign for a negative number. -/
def itoa : Int → Text
  | .ofNat n => Nat.toDigits 10 n
  | .negSucc n => '-' :: Nat.toDigits 10 (n + 1)

/-- `c` in a quoted text. -/
def quoteChar (c : Char) : Text :=
  if c = '"' then ['\\', '"']
  else if c = '\\' then ['\\', '\\']
  else if c = '\n' then ['\\', 'n']
  else if c = '\r' then ['\\', 'r']
  else if c = '\t' then ['\\', 't']
  else if c = '\x07' then ['\\', 'a']
  else if c = '\x08' then ['\\', 'b']
  else if c = '\x0b' then ['\\', 'v']
  else if c = '\x0c' then ['\\', 'f']
  else if c.toNat < 32 ∨ c.toNat = 127 then ['\\', 'x', (c.toNat / 16).digitChar, (c.toNat % 16).digitChar]
  else [c]

/-- `s` in double quotes, as `%q` prints a text of printable and control characters. -/
def quote (s : Text) : Text := '"' :: s.flatMap quoteChar ++ ['"']

/-- The bytes of `s`. -/
def utf8 (s : Text) : List UInt8 := s.flatMap String.utf8EncodeChar

/-- A text that white space and quotes do not break: what stands between two spaces of a command. -/
def IsWord (s : Text) : Prop := s ≠ [] ∧ ∀ c ∈ s, isSpace c = false ∧ c ≠ '"'

instance instLawfulBEqText : LawfulBEq Text := inferInstance

-- A statement about the characters of a text is decided on the text, never on all characters.
instance (priority := 2000) decidableForallMem (p : Char → Prop) [DecidablePred p] (s : Text) : Decidable (∀ c ∈ s, p c) :=
  List.decidableBAll p s

instance (priority := 2000) decidableExistsMem (p : Char → Prop) [DecidablePred p] (s : Text) : Decidable (∃ c ∈ s, p c) :=
  List.decidableBEx p s

instance (s : Text) : Decidable (IsWord s) := inferInstanceAs (Decidable (_ ∧ _))

/-! ### Prefixes and substrings -/

theorem hasPrefix_iff {s p : Text} : hasPrefix s p = true ↔ p <+: s := List.isPrefixOf_iff_prefix

theorem hasSuffix_iff {s p : Text} : hasSuffix s p = true ↔ p <:+ s := List.isSuffixOf_iff_suffix

theorem contains_iff {s sub : Text} : contains s sub = true ↔ sub <:+: s := decide_eq_true_iff

@[simp] theorem hasPrefix_append (p s : Text) : hasPrefix (p ++ s) p = true := hasPrefix_iff.mpr ⟨s, rfl⟩

@[simp] theorem trimPrefix_append (p s : Text) : trimPrefix (p ++ s) p = s := by
  simp [trimPrefix]

/-! ### Joining -/

@[simp] theorem join_nil (sep : Text) : join sep [] = [] := rfl

@[simp] theorem join_singleton (sep w : Text) : join sep [w] = w := List.intercalate_singleton

@[simp] theorem join_cons_cons (sep w v : Text) (ws : List Text) :
    join sep (w :: v :: ws) = w ++ sep ++ join sep (v :: ws) := List.intercalate_cons_cons

theorem join_cons (sep : Char) (w : Text) (ws : List Text) : join [sep] (w :: ws) = w ++ ws.flatMap (sep :: ·) := by
  induction ws generalizing w with
  | nil => rw [join_singleton, List.flatMap_nil, List.append_nil]
  | cons v ws ih =>
    rw [join_cons_cons, ih, List.flatMap_cons, List.append_assoc, List.singleton_append, List.cons_append]

theorem mem_join {sep : Text} {c : Char} : ∀ {ws : List Text}, c ∈ join sep ws → c ∈ sep ∨ ∃ w ∈ ws, c ∈ w
  | [], h => by simp at h
  | [w], h => Or.inr ⟨w, List.mem_singleton_self w, by simpa using h⟩
  | w :: v :: ws, h => by
    simp only [join_cons_cons, List.mem_append] at h
    rcases h with (h | h) | h
    · exact Or.inr ⟨w, List.mem_cons_self, h⟩
    · exact Or.inl h
    · rcases mem_join h with h | ⟨u, hu, hc⟩
      · exact Or.inl h
      · exact Or.inr ⟨u, List.mem_cons_of_mem _ hu, hc⟩

/-! ### Lines -/

@[simp] theorem unlines_nil : unlines [] = [] := rfl

@[simp] theorem unlines_cons (l : Text) (ls : List Text) : unlines (l :: ls) = l ++ '\n' :: unlines ls := by
  simp [unlines]

@[simp] theorem unlines_append (ls ms : List Text) : unlines (ls ++ ms) = unlines ls ++ unlines ms := by
  simp [unlines]

theorem split_unlines : ∀ {ls : List Text}, (∀ l ∈ ls, '\n' ∉ l) → split (unlines ls) '\n' = ls ++ [[]]
  | [], _ => rfl
  | l :: ls, h => by
    have hl : '\n' ∉ l := h l List.mem_cons_self
    have ih := split_unlines fun m hm => h m (List.mem_cons_of_mem _ hm)
    rw [split] at ih ⊢
    rw [unlines_cons, List.splitOn_append_cons_self_of_not_mem hl, ih, List.cons_append]

theorem lines_unlines {ls : List Text} (h : ∀ l ∈ ls, '\n' ∉ l) : lines (unlines ls) = ls := by
  have := split_unlines h
  rw [split] at this
  simp [lines, this]

theorem not_mem_of_mem_split {sep : Char} {part : Text} : ∀ {s : Text}, part ∈ split s sep → sep ∉ part
  | [], h => by
    rw [split, List.splitOn_nil, List.mem_singleton] at h
    simp [h]
  | c :: s, h => by
    rw [split, List.splitOn_cons_eq_if_modifyHead] at h
    by_cases hc : c = sep
    · rw [if_pos (by simp [hc]), List.mem_cons] at h
      rcases h with rfl | h
      · simp
      · exact not_mem_of_mem_split h
    · rw [if_neg (by simp [hc])] at h
      cases hs : s.splitOn sep with
      | nil => exact absurd hs (List.splitOn_ne_nil sep s)
      | cons p ps =>
        rw [hs, List.modifyHead_cons, List.mem_cons] at h
        rcases h with rfl | h
        · have : sep ∉ p := not_mem_of_mem_split (show p ∈ split s sep by rw [split, hs]; exact List.mem_cons_self)
          simp [this, Ne.symm hc]
        · exact not_mem_of_mem_split (show part ∈ split s sep by rw [split, hs]; exact List.mem_cons_of_mem _ h)

theorem join_split (s : Text) (sep : Char) : join [sep] (split s sep) = s := List.intercalate_splitOn sep

theorem join_append {sep : Text} {vs ws : List Text} (hvs : vs ≠ []) (hws : ws ≠ []) :
    join sep (vs ++ ws) = join sep vs ++ (sep ++ join sep ws) := by
  induction vs with
  | nil => exact absurd rfl hvs
  | cons v vs ih =>
    cases vs with
    | nil =>
      obtain ⟨w, ws, rfl⟩ := List.exists_cons_of_ne_nil hws
      rw [join_singleton, List.singleton_append, join_cons_cons, List.append_assoc]
    | cons u vs =>
      rw [List.cons_append, List.cons_append, join_cons_cons, ← List.cons_append, ih (List.cons_ne_nil u vs), join_cons_cons]
      simp only [List.append_assoc]

theorem split_suffix_iff {s t : Text} {sep : Char} : split t sep <:+ split s sep ↔ s = t ∨ sep :: t <:+ s := by
  constructor
  · rintro ⟨parts, hparts⟩
    have hs := join_split s sep
    rw [← hparts] at hs
    rcases eq_or_ne parts [] with rfl | hne
    · rw [List.nil_append, join_split] at hs
      exact Or.inl hs.symm
    · have hsplit : split t sep ≠ [] := List.splitOn_ne_nil sep t
      rw [join_append hne hsplit, join_split] at hs
      exact Or.inr ⟨join [sep] parts, hs⟩
  · rintro (rfl | ⟨before, rfl⟩)
    · exact List.suffix_rfl
    · rw [split, split, List.splitOn_append_cons_self]
      exact List.suffix_append _ _

theorem suffix_of_suffix_append {sep : Char} {p before s : Text} (hp : sep ∉ p) (h : p <:+ before ++ sep :: s) : p <:+ s := by
  rcases List.suffix_or_suffix_of_suffix h (List.suffix_append before (sep :: s)) with hshort | hlong
  · rcases List.suffix_cons_iff.mp hshort with rfl | hshort
    · exact absurd List.mem_cons_self hp
    · exact hshort
  · exact absurd (hlong.subset List.mem_cons_self) hp

theorem eq_or_cons_suffix {a b : Text} (h : b <:+ a) : a = b ∨ ∃ c, c :: b <:+ a := by
  obtain ⟨before, rfl⟩ := h
  rcases List.eq_nil_or_concat before with rfl | ⟨before, c, rfl⟩
  · exact Or.inl rfl
  · exact Or.inr ⟨c, before, by rw [List.concat_append]⟩

theorem find?_eq_of_unique {s : Text} {p : Char → Bool} {c : Char} (hc : p c = true) (hmem : c ∈ s)
    (honly : ∀ d ∈ s, p d = true → d = c) : s.find? p = some c := by
  obtain ⟨d, hd⟩ := Option.isSome_iff_exists.mp (List.find?_isSome.mpr ⟨c, hmem, hc⟩)
  rw [hd, honly d (List.mem_of_find?_eq_some hd) (List.find?_some hd)]

/-! ### Numbers and words -/

theorem isDigit_of_mem_itoa {n : Nat} {c : Char} (h : c ∈ itoa n) : c.isDigit = true :=
  Nat.isDigit_of_mem_toDigits (by decide) (by decide) h

theorem all_isDigit_itoa (n : Nat) : (itoa n).all Char.isDigit = true :=
  List.all_eq_true.mpr fun _ => isDigit_of_mem_itoa

theorem ofDigitChars_itoa (n : Nat) : Nat.ofDigitChars 10 (itoa n) 0 = n := Nat.ofDigitChars_ten_toDigits

theorem itoa_inj {m n : Nat} (h : itoa m = itoa n) : m = n := by
  have hvalue := congrArg (Nat.ofDigitChars 10 · 0) h
  rwa [ofDigitChars_itoa, ofDigitChars_itoa] at hvalue

theorem itoa_ne_minus (m : Nat) (t : Text) : itoa m ≠ '-' :: t := by
  intro h
  have hminus : '-' ∈ itoa m := h ▸ List.mem_cons_self
  cases isDigit_of_mem_itoa hminus

theorem itoa_int_inj {m n : Int} (h : itoa m = itoa n) : m = n := by
  cases m with
  | ofNat m =>
    cases n with
    | ofNat n => exact congrArg Int.ofNat (itoa_inj h)
    | negSucc n => exact absurd h (itoa_ne_minus m _)
  | negSucc m =>
    cases n with
    | ofNat n => exact absurd h.symm (itoa_ne_minus n _)
    | negSucc n =>
      have hsucc : m + 1 = n + 1 := itoa_inj (List.cons.inj h).2
      exact congrArg Int.negSucc (Nat.succ.inj hsucc)

theorem isDigit_or_minus_of_mem_itoa {n : Int} {c : Char} (h : c ∈ itoa n) : c.isDigit = true ∨ c = '-' := by
  cases n with
  | ofNat n => exact Or.inl (isDigit_of_mem_itoa h)
  | negSucc n =>
    rcases List.mem_cons.mp h with rfl | h
    · exact Or.inr rfl
    · exact Or.inl (@isDigit_of_mem_itoa (n + 1) c h)

theorem toLower_eq_or (c : Char) : c.toLower = c ∨ 97 ≤ c.toLower.toNat ∧ c.toLower.toNat ≤ 122 := by
  unfold Char.toLower
  split
  · rename_i h
    right
    have hA : 65 ≤ c.val.toNat := UInt32.le_iff_toNat_le.mp h.1
    have hZ : c.val.toNat ≤ 90 := UInt32.le_iff_toNat_le.mp h.2
    have hval : (c.val + ('a'.val - 'A'.val)).toNat = c.val.toNat + 32 := by
      rw [UInt32.toNat_add]
      exact Nat.mod_eq_of_lt (Nat.lt_of_le_of_lt (Nat.add_le_add_right hZ 32) (by decide))
    simp only [Char.toNat, hval]
    omega
  · exact Or.inl rfl

theorem mem_of_mem_toLower {s : Text} {c : Char} (h : c ∈ toLower s) : c ∈ s ∨ 97 ≤ c.toNat ∧ c.toNat ≤ 122 := by
  obtain ⟨d, hd, rfl⟩ := List.mem_map.mp h
  rcases toLower_eq_or d with heq | hlower
  · exact Or.inl (heq.symm ▸ hd)
  · exact Or.inr hlower

theorem itoa_ne_nil (n : Int) : itoa n ≠ [] := by
  cases n with
  | ofNat n => exact Nat.toDigits_ne_nil
  | negSucc n => simp [itoa]

namespace IsWord
variable {w : Text}

theorem ne_nil (h : IsWord w) : w ≠ [] := h.1

theorem not_mem_of_isSpace (h : IsWord w) {c : Char} (hc : isSpace c = true) : c ∉ w := fun hmem => by
  rw [(h.2 c hmem).1] at hc
  cases hc

theorem not_space (h : IsWord w) : ' ' ∉ w := h.not_mem_of_isSpace (by decide)

theorem append {v : Text} (hw : IsWord w) (hv : ∀ c ∈ v, isSpace c = false ∧ c ≠ '"') : IsWord (w ++ v) :=
  ⟨List.append_ne_nil_of_left_ne_nil hw.1 v, fun c hc => (List.mem_append.mp hc).elim (hw.2 c) (hv c)⟩

end IsWord

theorem isSpace_le {c : Char} (h : isSpace c = true) : c.toNat ≤ 32 ∨ 127 < c.toNat := by
  simp only [isSpace, Bool.or_eq_true, decide_eq_true_eq, Bool.and_eq_true, List.mem_cons, List.not_mem_nil, or_false] at h
  rcases h with (rfl | rfl | rfl | rfl | rfl | rfl | rfl | rfl | rfl | rfl | rfl | rfl | rfl | rfl) | ⟨h, -⟩
  all_goals first | decide | skip
  have : ('\u2000' : Char).toNat ≤ c.toNat := UInt32.le_iff_toNat_le.mp h
  exact Or.inr (Nat.lt_of_lt_of_le (by decide) this)

theorem wordChar_of_toNat {c : Char} (hlo : 33 ≤ c.toNat) (hhi : c.toNat ≤ 127) (hq : c ≠ '"') :
    isSpace c = false ∧ c ≠ '"' := by
  refine ⟨?_, hq⟩
  rw [Bool.eq_false_iff]
  intro h
  rcases isSpace_le h with h | h <;> omega

theorem isWord_itoa (n : Int) : IsWord (itoa n) := by
  refine ⟨itoa_ne_nil n, fun c hc => ?_⟩
  rcases isDigit_or_minus_of_mem_itoa hc with h | rfl
  · simp only [Char.isDigit, Bool.and_eq_true, decide_eq_true_eq] at h
    have hlo : 48 ≤ c.toNat := UInt32.le_iff_toNat_le.mp h.1
    have hhi : c.toNat ≤ 57 := UInt32.le_iff_toNat_le.mp h.2
    refine wordChar_of_toNat (by omega) (by omega) ?_
    rintro rfl
    revert hlo
    decide
  · decide

theorem IsWord.toLower {w : Text} (h : IsWord w) : IsWord (toLower w) := by
  refine ⟨by simpa [Text.toLower] using h.1, fun c hc => ?_⟩
  rcases mem_of_mem_toLower hc with hc | hlower
  · exact h.2 c hc
  · refine wordChar_of_toNat (by omega) (by omega) ?_
    rintro rfl
    revert hlower
    decide

/-! ### White space at the ends -/

theorem dropWhile_cons_of_not {p : Char → Bool} {c : Char} {s : Text} (h : p c = false) :
    (c :: s).dropWhile p = c :: s := by
  rw [List.dropWhile_cons, h]
  rfl

theorem trimSpace_eq_self {s : Text} (hfirst : ∀ c t, s = c :: t → isSpace c = false)
    (hlast : ∀ t c, s = t ++ [c] → isSpace c = false) : trimSpace s = s := by
  have hdrop : s.dropWhile isSpace = s := by
    cases s with
    | nil => rfl
    | cons c t => exact dropWhile_cons_of_not (hfirst c t rfl)
  have hrev : s.reverse.dropWhile isSpace = s.reverse := by
    cases hs : s.reverse with
    | nil => rfl
    | cons c t =>
      refine dropWhile_cons_of_not (hlast t.reverse c ?_)
      rw [← List.reverse_reverse s, hs, List.reverse_cons]
  rw [trimSpace, hdrop, hrev, List.reverse_reverse]

theorem fields_append_cons {c : Char} (hc : isSpace c = true) (s t : Text) : fields (s ++ c :: t) = fields s ++ fields t := by
  rw [fields, List.splitOnP_append_cons s t hc, List.filter_append]
  rfl

theorem fields_of_isSpace {s : Text} (h : ∀ c ∈ s, isSpace c = true) : fields s = [] := by
  induction s with
  | nil => rfl
  | cons c s ih =>
    have hc := h c List.mem_cons_self
    rw [← List.nil_append (c :: s), fields_append_cons hc, ih fun d hd => h d (List.mem_cons_of_mem c hd)]
    rfl

theorem fields_append_isSpace (s : Text) {t : Text} (h : ∀ c ∈ t, isSpace c = true) : fields (s ++ t) = fields s := by
  cases t with
  | nil => rw [List.append_nil]
  | cons c t =>
    rw [fields_append_cons (h c List.mem_cons_self), fields_of_isSpace fun d hd => h d (List.mem_cons_of_mem c hd),
      List.append_nil]

theorem fields_dropWhile_isSpace (s : Text) : fields (s.dropWhile isSpace) = fields s := by
  induction s with
  | nil => rfl
  | cons c s ih =>
    rw [List.dropWhile_cons]
    split
    · rename_i hc
      rw [ih, ← List.nil_append (c :: s), fields_append_cons hc]
      rfl
    · rfl

theorem fields_trimSpace (s : Text) : fields (trimSpace s) = fields s := by
  rw [← fields_dropWhile_isSpace s, trimSpace]
  -- What is cut off at the end is white space.
  have hend : (s.dropWhile isSpace) = ((s.dropWhile isSpace).reverse.dropWhile isSpace).reverse ++
      ((s.dropWhile isSpace).reverse.takeWhile isSpace).reverse := by
    rw [← List.reverse_append, List.takeWhile_append_dropWhile, List.reverse_reverse]
  have hspace : ∀ c ∈ ((s.dropWhile isSpace).reverse.takeWhile isSpace).reverse, isSpace c = true := fun c hc =>
    List.all_eq_true.mp List.all_takeWhile c (List.mem_reverse.mp hc)
  conv_rhs => rw [hend, fields_append_isSpace _ hspace]

theorem hasPrefix_append_space {w rest p : Text} (hp : ' ' ∉ p) :
    hasPrefix (w ++ ' ' :: rest) p = hasPrefix w p := by
  rw [Bool.eq_iff_iff, hasPrefix_iff, hasPrefix_iff]
  constructor
  · intro h
    rcases List.prefix_or_prefix_of_prefix h (List.prefix_append w (' ' :: rest)) with h' | ⟨t, ht⟩
    · exact h'
    · -- A longer prefix would hold the space.
      cases t with
      | nil => exact ⟨[], by simpa using ht.symm⟩
      | cons c t =>
        obtain ⟨u, hu⟩ := h
        rw [← ht, List.append_assoc, List.append_cancel_left_eq, List.cons_append, List.cons.injEq] at hu
        exact absurd (ht ▸ List.mem_append_right w (hu.1 ▸ List.mem_cons_self)) hp
  · exact fun h => h.trans (List.prefix_append _ _)

theorem all_ne {sep : Char} {w : Text} (h : sep ∉ w) : ∀ c ∈ w, decide (c ≠ sep) = true := by
  intro c hc
  rw [decide_eq_true_iff]
  rintro rfl
  exact h hc

theorem takeWhile_ne {sep : Char} {w : Text} (h : sep ∉ w) (rest : Text) :
    (w ++ sep :: rest).takeWhile (· ≠ sep) = w := by
  rw [List.takeWhile_append_of_pos (all_ne h)]
  simp

theorem dropWhile_ne {sep : Char} {w : Text} (h : sep ∉ w) (rest : Text) :
    (w ++ sep :: rest).dropWhile (· ≠ sep) = sep :: rest := by
  rw [List.dropWhile_append_of_pos (all_ne h)]
  simp

theorem takeWhile_append_stop {p : Char → Bool} {w rest : Text} (hw : ∀ c ∈ w, p c = true)
    (hrest : ∀ c ∈ rest.head?, p c = false) : (w ++ rest).takeWhile p = w := by
  rw [List.takeWhile_append_of_pos hw]
  cases rest with
  | nil => exact List.append_nil w
  | cons c rest =>
    rw [List.takeWhile_cons, hrest c rfl]
    exact List.append_nil w

theorem dropWhile_append_stop {p : Char → Bool} {w rest : Text} (hw : ∀ c ∈ w, p c = true)
    (hrest : ∀ c ∈ rest.head?, p c = false) : (w ++ rest).dropWhile p = rest := by
  rw [List.dropWhile_append_of_pos hw]
  cases rest with
  | nil => rfl
  | cons c rest => exact dropWhile_cons_of_not (hrest c rfl)

theorem length_le_length_join {ws : List Text} (h : ∀ w ∈ ws, w ≠ []) (sep : Text) :
    ws.length ≤ (join sep ws).length := by
  induction ws with
  | nil => simp
  | cons w ws ih =>
    have hw : 0 < w.length := List.length_pos_of_ne_nil (h w List.mem_cons_self)
    cases ws with
    | nil =>
      rw [join_singleton]
      exact hw
    | cons v ws =>
      have := ih fun u hu => h u (List.mem_cons_of_mem _ hu)
      simp only [List.length_cons, join_cons_cons, List.length_append] at this ⊢
      omega

theorem join_ne_nil {ws : List Text} (hne : ws ≠ []) (h : ∀ w ∈ ws, w ≠ []) (sep : Text) : join sep ws ≠ [] := by
  intro hnil
  have hlen := length_le_length_join h sep
  rw [hnil] at hlen
  exact hne (List.length_eq_zero_iff.mp (Nat.le_zero.mp hlen))

/-! ### Beginnings -/

theorem itoa_append_inj {m n : Nat} {s t : Text} (hs : ∀ c ∈ s.head?, c.isDigit = false) (ht : ∀ c ∈ t.head?, c.isDigit = false)
    (h : itoa m ++ s = itoa n ++ t) : m = n ∧ s = t := by
  have hdigits (k : Nat) : ∀ c ∈ itoa k, c.isDigit = true := fun c => isDigit_of_mem_itoa
  have htake := congrArg (List.takeWhile Char.isDigit) h
  rw [takeWhile_append_stop (hdigits m) hs, takeWhile_append_stop (hdigits n) ht] at htake
  rw [htake] at h
  exact ⟨itoa_inj htake, List.append_cancel_left h⟩

theorem length_utf8_append (s t : Text) : (utf8 (s ++ t)).length = (utf8 s).length + (utf8 t).length := by
  rw [utf8, List.flatMap_append, List.length_append]
  rfl

theorem eq_nil_of_length_utf8 {s : Text} (h : (utf8 s).length = 0) : s = [] := by
  cases s with
  | nil => rfl
  | cons c s =>
    have hc : 0 < (String.utf8EncodeChar c).length := by
      rw [String.length_utf8EncodeChar]
      exact Char.utf8Size_pos c
    rw [utf8, List.flatMap_cons, List.length_append] at h
    omega

theorem append_inj_of_length_utf8 {a b s t : Text} (h : a ++ s = b ++ t) (hlength : (utf8 a).length = (utf8 b).length) :
    a = b ∧ s = t := by
  obtain ⟨c, rfl, rfl⟩ | ⟨c, rfl, rfl⟩ := List.append_eq_append_iff.mp h
  · rw [length_utf8_append] at hlength
    obtain rfl := @eq_nil_of_length_utf8 c (by omega)
    exact ⟨(List.append_nil a).symm, rfl⟩
  · rw [length_utf8_append] at hlength
    obtain rfl := @eq_nil_of_length_utf8 c (by omega)
    exact ⟨List.append_nil b, rfl⟩

/-! ### Substrings and separators -/

theorem infix_append_cons {sub x y : Text} {c : Char} (hc : c ∉ sub) (h : sub <:+: x ++ c :: y) : sub <:+: x ∨ sub <:+: y := by
  obtain ⟨s, t, heq⟩ := h
  rcases List.append_eq_append_iff.mp heq with ⟨a, hx, -⟩ | ⟨b, hs, hb⟩
  · exact Or.inl ⟨s, a, hx.symm⟩
  · cases b with
    | nil => exact Or.inl ⟨s, [], by simpa using hs⟩
    | cons d b =>
      obtain ⟨rfl, rfl⟩ := List.cons.inj hb
      rcases List.append_eq_append_iff.mp hs with ⟨a, -, hsub⟩ | ⟨a, -, hsub⟩
      · exact absurd (hsub ▸ by simp) hc
      · cases a with
        | nil => exact absurd ((List.nil_append sub ▸ hsub) ▸ List.mem_cons_self) hc
        | cons d a =>
          obtain ⟨rfl, rfl⟩ := List.cons.inj hsub
          exact Or.inr ⟨a, t, rfl⟩

theorem infix_unlines {sub : Text} (hne : sub ≠ []) (hn : '\n' ∉ sub) {ls : List Text} (h : sub <:+: unlines ls) :
    ∃ l ∈ ls, sub <:+: l := by
  induction ls with
  | nil => exact absurd (List.infix_nil.mp h) hne
  | cons l ls ih =>
    rw [unlines_cons] at h
    rcases infix_append_cons hn h with h | h
    · exact ⟨l, List.mem_cons_self, h⟩
    · obtain ⟨m, hm, hsub⟩ := ih h
      exact ⟨m, List.mem_cons_of_mem _ hm, hsub⟩

/-- A word, a space and the rest of a text: around its first space, or after it. -/
theorem suffix_word_append {u v w y : Text} (hu : ' ' ∉ u) (hw : ' ' ∉ w) (h : u ++ ' ' :: v <:+ w ++ ' ' :: y) :
    u <:+ w ∧ v = y ∨ u ++ ' ' :: v <:+ y := by
  obtain ⟨s, heq⟩ := h
  rw [← List.append_assoc] at heq
  rcases List.append_eq_append_iff.mp heq with ⟨a, hwa, ha⟩ | ⟨b, hsu, hb⟩
  · cases a with
    | nil =>
      rw [List.append_nil] at hwa
      exact Or.inl ⟨⟨s, hwa.symm⟩, (List.cons.inj ha).2⟩
    | cons d a =>
      obtain ⟨rfl, -⟩ := List.cons.inj ha
      exact absurd (hwa ▸ by simp) hw
  · cases b with
    | nil =>
      rw [List.append_nil] at hsu
      exact Or.inl ⟨⟨s, hsu⟩, (List.cons.inj hb).2.symm⟩
    | cons d b =>
      obtain ⟨rfl, rfl⟩ := List.cons.inj hb
      right
      -- The word does not reach back over the first space.
      rcases List.append_eq_append_iff.mp hsu with ⟨a, -, hua⟩ | ⟨a, -, hba⟩
      · exact absurd (hua ▸ by simp) hu
      · cases a with
        | nil => exact absurd ((List.nil_append u ▸ hba) ▸ List.mem_cons_self) hu
        | cons d a =>
          obtain ⟨rfl, rfl⟩ := List.cons.inj hba
          exact ⟨a, by simp⟩

/-- Two words and the space between them: around the first space of a text, or after it. -/
theorem infix_word_append {u v w y : Text} (hu : ' ' ∉ u) (hw : ' ' ∉ w) (h : u ++ ' ' :: v <:+: w ++ ' ' :: y) :
    u <:+ w ∧ v <+: y ∨ u ++ ' ' :: v <:+: y := by
  obtain ⟨s, t, heq⟩ := h
  have hsuffix : u ++ ' ' :: (v ++ t) <:+ w ++ ' ' :: y := ⟨s, by simpa using heq⟩
  rcases suffix_word_append hu hw hsuffix with ⟨huw, hvy⟩ | ⟨a, ha⟩
  · exact Or.inl ⟨huw, ⟨t, hvy⟩⟩
  · exact Or.inr ⟨a, t, by simpa using ha⟩

theorem prefix_of_prefix_join {v w : Text} {ws : List Text} (hv : ' ' ∉ v) (h : v <+: join [' '] (w :: ws)) : v <+: w := by
  cases ws with
  | nil => rwa [join_singleton] at h
  | cons x ws =>
    rw [join_cons_cons, List.append_assoc, List.singleton_append, ← hasPrefix_iff, hasPrefix_append_space hv,
      hasPrefix_iff] at h
    exact h

/-- Two words with a space between them are in a line of words only where one word ends and the next
    begins. -/
theorem not_infix_join {u v : Text} (hu : ' ' ∉ u) (hv : ' ' ∉ v) {ws : List Text} (hws : ∀ w ∈ ws, ' ' ∉ w)
    (hchain : ws.IsChain fun a b => ¬(u <:+ a ∧ v <+: b)) : ¬u ++ ' ' :: v <:+: join [' '] ws := by
  induction ws with
  | nil => simp
  | cons w ws ih =>
    have hw := hws w List.mem_cons_self
    cases ws with
    | nil =>
      rw [join_singleton]
      exact fun h => hw (h.subset (by simp))
    | cons x ws =>
      rw [List.isChain_cons_cons] at hchain
      rw [join_cons_cons, List.append_assoc, List.singleton_append]
      intro h
      rcases infix_word_append hu hw h with ⟨hsuffix, hpre⟩ | hrest
      · exact hchain.1 ⟨hsuffix, prefix_of_prefix_join hv hpre⟩
      · exact ih (fun y hy => hws y (List.mem_cons_of_mem _ hy)) hchain.2 hrest

end Text
