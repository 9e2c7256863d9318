import CriDockerd.Bandwidth.Shaper
import Mathlib.Data.List.Forall2

/-! What the shaper reads from the output of `tc`: the IDs of all classes, and the classes of the filters for a CIDR. A
    handle is read up to its first hexadecimal letter only. -/

namespace CriDockerd.Bandwidth
open Text NetIP

/-! ### Words -/

theorem isWord_append_itoa {w : Text} (hw : IsWord w) (n : Int) : IsWord (w ++ itoa n) := hw.append (isWord_itoa n).2

theorem isWord_classID (class_ : Nat) : IsWord (classID class_) := isWord_append_itoa (by decide) _

theorem minorOf_of_le {class_ : Nat} (h : 10 ≤ class_) : minorOf class_ = 16 * minorOf (class_ / 10) + class_ % 10 := by
  have hdigits : itoa class_ = itoa (class_ / 10 : Nat) ++ [(class_ % 10).digitChar] := Nat.toDigits_of_base_le (by decide) h
  have hlast : ∀ n : Fin 10, n.val.digitChar.toNat - '0'.toNat = n.val := by decide
  rw [minorOf, hdigits, Nat.ofDigitChars_append, Nat.ofDigitChars_cons, hlast ⟨class_ % 10, Nat.mod_lt _ (by decide)⟩]
  rfl

/-- What `tc` reads in a class ID of the shaper, it prints as the shaper has written it. -/
theorem hex_minorOf (class_ : Nat) : hex (minorOf class_) = itoa class_ := by
  induction class_ using Nat.strong_induction_on with
  | _ class_ ih =>
    rcases Nat.lt_or_ge class_ 10 with hlt | hle
    · have hsmall : ∀ n : Fin 10, hex (minorOf n) = itoa (n : Nat) := by decide
      exact hsmall ⟨class_, hlt⟩
    · have ih := ih (class_ / 10) (Nat.div_lt_self (by omega) (by decide))
      have hpos : 0 < minorOf (class_ / 10) := by
        refine Nat.pos_of_ne_zero fun hzero => ?_
        rw [hzero] at ih
        have : 0 = class_ / 10 := itoa_inj ih
        omega
      have hmod : class_ % 10 < 10 := Nat.mod_lt _ (by decide)
      calc hex (minorOf class_) = hex (minorOf (class_ / 10)) ++ hex (class_ % 10) := by
            rw [minorOf_of_le hle]
            exact (Nat.toDigits_append_toDigits (by decide) hpos (by omega)).symm
        _ = itoa (class_ / 10 : Nat) ++ [(class_ % 10).digitChar] := by
            rw [ih, hex, Nat.toDigits_of_lt_base (by omega)]
        _ = itoa class_ := (Nat.toDigits_of_base_le (by decide) hle).symm

theorem classid_eq (f : U32Filter) : f.classid = classID f.flowid := by rw [U32Filter.classid, hex_minorOf, classID]

theorem id_ofID {class_ : Nat} (hpos : 0 < class_) (rate : Rate) : (HtbClass.ofID class_ rate).id = classID class_ := by
  have hne : minorOf class_ ≠ 0 := fun hzero => by
    have hdigits := hex_minorOf class_
    rw [hzero] at hdigits
    have : 0 = class_ := itoa_inj hdigits
    omega
  rw [HtbClass.ofID, HtbClass.id, hexOr, if_neg hne, hex_minorOf, classID]

theorem mem_classID {class_ : Nat} {c : Char} (h : c ∈ classID class_) : c = '1' ∨ c = ':' ∨ c.isDigit = true := by
  rcases List.mem_append.mp h with h | h
  · rcases List.mem_cons.mp h with rfl | h
    · exact Or.inl rfl
    · exact Or.inr (Or.inl (List.mem_singleton.mp h))
  · exact Or.inr (Or.inr (isDigit_of_mem_itoa h))

theorem not_suffix_of_not_mem {u w : Text} {c : Char} (hu : c ∈ u) (hw : c ∉ w) : ¬u <:+ w := fun h => hw (h.subset hu)

theorem hexDigit_char : ∀ a : Fin 16, a.val.digitChar ≠ '/' ∧ a.val.digitChar ≠ 'm' ∧
    isSpace a.val.digitChar = false ∧ a.val.digitChar ≠ '"' := by
  decide

theorem hexCIDR_eq {cidr : Text} {ip : IP} {net : IPNet} (hparse : parseCIDRSloppy cidr = some (ip, net)) :
    hexCIDR cidr = .ok (hexString net.ip ++ '/' :: hexString net.mask) := by
  obtain ⟨hip, -⟩ := parseCIDRWith_net hparse
  simp only [hexCIDR, hparse, hip]

theorem slash_not_mem_hexString (bytes : List UInt8) : '/' ∉ hexString bytes := by
  intro hmem
  obtain ⟨a, ha⟩ := exists_digit_of_mem_hexString hmem
  exact (hexDigit_char a).1 ha.symm

/-- A word that is no word of a line of its own, and ends with none. -/
structure Plain (w : Text) : Prop where
  isWord : IsWord w
  no_h : 'h' ∉ w
  no_o : 'o' ∉ w

theorem plain_of_chars {w : Text} (hne : w ≠ []) (h : ∀ c ∈ w, isHex c = true ∨ c = ':') : Plain w := by
  have hchar : ∀ c, isHex c = true ∨ c = ':' → (isSpace c = false ∧ c ≠ '"') ∧ c ≠ 'h' ∧ c ≠ 'o' := by
    rintro c (hhex | rfl)
    · obtain ⟨hlo, hhi⟩ := toNat_of_isHex hhex
      refine ⟨wordChar_of_toNat (by omega) (by omega) ?_, ?_, ?_⟩
      all_goals
        rintro rfl
        cases hhex
    · decide
  exact ⟨⟨hne, fun c hc => (hchar c (h c hc)).1⟩, fun hc => (hchar _ (h _ hc)).2.1 rfl, fun hc => (hchar _ (h _ hc)).2.2 rfl⟩

/-! ### Classes -/

section
variable (c : HtbClass)

/-- What the shaper reads of the number of a class: its digits up to the first letter. -/
def HtbClass.digits : Text := (hexOr c.minor).takeWhile Char.isDigit

def classWords : List Text :=
  let rate := itoa c.rate.kbit ++ "Kbit"
  ["htb", c.id, "root", "prio", "0", "rate", rate, "ceil", rate,
    "burst", "1600b", "cburst", "1600b"]

theorem isHex_of_mem_hexOr {n : Nat} {d : Char} (h : d ∈ hexOr n) : isHex d = true := by
  unfold hexOr at h
  split at h
  · exact absurd h List.not_mem_nil
  · exact isHex_of_mem_toDigits h

theorem plain_id : Plain c.id := by
  refine plain_of_chars (List.append_ne_nil_of_left_ne_nil (by decide) _) fun d hd => ?_
  rcases List.mem_append.mp hd with hd | hd
  · rcases List.mem_cons.mp hd with rfl | hd
    · exact .inl rfl
    · exact .inr (List.mem_singleton.mp hd)
  · exact .inl (isHex_of_mem_hexOr hd)

theorem isWord_classWords : ∀ w ∈ "class".toList :: classWords c, IsWord w := by
  have hrate : IsWord (itoa c.rate.kbit ++ "Kbit".toList) := (isWord_itoa _).append (by decide)
  have hid : IsWord c.id := (plain_id c).isWord
  simp only [classWords, List.forall_mem_cons, hrate, hid, true_and]
  decide

theorem class_not_suffix_classWords : ∀ w ∈ classWords c, ¬"class".toList <:+ w := by
  have hrate : ¬"class".toList <:+ itoa c.rate.kbit ++ "Kbit".toList := by
    refine not_suffix_of_not_mem (c := 's') (by decide) fun hs => ?_
    rcases List.mem_append.mp hs with hs | hs
    · rcases isDigit_or_minus_of_mem_itoa hs with hs | hs <;> cases hs
    · revert hs
      decide
  have hid : ¬"class" <:+ c.id := by
    refine not_suffix_of_not_mem (c := 's') (by decide) fun hs => ?_
    rcases List.mem_append.mp hs with hs | hs
    · revert hs
      decide
    · cases isHex_of_mem_hexOr hs
  simp only [classWords, List.forall_mem_cons, hrate, hid, not_false_eq_true, true_and]
  decide

theorem classLine_eq : classLine c = "class htb 1:" ++ (hexOr c.minor ++ ' ' :: join [' '] (classWords c).tail.tail) := by
  have hhead : classLine c = "class htb " ++ (c.id ++ ' ' :: join [' '] (classWords c).tail.tail) := rfl
  rw [hhead, HtbClass.id, List.append_assoc]
  rfl

theorem takeWhile_hexOr (rest : Text) : (hexOr c.minor ++ ' ' :: rest).takeWhile Char.isDigit = c.digits := by
  rw [List.takeWhile_append, HtbClass.digits]
  split
  · next hall =>
    rw [(List.takeWhile_prefix Char.isDigit).eq_of_length hall]
    simp
  · rfl

/-- A line whose number starts with a letter is not matched. -/
theorem classShowMatcher_classLine :
    classShowMatcher (classLine c) = if c.digits = [] then none else some ("1:" ++ c.digits) := by
  split
  · next hnil =>
    rw [classShowMatcher, ← Option.not_isSome_iff_eq_none, Option.isSome_iff_exists]
    rintro ⟨id, hid⟩
    obtain ⟨t, ht, hmatch⟩ := firstMatch_suffix hid
    simp only [bind, pure, Option.bind_eq_some_iff] at hmatch
    obtain ⟨s, hs, ⟨digits, rest⟩, hdigits, -⟩ := hmatch
    obtain rfl := matchLiteral_eq_some hs
    obtain ⟨hne, rfl, -⟩ := matchDigits_eq_some hdigits
    -- The place is the start of the line, as no other word ends with `class`.
    have hafter : "htb 1:" ++ s = join [' '] (classWords c) :=
      @join_after "class" _ [] _ (fun w hw => (isWord_classWords c w hw).not_space) (by simp)
        (class_not_suffix_classWords c) ht
    have hs : s = hexOr c.minor ++ ' ' :: join [' '] (classWords c).tail.tail := by
      have hline := classLine_eq c
      have hwords : classLine c = "class " ++ join [' '] (classWords c) := rfl
      rw [hwords, ← hafter] at hline
      exact @List.append_cancel_left _ "class htb 1:".toList _ _ hline
    rw [hs, takeWhile_hexOr, hnil] at hne
    exact hne rfl
  · next hne =>
    refine firstMatch_of_match ?_
    rw [classLine_eq]
    simp only [bind, pure, matchLiteral_append, Option.bind_some, matchDigits_of_ne_nil hne (takeWhile_hexOr c _)]

end

theorem trimSpace_classLine (c : HtbClass) : trimSpace (classLine c) = classLine c :=
  trimSpace_join (isWord_classWords c)

theorem classLine_ne_nil (c : HtbClass) : classLine c ≠ [] :=
  join_ne_nil (List.cons_ne_nil _ _) (fun w hw => (isWord_classWords c w hw).ne_nil) _

/-- The digits of all classes are read, unless a class has none. -/
theorem scanClasses_classLines (classes : List HtbClass) (seen : List Text) :
    (∀ c ∈ classes, c.digits ≠ []) ∧
        scanClasses (classes.map classLine) seen = .ok ((classes.map fun c => "1:".toList ++ c.digits).reverse ++ seen) ∨
      (∃ c ∈ classes, c.digits = []) ∧ ∃ err, scanClasses (classes.map classLine) seen = .error err := by
  induction classes generalizing seen with
  | nil => exact .inl ⟨fun c hc => absurd hc List.not_mem_nil, rfl⟩
  | cons c classes ih =>
    rw [List.map_cons, scanClasses, trimSpace_classLine, if_neg (classLine_ne_nil c), classShowMatcher_classLine]
    by_cases hc : c.digits = []
    · rw [if_pos hc]
      exact .inr ⟨⟨c, List.mem_cons_self, hc⟩, _, rfl⟩
    · rw [if_neg hc]
      rcases ih (("1:".toList ++ c.digits) :: seen) with ⟨hall, hscan⟩ | ⟨⟨d, hd, hnil⟩, herr⟩
      · refine .inl ⟨List.forall_mem_cons.mpr ⟨hc, hall⟩, ?_⟩
        dsimp only
        rw [hscan, List.map_cons, List.reverse_cons, List.append_assoc]
        rfl
      · exact .inr ⟨⟨d, List.mem_cons_of_mem c hd, hnil⟩, herr⟩

/-! ### The first line of a filter -/

theorem matchHandle_eq_some {t handle rest : Text} (h : matchHandle t = some (handle, rest)) :
    rest <:+ t ∧ ∃ s node after, t = "fh" ++ ' ' :: s ∧ s.takeWhile Char.isDigit ≠ [] ∧
      s.dropWhile Char.isDigit = "::" ++ after ∧ node ≠ [] ∧ node = after.takeWhile Char.isDigit ∧
      handle = s.takeWhile Char.isDigit ++ "::" ++ node := by
  simp only [matchHandle, bind, pure, Option.bind_eq_some_iff] at h
  obtain ⟨s, hs, ⟨table, s₁⟩, htable, s₂, hs₂, ⟨node, s₃⟩, hnode, heq⟩ := h
  cases heq
  obtain rfl := matchLiteral_eq_some hs
  obtain ⟨htableNe, rfl, rfl⟩ := matchDigits_eq_some htable
  obtain ⟨hne, hdigits, rfl⟩ := matchDigits_eq_some hnode
  have hafter : s.dropWhile Char.isDigit = "::" ++ s₂ := matchLiteral_eq_some hs₂
  refine ⟨?_, s, node, s₂, rfl, htableNe, hafter, hne, hdigits, rfl⟩
  have hsuffix : s₂ <:+ s.dropWhile Char.isDigit := hafter ▸ List.suffix_append _ _
  exact (List.dropWhile_suffix _).trans (hsuffix.trans ((List.dropWhile_suffix _).trans (List.suffix_append _ _)))

theorem matchFlowid_eq_some {t flowid : Text} (h : matchFlowid t = some flowid) :
    ∃ s minor after, t = "flowid" ++ ' ' :: s ∧ s.takeWhile Char.isDigit ≠ [] ∧
      s.dropWhile Char.isDigit = ":" ++ after ∧ minor ≠ [] ∧ minor = after.takeWhile Char.isDigit ∧
      flowid = s.takeWhile Char.isDigit ++ ":" ++ minor := by
  simp only [matchFlowid, bind, pure, Option.bind_eq_some_iff] at h
  obtain ⟨s, hs, ⟨major, s₁⟩, hmajor, s₂, hs₂, ⟨minor, s₃⟩, hminor, heq⟩ := h
  cases heq
  obtain rfl := matchLiteral_eq_some hs
  obtain ⟨hmajorNe, rfl, rfl⟩ := matchDigits_eq_some hmajor
  obtain ⟨hminorNe, hdigits, -⟩ := matchDigits_eq_some hminor
  exact ⟨s, minor, s₂, rfl, hmajorNe, matchLiteral_eq_some hs₂, hminorNe, hdigits, rfl⟩

section
variable (version : Version)

/-- The words of a line: those up to `fh`, those up to `flowid`, and the rest. -/
def lineWords (handle order table bucket flowid : Text) : List Text :=
  version.head ++ "fh".toList :: (handle :: "order" :: order :: "key" :: "ht" :: table ::
    "bkt".toList :: bucket :: "flowid" :: flowid :: version.tail)

variable {version} {handle order table bucket flowid : Text} (hhandle : Plain handle) (horder : Plain order)
  (htable : Plain table) (hbucket : Plain bucket) (hflowid : Plain flowid)
include hhandle horder htable hbucket hflowid

theorem isWord_lineWords : ∀ w ∈ lineWords version handle order table bucket flowid, IsWord w := by
  have hhead : ∀ w ∈ version.head, IsWord w := by cases version <;> decide
  have htail : ∀ w ∈ version.tail, IsWord w := by cases version <;> decide
  have hliteral : IsWord "fh".toList ∧ IsWord "order".toList ∧ IsWord "key".toList ∧ IsWord "ht".toList ∧
    IsWord "bkt".toList ∧ IsWord "flowid".toList := by decide
  obtain ⟨hfh, hord, hkey, hht, hbkt, hflow⟩ := hliteral
  simp only [lineWords, List.forall_mem_append, List.forall_mem_cons]
  exact ⟨hhead, hfh, hhandle.isWord, hord, horder.isWord, hkey, hht, htable.isWord, hbkt, hbucket.isWord, hflow,
    hflowid.isWord, htail⟩

theorem after_fh {v : Text} (h : "fh".toList ++ ' ' :: v <:+ join [' '] (lineWords version handle order table bucket flowid)) :
    v = handle ++ ' ' :: join [' '] ("order" :: order :: "key" :: "ht" :: table ::
      "bkt" :: bucket :: "flowid" :: flowid :: version.tail) := by
  have hhead : ∀ w ∈ version.head, ¬"fh" <:+ w := by cases version <;> decide
  have htail : ∀ w ∈ version.tail, ¬"fh" <:+ w := by cases version <;> decide
  have hliteral : ¬"fh".toList <:+ "order".toList ∧ ¬"fh".toList <:+ "key".toList ∧ ¬"fh".toList <:+ "ht".toList ∧
    ¬"fh".toList <:+ "bkt".toList ∧ ¬"fh".toList <:+ "flowid".toList := by decide
  obtain ⟨hord, hkey, hht, hbkt, hflow⟩ := hliteral
  have hplain : ∀ {w}, Plain w → ¬"fh" <:+ w := fun hw => not_suffix_of_not_mem (by decide) hw.no_h
  have hwords : ∀ w ∈ lineWords version handle order table bucket flowid, IsWord w :=
    isWord_lineWords hhandle horder htable hbucket hflowid
  refine join_after (fun w hw => (hwords w hw).not_space) hhead ?_ h
  simp only [List.forall_mem_cons]
  exact ⟨hplain hhandle, hord, hplain horder, hkey, hht, hplain htable, hbkt, hplain hbucket, hflow, hplain hflowid, htail⟩

theorem after_flowid {v : Text}
    (h : "flowid".toList ++ ' ' :: v <:+ join [' '] (lineWords version handle order table bucket flowid)) :
    v = join [' '] (flowid :: version.tail) := by
  have hhead : ∀ w ∈ version.head, ¬"flowid" <:+ w := by cases version <;> decide
  have htail : ∀ w ∈ version.tail, ¬"flowid".toList <:+ w := by cases version <;> decide
  have hliteral : ¬"flowid".toList <:+ "fh".toList ∧ ¬"flowid".toList <:+ "order".toList ∧ ¬"flowid".toList <:+ "key".toList ∧
    ¬"flowid".toList <:+ "ht".toList ∧ ¬"flowid".toList <:+ "bkt".toList := by decide
  obtain ⟨hfh, hord, hkey, hht, hbkt⟩ := hliteral
  have hplain : ∀ {w}, Plain w → ¬"flowid".toList <:+ w := fun hw => not_suffix_of_not_mem (by decide) hw.no_o
  have hwords : ∀ w ∈ lineWords version handle order table bucket flowid, IsWord w :=
    isWord_lineWords hhandle horder htable hbucket hflowid
  have hsplit : lineWords version handle order table bucket flowid = (version.head ++ ["fh".toList, handle, "order", order,
      "key", "ht", table, "bkt", bucket]) ++ "flowid".toList :: flowid :: version.tail := by
    rw [lineWords, List.append_assoc]
    rfl
  rw [hsplit] at h hwords
  refine join_after (fun w hw => (hwords w hw).not_space) ?_ ?_ h
  · simp only [List.forall_mem_append, List.forall_mem_cons]
    exact ⟨hhead, hfh, hplain hhandle, hord, hplain horder, hkey, hht, hplain htable, hbkt, hplain hbucket,
      fun _ hw => absurd hw List.not_mem_nil⟩
  · simp only [List.forall_mem_cons]
    exact ⟨hplain hflowid, htail⟩

theorem classAndHandleMatcher_sound {h c : Text}
    (hmatch : classAndHandleMatcher (join [' '] (lineWords version handle order table bucket flowid)) = some (h, c)) :
    (∃ rest, matchHandle ("fh".toList ++ ' ' :: (handle ++ ' ' :: join [' '] ("order".toList :: order :: "key" ::
        "ht" :: table :: "bkt" :: bucket :: "flowid" :: flowid :: version.tail))) = some (h, rest)) ∧
      matchFlowid ("flowid".toList ++ ' ' :: join [' '] (flowid :: version.tail)) = some c := by
  obtain ⟨t, ht, hmatch⟩ := firstMatch_suffix hmatch
  simp only [bind, pure, Option.bind_eq_some_iff] at hmatch
  obtain ⟨s, hs, hmatch⟩ := hmatch
  obtain ⟨t₂, ht₂, hmatch⟩ := lastMatch_suffix hmatch
  simp only [Option.bind_eq_some_iff] at hmatch
  obtain ⟨⟨h', rest⟩, hread, c', hlast, heq⟩ := hmatch
  cases heq
  obtain ⟨t₃, ht₃, hflow⟩ := lastMatch_suffix hlast
  obtain ⟨hrest, x, -, -, rfl, -⟩ := matchHandle_eq_some hread
  obtain ⟨y, -, -, rfl, -⟩ := matchFlowid_eq_some hflow
  have hline : "fh".toList ++ ' ' :: x <:+ join [' '] (lineWords version handle order table bucket flowid) := by
    obtain rfl := matchLiteral_eq_some hs
    exact ht₂.trans ((List.suffix_append _ _).trans ht)
  rw [after_fh hhandle horder htable hbucket hflowid hline] at hread
  rw [after_flowid hhandle horder htable hbucket hflowid (ht₃.trans (hrest.trans hline))] at hflow
  exact ⟨⟨rest, hread⟩, hflow⟩

end

section
variable (version : Version) (f : U32Filter)

/-- The three hexadecimal digits at the end of a handle. -/
def U32Filter.nodeText : Text := [f.node.hi.val.digitChar, f.node.mid.val.digitChar, f.node.lo.val.digitChar]

theorem mem_handle {c : Char} (h : c ∈ f.handle) : isHex c = true ∨ c = ':' := by
  have hdigit : ∀ a : Fin 16, isHex a.val.digitChar = true := fun a => (digitChar_isHex a.val a.isLt).1
  have hliteral : ∀ c ∈ "800::".toList, isHex c = true ∨ c = ':' := by decide
  rcases List.mem_append.mp h with h | h
  · exact hliteral c h
  · simp only [List.mem_cons, List.not_mem_nil, or_false] at h
    rcases h with rfl | rfl | rfl
    · exact .inl (hdigit _)
    · exact .inl (hdigit _)
    · exact .inl (hdigit _)

theorem plain_handle : Plain f.handle := by
  have hne : f.handle ≠ [] := List.append_ne_nil_of_left_ne_nil (by decide) _
  exact plain_of_chars hne fun _ => mem_handle f

theorem plain_itoa (n : Nat) : Plain (itoa n) :=
  plain_of_chars (itoa_ne_nil _) fun _ hc => .inl (isHex_of_isDigit (isDigit_of_mem_itoa hc))

theorem plain_classID (class_ : Nat) : Plain (classID class_) := by
  refine plain_of_chars (isWord_classID class_).ne_nil fun c hc => ?_
  rcases mem_classID hc with rfl | rfl | hdigit
  · exact .inl rfl
  · exact .inr rfl
  · exact .inl (isHex_of_isDigit hdigit)

theorem plain_classid : Plain f.classid := by
  rw [classid_eq]
  exact plain_classID f.flowid

def keyWords : List Text := ["key".toList, "ht", "800", "bkt", "0"]

/-- The words of a line: those up to `fh`, those up to `flowid`, and the rest. -/
def U32Filter.words : List Text :=
  version.head ++ "fh".toList :: (f.handle :: "order" :: f.order :: keyWords ++
    "flowid".toList :: f.classid :: version.tail)

theorem words_eq : f.words version = lineWords version f.handle f.order "800".toList "0".toList f.classid := rfl

theorem plain_literal : Plain "800".toList ∧ Plain "0".toList := by
  constructor
  · exact plain_of_chars (by decide) (by decide)
  · exact plain_of_chars (by decide) (by decide)

theorem isWord_words : ∀ w ∈ f.words version, IsWord w := by
  rw [words_eq]
  exact isWord_lineWords (plain_handle f) (plain_itoa _) plain_literal.1 plain_literal.2 (plain_classid f)

/-- The class and the handle that are read for a filter; the handle up to its first letter. -/
structure Reads (entry : Text × Text) : Prop where
  classid : entry.1 = f.classid
  handle : ∃ digits, digits <+: f.nodeText ∧ entry.2 = "800::".toList ++ digits

theorem classAndHandleMatcher_filterLine {handle class_ : Text}
    (h : classAndHandleMatcher (filterLine version f.handle f.order f.classid) = some (handle, class_)) :
    Reads f (class_, handle) := by
  obtain ⟨⟨rest, hread⟩, hflowid⟩ :=
    classAndHandleMatcher_sound (plain_handle f) (plain_itoa _) plain_literal.1 plain_literal.2 (plain_classid f) h
  obtain ⟨-, x, node, after, hx, -, hcolons, -, hnode, hhandle⟩ := matchHandle_eq_some hread
  obtain ⟨y, minor, after', hy, -, hcolon, -, hminor, hclass⟩ := matchFlowid_eq_some hflowid
  have hx : x = "800".toList ++ ("::".toList ++ (f.nodeText ++ ' ' :: join [' '] ("order".toList :: f.order :: keyWords ++
      "flowid".toList :: f.classid :: version.tail))) := (List.cons.inj (List.append_cancel_left hx)).2.symm
  have hy : y = ['1'] ++ (":".toList ++ (itoa f.flowid ++ version.tail.flatMap fun w => ' ' :: w)) := by
    rw [← (List.cons.inj (List.append_cancel_left hy)).2, join_cons, classid_eq, classID, List.append_assoc]
    rfl
  refine ⟨?_, node, ?_, ?_⟩
  · have htail : ∀ c ∈ (version.tail.flatMap fun w => ' ' :: w).head?, c.isDigit = false := by
      cases version with
      | old => rintro c ⟨⟩
      | new =>
        rintro c ⟨⟩
        rfl
    rw [hy, dropWhile_append_stop (by decide) (by rintro _ ⟨⟩; rfl)] at hcolon
    rw [← List.append_cancel_left hcolon, takeWhile_append_stop (fun d => isDigit_of_mem_itoa) htail] at hminor
    rw [hclass, hminor, hy, takeWhile_append_stop (by decide) (by rintro _ ⟨⟩; rfl), classid_eq]
    rfl
  · rw [hx, dropWhile_append_stop (by decide) (by rintro _ ⟨⟩; rfl)] at hcolons
    rw [hnode, ← List.append_cancel_left hcolons]
    exact takeWhile_prefix_of_not rfl _ _
  · rw [hhandle, hx, takeWhile_append_stop (by decide) (by rintro _ ⟨⟩; rfl)]
    rfl

end

theorem Reads.handle_eq {f g : U32Filter} {entry : Text × Text} (h : Reads f entry) (hg : entry.2 = g.handle) :
    g.handle = f.handle := by
  obtain ⟨digits, hprefix, heq⟩ := h.handle
  have hdigits : digits = g.nodeText := List.append_cancel_left (heq.symm.trans hg)
  have hnode : digits = f.nodeText := hprefix.eq_of_length (hdigits ▸ rfl)
  rw [← hg, heq, hnode]
  rfl

/-! ### The second line of a filter -/

section
variable {net : IPNet} (m : U32Match) (direction : Direction)

def directionWord : Direction → Text
  | .dst => "16".toList
  | .src => "12".toList

/-- The words of a line; the last one is an offset. -/
def netWords (net : IPNet) (offset : Text) : List Text :=
  ["match", hexString net.ip ++ '/' :: hexString net.mask, "at", offset]

theorem matchLine_eq : matchLine m.net direction = join [' '] (netWords m.net (directionWord direction)) := by
  cases direction <;> rfl

theorem isWord_directionWord : IsWord (directionWord direction) := by cases direction <;> decide

theorem not_mem_hexNet {c : Char} (hc : ∀ a : Fin 16, a.val.digitChar ≠ c) (hslash : c ≠ '/') :
    c ∉ hexString net.ip ++ '/' :: hexString net.mask := by
  intro h
  rcases List.mem_append.mp h with h | h
  · obtain ⟨a, ha⟩ := exists_digit_of_mem_hexString h
    exact hc a ha.symm
  · rcases List.mem_cons.mp h with h | h
    · exact hslash h
    · obtain ⟨a, ha⟩ := exists_digit_of_mem_hexString h
      exact hc a ha.symm

theorem isWord_hexNet : IsWord (hexString net.ip ++ '/' :: hexString net.mask) := by
  refine ⟨by simp, fun c hc => ?_⟩
  rcases List.mem_append.mp hc with h | h
  · obtain ⟨a, rfl⟩ := exists_digit_of_mem_hexString h
    exact (hexDigit_char a).2.2
  · rcases List.mem_cons.mp h with rfl | h
    · decide
    · obtain ⟨a, rfl⟩ := exists_digit_of_mem_hexString h
      exact (hexDigit_char a).2.2

theorem isWord_netWords {offset : Text} (hoffset : IsWord offset) : ∀ w ∈ netWords net offset, IsWord w := by
  have hliteral : IsWord "match" ∧ IsWord "at" := by decide
  simp only [netWords, List.forall_mem_cons]
  exact ⟨hliteral.1, isWord_hexNet, hliteral.2, hoffset, fun _ h => absurd h List.not_mem_nil⟩

theorem trimSpace_netWords {offset : Text} (hoffset : IsWord offset) :
    trimSpace (' ' :: ' ' :: join [' '] (netWords net offset)) = join [' '] (netWords net offset) := by
  rw [trimSpace_cons rfl, trimSpace_cons rfl, trimSpace_join (isWord_netWords hoffset)]

theorem eq_of_hex_prefix (hnet : net.ip.length = net.mask.length)
    (h : hexString net.ip ++ '/' :: hexString net.mask <+: hexString m.net.ip ++ '/' :: hexString m.net.mask) :
    m.net = net := by
  obtain ⟨t, ht⟩ := h
  rw [List.append_assoc, List.cons_append] at ht
  have hip : net.ip = m.net.ip := by
    have htake := congrArg (List.takeWhile (· ≠ '/')) ht
    rw [takeWhile_ne (slash_not_mem_hexString _), takeWhile_ne (slash_not_mem_hexString _)] at htake
    exact hexString_inj htake
  have hmask : hexString net.mask ++ t = hexString m.net.mask := by
    have hdrop := congrArg (List.dropWhile (· ≠ '/')) ht
    rw [dropWhile_ne (slash_not_mem_hexString _), dropWhile_ne (slash_not_mem_hexString _)] at hdrop
    exact (List.cons.inj hdrop).2
  -- The mask of an address of four bytes has four bytes.
  have hlength : net.mask.length = 4 := by rw [← hnet, hip, m.ip_length]
  have ht : t = [] := by
    have hlen := congrArg List.length hmask
    rw [List.length_append, length_hexString, length_hexString, hlength, m.mask_length] at hlen
    exact List.length_eq_zero_iff.mp (by omega)
  rw [ht, List.append_nil] at hmask
  cases hm : m.net with
  | mk ip mask =>
    rw [hm] at hip hmask
    cases net
    exact congrArg₂ IPNet.mk hip.symm (hexString_inj hmask).symm

theorem contains_netWords (hnet : net.ip.length = net.mask.length) {offset : Text} (hoffset : IsWord offset) :
    contains (join [' '] (netWords m.net offset)) ("match " ++ (hexString net.ip ++ '/' :: hexString net.mask)) = true ↔
      m.net = net := by
  have hspace : ∀ n : IPNet, ' ' ∉ hexString n.ip ++ '/' :: hexString n.mask := fun n => isWord_hexNet.not_space
  rw [contains_iff]
  constructor
  · intro h
    rw [netWords, join_cons_cons, List.append_assoc, List.singleton_append] at h
    rcases @infix_word_append "match" _ "match" _ (by decide) (by decide) h with ⟨-, hprefix⟩ | hrest
    · exact eq_of_hex_prefix m hnet (prefix_of_prefix_join (hspace net) hprefix)
    · -- No other word ends with `match`.
      refine absurd hrest (@not_infix_join "match" _ (by decide) (hspace net) _ ?_ ?_)
      · intro w hw
        exact (isWord_netWords hoffset w (List.mem_cons_of_mem _ hw)).not_space
      · have hhex : ¬"match" <:+ hexString m.net.ip ++ '/' :: hexString m.net.mask :=
          not_suffix_of_not_mem (c := 'm') (by decide) (not_mem_hexNet (fun a => (hexDigit_char a).2.1) (by decide))
        have hat : ¬"match".toList <:+ "at".toList := by decide
        simp only [List.isChain_cons_cons, hhex, hat, false_and, not_false_eq_true, true_and]
        exact List.IsChain.singleton _
  · rintro rfl
    refine ⟨[], ' ' :: join [' '] ["at".toList, offset], ?_⟩
    have hliteral : "match " = "match" ++ [' '] := rfl
    rw [hliteral]
    simp only [netWords, join_cons_cons, List.nil_append, List.append_assoc, List.cons_append]

end

/-! ### Filters for a CIDR -/

/-- What is printed of a filter, or between filters: a line that starts with `filter`, and for a filter another one that
    has the network. -/
structure Printed (spec : Text) (first : Text) (second : Option Text) (matching : Bool) : Prop where
  trimmed : trimSpace first = first
  filter : hasPrefix first "filter" = true
  none : second = none → matching = false
  network : ∀ raw ∈ second, ∃ net offset, raw = ' ' :: ' ' :: join [' '] (netWords net offset) ∧ IsWord offset ∧
    contains (join [' '] (netWords net offset)) spec = matching

section
variable {spec filter first : Text} {second : Option Text} {rest : List Text} {seen : List (Text × Text)}

theorem Printed.ne_nil {matching : Bool} (h : Printed spec first second matching) : first ≠ [] := by
  rintro rfl
  cases h.filter

theorem scanFilters_other (h : Printed spec first second false) :
    scanFilters spec (first :: second.toList ++ rest) filter seen = scanFilters spec rest first seen := by
  rw [List.cons_append, scanFilters, h.trimmed, if_neg h.ne_nil, if_pos h.filter]
  cases hsecond : second with
  | none => rfl
  | some raw =>
    obtain ⟨net, offset, rfl, hoffset, hcontains⟩ := h.network raw hsecond
    have hne : join [' '] (netWords net offset) ≠ [] := List.cons_ne_nil _ _
    have hnot : hasPrefix (join [' '] (netWords net offset)) "filter" = false := rfl
    rw [Option.toList_some, List.singleton_append, scanFilters, trimSpace_netWords hoffset, if_neg hne, hnot,
      if_neg Bool.false_ne_true, hcontains, if_neg Bool.false_ne_true]

theorem scanFilters_matching (h : Printed spec first second true) :
    (classAndHandleMatcher first = none →
      ∃ err, scanFilters spec (first :: second.toList ++ rest) filter seen = .error err) ∧
    ∀ handle class_, classAndHandleMatcher first = some (handle, class_) →
      scanFilters spec (first :: second.toList ++ rest) filter seen = scanFilters spec rest first (seen ++ [(class_, handle)]) := by
  obtain ⟨raw, hsecond⟩ : ∃ raw, second = some raw := by
    refine Option.ne_none_iff_exists'.mp fun hnone => ?_
    cases h.none hnone
  obtain ⟨net, offset, rfl, hoffset, hcontains⟩ := h.network raw hsecond
  have hne : join [' '] (netWords net offset) ≠ [] := List.cons_ne_nil _ _
  have hnot : hasPrefix (join [' '] (netWords net offset)) "filter" = false := rfl
  rw [hsecond, List.cons_append, scanFilters, h.trimmed, if_neg h.ne_nil, if_pos h.filter, Option.toList_some,
    List.singleton_append, scanFilters, trimSpace_netWords hoffset, if_neg hne, hnot, if_neg Bool.false_ne_true, hcontains,
    if_pos rfl]
  constructor
  · intro hread
    rw [hread]
    exact ⟨_, rfl⟩
  · intro handle class_ hread
    rw [hread]

end

section
variable {α : Type} {spec filter : Text} {seen entries : List (Text × Text)} {first : α → Text} {second : α → Option Text}
  {matching : α → Bool}

/-- An entry is made for each filter of the network, in their order, if all of their lines can be read. -/
theorem scanFilters_ok_iff {items : List α} (h : ∀ x ∈ items, Printed spec (first x) (second x) (matching x)) :
    scanFilters spec (items.flatMap fun x => first x :: (second x).toList) filter seen = .ok entries ↔
      ∃ new, entries = seen ++ new ∧
        List.Forall₂ (fun x e => classAndHandleMatcher (first x) = some (e.2, e.1)) (items.filter matching) new := by
  induction items generalizing filter seen with
  | nil =>
    rw [List.flatMap_nil, List.filter_nil, scanFilters]
    constructor
    · intro hok
      exact ⟨[], by rw [List.append_nil]; exact (Except.ok.inj hok).symm, .nil⟩
    · rintro ⟨new, rfl, hnil⟩
      cases hnil
      rw [List.append_nil]
  | cons x items ih =>
    obtain ⟨hx, hitems⟩ := List.forall_mem_cons.mp h
    rw [List.flatMap_cons]
    cases hmatching : matching x with
    | false =>
      rw [hmatching] at hx
      rw [scanFilters_other hx, List.filter_cons_of_neg (by rw [hmatching]; exact Bool.false_ne_true)]
      exact ih hitems
    | true =>
      rw [hmatching] at hx
      obtain ⟨herror, hentry⟩ := scanFilters_matching hx
      rw [List.filter_cons_of_pos hmatching]
      cases hread : classAndHandleMatcher (first x) with
      | none =>
        obtain ⟨err, herr⟩ := herror hread
        rw [herr]
        refine iff_of_false nofun ?_
        rintro ⟨new, -, hnew⟩
        cases hnew with
        | cons hhead _ =>
          rw [hread] at hhead
          cases hhead
      | some read =>
        obtain ⟨handle, class_⟩ := read
        rw [hentry handle class_ hread, ih hitems]
        constructor
        · rintro ⟨new, rfl, hnew⟩
          exact ⟨(class_, handle) :: new, List.append_assoc _ _ _, .cons hread hnew⟩
        · rintro ⟨new, rfl, hnew⟩
          cases hnew with
          | @cons _ e _ new hhead htail =>
            rw [hread] at hhead
            cases Option.some.inj hhead
            exact ⟨new, (List.append_assoc _ [_] _).symm, htail⟩

end

section
variable {version : Version} {net : IPNet} {spec filter : Text} {seen entries : List (Text × Text)}

theorem trimSpace_filterLine (f : U32Filter) :
    trimSpace (filterLine version f.handle f.order f.classid) = filterLine version f.handle f.order f.classid :=
  trimSpace_join (isWord_words version f)

theorem hasPrefix_filterLine (f : U32Filter) :
    hasPrefix (filterLine version f.handle f.order f.classid) "filter".toList = true := by
  cases version <;> rfl

theorem scanFilters_header (lines : List Text) :
    ∃ filter', scanFilters spec (version.header ++ lines) filter seen = scanFilters spec lines filter' seen := by
  cases version <;> exact ⟨_, rfl⟩

/-- An entry is made for each filter of the network, in their order, unless the handle of one is not read at all. -/
theorem scanFilters_ok (hspec : spec = "match " ++ (hexString net.ip ++ '/' :: hexString net.mask))
    (hnet : net.ip.length = net.mask.length) {filters : List U32Filter}
    (h : scanFilters spec (filters.flatMap (U32Filter.lines version)) filter seen = .ok entries) :
    ∃ new, entries = seen ++ new ∧ List.Forall₂ Reads (filters.filter fun f => f.network.net = net) new := by
  have hprinted : ∀ f ∈ filters, Printed spec (filterLine version f.handle f.order f.classid)
      (some (' ' :: ' ' :: matchLine f.network.net f.direction)) (decide (f.network.net = net)) := by
    intro f _
    refine ⟨trimSpace_filterLine f, hasPrefix_filterLine f, nofun, ?_⟩
    rintro _ ⟨⟩
    refine ⟨f.network.net, directionWord f.direction, by rw [matchLine_eq], isWord_directionWord _, ?_⟩
    rw [hspec, Bool.eq_iff_iff, contains_netWords f.network hnet (isWord_directionWord _), decide_eq_true_iff]
  obtain ⟨new, rfl, hnew⟩ := (scanFilters_ok_iff hprinted).mp h
  exact ⟨new, rfl, hnew.imp fun f e => classAndHandleMatcher_filterLine version f⟩

end

end CriDockerd.Bandwidth
