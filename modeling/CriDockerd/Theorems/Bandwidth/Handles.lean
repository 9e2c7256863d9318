import CriDockerd.Bandwidth.Listing
import CriDockerd.Theorems.Bandwidth.Changes

/-! What the shaper reads from a list of filters, for all handles and flow IDs that `tc` can print. They are hexadecimal,
    and the shaper reads them as decimal: a letter ends what is read, and another filter may have what is left for its
    handle. -/

namespace CriDockerd.Bandwidth
open Text NetIP

def matching (net : IPNet) (list : List Listed) : List ListedFilter :=
  (list.filterMap Listed.filter?).filter fun f => f.network.net = net

def deletions (fs : List ListedFilter) : List Command :=
  fs.flatMap fun f => [.filterDel f.handle.text, .classDel f.flowid.text]

/-- The filters of a CIDR are found, with the handles and the flow IDs that `tc` has printed, and `Reset` deletes them and
    no others. -/
structure FindsExactly (version : Version) (list : List Listed) (cidr : Text) (net : IPNet) : Prop where
  found : findCIDRClassIn cidr (list.flatMap (Listed.lines version)) =
    .ok ((matching net list).map fun f => (f.flowid.text, f.handle.text))
  deleted : ∀ env iface w, ∃ issued : List (Command × Bool),
    (resetFrom env iface cidr (list.flatMap (Listed.lines version)) w).2.log = w.log ++ issued ∧
    issued.map (·.1) <+: deletions (matching net list) ∧
    ((resetFrom env iface cidr (list.flatMap (Listed.lines version)) w).1 = none →
      issued.map (·.1) = deletions (matching net list))

/-- The hexadecimal digits of a number are all decimal ones. -/
def DecimalHex (n : Nat) : Prop := ∀ c ∈ hex n, c.isDigit = true

instance instDecidableDecimalHex (n : Nat) : Decidable (DecimalHex n) :=
  inferInstanceAs (Decidable (∀ c ∈ hex n, c.isDigit = true))

/-- The handle and the flow ID of a filter are such that they can be read as decimal numbers. -/
structure ListedFilter.Decimal (f : ListedFilter) : Prop where
  table : DecimalHex f.handle.table
  bucket : f.handle.bucket = 0
  node : DecimalHex f.handle.node
  major_pos : 0 < f.flowid.major
  major : DecimalHex f.flowid.major
  minor_pos : 0 < f.flowid.minor
  minor : DecimalHex f.flowid.minor

/-! ### Texts -/

section
variable {n : Nat}

theorem hex_ne_nil (n : Nat) : hex n ≠ [] := Nat.toDigits_ne_nil

theorem isHex_of_mem_hex {c : Char} (h : c ∈ hex n) : isHex c = true := isHex_of_mem_toDigits h

theorem colon_not_mem_hex (n : Nat) : ':' ∉ hex n := fun h => by cases isHex_of_mem_hex h

theorem colon_not_mem_hexOr (n : Nat) : ':' ∉ hexOr n := fun h => by cases isHex_of_mem_hexOr h

theorem hexOr_eq_nil_iff : hexOr n = [] ↔ n = 0 := by
  unfold hexOr
  split
  · next h => exact iff_of_true rfl h
  · next h => exact iff_of_false (hex_ne_nil n) h

theorem plain_hex (n : Nat) : Plain (hex n) := plain_of_chars (hex_ne_nil n) fun _ hc => .inl (isHex_of_mem_hex hc)

theorem plain_handleText (h : Handle) : Plain h.text := by
  refine plain_of_chars (by simp [Handle.text]) fun c hc => ?_
  simp only [Handle.text, List.mem_append, List.mem_cons] at hc
  rcases hc with hc | rfl | hc | rfl | hc
  · exact .inl (isHex_of_mem_hex hc)
  · exact .inr rfl
  · exact .inl (isHex_of_mem_hexOr hc)
  · exact .inr rfl
  · exact .inl (isHex_of_mem_hex hc)

theorem plain_flowidText (f : FlowID) : Plain f.text := by
  refine plain_of_chars (by simp [FlowID.text]) fun c hc => ?_
  simp only [FlowID.text, List.mem_append, List.mem_cons] at hc
  rcases hc with hc | rfl | hc
  · exact .inl (isHex_of_mem_hexOr hc)
  · exact .inr rfl
  · exact .inl (isHex_of_mem_hexOr hc)

theorem eq_of_append_cons_eq {sep : Char} {a b x y : Text} (ha : sep ∉ a) (hx : sep ∉ x)
    (h : a ++ sep :: b = x ++ sep :: y) : a = x ∧ b = y := by
  have htake := congrArg (List.takeWhile (· ≠ sep)) h
  have hdrop := congrArg (List.dropWhile (· ≠ sep)) h
  rw [takeWhile_ne ha, takeWhile_ne hx] at htake
  rw [dropWhile_ne ha, dropWhile_ne hx] at hdrop
  exact ⟨htake, (List.cons.inj hdrop).2⟩

theorem colon_not_mem_digits {a : Text} (h : ∀ c ∈ a, c.isDigit = true) : ':' ∉ a := fun hc => by cases h _ hc

end

/-! ### Lines -/

section
variable (version : Version) (f : ListedFilter)

theorem decimal_of_matched (h : classAndHandleMatcher (join [' '] (f.words version)) = some (f.handle.text, f.flowid.text)) :
    f.Decimal := by
  obtain ⟨⟨rest, hread⟩, hflowid⟩ := classAndHandleMatcher_sound (plain_handleText f.handle) (plain_itoa _) (plain_hex _)
    (plain_hex _) (plain_flowidText f.flowid) h
  obtain ⟨-, s, node, after, -, -, -, -, hnode, hhandle⟩ := matchHandle_eq_some hread
  obtain ⟨s', minor, after', -, hmajorNe, -, hminorNe, hminor, hflow⟩ := matchFlowid_eq_some hflowid
  have hdigits : ∀ t : Text, ∀ c ∈ t.takeWhile Char.isDigit, c.isDigit = true := fun t c => List.mem_takeWhile_imp
  rw [List.append_assoc] at hhandle hflow
  obtain ⟨htable, hrest⟩ := eq_of_append_cons_eq (colon_not_mem_hex _) (colon_not_mem_digits (hdigits s)) hhandle
  obtain ⟨hbucket, hnode'⟩ := eq_of_append_cons_eq (colon_not_mem_hexOr _) List.not_mem_nil hrest
  obtain ⟨hmajor, hminor'⟩ := eq_of_append_cons_eq (colon_not_mem_hexOr _) (colon_not_mem_digits (hdigits s')) hflow
  have hminor' : hexOr f.flowid.minor = minor := hminor'
  have hpos : ∀ {n : Nat}, hexOr n ≠ [] → 0 < n ∧ hexOr n = hex n := by
    intro n hne
    have hn : n ≠ 0 := fun h => hne (hexOr_eq_nil_iff.mpr h)
    exact ⟨Nat.pos_of_ne_zero hn, if_neg hn⟩
  obtain ⟨hmajorPos, hmajorHex⟩ := hpos (hmajor ▸ hmajorNe)
  obtain ⟨hminorPos, hminorHex⟩ := hpos (hminor' ▸ hminorNe)
  refine ⟨?_, hexOr_eq_nil_iff.mp hbucket, ?_, hmajorPos, ?_, hminorPos, ?_⟩
  · unfold DecimalHex
    rw [htable]
    exact hdigits s
  · unfold DecimalHex
    rw [hnode', hnode]
    exact hdigits after
  · unfold DecimalHex
    rw [← hmajorHex, hmajor]
    exact hdigits s'
  · unfold DecimalHex
    rw [← hminorHex, hminor', hminor]
    exact hdigits after'

theorem matchHandle_digits {a b : Text} (haNe : a ≠ []) (ha : ∀ c ∈ a, c.isDigit = true) (hbNe : b ≠ [])
    (hb : ∀ c ∈ b, c.isDigit = true) (rest : Text) :
    matchHandle ("fh" ++ ' ' :: (a ++ ("::" ++ (b ++ ' ' :: rest)))) =
      some (a ++ "::" ++ b, ' ' :: rest) := by
  have hspace : ∀ c ∈ (' ' :: rest).head?, c.isDigit = false := by rintro _ ⟨⟩; rfl
  have hcolon : ∀ c ∈ ("::" ++ (b ++ ' ' :: rest)).head?, c.isDigit = false := by rintro _ ⟨⟩; rfl
  have hliteral : matchLiteral "fh " ("fh" ++ ' ' :: (a ++ ("::" ++ (b ++ ' ' :: rest)))) =
      some (a ++ ("::" ++ (b ++ ' ' :: rest))) := matchLiteral_append "fh " _
  simp only [matchHandle, bind, pure, hliteral, Option.bind_some, matchDigits_of_ne_nil haNe (takeWhile_append_stop ha hcolon),
    dropWhile_append_stop ha hcolon, matchLiteral_append, matchDigits_of_ne_nil hbNe (takeWhile_append_stop hb hspace),
    dropWhile_append_stop hb hspace]

theorem matchFlowid_digits {a b tail : Text} (haNe : a ≠ []) (ha : ∀ c ∈ a, c.isDigit = true) (hbNe : b ≠ [])
    (hb : ∀ c ∈ b, c.isDigit = true) (htail : ∀ c ∈ tail.head?, c.isDigit = false) :
    matchFlowid ("flowid" ++ ' ' :: (a ++ (":" ++ (b ++ tail)))) = some (a ++ ":" ++ b) := by
  have hcolon : ∀ c ∈ (":" ++ (b ++ tail)).head?, c.isDigit = false := by rintro _ ⟨⟩; rfl
  have hliteral : matchLiteral "flowid " ("flowid" ++ ' ' :: (a ++ (":" ++ (b ++ tail)))) =
      some (a ++ (":" ++ (b ++ tail))) := matchLiteral_append "flowid " _
  simp only [matchFlowid, bind, pure, hliteral, Option.bind_some, matchDigits_of_ne_nil haNe (takeWhile_append_stop ha hcolon),
    dropWhile_append_stop ha hcolon, matchLiteral_append, matchDigits_of_ne_nil hbNe (takeWhile_append_stop hb htail)]

theorem suffix_join_append (before : List Text) {w : Text} {after : List Text} :
    join [' '] (w :: after) <:+ join [' '] (before ++ w :: after) := by
  induction before with
  | nil => exact List.suffix_rfl
  | cons v before ih =>
    obtain ⟨x, ws, heq⟩ := List.exists_cons_of_ne_nil (show before ++ w :: after ≠ [] by simp)
    rw [List.cons_append, heq, join_cons_cons, ← heq]
    exact ih.trans (List.suffix_append _ _)

theorem matchHandle_of_decimal (h : f.Decimal) (rest : Text) :
    matchHandle ("fh" ++ ' ' :: (f.handle.text ++ ' ' :: rest)) = some (f.handle.text, ' ' :: rest) := by
  have hhandle : f.handle.text = hex f.handle.table ++ "::" ++ hex f.handle.node := by
    rw [Handle.text, hexOr, if_pos h.bucket]
    simp
  rw [hhandle, List.append_assoc, List.append_assoc]
  exact matchHandle_digits (hex_ne_nil _) h.table (hex_ne_nil _) h.node rest

theorem matchFlowid_of_decimal (h : f.Decimal) :
    matchFlowid ("flowid" ++ ' ' :: join [' '] (f.flowid.text :: version.tail)) = some f.flowid.text := by
  have hflowid : f.flowid.text = hex f.flowid.major ++ ":" ++ hex f.flowid.minor := by
    rw [FlowID.text, hexOr, if_neg (Nat.ne_of_gt h.major_pos), hexOr, if_neg (Nat.ne_of_gt h.minor_pos)]
    simp
  have htail : ∀ c ∈ (version.tail.flatMap fun w => ' ' :: w).head?, c.isDigit = false := by
    cases version with
    | old => rintro c ⟨⟩
    | new =>
      rintro c ⟨⟩
      rfl
  have hjoin : join [' '] (f.flowid.text :: version.tail) =
      hex f.flowid.major ++ (":" ++ (hex f.flowid.minor ++ version.tail.flatMap fun w => ' ' :: w)) := by
    rw [hflowid]
    cases version <;> simp [Version.tail]
  rw [hjoin, hflowid]
  exact matchFlowid_digits (hex_ne_nil _) h.major (hex_ne_nil _) h.minor htail

theorem matched_of_decimal (h : f.Decimal) :
    classAndHandleMatcher (join [' '] (f.words version)) = some (f.handle.text, f.flowid.text) := by
  generalize hrest : join [' '] ("order" :: itoa f.handle.node :: "key" :: "ht" :: hex f.handle.table ::
    "bkt" :: hex f.handle.bucket :: "flowid" :: f.flowid.text :: version.tail) = rest
  have hreadHandle := matchHandle_of_decimal f h rest
  have hreadFlowid := matchFlowid_of_decimal version f h
  -- The flow ID comes after the handle, so that there is a match; and what is matched is these two words.
  have hafter : "flowid".toList ++ ' ' :: join [' '] (f.flowid.text :: version.tail) <:+ ' ' :: rest := by
    have hsuffix := @suffix_join_append ["order".toList, itoa f.handle.node, "key", "ht", hex f.handle.table,
      "bkt", hex f.handle.bucket] "flowid" (f.flowid.text :: version.tail)
    rw [join_cons_cons, List.append_assoc, List.singleton_append] at hsuffix
    rw [← hrest]
    exact hsuffix.trans (List.suffix_cons _ _)
  obtain ⟨c, hc⟩ := lastMatch_isSome hafter hreadFlowid
  obtain ⟨p, hline⟩ : ∃ p, join [' '] (f.words version) =
      "filter parent 1:" ++ (p ++ ("fh" ++ ' ' :: (f.handle.text ++ ' ' :: rest))) := by
    rw [← hrest]
    cases version
    · exact ⟨" protocol ip pref 1 u32 ", rfl⟩
    · exact ⟨" protocol ip pref 1 u32 chain 0 ", rfl⟩
  obtain ⟨⟨handle, flowid⟩, hfound⟩ : ∃ r, classAndHandleMatcher (join [' '] (f.words version)) = some r := by
    rw [hline]
    refine Exists.imp (fun r => firstMatch_of_match) ?_
    simp only [bind, matchLiteral_append, Option.bind_some]
    refine lastMatch_isSome (a := (f.handle.text, c)) (List.suffix_append p _) ?_
    simp only [pure, hreadHandle, hc, Option.bind_some]
  obtain ⟨⟨rest', hread⟩, hflow⟩ := classAndHandleMatcher_sound (plain_handleText f.handle) (plain_itoa _) (plain_hex _)
    (plain_hex _) (plain_flowidText f.flowid) hfound
  rw [hrest, hreadHandle] at hread
  rw [hreadFlowid] at hflow
  cases hread
  cases hflow
  exact hfound

theorem matched_iff :
    classAndHandleMatcher (join [' '] (f.words version)) = some (f.handle.text, f.flowid.text) ↔ f.Decimal :=
  ⟨decimal_of_matched version f, matched_of_decimal version f⟩

end

/-! ### Lists -/

section
variable {version : Version} {net : IPNet} {cidr : Text} {list : List Listed}

/-- The line that something in a list starts with. -/
def Listed.first (version : Version) : Listed → Text
  | .preference => join [' '] filterWords
  | .table number divisor =>
    join [' '] (version.head ++ ["fh".toList, hex number ++ [':'], "ht".toList, "divisor".toList, itoa divisor])
  | .filter f => join [' '] (f.words version)

def Listed.second : Listed → Option Text
  | .filter f => some (' ' :: ' ' :: join [' '] f.matchWords)
  | _ => none

theorem Listed.lines_eq (x : Listed) : x.lines version = x.first version :: x.second.toList := by
  cases x <;> rfl

theorem Listed.printed (hnet : net.ip.length = net.mask.length) (x : Listed) :
    Printed ("match " ++ (hexString net.ip ++ '/' :: hexString net.mask)) (x.first version) x.second
      (x.filter?.any fun f => f.network.net = net) := by
  have hhead : ∀ w ∈ version.head, IsWord w := by cases version <;> decide
  cases x with
  | preference => exact ⟨trimSpace_join (by decide), rfl, fun _ => rfl, nofun⟩
  | table number divisor =>
    have hnumber : IsWord (hex number ++ [':']) := (plain_hex number).isWord.append (by decide)
    have hliteral : IsWord "fh" ∧ IsWord "ht" ∧ IsWord "divisor" := by decide
    obtain ⟨hfh, hht, hdivisor⟩ := hliteral
    refine ⟨trimSpace_join ?_, by cases version <;> rfl, fun _ => rfl, nofun⟩
    simp only [List.forall_mem_append, List.forall_mem_cons]
    exact ⟨hhead, hfh, hnumber, hht, hdivisor, isWord_itoa _, fun _ hw => absurd hw List.not_mem_nil⟩
  | filter f =>
    have hwords : ∀ w ∈ f.words version, IsWord w := isWord_lineWords (plain_handleText f.handle) (plain_itoa _)
      (plain_hex _) (plain_hex _) (plain_flowidText f.flowid)
    refine ⟨trimSpace_join hwords, by cases version <;> rfl, nofun, ?_⟩
    rintro _ ⟨⟩
    refine ⟨f.network.net, itoa f.offset, rfl, isWord_itoa _, ?_⟩
    rw [Bool.eq_iff_iff, contains_netWords f.network hnet (isWord_itoa _)]
    exact decide_eq_true_iff.symm

theorem filter_eq_matching (net : IPNet) (list : List Listed) :
    (list.filter fun x => x.filter?.any fun f => f.network.net = net) = (matching net list).map .filter := by
  induction list with
  | nil => rfl
  | cons x list ih =>
    unfold matching at ih ⊢
    cases x with
    | preference => exact ih
    | table number divisor => exact ih
    | filter f =>
      have hfilter : (Listed.filter f).filter? = some f := rfl
      rw [List.filter_cons, List.filterMap_cons_some hfilter, List.filter_cons, hfilter, Option.any_some, ih]
      split
      · rfl
      · rfl

theorem findCIDRClassIn_eq_iff {ip : IP} (hparse : parseCIDRSloppy cidr = some (ip, net)) :
    findCIDRClassIn cidr (list.flatMap (Listed.lines version)) =
        .ok ((matching net list).map fun f => (f.flowid.text, f.handle.text)) ↔
      ∀ f ∈ matching net list, f.Decimal := by
  obtain ⟨-, ones, bits, hnet⟩ := parseCIDRWith_net hparse
  have hlines : list.flatMap (Listed.lines version) = list.flatMap fun x => x.first version :: x.second.toList := by
    congr 1
    funext x
    exact x.lines_eq
  rw [findCIDRClassIn, hexCIDR_eq hparse]
  dsimp only
  rw [hlines, scanFilters_ok_iff fun x _ => Listed.printed hnet.length_eq x, filter_eq_matching]
  simp only [List.nil_append, exists_eq_left', List.forall₂_map_left_iff, List.forall₂_map_right_iff, List.forall₂_same]
  exact forall₂_congr fun f _ => matched_iff version f

theorem resetAll_issues (env : Env) (found : List (Text × Text)) (w : World) :
    ∃ issued : List (Command × Bool), (resetAll env found w).2.log = w.log ++ issued ∧
      issued.map (·.1) <+: (found.flatMap fun e => [.filterDel e.2, .classDel e.1]) ∧
      ((resetAll env found w).1 = none → issued.map (·.1) = found.flatMap fun e => [.filterDel e.2, .classDel e.1]) := by
  induction found generalizing w with
  | nil => exact ⟨[], (List.append_nil _).symm, List.prefix_rfl, fun _ => rfl⟩
  | cons e found ih =>
    obtain ⟨class_, handle⟩ := e
    rcases @resetAll_cons_cases env class_ handle found w with ⟨err, hreset⟩ | ⟨-, ⟨err, hreset⟩ | hreset⟩
    · rw [hreset]
      exact ⟨[(.filterDel handle, false)], rfl, ⟨_, rfl⟩, nofun⟩
    · rw [hreset]
      exact ⟨[(.filterDel handle, true), (.classDel class_, false)], by simp, ⟨_, rfl⟩, nofun⟩
    · rw [hreset]
      obtain ⟨issued, hlog, hissued, hall⟩ := ih _
      refine ⟨(.filterDel handle, true) :: (.classDel class_, true) :: issued, ?_, ?_, fun hnone => ?_⟩
      · rw [hlog]
        simp
      · rw [List.flatMap_cons]
        exact (List.prefix_append_right_inj [.filterDel handle, .classDel class_]).mpr hissued
      · rw [List.flatMap_cons, ← hall hnone]
        rfl

theorem resetFrom_issues {fs : List ListedFilter} {data : List Text}
    (h : findCIDRClassIn cidr data = .ok (fs.map fun f => (f.flowid.text, f.handle.text))) (env : Env) (iface : Text) (w : World) :
    ∃ issued : List (Command × Bool), (resetFrom env iface cidr data w).2.log = w.log ++ issued ∧
      issued.map (·.1) <+: deletions fs ∧ ((resetFrom env iface cidr data w).1 = none → issued.map (·.1) = deletions fs) := by
  unfold resetFrom
  rw [h]
  cases fs with
  | nil => exact ⟨[], (List.append_nil _).symm, List.prefix_rfl, fun _ => rfl⟩
  | cons f fs =>
    have hdeletions : deletions (f :: fs) =
        (((f :: fs).map fun f => (f.flowid.text, f.handle.text)).flatMap fun e => [.filterDel e.2, .classDel e.1]) := by
      rw [List.flatMap_map]
      rfl
    rw [hdeletions]
    exact resetAll_issues env _ w

end

/-- The filters of a CIDR are found with the handles and the flow IDs that `tc` has printed, and are deleted by
    `Reset`, if and only if these are all decimal. -/
theorem findsExactly_iff (version : Version) (list : List Listed) {cidr : Text} {ip : IP} {net : IPNet}
    (hparse : parseCIDRSloppy cidr = some (ip, net)) :
    FindsExactly version list cidr net ↔ ∀ f ∈ matching net list, f.Decimal := by
  rw [← findCIDRClassIn_eq_iff hparse]
  exact ⟨fun h => h.found, fun h => ⟨h, resetFrom_issues h⟩⟩

def hostNet (host : UInt8) : IPNet := ⟨[10, 0, 0, host], [255, 255, 255, 255]⟩

def hostFilter (host : UInt8) (node : Nat) (hnode : 0 < node) (minor : Nat) : ListedFilter where
  handle := ⟨0x800, 0, node, by decide, hnode⟩
  flowid := ⟨1, minor, .inl Nat.one_pos⟩
  network := ⟨hostNet host, rfl, rfl⟩
  offset := 16

theorem findsExactly_iff_first :
    FindsExactly .new [.preference, .table 0x800 1, .filter (hostFilter 1 0x800 (by decide) 1)] "10.0.0.1/32" (hostNet 1) := by
  refine (findsExactly_iff .new _
    (show parseCIDRSloppy "10.0.0.1/32" = some (v4InV6 ++ [10, 0, 0, 1], hostNet 1) by decide +kernel)).mpr fun f hf => ?_
  obtain rfl : f = hostFilter 1 0x800 (by decide) 1 := List.mem_singleton.mp hf
  exact ⟨by decide, rfl, by decide, by decide, by decide, by decide, by decide⟩

/-- The eleventh filter, and one of another address whose handle is read for it. -/
def elevenFilters : List Listed :=
  [.preference, .table 0x800 1, .filter (hostFilter 1 0x80a (by decide) 0x11), .filter (hostFilter 2 0x80 (by decide) 0x12)]

/-- The handle of a filter is cut off at a letter, and the filter of another CIDR is deleted. -/
theorem findCIDRClassIn_truncated :
    (hostFilter 1 0x80a (by decide) 0x11).handle.text = "800::80a" ∧
      (hostFilter 2 0x80 (by decide) 0x12).handle.text = "800::80" ∧
      findCIDRClassIn "10.0.0.1/32" (elevenFilters.flatMap (Listed.lines .new)) =
        .ok [("1:11", "800::80")] ∧
      (resetFrom ⟨linuxTc .new, fun _ _ => none⟩ "cbr0" "10.0.0.1/32" (elevenFilters.flatMap (Listed.lines .new))
        ⟨⟨[], []⟩, []⟩).2.log.map (·.1) = [.filterDel "800::80"] ∧
      ¬FindsExactly .new elevenFilters "10.0.0.1/32" (hostNet 1) := by
  have hfound : findCIDRClassIn "10.0.0.1/32" (elevenFilters.flatMap (Listed.lines .new)) =
      .ok [("1:11", "800::80")] := by decide +kernel
  refine ⟨by decide, by decide, hfound, by decide +kernel, fun h => ?_⟩
  have hexact := h.found
  rw [hfound] at hexact
  revert hexact
  decide +kernel

end CriDockerd.Bandwidth
