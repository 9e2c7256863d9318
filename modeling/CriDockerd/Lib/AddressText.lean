import CriDockerd.Lib.Cidr

/-! The texts of an address and of a network parse to them again. The colon form is taken apart where its `::` stands: on
    either side there are groups, which the parser reads one by one. A sixteen-byte network whose addresses have a dotted
    form is the exception: its text has the dotted address, and too many ones for it. -/

namespace NetIP
open Text

/-! ### Groups and their bytes -/

def groupBytes (g : Nat) : List UInt8 := [UInt8.ofNat (g / 256), UInt8.ofNat g]

def bytes (gs : List Nat) : IP := gs.flatMap groupBytes

theorem bytes_append (gs hs : List Nat) : bytes (gs ++ hs) = bytes gs ++ bytes hs := List.flatMap_append

theorem length_bytes (gs : List Nat) : (bytes gs).length = 2 * gs.length := by
  induction gs with
  | nil => rfl
  | cons g gs ih =>
    rw [bytes, List.flatMap_cons, ← bytes, List.length_append, ih, List.length_cons]
    exact Nat.add_comm 2 _

theorem bytes_replicate_zero (n : Nat) : bytes (List.replicate n 0) = List.replicate (2 * n) 0 := by
  induction n with
  | zero => rfl
  | succ n ih =>
    rw [List.replicate_succ, bytes, List.flatMap_cons, ← bytes, ih]
    rfl

theorem groupBytes_pair (a b : UInt8) : groupBytes (a.toNat * 256 + b.toNat) = [a, b] := by
  have hb := b.toNat_lt
  have hhi : (a.toNat * 256 + b.toNat) / 256 = a.toNat := by omega
  have hlo : UInt8.ofNat (a.toNat * 256 + b.toNat) = b := by
    refine UInt8.toNat_inj.mp ?_
    rw [UInt8.toNat_ofNat']
    omega
  rw [groupBytes, hhi, hlo, UInt8.ofNat_toNat]

theorem length_groups : ∀ ip : IP, (groups ip).length = ip.length / 2
  | [] => rfl
  | [_] => by simp [groups]
  | a :: b :: ip => by
    rw [groups, List.length_cons, length_groups ip, List.length_cons, List.length_cons]
    omega

theorem bytes_groups : ∀ {ip : IP}, ip.length % 2 = 0 → bytes (groups ip) = ip
  | [], _ => rfl
  | a :: b :: ip, h => by
    have heven : ip.length % 2 = 0 := by
      simp only [List.length_cons] at h
      omega
    rw [groups, bytes, List.flatMap_cons, ← bytes, bytes_groups heven, groupBytes_pair]
    rfl

theorem lt_of_mem_groups : ∀ {ip : IP} {g : Nat}, g ∈ groups ip → g < 65536
  | a :: b :: ip, g, h => by
    rcases List.mem_cons.mp h with rfl | h
    · have ha := a.toNat_lt
      have hb := b.toNat_lt
      omega
    · exact lt_of_mem_groups h

/-! ### The longest run of zero groups -/

/-- What the search has found so far: nothing, or a run of at least two zero groups. -/
def IsZeroRun (gs : List Nat) (best : Nat × Nat) : Prop :=
  best = (0, 0) ∨ 2 ≤ best.2 ∧ best.2 = zerosFrom gs best.1

theorem isZeroRun_longestZeros (gs : List Nat) : IsZeroRun gs (longestZeros gs) := by
  refine List.foldlRecOn _ _ (Or.inl rfl) fun best hbest i _ => ?_
  split
  · rename_i hlonger
    exact Or.inr ⟨hlonger.1, rfl⟩
  · exact hbest

theorem zeros_cut {gs : List Nat} {start length : Nat} (h : length = zerosFrom gs start) :
    gs = gs.take start ++ List.replicate length 0 ++ gs.drop (start + length) := by
  have hzeros : (gs.drop start).takeWhile (· == 0) = List.replicate length 0 := by
    refine List.eq_replicate_iff.mpr ⟨h.symm, fun g hg => ?_⟩
    have hzero : (g == 0) = true := List.mem_takeWhile_imp (p := fun x => x == 0) hg
    exact eq_of_beq hzero
  have hcut : gs.drop start = List.replicate length 0 ++ (gs.drop start).dropWhile (· == 0) := by
    rw [← hzeros, List.takeWhile_append_dropWhile]
  have hrest : (gs.drop start).dropWhile (· == 0) = gs.drop (start + length) := by
    rw [← List.drop_drop, hcut, List.drop_left' List.length_replicate, ← hcut]
  rw [List.append_assoc, ← hrest, ← hcut, List.take_append_drop]

/-! ### Reading groups -/

theorem hexValue_toDigits (n : Nat) : hexValue (Nat.toDigits 16 n) = n := by
  induction n using Nat.strongRecOn with
  | ind n ih =>
    rw [Nat.toDigits_eq_if (by decide)]
    split
    · rename_i hlt
      rw [hexValue, List.foldl_cons, List.foldl_nil, (digitChar_isHex n hlt).2, Nat.mul_zero, Nat.zero_add]
    · rw [hexValue, List.foldl_append, ← hexValue, ih (n / 16) (by omega), List.foldl_cons, List.foldl_nil,
        (digitChar_isHex _ (Nat.mod_lt n (by decide))).2]
      omega

section
variable {g room : Nat} {ip : IP} {ellipsis : Option Nat}

/-- The digits of a group are read as the group, and what follows them decides how it goes on. -/
theorem parseGroups_digits (hg : g < 65536) (rest : Text) (hrest : ∀ c ∈ rest.head?, isHex c = false) :
    (Nat.toDigits 16 g ++ rest).takeWhile isHex = Nat.toDigits 16 g ∧
      (Nat.toDigits 16 g ++ rest).dropWhile isHex = rest ∧
      ¬(Nat.toDigits 16 g = [] ∨ 0xffff < g ∨ true = false ∧ 4 < (Nat.toDigits 16 g).length) := by
  refine ⟨takeWhile_append_stop (fun c => isHex_of_mem_toDigits) hrest,
    dropWhile_append_stop (fun c => isHex_of_mem_toDigits) hrest, ?_⟩
  rintro (h | h | h)
  · exact Nat.toDigits_ne_nil h
  · omega
  · cases h.1

theorem parseGroups_last (hg : g < 65536) :
    parseGroups true (room + 1) ip ellipsis (Nat.toDigits 16 g) = some (ip ++ groupBytes g, ellipsis) := by
  obtain ⟨htake, hdrop, hok⟩ := parseGroups_digits hg [] (by simp)
  rw [List.append_nil] at htake hdrop
  rw [parseGroups]
  simp only [htake, hdrop, hexValue_toDigits, if_neg hok]
  rfl

theorem parseGroups_next (hg : g < 65536) {c : Char} (hc : c ≠ ':') (more : Text) :
    parseGroups true (room + 1) ip ellipsis (Nat.toDigits 16 g ++ ':' :: c :: more) =
      parseGroups true room (ip ++ groupBytes g) ellipsis (c :: more) := by
  obtain ⟨htake, hdrop, hok⟩ := parseGroups_digits hg (':' :: c :: more) (by rintro _ ⟨⟩; rfl)
  rw [parseGroups]
  simp only [htake, hdrop, hexValue_toDigits, if_neg hok]
  split
  · rename_i heq
    cases heq
  · rename_i heq
    exact absurd (List.cons.inj heq).1 hc
  · rename_i heq
    exact absurd (List.cons.inj heq).1 hc
  · rfl

theorem parseGroups_ellipsis_last (hg : g < 65536) :
    parseGroups true (room + 1) ip none (Nat.toDigits 16 g ++ [':', ':']) =
      some (ip ++ groupBytes g, some (ip ++ groupBytes g).length) := by
  obtain ⟨htake, hdrop, hok⟩ := parseGroups_digits hg [':', ':'] (by rintro _ ⟨⟩; rfl)
  rw [parseGroups]
  simp only [htake, hdrop, hexValue_toDigits, if_neg hok]
  rfl

theorem parseGroups_ellipsis_next (hg : g < 65536) (c : Char) (more : Text) :
    parseGroups true (room + 1) ip none (Nat.toDigits 16 g ++ ':' :: ':' :: c :: more) =
      parseGroups true room (ip ++ groupBytes g) (some (ip ++ groupBytes g).length) (c :: more) := by
  obtain ⟨htake, hdrop, hok⟩ := parseGroups_digits hg (':' :: ':' :: c :: more) (by rintro _ ⟨⟩; rfl)
  rw [parseGroups]
  simp only [htake, hdrop, hexValue_toDigits, if_neg hok]
  rfl

end

theorem hexGroups_single (g : Nat) : hexGroups [g] = Nat.toDigits 16 g := join_singleton _ _

theorem hexGroups_cons (g h : Nat) (gs : List Nat) :
    hexGroups (g :: h :: gs) = Nat.toDigits 16 g ++ ':' :: hexGroups (h :: gs) := by
  rw [hexGroups, List.map_cons, List.map_cons, join_cons_cons, ← List.map_cons, ← hexGroups,
    List.append_assoc]
  rfl

theorem hexGroups_head {gs : List Nat} (hne : gs ≠ []) : ∃ c t, hexGroups gs = c :: t ∧ isHex c = true := by
  obtain ⟨g, hs, rfl⟩ := List.exists_cons_of_ne_nil hne
  obtain ⟨c, t, hdigits⟩ := List.exists_cons_of_ne_nil (@Nat.toDigits_ne_nil g 16)
  have hc : isHex c = true := isHex_of_mem_toDigits (n := g) (by simp [hdigits])
  cases hs with
  | nil => exact ⟨c, t, by rw [hexGroups_single, hdigits], hc⟩
  | cons h hs => exact ⟨c, t ++ ':' :: hexGroups (h :: hs), by rw [hexGroups_cons, hdigits]; rfl, hc⟩

theorem ne_colon_of_isHex {c : Char} (h : isHex c = true) : c ≠ ':' := by
  rintro rfl
  cases h

theorem parseGroups_hexGroups_cons {g : Nat} (hg : g < 65536) (h : Nat) (gs : List Nat) {room : Nat} {ip : IP}
    {ellipsis : Option Nat} (tail : Text) :
    parseGroups true (room + 1) ip ellipsis (hexGroups (g :: h :: gs) ++ tail) =
      parseGroups true room (ip ++ groupBytes g) ellipsis (hexGroups (h :: gs) ++ tail) := by
  obtain ⟨c, t, hhead, hc⟩ := hexGroups_head (List.cons_ne_nil h gs)
  rw [hexGroups_cons, hhead, List.append_assoc, List.cons_append, List.cons_append,
    parseGroups_next hg (ne_colon_of_isHex hc)]

theorem parseGroups_hexGroups {gs : List Nat} (hne : gs ≠ []) (hlt : ∀ g ∈ gs, g < 65536) {room : Nat}
    (hroom : gs.length ≤ room) (ip : IP) (ellipsis : Option Nat) :
    parseGroups true room ip ellipsis (hexGroups gs) = some (ip ++ bytes gs, ellipsis) := by
  induction gs generalizing room ip with
  | nil => exact absurd rfl hne
  | cons g gs ih =>
    obtain ⟨room, rfl⟩ : ∃ n, room = n + 1 := ⟨room - 1, by rw [List.length_cons] at hroom; omega⟩
    have hg := hlt g List.mem_cons_self
    cases gs with
    | nil =>
      rw [hexGroups_single, parseGroups_last hg, bytes, List.flatMap_singleton]
    | cons h gs =>
      have hstep := @parseGroups_hexGroups_cons g hg h gs room ip ellipsis []
      rw [List.append_nil, List.append_nil] at hstep
      rw [hstep, ih (List.cons_ne_nil h gs) (fun x hx => hlt x (List.mem_cons_of_mem g hx)) (by simpa using hroom),
        List.append_assoc]
      rfl

theorem parseGroups_hexGroups_ellipsis {gs : List Nat} (hne : gs ≠ []) (hlt : ∀ g ∈ gs, g < 65536) {room : Nat}
    (hroom : gs.length ≤ room) (ip : IP) :
    parseGroups true room ip none (hexGroups gs ++ [':', ':']) =
        some (ip ++ bytes gs, some (ip ++ bytes gs).length) ∧
      ∀ c more, parseGroups true room ip none (hexGroups gs ++ ':' :: ':' :: c :: more) =
        parseGroups true (room - gs.length) (ip ++ bytes gs) (some (ip ++ bytes gs).length) (c :: more) := by
  induction gs generalizing room ip with
  | nil => exact absurd rfl hne
  | cons g gs ih =>
    obtain ⟨room, rfl⟩ : ∃ n, room = n + 1 := ⟨room - 1, by rw [List.length_cons] at hroom; omega⟩
    have hg := hlt g List.mem_cons_self
    cases gs with
    | nil =>
      rw [hexGroups_single, bytes, List.flatMap_singleton]
      exact ⟨parseGroups_ellipsis_last hg, parseGroups_ellipsis_next hg⟩
    | cons h gs =>
      have hstep := @parseGroups_hexGroups_cons g hg h gs room ip none
      have hbytes : ip ++ bytes (g :: h :: gs) = ip ++ groupBytes g ++ bytes (h :: gs) := by
        rw [List.append_assoc]
        rfl
      have hlength : room + 1 - (g :: h :: gs).length = room - (h :: gs).length := by
        rw [List.length_cons]
        omega
      obtain ⟨hlast, hnext⟩ := ih (List.cons_ne_nil h gs) (fun x hx => hlt x (List.mem_cons_of_mem g hx))
        (by simpa using hroom) (ip ++ groupBytes g)
      rw [hbytes, hlength]
      exact ⟨(hstep _).trans hlast, fun c more => (hstep _).trans (hnext c more)⟩

/-! ### The colon form -/

theorem parseIPv6_of_isHex {c : Char} (hc : isHex c = true) (t : Text) :
    parseIPv6 true (c :: t) = parseGroups true 8 [] none (c :: t) >>= expandEllipsis := by
  rw [parseIPv6]
  · intro h
    exact ne_colon_of_isHex hc (List.cons.inj h).1
  · intro _ h
    exact ne_colon_of_isHex hc (List.cons.inj h).1

theorem parseIPv6_ellipsis {before after : List Nat} (hbefore : ∀ g ∈ before, g < 65536) (hafter : ∀ g ∈ after, g < 65536)
    (hlength : before.length + after.length < 8) :
    parseIPv6 true (hexGroups before ++ ':' :: ':' :: hexGroups after) =
      some (bytes before ++ List.replicate (16 - 2 * (before.length + after.length)) 0 ++ bytes after) := by
  have hexpand : expandEllipsis (bytes before ++ bytes after, some (bytes before).length) =
      some (bytes before ++ List.replicate (16 - 2 * (before.length + after.length)) 0 ++ bytes after) := by
    have htotal : (bytes before ++ bytes after).length = 2 * (before.length + after.length) := by
      rw [List.length_append, length_bytes, length_bytes]
      omega
    rw [expandEllipsis, if_pos (by omega), List.take_left, List.drop_left, htotal]
  cases before with
  | nil =>
    cases after with
    | nil => rfl
    | cons g after =>
      obtain ⟨c, t, hhead, -⟩ := hexGroups_head (List.cons_ne_nil g after)
      have hroom : (g :: after).length ≤ 8 := (Nat.zero_add _ ▸ hlength).le
      have hparse := parseGroups_hexGroups (List.cons_ne_nil g after) hafter hroom [] (some 0)
      rw [hhead] at hparse ⊢
      exact (congrArg (· >>= expandEllipsis) hparse).trans hexpand
  | cons g before =>
    obtain ⟨c, t, hhead, hc⟩ := hexGroups_head (List.cons_ne_nil g before)
    have hcolon : ∀ tail, parseIPv6 true (hexGroups (g :: before) ++ tail) =
        parseGroups true 8 [] none (hexGroups (g :: before) ++ tail) >>= expandEllipsis := fun tail => by
      rw [hhead]
      exact parseIPv6_of_isHex hc (t ++ tail)
    have hroom : (g :: before).length ≤ 8 := by omega
    obtain ⟨hlast, hnext⟩ := parseGroups_hexGroups_ellipsis (List.cons_ne_nil g before) hbefore hroom []
    rw [hcolon]
    rw [List.nil_append] at hlast hnext
    cases after with
    | nil =>
      have hnothing : bytes (g :: before) ++ bytes [] = bytes (g :: before) := List.append_nil _
      rw [hnothing] at hexpand
      exact (congrArg (· >>= expandEllipsis) hlast).trans hexpand
    | cons h after =>
      obtain ⟨c, t, hhead, -⟩ := hexGroups_head (List.cons_ne_nil h after)
      have hroom : (h :: after).length ≤ 8 - (g :: before).length := by omega
      have hparse := parseGroups_hexGroups (List.cons_ne_nil h after) hafter hroom (bytes (g :: before))
        (some (bytes (g :: before)).length)
      rw [hhead] at hparse ⊢
      rw [hnext, hparse]
      exact hexpand

theorem parseIPv6_hexGroups {gs : List Nat} (hlt : ∀ g ∈ gs, g < 65536) (hlength : gs.length = 8) :
    parseIPv6 true (hexGroups gs) = some (bytes gs) := by
  have hne : gs ≠ [] := by
    rintro rfl
    cases hlength
  obtain ⟨c, t, hhead, hc⟩ := hexGroups_head hne
  have hparse := parseGroups_hexGroups hne hlt hlength.le [] none
  have hfull : ¬(bytes gs).length < 16 := by
    rw [length_bytes]
    omega
  rw [hhead] at hparse ⊢
  rw [parseIPv6_of_isHex hc, hparse]
  exact if_neg hfull

theorem parseIPv6_colons {gs : List Nat} (hlt : ∀ g ∈ gs, g < 65536) (hlength : gs.length = 8) :
    parseIPv6 true (colons gs) = some (bytes gs) := by
  rw [colons]
  split
  · exact parseIPv6_hexGroups hlt hlength
  · rename_i start length hzero heq
    have hrun := isZeroRun_longestZeros gs
    rw [heq] at hrun
    rcases hrun with hnone | ⟨htwo, hzeros⟩
    · exact absurd (congrArg Prod.snd hnone) hzero
    have hcut := zeros_cut hzeros
    -- The three parts make up the eight groups, so at most six stand beside `::`.
    have hcount := congrArg List.length hcut
    simp only [List.length_append, List.length_replicate] at hcount
    rw [parseIPv6_ellipsis (fun g hg => hlt g (List.mem_of_mem_take hg)) (fun g hg => hlt g (List.mem_of_mem_drop hg))
      (by omega)]
    have hfill : 16 - 2 * ((gs.take start).length + (gs.drop (start + length)).length) = 2 * length := by omega
    rw [hfill, ← bytes_replicate_zero, ← bytes_append, ← bytes_append, ← hcut]

/-! ### The dotted form -/

theorem parseOctet_itoa (b : UInt8) : parseOctet true (itoa b.toNat) = some b := by
  have hb := b.toNat_lt
  rw [parseOctet, if_neg, if_neg, ofDigitChars_itoa, if_pos (by omega), UInt8.ofNat_toNat]
  · rintro ⟨h, -⟩
    cases h
  · rintro (h | h)
    · exact itoa_ne_nil _ h
    · rw [all_isDigit_itoa] at h
      cases h

theorem parseIPv4_dotted {q : IP} (h : q.length = 4) : parseIPv4 true (dotted q) = some q := by
  match q, h with
  | [a, b, c, d], _ =>
    have hsplit : split (dotted [a, b, c, d]) '.' =
        [itoa a.toNat, itoa b.toNat, itoa c.toNat, itoa d.toNat] := by
      refine List.splitOn_intercalate '.' ?_ (by simp)
      intro w hw hdot
      obtain ⟨x, -, rfl⟩ := List.mem_map.mp hw
      exact absurd (isDigit_of_mem_itoa hdot) (by decide)
    rw [parseIPv4, hsplit]
    simp only [parseOctet_itoa, bind, Option.bind_some, pure]

/-! ### Which form a text has -/

theorem find?_separator_dotted {q : IP} (h : q.length = 4) :
    (dotted q).find? (fun c => c == '.' || c == ':') = some '.' := by
  match q, h with
  | a :: b :: q, _ =>
    have hdigit : ∀ c ∈ itoa a.toNat, ¬(c == '.' || c == ':') = true := fun c hc hsep => by
      have hc := isDigit_of_mem_itoa hc
      rcases Bool.or_eq_true_iff.mp hsep with h | h
      all_goals
        rw [eq_of_beq h] at hc
        cases hc
    rw [dotted, List.map_cons, List.map_cons, join_cons_cons, List.append_assoc, List.find?_append,
      List.find?_eq_none.mpr hdigit]
    rfl

theorem dot_not_mem_colons (gs : List Nat) : '.' ∉ colons gs := by
  have hgroups : ∀ hs, '.' ∉ hexGroups hs := fun hs hdot => by
    rcases mem_join hdot with h | ⟨w, hw, hc⟩
    · cases List.mem_singleton.mp h
    · obtain ⟨g, -, rfl⟩ := List.mem_map.mp hw
      cases isHex_of_mem_toDigits hc
  rw [colons]
  split
  · exact hgroups gs
  · intro hdot
    simp only [List.mem_append, List.mem_cons] at hdot
    rcases hdot with h | h | h | h
    · exact hgroups _ h
    · cases h
    · cases h
    · exact hgroups _ h

theorem find?_separator_of_no_dot {s : Text} (hdot : '.' ∉ s) (hcolon : ':' ∈ s) :
    s.find? (fun c => c == '.' || c == ':') = some ':' := by
  refine find?_eq_of_unique rfl hcolon fun d hd hsep => ?_
  rcases Bool.or_eq_true_iff.mp hsep with h | h
  · exact absurd (eq_of_beq h ▸ hd) hdot
  · exact eq_of_beq h

/-! ### Addresses -/

theorem ipString_of_to4 {ip q : IP} (h : to4 ip = some q) : ipString ip = dotted q := by
  have hne : ip ≠ [] := by
    rintro rfl
    cases h
  rw [ipString, if_neg hne, h]

theorem ipString_of_length {ip : IP} (hlength : ip.length = 16) (h : to4 ip = none) : ipString ip = colons (groups ip) := by
  have hne : ip ≠ [] := by
    rintro rfl
    cases hlength
  have h16 : to16 ip = some ip := by
    rw [to16, if_neg (by omega), if_pos hlength]
  rw [ipString, if_neg hne, h, h16]

theorem addressBits_ipString_of_to4 {ip q : IP} (h : to4 ip = some q) : addressBits (ipString ip) = 32 := by
  rw [ipString_of_to4 h]
  exact if_pos (find?_separator_dotted (length_to4 h))

theorem parseIPWith_ipString_of_to4 {ip q : IP} (h : to4 ip = some q) :
    parseIPWith true (ipString ip) = some (v4InV6 ++ q) := by
  rw [ipString_of_to4 h, parseIPWith, find?_separator_dotted (length_to4 h), parseIPv4_dotted (length_to4 h)]
  rfl

section
variable {ip : IP} (hlength : ip.length = 16) (h : to4 ip = none)
include hlength h

theorem find?_separator_ipString : (ipString ip).find? (fun c => c == '.' || c == ':') = some ':' := by
  have h16 : to16 ip ≠ none := by
    rw [to16, if_neg (by omega), if_pos hlength]
    exact Option.some_ne_none ip
  have hdot : '.' ∉ ipString ip := by
    rw [ipString_of_length hlength h]
    exact dot_not_mem_colons _
  exact find?_separator_of_no_dot hdot ((separator_mem_ipString h16).resolve_left hdot)

theorem addressBits_ipString : addressBits (ipString ip) = 128 := by
  rw [addressBits, find?_separator_ipString hlength h]
  rfl

theorem parseIPWith_ipString : parseIPWith true (ipString ip) = some ip := by
  have hgroups : (groups ip).length = 8 := by rw [length_groups, hlength]
  have hparse := parseIPv6_colons (fun g => lt_of_mem_groups) hgroups
  rw [bytes_groups (by rw [hlength])] at hparse
  rw [parseIPWith, find?_separator_ipString hlength h, ipString_of_length hlength h]
  exact hparse

end

/-! ### Networks -/

theorem byteBits_ones : ∀ k ≤ 8,
    byteBits (UInt8.ofNat (256 - 2 ^ (8 - k))) = List.replicate k true ++ List.replicate (8 - k) false := by
  decide

theorem bits_cidrMask (ones n : Nat) :
    (cidrMask ones (8 * n)).flatMap byteBits = List.replicate (min ones (8 * n)) true ++ List.replicate (8 * n - ones) false := by
  rw [cidrMask, Nat.mul_div_cancel_left n (by decide)]
  induction n with
  | zero => simp
  | succ n ih =>
    have hbyte : 8 - (ones - 8 * n) = 8 - min (ones - 8 * n) 8 := by omega
    rw [List.range_succ, List.map_append, List.flatMap_append, ih, List.map_singleton, List.flatMap_singleton, hbyte,
      byteBits_ones _ (Nat.min_le_right _ _)]
    rcases Nat.le_total ones (8 * n) with hle | hle
    · -- The mask has ended: a byte without ones follows.
      have hones : min (ones - 8 * n) 8 = 0 := by omega
      have hmin : min ones (8 * (n + 1)) = min ones (8 * n) := by omega
      have hzeros : 8 * (n + 1) - ones = 8 * n - ones + (8 - 0) := by omega
      rw [hones, hmin, hzeros, List.replicate_add, List.append_assoc]
      rfl
    · -- All bytes before are full.
      have hzeros : 8 * n - ones = 0 := by omega
      have hmin : min ones (8 * (n + 1)) = min ones (8 * n) + min (ones - 8 * n) 8 := by omega
      have hrest : 8 * (n + 1) - ones = 8 - min (ones - 8 * n) 8 := by omega
      rw [hzeros, hmin, hrest, List.replicate_add, List.append_assoc, List.append_assoc]
      rfl

theorem simpleMaskLength_cidrMask {ones n : Nat} (h : ones ≤ 8 * n) : simpleMaskLength (cidrMask ones (8 * n)) = some ones := by
  have htrue : ∀ b ∈ List.replicate ones true, id b = true := fun b hb => List.eq_of_mem_replicate hb
  have hfalse : (List.replicate (8 * n - ones) false).dropWhile id = List.replicate (8 * n - ones) false ∧
      (List.replicate (8 * n - ones) false).takeWhile id = [] := by
    cases 8 * n - ones with
    | zero => exact ⟨rfl, rfl⟩
    | succ k => exact ⟨rfl, rfl⟩
  simp only [simpleMaskLength, bits_cidrMask, Nat.min_eq_left h, List.dropWhile_append_of_pos htrue,
    List.takeWhile_append_of_pos htrue, hfalse.1, hfalse.2, List.append_nil, List.length_replicate]
  exact if_pos (List.all_eq_true.mpr fun b hb => by rw [List.eq_of_mem_replicate hb]; rfl)

theorem IsNetwork.simpleMaskLength_eq {net : IPNet} {ones bits : Nat} (h : IsNetwork net ones bits) :
    simpleMaskLength net.mask = some ones := by
  have hones := h.ones_le
  rw [h.mask_eq]
  rcases h.family with rfl | rfl
  · exact @simpleMaskLength_cidrMask ones 4 hones
  · exact @simpleMaskLength_cidrMask ones 16 hones

theorem slash_not_mem_ipString {ip : IP} (hip : to16 ip ≠ none) : '/' ∉ ipString ip := by
  intro hslash
  rcases isAddressChar_of_mem_ipString hip hslash with h | h | h
  · cases h
  · cases h
  · cases h

/-- The text of an address and a number of ones, which has to fit the notation of the address. -/
theorem parseCIDRWith_text {addr : Text} {ip : IP} (hslash : '/' ∉ addr) (hparse : parseIPWith true addr = some ip) (ones : Nat) :
    parseCIDRWith true (addr ++ '/' :: itoa ones) =
      if addressBits addr < ones then none
      else some (ip, { ip := (maskIP ip (cidrMask ones (addressBits addr))).getD []
                       mask := cidrMask ones (addressBits addr) }) := by
  rw [parseCIDRWith, dropWhile_ne hslash, takeWhile_ne hslash]
  simp only [hparse, ofDigitChars_itoa, all_isDigit_itoa, itoa_ne_nil, Bool.true_eq_false, false_or]

variable {net : IPNet} {ones bits : Nat}

theorem IsNetwork.to16_ne_none (h : IsNetwork net ones bits) : to16 net.ip ≠ none := by
  have hlength := h.length_ip
  rw [to16]
  rcases h.family with rfl | rfl
  · rw [if_pos hlength]
    exact Option.some_ne_none _
  · rw [if_neg (by omega), if_pos hlength]
    exact Option.some_ne_none _

theorem IsNetwork.parse_text (h : IsNetwork net ones bits) (hform : bits = 32 ∨ to4 net.ip = none) :
    ∃ ip, parseCIDRWith true (ipString net.ip ++ '/' :: itoa ones) = some (ip, net) := by
  have hslash := slash_not_mem_ipString h.to16_ne_none
  have hones := h.ones_le
  have hmasked := h.masked
  have hmask := h.mask_eq
  have hlength := h.length_ip
  rcases h.family with rfl | rfl
  · have h4 : to4 net.ip = some net.ip := if_pos hlength
    refine ⟨v4InV6 ++ net.ip, ?_⟩
    rw [parseCIDRWith_text hslash (parseIPWith_ipString_of_to4 h4), addressBits_ipString_of_to4 h4, if_neg (by omega),
      maskIP_v4InV6 hlength (length_cidrMask ones 32), ← hmask, hmasked]
    rfl
  · have h4 := hform.resolve_left (by decide)
    refine ⟨net.ip, ?_⟩
    rw [parseCIDRWith_text hslash (parseIPWith_ipString hlength h4), addressBits_ipString hlength h4, if_neg (by omega),
      maskIP_of_length hlength (length_cidrMask ones 128), ← hmask, hmasked]
    rfl

/-- An address that has a dotted form has ones where a mask of at most 32 ones has none. -/
theorem IsNetwork.lt_ones (h : IsNetwork net ones 128) (h4 : to4 net.ip ≠ none) : 32 < ones := by
  refine Nat.lt_of_not_le fun hle => h4 ?_
  have hzero : ∀ n ≤ 32, (cidrMask n 128)[11]? = some 0 := by decide +kernel
  have hbyte : net.ip[11]? ≠ some 0xff := by
    rw [← h.masked, h.mask_eq, List.getElem?_zipWith, hzero ones hle]
    cases net.ip[11]? with
    | none => exact Option.some_ne_none _ ∘ Eq.symm
    | some b => simp
  have hlength := h.length_ip
  rw [to4, if_neg (by omega), if_neg]
  rintro ⟨-, htake⟩
  refine hbyte ?_
  rw [← List.getElem?_take_of_lt (show 11 < 12 by decide), htake]
  rfl

theorem IsNetwork.parse_text_dotted (h : IsNetwork net ones 128) {q : IP} (h4 : to4 net.ip = some q) :
    parseCIDRWith true (ipString net.ip ++ '/' :: itoa ones) = none := by
  have hones := h.lt_ones (by rw [h4]; exact Option.some_ne_none q)
  rw [parseCIDRWith_text (slash_not_mem_ipString h.to16_ne_none) (parseIPWith_ipString_of_to4 h4),
    addressBits_ipString_of_to4 h4, if_pos hones]

end NetIP
