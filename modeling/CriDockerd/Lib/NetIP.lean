import CriDockerd.Lib.Text
import Mathlib.Data.List.TakeWhile

/-! IP addresses as byte lists, with the textual forms of a `net` package: four or sixteen bytes, an
    IPv4 address being also the IPv6 address under `::ffff:0:0/96`. -/

abbrev IP := List UInt8

namespace NetIP
open Text

def v4InV6 : List UInt8 := [0, 0, 0, 0, 0, 0, 0, 0, 0, 0, 0xff, 0xff]

/-- The four-byte form, when the address is an IPv4 one. -/
def to4 (ip : IP) : Option IP :=
  if ip.length = 4 then some ip
  else if ip.length = 16 ∧ ip.take 12 = v4InV6 then some (ip.drop 12)
  else none

/-- The sixteen-byte form; `none` when the bytes are no address. -/
def to16 (ip : IP) : Option IP :=
  if ip.length = 4 then some (v4InV6 ++ ip) else if ip.length = 16 then some ip else none

def isIPv6 (ip : IP) : Bool := (to4 ip).isNone && (to16 ip).isSome

/-! ### Printing -/

def dotted (ip : IP) : Text := join ['.'] (ip.map fun b => itoa b.toNat)

/-- The 16-bit groups of an address. -/
def groups : IP → List Nat
  | a :: b :: rest => (a.toNat * 256 + b.toNat) :: groups rest
  | _ => []

def zerosFrom (gs : List Nat) (i : Nat) : Nat := ((gs.drop i).takeWhile (· == 0)).length

/-- Start and length of the first longest run of at least two zero groups; length 0 when there is none. -/
def longestZeros (gs : List Nat) : Nat × Nat :=
  (List.range gs.length).foldl
    (fun best i => if 2 ≤ zerosFrom gs i ∧ best.2 < zerosFrom gs i then (i, zerosFrom gs i) else best) (0, 0)

def hexGroups (gs : List Nat) : Text := join [':'] (gs.map (Nat.toDigits 16))

def colons (gs : List Nat) : Text :=
  match longestZeros gs with
  | (_, 0) => hexGroups gs
  | (start, length) => hexGroups (gs.take start) ++ ':' :: ':' :: hexGroups (gs.drop (start + length))

def hexByte (b : UInt8) : Text := [(b.toNat / 16).digitChar, (b.toNat % 16).digitChar]

/-- The text of an address: dotted for IPv4, the shortest colon form for IPv6. -/
def ipString (ip : IP) : Text :=
  if ip = [] then "<nil>"
  else match to4 ip, to16 ip with
    | some q, _ => dotted q
    | none, some ip => colons (groups ip)
    | none, none => '?' :: ip.flatMap hexByte

/-- A host and a port; a host with a colon goes in brackets. -/
def joinHostPort (host port : Text) : Text :=
  if ':' ∈ host then '[' :: host ++ ']' :: ':' :: port else host ++ ':' :: port

/-! ### Parsing

`sloppy` accepts leading zeros in decimal fields and any number of them in hexadecimal ones. -/

def isHex (c : Char) : Bool := c.isDigit || ('a' ≤ c && c ≤ 'f') || ('A' ≤ c && c ≤ 'F')

def hexDigit (c : Char) : Nat :=
  if c.isDigit then c.toNat - '0'.toNat
  else if 'a' ≤ c then c.toNat - 'a'.toNat + 10
  else c.toNat - 'A'.toNat + 10

def hexValue (s : Text) : Nat := s.foldl (fun n c => 16 * n + hexDigit c) 0

def parseOctet (sloppy : Bool) (s : Text) : Option UInt8 :=
  if s = [] ∨ s.all Char.isDigit = false then none
  else if sloppy = false ∧ 1 < s.length ∧ s.head? = some '0' then none
  else if Nat.ofDigitChars 10 s 0 ≤ 0xff then some (UInt8.ofNat (Nat.ofDigitChars 10 s 0))
  else none

/-- The four bytes of a dotted address. -/
def parseIPv4 (sloppy : Bool) (s : Text) : Option IP :=
  match split s '.' with
  | [a, b, c, d] => do
    return [← parseOctet sloppy a, ← parseOctet sloppy b, ← parseOctet sloppy c, ← parseOctet sloppy d]
  | _ => none

/-- Reads groups of hexadecimal digits until the text ends. `ip` holds the bytes read so far and
    `ellipsis` the place of `::` among them; `room` groups may still follow. -/
def parseGroups (sloppy : Bool) : (room : Nat) → IP → (ellipsis : Option Nat) → Text → Option (IP × Option Nat)
  | 0, ip, ellipsis, s => if s = [] then some (ip, ellipsis) else none
  | room + 1, ip, ellipsis, s =>
    let digits := s.takeWhile isHex
    let rest := s.dropWhile isHex
    if digits = [] ∨ 0xffff < hexValue digits ∨ sloppy = false ∧ 4 < digits.length then none
    else match rest with
      | [] => some (ip ++ [UInt8.ofNat (hexValue digits / 256), UInt8.ofNat (hexValue digits)], ellipsis)
      | '.' :: _ =>
        -- A dotted address may end the text where four bytes are still missing.
        if ellipsis = none ∧ ip.length ≠ 12 ∨ 16 < ip.length + 4 then none
        else (parseIPv4 sloppy s).map fun q => (ip ++ q, ellipsis)
      | ':' :: more =>
        let ip := ip ++ [UInt8.ofNat (hexValue digits / 256), UInt8.ofNat (hexValue digits)]
        match more with
        | [] => none
        | ':' :: [] => if ellipsis.isSome then none else some (ip, some ip.length)
        | ':' :: after => if ellipsis.isSome then none else parseGroups sloppy room ip (some ip.length) after
        | after => parseGroups sloppy room ip ellipsis after
      | _ => none

/-- Fills the place of `::` with zeros; it must stand for at least one group. -/
def expandEllipsis : IP × Option Nat → Option IP
  | (ip, some k) => if ip.length < 16 then some (ip.take k ++ List.replicate (16 - ip.length) 0 ++ ip.drop k) else none
  | (ip, none) => if ip.length < 16 then none else some ip

def parseIPv6 (sloppy : Bool) (s : Text) : Option IP :=
  match s with
  | [':', ':'] => some (List.replicate 16 0)
  | ':' :: ':' :: rest => parseGroups sloppy 8 [] (some 0) rest >>= expandEllipsis
  | _ => parseGroups sloppy 8 [] none s >>= expandEllipsis

def parseIPWith (sloppy : Bool) (s : Text) : Option IP :=
  match s.find? fun c => c == '.' || c == ':' with
  | some '.' => (parseIPv4 sloppy s).map (v4InV6 ++ ·)
  | some _ => parseIPv6 sloppy s
  | none => none

def parseIP (s : Text) : Option IP := parseIPWith false s

def parseIPSloppy (s : Text) : Option IP := parseIPWith true s

def isIPv6String (s : Text) : Bool := (parseIPSloppy s).any isIPv6

/-! ### What is accepted strictly is accepted sloppily -/

theorem parseOctet_sloppy {s : Text} {b : UInt8} (h : parseOctet false s = some b) : parseOctet true s = some b := by
  unfold parseOctet at h ⊢
  split at h
  · cases h
  rename_i hdigits
  split at h
  · cases h
  rw [if_neg hdigits, if_neg (by simp)]
  exact h

theorem parseIPv4_sloppy {s : Text} {ip : IP} (h : parseIPv4 false s = some ip) : parseIPv4 true s = some ip := by
  unfold parseIPv4 at h ⊢
  split at h
  · simp only [Option.bind_eq_bind, Option.bind_eq_some_iff] at h ⊢
    obtain ⟨a, ha, b, hb, c, hc, d, hd, h⟩ := h
    exact ⟨a, parseOctet_sloppy ha, b, parseOctet_sloppy hb, c, parseOctet_sloppy hc, d, parseOctet_sloppy hd, h⟩
  · cases h

theorem parseGroups_sloppy {room : Nat} {ip : IP} {ellipsis : Option Nat} {s : Text} {r : IP × Option Nat}
    (h : parseGroups false room ip ellipsis s = some r) : parseGroups true room ip ellipsis s = some r := by
  induction room generalizing ip ellipsis s with
  | zero => exact h
  | succ room ih =>
    rw [parseGroups] at h ⊢
    dsimp only at h ⊢
    split at h
    · cases h
    rename_i hdigits
    rw [if_neg fun hor => hdigits (hor.imp_right (Or.imp_right fun h => absurd h.1 (by simp)))]
    split at h
    · exact h
    · split at h
      · cases h
      · rename_i hplace
        rw [if_neg hplace]
        obtain ⟨q, hq, hr⟩ := Option.map_eq_some_iff.mp h
        rw [parseIPv4_sloppy hq, Option.map_some, hr]
    · split at h
      · cases h
      · exact h
      · split at h
        · cases h
        · rename_i hellipsis
          rw [if_neg hellipsis]
          exact ih h
      · exact ih h
    · cases h

theorem parseIPSloppy_of_parseIP {s : Text} {ip : IP} (h : parseIP s = some ip) : parseIPSloppy s = some ip := by
  unfold parseIP parseIPWith at h
  unfold parseIPSloppy parseIPWith
  split at h
  · obtain ⟨q, hq, hr⟩ := Option.map_eq_some_iff.mp h
    rw [parseIPv4_sloppy hq, Option.map_some, hr]
  · unfold parseIPv6 at h ⊢
    split at h
    · exact h
    · obtain ⟨r, hr, h⟩ := Option.bind_eq_some_iff.mp h
      rw [parseGroups_sloppy hr]
      exact h
    · obtain ⟨r, hr, h⟩ := Option.bind_eq_some_iff.mp h
      rw [parseGroups_sloppy hr]
      exact h
  · cases h

/-! ### The characters of addresses -/

/-- A character of a textual address. -/
def IsAddressChar (c : Char) : Prop := isHex c = true ∨ c = '.' ∨ c = ':'

theorem toNat_of_isHex {c : Char} (h : isHex c = true) : 48 ≤ c.toNat ∧ c.toNat ≤ 102 := by
  simp only [isHex, Char.isDigit, Bool.or_eq_true, Bool.and_eq_true, decide_eq_true_eq, Char.le_def,
    UInt32.le_iff_toNat_le] at h
  have hval : c.toNat = c.val.toNat := rfl
  have hdigits : '0'.val.toNat = 48 ∧ '9'.val.toNat = 57 := ⟨rfl, rfl⟩
  have hlower : 'a'.val.toNat = 97 ∧ 'f'.val.toNat = 102 := ⟨rfl, rfl⟩
  have hupper : 'A'.val.toNat = 65 ∧ 'F'.val.toNat = 70 := ⟨rfl, rfl⟩
  omega

theorem isHex_of_isDigit {c : Char} (h : c.isDigit = true) : isHex c = true := by simp [isHex, h]

theorem digitChar_isHex : ∀ d < 16, isHex d.digitChar = true ∧ hexDigit d.digitChar = d := by decide

theorem isHex_of_mem_toDigits {n : Nat} {c : Char} (h : c ∈ Nat.toDigits 16 n) : isHex c = true := by
  induction n using Nat.strongRecOn with
  | ind n ih =>
    rw [Nat.toDigits_eq_if (by decide)] at h
    split at h
    · rw [List.mem_singleton] at h
      exact h ▸ (digitChar_isHex n ‹n < 16›).1
    · rcases List.mem_append.mp h with h | h
      · exact ih (n / 16) (by omega) h
      · rw [List.mem_singleton] at h
        exact h ▸ (digitChar_isHex (n % 16) (Nat.mod_lt n (by decide))).1

theorem isAddressChar_of_mem_dotted {ip : IP} {c : Char} (h : c ∈ dotted ip) : IsAddressChar c := by
  rcases mem_join h with h | ⟨w, hw, hc⟩
  · exact Or.inr (Or.inl (List.mem_singleton.mp h))
  · obtain ⟨b, -, rfl⟩ := List.mem_map.mp hw
    exact Or.inl (isHex_of_isDigit (isDigit_of_mem_itoa hc))

theorem isAddressChar_of_mem_hexGroups {gs : List Nat} {c : Char} (h : c ∈ hexGroups gs) : IsAddressChar c := by
  rcases mem_join h with h | ⟨w, hw, hc⟩
  · exact Or.inr (Or.inr (List.mem_singleton.mp h))
  · obtain ⟨g, -, rfl⟩ := List.mem_map.mp hw
    exact Or.inl (isHex_of_mem_toDigits hc)

theorem isAddressChar_of_mem_ipString {ip : IP} (hip : to16 ip ≠ none) {c : Char} (h : c ∈ ipString ip) :
    IsAddressChar c := by
  have hne : ip ≠ [] := fun hnil => hip (by rw [hnil]; rfl)
  rw [ipString, if_neg hne] at h
  split at h
  · exact isAddressChar_of_mem_dotted h
  · rw [colons] at h
    split at h
    · exact isAddressChar_of_mem_hexGroups h
    · simp only [List.mem_append, List.mem_cons] at h
      rcases h with h | rfl | rfl | h
      · exact isAddressChar_of_mem_hexGroups h
      · exact Or.inr (Or.inr rfl)
      · exact Or.inr (Or.inr rfl)
      · exact isAddressChar_of_mem_hexGroups h
  · rename_i h16
    exact absurd h16 hip

theorem length_to4 {ip q : IP} (h : to4 ip = some q) : q.length = 4 := by
  rw [to4] at h
  split at h
  · cases h
    assumption
  · split at h
    · rename_i h16
      cases h
      rw [List.length_drop, h16.1]
    · cases h

theorem length_to16 {ip b : IP} (h : to16 ip = some b) : b.length = 16 := by
  rw [to16] at h
  split at h
  · rename_i h4
    rw [← Option.some.inj h, List.length_append, h4]
    rfl
  · split at h
    · rw [← Option.some.inj h]
      assumption
    · cases h

theorem hexGroups_ne_nil {gs : List Nat} (h : gs ≠ []) : hexGroups gs ≠ [] := by
  refine join_ne_nil (by simpa using h) (fun w hw => ?_) _
  obtain ⟨g, -, rfl⟩ := List.mem_map.mp hw
  exact Nat.toDigits_ne_nil

theorem ipString_ne_nil (ip : IP) : ipString ip ≠ [] := by
  rw [ipString]
  split
  · decide
  split
  · rename_i q h4
    have hq : q ≠ [] := by
      rintro rfl
      cases length_to4 h4
    refine join_ne_nil (by simpa using hq) (fun w hw => ?_) _
    obtain ⟨b, -, rfl⟩ := List.mem_map.mp hw
    exact itoa_ne_nil _
  · rename_i b _ h16
    rw [colons]
    split
    · refine hexGroups_ne_nil ?_
      match b, length_to16 h16 with
      | _ :: _ :: _, _ => simp [groups]
    · simp
  · simp

theorem isDigit_of_parseOctet {sloppy : Bool} {s : Text} {b : UInt8} (h : parseOctet sloppy s = some b) :
    ∀ c ∈ s, c.isDigit = true := by
  unfold parseOctet at h
  split at h
  · cases h
  · rename_i hs
    simp only [not_or, Bool.not_eq_false, List.all_eq_true] at hs
    exact hs.2

theorem isDigit_or_dot_of_parseIPv4 {sloppy : Bool} {s : Text} {q : IP} (h : parseIPv4 sloppy s = some q) :
    ∀ c ∈ s, c.isDigit = true ∨ c = '.' := by
  intro c hc
  unfold parseIPv4 at h
  split at h
  · rename_i a b d e hsplit
    simp only [bind, Option.bind_eq_some_iff, pure] at h
    obtain ⟨_, ha, _, hb, _, hd, _, he, -⟩ := h
    have hjoin : join ['.'] (split s '.') = s := List.intercalate_splitOn '.'
    rw [← hjoin, hsplit] at hc
    rcases mem_join hc with hdot | ⟨w, hw, hcw⟩
    · exact Or.inr (List.mem_singleton.mp hdot)
    · refine Or.inl ?_
      simp only [List.mem_cons, List.not_mem_nil, or_false] at hw
      rcases hw with rfl | rfl | rfl | rfl
      · exact isDigit_of_parseOctet ha c hcw
      · exact isDigit_of_parseOctet hb c hcw
      · exact isDigit_of_parseOctet hd c hcw
      · exact isDigit_of_parseOctet he c hcw
  · cases h

theorem isAddressChar_of_parseIPv4 {sloppy : Bool} {s : Text} {q : IP} (h : parseIPv4 sloppy s = some q) :
    ∀ c ∈ s, IsAddressChar c := by
  intro c hc
  rcases isDigit_or_dot_of_parseIPv4 h c hc with hdigit | hdot
  · exact Or.inl (isHex_of_isDigit hdigit)
  · exact Or.inr (Or.inl hdot)

theorem isAddressChar_of_takeWhile {s : Text} {c : Char} (h : c ∈ s.takeWhile isHex) : IsAddressChar c :=
  Or.inl (List.mem_takeWhile_imp h)

/-- What follows the digits of a group decides; the digits themselves are hexadecimal. -/
theorem isAddressChar_of_dropWhile {s : Text} (h : ∀ c ∈ s.dropWhile isHex, IsAddressChar c) :
    ∀ c ∈ s, IsAddressChar c := by
  intro c hc
  rw [← List.takeWhile_append_dropWhile (p := isHex) (l := s), List.mem_append] at hc
  rcases hc with hc | hc
  · exact isAddressChar_of_takeWhile hc
  · exact h c hc

theorem isAddressChar_of_parseGroups {sloppy : Bool} :
    ∀ {room : Nat} {ip : IP} {ellipsis : Option Nat} {s : Text} {r : IP × Option Nat},
      parseGroups sloppy room ip ellipsis s = some r → ∀ c ∈ s, IsAddressChar c
  | 0, ip, ellipsis, s, r, h => by
    rw [parseGroups] at h
    split at h
    · rename_i hs
      simp [hs]
    · cases h
  | room + 1, ip, ellipsis, s, r, h => by
    have colon : IsAddressChar ':' := Or.inr (Or.inr rfl)
    rw [parseGroups] at h
    split at h
    · cases h
    · split at h
      · rename_i hrest
        exact isAddressChar_of_dropWhile (by simp [hrest])
      · split at h
        · cases h
        · obtain ⟨q, hq, -⟩ := Option.map_eq_some_iff.mp h
          exact isAddressChar_of_parseIPv4 hq
      · rename_i more hrest
        refine isAddressChar_of_dropWhile ?_
        rw [hrest]
        -- What follows the colon: another colon and the end, another colon and groups, or groups.
        split at h
        · cases h
        · simp [colon]
        · split at h
          · cases h
          · have ih := isAddressChar_of_parseGroups h
            simp only [List.mem_cons, forall_eq_or_imp]
            exact ⟨colon, colon, ih⟩
        · have ih := isAddressChar_of_parseGroups h
          simp only [List.mem_cons, forall_eq_or_imp]
          exact ⟨colon, ih⟩
      · cases h

theorem isAddressChar_of_parseIPv6 {sloppy : Bool} {s : Text} {ip : IP} (h : parseIPv6 sloppy s = some ip) :
    ∀ c ∈ s, IsAddressChar c := by
  have colon : IsAddressChar ':' := Or.inr (Or.inr rfl)
  unfold parseIPv6 at h
  split at h
  · simp [colon]
  · obtain ⟨r, hr, -⟩ := Option.bind_eq_some_iff.mp h
    simp only [List.mem_cons, forall_eq_or_imp]
    exact ⟨colon, colon, isAddressChar_of_parseGroups hr⟩
  · obtain ⟨r, hr, -⟩ := Option.bind_eq_some_iff.mp h
    exact isAddressChar_of_parseGroups hr

theorem isAddressChar_of_parseIPWith {sloppy : Bool} {s : Text} {ip : IP} (h : parseIPWith sloppy s = some ip) :
    ∀ c ∈ s, IsAddressChar c := by
  unfold parseIPWith at h
  split at h
  · obtain ⟨q, hq, -⟩ := Option.map_eq_some_iff.mp h
    exact isAddressChar_of_parseIPv4 hq
  · exact isAddressChar_of_parseIPv6 h
  · cases h

/-! ### Texts that are no addresses -/

theorem parseIPWith_of_no_separator {s : Text} (h : ∀ c ∈ s, c ≠ '.' ∧ c ≠ ':') (sloppy : Bool) :
    parseIPWith sloppy s = none := by
  have hfind : s.find? (fun c => c == '.' || c == ':') = none := by
    rw [List.find?_eq_none]
    intro c hc
    simp [h c hc]
  rw [parseIPWith, hfind]

theorem separator_mem_ipString {ip : IP} (hip : to16 ip ≠ none) : '.' ∈ ipString ip ∨ ':' ∈ ipString ip := by
  have hne : ip ≠ [] := fun hnil => hip (by rw [hnil]; rfl)
  rw [ipString, if_neg hne]
  split
  · rename_i q h4
    match q, length_to4 h4 with
    | [a, b, c, d], _ => exact Or.inl (by simp [dotted])
  · rename_i b _ h16
    right
    rw [colons]
    split
    · match b, length_to16 h16 with
      | _ :: _ :: _ :: _ :: _, _ => simp [groups, hexGroups]
    · simp
  · rename_i h16
    exact absurd h16 hip

theorem parseIPWith_joinHostPort {ip : IP} (hip : to16 ip ≠ none) (port : Text) (sloppy : Bool) :
    parseIPWith sloppy (joinHostPort (ipString ip) port) = none := by
  cases h : parseIPWith sloppy (joinHostPort (ipString ip) port) with
  | none => rfl
  | some x =>
    have hchars := isAddressChar_of_parseIPWith h
    unfold joinHostPort at h hchars
    split at h
    · rename_i hcolon
      rw [if_pos hcolon] at hchars
      rcases hchars '[' (by simp) with h | h | h <;> exact absurd h (by decide)
    · rename_i hcolon
      -- The first separator is a dot, and a dotted address has no colon.
      have hdot := (separator_mem_ipString hip).resolve_right hcolon
      have hfind : (ipString ip ++ ':' :: port).find? (fun c => c == '.' || c == ':') = some '.' := by
        rw [List.find?_append, find?_eq_of_unique rfl hdot, Option.some_or]
        intro d hd hsep
        rcases Bool.or_eq_true_iff.mp hsep with h | h
        · exact eq_of_beq h
        · exact absurd (eq_of_beq h ▸ hd) hcolon
      rw [parseIPWith, hfind] at h
      obtain ⟨q, hq, -⟩ := Option.map_eq_some_iff.mp h
      rcases isDigit_or_dot_of_parseIPv4 hq ':' (by simp) with h | h <;> exact absurd h (by decide)

end NetIP
