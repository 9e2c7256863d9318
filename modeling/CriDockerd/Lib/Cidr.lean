import CriDockerd.Lib.NetIP
import Mathlib.Algebra.Group.Nat.Defs

/-! Networks in CIDR notation: an address and a mask of as many bytes, with their textual form. -/

structure IPNet where
  ip : IP
  mask : List UInt8
  deriving DecidableEq, Repr

namespace NetIP
open Text

/-- The mask of `bits` bits that starts with `ones` ones. -/
def cidrMask (ones bits : Nat) : List UInt8 :=
  (List.range (bits / 8)).map fun i => UInt8.ofNat (256 - 2 ^ (8 - (ones - 8 * i)))

/-- An address under a mask, none if they are of different lengths; the mask may be one for the four-byte form. -/
def maskIP (ip : IP) (mask : List UInt8) : Option IP :=
  let mask := if mask.length = 16 ∧ ip.length = 4 ∧ mask.take 12 = List.replicate 12 0xff then mask.drop 12 else mask
  let ip := if mask.length = 4 ∧ ip.length = 16 ∧ ip.take 12 = v4InV6 then ip.drop 12 else ip
  if ip.length = mask.length then some (List.zipWith (· &&& ·) ip mask) else none

/-- The number of bits of an address is told by its notation. -/
def addressBits (s : Text) : Nat := if s.find? (fun c => c == '.' || c == ':') = some '.' then 32 else 128

/-- The address and the network of a text `address/ones`. -/
def parseCIDRWith (sloppy : Bool) (s : Text) : Option (IP × IPNet) :=
  match s.dropWhile (· ≠ '/') with
  | [] => none
  | _ :: length =>
    let addr := s.takeWhile (· ≠ '/')
    match parseIPWith sloppy addr with
    | none => none
    | some ip =>
      if length = [] ∨ length.all Char.isDigit = false ∨ addressBits addr < Nat.ofDigitChars 10 length 0 then none
      else
        let mask := cidrMask (Nat.ofDigitChars 10 length 0) (addressBits addr)
        some (ip, { ip := (maskIP ip mask).getD [], mask })

def parseCIDR (s : Text) : Option (IP × IPNet) := parseCIDRWith false s

def parseCIDRSloppy (s : Text) : Option (IP × IPNet) := parseCIDRWith true s

/-- The bits of a byte, the highest first. -/
def byteBits (b : UInt8) : List Bool := (List.range 8).map fun i => b.toNat.testBit (7 - i)

/-- The number of ones that a mask starts with, if only zeros follow. -/
def simpleMaskLength (mask : List UInt8) : Option Nat :=
  let bits := mask.flatMap byteBits
  if (bits.dropWhile id).all (!·) then some (bits.takeWhile id).length else none

def hexString (bytes : List UInt8) : Text := bytes.flatMap hexByte

/-- The number of a byte, with the character that it is in Latin-1 if that can be printed. -/
def byteName (b : UInt8) : Text :=
  let printable := 0x20 ≤ b ∧ b < 0x7f ∨ 0xa1 ≤ b ∧ b ≠ 0xad
  "U+00" ++ (hexByte b).map Char.toUpper ++
    if printable then [' ', '\'', Char.ofNat b.toNat, '\''] else []

/-- The error at a character that is no hexadecimal digit; it names the first byte of the character. -/
def invalidByte (c : Char) : Text :=
  "encoding/hex: invalid byte: " ++ byteName ((String.utf8EncodeChar c).headD 0)

/-- The bytes of a hexadecimal text, or the message of an error. -/
def decodeString : Text → Except Text (List UInt8)
  | [] => .ok []
  | [p] => .error (if isHex p then "encoding/hex: odd length hex string" else invalidByte p)
  | p :: q :: rest =>
    if isHex p = false then .error (invalidByte p)
    else if isHex q = false then .error (invalidByte q)
    else (decodeString rest).map (UInt8.ofNat (16 * hexDigit p + hexDigit q) :: ·)

end NetIP

namespace IPNet
open Text NetIP

/-- Address and mask in the four-byte form, if the address has one. -/
def networkNumberAndMask (n : IPNet) : Option (IP × List UInt8) :=
  match to4 n.ip with
  | some ip =>
    if n.mask.length = 4 then some (ip, n.mask) else if n.mask.length = 16 then some (ip, n.mask.drop 12) else none
  | none => if n.ip.length = 16 ∧ n.mask.length = 16 then some (n.ip, n.mask) else none

def string (n : IPNet) : Text :=
  match n.networkNumberAndMask with
  | none => "<nil>"
  | some (ip, mask) =>
    match simpleMaskLength mask with
    | none => ipString ip ++ '/' :: hexString mask
    | some ones => ipString ip ++ '/' :: itoa ones

end IPNet

namespace NetIP
open Text

/-! ### Hexadecimal texts -/

theorem digitChar_inj : ∀ {a b : Fin 16}, a.val.digitChar = b.val.digitChar → a = b := by decide

theorem hexByte_inj {a b : UInt8} (h : hexByte a = hexByte b) : a = b := by
  have ha := a.toNat_lt
  have hb := b.toNat_lt
  obtain ⟨hhi, htail⟩ := List.cons.inj h
  obtain ⟨hlo, -⟩ := List.cons.inj htail
  have hhi' : a.toNat / 16 = b.toNat / 16 :=
    congrArg Fin.val (@digitChar_inj ⟨a.toNat / 16, by omega⟩ ⟨b.toNat / 16, by omega⟩ hhi)
  have hlo' : a.toNat % 16 = b.toNat % 16 :=
    congrArg Fin.val (@digitChar_inj ⟨a.toNat % 16, by omega⟩ ⟨b.toNat % 16, by omega⟩ hlo)
  exact UInt8.toNat_inj.mp (by omega)

theorem length_hexString (bytes : List UInt8) : (hexString bytes).length = 2 * bytes.length := by
  induction bytes with
  | nil => rfl
  | cons b bytes ih =>
    rw [hexString, List.flatMap_cons, List.length_append, ← hexString, ih, List.length_cons]
    exact Nat.add_comm 2 _

theorem hexString_inj {a b : List UInt8} (h : hexString a = hexString b) : a = b := by
  induction a generalizing b with
  | nil =>
    cases b with
    | nil => rfl
    | cons y b => cases h
  | cons x a ih =>
    cases b with
    | nil => cases h
    | cons y b =>
      obtain ⟨hxy, hab⟩ := List.append_inj (show hexByte x ++ hexString a = hexByte y ++ hexString b from h) rfl
      rw [hexByte_inj hxy, ih hab]

theorem exists_digit_of_mem_hexString {bytes : List UInt8} {c : Char} (h : c ∈ hexString bytes) :
    ∃ a : Fin 16, c = a.val.digitChar := by
  obtain ⟨b, -, hc⟩ := List.mem_flatMap.mp h
  have hb := b.toNat_lt
  rcases List.mem_cons.mp hc with rfl | hc
  · exact ⟨⟨b.toNat / 16, by omega⟩, rfl⟩
  · exact ⟨⟨b.toNat % 16, by omega⟩, List.mem_singleton.mp hc⟩

theorem decodeString_hexString (bytes : List UInt8) : decodeString (hexString bytes) = .ok bytes := by
  induction bytes with
  | nil => rfl
  | cons b bytes ih =>
    have hb := b.toNat_lt
    obtain ⟨hhi, hhiValue⟩ := digitChar_isHex (b.toNat / 16) (by omega)
    obtain ⟨hlo, hloValue⟩ := digitChar_isHex (b.toNat % 16) (by omega)
    have hbyte : UInt8.ofNat (16 * (b.toNat / 16) + b.toNat % 16) = b := by
      rw [Nat.div_add_mod, UInt8.ofNat_toNat]
    have hcons : hexString (b :: bytes) = (b.toNat / 16).digitChar :: (b.toNat % 16).digitChar :: hexString bytes := rfl
    rw [hcons, decodeString, if_neg (by simp [hhi]), if_neg (by simp [hlo]), ih, hhiValue, hloValue, hbyte]
    rfl

/-! ### Parsed networks -/

theorem length_parseIPv4 {sloppy : Bool} {s : Text} {ip : IP} (h : parseIPv4 sloppy s = some ip) : ip.length = 4 := by
  unfold parseIPv4 at h
  split at h
  · simp only [bind, Option.bind_eq_some_iff] at h
    obtain ⟨_, -, _, -, _, -, _, -, hip⟩ := h
    cases hip
    rfl
  · cases h

theorem length_parseGroups {sloppy : Bool} :
    ∀ {room : Nat} {ip : IP} {ellipsis : Option Nat} {s : Text} {r : IP × Option Nat}, ip.length + 2 * room ≤ 16 →
      parseGroups sloppy room ip ellipsis s = some r → r.1.length ≤ 16
  | 0, ip, ellipsis, s, r, hroom, h => by
    rw [parseGroups] at h
    split at h
    · cases h
      exact hroom
    · cases h
  | room + 1, ip, ellipsis, s, r, hroom, h => by
    have hgroup : ∀ a b : UInt8, (ip ++ [a, b]).length + 2 * room ≤ 16 := fun a b => by
      rw [List.length_append, List.length_cons, List.length_singleton]
      omega
    rw [parseGroups] at h
    split at h
    · cases h
    · split at h
      · cases h
        exact le_trans (Nat.le_add_right _ _) (hgroup _ _)
      · split at h
        · cases h
        · rename_i hplace
          obtain ⟨q, hq, rfl⟩ := Option.map_eq_some_iff.mp h
          rw [List.length_append, length_parseIPv4 hq]
          exact Nat.le_of_not_lt fun hlt => hplace (Or.inr hlt)
      · split at h
        · cases h
        · split at h
          · cases h
          · cases h
            exact le_trans (Nat.le_add_right _ _) (hgroup _ _)
        · split at h
          · cases h
          · exact length_parseGroups (hgroup _ _) h
        · exact length_parseGroups (hgroup _ _) h
      · cases h

theorem length_expandEllipsis {p : IP × Option Nat} {ip : IP} (hp : p.1.length ≤ 16) (h : expandEllipsis p = some ip) :
    ip.length = 16 := by
  obtain ⟨q, ellipsis⟩ := p
  cases ellipsis with
  | none =>
    rw [expandEllipsis] at h
    split at h
    · cases h
    · cases h
      dsimp only at hp
      omega
  | some k =>
    rw [expandEllipsis] at h
    split at h
    · cases h
      simp only [List.length_append, List.length_take, List.length_replicate, List.length_drop]
      omega
    · cases h

theorem length_parseIPv6 {sloppy : Bool} {s : Text} {ip : IP} (h : parseIPv6 sloppy s = some ip) : ip.length = 16 := by
  unfold parseIPv6 at h
  split at h
  · cases h
    rfl
  all_goals
    obtain ⟨p, hp, hexpand⟩ := Option.bind_eq_some_iff.mp h
    exact length_expandEllipsis (length_parseGroups (Nat.le_refl 16) hp) hexpand

theorem parseIPWith_cases {sloppy : Bool} {s : Text} {ip : IP} (h : parseIPWith sloppy s = some ip) :
    (addressBits s = 32 ∧ ∃ q, q.length = 4 ∧ ip = v4InV6 ++ q) ∨ (addressBits s = 128 ∧ ip.length = 16) := by
  unfold parseIPWith at h
  split at h
  · rename_i hdot
    obtain ⟨q, hq, rfl⟩ := Option.map_eq_some_iff.mp h
    exact Or.inl ⟨if_pos hdot, q, length_parseIPv4 hq, rfl⟩
  · rename_i c hdot hc
    refine Or.inr ⟨if_neg fun heq => hdot ?_, length_parseIPv6 h⟩
    rw [hc] at heq
    exact Option.some.inj heq
  · cases h

/-- A network of addresses of `bits` bits under a mask of `ones` ones: its address has no other ones than the mask. -/
structure IsNetwork (net : IPNet) (ones bits : Nat) : Prop where
  family : bits = 32 ∨ bits = 128
  ones_le : ones ≤ bits
  mask_eq : net.mask = cidrMask ones bits
  length_ip : net.ip.length = bits / 8
  masked : List.zipWith (· &&& ·) net.ip net.mask = net.ip

theorem length_cidrMask (ones bits : Nat) : (cidrMask ones bits).length = bits / 8 := by
  rw [cidrMask, List.length_map, List.length_range]

theorem IsNetwork.length_mask {net : IPNet} {ones bits : Nat} (h : IsNetwork net ones bits) :
    net.mask.length = bits / 8 := by
  rw [h.mask_eq, length_cidrMask]

theorem IsNetwork.length_eq {net : IPNet} {ones bits : Nat} (h : IsNetwork net ones bits) :
    net.ip.length = net.mask.length := h.length_ip.trans h.length_mask.symm

theorem zipWith_and_and (ip mask : List UInt8) :
    List.zipWith (· &&& ·) (List.zipWith (· &&& ·) ip mask) mask = List.zipWith (· &&& ·) ip mask := by
  induction ip generalizing mask with
  | nil => rfl
  | cons a ip ih =>
    cases mask with
    | nil => rfl
    | cons m mask => rw [List.zipWith_cons_cons, List.zipWith_cons_cons, ih, UInt8.and_assoc, UInt8.and_self]

theorem maskIP_v4InV6 {q mask : List UInt8} (hq : q.length = 4) (hmask : mask.length = 4) :
    maskIP (v4InV6 ++ q) mask = some (List.zipWith (· &&& ·) q mask) := by
  have hlength : (v4InV6 ++ q).length = 16 := by
    rw [List.length_append, hq]
    rfl
  have htake : (v4InV6 ++ q).take 12 = v4InV6 := List.take_left' rfl
  have hdrop : (v4InV6 ++ q).drop 12 = q := List.drop_left' rfl
  simp [maskIP, hmask, hlength, htake, hdrop, hq]

theorem maskIP_of_length {ip mask : List UInt8} (hip : ip.length = 16) (hmask : mask.length = 16) :
    maskIP ip mask = some (List.zipWith (· &&& ·) ip mask) := by
  simp [maskIP, hmask, hip]

/-- What is parsed is a network, and its address is the parsed address under the mask. -/
theorem parseCIDRWith_net {sloppy : Bool} {s : Text} {ip : IP} {net : IPNet} (h : parseCIDRWith sloppy s = some (ip, net)) :
    (maskIP ip net.mask).getD [] = net.ip ∧ ∃ ones bits, IsNetwork net ones bits := by
  unfold parseCIDRWith at h
  split at h
  · cases h
  · rename_i length _
    dsimp only at h
    split at h
    · cases h
    · rename_i parsed hparsed
      split at h
      · cases h
      · rename_i hlength
        have hones := Nat.le_of_not_lt fun hlt => hlength (Or.inr (Or.inr hlt))
        cases h
        refine ⟨rfl, Nat.ofDigitChars 10 length 0, addressBits (s.takeWhile (· ≠ '/')), ?_, hones, rfl, ?_, ?_⟩
        · rcases parseIPWith_cases hparsed with ⟨hbits, -⟩ | ⟨hbits, -⟩
          · exact Or.inl hbits
          · exact Or.inr hbits
        all_goals
          dsimp only
          generalize Nat.ofDigitChars 10 length 0 = ones
          rcases parseIPWith_cases hparsed with ⟨hbits, q, hq, rfl⟩ | ⟨hbits, hip⟩
        · rw [hbits, maskIP_v4InV6 hq (length_cidrMask ones 32), Option.getD_some, List.length_zipWith, hq, length_cidrMask]
          rfl
        · rw [hbits, maskIP_of_length hip (length_cidrMask ones 128), Option.getD_some, List.length_zipWith, hip,
            length_cidrMask]
          rfl
        · rw [hbits, maskIP_v4InV6 hq (length_cidrMask ones 32), Option.getD_some, zipWith_and_and]
        · rw [hbits, maskIP_of_length hip (length_cidrMask ones 128), Option.getD_some, zipWith_and_and]

end NetIP

example : (NetIP.parseCIDR "10.0.0.1/23").map (·.2.string) = some "10.0.0.0/23" := by decide +kernel
example : (NetIP.parseCIDR "2001:beef::1/48").map (·.2.string) = some "2001:beef::/48" := by decide +kernel
