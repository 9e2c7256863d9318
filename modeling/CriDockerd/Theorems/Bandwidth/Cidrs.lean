import CriDockerd.Bandwidth.Cidrs
import CriDockerd.Lib.AddressText
import CriDockerd.Theorems.Bandwidth.Changes

/-! A CIDR goes to hexadecimal and comes back as a text of the same network, unless it is an IPv6 CIDR for IPv4-mapped
    addresses: those are printed dotted, and the prefix length that follows is too long for a dotted address. -/

namespace CriDockerd.Bandwidth
open Text NetIP

/-! ### To hexadecimal -/

theorem split_hexNet (net : IPNet) :
    split (hexString net.ip ++ '/' :: hexString net.mask) '/' = [hexString net.ip, hexString net.mask] := by
  rw [split, List.splitOn_append_cons_self_of_not_mem (slash_not_mem_hexString _),
    List.splitOn_eq_singleton (slash_not_mem_hexString _)]

theorem hexNet_inj {net net' : IPNet}
    (h : hexString net.ip ++ '/' :: hexString net.mask = hexString net'.ip ++ '/' :: hexString net'.mask) :
    net = net' := by
  have hparts := congrArg (split · '/') h
  simp only [split_hexNet, List.cons.injEq, and_true] at hparts
  obtain ⟨hip, hmask⟩ := hparts
  cases net
  cases net'
  exact congrArg₂ IPNet.mk (hexString_inj hip) (hexString_inj hmask)

/-! ### And back -/

/-- The text that a network of a list is given. -/
def cidrText (net : IPNet) : Text :=
  let size := (simpleMaskLength net.mask).getD 0
  ipString net.ip ++ '/' :: itoa size

theorem asciiCIDR_hexNet (net : IPNet) : asciiCIDR (hexString net.ip ++ '/' :: hexString net.mask) = .ok (cidrText net) := by
  simp only [asciiCIDR, split_hexNet, decodeString_hexString, cidrText]

/-- Parsed again, the text of a CIDR that went to hexadecimal and back has the same network and the same hexadecimal form. -/
def RoundTrips (cidr : Text) (net : IPNet) : Prop :=
  ∃ hex text, hexCIDR cidr = .ok hex ∧ asciiCIDR hex = .ok text ∧ (∃ ip, parseCIDRSloppy text = some (ip, net)) ∧
    hexCIDR text = .ok hex

/-- An IPv6 network of IPv4-mapped addresses. -/
def Mapped (net : IPNet) : Prop := net.mask.length = 16 ∧ (to4 net.ip).isSome = true

instance (net : IPNet) : Decidable (Mapped net) := inferInstanceAs (Decidable (_ ∧ _))

section
variable {cidr : Text} {ip : IP} {net : IPNet} {ones bits : Nat}

theorem cidrText_eq (h : IsNetwork net ones bits) : cidrText net = ipString net.ip ++ '/' :: itoa ones := by
  simp only [cidrText, h.simpleMaskLength_eq, Option.getD_some]

theorem roundTrips_iff_parse (hparse : parseCIDRSloppy cidr = some (ip, net)) :
    RoundTrips cidr net ↔ ∃ ip', parseCIDRSloppy (cidrText net) = some (ip', net) := by
  constructor
  · rintro ⟨hex, text, hhex, htext, hnet, -⟩
    cases (hexCIDR_eq hparse).symm.trans hhex
    cases (asciiCIDR_hexNet net).symm.trans htext
    exact hnet
  · rintro ⟨ip', hnet⟩
    exact ⟨_, _, hexCIDR_eq hparse, asciiCIDR_hexNet net, ⟨ip', hnet⟩, hexCIDR_eq hnet⟩

theorem parse_cidrText_iff (h : IsNetwork net ones bits) :
    (∃ ip, parseCIDRSloppy (cidrText net) = some (ip, net)) ↔ ¬Mapped net := by
  rw [cidrText_eq h]
  constructor
  · rintro ⟨ip, hparse⟩ ⟨hmask, h4⟩
    rw [h.length_mask] at hmask
    obtain rfl : bits = 128 := by
      rcases h.family with rfl | rfl
      · cases hmask
      · rfl
    obtain ⟨q, hq⟩ := Option.isSome_iff_exists.mp h4
    rw [parseCIDRSloppy, h.parse_text_dotted hq] at hparse
    cases hparse
  · intro hmapped
    refine h.parse_text ?_
    rcases h.family with rfl | rfl
    · exact Or.inl rfl
    · refine Or.inr (Option.not_isSome_iff_eq_none.mp fun h4 => hmapped ⟨h.length_mask, h4⟩)

/-- A CIDR that is parsed comes back from hexadecimal, as a text of the same network that goes to the same
    hexadecimal form, exactly when its network is not an IPv6 network of IPv4-mapped addresses; and two CIDRs have the
    same hexadecimal form exactly when they have the same network. -/
theorem hexCIDR_roundTrips_iff (hparse : parseCIDRSloppy cidr = some (ip, net)) :
    (RoundTrips cidr net ↔ ¬Mapped net) ∧
      ∀ cidr' ip' net', parseCIDRSloppy cidr' = some (ip', net') → (hexCIDR cidr = hexCIDR cidr' ↔ net = net') := by
  obtain ⟨-, ones, bits, hnet⟩ := parseCIDRWith_net hparse
  refine ⟨(roundTrips_iff_parse hparse).trans (parse_cidrText_iff hnet), fun cidr' ip' net' hparse' => ?_⟩
  rw [hexCIDR_eq hparse, hexCIDR_eq hparse']
  constructor
  · intro h
    exact hexNet_inj (Except.ok.inj h)
  · rintro rfl
    rfl

end

theorem hexCIDR_roundTrips_podCIDR :
    RoundTrips "10.1.2.3/23" { ip := [10, 1, 2, 0], mask := [255, 255, 254, 0] } := by
  have hparse : parseCIDRSloppy "10.1.2.3/23" =
      some (v4InV6 ++ [10, 1, 2, 3], { ip := [10, 1, 2, 0], mask := [255, 255, 254, 0] }) := by
    decide +kernel
  exact (hexCIDR_roundTrips_iff hparse).1.mpr (by decide)

/-- The addresses ::ffff:1.2.3.0 to ::ffff:1.2.3.255 come back as 1.2.3.0 with a prefix length of 120. -/
theorem hexCIDR_mapped_lost :
    (parseCIDRSloppy "::ffff:1.2.3.4/120").isSome = true ∧
      hexCIDR "::ffff:1.2.3.4/120" =
        .ok "00000000000000000000ffff01020300/ffffffffffffffffffffffffffffff00" ∧
      asciiCIDR "00000000000000000000ffff01020300/ffffffffffffffffffffffffffffff00" = .ok "1.2.3.0/120" ∧
      parseCIDRSloppy "1.2.3.0/120" = none ∧
      hexCIDR "1.2.3.0/120" = .error (.text "invalid CIDR address: 1.2.3.0/120") := by
  decide +kernel

end CriDockerd.Bandwidth
