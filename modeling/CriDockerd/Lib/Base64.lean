import Mathlib.Data.List.Basic

/-! Base64 with the standard alphabet and padding: three bytes are four digits of six bits. -/

namespace Base64

/-- The digit of a number below 64. -/
def digit (n : Nat) : UInt8 :=
  if n < 26 then UInt8.ofNat (65 + n)
  else if n < 52 then UInt8.ofNat (97 + (n - 26))
  else if n < 62 then UInt8.ofNat (48 + (n - 52))
  else if n = 62 then 43
  else 47

/-- The number of a digit. -/
def value? (c : UInt8) : Option Nat :=
  if 65 ≤ c ∧ c ≤ 90 then some (c.toNat - 65)
  else if 97 ≤ c ∧ c ≤ 122 then some (c.toNat - 97 + 26)
  else if 48 ≤ c ∧ c ≤ 57 then some (c.toNat - 48 + 52)
  else if c = 43 then some 62
  else if c = 47 then some 63
  else none

/-- The sign that fills the last four digits up. -/
def padding : UInt8 := 61

/-- The number of three bytes. -/
def group (a b c : UInt8) : Nat := a.toNat * 65536 + b.toNat * 256 + c.toNat

def encode : List UInt8 → List UInt8
  | a :: b :: c :: rest =>
    let n := group a b c
    digit (n / 262144) :: digit (n / 4096 % 64) :: digit (n / 64 % 64) :: digit (n % 64) :: encode rest
  | [a, b] =>
    let n := group a b 0
    [digit (n / 262144), digit (n / 4096 % 64), digit (n / 64 % 64), padding]
  | [a] =>
    let n := group a 0 0
    [digit (n / 262144), digit (n / 4096 % 64), padding, padding]
  | [] => []

/-- Four digits at a time; padding is at the end only. -/
def decodeDigits : List UInt8 → Option (List UInt8)
  | [] => some []
  | w :: x :: y :: z :: rest =>
    match value? w, value? x, value? y, value? z with
    | some a, some b, some c, some d =>
      let n := a * 262144 + b * 4096 + c * 64 + d
      (decodeDigits rest).map ([UInt8.ofNat (n / 65536), UInt8.ofNat (n / 256), UInt8.ofNat n] ++ ·)
    | some a, some b, some c, none =>
      let n := a * 262144 + b * 4096 + c * 64
      if z = padding ∧ rest = [] then some [UInt8.ofNat (n / 65536), UInt8.ofNat (n / 256)] else none
    | some a, some b, none, none =>
      let n := a * 262144 + b * 4096
      if y = padding ∧ z = padding ∧ rest = [] then some [UInt8.ofNat (n / 65536)] else none
    | _, _, _, _ => none
  | _ => none

/-- Line breaks between the digits do not count. -/
def decode (s : List UInt8) : Option (List UInt8) := decodeDigits (s.filter fun c => c ≠ 10 ∧ c ≠ 13)

/-! ### The digits -/

theorem value?_digit : ∀ n < 64, value? (digit n) = some n := by decide

theorem value?_padding : value? padding = none := by decide

theorem digit_ne_break : ∀ n < 64, digit n ≠ 10 ∧ digit n ≠ 13 := by decide

theorem group_lt (a b c : UInt8) : group a b c < 16777216 := by
  have ha := a.toNat_lt
  have hb := b.toNat_lt
  have hc := c.toNat_lt
  unfold group
  omega

theorem digits_eq (n : Nat) : n / 262144 * 262144 + n / 4096 % 64 * 4096 + n / 64 % 64 * 64 + n % 64 = n := by omega

theorem ofNat_group_first (a b c : UInt8) : UInt8.ofNat (group a b c / 65536) = a := by
  have hb := b.toNat_lt
  have hc := c.toNat_lt
  rw [show group a b c / 65536 = a.toNat by unfold group; omega, UInt8.ofNat_toNat]

theorem ofNat_group_second (a b c : UInt8) : UInt8.ofNat (group a b c / 256) = b := by
  have hc := c.toNat_lt
  rw [show group a b c / 256 = a.toNat * 256 + b.toNat by unfold group; omega]
  apply UInt8.toNat_inj.mp
  have hb := b.toNat_lt
  simp only [UInt8.toNat_ofNat']
  omega

theorem ofNat_group_third (a b c : UInt8) : UInt8.ofNat (group a b c) = c := by
  apply UInt8.toNat_inj.mp
  have hc := c.toNat_lt
  simp only [UInt8.toNat_ofNat', group]
  omega

/-! ### The round trip -/

theorem decodeDigits_encode : ∀ s : List UInt8, decodeDigits (encode s) = some s
  | [] => rfl
  | [a] => by
    have h := group_lt a 0 0
    have hn : group a 0 0 / 262144 * 262144 + group a 0 0 / 4096 % 64 * 4096 = group a 0 0 := by
      rw [show group a 0 0 = a.toNat * 65536 by simp [group]]
      omega
    rw [encode, decodeDigits, value?_digit _ (by omega), value?_digit _ (by omega), value?_padding]
    dsimp only
    rw [if_pos ⟨rfl, rfl, rfl⟩, hn, ofNat_group_first]
  | [a, b] => by
    have h := group_lt a b 0
    have hn : group a b 0 / 262144 * 262144 + group a b 0 / 4096 % 64 * 4096 + group a b 0 / 64 % 64 * 64 = group a b 0 := by
      rw [show group a b 0 = a.toNat * 65536 + b.toNat * 256 by simp [group]]
      omega
    rw [encode, decodeDigits, value?_digit _ (by omega), value?_digit _ (by omega), value?_digit _ (by omega), value?_padding]
    dsimp only
    rw [if_pos ⟨rfl, rfl⟩, hn, ofNat_group_first, ofNat_group_second]
  | a :: b :: c :: rest => by
    have h := group_lt a b c
    have hn := digits_eq (group a b c)
    rw [encode, decodeDigits, value?_digit _ (by omega), value?_digit _ (by omega), value?_digit _ (by omega),
      value?_digit _ (by omega)]
    dsimp only
    rw [hn, ofNat_group_first, ofNat_group_second, ofNat_group_third, decodeDigits_encode rest]
    rfl

theorem encode_no_break : ∀ {s : List UInt8} {c : UInt8}, c ∈ encode s → c ≠ 10 ∧ c ≠ 13
  | [], _, h => by cases h
  | [a], c, h => by
    have hlt := group_lt a 0 0
    simp only [encode, List.mem_cons, List.not_mem_nil, or_false] at h
    rcases h with rfl | rfl | rfl | rfl
    · exact digit_ne_break _ (by omega)
    · exact digit_ne_break _ (by omega)
    · decide
    · decide
  | [a, b], c, h => by
    have hlt := group_lt a b 0
    simp only [encode, List.mem_cons, List.not_mem_nil, or_false] at h
    rcases h with rfl | rfl | rfl | rfl
    · exact digit_ne_break _ (by omega)
    · exact digit_ne_break _ (by omega)
    · exact digit_ne_break _ (by omega)
    · decide
  | a :: b :: d :: rest, c, h => by
    have hlt := group_lt a b d
    simp only [encode, List.mem_cons] at h
    rcases h with rfl | rfl | rfl | rfl | h
    · exact digit_ne_break _ (by omega)
    · exact digit_ne_break _ (by omega)
    · exact digit_ne_break _ (by omega)
    · exact digit_ne_break _ (by omega)
    · exact encode_no_break h

theorem decode_encode (s : List UInt8) : decode (encode s) = some s := by
  rw [decode, List.filter_eq_self.mpr fun c hc => decide_eq_true (encode_no_break hc), decodeDigits_encode]

end Base64
