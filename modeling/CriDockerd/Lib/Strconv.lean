import CriDockerd.Lib.Text

/-! Decimal numbers as `strconv` reads them. The first digit that leaves the range ends the scan, whatever follows it. -/

namespace Strconv

inductive NumError where
  | invalid
  | outOfRange
  deriving DecidableEq, Repr

def NumError.message : NumError → Text
  | .invalid => "invalid syntax"
  | .outOfRange => "value out of range"

/-- The loop of `ParseUint` for base 10. -/
def parseUintLoop (maxVal : Nat) : Text → Nat → Except NumError Nat
  | [], n => .ok n
  | c :: rest, n =>
    if !c.isDigit then .error .invalid
    else if maxVal < 10 * n + (c.toNat - '0'.toNat) then .error .outOfRange
    else parseUintLoop maxVal rest (10 * n + (c.toNat - '0'.toNat))

def parseUint (maxVal : Nat) (s : Text) : Except NumError Nat :=
  if s = [] then .error .invalid else parseUintLoop maxVal s 0

def maxUint64 : Nat := 18446744073709551615

def maxInt64 : Nat := 9223372036854775807

/-- Whether the number is negative, and what follows the sign. -/
def sign : Text → Bool × Text
  | '-' :: rest => (true, rest)
  | '+' :: rest => (false, rest)
  | s => (false, s)

/-- `Atoi`, for an `int` of 64 bits. -/
def atoi (s : Text) : Except NumError Int :=
  match parseUint maxUint64 (sign s).2 with
  | .error err => .error err
  | .ok n =>
    if (sign s).1 then if maxInt64 + 1 < n then .error .outOfRange else .ok (-(n : Int))
    else if maxInt64 < n then .error .outOfRange
    else .ok n

/-- `ParseInt` for base 10 and the integers from `-cutoff` to `cutoff - 1`: the value, which is the nearest of them when
    the number is out of range, and the error. -/
def parseInt (cutoff : Nat) (s : Text) : Int × Option NumError :=
  match parseUint (2 * cutoff - 1) (sign s).2 with
  | .error .invalid => (0, some .invalid)
  | .error .outOfRange => if (sign s).1 then (-(cutoff : Int), some .outOfRange) else ((cutoff : Int) - 1, some .outOfRange)
  | .ok n =>
    if (sign s).1 then if cutoff < n then (-(cutoff : Int), some .outOfRange) else (-(n : Int), none)
    else if cutoff ≤ n then ((cutoff : Int) - 1, some .outOfRange)
    else (n, none)

/-! ### Digits -/

theorem le_ofDigitChars (ds : Text) (n : Nat) : n ≤ Nat.ofDigitChars 10 ds n := by
  induction ds generalizing n with
  | nil => exact Nat.le_refl n
  | cons c rest ih =>
    rw [Nat.ofDigitChars_cons]
    exact Nat.le_trans (by omega) (ih _)

theorem parseUintLoop_of_digits {maxVal n : Nat} {ds : Text} (hdigits : ∀ c ∈ ds, c.isDigit = true)
    (hrange : Nat.ofDigitChars 10 ds n ≤ maxVal) : parseUintLoop maxVal ds n = .ok (Nat.ofDigitChars 10 ds n) := by
  induction ds generalizing n with
  | nil => rfl
  | cons c rest ih =>
    have hdigit := hdigits c List.mem_cons_self
    rw [Nat.ofDigitChars_cons] at hrange ⊢
    have hle := Nat.le_trans (le_ofDigitChars rest _) hrange
    rw [parseUintLoop, hdigit, if_neg (by decide), if_neg (Nat.not_lt.mpr hle)]
    exact ih (fun d hd => hdigits d (List.mem_cons_of_mem _ hd)) hrange

/-- A text with another character than digits is refused, for it or for the digits before it. -/
theorem parseUintLoop_of_not_digit {maxVal n : Nat} {s : Text} {c : Char} (hc : c ∈ s) (hdigit : c.isDigit = false) :
    ∃ err, parseUintLoop maxVal s n = .error err := by
  induction s generalizing n with
  | nil => cases hc
  | cons d rest ih =>
    rw [parseUintLoop]
    split
    · exact ⟨_, rfl⟩
    · rename_i hd
      split
      · exact ⟨_, rfl⟩
      · obtain rfl | hrest := List.mem_cons.mp hc
        · simp [hdigit] at hd
        · exact ih hrest

theorem parseUintLoop_ok {maxVal n m : Nat} {s : Text} (hn : n ≤ maxVal) (h : parseUintLoop maxVal s n = .ok m) :
    m ≤ maxVal ∧ (∀ c ∈ s, c.isDigit = true) ∧ ∀ maxVal', maxVal ≤ maxVal' → parseUintLoop maxVal' s n = .ok m := by
  induction s generalizing n with
  | nil =>
    cases h
    exact ⟨hn, fun _ hc => absurd hc List.not_mem_nil, fun _ _ => rfl⟩
  | cons c rest ih =>
    rw [parseUintLoop] at h
    split at h
    · cases h
    · rename_i hdigit
      split at h
      · cases h
      · rename_i hrange
        obtain ⟨hle, hdigits, hlarger⟩ := ih (Nat.le_of_not_lt hrange) h
        refine ⟨hle, ?_, fun maxVal' hmax => ?_⟩
        · rintro d (_ | ⟨_, hd⟩)
          · simpa using hdigit
          · exact hdigits d hd
        · rw [parseUintLoop, if_neg hdigit, if_neg (Nat.not_lt.mpr (Nat.le_trans (Nat.le_of_not_lt hrange) hmax))]
          exact hlarger maxVal' hmax

theorem parseUint_le {maxVal n : Nat} {s : Text} (h : parseUint maxVal s = .ok n) : n ≤ maxVal := by
  unfold parseUint at h
  split at h
  · cases h
  · exact (parseUintLoop_ok (Nat.zero_le _) h).1

theorem sign_of_digit {c : Char} {rest : Text} (hc : c.isDigit = true) : sign (c :: rest) = (false, c :: rest) := by
  unfold sign
  split
  · rename_i heq
    obtain ⟨rfl, -⟩ := List.cons.inj heq
    cases hc
  · rename_i heq
    obtain ⟨rfl, -⟩ := List.cons.inj heq
    cases hc
  · rfl

theorem parseInt_of_parseUint {maxVal cutoff n : Nat} {s : Text} (h : parseUint maxVal s = .ok n) (hcutoff : maxVal < cutoff) :
    parseInt cutoff s = ((n : Int), none) := by
  have hle := parseUint_le h
  unfold parseUint at h
  split at h
  · cases h
  · rename_i hne
    obtain ⟨c, rest, rfl⟩ := List.exists_cons_of_ne_nil hne
    obtain ⟨-, hdigits, hlarger⟩ := parseUintLoop_ok (Nat.zero_le _) h
    rw [parseInt, sign_of_digit (hdigits c List.mem_cons_self), parseUint, if_neg hne, hlarger _ (by omega)]
    simp [Nat.not_le.mpr (Nat.lt_of_le_of_lt hle hcutoff)]

theorem atoi_of_digits {ds : Text} (hne : ds ≠ []) (hdigits : ∀ c ∈ ds, c.isDigit = true)
    (hrange : Nat.ofDigitChars 10 ds 0 ≤ maxInt64) : atoi ds = .ok (Nat.ofDigitChars 10 ds 0 : Nat) := by
  obtain ⟨c, rest, rfl⟩ := List.exists_cons_of_ne_nil hne
  have hloop : parseUintLoop maxUint64 (c :: rest) 0 = .ok (Nat.ofDigitChars 10 (c :: rest) 0) :=
    parseUintLoop_of_digits hdigits (Nat.le_trans hrange (by decide))
  rw [atoi, sign_of_digit (hdigits c List.mem_cons_self), parseUint, if_neg hne, hloop]
  simp [Nat.not_lt.mpr hrange]

/-- After a digit there is no sign, and everything else is refused. -/
theorem atoi_of_not_digit {c d : Char} {rest : Text} (hc : c.isDigit = true) (hd : d ∈ rest) (hdigit : d.isDigit = false) :
    ∃ err, atoi (c :: rest) = .error err := by
  have hmem : d ∈ c :: rest := List.mem_cons_of_mem c hd
  obtain ⟨err, herr⟩ := @parseUintLoop_of_not_digit maxUint64 0 (c :: rest) d hmem hdigit
  refine ⟨err, ?_⟩
  rw [atoi, sign_of_digit hc, parseUint, if_neg (List.cons_ne_nil c rest), herr]

end Strconv
