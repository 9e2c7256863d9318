import CriDockerd.Lib.Text

/-! JSON values and decoders of records from them, in the manner of a package that fills a value of a
    given type: a decoder gets the old value, a key may differ in case from the field that it names, and
    null leaves a plain value alone and makes a pointer or a slice nil. -/

inductive Json where
  | null
  | bool (b : Bool)
  | num (literal : Text)
  | str (s : Text)
  | arr (items : List Json)
  | obj (members : List (Text × Json))

namespace Json
open Text

/-- What a value is called in an error. -/
def kind : Json → Text
  | .null => "null"
  | .bool _ => "bool"
  | .num _ => "number"
  | .str _ => "string"
  | .arr _ => "array"
  | .obj _ => "object"

/-- A new value from a JSON value and the old value, or the text of an error. -/
abbrev Decoder (α : Type) := Json → α → Except Text α

def typeError {α : Type} (j : Json) (type : Text) : Except Text α :=
  .error ("json: cannot unmarshal " ++ j.kind ++ " into Go value of type " ++ type)

/-! ### Plain values -/

def text : Decoder Text
  | .null, old => .ok old
  | .str s, _ => .ok s
  | j, _ => typeError j "string"

def boolean : Decoder Bool
  | .null, old => .ok old
  | .bool b, _ => .ok b
  | j, _ => typeError j "bool"

def uintLiteral (digits : Text) : Option Int :=
  if digits ≠ [] ∧ digits.all Char.isDigit then some (Nat.ofDigitChars 10 digits 0) else none

def intLiteral : Text → Option Int
  | '-' :: digits => (uintLiteral digits).map (- ·)
  | digits => uintLiteral digits

/-- An integer of a type with the given literals and bounds; those of an unsigned type have no sign. -/
def integer (type : Text) (parse : Text → Option Int) (min max : Int) : Decoder Int
  | .null, old => .ok old
  | .num literal, _ =>
    match parse literal with
    | some n => if min ≤ n ∧ n ≤ max then .ok n else typeError (.num literal) type
    | none => typeError (.num literal) type
  | j, _ => typeError j type

/-! ### Pointers, slices and records -/

section
variable {α β : Type}

def pointer (zero : α) (decode : Decoder α) : Decoder (Option α)
  | .null, _ => .ok none
  | j, old => (decode j (old.getD zero)).map some

/-- The elements of an array, decoded over the old elements as far as there are any. -/
def elements (zero : α) (decode : Decoder α) : List Json → List α → Except Text (List α)
  | [], _ => .ok []
  | j :: js, olds =>
    match decode j (olds.headD zero), elements zero decode js olds.tail with
    | .ok x, .ok xs => .ok (x :: xs)
    | .error err, _ => .error err
    | .ok _, .error err => .error err

/-- A slice that is not nil: its elements, and what its memory still holds after them. -/
structure Slice (α : Type) where
  items : List α
  spare : List α

def Slice.memory (s : Slice α) : List α := s.items ++ s.spare

/-- An array is decoded over what is in the memory, also where the slice has become shorter; an empty one makes a new slice. -/
def slice (type : Text) (zero : α) (decode : Decoder α) : Decoder (Option (Slice α))
  | .null, _ => .ok none
  | .arr [], _ => .ok (some ⟨[], []⟩)
  | .arr js, old =>
    let memory := (old.map Slice.memory).getD []
    (elements zero decode js memory).map fun items => some ⟨items, memory.drop js.length⟩
  | j, _ => typeError j type

/-- A decoder for a part of a record. -/
def field (get : α → β) (set : β → α → α) (decode : Decoder β) : Decoder α :=
  fun j old => (decode j (get old)).map fun x => set x old

/-- Simple folding of a letter; the long s and the Kelvin sign fold to letters too. -/
def foldChar (c : Char) : Char := if c = '\u017f' then 's' else if c = '\u212a' then 'k' else c.toLower

/-- The decoder of the field that a key names: by its name, else by its name in another case. -/
def fieldDecoder (fields : List (Text × Decoder α)) (key : Text) : Option (Decoder α) :=
  match fields.find? fun f => f.1 == key with
  | some f => some f.2
  | none => (fields.find? fun f => f.1.map foldChar == key.map foldChar).map (·.2)

def members (fields : List (Text × Decoder α)) : List (Text × Json) → α → Except Text α
  | [], old => .ok old
  | (key, j) :: rest, old =>
    match fieldDecoder fields key with
    -- An unknown key is skipped.
    | none => members fields rest old
    | some decode =>
      match decode j old with
      | .error err => .error err
      | .ok new => members fields rest new

def record (type : Text) (fields : List (Text × Decoder α)) : Decoder α
  | .null, old => .ok old
  | .obj kvs, old => members fields kvs old
  | j, _ => typeError j type

end

def isNull : Json → Bool
  | .null => true
  | _ => false

/-- The value of the last member that names a field, in whatever case. -/
def lastNamed (name : Text) (kvs : List (Text × Json)) : Option Json :=
  (kvs.filter fun kv => kv.1.map foldChar == name.map foldChar).getLast?.map (·.2)

/-! ### Printed integers -/

/-- The literal of an integer, as an encoder prints it. -/
def ofInt (n : Int) : Json := .num (itoa n)

theorem uintLiteral_toDigits (k : Nat) : uintLiteral (Nat.toDigits 10 k) = some (k : Int) := by
  have hdigits : Nat.toDigits 10 k ≠ [] ∧ (Nat.toDigits 10 k).all Char.isDigit = true :=
    ⟨Nat.toDigits_ne_nil, all_isDigit_itoa k⟩
  rw [uintLiteral, if_pos hdigits, Nat.ofDigitChars_ten_toDigits]

theorem intLiteral_itoa (n : Int) : intLiteral (itoa n) = some n := by
  cases n with
  | ofNat k =>
    have hminus : ∀ ds, Nat.toDigits 10 k ≠ '-' :: ds := by
      intro ds heq
      have hmem : '-' ∈ Nat.toDigits 10 k := heq ▸ List.mem_cons_self
      have hc := @isDigit_of_mem_itoa k '-' hmem
      exact absurd hc (by decide)
    rw [itoa, intLiteral]
    · exact uintLiteral_toDigits k
    · exact hminus
  | negSucc k =>
    rw [itoa, intLiteral, uintLiteral_toDigits]
    rfl

theorem integer_ofInt {type : Text} {parse : Text → Option Int} {min max n : Int} (hparse : parse (itoa n) = some n)
    (h : min ≤ n ∧ n ≤ max) (old : Int) : integer type parse min max (ofInt n) old = .ok n := by
  rw [ofInt, integer, hparse]
  exact if_pos h

/-! ### Members of an object -/

section
variable {α β : Type} {fields : List (Text × Decoder α)}

theorem members_cons {key : Text} {j : Json} {rest : List (Text × Json)} {decode : Decoder α} {old new : α}
    (hfield : fieldDecoder fields key = some decode) (hdecode : decode j old = .ok new) :
    members fields ((key, j) :: rest) old = members fields rest new := by
  rw [members, hfield]
  simp only [hdecode]

theorem members_append {kvs rest : List (Text × Json)} {old new : α} (h : members fields kvs old = .ok new) :
    members fields (kvs ++ rest) old = members fields rest new := by
  induction kvs generalizing old with
  | nil =>
    cases h
    rfl
  | cons kv kvs ih =>
    obtain ⟨key, j⟩ := kv
    rw [List.cons_append, members]
    rw [members] at h
    split at h
    · exact ih h
    · split at h
      · cases h
      · exact ih h

theorem fieldDecoder_eq_some {key : Text} {decode : Decoder α} (h : fieldDecoder fields key = some decode) :
    ∃ f ∈ fields, f.2 = decode ∧ f.1.map foldChar = key.map foldChar := by
  rw [fieldDecoder] at h
  split at h
  · rename_i f hf
    cases h
    have hname : f.1 = key := by simpa using List.find?_some hf
    exact ⟨f, List.mem_of_find?_eq_some hf, rfl, by rw [hname]⟩
  · obtain ⟨f, hf, rfl⟩ := Option.map_eq_some_iff.mp h
    exact ⟨f, List.mem_of_find?_eq_some hf, rfl, by simpa using List.find?_some hf⟩

theorem fieldDecoder_eq_none {key : Text} (h : fieldDecoder fields key = none) :
    ∀ f ∈ fields, f.1.map foldChar ≠ key.map foldChar := by
  rw [fieldDecoder] at h
  split at h
  · cases h
  · intro f hf heq
    have := List.find?_eq_none.mp (Option.map_eq_none_iff.mp h) f hf
    simp [heq] at this

theorem lastNamed_cons_of_eq {name key : Text} (h : key.map foldChar = name.map foldChar) (j : Json) (rest : List (Text × Json)) :
    lastNamed name ((key, j) :: rest) = some ((lastNamed name rest).getD j) := by
  rw [lastNamed, List.filter_cons_of_pos (by simp [h]), List.getLast?_cons, lastNamed]
  cases (rest.filter fun kv => kv.1.map foldChar == name.map foldChar).getLast? <;> rfl

theorem lastNamed_cons_of_ne {name key : Text} (h : key.map foldChar ≠ name.map foldChar) (j : Json)
    (rest : List (Text × Json)) : lastNamed name ((key, j) :: rest) = lastNamed name rest := by
  rw [lastNamed, List.filter_cons_of_neg (by simp [h]), lastNamed]

/-- A pointer of a record is nil after its members if null is the last value that it got. -/
theorem members_nil_iff (get : α → Option β) (name : Text) (hname : ∃ f ∈ fields, f.1.map foldChar = name.map foldChar)
    (hnamed : ∀ f ∈ fields, f.1.map foldChar = name.map foldChar →
      ∀ j old new, f.2 j old = .ok new → (get new = none ↔ j.isNull))
    (hothers : ∀ f ∈ fields, f.1.map foldChar ≠ name.map foldChar → ∀ j old new, f.2 j old = .ok new → get new = get old)
    {kvs : List (Text × Json)} {old new : α} (h : members fields kvs old = .ok new) :
    get new = none ↔ (lastNamed name kvs).elim (get old = none) (·.isNull) := by
  induction kvs generalizing old with
  | nil =>
    cases h
    rfl
  | cons kv kvs ih =>
    obtain ⟨key, j⟩ := kv
    rw [members] at h
    split at h
    · rename_i hnone
      obtain ⟨f, hf, hfname⟩ := hname
      have hne : key.map foldChar ≠ name.map foldChar := fun heq => fieldDecoder_eq_none hnone f hf (hfname.trans heq.symm)
      rw [lastNamed_cons_of_ne hne]
      exact ih h
    · rename_i decode hsome
      obtain ⟨f, hf, rfl, hfold⟩ := fieldDecoder_eq_some hsome
      split at h
      · cases h
      · rename_i middle hmiddle
        rw [ih h]
        by_cases heq : key.map foldChar = name.map foldChar
        · rw [lastNamed_cons_of_eq heq]
          cases lastNamed name kvs with
          | none => exact hnamed f hf (hfold.trans heq) j old middle hmiddle
          | some last => rfl
        · rw [lastNamed_cons_of_ne heq, hothers f hf (fun h => heq (hfold.symm.trans h)) j old middle hmiddle]

theorem field_ok {get : α → β} {set : β → α → α} {decode : Decoder β} {j : Json} {old : α} {x : β}
    (h : decode j (get old) = .ok x) : field get set decode j old = .ok (set x old) := by
  rw [field, h]
  rfl

theorem map_eq_ok {r : Except Text α} {f : α → β} {y : β} (h : r.map f = .ok y) : ∃ x, r = .ok x ∧ f x = y := by
  cases r with
  | error err => cases h
  | ok x =>
    cases h
    exact ⟨x, rfl, rfl⟩

theorem pointer_nil_iff {zero : α} {decode : Decoder α} {j : Json} {old new : Option α}
    (h : pointer zero decode j old = .ok new) : new = none ↔ j.isNull := by
  cases j with
  | null =>
    cases h
    exact ⟨fun _ => rfl, fun _ => rfl⟩
  | bool _ | num _ | str _ | arr _ | obj _ =>
    obtain ⟨x, -, rfl⟩ := map_eq_ok h
    simp [isNull]

theorem elements_map {γ : Type} {zero : α} {decode : Decoder α} {toJson : γ → Json} {value : γ → α} {xs : List γ}
    (h : ∀ x ∈ xs, decode (toJson x) zero = .ok (value x)) :
    elements zero decode (xs.map toJson) [] = .ok (xs.map value) := by
  induction xs with
  | nil => rfl
  | cons x xs ih =>
    rw [List.map_cons, elements, List.headD_nil, List.tail_nil, h x List.mem_cons_self,
      ih fun y hy => h y (List.mem_cons_of_mem _ hy)]
    rfl

theorem slice_none {type : Text} {zero : α} {decode : Decoder α} {js : List Json} (hjs : js ≠ []) :
    slice type zero decode (.arr js) none = (elements zero decode js []).map fun items => some ⟨items, []⟩ := by
  cases js with
  | nil => exact absurd rfl hjs
  | cons j js => rfl

end

end Json
