import Mathlib.Data.Nat.Digits.Defs
import ClusterCaps.Proofs.Text.Integer
import ClusterCaps.Proofs.Text.Pieces

set_option autoImplicit false

namespace ClusterCaps.Text

def worth (digits : List Char) : Nat := Nat.ofDigits 10 (digits.map digitValue).reverse

structure Digits (text : List Char) : Prop where
  some : text ≠ []
  all : ∀ c ∈ text, isDigit c = true

inductive Spells : Int → List Char → Prop where
  | unsigned (digits : List Char) (legal : Digits digits) : Spells (worth digits) digits
  | positive (digits : List Char) (legal : Digits digits) : Spells (worth digits) ('+' :: digits)
  | negative (digits : List Char) (legal : Digits digits) : Spells (-(worth digits : Int)) ('-' :: digits)

theorem decimal_from_worth (value : Nat) (digits : List Char) (all : ∀ c ∈ digits, isDigit c = true) :
    decimalFrom value digits = some (value * 10 ^ digits.length + worth digits) := by
  induction digits generalizing value with
  | nil => simp [decimalFrom, worth]
  | cons c rest ih =>
      obtain ⟨digit, later⟩ := List.forall_mem_cons.mp all
      have units : worth (c :: rest) = worth rest + 10 ^ rest.length * digitValue c := by
        simp [worth, Nat.ofDigits_append]
      rw [decimalFrom, if_pos digit, ih _ later, units, List.length_cons, Nat.pow_succ]
      congr 1
      rw [Nat.add_mul, Nat.mul_assoc, Nat.mul_comm 10 (10 ^ rest.length), Nat.mul_comm (digitValue c)]
      omega

theorem digits_of_decimal_from (value number : Nat) (text : List Char)
    (read : decimalFrom value text = some number) : ∀ c ∈ text, isDigit c = true := by
  induction text generalizing value with
  | nil => exact List.forall_mem_nil _
  | cons c rest ih =>
      by_cases digit : isDigit c = true
      · rw [decimalFrom, if_pos digit] at read
        exact List.forall_mem_cons.mpr ⟨digit, ih _ read⟩
      · simp [decimalFrom, digit] at read

theorem decimal_iff (text : List Char) (number : Nat) :
    decimal? text = some number ↔ Digits text ∧ number = worth text := by
  cases text with
  | nil => exact ⟨nofun, fun spelled => absurd rfl spelled.1.some⟩
  | cons c rest =>
      constructor
      · intro read
        have all := digits_of_decimal_from 0 number _ read
        have value := decimal_from_worth 0 _ all
        rw [Nat.zero_mul, Nat.zero_add] at value
        exact ⟨⟨List.cons_ne_nil c rest, all⟩, Option.some.inj (read.symm.trans value)⟩
      · rintro ⟨legal, rfl⟩
        have value := decimal_from_worth 0 _ legal.all
        rwa [Nat.zero_mul, Nat.zero_add] at value

-- The first character tells the three forms apart, as neither sign is a digit.
theorem signed_iff (text : List Char) (value : Int) : signed? text = some value ↔ Spells value text := by
  constructor
  · intro read
    unfold signed? at read
    split at read
    · obtain ⟨_, lifted, rfl⟩ := Option.map_eq_some_iff.mp read
      obtain ⟨number, spelled, same⟩ := Option.bind_eq_some_iff.mp lifted
      cases same
      obtain ⟨legal, rfl⟩ := (decimal_iff _ number).mp spelled
      exact .negative _ legal
    · obtain ⟨_, lifted, rfl⟩ := Option.map_eq_some_iff.mp read
      obtain ⟨number, spelled, same⟩ := Option.bind_eq_some_iff.mp lifted
      cases same
      obtain ⟨legal, rfl⟩ := (decimal_iff _ number).mp spelled
      exact .positive _ legal
    · obtain ⟨_, lifted, rfl⟩ := Option.map_eq_some_iff.mp read
      obtain ⟨number, spelled, same⟩ := Option.bind_eq_some_iff.mp lifted
      cases same
      obtain ⟨legal, rfl⟩ := (decimal_iff _ number).mp spelled
      exact .unsigned _ legal
  · intro spelled
    cases spelled with
    | positive digits legal =>
        rw [signed?, (decimal_iff digits _).mpr ⟨legal, rfl⟩]
        rfl
    | negative digits legal =>
        rw [signed?, (decimal_iff digits _).mpr ⟨legal, rfl⟩]
        rfl
    | unsigned _ legal =>
        have read := (decimal_iff text _).mpr ⟨legal, rfl⟩
        unfold signed?
        split
        · exact absurd (legal.all '-' List.mem_cons_self) (by decide)
        · exact absurd (legal.all '+' List.mem_cons_self) (by decide)
        · rw [read]
          rfl

theorem int32_of_int_iff (value : Int) (number : Int32) : int32OfInt? value = some number ↔ value = number.toInt := by
  constructor
  · intro read
    unfold int32OfInt? at read
    split at read
    · next range =>
        cases read
        rw [Int32.toInt_ofInt_of_le (by omega) (by omega)]
    · cases read
  · rintro rfl
    exact int32_in_range number

theorem int32_iff (text : List Char) (number : Int32) :
    int32? text = some number ↔ Spells number.toInt text := by
  rw [int32?, Option.bind_eq_some_iff]
  constructor
  · rintro ⟨value, read, range⟩
    rw [← (int32_of_int_iff value number).mp range]
    exact (signed_iff text value).mp read
  · exact fun spelled => ⟨_, (signed_iff text _).mpr spelled, int32_in_range number⟩

theorem spells_of_int (value : Int) : Spells value (ofInt value).toList := (signed_iff _ value).mp (signed_of_int value)

theorem spells_chars (value : Int) (text : List Char) (spelled : Spells value text) (c : Char) (member : c ∈ text) :
    isDigit c = true ∨ c = '+' ∨ c = '-' := by
  cases spelled with
  | unsigned _ legal => exact Or.inl (legal.all c member)
  | positive digits legal =>
      rcases List.mem_cons.mp member with sign | later
      · exact Or.inr (Or.inl sign)
      · exact Or.inl (legal.all c later)
  | negative digits legal =>
      rcases List.mem_cons.mp member with sign | later
      · exact Or.inr (Or.inr sign)
      · exact Or.inl (legal.all c later)

theorem spells_solid (value : Int) (text : List Char) (spelled : Spells value text) (c : Char) (member : c ∈ text) :
    isBlank c = false := by
  rcases spells_chars value text spelled c member with digit | rfl | rfl
  · exact digit_not_blank c digit
  · decide
  · decide

def Padded (number : Int32) (text : List Char) : Prop :=
  ∃ before numeral after, text = before ++ numeral ++ after ∧ Blank before ∧ Spells number.toInt numeral ∧ Blank after

theorem padded_iff (text : List Char) (number : Int32) : int32? (trim text) = some number ↔ Padded number text := by
  constructor
  · intro read
    obtain ⟨before, after, blank, alsoBlank, whole⟩ := trim_parts text
    exact ⟨before, trim text, after, whole, blank, (int32_iff _ number).mp read, alsoBlank⟩
  · rintro ⟨before, numeral, after, rfl, blank, spelled, alsoBlank⟩
    rw [trim_of_core before numeral after blank alsoBlank (bare_of_no_blank numeral (spells_solid _ numeral spelled))]
    exact (int32_iff numeral number).mpr spelled

theorem padded_more (number : Int32) (before text after : List Char) (blank : Blank before) (alsoBlank : Blank after)
    (padded : Padded number text) : Padded number (before ++ text ++ after) := by
  rw [← padded_iff] at padded ⊢
  rwa [trim_padded before text after blank alsoBlank]

theorem padded_clean (number : Int32) (text : List Char) (padded : Padded number text) (c : Char)
    (solid : isBlank c = false) (noDigit : isDigit c = false) (noPlus : c ≠ '+') (noMinus : c ≠ '-') : c ∉ text := by
  obtain ⟨before, numeral, after, rfl, blank, spelled, alsoBlank⟩ := padded
  intro member
  rcases List.mem_append.mp member with earlier | last
  · rcases List.mem_append.mp earlier with first | inside
    · exact absurd (blank c first) (by simp [solid])
    · rcases spells_chars _ numeral spelled c inside with digit | plus | minus
      · exact absurd digit (by simp [noDigit])
      · exact noPlus plus
      · exact noMinus minus
  · exact absurd (alsoBlank c last) (by simp [solid])

end ClusterCaps.Text
