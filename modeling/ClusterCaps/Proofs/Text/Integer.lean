import ClusterCaps.Text.Blank
import ClusterCaps.Text.Integer

set_option autoImplicit false

namespace ClusterCaps.Text

theorem digit_char_read (digit : Nat) (small : digit < 10) :
    isDigit (Nat.digitChar digit) = true ∧ digitValue (Nat.digitChar digit) = digit := by
  have every : ∀ digit < 10,
      isDigit (Nat.digitChar digit) = true ∧ digitValue (Nat.digitChar digit) = digit := by decide
  exact every digit small

theorem decimal_from_append (first second : List Char) (value : Nat) :
    decimalFrom value (first ++ second) = (decimalFrom value first).bind fun read => decimalFrom read second := by
  induction first generalizing value with
  | nil => rfl
  | cons c rest ih =>
      rw [List.cons_append, decimalFrom, decimalFrom]
      split
      · exact ih _
      · rfl

theorem decimal_from_digit (value digit : Nat) (small : digit < 10) :
    decimalFrom value [Nat.digitChar digit] = some (value * 10 + digit) := by
  obtain ⟨isDigit, read⟩ := digit_char_read digit small
  rw [decimalFrom, if_pos isDigit, read, decimalFrom]

theorem decimal_from_digits (number : Nat) : decimalFrom 0 (Nat.toDigits 10 number) = some number := by
  induction number using Nat.strongRecOn with
  | ind number ih =>
      rw [Nat.toDigits_eq_if (by decide)]
      split
      · next small => rw [decimal_from_digit 0 number small, Nat.zero_mul, Nat.zero_add]
      · next large =>
          have shorter : number / 10 < number := by omega
          have last : number % 10 < 10 := Nat.mod_lt number (by decide)
          rw [decimal_from_append, ih _ shorter, Option.bind_some, decimal_from_digit _ _ last,
            Nat.div_add_mod']

theorem decimal_of_nat (number : Nat) : decimal? (ofNat number).toList = some number := by
  have read := decimal_from_digits number
  rw [← Nat.toList_repr] at read
  have nonempty : (Nat.repr number).toList ≠ [] := by
    rw [Nat.toList_repr]
    exact Nat.toDigits_ne_nil
  change decimal? (Nat.repr number).toList = some number
  cases digits : (Nat.repr number).toList with
  | nil => exact absurd digits nonempty
  | cons c rest => rwa [digits] at read

theorem is_digit_of_char (c : Char) (digit : c.isDigit = true) : isDigit c = true := by
  simp only [Char.isDigit, Bool.and_eq_true, decide_eq_true_eq, ge_iff_le, UInt32.le_iff_toNat_le] at digit
  simp only [isDigit, Bool.and_eq_true, decide_eq_true_eq]
  exact digit

theorem digit_of_nat (number : Nat) (c : Char) (member : c ∈ (ofNat number).toList) : isDigit c = true := by
  change c ∈ (Nat.repr number).toList at member
  rw [Nat.toList_repr] at member
  exact is_digit_of_char c (Nat.isDigit_of_mem_toDigits (by decide) (by decide) member)

theorem signed_of_nat (number : Nat) : signed? (ofNat number).toList = some (number : Int) := by
  have read := decimal_of_nat number
  have digits := digit_of_nat number
  cases text : (ofNat number).toList with
  | nil => rw [text] at read; cases read
  | cons c rest =>
      rw [text] at read digits
      have first := digits c List.mem_cons_self
      unfold signed?
      split
      · next same => cases same; cases first
      · next same => cases same; cases first
      · rw [read]; rfl

theorem signed_of_int (value : Int) : signed? (ofInt value).toList = some value := by
  unfold ofInt
  split
  · next negative =>
      have minus : ("-" ++ ofNat value.natAbs).toList = '-' :: (ofNat value.natAbs).toList := String.toList_append
      rw [minus, signed?, decimal_of_nat]
      change some (-(value.natAbs : Int)) = some value
      rw [Int.ofNat_natAbs_of_nonpos (by omega), Int.neg_neg]
  · next positive => rw [signed_of_nat, Int.natAbs_of_nonneg (by omega)]

theorem int32_in_range (value : Int32) : int32OfInt? value.toInt = some value := by
  have least := value.le_toInt
  have most := value.toInt_lt
  rw [int32OfInt?, if_pos (by omega), Int32.ofInt_toInt]

theorem int32_of_int (value : Int32) : int32? (ofInt value.toInt).toList = some value := by
  rw [int32?, signed_of_int, Option.bind_some, int32_in_range]

theorem trim_of_no_blank (text : List Char) (clean : ∀ c ∈ text, isBlank c = false) : trim text = text := by
  have stays (part : List Char) (clean : ∀ c ∈ part, isBlank c = false) : part.dropWhile isBlank = part := by
    cases part with
    | nil => rfl
    | cons c rest => rw [List.dropWhile_cons_of_neg (by simp [clean c])]
  rw [trim, trimStart, stays text clean, trimEnd, stays text.reverse, List.reverse_reverse]
  exact fun c member => clean c (List.mem_reverse.mp member)

theorem digit_not_blank (c : Char) (digit : isDigit c = true) : isBlank c = false := by
  simp only [isDigit, Bool.and_eq_true, decide_eq_true_eq] at digit
  simp [isBlank]
  omega

theorem trim_of_int (value : Int) : trim (ofInt value).toList = (ofInt value).toList := by
  apply trim_of_no_blank
  unfold ofInt
  intro c member
  split at member
  · rw [String.toList_append] at member
    rcases List.mem_append.mp member with sign | digit
    · cases List.mem_singleton.mp sign
      decide
    · exact digit_not_blank c (digit_of_nat _ c digit)
  · exact digit_not_blank c (digit_of_nat _ c member)

theorem padded_length (width value : Nat) : (paddedDecimal width value).length = width := by
  induction width generalizing value with
  | zero => rfl
  | succ width ih => rw [paddedDecimal, List.length_append, ih, List.length_singleton]

theorem padded_digits (width value : Nat) : ∀ c ∈ paddedDecimal width value, isDigit c = true := by
  induction width generalizing value with
  | zero => exact List.forall_mem_nil _
  | succ width ih =>
      have last : value % 10 < 10 := Nat.mod_lt value (by decide)
      exact List.forall_mem_append.mpr ⟨ih _, List.forall_mem_singleton.mpr (digit_char_read _ last).1⟩

def SpellsOne (text : List Char) : Prop :=
  ∃ sign zeros, (sign = [] ∨ sign = ['+']) ∧ text = sign ++ List.replicate zeros '0' ++ ['1']

theorem decimal_from_least (value number : Nat) (text : List Char) (read : decimalFrom value text = some number) :
    value ≤ number := by
  induction text generalizing value with
  | nil => exact Nat.le_of_eq (Option.some.inj read)
  | cons c rest ih =>
      by_cases digit : isDigit c = true
      · rw [decimalFrom, if_pos digit] at read
        have least := ih _ read
        omega
      · simp [decimalFrom, digit] at read

theorem decimal_from_stays (value : Nat) (text : List Char) (positive : 0 < value) :
    decimalFrom value text = some value ↔ text = [] := by
  cases text with
  | nil => simp [decimalFrom]
  | cons c rest =>
      by_cases digit : isDigit c = true
      · rw [decimalFrom, if_pos digit]
        refine ⟨fun read => ?_, nofun⟩
        have least := decimal_from_least _ _ _ read
        omega
      · simp [decimalFrom, digit]

theorem digit_char (c : Char) (digit : isDigit c = true) (value : Nat) (worth : digitValue c = value) :
    c = Char.ofNat (48 + value) := by
  simp only [isDigit, Bool.and_eq_true, decide_eq_true_eq] at digit
  rw [← worth, digitValue, Nat.add_sub_cancel' digit.1, Char.ofNat_toNat]

theorem decimal_from_zeros (zeros : Nat) : decimalFrom 0 (List.replicate zeros '0' ++ ['1']) = some 1 := by
  induction zeros with
  | zero => rfl
  | succ zeros ih => exact ih

theorem zeros_of_decimal_from (text : List Char) (one : decimalFrom 0 text = some 1) :
    ∃ zeros, text = List.replicate zeros '0' ++ ['1'] := by
  induction text with
  | nil => cases one
  | cons c rest ih =>
      by_cases digit : isDigit c = true
      · rw [decimalFrom, if_pos digit, Nat.zero_mul, Nat.zero_add] at one
        have least := decimal_from_least _ _ _ one
        rcases Nat.le_one_iff_eq_zero_or_eq_one.mp least with zero | unit
        · rw [zero] at one
          obtain ⟨zeros, rfl⟩ := ih one
          exact ⟨zeros + 1, congrArg (· :: _) (digit_char c digit 0 zero)⟩
        · rw [unit] at one
          rw [(decimal_from_stays 1 rest Nat.one_pos).mp one, digit_char c digit 1 unit]
          exact ⟨0, rfl⟩
      · simp [decimalFrom, digit] at one

theorem decimal_one_iff (text : List Char) :
    decimal? text = some 1 ↔ ∃ zeros, text = List.replicate zeros '0' ++ ['1'] := by
  constructor
  · intro one
    cases text with
    | nil => cases one
    | cons c rest => exact zeros_of_decimal_from _ one
  · rintro ⟨zeros, rfl⟩
    cases zeros with
    | zero => rfl
    | succ zeros => exact decimal_from_zeros (zeros + 1)

theorem uint32_one_iff (text : List Char) : uint32? text = some 1 ↔ SpellsOne text := by
  have small : uint32? text = some 1 ↔ unsigned? text = some 1 := by
    simp [uint32?, Option.filter_eq_some_iff]
  rw [small]
  constructor
  · intro one
    unfold unsigned? at one
    split at one
    · obtain ⟨zeros, rfl⟩ := (decimal_one_iff _).mp one
      exact ⟨['+'], zeros, Or.inr rfl, rfl⟩
    · obtain ⟨zeros, rfl⟩ := (decimal_one_iff _).mp one
      exact ⟨[], zeros, Or.inl rfl, rfl⟩
  · rintro ⟨sign, zeros, rfl | rfl, rfl⟩
    · have one := (decimal_one_iff (List.replicate zeros '0' ++ ['1'])).mpr ⟨zeros, rfl⟩
      cases zeros with
      | zero => exact one
      | succ zeros => exact one
    · exact (decimal_one_iff _).mpr ⟨zeros, rfl⟩

instance (text : List Char) : Decidable (SpellsOne text) := decidable_of_iff _ (uint32_one_iff text)

end ClusterCaps.Text
