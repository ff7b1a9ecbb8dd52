import ClusterCaps.PassId
import ClusterCaps.Proofs.Text.Bytes
import ClusterCaps.Proofs.Text.Integer

set_option autoImplicit false

namespace ClusterCaps.PassId

def compose (date clock suffix : List Char) : List Char :=
  ['s', 'c', '-'] ++ date ++ '-' :: (clock ++ '-' :: suffix)

def Fills (length : Nat) (legal : Char → Bool) (text : List Char) : Prop :=
  text.length = length ∧ ∀ c ∈ text, legal c = true

def Written (text : List Char) : Prop :=
  ∃ date clock suffix, text = compose date clock suffix ∧
    Fills 8 Text.isDigit date ∧ Fills 6 Text.isDigit clock ∧ Fills 4 isSuffixChar suffix

-- The marks are in place. What stands between them may be anything of the right size.
structure Marked (text date clock suffix : List Char) : Prop where
  whole : text = compose date clock suffix
  date : (Text.bytes date).length = 8
  clock : (Text.bytes clock).length = 6
  suffix : (Text.bytes suffix).length = 4

def marked (text : List Char) : Bool :=
  (Text.dropPrefix? ['s', 'c', '-'] text).isSome && (Text.bytes text)[11]? == some 45 &&
    (Text.bytes text)[18]? == some 45

theorem bytes_compose (date clock suffix : List Char) :
    Text.bytes (compose date clock suffix) =
      [115, 99, 45] ++ Text.bytes date ++ 45 :: (Text.bytes clock ++ 45 :: Text.bytes suffix) := by
  have start : Text.bytes ['s', 'c', '-'] = [115, 99, 45] := rfl
  have mark : String.utf8EncodeChar '-' = [45] := rfl
  simp only [compose, Text.bytes_append, Text.bytes_cons, start, mark, List.singleton_append]

theorem dash_at (text : List Char) (offset : Nat) (there : (Text.bytes text)[offset]? = some 45) :
    ∃ before after, text = before ++ '-' :: after ∧ (Text.bytes before).length = offset := by
  obtain ⟨before, c, after, whole, length, code⟩ := Text.ascii_at text offset 45 (by decide) there
  have dash : c = '-' := Char.toNat_inj.mp code
  exact ⟨before, after, dash ▸ whole, length⟩

theorem marked_iff (text : List Char) :
    ((Text.bytes text).length = 23 ∧ marked text = true) ↔
      ∃ date clock suffix, Marked text date clock suffix := by
  simp only [marked, Bool.and_eq_true, beq_iff_eq, Option.isSome_iff_exists]
  constructor
  · rintro ⟨length, ⟨⟨rest, dropped⟩, first⟩, second⟩
    rw [Text.eq_append_of_dropPrefix? _ _ _ dropped] at length first second ⊢
    have start : Text.bytes ['s', 'c', '-'] = [115, 99, 45] := rfl
    have mark : String.utf8EncodeChar '-' = [45] := rfl
    rw [Text.bytes_append, start] at length first second
    obtain ⟨date, later, rfl, dateLength⟩ := dash_at rest 8 first
    have behind : (Text.bytes later)[6]? = some 45 := by
      simpa [Text.bytes_append, Text.bytes_cons, mark, List.getElem?_append, dateLength] using second
    obtain ⟨clock, suffix, rfl, clockLength⟩ := dash_at later 6 behind
    refine ⟨date, clock, suffix, by simp [compose], dateLength, clockLength, ?_⟩
    simp only [Text.bytes_append, Text.bytes_cons, mark, List.length_append, List.length_cons, List.length_nil,
      dateLength, clockLength] at length
    omega
  · rintro ⟨date, clock, suffix, rfl, dateLength, clockLength, suffixLength⟩
    rw [bytes_compose]
    refine ⟨by simp [dateLength, clockLength, suffixLength],
      ⟨⟨date ++ '-' :: (clock ++ '-' :: suffix), ?_⟩, ?_⟩, ?_⟩
    · rw [compose, List.append_assoc]
      exact Text.dropPrefix?_append _ _
    · simp [dateLength]
    · simp [List.getElem?_append, dateLength, clockLength]

-- With the marks in place every cut falls between characters.
theorem well_formed_marked (text date clock suffix : List Char) (inPlace : Marked text date clock suffix) :
    wellFormed? text =
      some (date.all Text.isDigit && clock.all Text.isDigit && suffix.all isSuffixChar) := by
  obtain ⟨length, marks⟩ := (marked_iff text).mpr ⟨date, clock, suffix, inPlace⟩
  obtain ⟨rfl, dateLength, clockLength, suffixLength⟩ := inPlace
  have size (first second : List Char) :
      (Text.bytes (first ++ second)).length = (Text.bytes first).length + (Text.bytes second).length := by
    rw [Text.bytes_append, List.length_append]
  have start : (Text.bytes ['s', 'c', '-']).length = 3 := rfl
  have mark : (Text.bytes ['-']).length = 1 := rfl
  have dateCut : Text.slice? (compose date clock suffix) 3 11 = some date :=
    Text.slice_between ['s', 'c', '-'] date _ 3 11 start (by rw [size, start, dateLength])
  have clockCut : Text.slice? (compose date clock suffix) 12 18 = some clock := by
    have whole : compose date clock suffix = (['s', 'c', '-'] ++ date ++ ['-']) ++ clock ++ '-' :: suffix := by
      simp [compose]
    rw [whole]
    refine Text.slice_between _ clock _ 12 18 ?_ ?_
    · rw [size, size, start, dateLength, mark]
    · rw [size, size, size, start, dateLength, mark, clockLength]
  have suffixCut : Text.slice? (compose date clock suffix) 19 23 = some suffix := by
    have whole : compose date clock suffix =
        (['s', 'c', '-'] ++ date ++ ['-'] ++ clock ++ ['-']) ++ suffix ++ [] := by
      simp [compose]
    rw [whole]
    refine Text.slice_between _ suffix [] 19 23 ?_ ?_
    · rw [size, size, size, size, start, dateLength, mark, clockLength]
    · rw [size, size, size, size, size, start, dateLength, mark, clockLength, suffixLength]
  unfold marked at marks
  simp only [wellFormed?, length, marks, dateCut, clockCut, suffixCut]
  rfl

theorem well_formed_unmarked (text : List Char) (out : ¬ ∃ date clock suffix, Marked text date clock suffix) :
    wellFormed? text = some false := by
  rw [← marked_iff] at out
  by_cases length : (Text.bytes text).length = 23
  · have marks : marked text = false := by simpa [length] using out
    unfold marked at marks
    simp only [wellFormed?, length, marks]
    rfl
  · simp only [wellFormed?]
    rw [if_pos length]

theorem digit_ascii (c : Char) (digit : Text.isDigit c = true) : c.toNat < 128 := by
  simp only [Text.isDigit, Bool.and_eq_true, decide_eq_true_eq] at digit
  omega

theorem suffix_char_ascii (c : Char) (legal : isSuffixChar c = true) : c.toNat < 128 := by
  simp only [isSuffixChar, Bool.or_eq_true, Bool.and_eq_true, decide_eq_true_eq] at legal
  omega

theorem fills_iff (length : Nat) (legal : Char → Bool) (text : List Char)
    (ascii : ∀ c, legal c = true → c.toNat < 128) :
    Fills length legal text ↔ (Text.bytes text).length = length ∧ text.all legal = true := by
  rw [Fills, List.all_eq_true]
  refine and_congr_left fun all => ?_
  rw [Text.ascii_length text fun c member => ascii c (all c member)]

theorem well_formed_iff (text : List Char) : wellFormed? text = some true ↔ Written text := by
  have written : Written text ↔ ∃ date clock suffix, Marked text date clock suffix ∧
      date.all Text.isDigit = true ∧ clock.all Text.isDigit = true ∧ suffix.all isSuffixChar = true := by
    simp only [Written, fills_iff _ _ _ digit_ascii, fills_iff _ _ _ suffix_char_ascii]
    refine exists_congr fun date => exists_congr fun clock => exists_congr fun suffix => ?_
    constructor
    · rintro ⟨whole, ⟨dateLength, dateDigits⟩, ⟨clockLength, clockDigits⟩, suffixLength, suffixChars⟩
      exact ⟨⟨whole, dateLength, clockLength, suffixLength⟩, dateDigits, clockDigits, suffixChars⟩
    · rintro ⟨⟨whole, dateLength, clockLength, suffixLength⟩, dateDigits, clockDigits, suffixChars⟩
      exact ⟨whole, ⟨dateLength, dateDigits⟩, ⟨clockLength, clockDigits⟩, suffixLength, suffixChars⟩
  rw [written]
  constructor
  · intro accepted
    by_cases inPlace : ∃ date clock suffix, Marked text date clock suffix
    · obtain ⟨date, clock, suffix, marks⟩ := inPlace
      rw [well_formed_marked text date clock suffix marks, Option.some.injEq, Bool.and_eq_true,
        Bool.and_eq_true] at accepted
      exact ⟨date, clock, suffix, marks, accepted.1.1, accepted.1.2, accepted.2⟩
    · rw [well_formed_unmarked text inPlace] at accepted
      cases accepted
  · rintro ⟨date, clock, suffix, marks, dateDigits, clockDigits, suffixChars⟩
    rw [well_formed_marked text date clock suffix marks, dateDigits, clockDigits, suffixChars]
    rfl

theorem never_miscut (text : List Char) : wellFormed? text ≠ none := by
  by_cases inPlace : ∃ date clock suffix, Marked text date clock suffix
  · obtain ⟨date, clock, suffix, marks⟩ := inPlace
    rw [well_formed_marked text date clock suffix marks]
    exact Option.some_ne_none _
  · rw [well_formed_unmarked text inPlace]
    exact Option.some_ne_none _

theorem parse_iff (text : String) : parse? text = some ⟨text⟩ ↔ Written text.toList := by
  rw [parse?, ← well_formed_iff]
  by_cases accepted : wellFormed? text.toList = some true <;> simp [accepted]

theorem parse_none_iff (text : String) : parse? text = none ↔ ¬ Written text.toList := by
  rw [parse?, ← well_formed_iff]
  by_cases accepted : wellFormed? text.toList = some true <;> simp [accepted]

def dateText (date : Timestamp.Date) : List Char :=
  Timestamp.yearText date.year ++ Text.paddedDecimal 2 date.month ++ Text.paddedDecimal 2 date.day

def clockText (time : Timestamp) : List Char :=
  Text.paddedDecimal 2 (time.secondOfDay / 3600) ++ Text.paddedDecimal 2 (time.secondOfDay / 60 % 60) ++
    Text.paddedDecimal 2 (time.secondOfDay % 60 + if time.isLeap then 1 else 0)

theorem generate_text (time : Timestamp) (bytes : List UInt8) :
    (generate time bytes).text.toList = compose (dateText time.date) (clockText time) (suffix (seed bytes)) := by
  simp [generate, compose, dateText, clockText]

theorem fills_append (first second : Nat) (legal : Char → Bool) (left right : List Char)
    (fills : Fills first legal left) (more : Fills second legal right) :
    Fills (first + second) legal (left ++ right) :=
  ⟨by rw [List.length_append, fills.1, more.1], List.forall_mem_append.mpr ⟨fills.2, more.2⟩⟩

theorem padded_fills (width value : Nat) : Fills width Text.isDigit (Text.paddedDecimal width value) :=
  ⟨Text.padded_length width value, Text.padded_digits width value⟩

theorem date_text_fills (date : Timestamp.Date) (first : 0 ≤ date.year) (last : date.year ≤ 9999) :
    Fills 8 Text.isDigit (dateText date) := by
  rw [dateText, Timestamp.yearText, if_pos ⟨first, last⟩]
  exact fills_append 6 2 _ _ _ (fills_append 4 2 _ _ _ (padded_fills 4 _) (padded_fills 2 _)) (padded_fills 2 _)

theorem clock_text_fills (time : Timestamp) : Fills 6 Text.isDigit (clockText time) :=
  fills_append 4 2 _ _ _ (fills_append 2 2 _ _ _ (padded_fills 2 _) (padded_fills 2 _)) (padded_fills 2 _)

theorem alphabet_legal : ∀ c ∈ alphabet, isSuffixChar c = true := List.all_eq_true.mp (by decide)

theorem suffix_fills (seed : Nat) : Fills 4 isSuffixChar (suffix seed) := by
  refine ⟨rfl, fun c member => alphabet_legal c ?_⟩
  obtain ⟨unit, -, rfl⟩ := List.mem_map.mp member
  have inside : seed / unit % 32 < alphabet.length := Nat.mod_lt _ (by decide)
  rw [← List.getElem_eq_getD (h := inside)]
  exact List.getElem_mem inside

theorem generate_written (time : Timestamp) (bytes : List UInt8) (first : 0 ≤ time.date.year)
    (last : time.date.year ≤ 9999) : Written (generate time bytes).text.toList :=
  ⟨_, _, _, generate_text time bytes, date_text_fills time.date first last, clock_text_fills time,
    suffix_fills (seed bytes)⟩

theorem same_second (time later : Timestamp) (one other : List UInt8) (seconds : later.seconds = time.seconds)
    (leap : later.isLeap = time.isLeap) :
    generate time one = generate later other ↔ suffix (seed one) = suffix (seed other) := by
  have date : later.date = time.date := by rw [Timestamp.date, seconds, Timestamp.date]
  have clock : clockText later = clockText time := by
    rw [clockText, clockText, Timestamp.secondOfDay, seconds, leap, Timestamp.secondOfDay]
  have text : generate time one = generate later other ↔
      (generate time one).text.toList = (generate later other).text.toList := by
    rw [String.toList_inj, PassId.mk.injEq]
  rw [text, generate_text, generate_text, date, clock, compose, compose]
  simp

theorem letter_inj (one other : Nat) (same : alphabet.getD (one % 32) 'a' = alphabet.getD (other % 32) 'a') :
    one % 32 = other % 32 := by
  have distinct : alphabet.Nodup := by decide
  exact (List.getD_inj (Nat.mod_lt one (by decide)) (Nat.mod_lt other (by decide)) distinct).mp same

-- Four letters of five bits spell out all twenty bits.
theorem suffix_inj (one other : Nat) (oneSmall : one < 1048576) (otherSmall : other < 1048576) :
    suffix one = suffix other ↔ one = other := by
  refine ⟨fun same => ?_, fun same => same ▸ rfl⟩
  simp only [suffix, List.map_cons, List.map_nil, List.cons.injEq, and_true] at same
  obtain ⟨first, second, third, fourth⟩ := same
  have first := letter_inj _ _ first
  have second := letter_inj _ _ second
  have third := letter_inj _ _ third
  have fourth := letter_inj _ _ fourth
  omega

theorem seed_small (bytes : List UInt8) : seed bytes < 1048576 := Nat.mod_lt _ (by decide)

theorem seed_bytes (first second third : UInt8) (rest : List UInt8) :
    seed (first :: second :: third :: rest) =
      (first &&& 0x0F).toNat * 65536 + second.toNat * 256 + third.toNat := by
  have low : (first &&& 0x0F).toNat = first.toNat % 16 := Nat.and_two_pow_sub_one_eq_mod first.toNat 4
  have whole : seed (first :: second :: third :: rest) =
      (((0 * 256 + first.toNat) * 256 + second.toNat) * 256 + third.toNat) % 1048576 := rfl
  have secondSmall := second.toNat_lt
  have thirdSmall := third.toNat_lt
  rw [low, whole]
  omega

theorem seed_inj (one other : Vector UInt8 16) :
    seed one.toList = seed other.toList ↔
      one[0] &&& (0x0F : UInt8) = other[0] &&& (0x0F : UInt8) ∧ one[1] = other[1] ∧ one[2] = other[2] := by
  have place (bytes : Vector UInt8 16) (index : Nat) (inside : index < 16) :
      bytes[index] :: bytes.toList.drop (index + 1) = bytes.toList.drop index := by
    have long : index < bytes.toList.length := by rwa [Vector.length_toList]
    rw [← Vector.getElem_toList long]
    exact List.getElem_cons_drop long
  have start (bytes : Vector UInt8 16) :
      bytes.toList = bytes[0] :: bytes[1] :: bytes[2] :: bytes.toList.drop 3 := by
    rw [place bytes 2, place bytes 1, place bytes 0, List.drop_zero]
  have oneSecond := one[1].toNat_lt
  have oneThird := one[2].toNat_lt
  have otherSecond := other[1].toNat_lt
  have otherThird := other[2].toNat_lt
  rw [start one, start other, seed_bytes, seed_bytes, ← UInt8.toNat_inj, ← UInt8.toNat_inj, ← UInt8.toNat_inj]
  omega

-- No text is cut inside a character, and a text is read exactly when it has the form of a name. What is drawn at a
-- time whose year has four digits is read back; two names of one second are equal exactly when their twenty bits
-- are.
theorem recognised_and_drawn :
    (∀ text : String,
      wellFormed? text.toList ≠ none ∧
      (parse? text = some ⟨text⟩ ↔ Written text.toList) ∧
      (parse? text = none ↔ ¬ Written text.toList)) ∧
    ∀ time : Timestamp, 0 ≤ time.date.year → time.date.year ≤ 9999 →
      (∀ bytes : Vector UInt8 16,
        parse? (generate time bytes.toList).text = some (generate time bytes.toList)) ∧
      ∀ (later : Timestamp) (one other : Vector UInt8 16),
        later.seconds = time.seconds → later.isLeap = time.isLeap →
        (generate time one.toList = generate later other.toList ↔
          one[0] &&& (0x0F : UInt8) = other[0] &&& (0x0F : UInt8) ∧ one[1] = other[1] ∧ one[2] = other[2]) := by
  refine ⟨fun text => ⟨never_miscut text.toList, parse_iff text, parse_none_iff text⟩, ?_⟩
  intro time first last
  refine ⟨fun bytes => ?_, fun later one other seconds leap => ?_⟩
  · exact (parse_iff _).mpr (generate_written time bytes.toList first last)
  · rw [same_second time later _ _ seconds leap, suffix_inj _ _ (seed_small _) (seed_small _), seed_inj]

-- The high bits of the first byte are lost.
theorem drawn_on_one_afternoon :
    let time : Timestamp := ⟨1768487422, 0⟩
    let one : Vector UInt8 16 := ⟨#[0x10, 0x7e, 0xf0, 4, 5, 6, 7, 8, 9, 10, 11, 12, 13, 14, 15, 16], rfl⟩
    let other : Vector UInt8 16 := ⟨#[0xa0, 0x7e, 0xf0, 0, 0, 0, 0, 0, 0, 0, 0, 0, 0, 0, 0, 0], rfl⟩
    (0 ≤ time.date.year ∧ time.date.year ≤ 9999) ∧
    generate time one.toList = generate ⟨1768487422, 999⟩ other.toList ∧
    (generate time one.toList).text = "sc-20260115-143022-a7xq" ∧
    parse? "sc-20260115-143022-a7xq" = some ⟨"sc-20260115-143022-a7xq"⟩ := by
  intro time one other
  have first : 0 ≤ time.date.year := by decide
  have last : time.date.year ≤ 9999 := by decide
  have name : (generate time one.toList).text = "sc-20260115-143022-a7xq" := by decide +kernel
  obtain ⟨readBack, oneSecond⟩ := recognised_and_drawn.2 time first last
  refine ⟨⟨first, last⟩, ?_, name, ?_⟩
  · exact (oneSecond ⟨1768487422, 999⟩ one other rfl rfl).mpr (by decide)
  · have read := readBack one
    rw [name] at read
    rw [read, ← name]

end ClusterCaps.PassId
