import ClusterCaps.Text.Blank
import ClusterCaps.Text.Scan

set_option autoImplicit false

namespace ClusterCaps.Text

def Blank (text : List Char) : Prop := ∀ c ∈ text, isBlank c = true

structure Bare (text : List Char) : Prop where
  first : ∀ c, text.head? = some c → isBlank c = false
  last : ∀ c, text.getLast? = some c → isBlank c = false

theorem blank_reverse (text : List Char) (blank : Blank text) : Blank text.reverse :=
  fun c member => blank c (List.mem_reverse.mp member)

theorem trim_start_blank (before text : List Char) (blank : Blank before) :
    trimStart (before ++ text) = trimStart text := List.dropWhile_append_of_pos blank

theorem trim_end_blank (text after : List Char) (blank : Blank after) : trimEnd (text ++ after) = trimEnd text := by
  have flipped := trim_start_blank after.reverse text.reverse (blank_reverse after blank)
  rw [← List.reverse_append] at flipped
  exact congrArg List.reverse flipped

-- A character that is no blank shields what stands behind it, or before it.
theorem trim_start_shield (before after : List Char) (c : Char) (solid : isBlank c = false) :
    trimStart (before ++ c :: after) = trimStart before ++ c :: after := by
  induction before with
  | nil => exact List.dropWhile_cons_of_neg (by simp [solid])
  | cons first before ih =>
      by_cases blank : isBlank first = true
      · rw [List.cons_append, trimStart, trimStart, List.dropWhile_cons_of_pos blank, List.dropWhile_cons_of_pos blank]
        exact ih
      · rw [List.cons_append, trimStart, trimStart, List.dropWhile_cons_of_neg blank,
          List.dropWhile_cons_of_neg blank, List.cons_append]

theorem trim_end_shield (before after : List Char) (c : Char) (solid : isBlank c = false) :
    trimEnd (before ++ c :: after) = before ++ c :: trimEnd after := by
  have flipped := trim_start_shield after.reverse before.reverse c solid
  have whole : (before ++ c :: after).reverse = after.reverse ++ c :: before.reverse := by simp
  change (trimStart (before ++ c :: after).reverse).reverse = before ++ c :: (trimStart after.reverse).reverse
  rw [whole, flipped]
  simp

theorem trim_shield (before after : List Char) (c : Char) (solid : isBlank c = false) :
    trim (before ++ c :: after) = trimStart before ++ c :: trimEnd after := by
  rw [trim, trim_start_shield before after c solid, trim_end_shield _ after c solid]

theorem trim_start_first (text : List Char) (c : Char) (first : (trimStart text).head? = some c) :
    isBlank c = false := by
  have solid := List.head?_dropWhile_not isBlank text
  rw [trimStart] at first
  rwa [first] at solid

theorem trim_start_stays (text : List Char) (solid : ∀ c, text.head? = some c → isBlank c = false) :
    trimStart text = text := by
  cases text with
  | nil => rfl
  | cons c rest => exact List.dropWhile_cons_of_neg (by simp [solid c rfl])

theorem trim_end_stays (text : List Char) (solid : ∀ c, text.getLast? = some c → isBlank c = false) :
    trimEnd text = text := by
  have flipped := trim_start_stays text.reverse fun c last => solid c (List.head?_reverse.symm.trans last)
  change (trimStart text.reverse).reverse = text
  rw [flipped, List.reverse_reverse]

theorem trim_start_parts (text : List Char) : ∃ before, Blank before ∧ text = before ++ trimStart text := by
  refine ⟨text.takeWhile isBlank, ?_, List.takeWhile_append_dropWhile.symm⟩
  exact List.all_eq_true.mp List.all_takeWhile

theorem trim_end_parts (text : List Char) : ∃ after, Blank after ∧ text = trimEnd text ++ after := by
  obtain ⟨before, blank, whole⟩ := trim_start_parts text.reverse
  refine ⟨before.reverse, blank_reverse before blank, ?_⟩
  have flipped := congrArg List.reverse whole
  rwa [List.reverse_reverse, List.reverse_append] at flipped

theorem trim_parts (text : List Char) :
    ∃ before after, Blank before ∧ Blank after ∧ text = before ++ trim text ++ after := by
  obtain ⟨before, blank, whole⟩ := trim_start_parts text
  obtain ⟨after, alsoBlank, rest⟩ := trim_end_parts (trimStart text)
  refine ⟨before, after, blank, alsoBlank, ?_⟩
  rw [List.append_assoc]
  exact whole.trans (congrArg (before ++ ·) rest)

theorem trim_bare (text : List Char) : Bare (trim text) := by
  constructor
  · intro c first
    obtain ⟨after, _, whole⟩ := trim_end_parts (trimStart text)
    apply trim_start_first text c
    rw [whole, List.head?_append]
    exact congrArg (·.or after.head?) first
  · intro c last
    apply trim_start_first (trimStart text).reverse c
    rw [← List.getLast?_reverse]
    exact last

theorem trim_of_core (before core after : List Char) (blank : Blank before) (alsoBlank : Blank after)
    (bare : Bare core) : trim (before ++ core ++ after) = core := by
  rw [trim, List.append_assoc, trim_start_blank before _ blank]
  cases core with
  | nil =>
      have nothing := trim_start_blank after [] alsoBlank
      rw [List.append_nil] at nothing
      rw [List.nil_append, nothing]
      rfl
  | cons c rest =>
      rw [trim_start_stays (c :: rest ++ after) bare.first, trim_end_blank _ after alsoBlank,
        trim_end_stays _ bare.last]

theorem blank_trim (text : List Char) (blank : Blank text) : trim text = [] := by
  have nothing := trim_of_core text [] [] blank (List.forall_mem_nil _) ⟨nofun, nofun⟩
  rwa [List.append_nil, List.append_nil] at nothing

theorem all_blank_iff (text : String) : allBlank text = true ↔ trimmed text = "" := by
  rw [trimmed, ← String.toList_inj, String.toList_ofList]
  constructor
  · exact fun blank => blank_trim text.toList (List.all_eq_true.mp blank)
  · intro nothing
    obtain ⟨before, after, blank, alsoBlank, whole⟩ := trim_parts text.toList
    rw [nothing, String.toList_empty, List.append_nil] at whole
    exact List.all_eq_true.mpr (whole ▸ List.forall_mem_append.mpr ⟨blank, alsoBlank⟩)

theorem trim_padded (before text after : List Char) (blank : Blank before) (alsoBlank : Blank after) :
    trim (before ++ text ++ after) = trim text := by
  obtain ⟨first, last, blankFirst, blankLast, whole⟩ := trim_parts text
  have same := trim_of_core (before ++ first) (trim text) (last ++ after)
    (List.forall_mem_append.mpr ⟨blank, blankFirst⟩) (List.forall_mem_append.mpr ⟨blankLast, alsoBlank⟩)
    (trim_bare text)
  have padded : before ++ text ++ after = before ++ first ++ trim text ++ (last ++ after) := by
    rw [congrArg (before ++ · ++ after) whole]
    simp only [List.append_assoc]
  rw [padded, same]

theorem trim_of_trim_start (text : List Char) : trim (trimStart text) = trim text := by
  obtain ⟨before, blank, whole⟩ := trim_start_parts text
  have same := trim_padded before (trimStart text) [] blank (List.forall_mem_nil _)
  rw [List.append_nil, ← whole] at same
  exact same.symm

theorem trim_of_trim_end (text : List Char) : trim (trimEnd text) = trim text := by
  obtain ⟨after, blank, whole⟩ := trim_end_parts text
  have same := trim_padded [] (trimEnd text) after (List.forall_mem_nil _) blank
  rw [List.nil_append, ← whole] at same
  exact same.symm

theorem bare_of_no_blank (text : List Char) (solid : ∀ c ∈ text, isBlank c = false) : Bare text :=
  ⟨fun c first => solid c (List.mem_of_mem_head? first), fun c last => solid c (List.mem_of_getLast? last)⟩

theorem split_on_eq (separator : Char) (text : List Char) : splitOn separator text = text.splitOn separator := by
  induction text with
  | nil => rfl
  | cons c rest ih =>
      rw [splitOn, List.splitOn_cons_eq_if_modifyHead, ih]
      by_cases stop : c = separator
      · simp [stop]
      · have differs : (c == separator) = false := by simpa using stop
        rw [if_neg stop, differs]
        cases pieces : rest.splitOn separator with
        | nil => exact absurd pieces (List.splitOn_ne_nil separator rest)
        | cons piece later => rfl

theorem split_on_length (separator : Char) (text : List Char) :
    (splitOn separator text).length = text.count separator + 1 := by
  induction text with
  | nil => rfl
  | cons c rest ih =>
      rw [splitOn]
      by_cases stop : c = separator
      · rw [if_pos stop, List.length_cons, ih, stop, List.count_cons_self]
      · rw [if_neg stop, List.count_cons_of_ne stop, ← ih]
        cases pieces : splitOn separator rest with
        | nil => exact absurd pieces (splitOn_ne_nil separator rest)
        | cons piece later => rfl

theorem split_on_clean (separator : Char) (text : List Char) (clean : separator ∉ text) :
    splitOn separator text = [text] := by
  rw [split_on_eq, List.splitOn_eq_singleton clean]

theorem split_on_append (separator : Char) (first second : List Char) :
    splitOn separator (first ++ separator :: second) = splitOn separator first ++ splitOn separator second := by
  simp only [split_on_eq, List.splitOn_append_cons_self]

theorem split_on_cut (separator : Char) (first second : List Char) (clean : separator ∉ first) :
    splitOn separator (first ++ separator :: second) = first :: splitOn separator second := by
  rw [split_on_append, split_on_clean separator first clean, List.singleton_append]

theorem split_on_two (separator : Char) (text first second : List Char) (more : List (List Char))
    (pieces : splitOn separator text = first :: second :: more) :
    ∃ rest, text = first ++ separator :: (second ++ rest) ∧ (rest = [] ∨ ∃ tail, rest = separator :: tail) := by
  have whole : [separator].intercalate (text.splitOn separator) = text := List.intercalate_splitOn separator
  rw [← split_on_eq, pieces] at whole
  cases more with
  | nil => exact ⟨[], by simp [← whole, List.intercalate], Or.inl rfl⟩
  | cons third later =>
      exact ⟨separator :: [separator].intercalate (third :: later), by simp [← whole, List.intercalate],
        Or.inr ⟨_, rfl⟩⟩

theorem piece_clean (separator : Char) (text piece : List Char) (member : piece ∈ splitOn separator text) :
    separator ∉ piece := by
  induction text generalizing piece with
  | nil =>
      cases List.mem_singleton.mp member
      exact List.not_mem_nil
  | cons c rest ih =>
      rw [splitOn] at member
      by_cases stop : c = separator
      · rw [if_pos stop] at member
        rcases List.mem_cons.mp member with rfl | later
        · exact List.not_mem_nil
        · exact ih piece later
      · rw [if_neg stop] at member
        cases pieces : splitOn separator rest with
        | nil => exact absurd pieces (splitOn_ne_nil separator rest)
        | cons head tail =>
            rw [pieces] at member ih
            rcases List.mem_cons.mp member with rfl | later
            · exact List.not_mem_cons_of_ne_of_not_mem (Ne.symm stop) (ih head List.mem_cons_self)
            · exact ih piece (List.mem_cons_of_mem head later)

theorem joined_chars (separator : Char) (texts : List String) :
    (joined (String.singleton separator) texts).toList = [separator].intercalate (texts.map String.toList) := by
  induction texts with
  | nil => rfl
  | cons text rest ih =>
      cases rest with
      | nil => simp [joined, List.intercalate]
      | cons next rest =>
          have step : joined (String.singleton separator) (text :: next :: rest) =
              text ++ String.singleton separator ++ joined (String.singleton separator) (next :: rest) := rfl
          rw [step, String.toList_append, String.toList_append, ih, String.toList_singleton]
          simp [List.intercalate]

end ClusterCaps.Text
