import Mathlib.Data.List.Forall2
import ClusterCaps.Proofs.Text.Pieces
import ClusterCaps.Report.Layout

set_option autoImplicit false

namespace ClusterCaps.Report

-- A line break ends a line; the last line may do without.
def lines : List Char → List (List Char)
  | [] => []
  | c :: rest =>
    if c = '\n' then [] :: lines rest
    else
      match lines rest with
      | [] => [[c]]
      | line :: more => (c :: line) :: more

def cells (line : List Char) : List (List Char) := ((Text.splitOn '|' line).drop 1).dropLast

inductive Slot where
  | prose
  | row (columns : Nat)

def Fits : Slot → List Char → Prop
  | .prose, _ => True
  | .row columns, line => (cells line).length = columns

def Shaped (plan : List Slot) (text : String) : Prop := List.Forall₂ Fits plan (lines text.toList)

def tablePlan (columns rows : Nat) : List Slot := List.replicate (rows + 2) (.row columns)

def Unbroken (text : String) : Prop := '\n' ∉ text.toList

structure Plain (text : String) : Prop where
  unbroken : Unbroken text
  undivided : '|' ∉ text.toList

instance (text : String) : Decidable (Unbroken text) := inferInstanceAs (Decidable (_ ∉ _))

theorem plain_iff (text : String) : Plain text ↔ Unbroken text ∧ '|' ∉ text.toList :=
  ⟨fun plain => ⟨plain.unbroken, plain.undivided⟩, fun ⟨unbroken, undivided⟩ => ⟨unbroken, undivided⟩⟩

instance (text : String) : Decidable (Plain text) := decidable_of_iff _ (plain_iff text).symm

theorem unbroken_append (first second : String) : Unbroken (first ++ second) ↔ Unbroken first ∧ Unbroken second := by
  simp only [Unbroken, String.toList_append, List.mem_append, not_or]

theorem unbroken_joined (separator : String) (clean : Unbroken separator) (texts : List String) :
    Unbroken (Text.joined separator texts) ↔ ∀ text ∈ texts, Unbroken text := by
  induction texts with
  | nil => simp [Text.joined, Unbroken]
  | cons text rest ih =>
      cases rest with
      | nil => simp [Text.joined]
      | cons next rest =>
          change Unbroken (text ++ separator ++ Text.joined separator (next :: rest)) ↔ _
          rw [unbroken_append, unbroken_append, ih, List.forall_mem_cons (a := text)]
          simp only [clean, and_true]

theorem bars_joined (texts : List String) :
    (Text.joined " | " texts).toList.count '|' = (texts.length - 1) + (texts.flatMap String.toList).count '|' := by
  induction texts with
  | nil => rfl
  | cons text rest ih =>
      cases rest with
      | nil => simp [Text.joined]
      | cons next rest =>
          have step : Text.joined " | " (text :: next :: rest) = text ++ " | " ++ Text.joined " | " (next :: rest) :=
            rfl
          have bar : " | ".toList.count '|' = 1 := rfl
          rw [step, String.toList_append, String.toList_append, List.count_append, List.count_append, ih, bar,
            List.flatMap_cons (x := text), List.count_append]
          simp only [List.length_cons]
          omega

theorem lines_some (text : List Char) (some : text ≠ []) : lines text ≠ [] := by
  cases text with
  | nil => exact absurd rfl some
  | cons c rest =>
      unfold lines
      split
      · exact List.cons_ne_nil _ _
      · split <;> exact List.cons_ne_nil _ _

theorem lines_append_length (first rest : List Char) (some : rest ≠ []) :
    (lines (first ++ rest)).length = first.count '\n' + (lines rest).length := by
  induction first with
  | nil => simp
  | cons c first ih =>
      rw [List.cons_append, lines]
      by_cases stop : c = '\n'
      · rw [if_pos stop, List.length_cons, ih, stop, List.count_cons_self]
        omega
      · rw [if_neg stop, List.count_cons_of_ne stop, ← ih]
        cases more : lines (first ++ rest) with
        | nil => exact absurd more (lines_some _ (List.append_ne_nil_of_right_ne_nil first some))
        | cons line more => rfl

theorem lines_cut (first rest : List Char) (clean : '\n' ∉ first) :
    lines (first ++ '\n' :: rest) = first :: lines rest := by
  induction first with
  | nil => simp [lines]
  | cons c first ih =>
      rw [List.cons_append, lines, if_neg (Ne.symm (List.ne_of_not_mem_cons clean)),
        ih (List.not_mem_of_not_mem_cons clean)]

theorem lines_single (text : List Char) (some : text ≠ []) (clean : '\n' ∉ text) : (lines text).length = 1 := by
  have whole := List.dropLast_append_getLast some
  have last : lines [text.getLast some] = [[text.getLast some]] := by
    rw [lines, if_neg fun stop : text.getLast some = '\n' => clean (stop ▸ List.getLast_mem some)]
    rfl
  have none : text.dropLast.count '\n' = 0 :=
    List.count_eq_zero.mpr fun broken => clean (List.dropLast_subset text broken)
  rw [← whole, lines_append_length _ _ (List.cons_ne_nil _ _), last, none]
  rfl

theorem single_line_iff (first rest : String) (some : rest ≠ "") (clean : Unbroken rest) :
    Shaped [.prose] (first ++ rest) ↔ Unbroken first := by
  have more : rest.toList ≠ [] := mt String.toList_eq_nil_iff.mp some
  have length : (lines (first ++ rest).toList).length = first.toList.count '\n' + 1 := by
    rw [String.toList_append, lines_append_length _ _ more, lines_single _ more clean]
  rw [Unbroken, ← List.count_eq_zero]
  constructor
  · intro shaped
    have same := shaped.length_eq
    rw [length, List.length_singleton] at same
    omega
  · intro none
    rw [none] at length
    obtain ⟨line, alone⟩ := List.length_eq_one_iff.mp length
    rw [Shaped, alone]
    exact .cons trivial .nil

theorem of_lines_cons (line : String) (texts : List String) :
    (ofLines (line :: texts)).toList = line.toList ++ '\n' :: (ofLines texts).toList := by
  simp [ofLines, String.toList_append]

theorem of_lines_length (texts : List String) :
    (lines (ofLines texts).toList).length = texts.length + (texts.flatMap String.toList).count '\n' := by
  induction texts with
  | nil => rfl
  | cons line texts ih =>
      have rest : (lines ('\n' :: (ofLines texts).toList)).length = 1 + (lines (ofLines texts).toList).length := by
        simp [lines]; omega
      rw [of_lines_cons, lines_append_length _ _ (List.cons_ne_nil _ _), rest, ih, List.flatMap_cons, List.count_append,
        List.length_cons]
      omega

theorem of_lines_unbroken (texts : List String) (clean : ∀ text ∈ texts, Unbroken text) :
    lines (ofLines texts).toList = texts.map String.toList := by
  induction texts with
  | nil => rfl
  | cons line texts ih =>
      obtain ⟨here, later⟩ := List.forall_mem_cons.mp clean
      rw [of_lines_cons, lines_cut _ _ here, ih later, List.map_cons]

-- What is meant for the lines of a text keeps to them, and is what is expected of them.
structure Meets (plan : List Slot) (texts : List String) : Prop where
  unbroken : ∀ text ∈ texts, Unbroken text
  fits : List.Forall₂ (fun slot text => Fits slot text.toList) plan texts

theorem meets_nil : Meets [] [] := ⟨nofun, .nil⟩

theorem shaped_iff_meets (plan : List Slot) (texts : List String) (same : plan.length = texts.length) :
    Shaped plan (ofLines texts) ↔ Meets plan texts := by
  constructor
  · intro shaped
    have length := shaped.length_eq
    rw [of_lines_length, same] at length
    have clean : ∀ text ∈ texts, Unbroken text := by
      intro text member broken
      have counted := List.count_pos_iff.mpr (List.mem_flatMap.mpr ⟨text, member, broken⟩)
      omega
    rw [Shaped, of_lines_unbroken texts clean, List.forall₂_map_right_iff] at shaped
    exact ⟨clean, shaped⟩
  · rintro ⟨clean, fits⟩
    rwa [Shaped, of_lines_unbroken texts clean, List.forall₂_map_right_iff]

theorem meets_append (plan more : List Slot) (texts others : List String) (same : plan.length = texts.length) :
    Meets (plan ++ more) (texts ++ others) ↔ Meets plan texts ∧ Meets more others := by
  constructor
  · rintro ⟨clean, fits⟩
    obtain ⟨first, second⟩ := List.forall_mem_append.mp clean
    have front := List.forall₂_take_append _ texts others fits
    have back := List.forall₂_drop_append _ texts others fits
    rw [List.take_left' same] at front
    rw [List.drop_left' same] at back
    exact ⟨⟨first, front⟩, ⟨second, back⟩⟩
  · rintro ⟨one, other⟩
    exact ⟨List.forall_mem_append.mpr ⟨one.unbroken, other.unbroken⟩, List.rel_append one.fits other.fits⟩

theorem meets_replicate (slot : Slot) (count : Nat) (texts : List String) (same : texts.length = count) :
    Meets (List.replicate count slot) texts ↔ ∀ text ∈ texts, Unbroken text ∧ Fits slot text.toList := by
  subst same
  constructor
  · rintro ⟨clean, fits⟩ text member
    refine ⟨clean text member, ?_⟩
    obtain ⟨index, inside, rfl⟩ := List.getElem_of_mem member
    have there := fits.get (i := index) (by simpa using inside) inside
    simpa using there
  · intro all
    refine ⟨fun text member => (all text member).1, ?_⟩
    induction texts with
    | nil => exact .nil
    | cons text texts ih =>
        obtain ⟨here, later⟩ := List.forall_mem_cons.mp all
        exact .cons here.2 (ih later)

theorem meets_prose (count : Nat) (texts : List String) (same : texts.length = count) :
    Meets (List.replicate count .prose) texts ↔ ∀ text ∈ texts, Unbroken text := by
  simp only [meets_replicate .prose count texts same, Fits, and_true]

theorem cells_length (line : List Char) : (cells line).length = line.count '|' - 1 := by
  rw [cells, List.length_dropLast, List.length_drop, Text.split_on_length]
  omega

theorem row_fits (row : List String) (some : row ≠ []) :
    Fits (.row row.length) (tableRow row).toList ↔ ∀ cell ∈ row, '|' ∉ cell.toList := by
  have bars : (tableRow row).toList.count '|' = row.length + 1 + (row.flatMap String.toList).count '|' := by
    have positive := List.length_pos_iff.mpr some
    have first : "| ".toList.count '|' = 1 := rfl
    have last : " |".toList.count '|' = 1 := rfl
    rw [tableRow, String.toList_append, String.toList_append, List.count_append, List.count_append, bars_joined, first,
      last]
    omega
  have none : (row.flatMap String.toList).count '|' = 0 ↔ ∀ cell ∈ row, '|' ∉ cell.toList := by
    rw [List.count_eq_zero, List.mem_flatMap]
    simp only [not_exists, not_and]
  rw [← none, Fits, cells_length, bars]
  omega

theorem rule_chars (columns : Nat) :
    (tableRule columns).toList = '|' :: (List.replicate columns ['-', '-', '-', '|']).flatten := by
  rw [tableRule, String.toList_append, String.toList_join, List.flatMap_replicate]
  rfl

theorem rule_fits (columns : Nat) : Fits (.row columns) (tableRule columns).toList := by
  have bars : (tableRule columns).toList.count '|' = columns + 1 := by
    simp [rule_chars, List.count_flatten]
  rw [Fits, cells_length, bars]
  omega

theorem rule_unbroken (columns : Nat) : Unbroken (tableRule columns) := by
  rw [Unbroken, rule_chars]
  simp

theorem row_unbroken (row : List String) : Unbroken (tableRow row) ↔ ∀ cell ∈ row, Unbroken cell := by
  have first : Unbroken "| " := by decide
  have last : Unbroken " |" := by decide
  rw [tableRow, unbroken_append, unbroken_append, unbroken_joined _ (by decide)]
  simp only [first, last, true_and, and_true]

theorem row_plain_iff (row : List String) (some : row ≠ []) :
    Unbroken (tableRow row) ∧ Fits (.row row.length) (tableRow row).toList ↔ ∀ cell ∈ row, Plain cell := by
  rw [row_unbroken, row_fits row some]
  constructor
  · rintro ⟨clean, whole⟩ cell member
    exact ⟨clean cell member, whole cell member⟩
  · intro plain
    exact ⟨fun cell member => (plain cell member).unbroken, fun cell member => (plain cell member).undivided⟩

theorem meets_table (heading : List String) (rows : List (List String)) (some : heading ≠ [])
    (plain : ∀ cell ∈ heading, Plain cell) (wide : ∀ row ∈ rows, row.length = heading.length) :
    Meets (tablePlan heading.length rows.length) (tableLines heading rows) ↔
      ∀ row ∈ rows, ∀ cell ∈ row, Plain cell := by
  rw [tablePlan, meets_replicate _ _ _ (by simp [tableLines]), tableLines, List.forall_mem_cons, List.forall_mem_cons,
    List.forall_mem_map]
  have above := (row_plain_iff heading some).mpr plain
  have rule : Unbroken (tableRule heading.length) ∧ Fits (.row heading.length) (tableRule heading.length).toList :=
    ⟨rule_unbroken _, rule_fits _⟩
  simp only [above, rule, true_and]
  refine forall₂_congr fun row member => ?_
  have same := wide row member
  rw [← same]
  exact row_plain_iff row (List.ne_nil_of_length_pos (same ▸ List.length_pos_iff.mpr some))

end ClusterCaps.Report
