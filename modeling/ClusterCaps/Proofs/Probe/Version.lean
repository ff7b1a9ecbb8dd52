import ClusterCaps.Proofs.Probe.Checks
import ClusterCaps.Proofs.Text.Numeral

set_option autoImplicit false

namespace ClusterCaps.Udf

def VersionText (major minor : Int32) (text : List Char) : Prop :=
  ∃ first second rest, text = first ++ '.' :: (second ++ rest) ∧ Text.Padded major first ∧
    Text.Padded minor second ∧ (rest = [] ∨ ∃ tail, rest = '.' :: tail)

theorem point_solid : Text.isBlank '.' = false := by decide

theorem padded_pointless (number : Int32) (text : List Char) (padded : Text.Padded number text) : '.' ∉ text :=
  Text.padded_clean number text padded '.' point_solid (by decide) (by decide) (by decide)

theorem version_parts (text : String) (major minor : Int32) :
    version? text = some (major, minor) ↔ ∃ first second more,
      Text.splitOn '.' (Text.trim text.toList) = first :: second :: more ∧
        Text.Padded major first ∧ Text.Padded minor second := by
  unfold version?
  simp only [← Text.padded_iff]
  split
  · next first second more pieces =>
      constructor
      · intro read
        split at read
        · next one other firstRead secondRead =>
            cases read
            exact ⟨first, second, more, pieces, firstRead, secondRead⟩
        · cases read
      · rintro ⟨_, _, _, again, firstRead, secondRead⟩
        cases pieces.symm.trans again
        simp only [versionPart?, firstRead, secondRead]
  · next short =>
      refine ⟨nofun, ?_⟩
      rintro ⟨first, second, more, pieces, _⟩
      exact absurd pieces (short first second more)

-- The blanks that trimming takes from the whole text stand in its first numeral, in its second, or in what is
-- not read.
theorem version_iff (text : String) (major minor : Int32) :
    version? text = some (major, minor) ↔ VersionText major minor text.toList := by
  rw [version_parts]
  constructor
  · rintro ⟨first, second, more, pieces, majorRead, minorRead⟩
    obtain ⟨before, after, blank, alsoBlank, whole⟩ := Text.trim_parts text.toList
    obtain ⟨rest, trimmed, ending⟩ := Text.split_on_two '.' _ first second more pieces
    have majorPadded := Text.padded_more major before first [] blank (List.forall_mem_nil _) majorRead
    rw [List.append_nil] at majorPadded
    rw [trimmed] at whole
    rcases ending with rfl | ⟨tail, rfl⟩
    · have minorPadded := Text.padded_more minor [] second after (List.forall_mem_nil _) alsoBlank minorRead
      refine ⟨before ++ first, second ++ after, [], ?_, majorPadded, minorPadded, Or.inl rfl⟩
      rw [whole]
      simp only [List.append_assoc, List.cons_append, List.append_nil]
    · refine ⟨before ++ first, second, '.' :: (tail ++ after), ?_, majorPadded, minorRead, Or.inr ⟨_, rfl⟩⟩
      rw [whole]
      simp only [List.append_assoc, List.cons_append]
  · rintro ⟨first, second, rest, whole, majorPadded, minorPadded, ending⟩
    have trimmed := Text.trim_shield first (second ++ rest) '.' point_solid
    rw [← whole] at trimmed
    have majorTrimmed : Text.Padded major (Text.trimStart first) := by
      rw [← Text.padded_iff, Text.trim_of_trim_start, Text.padded_iff]
      exact majorPadded
    rw [trimmed, Text.split_on_cut '.' _ _ (padded_pointless major _ majorTrimmed)]
    rcases ending with rfl | ⟨tail, rfl⟩
    · have minorTrimmed : Text.Padded minor (Text.trimEnd second) := by
        rw [← Text.padded_iff, Text.trim_of_trim_end, Text.padded_iff]
        exact minorPadded
      rw [List.append_nil, Text.split_on_clean '.' _ (padded_pointless minor _ minorTrimmed)]
      exact ⟨_, _, [], rfl, majorTrimmed, minorTrimmed⟩
    · rw [Text.trim_end_shield second tail '.' point_solid,
        Text.split_on_cut '.' _ _ (padded_pointless minor _ minorPadded)]
      exact ⟨_, _, _, rfl, majorTrimmed, minorPadded⟩

theorem version_text_of_ints (major minor : Int32) (before after suffix : String)
    (blank : Text.Blank before.toList) (alsoBlank : Text.Blank after.toList)
    (ending : suffix = "" ∨ ∃ tail, suffix = "." ++ tail) :
    VersionText major minor
      (before ++ Text.ofInt major.toInt ++ "." ++ Text.ofInt minor.toInt ++ suffix ++ after).toList := by
  have majorPadded : Text.Padded major (before.toList ++ (Text.ofInt major.toInt).toList) :=
    ⟨before.toList, _, [], (List.append_nil _).symm, blank, Text.spells_of_int _, List.forall_mem_nil _⟩
  have point : ".".toList = ['.'] := rfl
  rcases ending with rfl | ⟨tail, rfl⟩
  · refine ⟨_, (Text.ofInt minor.toInt).toList ++ after.toList, [], ?_, majorPadded, ?_, Or.inl rfl⟩
    · simp [String.toList_append, point]
    · exact ⟨[], _, after.toList, rfl, List.forall_mem_nil _, Text.spells_of_int _, alsoBlank⟩
  · refine ⟨_, (Text.ofInt minor.toInt).toList, '.' :: (tail.toList ++ after.toList), ?_, majorPadded, ?_,
      Or.inr ⟨_, rfl⟩⟩
    · simp [String.toList_append, point]
    · exact ⟨[], _, [], (List.append_nil _).symm, List.forall_mem_nil _, Text.spells_of_int _, List.forall_mem_nil _⟩

inductive Unversioned : Reply → Prop where
  | failed (cause : ExecError) : Unversioned (.error cause)
  | noRow : Unversioned (.ok [])
  | null (row : Row) (rest : List Row) (absent : row.cell? 0 = none) : Unversioned (.ok (row :: rest))
  | unreadable (row : Row) (rest : List Row) (text : String) (cell : row.cell? 0 = some text)
      (foreign : ∀ major minor, ¬ VersionText major minor text.toList) : Unversioned (.ok (row :: rest))

theorem unversioned_iff (row : Row) (rest : List Row) :
    Unversioned (.ok (row :: rest)) ↔ (row.cell? 0).bind version? = none := by
  constructor
  · intro unversioned
    cases unversioned with
    | null _ _ absent => rw [absent, Option.bind_none]
    | unreadable _ _ text cell foreign =>
        rw [cell, Option.bind_some, Option.eq_none_iff_forall_ne_some]
        rintro ⟨major, minor⟩ read
        exact foreign major minor ((version_iff text major minor).mp read)
  · intro unread
    cases cell : row.cell? 0 with
    | none => exact .null row rest cell
    | some text =>
        rw [cell, Option.bind_some] at unread
        refine .unreadable row rest text cell fun major minor spelled => ?_
        rw [(version_iff text major minor).mpr spelled] at unread
        cases unread

theorem unversioned_iff_undescribed (connection : Connection) (plugin setting : String)
    (listed : Reply.HasRow (connection .any (Statement.showVariable setting))) :
    Unversioned (connection .any (Statement.selectPlugin plugin)) ↔
      ∀ details, ¬ Describes connection plugin setting details := by
  constructor
  · rintro unversioned details ⟨row, rest, _, _, found, read, _⟩
    rw [found, unversioned_iff, read] at unversioned
    cases unversioned
  · intro undescribed
    obtain ⟨functions, more, list⟩ := listed
    cases reply : connection .any (Statement.selectPlugin plugin) with
    | error cause => exact .failed cause
    | ok rows =>
        cases rows with
        | nil => exact .noRow
        | cons row rest =>
            rw [unversioned_iff, Option.eq_none_iff_forall_ne_some]
            rintro ⟨major, minor⟩ read
            exact undescribed ⟨major, minor, (row.cell? 1).getD "", functionList ((functions.cell? 1).getD "")⟩
              ⟨row, rest, functions, more, reply, read, rfl, list, rfl⟩

theorem resolve_ends (connection : Connection) (plugin setting : String) :
    ∃ extension, ((resolve plugin setting).run connection).result = .ok extension ∧
      ∀ details, extension = .present details ↔ Describes connection plugin setting details := by
  refine (Interview.all_asked connection _ _ _ _ (resolve_asks connection plugin setting) ?_).1
  intro question member
  rcases List.mem_cons.mp member with rfl | later
  · exact Question.excused_harmless _ _ .plugin rfl
  · cases version : pluginVersion? connection plugin with
    | none =>
        rw [version] at later
        cases later
    | some found =>
        rw [version] at later
        cases List.mem_singleton.mp later
        exact Question.excused_harmless _ _ .functions rfl

-- Versions are read from these texts and from no others. So a node that lists functions has the extension just
-- if what it answers on the plugin gives a version, and then in the version that its text spells.
theorem version_read_by_grammar :
    (∀ text major minor, version? text = some (major, minor) ↔ VersionText major minor text.toList) ∧
      (∀ (major minor : Int32) (before after suffix : String), Text.Blank before.toList → Text.Blank after.toList →
        (suffix = "" ∨ ∃ tail, suffix = "." ++ tail) →
        version? (before ++ Text.ofInt major.toInt ++ "." ++ Text.ofInt minor.toInt ++ suffix ++ after) =
          some (major, minor)) ∧
      ∀ (connection : Connection) (plugin setting : String),
        Reply.HasRow (connection .any (Statement.showVariable setting)) →
        ∃ extension, ((resolve plugin setting).run connection).result = .ok extension ∧
          (extension = .absent ↔ Unversioned (connection .any (Statement.selectPlugin plugin))) ∧
          ∀ details, extension = .present details →
            ∃ text, Reply.Holds (connection .any (Statement.selectPlugin plugin)) 0 text ∧
              VersionText details.major details.minor text.toList := by
  refine ⟨version_iff, ?_, ?_⟩
  · intro major minor before after suffix blank alsoBlank ending
    exact (version_iff _ major minor).mpr (version_text_of_ints major minor before after suffix blank alsoBlank ending)
  · intro connection plugin setting listed
    obtain ⟨extension, ended, told⟩ := resolve_ends connection plugin setting
    have undescribed := unversioned_iff_undescribed connection plugin setting listed
    refine ⟨extension, ended, ?_, ?_⟩
    · rw [undescribed]
      constructor
      · rintro rfl details describes
        cases (told details).mpr describes
      · intro none
        cases extension with
        | absent => rfl
        | present details => exact absurd ((told details).mp rfl) (none details)
    · intro details present
      obtain ⟨row, rest, _, _, found, read, _⟩ := (told details).mp present
      obtain ⟨text, cell, spelled⟩ := Option.bind_eq_some_iff.mp read
      exact ⟨text, ⟨row, rest, found, cell⟩, (version_iff text _ _).mp spelled⟩

theorem version_read_with_blanks :
    let text := "\u00a0+002\u3000.\t-10 . 3.x"
    let connection : Connection := fun _ statement =>
      if statement = Statement.selectPlugin "udf" then .ok [Row.ofTexts [text, "ACTIVE"]]
      else .ok [Row.ofTexts ["udf_functions", "bloomfilter"]]
    Reply.HasRow (connection .any (Statement.showVariable "udf_functions")) ∧
      ((resolve "udf" "udf_functions").run connection).result =
        .ok (.present ⟨2, -10, "ACTIVE", ["bloomfilter"]⟩) ∧
      VersionText 2 (-10) text.toList := by
  intro text connection
  have listed : Reply.HasRow (connection .any (Statement.showVariable "udf_functions")) := ⟨_, [], rfl⟩
  have ended : ((resolve "udf" "udf_functions").run connection).result =
      .ok (.present ⟨2, -10, "ACTIVE", ["bloomfilter"]⟩) := by decide +kernel
  obtain ⟨extension, found, _, told⟩ := version_read_by_grammar.2.2 connection "udf" "udf_functions" listed
  have same : extension = .present ⟨2, -10, "ACTIVE", ["bloomfilter"]⟩ := Except.ok.inj (found.symm.trans ended)
  obtain ⟨other, held, spelled⟩ := told _ same
  have cell : Reply.Holds (connection .any (Statement.selectPlugin "udf")) 0 text := ⟨_, [], rfl, rfl⟩
  rw [Reply.holds_unique _ 0 other text held cell] at spelled
  exact ⟨listed, ended, spelled⟩

end ClusterCaps.Udf
