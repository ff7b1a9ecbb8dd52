import ClusterCaps.Probe.Statement
import ClusterCaps.Proofs.Text.Scan

set_option autoImplicit false

namespace ClusterCaps.Statement

def Plain (name : String) : Prop := '\'' ∉ name.toList

instance (name : String) : Decidable (Plain name) := inferInstanceAs (Decidable ('\'' ∉ name.toList))

theorem quote_text : "'".toList = ['\''] := rfl

theorem show_variable_text (name : String) :
    (showVariable name).toList = "SHOW VARIABLES LIKE '".toList ++ (name.toList ++ ['\'']) := by
  unfold showVariable
  rw [String.toList_append, String.toList_append, quote_text]
  exact List.append_assoc _ _ _

theorem select_plugin_text (name : String) :
    (selectPlugin name).toList =
      "select PLUGIN_VERSION, PLUGIN_STATUS from information_schema.plugins where PLUGIN_NAME='".toList ++
        (name.toList ++ ['\'']) := by
  unfold selectPlugin
  rw [String.toList_append, String.toList_append, quote_text]
  exact List.append_assoc _ _ _

theorem target_of_after (mark statement name : String) (plain : Plain name)
    (found : Text.after? mark.toList statement.toList = some (name.toList ++ ['\''])) :
    target? mark statement = some name := by
  rw [target?, found, Option.bind_some, Text.up_to_stop _ _ _ plain, Option.map_some, String.ofList_toList]

theorem like_target_show_variable (name : String) (plain : Plain name) :
    likeTarget? (showVariable name) = some name := by
  apply target_of_after _ _ _ plain
  rw [show_variable_text]
  rfl

theorem plugin_target_select_plugin (name : String) (plain : Plain name) :
    pluginTarget? (selectPlugin name) = some name := by
  apply target_of_after _ _ _ plain
  rw [select_plugin_text]
  rfl

theorem target_parts (mark statement name : String) (found : target? mark statement = some name) :
    ∃ before rest, statement.toList = before ++ mark.toList ++ (name.toList ++ '\'' :: rest) := by
  unfold target? at found
  obtain ⟨text, bound, rfl⟩ := Option.map_eq_some_iff.mp found
  obtain ⟨tail, after, upTo⟩ := Option.bind_eq_some_iff.mp bound
  obtain ⟨before, whole⟩ := Text.after_parts _ _ _ after
  obtain ⟨rest, rfl⟩ := Text.up_to_parts _ _ _ upTo
  exact ⟨before, rest, by rw [whole, String.toList_ofList]⟩

-- The statement has no other quotes than those of its name, so that the first quote of a target would
-- be the one before the name, which does not follow the mark of a plugin.
theorem plugin_target_show_variable (name : String) (plain : Plain name) :
    pluginTarget? (showVariable name) = none := by
  rw [Option.eq_none_iff_forall_ne_some]
  intro plugin found
  obtain ⟨before, rest, whole⟩ := target_parts _ _ _ found
  have beginning : "SHOW VARIABLES LIKE '".toList = "SHOW VARIABLES LIKE ".toList ++ ['\''] := by decide
  have mark : "PLUGIN_NAME='".toList = "PLUGIN_NAME=".toList ++ ['\''] := by decide
  rw [show_variable_text, beginning, mark, ← List.append_assoc before, List.append_assoc _ ['\''],
    List.append_assoc _ ['\''], List.singleton_append, List.singleton_append] at whole
  have start : '\'' ∉ "SHOW VARIABLES LIKE ".toList := by decide
  have first : '\'' ∉ before ++ "PLUGIN_NAME=".toList := by
    have quotes := congrArg (List.count '\'') whole
    simp only [List.count_append, List.count_cons_self, List.count_eq_zero.mpr plain,
      List.count_eq_zero.mpr start, List.count_nil] at quotes
    rw [← List.count_eq_zero, List.count_append]
    omega
  have same := Text.stop_unique _ _ _ _ _ start first whole
  have last := congrArg List.getLast? same
  rw [List.getLast?_append] at last
  cases last

def fixedTexts : List String := [version, lowerCaseTableNames, nativeProcedures, mdlPrivilege, mdlInstrument]

def opening (statement : String) : List Char := statement.toList.take 10

theorem opening_eq (statement first : String) (rest : List Char) (ten : first.toList.length = 10)
    (whole : statement = String.ofList (first.toList ++ rest)) : opening statement = first.toList := by
  rw [opening, whole, String.toList_ofList, List.take_append_of_le_length (Nat.le_of_eq ten.symm), ← ten,
    List.take_length]

-- One of the statements has nine hundred characters, of which only the first are looked at.
set_option maxRecDepth 8000 in
theorem fixed_openings :
    fixedTexts.map opening = ["SELECT @@v".toList, "SELECT @@g".toList, "call dbms_".toList,
      "SELECT `pt".toList, "select ena".toList] := by
  rw [fixedTexts, List.map_cons, List.map_cons, List.map_cons, List.map_cons, List.map_cons, List.map_nil,
    opening_eq version "SELECT @@v" _ rfl rfl,
    opening_eq lowerCaseTableNames "SELECT @@g" _ rfl rfl,
    opening_eq nativeProcedures "call dbms_" _ rfl rfl,
    opening_eq mdlPrivilege "SELECT `pt" _ rfl rfl,
    opening_eq mdlInstrument "select ena" _ rfl rfl]

theorem fixed_distinct : fixedTexts.Nodup := by
  have openings : (fixedTexts.map opening).Nodup := by
    rw [fixed_openings]
    decide +kernel
  exact List.Pairwise.of_map opening (fun _ _ differ same => differ (congrArg opening same)) openings

theorem not_fixed (statement : String) (other : opening statement ∉ fixedTexts.map opening) :
    statement ∉ fixedTexts := fun member => other (List.mem_map_of_mem member)

theorem show_variable_not_fixed (name : String) : showVariable name ∉ fixedTexts := by
  have start : opening (showVariable name) = "SHOW VARIA".toList := by
    rw [opening, show_variable_text]
    rfl
  apply not_fixed
  rw [start, fixed_openings]
  decide +kernel

theorem select_plugin_not_fixed (name : String) : selectPlugin name ∉ fixedTexts := by
  have start : opening (selectPlugin name) = "select PLU".toList := by
    rw [opening, select_plugin_text]
    rfl
  apply not_fixed
  rw [start, fixed_openings]
  decide +kernel

theorem public_key_not_fixed : rsaPublicKey ∉ fixedTexts := by
  apply not_fixed
  rw [fixed_openings]
  decide +kernel

theorem show_variable_not_status (name : String) : Text.startsWith "SHOW STATUS" (showVariable name) = false := by
  rw [Text.startsWith, show_variable_text]
  rfl

theorem show_variable_not_key (name : String) : showVariable name ≠ rsaPublicKey := by
  intro same
  have status := show_variable_not_status name
  rw [same] at status
  cases status

theorem select_plugin_not_key (name : String) : selectPlugin name ≠ rsaPublicKey := by
  intro same
  have first := congrArg (fun statement => statement.toList.head?) same
  simp only [select_plugin_text] at first
  cases first

theorem not_among_fixed (statement : String) (free : statement ∉ fixedTexts) (other : statement ≠ rsaPublicKey) :
    ∀ entry ∈ fixed, statement ≠ entry.2 := by
  simp only [fixedTexts, List.mem_cons, not_or, List.not_mem_nil, not_false_eq_true, and_true] at free
  obtain ⟨version, mode, procedures, privilege, instrument⟩ := free
  simp only [fixed, List.forall_mem_cons]
  exact ⟨version, mode, procedures, other, instrument, privilege, List.forall_mem_nil _⟩

theorem quotes_around (name : String) (plain : Plain name) (before : List Char) (one : before.count '\'' = 1) :
    (before ++ (name.toList ++ ['\''])).count '\'' = 2 := by
  simp only [List.count_append, one, List.count_eq_zero.mpr plain, List.count_singleton_self]

theorem show_variable_quotes (name : String) (plain : Plain name) : (showVariable name).toList.count '\'' = 2 := by
  rw [show_variable_text]
  exact quotes_around name plain _ (by decide)

theorem select_plugin_quotes (name : String) (plain : Plain name) : (selectPlugin name).toList.count '\'' = 2 := by
  rw [select_plugin_text]
  exact quotes_around name plain _ (by decide +kernel)

end ClusterCaps.Statement
