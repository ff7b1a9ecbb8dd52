import ClusterCaps.Proofs.Topology.Profile

set_option autoImplicit false

namespace ClusterCaps

namespace Config

inductive Requirement where
  | version
  | pluginGiven
  | pluginSpelled
  | settingGiven
  | settingSpelled
  | parallelism
deriving DecidableEq, Repr

def Spelled (name : String) : Prop := ∀ c ∈ name.toList, c.isAlphanum = true ∨ c = '_'

instance (name : String) : Decidable (Spelled name) :=
  inferInstanceAs (Decidable (∀ c ∈ name.toList, c.isAlphanum = true ∨ c = '_'))

namespace Requirement

def all : List Requirement := [version, pluginGiven, pluginSpelled, settingGiven, settingSpelled, parallelism]

def Met (config : Config) : Requirement → Prop
  | version => Text.SpellsOne (config.schemaVersion.toList.takeWhile (· ≠ '.'))
  | pluginGiven => config.udf.pluginName ≠ ""
  | pluginSpelled => Spelled config.udf.pluginName
  | settingGiven => config.udf.functionListVariable ≠ ""
  | settingSpelled => Spelled config.udf.functionListVariable
  | parallelism => 1 ≤ config.probe.parallelism ∧ config.probe.parallelism ≤ 64

instance (config : Config) : (requirement : Requirement) → Decidable (requirement.Met config)
  | version => inferInstanceAs (Decidable (Text.SpellsOne _))
  | pluginGiven => inferInstanceAs (Decidable (_ ≠ _))
  | pluginSpelled => inferInstanceAs (Decidable (Spelled _))
  | settingGiven => inferInstanceAs (Decidable (_ ≠ _))
  | settingSpelled => inferInstanceAs (Decidable (Spelled _))
  | parallelism => inferInstanceAs (Decidable (_ ∧ _))

def emptyName (field : String) : Error := .invalidValue field "Must not be empty"

def misspelledName (field name : String) : Error :=
  .invalidValue field ("Must contain only [A-Za-z0-9_], got " ++ Text.quoted name)

def complaint (config : Config) : Requirement → Error
  | version => .versionMismatch "1.x" config.schemaVersion
  | pluginGiven => emptyName "udf.plugin_name"
  | pluginSpelled => misspelledName "udf.plugin_name" config.udf.pluginName
  | settingGiven => emptyName "udf.function_list_variable"
  | settingSpelled => misspelledName "udf.function_list_variable" config.udf.functionListVariable
  | parallelism => .invalidValue "probe.parallelism" ("Must be in [1, 64], got " ++ Text.ofNat config.probe.parallelism)

def verdict (config : Config) : List Requirement → Except Error Unit
  | [] => .ok ()
  | requirement :: rest => if requirement.Met config then verdict config rest else .error (requirement.complaint config)

-- An error is about a requirement that is not met, while those before it are.
def FirstBroken (config : Config) (requirements : List Requirement) (error : Error) : Prop :=
  ∃ earlier requirement later, requirements = earlier ++ requirement :: later ∧
    (∀ met ∈ earlier, met.Met config) ∧ ¬ requirement.Met config ∧ error = requirement.complaint config

theorem verdict_ok_iff (config : Config) (requirements : List Requirement) :
    verdict config requirements = .ok () ↔ ∀ requirement ∈ requirements, requirement.Met config := by
  induction requirements with
  | nil => simp [verdict]
  | cons requirement rest ih => by_cases met : requirement.Met config <;> simp [verdict, met, ih]

theorem verdict_error_iff (config : Config) (requirements : List Requirement) (error : Error) :
    verdict config requirements = .error error ↔ FirstBroken config requirements error := by
  induction requirements with
  | nil =>
      refine ⟨nofun, ?_⟩
      rintro ⟨earlier, requirement, later, parts, -⟩
      simp at parts
  | cons requirement rest ih =>
      by_cases met : requirement.Met config
      · rw [verdict, if_pos met, ih]
        constructor
        · rintro ⟨earlier, broken, later, rfl, before, unmet, said⟩
          exact ⟨requirement :: earlier, broken, later, rfl, List.forall_mem_cons.mpr ⟨met, before⟩, unmet, said⟩
        · rintro ⟨earlier, broken, later, parts, before, unmet, said⟩
          cases earlier with
          | nil =>
              cases parts
              exact absurd met unmet
          | cons first earlier =>
              cases parts
              exact ⟨earlier, broken, later, rfl, (List.forall_mem_cons.mp before).2, unmet, said⟩
      · rw [verdict, if_neg met, Except.error.injEq]
        constructor
        · rintro rfl
          exact ⟨[], requirement, rest, rfl, List.forall_mem_nil _, met, rfl⟩
        · rintro ⟨earlier, broken, later, parts, before, unmet, rfl⟩
          cases earlier with
          | nil =>
              cases parts
              rfl
          | cons first earlier =>
              cases parts
              exact absurd (List.forall_mem_cons.mp before).1 met

end Requirement

theorem name_char_iff (c : Char) : isNameChar c = true ↔ c.isAlphanum = true ∨ c = '_' := by
  have between (low high : Prop) [Decidable low] [Decidable high] :
      (decide low && decide high) = true ↔ low ∧ high := by simp
  have either : c.isAlphanum = (c.isUpper || c.isLower || c.isDigit) := rfl
  have upper : c.isUpper = true ↔ 65 ≤ c.toNat ∧ c.toNat ≤ 90 := decide_eq_true_iff
  have lower : c.isLower = true ↔ 97 ≤ c.toNat ∧ c.toNat ≤ 122 := between _ _
  have digit : c.isDigit = true ↔ 48 ≤ c.toNat ∧ c.toNat ≤ 57 := between _ _
  simp only [isNameChar, Text.isDigit, either, Bool.or_eq_true, between, beq_iff_eq, upper, lower, digit]
  exact or_congr_left (or_assoc.trans or_comm)

theorem check_version_verdict (version : String) :
    checkVersion version =
      if Text.SpellsOne (version.toList.takeWhile (· ≠ '.')) then .ok ()
      else .error (.versionMismatch "1.x" version) := by
  have first := Text.split_on_first '.' version.toList
  have read : major? version = Text.uint32? (version.toList.takeWhile (· ≠ '.')) := by
    unfold major?
    cases pieces : Text.splitOn '.' version.toList with
    | nil => exact absurd pieces (Text.splitOn_ne_nil _ _)
    | cons piece later =>
        rw [pieces] at first
        cases first
        rfl
  have current : major? Config.currentVersion = some 1 := by decide +kernel
  rw [checkVersion, current, read]
  simp only [Text.uint32_one_iff]
  rfl

theorem check_name_verdict (field name : String) :
    checkName field name =
      if name ≠ "" then if Spelled name then .ok () else .error (Requirement.misspelledName field name)
      else .error (Requirement.emptyName field) := by
  have spelled : name.toList.all isNameChar = true ↔ Spelled name := by
    simp only [List.all_eq_true, name_char_iff, Spelled]
  by_cases empty : name = ""
  · simp [checkName, empty, Requirement.emptyName]
  · by_cases good : Spelled name
    · simp [checkName, empty, good, spelled.mpr good]
    · simp [checkName, empty, good, mt spelled.mp good, Requirement.misspelledName]

theorem check_parallelism_verdict (parallelism : Nat) :
    checkParallelism parallelism =
      if 1 ≤ parallelism ∧ parallelism ≤ 64 then .ok ()
      else .error (.invalidValue "probe.parallelism" ("Must be in [1, 64], got " ++ Text.ofNat parallelism)) := by
  by_cases bounded : 1 ≤ parallelism ∧ parallelism ≤ 64
  · rw [checkParallelism, maxParallelism, if_neg (by omega), if_pos bounded]
  · rw [checkParallelism, maxParallelism, if_pos (by omega), if_neg bounded]
    rfl

theorem check_then {condition : Prop} [Decidable condition] (check : Except Error Unit) (error : Error)
    (rest : Unit → Except Error Unit) :
    ((if condition then check else .error error) >>= rest) = if condition then check >>= rest else .error error := by
  by_cases met : condition
  · rw [if_pos met, if_pos met]
  · rw [if_neg met, if_neg met]
    rfl

theorem ok_then (rest : Unit → Except Error Unit) : (.ok () : Except Error Unit) >>= rest = rest () := rfl

theorem validate_verdict (config : Config) : config.validate = Requirement.verdict config Requirement.all := by
  simp only [validate, check_version_verdict, check_name_verdict, check_parallelism_verdict, check_then, ok_then]
  rfl

theorem validate_ok_iff (config : Config) :
    config.validate = .ok () ↔ ∀ requirement : Requirement, requirement.Met config := by
  have listed : ∀ requirement : Requirement, requirement ∈ Requirement.all := by
    intro requirement
    cases requirement <;> decide
  rw [validate_verdict, Requirement.verdict_ok_iff]
  exact forall_congr' fun requirement => ⟨fun met => met (listed requirement), fun met _ => met⟩

theorem validate_error_iff (config : Config) (error : Error) :
    config.validate = .error error ↔ Requirement.FirstBroken config Requirement.all error := by
  rw [validate_verdict, Requirement.verdict_error_iff]

end Config

-- What a statement says about a name: each of the two that carry it gives it back, and neither is taken
-- for anything else.
structure Statement.Carries (name : String) : Prop where
  like : likeTarget? (showVariable name) = some name
  plugin : pluginTarget? (selectPlugin name) = some name
  apart : pluginTarget? (showVariable name) = none
  likeQuotes : (showVariable name).toList.count '\'' = 2
  pluginQuotes : (selectPlugin name).toList.count '\'' = 2
  likeFree : ∀ entry ∈ fixed, showVariable name ≠ entry.2
  pluginFree : ∀ entry ∈ fixed, selectPlugin name ≠ entry.2

theorem Statement.plain_carries (name : String) (plain : Plain name) : Carries name where
  like := like_target_show_variable name plain
  plugin := plugin_target_select_plugin name plain
  apart := plugin_target_show_variable name plain
  likeQuotes := show_variable_quotes name plain
  pluginQuotes := select_plugin_quotes name plain
  likeFree := not_among_fixed _ (show_variable_not_fixed name) (show_variable_not_key name)
  pluginFree := not_among_fixed _ (select_plugin_not_fixed name) (select_plugin_not_key name)

namespace Profile

def Unhindered (profile : Profile) (statement : String) : Prop :=
  ∀ fault ∈ profile.faults, ¬ fault.piece.toList <:+: statement.toList

theorem unhindered_answer (profile : Profile) (statement : String) (free : profile.Unhindered statement) :
    profile.answer statement = profile.answerSoundly statement := by
  have none : profile.faults.find? (fun fault => Text.contains fault.piece statement) = none := by
    rw [List.find?_eq_none]
    exact fun fault listed found => free fault listed ((Text.contains_iff _ _).mp found)
  rw [answer, none]

inductive ShowsVariable (profile : Profile) (name : String) : List Row → Prop where
  | value (value : String) (sets : profile.Sets name value) :
      ShowsVariable profile name [Row.ofTexts [name, value]]
  | unset (unset : ∀ value, ¬ profile.Sets name value) : ShowsVariable profile name []

inductive ShowsPlugin (profile : Profile) (name : String) : List Row → Prop where
  | installed (udf : UdfProfile) (has : profile.udf? = some udf) (named : udf.pluginName = name) :
      ShowsPlugin profile name [Row.ofTexts [udf.version, udf.status]]
  | missing (missing : ∀ udf, profile.udf? = some udf → udf.pluginName ≠ name) : ShowsPlugin profile name []

theorem variable_shown (profile : Profile) (name : String) (plain : Statement.Plain name)
    (free : profile.Unhindered (Statement.showVariable name)) :
    ∃ rows, profile.answer (Statement.showVariable name) = .ok rows ∧ profile.ShowsVariable name rows := by
  rw [unhindered_answer profile _ free, profile.answers_variable name plain]
  refine ⟨_, rfl, ?_⟩
  cases set : profile.settingValue? name with
  | none => exact .unset fun value sets => by simp [(profile.setting_iff name value).mpr sets] at set
  | some value => exact .value value ((profile.setting_iff name value).mp set)

theorem plugin_shown (profile : Profile) (name : String) (plain : Statement.Plain name)
    (free : profile.Unhindered (Statement.selectPlugin name)) :
    ∃ rows, profile.answer (Statement.selectPlugin name) = .ok rows ∧ profile.ShowsPlugin name rows := by
  rw [unhindered_answer profile _ free, profile.answers_plugin name plain]
  refine ⟨_, rfl, ?_⟩
  rw [pluginRows]
  cases has : profile.udf? with
  | none => exact .missing fun udf other => by simp [has] at other
  | some udf =>
      by_cases named : udf.pluginName = name
      · simpa only [named, if_true] using ShowsPlugin.installed udf has named
      · simp only [named, if_false]
        exact .missing fun other same => by
          rw [has] at same
          cases same
          exact named

structure LooksUp (profile : Profile) (name : String) : Prop where
  setting : profile.Unhindered (Statement.showVariable name) →
    ∃ rows, profile.answer (Statement.showVariable name) = .ok rows ∧ profile.ShowsVariable name rows
  plugin : profile.Unhindered (Statement.selectPlugin name) →
    ∃ rows, profile.answer (Statement.selectPlugin name) = .ok rows ∧ profile.ShowsPlugin name rows

end Profile

-- The check accepts what meets all requirements, and reports the first one that is not met. Names that it
-- accepts have no quote, and a name without a quote, whatever else it holds, is what its statements ask for.
theorem names_keep_statements (config : Config) :
    (config.validate = .ok () ↔ ∀ requirement : Config.Requirement, requirement.Met config) ∧
      (∀ error, config.validate = .error error ↔
        Config.Requirement.FirstBroken config Config.Requirement.all error) ∧
      (config.validate = .ok () →
        Statement.Plain config.udf.pluginName ∧ Statement.Plain config.udf.functionListVariable) ∧
      ∀ name, Statement.Plain name → Statement.Carries name ∧ ∀ profile : Profile, profile.LooksUp name :=
  ⟨config.validate_ok_iff, config.validate_error_iff, config.validated_names_plain, fun name plain =>
    ⟨Statement.plain_carries name plain,
      fun profile => ⟨profile.variable_shown name plain, profile.plugin_shown name plain⟩⟩⟩

theorem marks_in_name_kept :
    (∀ requirement : Config.Requirement, requirement.Met Config.standard) ∧ Statement.Plain "PLUGIN_NAME= LIKE " ∧
      Statement.pluginTarget? (Statement.showVariable "PLUGIN_NAME= LIKE ") = none ∧
      Statement.pluginTarget? (Statement.selectPlugin "PLUGIN_NAME= LIKE ") = some "PLUGIN_NAME= LIKE " := by
  obtain ⟨accepted, -, -, kept⟩ := names_keep_statements Config.standard
  have valid : Config.standard.validate = .ok () := rfl
  have plain : Statement.Plain "PLUGIN_NAME= LIKE " := by decide
  obtain ⟨carries, -⟩ := kept _ plain
  exact ⟨accepted.mp valid, plain, carries.apart, carries.plugin⟩

end ClusterCaps
