import ClusterCaps.Config.Error
import ClusterCaps.Proofs.Probe.Statement

set_option autoImplicit false

namespace ClusterCaps.Config

theorem check_name_iff (field name : String) :
    checkName field name = .ok () ↔ name.toList ≠ [] ∧ ∀ c ∈ name.toList, isNameChar c = true := by
  unfold checkName
  rw [← List.all_eq_true]
  cases named : name.toList.all isNameChar with
  | false => cases name.toList <;> simp
  | true => cases name.toList <;> simp

theorem both_ok (first second : Except Error Unit) :
    (first >>= fun _ => second) = .ok () ↔ first = .ok () ∧ second = .ok () := by
  cases first with
  | ok value => exact ⟨fun same => ⟨rfl, same⟩, And.right⟩
  | error error =>
      constructor
      · intro same
        cases same
      · rintro ⟨same, -⟩
        cases same

theorem validate_iff (config : Config) :
    config.validate = .ok () ↔
      checkVersion config.schemaVersion = .ok () ∧
        checkName "udf.plugin_name" config.udf.pluginName = .ok () ∧
        checkName "udf.function_list_variable" config.udf.functionListVariable = .ok () ∧
        checkParallelism config.probe.parallelism = .ok () := by
  unfold validate
  rw [both_ok, both_ok, both_ok]

theorem checked_name_plain (field name : String) (checked : checkName field name = .ok ()) :
    Statement.Plain name := by
  intro quote
  have allowed := ((check_name_iff field name).mp checked).2 '\'' quote
  cases allowed

theorem validated_names_plain (config : Config) (valid : config.validate = .ok ()) :
    Statement.Plain config.udf.pluginName ∧ Statement.Plain config.udf.functionListVariable := by
  obtain ⟨-, plugin, settings, -⟩ := (validate_iff config).mp valid
  exact ⟨checked_name_plain _ _ plugin, checked_name_plain _ _ settings⟩

end ClusterCaps.Config
