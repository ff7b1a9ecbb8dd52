import ClusterCaps.Json.Printer
import ClusterCaps.Policy.Document
import ClusterCaps.Report.Layout

set_option autoImplicit false

namespace ClusterCaps.Report

def foldWord : FoldOp → String
  | .all => "AND"
  | .any => "OR"

def ruleCells (rule : Rule.Description) : List String :=
  [rule.capability.name, rule.condition, foldWord rule.fold, rule.override.text,
    yesNo rule.published]

def rulesMarkdown (rules : List Rule.Description) : List String :=
  tableLines ["Capability", "Node condition", "Fold", "Override", "Published"] (rules.map ruleCells)

def rulesSummary (rules : List Rule.Description) : String :=
  Text.ofNat rules.length ++ " rules, " ++
    Text.ofNat (rules.filter Rule.Description.published).length ++ " published"

def renderRules (rules : List Rule.Description) : Layout → String
  | .json => Json.pretty (.array (rules.map Rule.Description.toJson))
  | .markdown => ofLines (rulesMarkdown rules)
  | .summary => rulesSummary rules

end ClusterCaps.Report
