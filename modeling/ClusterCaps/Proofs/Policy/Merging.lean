import ClusterCaps.Proofs.Policy.Fold

set_option autoImplicit false

namespace ClusterCaps

-- Folds are merged into each other until one is left: those of groups, whose skipped nodes are none,
-- and those that nothing has gone into.
inductive Merging where
  | start
  | part (group : List (Option Node.Snapshot))
  | join (into other : Merging)

namespace Merging

def fold : Merging → Fold
  | start => Fold.empty
  | part group => group.foldl Fold.absorbOptional Fold.empty
  | join into other => into.fold.merge other.fold

def groups : Merging → List (List (Option Node.Snapshot))
  | start => []
  | part group => [group]
  | join into other => into.groups ++ other.groups

end Merging

namespace Fold

theorem absorb_right_comm (fold : Fold) (first second : Node.Snapshot) :
    (fold.absorb first).absorb second = (fold.absorb second).absorb first := by
  rw [absorb_eq_merge (fold.absorb first), absorb_eq_merge (fold.absorb second), absorb_eq_merge fold first,
    absorb_eq_merge fold second, merge_assoc, merge_assoc, merge_comm (empty.absorb first)]

theorem of_nodes_perm (left right : List Node.Snapshot) (same : left.Perm right) :
    ofNodes left = ofNodes right :=
  same.foldl_eq' (fun first _ second _ fold => absorb_right_comm fold first second) empty

theorem foldl_absorb_optional (fold : Fold) (items : List (Option Node.Snapshot)) :
    items.foldl absorbOptional fold = (items.filterMap id).foldl absorb fold := by
  induction items generalizing fold with
  | nil => rfl
  | cons item rest ih =>
      cases item with
      | none => exact ih fold
      | some node =>
          rw [List.filterMap_cons_some (by rfl), List.foldl_cons, List.foldl_cons, absorbOptional, ih]

theorem nodes_of_nodes (nodes : List Node.Snapshot) : (ofNodes nodes).nodes = nodes.length := by
  induction nodes with
  | nil => rfl
  | cons node rest ih =>
      rw [of_nodes_cons, nodes_merge, ih, nodes_absorb, nodes_empty, List.length_cons]
      omega

end Fold

theorem Merging.fold_eq (plan : Merging) : plan.fold = Fold.ofNodes (plan.groups.flatten.filterMap id) := by
  induction plan with
  | start => rfl
  | part group =>
      rw [fold, Fold.foldl_absorb_optional, groups, List.flatten_singleton]
      rfl
  | join into other into_ih other_ih =>
      rw [fold, into_ih, other_ih, groups, List.flatten_append, List.filterMap_append, Fold.of_nodes_append]

-- Items in any order, cut into any groups, with the folds of the groups merged in any order and any
-- association, come to the fold of the nodes among the items from first to last.
theorem Fold.any_grouping_folds_alike (items : List (Option Node.Snapshot))
    (groups : List (List (Option Node.Snapshot))) (plan : Merging) (split : groups.flatten.Perm items)
    (merged : plan.groups.Perm groups) :
    let nodes := items.filterMap id
    plan.fold = nodes.foldl absorb empty ∧
      plan.fold.nodes = nodes.length ∧
      (∀ capability, plan.fold.raw capability =
        match (Rule.of capability).fold with
        | .all => nodes.all (Rule.of capability).holds
        | .any => nodes.any (Rule.of capability).holds) ∧
      ∀ fold : Fold, items.foldl absorbOptional fold = nodes.foldl absorb fold := by
  intro nodes
  have rearranged : (plan.groups.flatten.filterMap id).Perm nodes :=
    (merged.flatten.trans split).filterMap id
  have whole : plan.fold = ofNodes nodes := plan.fold_eq.trans (of_nodes_perm _ _ rearranged)
  refine ⟨whole, ?_, ?_, fun fold => foldl_absorb_optional fold items⟩
  · rw [whole, nodes_of_nodes]
  · intro capability
    rw [whole]
    cases op : (Rule.of capability).fold with
    | all => exact raw_of_nodes_all capability nodes op
    | any => exact raw_of_nodes_any capability nodes op

theorem Fold.any_grouping_of_two_nodes :
    let legacy : Node.Snapshot := { version := "5.6.29" }
    let modern : Node.Snapshot := { version := "8.0.32", lowerCaseMode := 1 }
    let items := [some legacy, none, some modern]
    let groups := [[some modern], [], [none, some legacy]]
    let plan : Merging := .join (.join (.part [none, some legacy]) .start) (.join (.part []) (.part [some modern]))
    groups.flatten.Perm items ∧ plan.groups.Perm groups ∧ plan.fold = ofNodes [legacy, modern] ∧
      plan.fold.nodes = 2 ∧ plan.fold.raw .legacyVersion = true ∧ plan.fold.raw .lowerCaseTableNames = false := by
  intro legacy modern items groups plan
  have split : groups.flatten.Perm items := by decide
  have merged : plan.groups.Perm groups := by decide
  obtain ⟨whole, count, raw, _⟩ := any_grouping_folds_alike items groups plan split merged
  have legacyOne : plan.fold.raw .legacyVersion = true := by
    rw [raw]
    decide
  have modernAlone : plan.fold.raw .lowerCaseTableNames = false := by
    rw [raw]
    decide
  exact ⟨split, merged, whole, count, legacyOne, modernAlone⟩

end ClusterCaps
