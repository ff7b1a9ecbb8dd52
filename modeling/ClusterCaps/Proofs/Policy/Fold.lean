import ClusterCaps.Policy.Cluster

set_option autoImplicit false

namespace ClusterCaps.Fold

theorem foldl_absorb (fold : Fold) (nodes : List Node.Snapshot) :
    nodes.foldl absorb fold = fold.merge (ofNodes nodes) := by
  induction nodes generalizing fold with
  | nil => rw [ofNodes, List.foldl_nil, List.foldl_nil, merge_empty]
  | cons node rest ih =>
      have later : ofNodes (node :: rest) = (empty.absorb node).merge (ofNodes rest) := by
        rw [ofNodes, List.foldl_cons, ih]
      rw [List.foldl_cons, ih, later, ← merge_assoc, ← absorb_eq_merge]

theorem of_nodes_append (left right : List Node.Snapshot) :
    ofNodes (left ++ right) = (ofNodes left).merge (ofNodes right) := by
  unfold ofNodes
  rw [List.foldl_append]
  exact foldl_absorb (ofNodes left) right

theorem of_nodes_cons (node : Node.Snapshot) (rest : List Node.Snapshot) :
    ofNodes (node :: rest) = (empty.absorb node).merge (ofNodes rest) := by
  rw [ofNodes, List.foldl_cons, foldl_absorb]

theorem raw_of_nodes_cons (capability : Capability) (node : Node.Snapshot) (rest : List Node.Snapshot) :
    (ofNodes (node :: rest)).raw capability =
      (Rule.of capability).fold.apply ((Rule.of capability).holds node) ((ofNodes rest).raw capability) := by
  rw [of_nodes_cons]
  simp only [raw_merge, raw_absorb, raw_empty, FoldOp.identity_apply]

theorem raw_of_nodes_all (capability : Capability) (nodes : List Node.Snapshot)
    (every : (Rule.of capability).fold = .all) :
    (ofNodes nodes).raw capability = nodes.all (Rule.of capability).holds := by
  induction nodes with
  | nil => simp only [ofNodes, List.foldl_nil, raw_empty, every, FoldOp.identity, List.all_nil]
  | cons node rest ih => rw [raw_of_nodes_cons, every, ih, List.all_cons, FoldOp.apply]

theorem raw_of_nodes_any (capability : Capability) (nodes : List Node.Snapshot)
    (one : (Rule.of capability).fold = .any) :
    (ofNodes nodes).raw capability = nodes.any (Rule.of capability).holds := by
  induction nodes with
  | nil => simp only [ofNodes, List.foldl_nil, raw_empty, one, FoldOp.identity, List.any_nil]
  | cons node rest ih => rw [raw_of_nodes_cons, one, ih, List.any_cons, FoldOp.apply]

end ClusterCaps.Fold
