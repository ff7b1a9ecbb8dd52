import ClusterCaps.Proofs.NameMap

set_option autoImplicit false

namespace ClusterCaps.Text

def Ascending (texts : List String) : Prop :=
  texts.Pairwise fun left right => precedes left right = true

instance (texts : List String) : Decidable (Ascending texts) :=
  inferInstanceAs (Decidable (texts.Pairwise fun left right => precedes left right = true))

theorem mem_insert_sorted (text other : String) (texts : List String) :
    other ∈ insertSorted text texts ↔ other = text ∨ other ∈ texts := by
  induction texts with
  | nil => simp [insertSorted]
  | cons head tail ih =>
      by_cases same : text = head
      · simp [insertSorted, same]
      · by_cases before : precedes text head = true
        · simp [insertSorted, same, before]
        · simp [insertSorted, same, before, ih, or_left_comm]

theorem insert_sorted_ascending (text : String) (texts : List String) (ascending : Ascending texts) :
    Ascending (insertSorted text texts) := by
  induction texts with
  | nil => exact List.pairwise_singleton _ _
  | cons head tail ih =>
      obtain ⟨above, later⟩ := List.pairwise_cons.mp ascending
      by_cases same : text = head
      · simpa [insertSorted, same] using ascending
      · by_cases before : precedes text head = true
        · rw [insertSorted, if_neg same, if_pos before]
          refine List.pairwise_cons.mpr ⟨fun other member => ?_, ascending⟩
          rcases List.mem_cons.mp member with rfl | inTail
          · exact before
          · exact precedes_trans text head other before (above other inTail)
        · rw [insertSorted, if_neg same, if_neg before]
          refine List.pairwise_cons.mpr ⟨fun other member => ?_, ih later⟩
          rcases (mem_insert_sorted text other tail).mp member with rfl | inTail
          · exact precedes_total other head same before
          · exact above other inTail

theorem sorted_set_ascending (texts : List String) : Ascending (sortedSet texts) := by
  induction texts with
  | nil => exact List.Pairwise.nil
  | cons text rest ih => exact insert_sorted_ascending text _ ih

theorem mem_sorted_set (text : String) (texts : List String) : text ∈ sortedSet texts ↔ text ∈ texts := by
  induction texts with
  | nil => exact Iff.rfl
  | cons head rest ih =>
      change text ∈ insertSorted head (sortedSet rest) ↔ _
      rw [mem_insert_sorted, ih, List.mem_cons]

theorem ascending_nodup (texts : List String) (ascending : Ascending texts) : texts.Nodup := by
  refine ascending.imp ?_
  rintro left _ before rfl
  rw [precedes_irrefl] at before
  cases before

theorem ascending_ext (one other : List String) (first : Ascending one) (second : Ascending other)
    (same : ∀ text, text ∈ one ↔ text ∈ other) : one = other := by
  have perm := (List.perm_ext_iff_of_nodup (ascending_nodup one first) (ascending_nodup other second)).mpr same
  refine perm.eq_of_pairwise ?_ first second
  intro left right _ _ before after
  have around := precedes_trans left right left before after
  rw [precedes_irrefl] at around
  cases around

theorem sorted_set_of_ascending (texts : List String) (ascending : Ascending texts) : sortedSet texts = texts := by
  induction texts with
  | nil => rfl
  | cons text rest ih =>
      obtain ⟨above, later⟩ := List.pairwise_cons.mp ascending
      change insertSorted text (sortedSet rest) = text :: rest
      rw [ih later]
      cases rest with
      | nil => rfl
      | cons next rest =>
          have before := above next List.mem_cons_self
          have different : text ≠ next := by
            rintro rfl
            simp [precedes_irrefl] at before
          simp [insertSorted, different, before]

end ClusterCaps.Text
