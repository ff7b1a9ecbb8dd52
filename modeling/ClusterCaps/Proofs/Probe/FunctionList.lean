import ClusterCaps.Probe.Udf
import ClusterCaps.Proofs.Text.Pieces
import ClusterCaps.Proofs.Text.SortedSet

set_option autoImplicit false

namespace ClusterCaps

namespace Udf

structure IsName (name : String) : Prop where
  some : name ≠ ""
  single : ',' ∉ name.toList
  bare : Text.Bare name.toList

def Surrounded (name item : String) : Prop :=
  ∃ before after, item.toList = before ++ name.toList ++ after ∧ Text.Blank before ∧ Text.Blank after

-- Items that hold the names, in any order and any number of times, with blank items between them or not.
structure Listing (names items : List String) : Prop where
  only : ∀ item ∈ items, Text.Blank item.toList ∨ ∃ name ∈ names, Surrounded name item
  every : ∀ name ∈ names, ∃ item ∈ items, Surrounded name item

theorem mem_function_list (text name : String) :
    name ∈ functionList text ↔
      ∃ piece ∈ Text.splitOn ',' text.toList, Text.trim piece = name.toList ∧ name ≠ "" := by
  rw [functionList, Text.mem_sorted_set, List.mem_map]
  constructor
  · rintro ⟨item, member, rfl⟩
    obtain ⟨trimmed, solid⟩ := List.mem_filter.mp member
    obtain ⟨piece, found, rfl⟩ := List.mem_map.mp trimmed
    refine ⟨piece, found, String.toList_ofList.symm, fun empty => ?_⟩
    rw [← String.toList_inj, String.toList_ofList] at empty
    simp [empty] at solid
  · rintro ⟨piece, found, trimmed, some⟩
    refine ⟨name.toList, List.mem_filter.mpr ⟨List.mem_map.mpr ⟨piece, found, trimmed⟩, ?_⟩, String.ofList_toList⟩
    simpa using some

theorem function_list_ascending (text : String) : Text.Ascending (functionList text) := Text.sorted_set_ascending _

theorem trim_subset (text : List Char) (c : Char) (member : c ∈ Text.trim text) : c ∈ text := by
  obtain ⟨before, after, _, _, whole⟩ := Text.trim_parts text
  rw [whole]
  exact List.mem_append_left after (List.mem_append_right before member)

theorem listed_name (text name : String) (member : name ∈ functionList text) : IsName name := by
  obtain ⟨piece, found, trimmed, some⟩ := (mem_function_list text name).mp member
  refine ⟨some, fun comma => ?_, ?_⟩
  · rw [← trimmed] at comma
    exact Text.piece_clean ',' text.toList piece found (trim_subset piece ',' comma)
  · rw [← trimmed]
    exact Text.trim_bare piece

theorem function_list_append (first second name : String) :
    name ∈ functionList (first ++ "," ++ second) ↔ name ∈ functionList first ∨ name ∈ functionList second := by
  have whole : (first ++ "," ++ second).toList = first.toList ++ ',' :: second.toList := by
    simp [String.toList_append]
  rw [mem_function_list, mem_function_list, mem_function_list, whole, Text.split_on_append]
  simp only [List.mem_append, or_and_right, exists_or]

theorem surrounded_trim (name item : String) (isName : IsName name) (surrounded : Surrounded name item) :
    Text.trim item.toList = name.toList := by
  obtain ⟨before, after, whole, blank, alsoBlank⟩ := surrounded
  rw [whole, Text.trim_of_core before name.toList after blank alsoBlank isName.bare]

theorem blank_single (text : List Char) (blank : Text.Blank text) : ',' ∉ text :=
  fun comma => absurd (blank ',' comma) (by decide)

theorem surrounded_single (name item : String) (isName : IsName name) (surrounded : Surrounded name item) :
    ',' ∉ item.toList := by
  obtain ⟨before, after, whole, blank, alsoBlank⟩ := surrounded
  rw [whole]
  simp only [List.mem_append, not_or]
  exact ⟨⟨blank_single before blank, isName.single⟩, blank_single after alsoBlank⟩

theorem mem_joined (items : List String) (single : ∀ item ∈ items, ',' ∉ item.toList) (name : String) :
    name ∈ functionList (Text.joined "," items) ↔
      ∃ item ∈ items, Text.trim item.toList = name.toList ∧ name ≠ "" := by
  rw [mem_function_list, show "," = String.singleton ',' from rfl, Text.joined_chars, Text.split_on_eq]
  cases items with
  | nil =>
      simp only [List.map_nil, List.not_mem_nil, false_and, exists_false, iff_false]
      rintro ⟨piece, found, trimmed, some⟩
      cases List.mem_singleton.mp found
      exact some (String.toList_eq_nil_iff.mp trimmed.symm)
  | cons item items =>
      have apart : ∀ piece ∈ (item :: items).map String.toList, ',' ∉ piece := List.forall_mem_map.mpr single
      rw [List.splitOn_intercalate ',' apart (by simp)]
      simp only [List.mem_map, exists_exists_and_eq_and]

theorem listing_read (names items : List String) (isName : ∀ name ∈ names, IsName name) (listing : Listing names items)
    (name : String) : name ∈ functionList (Text.joined "," items) ↔ name ∈ names := by
  have single : ∀ item ∈ items, ',' ∉ item.toList := by
    intro item member
    rcases listing.only item member with blank | ⟨other, known, surrounded⟩
    · exact blank_single item.toList blank
    · exact surrounded_single other item (isName other known) surrounded
  rw [mem_joined items single]
  constructor
  · rintro ⟨item, member, trimmed, some⟩
    rcases listing.only item member with blank | ⟨other, known, surrounded⟩
    · rw [Text.blank_trim item.toList blank] at trimmed
      exact absurd (String.toList_eq_nil_iff.mp trimmed.symm) some
    · rw [surrounded_trim other item (isName other known) surrounded, String.toList_inj] at trimmed
      rwa [← trimmed]
  · intro known
    obtain ⟨item, member, surrounded⟩ := listing.every name known
    exact ⟨item, member, surrounded_trim name item (isName name known) surrounded, (isName name known).some⟩

theorem listing_self (names : List String) : Listing names names := by
  have plain : ∀ name : String, Surrounded name name := fun name =>
    ⟨[], [], by rw [List.nil_append, List.append_nil], List.forall_mem_nil _, List.forall_mem_nil _⟩
  exact ⟨fun item member => Or.inr ⟨item, member, plain item⟩, fun name member => ⟨name, member, plain name⟩⟩

-- Lists read one behind the other give the union of what each gives. What is read is a set of names, and any
-- listing of a set of names is read as that set, its own listing among them.
theorem function_list_reads_sets :
    (∀ first second name, name ∈ functionList (first ++ "," ++ second) ↔
        name ∈ functionList first ∨ name ∈ functionList second) ∧
      (∀ text, Text.Ascending (functionList text) ∧ ∀ name ∈ functionList text, IsName name) ∧
      (∀ names items, (∀ name ∈ names, IsName name) → Listing names items →
        functionList (Text.joined "," items) = Text.sortedSet names ∧
          ∀ name, name ∈ functionList (Text.joined "," items) ↔ name ∈ names) ∧
      ∀ text, functionList (Text.joined "," (functionList text)) = functionList text := by
  refine ⟨function_list_append, fun text => ⟨function_list_ascending text, listed_name text⟩, ?_, fun text => ?_⟩
  · intro names items isName listing
    have read := listing_read names items isName listing
    refine ⟨Text.ascending_ext _ _ (function_list_ascending _) (Text.sorted_set_ascending names) fun name => ?_, read⟩
    rw [read name, Text.mem_sorted_set]
  · refine Text.ascending_ext _ _ (function_list_ascending _) (function_list_ascending text) ?_
    exact listing_read _ _ (listed_name text) (listing_self _)

theorem function_list_reads_padded_listing :
    let names := ["hashcheck", "bloomfilter"]
    let items := ["bloomfilter", " ", " hashcheck\u3000", "\tbloomfilter"]
    (∀ name ∈ names, IsName name) ∧ Listing names items ∧
      functionList "bloomfilter, , hashcheck\u3000,\tbloomfilter" = ["bloomfilter", "hashcheck"] := by
  intro names items
  have named : ∀ name ∈ names, IsName name := by
    refine List.forall_mem_cons.mpr ⟨?_, List.forall_mem_singleton.mpr ?_⟩
    · exact ⟨by decide, by decide, Text.bare_of_no_blank _ (by simp [Text.isBlank])⟩
    · exact ⟨by decide, by decide, Text.bare_of_no_blank _ (by simp [Text.isBlank])⟩
  have plain : Surrounded "bloomfilter" "bloomfilter" := ⟨[], [], rfl, by simp [Text.Blank], by simp [Text.Blank]⟩
  have behind : Surrounded "bloomfilter" "\tbloomfilter" :=
    ⟨['\t'], [], rfl, List.forall_mem_singleton.mpr rfl, by simp [Text.Blank]⟩
  have between : Surrounded "hashcheck" " hashcheck\u3000" :=
    ⟨[' '], ['\u3000'], rfl, List.forall_mem_singleton.mpr rfl, List.forall_mem_singleton.mpr rfl⟩
  have listing : Listing names items := by
    constructor
    · refine List.forall_mem_cons.mpr ⟨Or.inr ⟨_, by simp [names], plain⟩, ?_⟩
      refine List.forall_mem_cons.mpr ⟨Or.inl (List.forall_mem_singleton.mpr rfl), ?_⟩
      refine List.forall_mem_cons.mpr ⟨Or.inr ⟨_, by simp [names], between⟩, ?_⟩
      exact List.forall_mem_singleton.mpr (Or.inr ⟨_, by simp [names], behind⟩)
    · refine List.forall_mem_cons.mpr ⟨⟨_, by simp [items], between⟩, List.forall_mem_singleton.mpr ?_⟩
      exact ⟨_, by simp [items], plain⟩
  exact ⟨named, listing, (function_list_reads_sets.2.2.1 names items named listing).1⟩

end Udf

end ClusterCaps
