import Mathlib.Data.List.Dedup
import ClusterCaps.NameMap

set_option autoImplicit false

namespace ClusterCaps

namespace Text

theorem precedes_irrefl (text : String) : precedes text text = false := by
  simp only [precedes, decide_eq_false_iff_not]
  exact List.lt_irrefl text.toList

theorem precedes_trans (a b c : String) (first : precedes a b = true) (second : precedes b c = true) :
    precedes a c = true := by
  simp only [precedes, decide_eq_true_eq] at first second ⊢
  exact List.lt_trans first second

theorem precedes_total (a b : String) (different : a ≠ b) (notBefore : ¬ precedes a b = true) :
    precedes b a = true := by
  simp only [precedes, decide_eq_true_eq] at notBefore ⊢
  apply Decidable.byContradiction
  intro notAfter
  exact different (String.toList_inj.mp (List.le_antisymm (List.not_lt.mp notAfter) (List.not_lt.mp notBefore)))

end Text

namespace NameMap

variable {α : Type}

def Ascending (map : NameMap α) : Prop :=
  map.Pairwise fun left right => Text.precedes left.1 right.1 = true

instance (map : NameMap α) : Decidable (Ascending map) :=
  inferInstanceAs (Decidable (map.Pairwise fun left right => Text.precedes left.1 right.1 = true))

def Distinct (entries : List (String × α)) : Prop := (entries.map Prod.fst).Nodup

theorem ascending_distinct (map : NameMap α) (ascending : Ascending map) : Distinct map := by
  unfold Distinct List.Nodup
  rw [List.pairwise_map]
  refine ascending.imp ?_
  intro left right before same
  rw [same, Text.precedes_irrefl] at before
  cases before

theorem distinct_nodup (entries : List (String × α)) (distinct : Distinct entries) : entries.Nodup :=
  List.Pairwise.of_map Prod.fst (fun _ _ different same => different (congrArg Prod.fst same)) distinct

theorem insert_entries (map : NameMap α) (name : String) (value : α) (entry : String × α)
    (member : entry ∈ map.insert name value) : entry = (name, value) ∨ entry ∈ map := by
  induction map with
  | nil => exact Or.inl (List.mem_singleton.mp member)
  | cons head rest ih =>
      obtain ⟨key, old⟩ := head
      unfold insert at member
      split at member
      · next same =>
          rcases List.mem_cons.mp member with atHead | later
          · left
            rw [atHead, same]
          · exact Or.inr (List.mem_cons_of_mem _ later)
      · split at member
        · rcases List.mem_cons.mp member with atHead | later
          · exact Or.inl atHead
          · exact Or.inr later
        · rcases List.mem_cons.mp member with atHead | later
          · exact Or.inr (List.mem_cons.mpr (Or.inl atHead))
          · exact (ih later).imp_right (List.mem_cons_of_mem _)

theorem mem_insert (map : NameMap α) (name : String) (value : α) (entry : String × α)
    (member : entry ∈ map.insert name value) : entry.1 = name ∨ entry ∈ map :=
  (insert_entries map name value entry member).imp_left (congrArg Prod.fst)

theorem insert_all_entries (map : NameMap α) (entries : List (String × α)) (entry : String × α)
    (member : entry ∈ map.insertAll entries) : entry ∈ entries ∨ entry ∈ map := by
  induction entries generalizing map with
  | nil => exact Or.inr member
  | cons head rest ih =>
      rcases ih _ member with later | early
      · exact Or.inl (List.mem_cons_of_mem head later)
      · rcases insert_entries map head.1 head.2 entry early with same | old
        · left
          rw [same]
          exact List.mem_cons_self
        · exact Or.inr old

theorem insert_ascending (map : NameMap α) (name : String) (value : α) (ascending : Ascending map) :
    Ascending (map.insert name value) := by
  induction map with
  | nil => exact List.pairwise_singleton _ _
  | cons head rest ih =>
      obtain ⟨key, old⟩ := head
      obtain ⟨above, tail⟩ := List.pairwise_cons.mp ascending
      unfold insert
      split
      · exact List.pairwise_cons.mpr ⟨above, tail⟩
      · next different =>
          split
          · next before =>
              refine List.pairwise_cons.mpr ⟨?_, ascending⟩
              intro entry member
              rcases List.mem_cons.mp member with atHead | later
              · rw [atHead]
                exact before
              · exact Text.precedes_trans name key entry.1 before (above entry later)
          · next notBefore =>
              refine List.pairwise_cons.mpr ⟨?_, ih tail⟩
              intro entry member
              rcases mem_insert rest name value entry member with same | later
              · rw [same]
                exact Text.precedes_total name key different notBefore
              · exact above entry later

theorem insert_all_ascending (map : NameMap α) (entries : List (String × α)) (ascending : Ascending map) :
    Ascending (map.insertAll entries) := by
  induction entries generalizing map with
  | nil => exact ascending
  | cons entry rest ih => exact ih _ (insert_ascending map entry.1 entry.2 ascending)

theorem retain_ascending (map : NameMap α) (names : List String) (ascending : Ascending map) :
    Ascending (map.retain names) :=
  List.Pairwise.sublist List.filter_sublist ascending

theorem lookup_iff_mem (entries : List (String × α)) (distinct : Distinct entries) (name : String)
    (value : α) : entries.lookup name = some value ↔ (name, value) ∈ entries := by
  induction entries with
  | nil => simp
  | cons head rest ih =>
      obtain ⟨key, other⟩ := head
      obtain ⟨absent, tail⟩ := List.nodup_cons.mp distinct
      rw [List.lookup_cons, List.mem_cons, Prod.mk.injEq]
      by_cases same : name = key
      · subst same
        have notLater : (name, value) ∉ rest := fun member => absent (List.mem_map.mpr ⟨_, member, rfl⟩)
        simp [notLater, eq_comm]
      · have differs : (name == key) = false := by simpa using same
        simp [differs, same, ih tail]

theorem lookup_none_iff (entries : List (String × α)) (name : String) :
    entries.lookup name = none ↔ name ∉ entries.map Prod.fst := by
  induction entries with
  | nil => simp
  | cons head rest ih =>
      obtain ⟨key, other⟩ := head
      rw [List.lookup_cons]
      by_cases same : name = key
      · simp [same]
      · have differs : (name == key) = false := by simpa using same
        simp [differs, same, ih]

theorem lookup_insert_all (map : NameMap α) (entries : List (String × α)) (distinct : Distinct entries)
    (name : String) :
    (map.insertAll entries).lookup name = (entries.lookup name).or (map.lookup name) := by
  induction entries generalizing map with
  | nil => rfl
  | cons head rest ih =>
      obtain ⟨key, value⟩ := head
      obtain ⟨absent, tail⟩ := List.nodup_cons.mp distinct
      change ((map.insert key value).insertAll rest).lookup name = _
      rw [ih _ tail, List.lookup_cons]
      by_cases same : name = key
      · subst same
        rw [(lookup_none_iff rest name).mpr absent, lookup_insert_self]
        simp
      · have differs : (name == key) = false := by simpa using same
        rw [differs, lookup_insert_of_ne map key name value same]

theorem mem_retain (map : NameMap α) (names : List String) (entry : String × α) :
    entry ∈ map.retain names ↔ entry ∈ map ∧ entry.1 ∈ names := by
  simp only [retain, List.mem_filter, List.contains_iff_mem]

-- New entries over an old map, and then only their names kept: the old map leaves no trace.
theorem replace_perm (map : NameMap α) (entries : List (String × α)) (ascending : Ascending map)
    (distinct : Distinct entries) :
    ((map.insertAll entries).retain (entries.map Prod.fst)).Perm entries := by
  have inserted := insert_all_ascending map entries ascending
  have kept := retain_ascending _ (entries.map Prod.fst) inserted
  rw [List.perm_ext_iff_of_nodup (distinct_nodup _ (ascending_distinct _ kept)) (distinct_nodup _ distinct)]
  rintro ⟨name, value⟩
  rw [mem_retain, ← lookup_iff_mem _ (ascending_distinct _ inserted), lookup_insert_all map entries distinct,
    ← lookup_iff_mem entries distinct]
  constructor
  · rintro ⟨looked, listed⟩
    cases present : entries.lookup name with
    | none => exact absurd listed ((lookup_none_iff entries name).mp present)
    | some other => simpa [present] using looked
  · intro looked
    refine ⟨by rw [looked, Option.some_or], ?_⟩
    exact List.mem_map.mpr ⟨_, (lookup_iff_mem entries distinct name value).mp looked, rfl⟩

theorem lookup_insert_all_last (map : NameMap α) (entries : List (String × α)) (name : String) :
    (map.insertAll entries).lookup name = (entries.reverse.lookup name).or (map.lookup name) := by
  induction entries generalizing map with
  | nil => rfl
  | cons head rest ih =>
      obtain ⟨key, value⟩ := head
      have first : (map.insert key value).lookup name = ([(key, value)].lookup name).or (map.lookup name) := by
        by_cases same : name = key
        · subst same
          simp [lookup_insert_self]
        · have differs : (name == key) = false := by simpa using same
          simp [lookup_insert_of_ne map key name value same, List.lookup_cons, differs]
      change ((map.insert key value).insertAll rest).lookup name = _
      rw [ih, first, List.reverse_cons, List.lookup_append, Option.or_assoc]

theorem lookup_retain (map : NameMap α) (names : List String) (name : String) :
    (map.retain names).lookup name = if name ∈ names then map.lookup name else none := by
  induction map with
  | nil => simp [retain]
  | cons head rest ih =>
      obtain ⟨key, value⟩ := head
      have tail : (rest.filter fun entry => names.contains entry.1).lookup name =
          if name ∈ names then rest.lookup name else none := ih
      rw [retain, List.filter_cons]
      by_cases same : name = key
      · subst same
        by_cases kept : name ∈ names
        · simp [kept]
        · rw [if_neg kept] at tail
          simp only [List.contains_iff_mem, kept, if_false, tail]
      · have differs : (name == key) = false := by simpa using same
        by_cases kept : key ∈ names
        · simp only [List.contains_iff_mem, kept, if_true, List.lookup_cons, differs, tail]
        · simp only [List.contains_iff_mem, kept, if_false, List.lookup_cons, differs, tail]

theorem lookup_replace (map : NameMap α) (entries : List (String × α)) (name : String) :
    ((map.insertAll entries).retain (entries.map Prod.fst)).lookup name = entries.reverse.lookup name := by
  rw [lookup_retain, lookup_insert_all_last]
  cases looked : entries.reverse.lookup name with
  | none =>
      have absent := (lookup_none_iff entries.reverse name).mp looked
      rw [List.map_reverse, List.mem_reverse] at absent
      rw [if_neg absent]
  | some value =>
      have present : name ∈ entries.map Prod.fst := by
        apply Decidable.byContradiction
        intro absent
        rw [← List.mem_reverse, ← List.map_reverse] at absent
        rw [(lookup_none_iff entries.reverse name).mpr absent] at looked
        cases looked
      rw [if_pos present, Option.some_or]

theorem replace_length (map : NameMap α) (entries : List (String × α)) (ascending : Ascending map) :
    ((map.insertAll entries).retain (entries.map Prod.fst)).length = (entries.map Prod.fst).dedup.length := by
  have replaced := retain_ascending _ (entries.map Prod.fst) (insert_all_ascending map entries ascending)
  have same : ∀ name, name ∈ ((map.insertAll entries).retain (entries.map Prod.fst)).map Prod.fst ↔
      name ∈ (entries.map Prod.fst).dedup := by
    intro name
    have looked := map.lookup_replace entries name
    have absent := lookup_none_iff ((map.insertAll entries).retain (entries.map Prod.fst)) name
    rw [looked, lookup_none_iff, List.map_reverse, List.mem_reverse] at absent
    rw [List.mem_dedup]
    exact (not_iff_not.mp absent).symm
  have permuted := (List.perm_ext_iff_of_nodup (ascending_distinct _ replaced) (List.nodup_dedup _)).mpr same
  rw [← permuted.length_eq, List.length_map]

theorem insert_present (map : NameMap α) (name : String) (change : α → α) (value : α)
    (ascending : Ascending map) (present : map.lookup name = some value) :
    map.insert name (change value) =
      map.map fun entry => if entry.1 = name then (entry.1, change entry.2) else entry := by
  induction map with
  | nil => cases present
  | cons head rest ih =>
      obtain ⟨key, old⟩ := head
      obtain ⟨above, tail⟩ := List.pairwise_cons.mp ascending
      rw [List.lookup_cons] at present
      unfold insert
      by_cases same : name = key
      · subst same
        have others : rest.map (fun entry => if entry.1 = name then (entry.1, change entry.2) else entry) =
            rest := by
          refine (List.map_congr_left fun entry member => ?_).trans (List.map_id rest)
          have later : Text.precedes name entry.1 = true := above entry member
          have different : entry.1 ≠ name := by
            intro equal
            rw [equal, Text.precedes_irrefl] at later
            cases later
          rw [if_neg different, id]
        simp only [BEq.rfl, Option.some.injEq] at present
        simp [present, others]
      · have differs : (name == key) = false := by simpa using same
        rw [differs] at present
        have later : Text.precedes key name = true :=
          above (name, value) ((lookup_iff_mem rest (ascending_distinct rest tail) name value).mp present)
        have notBefore : ¬ Text.precedes name key = true := by
          intro before
          have loop := Text.precedes_trans name key name before later
          rw [Text.precedes_irrefl] at loop
          cases loop
        simp [same, Ne.symm same, notBefore, ih tail present]

theorem insert_above (map : NameMap α) (name : String) (value : α)
    (above : ∀ entry ∈ map, Text.precedes entry.1 name = true) :
    map.insert name value = map ++ [(name, value)] := by
  induction map with
  | nil => rfl
  | cons head rest ih =>
      obtain ⟨key, old⟩ := head
      have before : Text.precedes key name = true := above (key, old) List.mem_cons_self
      have different : name ≠ key := by
        rintro rfl
        rw [Text.precedes_irrefl] at before
        cases before
      have notBelow : ¬ Text.precedes name key = true := by
        intro below
        have loop := Text.precedes_trans name key name below before
        rw [Text.precedes_irrefl] at loop
        cases loop
      rw [insert, if_neg different, if_neg notBelow, ih fun entry member => above entry (List.mem_cons_of_mem _ member)]
      rfl

theorem insert_all_above (map : NameMap α) (entries : List (String × α)) (ascending : Ascending (map ++ entries)) :
    map.insertAll entries = map ++ entries := by
  induction entries generalizing map with
  | nil => exact (List.append_nil map).symm
  | cons head rest ih =>
      have above := (List.pairwise_append.mp ascending).2.2
      change (map.insert head.1 head.2).insertAll rest = _
      rw [List.append_cons] at ascending
      rw [insert_above map head.1 head.2 fun entry member => above entry member head List.mem_cons_self,
        List.append_cons map head rest]
      exact ih _ ascending

theorem of_list_ascending (entries : List (String × α)) (ascending : Ascending entries) :
    ofList entries = entries :=
  insert_all_above [] entries ascending

end NameMap

end ClusterCaps
