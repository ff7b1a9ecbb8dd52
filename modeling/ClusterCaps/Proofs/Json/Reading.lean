import ClusterCaps.Proofs.Json.Edit
import ClusterCaps.Proofs.NameMap

set_option autoImplicit false

namespace ClusterCaps

namespace Json

mutual

-- In every object the names are ascending, each once, as in a map.
def Ordered : Json → Prop
  | .null => True
  | .bool _ => True
  | .number _ => True
  | .string _ => True
  | .array items => ItemsOrdered items
  | .object members => NameMap.Ascending members ∧ MembersOrdered members

def ItemsOrdered : List Json → Prop
  | [] => True
  | item :: items => Ordered item ∧ ItemsOrdered items

def MembersOrdered : List (String × Json) → Prop
  | [] => True
  | (_, value) :: members => Ordered value ∧ MembersOrdered members

end

theorem members_ordered_iff (members : List (String × Json)) :
    MembersOrdered members ↔ ∀ member ∈ members, member.2.Ordered := by
  induction members with
  | nil => simp [MembersOrdered]
  | cons member rest ih =>
      obtain ⟨name, value⟩ := member
      simp [MembersOrdered, ih]

theorem empty_ordered : (object []).Ordered := ⟨List.Pairwise.nil, trivial⟩

mutual

theorem json_of_json (value : Json) (ordered : value.Ordered) : (Data.ofJson value).json? = some value := by
  cases value with
  | null => rfl
  | bool value => rfl
  | number number => cases number <;> rfl
  | string value => rfl
  | array items => rw [Data.ofJson, Data.json?, items_of_json items ordered, Option.map_some]
  | object members =>
      rw [Data.ofJson, Data.json?, members_of_json members ordered.2, Option.map_some,
        NameMap.of_list_ascending members ordered.1]

theorem items_of_json (items : List Json) (ordered : ItemsOrdered items) :
    Data.jsonItems? (Data.ofItems items) = some items := by
  cases items with
  | nil => rfl
  | cons item rest =>
      simp only [Data.ofItems, Data.jsonItems?, json_of_json item ordered.1, items_of_json rest ordered.2]

theorem members_of_json (members : List (String × Json)) (ordered : MembersOrdered members) :
    Data.jsonMembers? (Data.ofMembers members) = some members := by
  cases members with
  | nil => rfl
  | cons member rest =>
      obtain ⟨name, value⟩ := member
      simp only [Data.ofMembers, Data.jsonMembers?, json_of_json value ordered.1, members_of_json rest ordered.2]

end

theorem of_list_ordered (members : List (String × Json)) (values : ∀ member ∈ members, member.2.Ordered) :
    (object (NameMap.ofList members)).Ordered := by
  refine ⟨NameMap.insert_all_ascending [] members List.Pairwise.nil, ?_⟩
  refine (members_ordered_iff _).mpr fun member inside => ?_
  rcases NameMap.insert_all_entries [] members member inside with listed | none
  · exact values member listed
  · cases none

mutual

theorem json_ordered (data : Data) (value : Json) (read : data.json? = some value) : value.Ordered := by
  cases data with
  | null => cases read; trivial
  | bool value => cases read; trivial
  | int value => cases read; trivial
  | float value => cases read; trivial
  | text value => cases read; trivial
  | list items =>
      obtain ⟨values, itemsRead, rfl⟩ := Option.map_eq_some_iff.mp read
      exact items_ordered items values itemsRead
  | table entries =>
      obtain ⟨members, membersRead, rfl⟩ := Option.map_eq_some_iff.mp read
      exact of_list_ordered members ((members_ordered_iff members).mp (members_ordered entries members membersRead))
  | bare word => cases read
  | literal lines => cases read
  | tagged tag data => cases read
  | unreadable => cases read

theorem items_ordered (items : List Data) (values : List Json) (read : Data.jsonItems? items = some values) :
    ItemsOrdered values := by
  cases items with
  | nil => cases read; trivial
  | cons item rest =>
      rw [Data.jsonItems?] at read
      split at read
      · next value later first second =>
          cases read
          exact ⟨json_ordered item value first, items_ordered rest later second⟩
      · cases read

theorem members_ordered (entries : List (Data × Data)) (members : List (String × Json))
    (read : Data.jsonMembers? entries = some members) : MembersOrdered members := by
  cases entries with
  | nil => cases read; trivial
  | cons entry rest =>
      obtain ⟨key, item⟩ := entry
      cases key with
      | text name =>
          rw [Data.jsonMembers?] at read
          split at read
          · next value later first second =>
              cases read
              exact ⟨json_ordered item value first, members_ordered rest later second⟩
          · cases read
      | _ => cases read

end

end Json

namespace Decode

def jsonMap : Decoder (NameMap Json) := map fun _ data => data.json?

theorem members_written (members : List (String × Json)) (ordered : Json.MembersOrdered members) :
    Decode.members .json Data.json? (Data.ofMembers members) = some members := by
  induction members with
  | nil => rfl
  | cons member rest ih =>
      obtain ⟨name, value⟩ := member
      simp only [Data.ofMembers, Decode.members, text, Json.json_of_json value ordered.1, ih ordered.2]

theorem json_map_written (members : NameMap Json) (ordered : (Json.object members).Ordered) :
    jsonMap .json (Data.ofJson (.object members)) = some members := by
  rw [jsonMap, Data.ofJson, map, members_written members ordered.2, Option.map_some,
    NameMap.of_list_ascending members ordered.1]

theorem members_read (dialect : Dialect) (entries : List (Data × Data)) (members : List (String × Json))
    (read : Decode.members dialect Data.json? entries = some members) : ∀ member ∈ members, member.2.Ordered := by
  induction entries generalizing members with
  | nil =>
      cases read
      simp
  | cons entry rest ih =>
      obtain ⟨key, item⟩ := entry
      rw [Decode.members] at read
      split at read
      · next name value later _ first second =>
          cases read
          simpa using And.intro (Json.json_ordered item value first) (ih later second)
      · cases read

theorem json_map_ordered (dialect : Dialect) (data : Data) (members : NameMap Json)
    (read : jsonMap dialect data = some members) : (Json.object members).Ordered := by
  cases data with
  | table entries =>
      obtain ⟨found, entriesRead, rfl⟩ := Option.map_eq_some_iff.mp read
      exact Json.of_list_ordered found (members_read dialect entries found entriesRead)
  | tagged tag data => exact json_map_ordered dialect data members read
  | bare word =>
      rw [jsonMap, map] at read
      split at read
      · cases read
        exact Json.empty_ordered
      · cases read
  | _ => cases read

theorem optional_string_read (text? : Option String) :
    Decode.optional text .json (Data.ofJson (Json.optionalString text?)) = some text? := by
  cases text? <;> rfl

theorem nat_below_bound (bound : Nat) (dialect : Dialect) (data : Data) (value : Nat)
    (read : natBelow bound dialect data = some value) : value < bound := by
  have limited (word : String) (kept : (natWord? word.toList).filter (· < bound) = some value) : value < bound := by
    obtain ⟨-, below⟩ := Option.filter_eq_some_iff.mp kept
    simpa using below
  fun_induction natBelow bound dialect data with
  | case1 _ number within =>
      cases read
      omega
  | case3 _ word => exact limited word read
  | case4 _ word => exact limited word read
  | case6 dialect tag data _ ih => exact ih read
  | _ => cases read

@[simp] theorem member_append (name : String) (left right : List (String × Json)) :
    Json.member? name (left ++ right) = (Json.member? name left).or (Json.member? name right) := by
  induction left with
  | nil => rfl
  | cons member rest ih =>
      obtain ⟨key, value⟩ := member
      by_cases same : key = name <;> simp [Json.member?, same, ih]

@[simp] theorem member_unless (name key : String) (value : Json) (skipped : Prop) [Decidable skipped] :
    Json.member? name (if skipped then [] else [(key, value)]) =
      if key = name then (if skipped then none else some value) else none := by
  by_cases out : skipped <;> simp [Json.member?, out]

theorem names_unless (key : String) (value : Json) (skipped : Prop) [Decidable skipped] :
    ((if skipped then [] else [(key, value)]).map Prod.fst).Sublist [key] := by
  by_cases out : skipped <;> simp [out]

def Written (fields : Fields) (members : List (String × Json)) : Prop :=
  ∀ name, fields.value? name = (Json.member? name members).map Data.ofJson

theorem left_nothing (members : List (String × Json)) :
    Edit.nothing.left members = members.map fun member => (member.1, Data.ofJson member.2) := by
  induction members with
  | nil => rfl
  | cons member rest ih =>
      obtain ⟨name, value⟩ := member
      change (name, Data.ofJson (Edit.nothing.apply value)) :: Edit.nothing.left rest = _
      rw [Edit.apply_nothing, ih, List.map_cons]

theorem lookup_written (name : String) (members : List (String × Json)) :
    lookup name (members.map fun member => (member.1, Data.ofJson member.2)) =
      (Json.member? name members).map Data.ofJson := by
  induction members with
  | nil => rfl
  | cons member rest ih =>
      obtain ⟨key, value⟩ := member
      by_cases same : key = name <;> simp [lookup, Json.member?, same, ih]

theorem fields_written (names : List String) (members : List (String × Json))
    (some_of : (members.map Prod.fst).Sublist names) (distinct : names.Nodup) :
    ∃ fields, Fields.ofData? names .json (Data.ofJson (.object members)) = some fields ∧ Written fields members := by
  have collected := Edit.nothing.collect_edited names members ⟨nofun, nofun⟩
    (fun member listed => some_of.subset (List.mem_map_of_mem listed)) (distinct.sublist some_of)
  rw [Edit.apply_members_nothing] at collected
  change Fields.collect .json names (Data.ofMembers (members ++ [])) = _ at collected
  rw [List.append_nil] at collected
  refine ⟨⟨Edit.nothing.left members, false⟩, ?_, fun name => ?_⟩
  · rw [Data.ofJson, Fields.ofData?, Fields.ofEntries, collected, Option.map_some]
  · rw [Fields.value?, left_nothing, lookup_written]

theorem fields_in_full (names : List String) (json : Json) (members : List (String × Json))
    (whole : json = .object members) (full : members.map Prod.fst = names) (distinct : names.Nodup) :
    ∃ fields, Fields.ofData? names .json (Data.ofJson json) = some fields ∧ Written fields members := by
  subst whole full
  exact fields_written _ members (List.Sublist.refl _) distinct

section Fields

variable {α : Type} {decode : Decoder α} {fields : Fields} {members : List (String × Json)} {name : String}

theorem required_written (written : Written fields members) (value : Json) (result : α)
    (listed : Json.member? name members = some value) (read : decode .json (Data.ofJson value) = some result) :
    fields.required .json name decode = some result := by
  rw [Fields.required, written, listed, Option.map_some, Option.bind_some, read]

theorem with_default_written (written : Written fields members) (value : Json) (default result : α)
    (skipped : Bool) (listed : Json.member? name members = if skipped then none else some value)
    (usual : skipped = true → result = default) (read : decode .json (Data.ofJson value) = some result) :
    fields.withDefault .json name decode default = some result := by
  rw [Fields.withDefault, written, listed]
  cases skipped with
  | true => exact congrArg some (usual rfl).symm
  | false => exact read

theorem optional_text_written (written : Written fields members) (text? : Option String)
    (listed : Json.member? name members = text?.map Json.string) :
    fields.optionalWithDefault .json name text = some text? := by
  rw [Fields.optionalWithDefault, Fields.withDefault, written, listed]
  cases text? <;> rfl

theorem required_read {dialect : Dialect} {result : α} (read : fields.required dialect name decode = some result) :
    ∃ data, decode dialect data = some result := by
  obtain ⟨data, _, decoded⟩ := Option.bind_eq_some_iff.mp read
  exact ⟨data, decoded⟩

theorem with_default_read {dialect : Dialect} {default result : α}
    (read : fields.withDefault dialect name decode default = some result) :
    result = default ∨ ∃ data, decode dialect data = some result := by
  rw [Fields.withDefault] at read
  split at read
  · next data _ => exact Or.inr ⟨data, read⟩
  · exact Or.inl (Option.some.inj read).symm

theorem required_nat_below {dialect : Dialect} {bound value : Nat}
    (read : fields.required dialect name (natBelow bound) = some value) : value < bound := by
  obtain ⟨data, decoded⟩ := required_read read
  exact nat_below_bound bound dialect data value decoded

theorem json_map_field_ordered {dialect : Dialect} {map : NameMap Json}
    (read : fields.withDefault dialect name jsonMap [] = some map) : (Json.object map).Ordered := by
  rcases with_default_read read with rfl | ⟨data, decoded⟩
  · exact Json.empty_ordered
  · exact json_map_ordered dialect data map decoded

end Fields

end Decode

end ClusterCaps
