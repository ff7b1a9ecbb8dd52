import ClusterCaps.Decode
import ClusterCaps.Proofs.Text.Integer

set_option autoImplicit false

namespace ClusterCaps

inductive Place where
  | member (name : String)
  | item (index : Nat)
deriving DecidableEq, Repr

structure Edit where
  drops : List Place → Bool
  -- New members ahead of the member at a path, and behind the last one of the object at a path.
  ahead : List Place → List (String × Json)
  behind : List Place → List (String × Json)

namespace Edit

def nothing : Edit := ⟨fun _ => false, fun _ => [], fun _ => []⟩

def plain (edit : Edit) : Edit := ⟨edit.drops, fun _ => [], fun _ => []⟩

def without (edit : Edit) (name : String) : Edit :=
  { edit with drops := fun path => path == [.member name] || edit.drops path }

def emptied (edit : Edit) (name : String) : Edit :=
  { edit with
    drops := fun path =>
      match path with
      | [.member other] => if other = name then false else edit.drops path
      | [.member other, .member _] => other == name || edit.drops path
      | _ => edit.drops path }

def under (edit : Edit) (place : Place) : Edit where
  drops path := edit.drops (place :: path)
  ahead path := edit.ahead (place :: path)
  behind path := edit.behind (place :: path)

mutual

def apply (edit : Edit) : Json → Json
  | .null => .null
  | .bool value => .bool value
  | .number value => .number value
  | .string value => .string value
  | .array items => .array (applyItems edit 0 items)
  | .object members => .object (applyMembers edit members ++ edit.behind [])

def applyItems (edit : Edit) (index : Nat) : List Json → List Json
  | [] => []
  | item :: items => apply (edit.under (.item index)) item :: applyItems edit (index + 1) items

def applyMembers (edit : Edit) : List (String × Json) → List (String × Json)
  | [] => []
  | (name, value) :: rest =>
    let kept :=
      if edit.drops [.member name] then [] else [(name, apply (edit.under (.member name)) value)]
    edit.ahead [.member name] ++ kept ++ applyMembers edit rest

end

theorem without_emptied (edit : Edit) (name other : String) (apart : other ≠ name) (path : List Place) :
    (edit.without name).drops (.member other :: path) = (edit.emptied name).drops (.member other :: path) := by
  match path with
  | [] => simp [without, emptied, apart]
  | [.member inner] => simp [without, emptied, apart]
  | [.item index] => simp [without, emptied]
  | _ :: _ :: _ => simp [without, emptied]

def Foreign (edit : Edit) (names : List String) : Prop :=
  (∀ name, ∀ extra ∈ edit.ahead [.member name], extra.1 ∉ names) ∧
    ∀ extra ∈ edit.behind [], extra.1 ∉ names

def Closed (edit : Edit) : Prop := (∀ name, edit.ahead [.member name] = []) ∧ edit.behind [] = []

mutual

theorem apply_nothing (json : Json) : nothing.apply json = json := by
  cases json with
  | null => rfl
  | bool value => rfl
  | number value => rfl
  | string value => rfl
  | array items => exact congrArg Json.array (apply_items_nothing 0 items)
  | object members =>
      rw [apply, apply_members_nothing members]
      exact congrArg Json.object (List.append_nil members)

theorem apply_items_nothing (index : Nat) (items : List Json) : nothing.applyItems index items = items := by
  cases items with
  | nil => rfl
  | cons item items =>
      change nothing.apply item :: nothing.applyItems (index + 1) items = _
      rw [apply_nothing item, apply_items_nothing (index + 1) items]

theorem apply_members_nothing (members : List (String × Json)) : nothing.applyMembers members = members := by
  cases members with
  | nil => rfl
  | cons member rest =>
      obtain ⟨name, value⟩ := member
      change (name, nothing.apply value) :: nothing.applyMembers rest = _
      rw [apply_nothing value, apply_members_nothing rest]

end

-- A part of a record after an edit: what an edit below it leaves of it, or else its default.
def pick {α : Type} (edit : Edit) (name : String) (kept : Edit → α) (default : α) : α :=
  if edit.drops [.member name] then default else kept (edit.under (.member name))

def left (edit : Edit) : List (String × Json) → List (String × Data)
  | [] => []
  | (name, value) :: rest =>
    edit.pick name (fun under => [(name, Data.ofJson (under.apply value))]) [] ++ edit.left rest

theorem left_names (edit : Edit) (members : List (String × Json)) (name : String)
    (found : name ∈ (edit.left members).map Prod.fst) : name ∈ members.map Prod.fst := by
  induction members with
  | nil => exact found
  | cons member rest ih =>
      obtain ⟨first, value⟩ := member
      rw [left, List.map_append, List.mem_append] at found
      rcases found with here | later
      · unfold pick at here
        split at here
        · cases here
        · exact List.mem_cons.mpr (Or.inl (List.mem_singleton.mp here))
      · exact List.mem_cons_of_mem _ (ih later)

theorem members_append (left right : List (String × Json)) :
    Data.ofMembers (left ++ right) = Data.ofMembers left ++ Data.ofMembers right := by
  induction left with
  | nil => rfl
  | cons member rest ih => simp only [List.cons_append, Data.ofMembers, ih]

theorem collect_foreign (names : List String) (extras : List (String × Json)) (entries : List (Data × Data))
    (foreign : ∀ extra ∈ extras, extra.1 ∉ names) :
    Decode.Fields.collect .json names (Data.ofMembers extras ++ entries) =
      Decode.Fields.collect .json names entries := by
  induction extras with
  | nil => rfl
  | cons extra rest ih =>
      have unknown : names.contains extra.1 = false := by
        simpa using foreign extra List.mem_cons_self
      have later := ih fun other member => foreign other (List.mem_cons_of_mem _ member)
      simp only [Data.ofMembers, List.cons_append, Decode.Fields.collect, Decode.text, later]
      cases Decode.Fields.collect .json names entries with
      | none => rfl
      | some given => simp only [unknown, Bool.not_false, if_true]

theorem collect_edited (edit : Edit) (names : List String) (members : List (String × Json))
    (foreign : edit.Foreign names) (known : ∀ member ∈ members, member.1 ∈ names)
    (distinct : (members.map Prod.fst).Nodup) :
    Decode.Fields.collect .json names (Data.ofMembers (edit.applyMembers members ++ edit.behind [])) =
      some (edit.left members) := by
  induction members with
  | nil =>
      have none := collect_foreign names (edit.behind []) [] foreign.2
      rw [List.append_nil] at none
      exact none
  | cons member rest ih =>
      obtain ⟨name, value⟩ := member
      obtain ⟨fresh, apart⟩ := List.nodup_cons.mp distinct
      have later := ih (fun other listed => known other (List.mem_cons_of_mem _ listed)) apart
      rw [applyMembers, left, List.append_assoc, List.append_assoc, members_append,
        collect_foreign names _ _ (foreign.1 name)]
      unfold pick
      split
      · exact later
      · have single : (edit.left rest).any (fun entry => entry.1 == name) = false := by
          rw [List.any_eq_false]
          intro entry listed same
          exact fresh (edit.left_names rest name (List.mem_map.mpr ⟨entry, listed, by simpa using same⟩))
        have listed : names.contains name = true := by
          simpa using known (name, value) List.mem_cons_self
        simp only [List.cons_append, List.nil_append, Data.ofMembers, Decode.Fields.collect, Decode.text, later,
          listed, single]
        rfl

theorem lookup_absent {α : Type} (name : String) (entries : List (String × α))
    (absent : name ∉ entries.map Prod.fst) : Decode.lookup name entries = none := by
  induction entries with
  | nil => rfl
  | cons entry rest ih =>
      obtain ⟨different, later⟩ := not_or.mp (mt List.mem_cons.mpr absent)
      rw [Decode.lookup, if_neg (Ne.symm different), ih later]

theorem lookup_left (edit : Edit) (members : List (String × Json)) (distinct : (members.map Prod.fst).Nodup)
    (name : String) (value : Json) (listed : (name, value) ∈ members) :
    Decode.lookup name (edit.left members) =
      edit.pick name (fun under => some (Data.ofJson (under.apply value))) none := by
  induction members with
  | nil => cases listed
  | cons member rest ih =>
      obtain ⟨fresh, apart⟩ := List.nodup_cons.mp distinct
      rcases List.mem_cons.mp listed with rfl | later
      · have gone := lookup_absent name (edit.left rest) (mt (edit.left_names rest name) fresh)
        unfold left pick
        split
        · exact gone
        · exact if_pos rfl
      · obtain ⟨first, other⟩ := member
        have different : first ≠ name := by
          rintro rfl
          exact fresh (List.mem_map.mpr ⟨_, later, rfl⟩)
        rw [left, ← ih apart later]
        unfold pick
        split
        · rfl
        · exact if_neg different

variable {edit : Edit} {fields : Decode.Fields} {name : String} {value : Json}

def Holds (edit : Edit) (fields : Decode.Fields) (name : String) (value : Json) : Prop :=
  fields.value? name = edit.pick name (fun under => some (Data.ofJson (under.apply value))) none

theorem fields_edited (edit : Edit) (names : List String) (json : Json) (members : List (String × Json))
    (foreign : edit.Foreign names) (written : json = .object members) (full : members.map Prod.fst = names)
    (distinct : names.Nodup) :
    ∃ fields, Decode.Fields.ofData? names .json (Data.ofJson (edit.apply json)) = some fields ∧
      ∀ member ∈ members, Holds edit fields member.1 member.2 := by
  subst full written
  refine ⟨⟨edit.left members, false⟩, ?_, fun member => edit.lookup_left members distinct member.1 member.2⟩
  rw [apply, Data.ofJson, Decode.Fields.ofData?, Decode.Fields.ofEntries,
    edit.collect_edited _ members foreign (fun member listed => List.mem_map_of_mem listed) distinct]
  rfl

theorem bind_read {α β : Type} {first : Option α} {next : α → Option β} {result : α} (read : first = some result) :
    first >>= next = next result := by
  rw [read]
  rfl

theorem bind_unread {α β : Type} {first : Option α} {next : α → Option β} (unread : ∀ result, next result = none) :
    first >>= next = none :=
  Option.bind_eq_none_iff.mpr fun result _ => unread result

theorem bind_missing {α β : Type} {first : Option α} {next : α → Option β} (missing : first = none) :
    first >>= next = none := by
  rw [missing]
  rfl

variable {α : Type} {decode : Decoder α}

theorem with_default_edited (held : Holds edit fields name value) (kept : Edit → α) (default : α)
    (read : edit.drops [.member name] = false →
      decode .json (Data.ofJson ((edit.under (.member name)).apply value)) = some (kept (edit.under (.member name)))) :
    fields.withDefault .json name decode default = some (edit.pick name kept default) := by
  rw [Decode.Fields.withDefault, held, pick, pick]
  cases present : edit.drops [.member name] with
  | true => rfl
  | false => exact read present

theorem with_default_unread (held : Holds edit fields name value) (present : edit.drops [.member name] = false)
    (default : α) (unread : decode .json (Data.ofJson ((edit.under (.member name)).apply value)) = none) :
    fields.withDefault .json name decode default = none := by
  rw [Decode.Fields.withDefault, held, pick, present]
  exact unread

theorem required_kept (held : Holds edit fields name value) (present : edit.drops [.member name] = false)
    (result : α) (read : decode .json (Data.ofJson ((edit.under (.member name)).apply value)) = some result) :
    fields.required .json name decode = some result := by
  rw [Decode.Fields.required, held, pick, present]
  exact read

theorem required_dropped (held : Holds edit fields name value) (gone : edit.drops [.member name] = true) :
    fields.required .json name decode = none := by
  rw [Decode.Fields.required, held, pick, gone]
  rfl

variable {encode : α → Json}

theorem items_edited (edit : Edit) (item : Data → Option α) (first : Nat) (values : List α)
    (kept : α → Edit → α)
    (read : ∀ index < values.length, ∀ value,
      item (Data.ofJson ((edit.under (.item (first + index))).apply (encode value))) =
        some (kept value (edit.under (.item (first + index))))) :
    Decode.items item (Data.ofItems (edit.applyItems first (values.map encode))) =
      some (values.mapIdx fun index value => kept value (edit.under (.item (first + index)))) := by
  induction values generalizing first with
  | nil => rfl
  | cons value rest ih =>
      have here := read 0 (Nat.zero_lt_succ _) value
      have later := ih (first + 1) fun index inside other => by
        rw [Nat.add_assoc, Nat.add_comm 1 index]
        exact read (index + 1) (Nat.succ_lt_succ inside) other
      rw [Nat.add_zero] at here
      simp only [Nat.add_assoc, Nat.add_comm 1] at later
      simp only [List.map_cons, applyItems, Data.ofItems, Decode.items, here, later, List.mapIdx_cons, Nat.add_zero]

theorem items_unread (edit : Edit) (item : Data → Option α) (first index : Nat) (values : List α)
    (inside : index < values.length)
    (unread : ∀ value, item (Data.ofJson ((edit.under (.item (first + index))).apply (encode value))) = none) :
    Decode.items item (Data.ofItems (edit.applyItems first (values.map encode))) = none := by
  induction values generalizing first index with
  | nil => cases inside
  | cons value rest ih =>
      rw [List.map_cons, applyItems, Data.ofItems, Decode.items]
      cases index with
      | zero => rw [← Nat.add_zero first, unread value]
      | succ index =>
          rw [ih (first + 1) index (Nat.lt_of_succ_lt_succ inside)]
          · cases item (Data.ofJson ((edit.under (.item first)).apply (encode value))) <;> rfl
          · rw [Nat.add_assoc, Nat.add_comm 1 index]
            exact unread

theorem list_edited (edit : Edit) (values : List α) (kept : α → Edit → α)
    (read : ∀ index < values.length, ∀ value,
      decode .json (Data.ofJson ((edit.under (.item index)).apply (encode value))) =
        some (kept value (edit.under (.item index)))) :
    Decode.list decode .json (Data.ofJson (edit.apply (.array (values.map encode)))) =
      some (values.mapIdx fun index value => kept value (edit.under (.item index))) := by
  have items := edit.items_edited (decode .json) 0 values kept (by simpa only [Nat.zero_add] using read)
  simp only [Nat.zero_add] at items
  exact items

theorem list_unread (edit : Edit) (values : List α) (index : Nat) (inside : index < values.length)
    (unread : ∀ value, decode .json (Data.ofJson ((edit.under (.item index)).apply (encode value))) = none) :
    Decode.list decode .json (Data.ofJson (edit.apply (.array (values.map encode)))) = none := by
  exact edit.items_unread (decode .json) 0 index values inside (by simpa only [Nat.zero_add] using unread)

end Edit

namespace Decode

theorem nat_read (bound value : Nat) (small : value < bound) : natBelow bound .json (.int value) = some value := by
  rw [natBelow, if_pos (by omega), Int.toNat_natCast]

theorem int32_read (value : Int32) : int32 .json (.int value.toInt) = some value := by
  rw [int32, int, Option.bind_some, Text.int32_in_range]

end Decode

end ClusterCaps
