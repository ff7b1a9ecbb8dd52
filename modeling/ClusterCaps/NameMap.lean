import ClusterCaps.Text.Scan

set_option autoImplicit false

namespace ClusterCaps

abbrev NameMap (α : Type) := List (String × α)

namespace NameMap

variable {α : Type}

def insert (name : String) (value : α) : NameMap α → NameMap α
  | [] => [(name, value)]
  | (key, old) :: rest =>
    if name = key then (key, value) :: rest
    else if Text.precedes name key then (name, value) :: (key, old) :: rest
    else (key, old) :: insert name value rest

def insertAll (map : NameMap α) (entries : List (String × α)) : NameMap α :=
  entries.foldl (fun map entry => insert entry.1 entry.2 map) map

def ofList (entries : List (String × α)) : NameMap α := insertAll [] entries

def retain (map : NameMap α) (names : List String) : NameMap α :=
  map.filter fun entry => names.contains entry.1

theorem lookup_insert_self (map : NameMap α) (name : String) (value : α) :
    (insert name value map).lookup name = some value := by
  induction map with
  | nil => simp [insert]
  | cons entry rest ih =>
    obtain ⟨key, old⟩ := entry
    unfold insert
    split
    · next same => simp [same]
    · split
      · simp
      · next other _ =>
        have differs : (name == key) = false := by simpa using other
        simp [List.lookup_cons, differs, ih]

theorem lookup_insert_of_ne (map : NameMap α) (name other : String) (value : α) (h : other ≠ name) :
    (insert name value map).lookup other = map.lookup other := by
  have differs : (other == name) = false := by simpa using h
  induction map with
  | nil => simp [insert, List.lookup_cons, differs]
  | cons entry rest ih =>
    obtain ⟨key, old⟩ := entry
    unfold insert
    split
    · next same => subst same; simp [List.lookup_cons, differs]
    · split
      · simp [List.lookup_cons, differs]
      · simp only [List.lookup_cons]
        split
        · rfl
        · exact ih

end NameMap

end ClusterCaps
