import ClusterCaps.Data

/-!
Tables while a TOML document is read. A table remembers whether a header has defined it or only its
children have, and whether dotted keys have opened it: that decides what may still be added.
-/
set_option autoImplicit false

namespace ClusterCaps.Toml

mutual

inductive Table where
  | mk (implicit dotted : Bool) (entries : List (String × Item))

inductive Item where
  | value (data : Data)
  | table (table : Table)
  -- An array with a table for each header, the last one first.
  | tables (reversed : List Table)

end

namespace Table

def implicit : Table → Bool
  | mk implicit _ _ => implicit

def dotted : Table → Bool
  | mk _ dotted _ => dotted

def entries : Table → List (String × Item)
  | mk _ _ entries => entries

def defined : Table := mk false false []

def define (table : Table) : Table := mk false false table.entries

def get? (table : Table) (key : String) : Option Item := table.entries.lookup key

def replace (key : String) (item : Item) : List (String × Item) → List (String × Item)
  | [] => [(key, item)]
  | (other, old) :: rest =>
    if other = key then (key, item) :: rest else (other, old) :: replace key item rest

def set (table : Table) (key : String) (item : Item) : Table :=
  mk table.implicit table.dotted (replace key item table.entries)

def erase (table : Table) (key : String) : Table :=
  mk table.implicit table.dotted (table.entries.filter fun entry => entry.1 != key)

-- Changes the table at a path, and opens the tables on the way that are not there yet. Dotted keys
-- cannot reach into a table with a header of its own.
def update (opening : Bool) (change : Table → Option Table) : List String → Table → Option Table
  | [], table => change table
  | key :: path, table =>
    match table.get? key with
    | none =>
      (update opening change path (mk true opening [])).map fun child =>
        table.set key (.table child)
    | some (.value _) => none
    | some (.tables []) => none
    | some (.tables (last :: others)) =>
      (update opening change path last).map fun child => table.set key (.tables (child :: others))
    | some (.table child) =>
      if opening && !child.implicit then none
      else (update opening change path child).map fun child => table.set key (.table child)

def addValue (path : List String) (key : String) (data : Data) : Table → Option Table :=
  update true (fun table =>
    if table.dotted == path.isEmpty then none
    else
      match table.get? key with
      | some _ => none
      | none => some (table.set key (.value data))) path

-- The table that a header goes on with: the one that its children have opened, or a new one.
def takeForHeader (key : String) (parent : Table) : Option Table :=
  match parent.get? key with
  | none => some defined
  | some (.table child) => if child.implicit && !child.dotted then some child.define else none
  | some _ => none

def inspect {α : Type} (look : Table → Option α) : List String → Table → Option α
  | [], table => look table
  | key :: path, table =>
    match table.get? key with
    | none => inspect look path (mk true false [])
    | some (.value _) => none
    | some (.tables []) => none
    | some (.tables (last :: _)) => inspect look path last
    | some (.table child) => inspect look path child

def putTable (path : List String) (key : String) (child : Table) : Table → Option Table :=
  update false (fun table => some (table.set key (.table child))) path

def acceptsAnother (key : String) (parent : Table) : Option Unit :=
  match parent.get? key with
  | none => some ()
  | some (.tables _) => some ()
  | some _ => none

def pushTable (path : List String) (key : String) (child : Table) : Table → Option Table :=
  update false (fun table =>
    match table.get? key with
    | none => some (table.set key (.tables [child]))
    | some (.tables others) => some (table.set key (.tables (child :: others)))
    | some _ => none) path

end Table

mutual

def tableData : Table → Data
  | .mk _ _ entries => .table (entryData entries)

def entryData : List (String × Item) → List (Data × Data)
  | [] => []
  | (key, item) :: rest => (.text key, itemData item) :: entryData rest

def itemData : Item → Data
  | .value data => data
  | .table table => tableData table
  | .tables reversed => .list (tablesData reversed []) 

def tablesData : List Table → List Data → List Data
  | [], done => done
  | table :: rest, done => tablesData rest (tableData table :: done)

end

end ClusterCaps.Toml
