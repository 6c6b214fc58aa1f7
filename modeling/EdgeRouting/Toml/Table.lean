import EdgeRouting.Toml.Value

/-!
# Tables under construction

A table is built from keys and headers in the order of the document. How a table came to be decides
what may still be said about it.
-/

namespace EdgeRouting.Toml

inductive Form
  /-- Named by a header, or the document itself. -/
  | header
  /-- On the way to a table with a header. -/
  | implied
  /-- On the way of a dotted key. -/
  | dotted
  deriving DecidableEq, Repr

inductive Node
  | value (value : Value)
  | table (form : Form) (entries : List (String × Node))
  /-- Tables under one name, the latest in front. -/
  | tables (latestFirst : List (List (String × Node)))

structure Table where
  form : Form
  entries : List (String × Node)

namespace Table

def empty : Table := ⟨.header, []⟩

def alterEntries? (key : String) (change : Option Node → Option Node) :
    List (String × Node) → Option (List (String × Node))
  | [] => (change none).map fun node => [(key, node)]
  | (name, node) :: entries =>
    if name = key then (change (some node)).map fun node => (name, node) :: entries
    else (alterEntries? key change entries).map ((name, node) :: ·)

def alter? (key : String) (change : Option Node → Option Node) (table : Table) : Option Table :=
  (alterEntries? key change table.entries).map (⟨table.form, ·⟩)

/-- Changes the table at a node, which is made where there is none. Of several tables it is the
latest. A dotted key does not enter a table that has a header. -/
def enter? (form : Form) (change : Table → Option Table) : Option Node → Option Node
  | none => (change ⟨form, []⟩).map fun t => .table t.form t.entries
  | some (.table found entries) =>
    if form = .dotted ∧ found = .header then none
    else (change ⟨found, entries⟩).map fun t => .table t.form t.entries
  | some (.tables (latest :: earlier)) =>
    (change ⟨.header, latest⟩).map fun t => .tables (t.entries :: earlier)
  | some _ => none

/-- Changes the table at a path. Tables on the way that are not there are made in this form. -/
def alterAt? (form : Form) (change : Table → Option Table) : List String → Table → Option Table
  | [], table => change table
  | key :: path, table => table.alter? key (enter? form (alterAt? form change path))

def isAbsent : Option Node → Bool
  | none => true
  | some _ => false

/-- Sets a key that is not there yet. Behind dots it is set in a table that came from dots. -/
def set? (path : List String) (key : String) (value : Value) (table : Table) : Option Table :=
  alterAt? .dotted (fun table =>
    if path ≠ [] ∧ table.form ≠ .dotted then none
    else table.alter? key fun found => if isAbsent found then some (.value value) else none)
      path table

/-- Opens a table by its header, which only one that is implied may already have. -/
def openTable? (path : List String) (key : String) (table : Table) : Option Table :=
  alterAt? .implied (alter? key fun
    | none => some (.table .header [])
    | some (.table .implied entries) => some (.table .header entries)
    | some _ => none) path table

def addTable? (path : List String) (key : String) (table : Table) : Option Table :=
  alterAt? .implied (alter? key fun
    | none => some (.tables [[]])
    | some (.tables tables) => some (.tables ([] :: tables))
    | some _ => none) path table

end Table

mutual

def Node.toValue : Node → Value
  | .value value => value
  | .table _ entries => .table (entryValues entries)
  | .tables latestFirst => .array (tableValues latestFirst).reverse

def entryValues : List (String × Node) → List (String × Value)
  | [] => []
  | (key, node) :: entries => (key, node.toValue) :: entryValues entries

def tableValues : List (List (String × Node)) → List Value
  | [] => []
  | entries :: tables => .table (entryValues entries) :: tableValues tables

end

def Table.toValue (table : Table) : Value :=
  .table (entryValues table.entries)

end EdgeRouting.Toml
