import RpcMetrics.Toml.Value

/-!
# Tables in the making

A document fills tables by headers and by keys with dots.  A table may come about on the way to
another one, by a header of its own, or by a dotted key, and each may be reached again only in
some ways: a header may take up a table that came about on the way, and a dotted key may go on
only through tables that no header has named.  No key is given a value twice.
-/
namespace RpcMetrics.Toml

/-- What stands under a key. -/
inductive Item where
  /-- A value, closed once it is read. -/
  | value (content : Value)
  /-- A table, which may have come about on the way, and by a dotted key. -/
  | table (implicit dotted : Bool) (entries : List (String × Item))
  /-- Tables under one header, last one first. -/
  | tables (tables : List (List (String × Item)))

/-- A table: how it came about, and what it holds. -/
structure Table where
  /-- Whether it came about on the way to another one. -/
  implicit : Bool
  /-- Whether a dotted key brought it about. -/
  dotted : Bool
  entries : List (String × Item)

namespace Table

/-- The table of a whole document. -/
def root : Table := ⟨false, false, []⟩

/-- The table as what stands under a key. -/
def toItem (table : Table) : Item := .table table.implicit table.dotted table.entries

/-- What stands under a key. -/
def get? (table : Table) (key : String) : Option Item := table.entries.lookup key

/-- The table with something else under a key, which takes the place of what stood there. -/
def set (table : Table) (key : String) (item : Item) : Table :=
  if table.entries.any fun entry => entry.1 == key then
    { table with entries := table.entries.map fun entry =>
        if entry.1 == key then (key, item) else entry }
  else { table with entries := table.entries ++ [(key, item)] }

/-- Changes the table at the end of a path, on which missing tables come about.  A path of a
dotted key may not lead through tables that a header has named. -/
def update (dotted : Bool) (change : Table → Option Table) (table : Table) :
    List String → Option Table
  | [] => change table
  | key :: path =>
    match table.get? key with
    | none => do
      let inner ← update dotted change ⟨true, dotted, []⟩ path
      return table.set key inner.toItem
    | some (.table implicit innerDotted entries) =>
      if dotted && !implicit then none
      else do
        let inner ← update dotted change ⟨implicit, innerDotted, entries⟩ path
        return table.set key inner.toItem
    -- a path leads on through the table that was listed last
    | some (.tables (last :: others)) => do
      let inner ← update dotted change ⟨false, false, last⟩ path
      return table.set key (.tables (inner.entries :: others))
    | some _ => none

/-- The table with something under a key after everything else; what stood there is gone. -/
def setLast (table : Table) (key : String) (item : Item) : Table :=
  { table with entries := (table.entries.filter fun entry => entry.1 != key) ++ [(key, item)] }

/-- Opens the table of a header, which comes after all that stands beside it. -/
def openTable (path : List String) (key : String) (table : Table) : Option Table :=
  table.update false (fun parent =>
    match parent.get? key with
    | none => some (parent.setLast key (.table false false []))
    | some (.table true false entries) => some (parent.setLast key (.table false false entries))
    | some _ => none) path

/-- Opens one more table under the header of a list. -/
def openListed (path : List String) (key : String) (table : Table) : Option Table :=
  table.update false (fun parent =>
    match parent.get? key with
    | none => some (parent.set key (.tables [[]]))
    | some (.tables tables) => some (parent.set key (.tables ([] :: tables)))
    | some _ => none) path

/-- Puts a value under a key after a path of dotted keys. -/
def put (path : List String) (key : String) (value : Value) (table : Table) : Option Table :=
  table.update true (fun parent =>
    if parent.dotted == path.isEmpty || (parent.get? key).isSome then none
    else some (parent.set key (.value value))) path

end Table

mutual

/-- The value of what stands under a key. -/
def Item.toValue : Item → Value
  | .value content => content
  | .table _ _ entries => .table (Item.values entries)
  | .tables listed => .array (Item.tableValues listed).reverse

/-- The values of the entries of a table. -/
def Item.values : List (String × Item) → List (String × Value)
  | [] => []
  | (key, item) :: entries => (key, item.toValue) :: Item.values entries

/-- The values of a list of tables. -/
def Item.tableValues : List (List (String × Item)) → List Value
  | [] => []
  | entries :: listed => .table (Item.values entries) :: Item.tableValues listed

end

/-- The value of a table. -/
def Table.toValue (table : Table) : Value := table.toItem.toValue

end RpcMetrics.Toml
