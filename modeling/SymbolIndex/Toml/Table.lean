import SymbolIndex.Toml.Lexeme

/-!
# TOML tables

A table is defined by a header, by the dotted keys that run through it, or as one value between
braces. No table may be defined twice: a table remembers whether it was only *implied* by a longer
path, and whether dotted keys made it.
-/

namespace SymbolIndex.Toml

mutual

/-- A value. A table that is written as one value is closed. -/
inductive Value where
  | scalar (value : Scalar)
  | array (items : List Value)
  | inline (table : Table)

/-- What stands under a key: a value, a table, or the tables of an array of tables, the last one
first. -/
inductive Item where
  | value (value : Value)
  | table (table : Table)
  | tables (last : Table) (earlier : List Table)

/-- Keys with what stands under them, newest first. -/
inductive Table where
  | mk (implied dotted : Bool) (entries : List (String × Item))

end

namespace Table

/-- Whether the table was only implied by a longer path. -/
def implied : Table → Bool
  | .mk implied _ _ => implied

/-- Whether dotted keys made the table. -/
def dotted : Table → Bool
  | .mk _ dotted _ => dotted

/-- The keys with what stands under them, newest first. -/
def entries : Table → List (String × Item)
  | .mk _ _ entries => entries

/-- A table that is being defined. -/
def empty : Table := .mk false false []

/-- A table that a path runs through. -/
def onPath (dotted : Bool) : Table := .mk true dotted []

/-- What stands under a key. -/
def find? (table : Table) (key : String) : Option Item :=
  (table.entries.find? (·.1 == key)).map (·.2)

/-- The table with the given item under a key. -/
def set (table : Table) (key : String) (item : Item) : Table :=
  .mk table.implied table.dotted ((key, item) :: table.entries.filter (·.1 != key))

/-- The table without a key. -/
def erase (table : Table) (key : String) : Table :=
  .mk table.implied table.dotted (table.entries.filter (·.1 != key))

/-- Changes the table at the end of a path, making the tables on the way. The path runs through
the last table of an array of tables, and never through a value. Dotted keys only run through
tables that are not defined by a header. -/
def changeAt (dotted : Bool) (change : Table → Option Table) : List String → Table → Option Table
  | [], table => change table
  | key :: path, table =>
    match table.find? key with
    | none => do
      let inner ← changeAt dotted change path (onPath dotted)
      return table.set key (.table inner)
    | some (.table inner) =>
      if dotted ∧ ¬inner.implied then none
      else do
        let inner ← changeAt dotted change path inner
        return table.set key (.table inner)
    | some (.tables last earlier) => do
      let last ← changeAt dotted change path last
      return table.set key (.tables last earlier)
    | some (.value _) => none

/-- The same for a table that is written as one value, whose inner tables are values. -/
def changeInlineAt (change : Table → Option Table) : List String → Table → Option Table
  | [], table => change table
  | key :: path, table =>
    match table.find? key with
    | none => do
      let inner ← changeInlineAt change path (onPath true)
      return table.set key (.value (.inline inner))
    | some (.value (.inline inner)) =>
      if inner.implied then do
        let inner ← changeInlineAt change path inner
        return table.set key (.value (.inline inner))
      else none
    | some _ => none

/-- Puts a value under a new key of the table that a path leads to. A path of dotted keys may only
lead to a table that dotted keys made. -/
def define (isDotted : Bool) (key : String) (value : Value) (table : Table) : Option Table :=
  if table.dotted ≠ isDotted then none
  else
    match table.find? key with
    | some _ => none
    | none => some (table.set key (.value value))

end Table

/-- A document that is being read: the tables that are complete, and the one under the last header
with its path. -/
structure Document where
  root : Table := .empty
  current : Table := .empty
  path : List String := []
  /-- Whether the current table is one of an array of tables. -/
  isElement : Bool := false

namespace Document

/-- Puts the current table in its place. -/
def close (document : Document) : Option Table :=
  match document.path.getLast? with
  | none => some document.current
  | some key =>
    Table.changeAt false (fun parent =>
        match document.isElement, parent.find? key with
        | true, none => some (parent.set key (.tables document.current []))
        | true, some (.tables last earlier) =>
          some (parent.set key (.tables document.current (last :: earlier)))
        | false, none => some (parent.set key (.table document.current))
        | _, _ => none)
      document.path.dropLast document.root

/-- Starts the table of a header. A table that was only implied is now defined. -/
def openTable (path : List String) (document : Document) : Option Document := do
  let root ← document.close
  let key ← path.getLast?
  let (current, root) ← takeImplied key path.dropLast root
  return { root, current, path, isElement := false }
where
  /-- The table under the key, taken out of the tree; a new one when there is none. -/
  takeImplied (key : String) (parents : List String) (root : Table) : Option (Table × Table) :=
    match find parents root with
    | some (.table inner) =>
      if inner.implied ∧ ¬inner.dotted then
        (Table.changeAt false (fun parent => some (parent.erase key)) parents root).map
          ((Table.mk false false inner.entries, ·))
      else none
    | some _ => none
    | none => (Table.changeAt false some parents root).map ((Table.empty, ·))
  /-- What stands under the key at the end of the parents' path. -/
  find : List String → Table → Option Item
    | [], table => path.getLast?.bind table.find?
    | parent :: parents, table =>
      match table.find? parent with
      | some (.table inner) => find parents inner
      | some (.tables last _) => find parents last
      | _ => none

/-- Starts one more table of an array of tables. -/
def openElement (path : List String) (document : Document) : Option Document := do
  let root ← document.close
  let key ← path.getLast?
  let root ← Table.changeAt false (fun parent =>
      match parent.find? key with
      | none => some parent
      | some (.tables _ _) => some parent
      | some _ => none)
    path.dropLast root
  return { root, current := .empty, path, isElement := true }

/-- Adds a key with its value to the current table. -/
def add (keys : List String) (value : Value) (document : Document) : Option Document := do
  let key ← keys.getLast?
  let parents := keys.dropLast
  let current ← Table.changeAt true (Table.define (!parents.isEmpty) key value) parents
    document.current
  return { document with current }

end Document

end SymbolIndex.Toml
