import Std.Data.TreeMap
import SymbolIndex.Occurrence.Basic

/-!
# Tables of occurrences

Occurrences are filed by kind and, within a kind, under a name. Names are listed in ascending
order, the occurrences of one name in the order they were filed.
-/

namespace SymbolIndex

/-- The number of occurrences of each kind, and of accesses that could not be attributed. -/
structure Summary where
  fields : Nat := 0
  parameters : Nat := 0
  localVariables : Nat := 0
  methods : Nat := 0
  references : Nat := 0
  unresolved : Nat := 0
  deriving DecidableEq, Repr

namespace Summary

/-- The number of occurrences of all kinds. -/
def total (summary : Summary) : Nat :=
  summary.fields + summary.parameters + summary.localVariables + summary.methods
    + summary.references

/-- The counts of two summaries taken together. -/
def add (first second : Summary) : Summary where
  fields := first.fields + second.fields
  parameters := first.parameters + second.parameters
  localVariables := first.localVariables + second.localVariables
  methods := first.methods + second.methods
  references := first.references + second.references
  unresolved := first.unresolved + second.unresolved

/-- A summary on one line. -/
def text (summary : Summary) : String :=
  toString summary.fields ++ " fields, " ++ toString summary.methods ++ " methods, "
    ++ toString summary.parameters ++ " parameters, " ++ toString summary.localVariables
    ++ " locals, " ++ toString summary.references ++ " references ("
    ++ toString summary.unresolved ++ " unresolved)"

end Summary

/-- The occurrences of one kind by name, those of a name newest first. -/
abbrev Shelf := Std.TreeMap String (List Occurrence)

namespace Shelf

/-- Files one more occurrence under a name. -/
def file (shelf : Shelf) (key : String) (occurrence : Occurrence) : Shelf :=
  shelf.insert key (occurrence :: shelf.getD key [])

/-- The occurrences under a name, in the order they were filed. -/
def under (shelf : Shelf) (key : String) : List Occurrence :=
  (shelf.getD key []).reverse

/-- All occurrences, by name and then in the order they were filed. -/
def all (shelf : Shelf) : List Occurrence :=
  shelf.toList.flatMap fun (_, filed) => filed.reverse

/-- The number of occurrences. -/
def count (shelf : Shelf) : Nat :=
  shelf.all.length

end Shelf

/-- The occurrences of a source, a shelf for each kind. -/
structure Table where
  fields : Shelf := ∅
  parameters : Shelf := ∅
  localVariables : Shelf := ∅
  methods : Shelf := ∅
  references : Shelf := ∅

namespace Table

/-- A table without occurrences. -/
def empty : Table := {}

/-- The shelf of a kind. -/
def shelf (table : Table) : OccurrenceKind → Shelf
  | .field => table.fields
  | .parameter => table.parameters
  | .localVariable => table.localVariables
  | .method => table.methods
  | .reference => table.references

/-- Files an occurrence under a name. -/
def insert (table : Table) (key : String) (occurrence : Occurrence) : Table :=
  match occurrence.kind with
  | .field => { table with fields := Shelf.file table.fields key occurrence }
  | .parameter => { table with parameters := Shelf.file table.parameters key occurrence }
  | .localVariable =>
    { table with localVariables := Shelf.file table.localVariables key occurrence }
  | .method => { table with methods := Shelf.file table.methods key occurrence }
  | .reference => { table with references := Shelf.file table.references key occurrence }

/-- The table of occurrences filed one after another, each under its name. -/
def ofEntries (entries : List (String × Occurrence)) : Table :=
  entries.foldl (fun table (key, occurrence) => table.insert key occurrence) empty

/-- The occurrences of a kind under a name, in the order they were filed. -/
def find (table : Table) (kind : OccurrenceKind) (key : String) : List Occurrence :=
  Shelf.under (table.shelf kind) key

/-- The names of a kind, ascending. -/
def keys (table : Table) (kind : OccurrenceKind) : List String :=
  (table.shelf kind).keys

/-- The occurrences of a kind, by name and then in the order they were filed. -/
def list (table : Table) (kind : OccurrenceKind) : List Occurrence :=
  Shelf.all (table.shelf kind)

/-- The number of occurrences of a kind. -/
def count (table : Table) (kind : OccurrenceKind) : Nat :=
  Shelf.count (table.shelf kind)

/-- The number of occurrences. -/
def total (table : Table) : Nat :=
  table.count .field + table.count .parameter + table.count .localVariable
    + table.count .method + table.count .reference

/-- Whether nothing was filed. -/
def isEmpty (table : Table) : Bool :=
  OccurrenceKind.all.all fun kind => (table.shelf kind).isEmpty

/-- The type that the first reference to a member was attributed to. -/
def declaringType? (table : Table) (member : String) : Option String :=
  (table.find .reference member).findSome? fun
    | .reference _ _ ownerType _ _ => some ownerType
    | _ => none

/-- The occurrences whose name token the caret stands on, kind by kind. -/
def atCaret (table : Table) (line column : Nat) : List Occurrence :=
  (OccurrenceKind.all.flatMap table.list).filter (·.span.contains line column)

/-- The counts of the table beside a number of unresolved accesses. -/
def summary (table : Table) (unresolved : Nat) : Summary where
  fields := table.count .field
  parameters := table.count .parameter
  localVariables := table.count .localVariable
  methods := table.count .method
  references := table.count .reference
  unresolved

end Table

end SymbolIndex
