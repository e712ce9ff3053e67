import SymbolIndex.Walk.Walker

/-!
# Indexing a source

A source with its syntax tree is indexed against a class path: a tree with flaws is refused, and so
is one that nests too deep; any other is walked once.
-/

namespace SymbolIndex

open SymbolIndex.Tree (Node Source SourceError)

/-- The occurrences of a source, and the accesses that could not be attributed, in order. -/
structure SourceIndex where
  table : Table
  notes : List Walk.Note

namespace SourceIndex

/-- The counts of an index. -/
def summary (index : SourceIndex) : Summary :=
  index.table.summary index.notes.length

/-- What a walk has found. -/
def ofWalk (state : Walk.State) : Except SourceError SourceIndex :=
  match state.tooDeep with
  | some position => .error (.tooDeep (position.row + 1) (position.column + 1))
  | none => .ok { table := state.table, notes := state.notes.reverse }

/-- A walk makes an index unless it was given up, and the index has what the walk has filed. -/
theorem ofWalk_eq_ok_iff {state : Walk.State} {index : SourceIndex} :
    ofWalk state = .ok index ↔
      state.tooDeep = none ∧ index = { table := state.table, notes := state.notes.reverse } := by
  unfold ofWalk
  cases state.tooDeep with
  | none => simp [eq_comm]
  | some position => simp

/-- Indexes a source against a class path. -/
def build (source : Source) (root : Node) (classpath : Classpath) :
    Except SourceError SourceIndex :=
  match Tree.check source root with
  | .error error => .error error
  | .ok () => ofWalk (Walk.walk (Walk.Env.ofTree source root classpath) root)

end SourceIndex

end SymbolIndex
