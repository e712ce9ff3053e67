import SymbolIndex.Tree.Node
import SymbolIndex.Tree.Source
import SymbolIndex.Text.Blank

/-!
# Flawed trees

A source is only walked when its tree has no error and no missing node. `firstFlaw` finds the
first flawed node in document order and does not enter a tree that is not broken. `SourceError`
says where and why a source was given up.
-/

namespace SymbolIndex.Tree

/-- The deepest nesting that a walk enters. -/
def maxNesting : Nat := 16384

/-- The most characters of a source text that a message repeats. -/
def snippetLength : Nat := 40

/-- Why a source could not be indexed. Lines and columns count from one. -/
inductive SourceError where
  | flawed (line column : Nat) (snippet : String)
  | tooDeep (line column : Nat)
  deriving DecidableEq, Repr

namespace SourceError

/-- The wording of an error. -/
def message : SourceError → String
  | .flawed line column snippet =>
    "syntax error at " ++ toString line ++ ":" ++ toString column ++ " near `" ++ snippet ++ "`"
  | .tooDeep line column =>
    "syntax nests deeper than " ++ toString maxNesting ++ " levels at " ++ toString line ++ ":"
      ++ toString column

end SourceError

/-- The first flawed node among the given trees, in document order. -/
def firstFlaw : List Node → Option Node
  | [] => none
  | node :: rest =>
    if node.label.flawed then some node
    else if node.broken then firstFlaw (node.children ++ rest)
    else firstFlaw rest
termination_by nodes => Node.sizes nodes
decreasing_by
  · exact Node.sizes_children_lt node rest
  · exact Node.sizes_lt_cons node rest

/-- What a message shows of a flawed node: the kind of a missing one, else the start of its first
line. -/
def snippet (source : Source) (node : Node) : String :=
  if node.label.missing then "missing " ++ node.kind
  else
    let line := Text.trim (Text.firstLine (source.slice node.start node.stop))
    String.ofList (line.toList.take snippetLength)

/-- The error of a flawed node. -/
def flawAt (source : Source) (node : Node) : SourceError :=
  let position := source.position node.start
  .flawed (position.row + 1) (position.column + 1) (snippet source node)

/-- Accepts a tree without flaws. -/
def check (source : Source) (root : Node) : Except SourceError Unit :=
  match firstFlaw [root] with
  | some node => .error (flawAt source node)
  | none => .ok ()

end SymbolIndex.Tree
