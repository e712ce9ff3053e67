import SymbolIndex.Bindings
import SymbolIndex.Tree.Node
import SymbolIndex.Tree.Source
import SymbolIndex.Text.Blank
import SymbolIndex.Text.Pieces

/-!
# Package and imports

The names that the head of a compilation unit brings into scope. Imported names are kept in their
dotted source form; which part of such a name is a package can only be told with the known types
at hand.
-/

namespace SymbolIndex

open SymbolIndex.Tree (Node Source)

/-- The package and the imports of a compilation unit. -/
structure Imports where
  /-- The package as a path; empty for the unnamed package. -/
  package : String := ""
  /-- Simple names of single-type imports, with the full dotted names. -/
  single : Bindings String := .empty
  /-- The dotted names whose types are imported on demand, in source order. -/
  onDemand : List String := []
  /-- Members of single static imports, with the dotted names of their types. -/
  staticSingle : Bindings String := .empty
  /-- The dotted names of types whose members are imported on demand, in source order. -/
  staticOnDemand : List String := []

namespace Imports

/-- The name that a package or import declaration declares. -/
def declaredName? (node : Node) : Option Node :=
  node.named.find? fun child => child.kind == "scoped_identifier" || child.kind == "identifier"

/-- Adds an import of the given dotted name. -/
def add (imports : Imports) (isStatic isOnDemand : Bool) (dotted : String) : Imports :=
  match isStatic, isOnDemand with
  | false, false =>
    { imports with single := imports.single.insert (Text.lastPiece (· == '.') dotted) dotted }
  | false, true => { imports with onDemand := imports.onDemand ++ [dotted] }
  | true, false =>
    match Text.cutLast '.' dotted with
    | some (owner, member) =>
      { imports with staticSingle := imports.staticSingle.insert member owner }
    | none => imports
  | true, true => { imports with staticOnDemand := imports.staticOnDemand ++ [dotted] }

/-- Adds what one top-level node declares. -/
def addNode (source : Source) (imports : Imports) (node : Node) : Imports :=
  match declaredName? node with
  | none => imports
  | some name =>
    let text := source.slice name.start name.stop
    if node.kind == "package_declaration" then
      { imports with package := Text.swap '.' '/' text }
    else if node.kind == "import_declaration" then
      imports.add (node.children.any (·.kind == "static"))
        (node.children.any (·.kind == "asterisk")) (Text.squeeze text)
    else imports

/-- The package and the imports at the head of a tree. -/
def ofTree (source : Source) (root : Node) : Imports :=
  root.named.foldl (addNode source) {}

/-- The path of a type of the current package. -/
def inPackage (imports : Imports) (name : String) : String :=
  if imports.package.isEmpty then name else imports.package ++ "/" ++ name

/-- The dotted name that a single-type import gives to a simple name. -/
def singleType? (imports : Imports) (name : String) : Option String :=
  imports.single.find? name

/-- The dotted name of the type that a member was statically imported from. -/
def staticOwner? (imports : Imports) (member : String) : Option String :=
  imports.staticSingle.find? member

end Imports

end SymbolIndex
