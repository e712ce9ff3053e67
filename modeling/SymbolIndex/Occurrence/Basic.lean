import SymbolIndex.Declaration
import SymbolIndex.Tree.Node
import SymbolIndex.Tree.Source
import SymbolIndex.Text.Pieces

/-!
# Occurrences

What an index records: a place in a source where a field, method, parameter or local variable is
declared, or where a member of another type is named. Every occurrence has the span of its name
token and the binary name of the innermost class around it, its owner.
-/

namespace SymbolIndex

/-- The five kinds of occurrences. -/
inductive OccurrenceKind where
  | field
  | parameter
  | localVariable
  | method
  | reference
  deriving DecidableEq, Repr

namespace OccurrenceKind

/-- Every kind, in the order they are listed in. -/
def all : List OccurrenceKind :=
  [.field, .parameter, .localVariable, .method, .reference]

/-- The word for a kind. -/
def name : OccurrenceKind → String
  | .field => "field"
  | .parameter => "parameter"
  | .localVariable => "local_variable"
  | .method => "method"
  | .reference => "class_reference"

/-- The words that are read as a kind, in lower case with underscores. -/
def words : OccurrenceKind → List String
  | .field => ["field", "fields"]
  | .parameter => ["parameter", "param", "parameters"]
  | .localVariable => ["local_variable", "local", "locals"]
  | .method => ["method", "methods"]
  | .reference => ["class_reference", "reference", "ref"]

/-- A word in lower case, with underscores for hyphens. Only ASCII letters have a case here. -/
def plainWord (text : String) : String :=
  Text.swap '-' '_' (String.ofList (text.toList.map Char.toLower))

/-- The kind that a word names, in any case and with hyphens or underscores. -/
def parse (text : String) : Except String OccurrenceKind :=
  match all.find? (·.words.contains (plainWord text)) with
  | some kind => .ok kind
  | none => .error ("unknown location kind: " ++ plainWord text)

end OccurrenceKind

/-- Where a name token stands. Lines and columns count from one, columns in bytes. -/
structure Span where
  startByte : Nat
  endByte : Nat
  line : Nat
  column : Nat
  endLine : Nat
  endColumn : Nat
  deriving DecidableEq, Repr

namespace Span

/-- The span of a node. -/
def ofNode (source : Tree.Source) (node : Tree.Node) : Span :=
  let first := source.position node.start
  let last := source.position node.stop
  { startByte := node.start
    endByte := node.stop
    line := first.row + 1
    column := first.column + 1
    endLine := last.row + 1
    endColumn := last.column + 1 }

/-- Whether the place (`line`, `column`) is not behind (`line'`, `column'`). -/
def notBehind (line column line' column' : Nat) : Bool :=
  line < line' || (line == line' && column ≤ column')

/-- Whether the caret stands on the span; the end is not part of it. -/
def contains (span : Span) (line column : Nat) : Bool :=
  notBehind span.line span.column line column
    && !notBehind span.endLine span.endColumn line column

end Span

/-- One recorded occurrence. -/
inductive Occurrence where
  | field (name typeName owner : String) (span : Span)
  | method (name signature : String) (parameterTypes : List String) (returnType : Option String)
      (owner : String) (span : Span)
  | parameter (name typeName method owner : String) (span : Span)
  | localVariable (name : String) (typeName : Option String) (method owner : String) (span : Span)
  | reference (member : String) (memberKind : MemberKind) (ownerType owner : String) (span : Span)
  deriving DecidableEq, Repr

namespace Occurrence

/-- The kind of an occurrence. -/
def kind : Occurrence → OccurrenceKind
  | .field .. => .field
  | .method .. => .method
  | .parameter .. => .parameter
  | .localVariable .. => .localVariable
  | .reference .. => .reference

/-- The simple name that an occurrence is filed under. -/
def key : Occurrence → String
  | .field name .. => name
  | .method name .. => name
  | .parameter name .. => name
  | .localVariable name .. => name
  | .reference member .. => member

/-- The span of the name token. -/
def span : Occurrence → Span
  | .field _ _ _ span => span
  | .method _ _ _ _ _ span => span
  | .parameter _ _ _ _ span => span
  | .localVariable _ _ _ _ span => span
  | .reference _ _ _ _ span => span

/-- The binary name of the innermost class around the occurrence. -/
def owner : Occurrence → String
  | .field _ _ owner _ => owner
  | .method _ _ _ _ owner _ => owner
  | .parameter _ _ _ owner _ => owner
  | .localVariable _ _ _ owner _ => owner
  | .reference _ _ _ owner _ => owner

/-- What is said of an occurrence behind its place. -/
def description : Occurrence → String
  | .field name typeName owner _ => "field " ++ typeName ++ " " ++ owner ++ "." ++ name
  | .method _ signature _ (some returnType) owner _ =>
    "method " ++ returnType ++ " " ++ owner ++ "." ++ signature
  | .method _ signature _ none owner _ => "constructor " ++ owner ++ "." ++ signature
  | .parameter name typeName signature _ _ =>
    "parameter " ++ typeName ++ " " ++ name ++ " in " ++ signature
  | .localVariable name typeName signature _ _ =>
    "local " ++ typeName.getD "var" ++ " " ++ name ++ " in " ++ signature
  | .reference member memberKind ownerType _ _ =>
    "reference " ++ memberKind.name ++ " " ++ ownerType ++ "." ++ member

/-- An occurrence on one line: its place and what it is. -/
def text (occurrence : Occurrence) : String :=
  toString occurrence.span.line ++ ":" ++ toString occurrence.span.column ++ " "
    ++ occurrence.description

end Occurrence

end SymbolIndex
