import SymbolIndex.Tree.Node
import SymbolIndex.Tree.Source
import SymbolIndex.Text.Pieces
import SymbolIndex.Text.Word
import SymbolIndex.JavaType

/-!
# The text of types

A type is shown as its tokens, without annotations, comments and layout: a blank only keeps two
words apart. `erase` drops type arguments, and `withDimensions` adds array brackets.
-/

namespace SymbolIndex.Tree

/-- The kinds of nodes that denote a type. -/
def typeKinds : List String :=
  ["integral_type", "floating_point_type", "boolean_type", "void_type", "type_identifier",
   "scoped_type_identifier", "generic_type", "array_type", "annotated_type"]

/-- Whether a node of this kind denotes a type. -/
def isTypeKind (kind : String) : Bool :=
  typeKinds.contains kind

/-- The kinds of nodes that are no part of a type's text. -/
def isTrivia (kind : String) : Bool :=
  ["annotation", "marker_annotation", "line_comment", "block_comment"].contains kind

/-- The leaves below the given nodes that are part of a type's text, onto those already `found`,
newest first. -/
def tokensOnto (found : List Node) : List Node → List Node
  | [] => found
  | node :: rest =>
    if isTrivia node.kind then tokensOnto found rest
    else if node.children.isEmpty then tokensOnto (node :: found) rest
    else tokensOnto found (node.children ++ rest)
termination_by nodes => Node.sizes nodes
decreasing_by
  · exact Node.sizes_lt_cons node rest
  · exact Node.sizes_lt_cons node rest
  · exact Node.sizes_children_lt node rest

/-- The leaves that are part of a type's text, in document order. -/
def tokens (node : Node) : List Node :=
  (tokensOnto [] [node]).reverse

/-- Whether a blank is needed between a text that ends in `last` and one that starts with `next`:
two words would run together, and a wildcard keeps clear of its bound. -/
def needsBlank (last next : Char) : Bool :=
  (Text.isWord last || last == '?') && Text.isWord next

/-- The characters of the tokens, set side by side; `last` is the character before them. -/
def setTokens (last : Option Char) : List (List Char) → List Char
  | [] => []
  | token :: rest =>
    let blank :=
      match last, token.head? with
      | some last, some next => if needsBlank last next then [' '] else []
      | _, _ => []
    blank ++ token ++ setTokens (token.getLast?.or last) rest

/-- The text of a type. -/
def typeText (source : Source) (node : Node) : String :=
  String.ofList (setTokens none
    ((tokens node).map fun token => (source.slice token.start token.stop).toList))

/-- Drops what stands between angle brackets; `depth` is the number of open ones. -/
def eraseChars (depth : Nat) : List Char → List Char
  | [] => []
  | '<' :: rest => eraseChars (depth + 1) rest
  | '>' :: rest => eraseChars (depth - 1) rest
  | c :: rest => if depth = 0 then c :: eraseChars depth rest else eraseChars depth rest

/-- The text of a type without its type arguments. -/
def erase (text : String) : String :=
  String.ofList (eraseChars 0 text.toList)

/-- The number of dimensions that a `dimensions` node writes. -/
def dimensionsOf (source : Source) (node : Option Node) : Nat :=
  match node with
  | some node => Text.occurrences '[' (source.slice node.start node.stop)
  | none => 0

/-- A type text with array brackets behind it. -/
def withDimensions (base : String) (count : Nat) : String :=
  base ++ String.join (List.replicate count "[]")

end SymbolIndex.Tree
