import SymbolIndex.Walk.Walker

/-!
# The outline of a walk

Which names a walk comes to, and in which order, depends on the tree alone. The outline lists them:
a declaration is filed whenever the walk comes to it, a reference may be filed or passed over. Where
no level of nesting is left the outline shows the limit in place of what lies below.

`outline` has the shape of `walker`: one level of it is written against an `Outline` of the nodes
below. What the walk resolves, and the scope it resolves it in, are no part of it.
-/

namespace SymbolIndex.Walk

open SymbolIndex.Tree (Node)

/-! ## Kinds of nodes -/

/-- What is found in a table is listed there under its key. -/
theorem mem_of_lookup {α : Type} {table : List (String × α)} {key : String} {value : α}
    (listed : table.lookup key = some value) : (key, value) ∈ table := by
  obtain ⟨before, behind, same, _⟩ := List.lookup_eq_some_iff.mp listed
  rw [same]
  exact List.mem_append_right _ List.mem_cons_self

/-- A construct is listed with its kind. -/
theorem Construct.mem_kinds {kind : String} {construct : Construct}
    (found : ofKind kind = construct) (special : construct ≠ .other) :
    (kind, construct) ∈ kinds := by
  unfold ofKind at found
  cases listed : kinds.lookup kind with
  | none => rw [listed] at found; exact absurd found.symm special
  | some _ => rw [listed, Option.getD_some] at found; exact found ▸ mem_of_lookup listed

/-- A form of expressions is listed with its kind. -/
theorem ExprForm.mem_kinds {kind : String} {form : ExprForm} (found : ofKind kind = form)
    (special : form ≠ .other) : (kind, form) ∈ kinds := by
  unfold ofKind at found
  cases listed : kinds.lookup kind with
  | none => rw [listed] at found; exact absurd found.symm special
  | some _ => rw [listed, Option.getD_some] at found; exact found ▸ mem_of_lookup listed

/-- The kind of a construct that has only one. -/
theorem Construct.kind_eq {kind word : String} {construct : Construct}
    (found : ofKind kind = construct) (special : construct ≠ .other)
    (only : ∀ entry ∈ kinds, entry.2 = construct → entry.1 = word) : kind = word :=
  only _ (mem_kinds found special) rfl

/-- The kind of a form that has only one. -/
theorem ExprForm.kind_eq {kind word : String} {form : ExprForm} (found : ofKind kind = form)
    (special : form ≠ .other) (only : ∀ entry ∈ kinds, entry.2 = form → entry.1 = word) :
    kind = word :=
  only _ (mem_kinds found special) rfl

/-! ## Marks -/

/-- What a walk comes to: a name that may be filed, or the limit of nesting. -/
inductive Mark where
  | name (kind : OccurrenceKind) (token : Node)
  | limit

/-- What lies below a node, visited or read as an expression. -/
structure Outline where
  visit : Node → List Mark
  denote : Node → List Mark

namespace Outline

/-- What lies in a node that may be there. -/
def visit? (below : Outline) (node : Option Node) : List Mark :=
  (node.map below.visit).getD []

/-- What lies in an expression that may be there. -/
def denote? (below : Outline) (node : Option Node) : List Mark :=
  (node.map below.denote).getD []

/-- What lies in the named children of a node that may be there. -/
def visitChildren? (below : Outline) (node : Option Node) : List Mark :=
  (node.map fun node => node.named.flatMap below.visit).getD []

end Outline

/-- Names of one kind. -/
def names (kind : OccurrenceKind) (tokens : List Node) : List Mark :=
  tokens.map (Mark.name kind)

/-! ## Parts of constructs -/

/-- The name in a `formal_parameter`, when it has a type. -/
def formalName? (node : Node) : Option Node :=
  (node.child? "type").bind fun _ => node.child? "name"

/-- The name in a `spread_parameter`, when it has a type. -/
def spreadName? (node : Node) : Option Node :=
  (node.named.find? (Tree.isTypeKind ·.kind)).bind fun _ =>
    (node.named.find? (·.kind == "variable_declarator")).bind (·.child? "name")

/-- The name in a parameter. -/
def parameterName? (node : Node) : Option Node :=
  if node.kind == "formal_parameter" then formalName? node
  else if node.kind == "spread_parameter" then spreadName? node
  else none

/-- The names in a list of parameters that may be there. -/
def parameterNames (list : Option Node) : List Node :=
  (list.map fun list => list.named.filterMap parameterName?).getD []

/-- The names of the components of a record declaration; nothing else has any. -/
def componentNames (declaration : Node) : List Node :=
  if declaration.kind == "record_declaration" then
    parameterNames (declaration.child? "parameters")
  else []

/-- The names that the parameters of a lambda bind: a single name, a list of names, or a list of
declarations. -/
def boundNames (list : Node) : List Node :=
  if list.kind == "identifier" then [list]
  else if list.kind == "inferred_parameters" then list.named
  else parameterNames (some list)

/-- The names that a lambda binds. -/
def lambdaNames (node : Node) : List Node :=
  ((node.child? "parameters").map boundNames).getD []

/-- The name that a pattern binds. -/
def patternNames (node : Node) : List Node :=
  match node.named.getLast? with
  | none => []
  | some name => if name.kind == "identifier" then [name] else []

section Level

variable (below : Outline)

/-- A name with the value behind it: a declarator, a resource or the variable of a loop. -/
def valuedMarks (kind : OccurrenceKind) (node : Node) : List Mark :=
  match node.child? "name" with
  | none => []
  | some name => .name kind name :: below.visit? (node.child? "value")

/-- A resource of a `try`: a named one, or an expression. -/
def resourceMarks (node : Node) : List Mark :=
  if (node.child? "name").isSome then valuedMarks below .localVariable node
  else node.named.flatMap below.visit

/-- The creation of an object. -/
def creationMarks (node : Node) : List Mark :=
  (creationParts node).flatMap below.visit ++ below.visitChildren? (creationBody? node)

/-- A dotted access. In front of `this` nothing is filed. -/
def fieldMarks (node : Node) : List Mark :=
  match node.child? "object", node.child? "field" with
  | some object, some field =>
    if field.kind == "this" then [] else below.denote object ++ [.name .reference field]
  | _, _ => []

/-- A method call. -/
def callMarks (node : Node) : List Mark :=
  match node.child? "name" with
  | none => []
  | some name =>
    below.denote? (node.child? "object") ++ [.name .reference name]
      ++ below.visit? (node.child? "arguments")

/-- The left side of a method reference. In a type nothing is filed. -/
def qualifierMarks (qualifier : Node) : List Mark :=
  if Tree.isTypeKind qualifier.kind then [] else below.denote qualifier

/-- A method reference: its left side and the last name. -/
def referenceMarks (node : Node) : List Mark :=
  match node.named with
  | [] => []
  | qualifier :: others =>
    qualifierMarks below qualifier ++ names .reference others.getLast?.toList

/-- An element of an array. -/
def elementMarks (node : Node) : List Mark :=
  match node.child? "array" with
  | none => []
  | some array => below.denote array ++ below.visit? (node.child? "index")

/-- The outline of an expression. -/
def denotedNode (node : Node) : List Mark :=
  match ExprForm.ofKind node.kind with
  | .name => [.name .reference node]
  | .this => []
  | .super => []
  | .field => fieldMarks below node
  | .call => callMarks below node
  | .reference => referenceMarks below node
  | .parenthesized => below.denote? node.named.head?
  | .element => elementMarks below node
  | .cast => below.visit? (node.child? "value")
  | .creation => creationMarks below node
  | .arrayCreation => node.named.flatMap below.visit
  | .text => []
  | .classLiteral => []
  | .other => below.visit node

/-- A type: its components and its body. -/
def typeMarks (node : Node) : List Mark :=
  match node.child? "name" with
  | none => []
  | some _ =>
    names .field (componentNames node) ++ below.visitChildren? (node.child? "body")

/-- A method or a constructor. -/
def methodMarks (node : Node) : List Mark :=
  match node.child? "name" with
  | none => []
  | some name =>
    .name .method name :: names .parameter (parameterNames (node.child? "parameters"))
      ++ below.visit? (node.child? "body")

/-- A compact constructor. -/
def compactMarks (node : Node) : List Mark :=
  match node.child? "name" with
  | none => []
  | some name => .name .method name :: below.visit? (node.child? "body")

/-- A constant of an enum. -/
def constantMarks (node : Node) : List Mark :=
  match node.child? "name" with
  | none => []
  | some name =>
    .name .field name :: below.visit? (node.child? "arguments")
      ++ below.visitChildren? (node.child? "body")

/-- A child of a `catch` clause. -/
def caughtMarks (child : Node) : List Mark :=
  if child.kind == "catch_formal_parameter" then
    names .localVariable (child.child? "name").toList
  else below.visit child

/-- A child of a `try` with resources. -/
def tryMarks (child : Node) : List Mark :=
  if child.kind == "resource_specification" then child.named.flatMap (resourceMarks below)
  else below.visit child

/-- An `instanceof`. -/
def instanceofMarks (node : Node) : List Mark :=
  match node.child? "name" with
  | none => node.named.flatMap below.visit
  | some name => below.visit? (node.child? "left") ++ [.name .localVariable name]

/-- The outline of a node that is visited. -/
def visitedNode (node : Node) : List Mark :=
  match Construct.ofKind node.kind with
  | .skipped => []
  | .type => typeMarks below node
  | .fields => (node.childrenIn "declarator").flatMap (valuedMarks below .field)
  | .method => methodMarks below node
  | .compactConstructor => compactMarks below node
  | .enumConstant => constantMarks below node
  | .staticInitializer => node.named.flatMap below.visit
  | .block => node.named.flatMap below.visit
  | .blockLike => node.named.flatMap below.visit
  | .locals => (node.childrenIn "declarator").flatMap (valuedMarks below .localVariable)
  | .loop => valuedMarks below .localVariable node ++ below.visit? (node.child? "body")
  | .catchClause => node.named.flatMap (caughtMarks below)
  | .resources => node.named.flatMap (tryMarks below)
  | .instanceof => instanceofMarks below node
  | .pattern => names .localVariable (patternNames node)
  | .lambda => names .localVariable (lambdaNames node) ++ below.visit? (node.child? "body")
  | .creation => creationMarks below node
  | .access => below.denote node
  | .name => [.name .reference node]
  | .other => node.named.flatMap below.visit

end Level

/-- The outline of a tree with a number of levels left. -/
def outline : Nat → Outline
  | 0 => { visit := fun _ => [.limit], denote := fun _ => [.limit] }
  | room + 1 => { visit := visitedNode (outline room), denote := denotedNode (outline room) }

end SymbolIndex.Walk
