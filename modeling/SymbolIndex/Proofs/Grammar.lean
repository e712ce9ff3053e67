import Mathlib.Tactic.MkIffOfInductiveProp
import SymbolIndex.Proofs.Nodes
import SymbolIndex.Proofs.Outline

/-!
# What a syntax tree declares

Which nodes declare a name, and which token is that name, can be read off a tree node by node
(`declarers`). `declaredIn` collects it from a whole tree, without the parts that a caller wants left
out. Neither knows anything of a walk: no order of visits, no limit of nesting, no scope.

`Grammatical` is what is assumed of a tree: that each node has the children and roles which the rule
of its kind gives it, and that there are no comments. Most of it says where a declaration can be at
all: a type, a list of parameters or the head of a declaration hold none, up to annotations.
-/

namespace SymbolIndex.Walk

open SymbolIndex.Tree (Node)

/-! ## Declaring nodes -/

/-- The name of a node. -/
def ownToken (node : Node) : List Node :=
  (node.child? "name").toList

/-- The names of declarators. -/
def declaratorTokens (node : Node) : List Node :=
  (node.childrenIn "declarator").flatMap ownToken

/-- The name of a parameter. That of a `spread_parameter` is in its declarator. -/
def parameterToken? (node : Node) : Option Node :=
  if node.kind == "formal_parameter" then node.child? "name"
  else if node.kind == "spread_parameter" then
    (node.named.find? (·.kind == "variable_declarator")).bind (·.child? "name")
  else none

/-- The names in a list of parameters. -/
def listTokens (list : Node) : List Node :=
  list.named.filterMap parameterToken?

/-- The names of the parameters of a declaration. -/
def parameterTokens (node : Node) : List Node :=
  (node.child? "parameters").toList.flatMap listTokens

/-- The names that the parameters of a lambda bind. -/
def boundTokens (list : Node) : List Node :=
  if list.kind == "identifier" then [list]
  else if list.kind == "inferred_parameters" then list.named
  else listTokens list

/-- The names that a lambda binds. -/
def lambdaTokens (node : Node) : List Node :=
  (node.child? "parameters").toList.flatMap boundTokens

/-- The names of the parameters that a child of a `catch` clause declares. -/
def caughtToken (child : Node) : List Node :=
  if child.kind == "catch_formal_parameter" then ownToken child else []

/-- The names of the resources that a child of a `try` declares. -/
def resourceTokens (child : Node) : List Node :=
  if child.kind == "resource_specification" then child.named.flatMap ownToken else []

/-- The kinds of nodes that declare names, with the names they declare. -/
def declarers : List (String × (Node → List Mark)) :=
  [("field_declaration", fun node => names .field (declaratorTokens node)),
   ("constant_declaration", fun node => names .field (declaratorTokens node)),
   ("enum_constant", fun node => names .field (ownToken node)),
   ("record_declaration", fun node => names .field (parameterTokens node)),
   ("method_declaration", fun node =>
    names .method (ownToken node) ++ names .parameter (parameterTokens node)),
   ("constructor_declaration", fun node =>
    names .method (ownToken node) ++ names .parameter (parameterTokens node)),
   ("compact_constructor_declaration", fun node => names .method (ownToken node)),
   ("local_variable_declaration", fun node => names .localVariable (declaratorTokens node)),
   ("enhanced_for_statement", fun node => names .localVariable (ownToken node)),
   ("catch_clause", fun node => names .localVariable (node.named.flatMap caughtToken)),
   ("try_with_resources_statement", fun node =>
    names .localVariable (node.named.flatMap resourceTokens)),
   ("instanceof_expression", fun node => names .localVariable (ownToken node)),
   ("type_pattern", fun node =>
    names .localVariable (node.named.filter (·.kind == "identifier"))),
   ("record_pattern_component", fun node =>
    names .localVariable (node.named.filter (·.kind == "identifier"))),
   ("lambda_expression", fun node => names .localVariable (lambdaTokens node))]

/-- The names that a node declares itself. -/
def declaredBy (node : Node) : List Mark :=
  ((declarers.lookup node.kind).map (· node)).getD []

mutual

/-- The names that are declared in a tree, without the children that are left out. -/
def declaredIn (skips : Node → Node → Bool) : Node → List Mark
  | ⟨label, broken, children⟩ =>
    declaredBy ⟨label, broken, children⟩
      ++ declaredBelow skips ⟨label, broken, children⟩ children

/-- The names that are declared in children of a node. -/
def declaredBelow (skips : Node → Node → Bool) (parent : Node) : List Node → List Mark
  | [] => []
  | child :: others =>
    (if skips parent child then [] else declaredIn skips child)
      ++ declaredBelow skips parent others

end

/-- The names that are declared in a child, unless it is left out. -/
def declaredPart (skips : Node → Node → Bool) (parent child : Node) : List Mark :=
  if skips parent child then [] else declaredIn skips child

/-- What children declare is declared by each of them, in order. -/
theorem declaredBelow_eq (skips : Node → Node → Bool) (parent : Node) (children : List Node) :
    declaredBelow skips parent children = children.flatMap (declaredPart skips parent) := by
  induction children with
  | nil => simp [declaredBelow]
  | cons child others ih => simp [declaredBelow, declaredPart, ih]

/-- What is declared in a node is what it declares itself, then what its children do, but for those that
are skipped. -/
theorem declaredIn_eq (skips : Node → Node → Bool) (node : Node) :
    declaredIn skips node =
      declaredBy node ++ node.children.flatMap (declaredPart skips node) := by
  cases node
  rw [declaredIn, declaredBelow_eq]

/-! ## Parts that are left out -/

/-- The kinds of nodes in which declarations are not looked for. -/
def asideKinds : List String :=
  ["annotation", "marker_annotation", "modifiers", "string_literal", "package_declaration",
   "import_declaration", "module_declaration"]

/-- Whether a child stands aside: it is of such a kind, or it is in front of `.this`. -/
def aside (parent child : Node) : Bool :=
  asideKinds.contains child.kind ||
    parent.kind == "field_access" && child.plays "object" &&
      (parent.child? "field").any (·.kind == "this")

/-- Whether a child stands aside or is the declarator of a `spread_parameter`, of which only the name
is looked at. -/
def omitted (parent child : Node) : Bool :=
  aside parent child ||
    parent.kind == "spread_parameter" && child.kind == "variable_declarator"

/-- The names that are declared anywhere in a tree. -/
def declared (node : Node) : List Mark :=
  declaredIn (fun _ _ => false) node

/-- The names in a tree that no walk may miss. -/
def required (node : Node) : List Mark :=
  if asideKinds.contains node.kind then [] else declaredIn omitted node

/-! ## The grammar -/

/-- The kinds of nodes that hold no declarations, up to parts that are left out: types, the clauses
and parameters in the head of a declaration, names. -/
def closedKinds : List String :=
  Tree.typeKinds ++
    ["type_arguments", "wildcard", "dimensions", "type_parameters", "type_parameter", "type_bound",
     "superclass", "super_interfaces", "extends_interfaces", "permits", "type_list", "throws",
     "formal_parameters", "inferred_parameters", "formal_parameter", "spread_parameter",
     "receiver_parameter", "catch_type", "catch_formal_parameter", "identifier",
     "underscore_pattern", "this", "super", "class_literal"]

/-- A child without declarations: a token, a node of a closed kind, or a part that is left out. -/
def Plain (parent child : Node) : Prop :=
  child.children = [] ∨ child.kind ∈ closedKinds ∨ omitted parent child

/-- The kinds of nodes that hold declarations in some roles only. -/
def openRoles : List (String × List String) :=
  [("class_declaration", ["body"]), ("interface_declaration", ["body"]),
   ("enum_declaration", ["body"]), ("record_declaration", ["body"]),
   ("annotation_type_declaration", ["body"]), ("field_declaration", ["declarator"]),
   ("constant_declaration", ["declarator"]), ("local_variable_declaration", ["declarator"]),
   ("variable_declarator", ["value"]), ("method_declaration", ["body"]),
   ("constructor_declaration", ["body"]), ("compact_constructor_declaration", ["body"]),
   ("enum_constant", ["arguments", "body"]), ("enhanced_for_statement", ["value", "body"]),
   ("resource", ["value"]), ("instanceof_expression", ["left"]), ("type_pattern", []),
   ("record_pattern_component", []), ("lambda_expression", ["body"]), ("field_access", ["object"]),
   ("method_invocation", ["object", "arguments"]), ("array_access", ["array", "index"]),
   ("cast_expression", ["value"])]

/-- The roles in which a node may hold declarations. A resource or an `instanceof` that names nothing
may hold them anywhere. -/
def openRoles? (node : Node) : Option (List String) :=
  if ["resource", "instanceof_expression"].contains node.kind && (node.child? "name").isNone then none
  else openRoles.lookup node.kind

/-- The roles that are always played. -/
def filledRoles : List (String × List String) :=
  [("class_declaration", ["name"]), ("interface_declaration", ["name"]),
   ("enum_declaration", ["name"]), ("record_declaration", ["name"]),
   ("annotation_type_declaration", ["name"]), ("variable_declarator", ["name"]),
   ("method_declaration", ["name"]), ("constructor_declaration", ["name"]),
   ("compact_constructor_declaration", ["name"]), ("enum_constant", ["name"]),
   ("enhanced_for_statement", ["name"]), ("formal_parameter", ["type", "name"]),
   ("field_access", ["object", "field"]), ("method_invocation", ["name"]),
   ("array_access", ["array"])]

/-- The kinds of nodes with a body of members. -/
def memberKinds : List String :=
  ["class_declaration", "interface_declaration", "enum_declaration", "record_declaration",
   "annotation_type_declaration", "enum_constant"]

/-- The kinds of bodies of members. -/
def bodyKinds : List String :=
  ["class_body", "interface_body", "enum_body", "annotation_type_body"]

/-- A node with the children that the rule of its kind gives it. -/
@[mk_iff]
structure Conforms (node : Node) : Prop where
  commentFree : node.kind ∉ ["line_comment", "block_comment"]
  tokens : ∀ child ∈ node.children, child.label.named = false → child.children = []
  closed : node.kind ∈ closedKinds → ∀ child ∈ node.children, Plain node child
  opened : ∀ roles ∈ openRoles? node, ∀ child ∈ node.children,
    (∀ role ∈ roles, child.plays role = false) → Plain node child
  /-- Only declarators come in any number. -/
  single : ∀ roles ∈ openRoles? node, ∀ role ∈ roles, role ≠ "declarator" →
    (node.childrenIn role).length ≤ 1
  filled : ∀ roles ∈ filledRoles.lookup node.kind, ∀ role ∈ roles, (node.child? role).isSome
  declarators : ∀ child ∈ node.childrenIn "declarator", child.kind = "variable_declarator"
  bodies : node.kind ∈ memberKinds → ∀ child ∈ node.childrenIn "body", child.kind ∈ bodyKinds
  resources : node.kind = "resource_specification" →
    ∀ child ∈ node.named, child.kind = "resource"
  spread : node.kind = "spread_parameter" → node.named.any (Tree.isTypeKind ·.kind)
  /-- The name in a pattern comes last. -/
  patterns : node.kind ∈ ["type_pattern", "record_pattern_component"] →
    ∀ child ∈ node.named.dropLast, child.kind ≠ "identifier"
  /-- What is referred to or put in parentheses comes first. -/
  headed : node.kind ∈ ["method_reference", "parenthesized_expression"] →
    ∀ child ∈ node.named.tail, Plain node child
  creations : node.kind = "object_creation_expression" →
    (∀ child ∈ node.childrenIn "type", Plain node child) ∧
      (node.children.filter (·.kind == "class_body")).length ≤ 1

instance (parent child : Node) : Decidable (Plain parent child) :=
  inferInstanceAs (Decidable (_ ∨ _ ∨ _))

instance (node : Node) : Decidable (Conforms node) :=
  decidable_of_iff' _ (conforms_iff node)

/-- A tree all of whose nodes conform to the grammar. -/
def Grammatical (root : Node) : Prop :=
  root.all fun node => decide (Conforms node)

instance (root : Node) : Decidable (Grammatical root) :=
  inferInstanceAs (Decidable (_ = true))

namespace Grammatical

variable {node child : Node}

/-- In a grammatical tree the node itself has the children that its rule gives it. -/
theorem here (grammatical : Grammatical node) : Conforms node :=
  of_decide_eq_true (Node.all_iff.mp grammatical).1

/-- The children of a grammatical node are grammatical. -/
theorem below (grammatical : Grammatical node) (member : child ∈ node.children) :
    Grammatical child :=
  (Node.all_iff.mp grammatical).2 child member

end Grammatical

end SymbolIndex.Walk
