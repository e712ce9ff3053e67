import SymbolIndex.Walk.TypeName

/-!
# Parameters and signatures

The parameters of a method, a constructor, a record header or a lambda. A signature is the name of
a method with the erased types of its parameters.
-/

namespace SymbolIndex.Walk

open SymbolIndex.Tree (Node)

/-- A declared parameter. -/
structure Parameter where
  /-- The node of its name. -/
  name : Node
  /-- Its type as written. -/
  typeName : String
  /-- Its type as far as it could be resolved. -/
  type : Option JavaType

/-- The type of a parameter without type arguments. -/
def Parameter.erased (parameter : Parameter) : String :=
  Tree.erase parameter.typeName

/-- The parameter that a `formal_parameter` declares. -/
def formalParameter (env : Env) (scope : Scope) (node : Node) : Option Parameter := do
  let type ← node.child? "type"
  let name ← node.child? "name"
  let dimensions := Tree.dimensionsOf env.source (node.child? "dimensions")
  return {
    name
    typeName := Tree.withDimensions (Tree.typeText env.source type) dimensions
    type := (typeOf env scope type).map (·.arrayOf dimensions) }

/-- The parameter that a `spread_parameter` declares: an array of its type. -/
def spreadParameter (env : Env) (scope : Scope) (node : Node) : Option Parameter := do
  let type ← node.named.find? (Tree.isTypeKind ·.kind)
  let declarator ← node.named.find? (·.kind == "variable_declarator")
  let name ← declarator.child? "name"
  return {
    name
    typeName := Tree.typeText env.source type ++ "..."
    type := (typeOf env scope type).map (·.arrayOf 1) }

/-- The parameter that a node declares, if it is one. -/
def parameter? (env : Env) (scope : Scope) (node : Node) : Option Parameter :=
  if node.kind == "formal_parameter" then formalParameter env scope node
  else if node.kind == "spread_parameter" then spreadParameter env scope node
  else none

/-- The parameters of a list that may be there. -/
def parameters (env : Env) (scope : Scope) (list : Option Node) : List Parameter :=
  match list with
  | some list => list.named.filterMap (parameter? env scope)
  | none => []

/-- A method name with the erased types of its parameters. -/
def signature (name : String) (parameters : List Parameter) : String :=
  name ++ "(" ++ String.intercalate "," (parameters.map (·.erased)) ++ ")"

end SymbolIndex.Walk
