import SymbolIndex.Walk.Expression

/-!
# Walking statements

Blocks, the statements and patterns that declare variables, lambdas, and the accesses and names in
which member references are found.
-/

namespace SymbolIndex.Walk

open SymbolIndex.Tree (Node Cursor)

/-- Whether a type is written as `var`, to be taken from the value. -/
def isInferred (env : Env) (type : Option Node) : Bool :=
  match type with
  | some type => env.text type == "var"
  | none => false

/-- The type of a node that may be there. -/
def typeOf? (env : Env) (scope : Scope) (type : Option Node) : Option JavaType :=
  type.bind (typeOf env scope)

/-- A block. Directly in a class body it initialises objects. -/
def visitBlock (walker : Walker) (cursor : Cursor) (state : State) : State :=
  let step := inBlock (walker.visitChildren cursor)
  if cursor.parent?.map (·.kind) == some "class_body" then inMethod instanceInit step state
  else step state

/-- Visits the value of a variable and declares the variable behind it. An inferred type is what
`ofValue` makes of the value's type, and a written one is resolved there. -/
def declareBehind (env : Env) (walker : Walker) (name : Node) (value : Option Cursor)
    (inferred : Bool) (ofValue : JavaType → Option JavaType) (written : Scope → Option JavaType)
    (state : State) : State :=
  let walked := walker.visit? value state
  if inferred then
    let (found, typed) := walker.valueType? value walked
    typed.declare env name (found.bind ofValue)
  else walked.declare env name (written walked.scope)

/-- One declarator of a local declaration: the variable is in scope behind its value. -/
def visitLocal (env : Env) (walker : Walker) (type : Option Node) (declared : Option JavaType)
    (state : State) (declarator : Cursor) : State :=
  match declarator.node.child? "name" with
  | none => state
  | some name =>
    let dimensions := Tree.dimensionsOf env.source (declarator.node.child? "dimensions")
    let inferred := isInferred env type
    let typeName :=
      if inferred then none
      else some (Tree.withDimensions ((typeText? env type).getD "") dimensions)
    declareBehind env walker name (declarator.child? "value") inferred some
      (fun _ => declared.map (·.arrayOf dimensions)) (state.fileLocal env name typeName)

/-- A local variable declaration. -/
def visitLocals (env : Env) (walker : Walker) (cursor : Cursor) (state : State) : State :=
  let type := cursor.node.child? "type"
  let declared := if isInferred env type then none else typeOf? env state.scope type
  (cursor.childrenIn "declarator").foldl (visitLocal env walker type declared) state

/-- The variable of an enhanced `for`. An inferred one has the element type of the value. -/
def visitLoopVariable (env : Env) (walker : Walker) (cursor : Cursor) (name : Node)
    (state : State) : State :=
  let type := cursor.node.child? "type"
  let inferred := isInferred env type
  let dimensions := Tree.dimensionsOf env.source (cursor.node.child? "dimensions")
  let typeName :=
    if inferred then none
    else (typeText? env type).map (Tree.withDimensions · dimensions)
  declareBehind env walker name (cursor.child? "value") inferred (·.element?)
    (fun scope => (typeOf? env scope type).map (·.arrayOf dimensions))
    (state.fileLocal env name typeName)

/-- An enhanced `for`. -/
def visitLoop (env : Env) (walker : Walker) (cursor : Cursor) : State → State :=
  inBlock fun state =>
    let bound :=
      match cursor.node.child? "name" with
      | some name => visitLoopVariable env walker cursor name state
      | none => state
    walker.visit? (cursor.child? "body") bound

/-- The parameter of a `catch`. One of several alternatives has no single type. -/
def declareCaught (env : Env) (parameter : Node) (state : State) : State :=
  match parameter.child? "name" with
  | none => state
  | some name =>
    let type := parameter.named.find? (·.kind == "catch_type")
    let alternatives := (type.map (·.named)).getD []
    let found :=
      match alternatives with
      | [single] => typeOf env state.scope single
      | _ => none
    (state.fileLocal env name (typeText? env type)).declare env name found

/-- A `catch` clause. -/
def visitCatch (env : Env) (walker : Walker) (cursor : Cursor) : State → State :=
  inBlock fun state =>
    cursor.named.foldl
      (fun state child =>
        if child.kind == "catch_formal_parameter" then declareCaught env child.node state
        else walker.visit child state)
      state

/-- A resource of a `try`: a declared variable, or an expression. -/
def visitResource (env : Env) (walker : Walker) (state : State) (resource : Cursor) : State :=
  match resource.node.child? "name" with
  | none => walker.visitChildren resource state
  | some name =>
    let type := resource.node.child? "type"
    let inferred := isInferred env type
    let typeName := if inferred then none else typeText? env type
    declareBehind env walker name (resource.child? "value") inferred some
      (fun scope => typeOf? env scope type) (state.fileLocal env name typeName)

/-- A `try` with resources. -/
def visitTry (env : Env) (walker : Walker) (cursor : Cursor) : State → State :=
  inBlock fun state =>
    cursor.named.foldl
      (fun state child =>
        if child.kind == "resource_specification" then
          child.named.foldl (visitResource env walker) state
        else walker.visit child state)
      state

/-- An `instanceof`, which may bind a variable. -/
def visitInstanceof (env : Env) (walker : Walker) (cursor : Cursor) (state : State) : State :=
  match cursor.node.child? "name" with
  | none => walker.visitChildren cursor state
  | some name =>
    let type := cursor.node.child? "right"
    let walked := walker.visit? (cursor.child? "left") state
    let filed := walked.fileLocal env name (typeText? env type)
    filed.declare env name (typeOf? env filed.scope type)

/-- A pattern that binds a variable of a type. -/
def visitPattern (env : Env) (cursor : Cursor) (state : State) : State :=
  match cursor.node.named.getLast? with
  | none => state
  | some name =>
    if name.kind == "identifier" then
      let type := cursor.node.named.find? (Tree.isTypeKind ·.kind)
      let written := if isInferred env type then none else type
      (state.fileLocal env name (typeText? env written)).declare env name
        (typeOf? env state.scope written)
    else state

/-- Declares an untyped parameter of a lambda. -/
def declareUntyped (env : Env) (state : State) (name : Node) : State :=
  (state.fileLocal env name none).declare env name none

/-- Declares a typed parameter of a lambda. -/
def declareTyped (env : Env) (state : State) (parameter : Parameter) : State :=
  (state.fileLocal env parameter.name (some parameter.typeName)).declare env parameter.name
    parameter.type

/-- The parameters of a lambda: a single name, a list of names, or a list of declarations. -/
def declareLambdaParameters (env : Env) (list : Node) (state : State) : State :=
  if list.kind == "identifier" then declareUntyped env state list
  else if list.kind == "inferred_parameters" then
    list.named.foldl (declareUntyped env) state
  else (parameters env state.scope (some list)).foldl (declareTyped env) state

/-- A lambda. -/
def visitLambda (env : Env) (walker : Walker) (cursor : Cursor) : State → State :=
  inBlock fun state =>
    let bound :=
      match cursor.node.child? "parameters" with
      | some list => declareLambdaParameters env list state
      | none => state
    walker.visit? (cursor.child? "body") bound

/-- An access that is no receiver of another one. What cannot be attributed is noted, once for the
whole chain. -/
def visitAccess (env : Env) (walker : Walker) (cursor : Cursor) (state : State) : State :=
  match walker.denote cursor true state with
  | (.ok (.name dotted), state) =>
    if cursor.kind == "field_access" then state.note env cursor.node (.type dotted) else state
  | (.ok _, state) => state
  | (.error (.nesting _), state) => state
  | (.error cause, state) => state.note env cursor.node cause

/-- The kinds of nodes whose identifiers are labels, annotation names or pattern types. -/
def holdsNoExpression (kind : String) : Bool :=
  ["labeled_statement", "break_statement", "continue_statement", "marker_annotation",
   "annotation", "annotation_type_element_declaration", "scoped_identifier",
   "record_pattern"].contains kind

/-- Whether a node is the key of a pair in an annotation. -/
def isKeyOf (parent node : Node) : Bool :=
  parent.kind == "element_value_pair"
    && (parent.child? "key").any fun key => key.samePlace node

/-- A bare name. One that stands for nothing is no access, so it is not noted. -/
def visitName (walker : Walker) (cursor : Cursor) (state : State) : State :=
  match cursor.parent? with
  | none => state
  | some parent =>
    if holdsNoExpression parent.kind || isKeyOf parent cursor.node then state
    else (walker.denote cursor true state).2

end SymbolIndex.Walk
