import SymbolIndex.Walk.Declaration

/-!
# What expressions denote

An expression is followed as far as the members behind it need: a name may be a variable, a field,
a type or the start of a package, a call has the type its method returns. While recording, every
member found on the way is filed as a reference, and the parts that are no receivers are visited.
-/

namespace SymbolIndex.Walk

open SymbolIndex.Tree (Node Cursor)

/-- What a member of the given type denotes. -/
def memberReferent : Option JavaType → Referent
  | some type => .value type
  | none => .unknown

/-- What a variable of the given type denotes; one without a known type ends the chain. -/
def variableOutcome (name : String) : Option JavaType → Outcome
  | some type => .ok (.value type)
  | none => .error (.expression name)

/-- Files a reference while recording. -/
def noteReference (env : Env) (recording : Bool) (name : Node) (kind : MemberKind)
    (declaring : String) (state : State) : State :=
  if recording then state.fileReference env name kind declaring else state

/-- A simple name: a variable, a field of this or an enclosing class or inherited by one, a
statically imported field, a type, or else the start of a dotted name. -/
def denoteName (env : Env) (node : Node) (recording : Bool) (state : State) : Outcome × State :=
  let name := env.text node
  match state.scope.lookup name (inheritedField env state.scope) with
  | some (.declared type) => (variableOutcome name type, state)
  | some (.field declaring type) =>
    (variableOutcome name type, noteReference env recording node .field declaring state)
  | none =>
    match staticImport env state.scope name .field with
    | some found =>
      (.ok (memberReferent found.type),
        noteReference env recording node .field found.declaring state)
    | none =>
      match simpleType env state.scope name with
      | some path => (.ok (.type path), state)
      | none => (.ok (.name name), state)

/-- A value of the type that a node writes. -/
def denoteType (env : Env) (type : Option Node) (state : State) : Outcome :=
  match type with
  | none => .error (.expression "")
  | some type =>
    match typeOf env state.scope type with
    | some found => .ok (.value found)
    | none => .error (.type (Tree.typeText env.source type))

/-- A member of the type at `path`. -/
def denoteMember (env : Env) (path : String) (name : Node) (kind : MemberKind)
    (recording : Bool) (state : State) : Outcome × State :=
  match memberOf env state.scope path (env.text name) kind with
  | .ok found =>
    (.ok (memberReferent found.type), noteReference env recording name kind found.declaring state)
  | .error cause => (.error cause, state)

/-- The super class of the innermost class. -/
def frameSuperClass (scope : Scope) : String :=
  (scope.frame?.bind (·.members.superClass)).getD rootClass

/-- A class named in front of `this`: an enclosing instance. -/
def enclosingInstance (text : String) : Outcome → Outcome
  | .ok (.type path) => .ok (.value (.reference path))
  | .ok _ => .error (.expression text)
  | .error cause => .error cause

/-- A field of what the expression in front of it denotes. -/
def fieldOn (env : Env) (object field : Node) (recording : Bool) (referent : Referent)
    (state : State) : Outcome × State :=
  let name := env.text field
  match referent with
  | .name dotted =>
    let longer := dotted ++ "." ++ name
    match absoluteType env state.scope longer with
    | some path => (.ok (.type path), state)
    | none => (.ok (.name longer), state)
  | .type path =>
    let nested := path ++ "$" ++ name
    if env.knows state.scope nested then (.ok (.type nested), state)
    else denoteMember env path field .field recording state
  | .value (.reference path) => denoteMember env path field .field recording state
  | .value (.array element) =>
    if name = "length" then (.ok (.value (.primitive .int)), state)
    else (.error (.notAClass (JavaType.array element).text), state)
  | .value (.primitive kind) => (.error (.notAClass kind.name), state)
  | .unknown => (.error (.expression (env.text object)), state)

/-- A dotted access: an enclosing instance, or a field. -/
def denoteField (env : Env) (walker : Walker) (cursor : Cursor) (recording : Bool)
    (state : State) : Outcome × State :=
  match cursor.child? "object", cursor.node.child? "field" with
  | some object, some field =>
    if field.kind == "this" then
      let (outcome, state) := walker.denote object false state
      (enclosingInstance (env.text cursor.node) outcome, state)
    else
      match walker.denote object recording state with
      | (.ok referent, state) => fieldOn env object.node field recording referent state
      | (.error cause, state) => (.error cause, state)
  | _, _ => (.error (.expression (env.text cursor.node)), state)

/-- A method of what the expression in front of it denotes. The methods of arrays belong to no
class. -/
def methodOn (env : Env) (object name : Node) (recording : Bool) (referent : Referent)
    (state : State) : Outcome × State :=
  match referent with
  | .type path => denoteMember env path name .method recording state
  | .value (.reference path) => denoteMember env path name .method recording state
  | .value (.array _) => (.ok .unknown, state)
  | .value (.primitive kind) => (.error (.notAClass kind.name), state)
  | .name dotted => (.error (.type dotted), state)
  | .unknown => (.error (.expression (env.text object)), state)

/-- What a call denotes, before its arguments are walked. -/
def denoteCallee (env : Env) (walker : Walker) (object : Option Cursor) (name : Node)
    (recording : Bool) (state : State) : Outcome × State :=
  match object with
  | some object =>
    match walker.denote object recording state with
    | (.ok referent, state) => methodOn env object.node name recording referent state
    | (.error cause, state) => (.error cause, state)
  | none =>
    match implicitMethod env state.scope (env.text name) with
    | .ok found =>
      (.ok (memberReferent found.type),
        noteReference env recording name .method found.declaring state)
    | .error cause => (.error cause, state)

/-- Visits a node that may be there, while recording. -/
def visitRecording (walker : Walker) (recording : Bool) (cursor : Option Cursor) (state : State) :
    State :=
  if recording then walker.visit? cursor state else state

/-- A method call. Its arguments are walked whatever the callee denotes. -/
def denoteCall (env : Env) (walker : Walker) (cursor : Cursor) (recording : Bool)
    (state : State) : Outcome × State :=
  match cursor.node.child? "name" with
  | none => (.error (.expression (env.text cursor.node)), state)
  | some name =>
    let (outcome, state) := denoteCallee env walker (cursor.child? "object") name recording state
    (outcome, visitRecording walker recording (cursor.child? "arguments") state)

/-- What the left side of a method reference denotes. -/
def denoteQualifier (env : Env) (walker : Walker) (qualifier : Cursor) (recording : Bool)
    (state : State) : Outcome × State :=
  if Tree.isTypeKind qualifier.kind then
    match typeOf env state.scope qualifier.node with
    | some (.reference path) => (.ok (.type path), state)
    | some type => (.ok (.value type), state)
    | none => (.error (.type (Tree.typeText env.source qualifier.node)), state)
  else walker.denote qualifier recording state

/-- A name on the left side of a method reference is read as a type. -/
def qualifierType (env : Env) (scope : Scope) : Referent → Outcome
  | .name dotted =>
    match namedType env scope dotted with
    | some path => .ok (.type path)
    | none => .error (.type dotted)
  | referent => .ok referent

/-- The method that a method reference names. -/
def referredMethod (env : Env) (qualifier name : Node) (recording : Bool)
    (referent : Referent) (state : State) : Outcome × State :=
  match qualifierType env state.scope referent with
  | .error cause => (.error cause, state)
  | .ok referent =>
    match methodOn env qualifier name recording referent state with
    | (.ok _, state) => (.ok .unknown, state)
    | (.error cause, state) => (.error cause, state)

/-- A method reference. One to a constructor names no member. -/
def denoteReference (env : Env) (walker : Walker) (cursor : Cursor) (recording : Bool)
    (state : State) : Outcome × State :=
  match cursor.named with
  | [] => (.error (.expression (env.text cursor.node)), state)
  | qualifier :: others =>
    match denoteQualifier env walker qualifier recording state with
    | (.error cause, state) => (.error cause, state)
    | (.ok referent, state) =>
      let isConstructor := (cursor.node.children.getLast?.map (·.kind)) == some "new"
      match others.getLast? with
      | some name =>
        if isConstructor then (.ok .unknown, state)
        else referredMethod env qualifier.node name.node recording referent state
      | none => (.ok .unknown, state)

/-- An element of an array. Its index is walked whatever the array denotes. -/
def denoteElement (env : Env) (walker : Walker) (cursor : Cursor) (recording : Bool)
    (state : State) : Outcome × State :=
  match cursor.child? "array" with
  | none => (.error (.expression (env.text cursor.node)), state)
  | some array =>
    let (outcome, state) := walker.denote array recording state
    let state := visitRecording walker recording (cursor.child? "index") state
    match outcome with
    | .error cause => (.error cause, state)
    | .ok (.value (.array element)) => (.ok (.value element), state)
    | .ok _ => (.error (.notAClass (env.text array.node)), state)

/-- Behind an element of an array, its array has been denoted and its index visited. -/
theorem denoteElement_snd (env : Env) (walker : Walker) (cursor array : Cursor)
    (recording : Bool) (state : State) (hasArray : cursor.child? "array" = some array) :
    (denoteElement env walker cursor recording state).2 =
      visitRecording walker recording (cursor.child? "index")
        (walker.denote array recording state).2 := by
  unfold denoteElement
  simp only [hasArray]
  split <;> rfl

/-- What is visited of the creation of an object: everything but its type, its type arguments and
its body. -/
def creationParts (node : Node) : List Node :=
  (node.children.eraseP (·.plays "type")).filter fun child =>
    child.label.named && child.kind != "class_body" && child.kind != "type_arguments"

/-- The body of the anonymous class that a creation declares. -/
def creationBody? (node : Node) : Option Node :=
  (node.named.filter (·.kind == "class_body")).getLast?

/-- Visits what belongs to the creation of an object, and last its body as an anonymous class. -/
def visitCreation (env : Env) (walker : Walker) (cursor : Cursor) (state : State) : State :=
  let walked := walker.visitAll ((creationParts cursor.node).map cursor.down) state
  match creationBody? cursor.node with
  | none => walked
  | some body =>
    enterAnonymous env walker (cursor.down body)
      ((cursor.node.child? "type").bind (classOf env walked.scope)) walked

/-- The number of dimensions of a created array. -/
def createdDimensions (env : Env) (node : Node) : Nat :=
  let dimensions := node.named.filter fun child =>
    child.kind == "dimensions_expr" || child.kind == "dimensions"
  dimensions.foldl (fun count child => count + Text.occurrences '[' (env.text child)) 0

/-- An array with the dimensions that its creation writes. -/
def arrayOutcome (dimensions : Nat) : Outcome → Outcome
  | .ok (.value type) => .ok (.value (type.arrayOf dimensions))
  | outcome => outcome

/-- The forms of expressions that denote something. -/
inductive ExprForm where
  | name
  | this
  | super
  | field
  | call
  | reference
  | parenthesized
  | element
  | cast
  | creation
  | arrayCreation
  | text
  | classLiteral
  | other
  deriving DecidableEq, Repr

/-- The kinds of nodes that denote something. -/
def ExprForm.kinds : List (String × ExprForm) :=
  [("identifier", .name), ("this", .this), ("super", .super), ("field_access", .field),
   ("method_invocation", .call), ("method_reference", .reference),
   ("parenthesized_expression", .parenthesized), ("array_access", .element),
   ("cast_expression", .cast), ("object_creation_expression", .creation),
   ("array_creation_expression", .arrayCreation), ("string_literal", .text),
   ("class_literal", .classLiteral)]

/-- The form of an expression of the given kind. -/
def ExprForm.ofKind (kind : String) : ExprForm :=
  (kinds.lookup kind).getD .other

/-- What an expression denotes. Any other form denotes nothing and is visited while recording. -/
def denoteNode (env : Env) (walker : Walker) (cursor : Cursor) (recording : Bool)
    (state : State) : Outcome × State :=
  match ExprForm.ofKind cursor.kind with
  | .name => denoteName env cursor.node recording state
  | .this =>
    match state.scope.frame? with
    | some frame => (.ok (.value (.reference frame.path)), state)
    | none => (.error (.expression "this"), state)
  | .super => (.ok (.value (.reference (frameSuperClass state.scope))), state)
  | .field => denoteField env walker cursor recording state
  | .call => denoteCall env walker cursor recording state
  | .reference => denoteReference env walker cursor recording state
  | .parenthesized =>
    match cursor.named.head? with
    | some inner => walker.denote inner recording state
    | none => (.error (.expression (env.text cursor.node)), state)
  | .element => denoteElement env walker cursor recording state
  | .cast =>
    let state := visitRecording walker recording (cursor.child? "value") state
    (denoteType env (cursor.node.child? "type") state, state)
  | .creation =>
    let state := if recording then visitCreation env walker cursor state else state
    (denoteType env (cursor.node.child? "type") state, state)
  | .arrayCreation =>
    let state := if recording then walker.visitChildren cursor state else state
    let element := denoteType env (cursor.node.child? "type") state
    (arrayOutcome (createdDimensions env cursor.node) element, state)
  | .text => (.ok (.value (.reference "java/lang/String")), state)
  | .classLiteral => (.ok (.value (.reference "java/lang/Class")), state)
  | .other =>
    let state := if recording then walker.visit cursor state else state
    (.error (.expression (env.text cursor.node)), state)

end SymbolIndex.Walk
