import SymbolIndex.Walk.Parameter

/-!
# What a class body declares

Before the members of a class are walked, its supertypes and the types of its members are
collected, so that every member is known throughout the body.
-/

namespace SymbolIndex.Walk

open SymbolIndex.Tree (Node)

/-- The members of a class body; those behind the constants of an enum are among them. -/
def bodyMembers (body : Node) : List Node :=
  body.named.flatMap fun child =>
    if child.kind == "enum_body_declarations" then child.named else [child]

/-- The super class that comes with the kind of a declaration. -/
def impliedSuperClass (kind : String) (hint : Option String) : Option String :=
  if kind == "enum_declaration" then some "java/lang/Enum"
  else if kind == "record_declaration" then some "java/lang/Record"
  else hint

/-- Adds what a child of a class declaration says about its supertypes. -/
def addHeader (env : Env) (scope : Scope) (type : SourceType) (child : Node) : SourceType :=
  if child.kind == "superclass" then
    { type with
      superClass := (child.named.find? (Tree.isTypeKind ·.kind)).bind (classOf env scope) }
  else if child.kind == "super_interfaces" || child.kind == "extends_interfaces" then
    let named := child.named.flatMap (·.named)
    { type with interfaces := type.interfaces ++ named.filterMap (classOf env scope) }
  else type

/-- Adds a record component: a field and its accessor. -/
def addComponent (env : Env) (type : SourceType) (component : Parameter) : SourceType :=
  let name := env.text component.name
  { type with
    fields := type.fields.insert name component.type
    methods := type.methods.insert name component.type }

/-- Adds one declarator of a field declaration whose declarators share a base type. -/
def addDeclarator (env : Env) (base : Option JavaType) (type : SourceType) (declarator : Node) :
    SourceType :=
  match declarator.child? "name" with
  | none => type
  | some name =>
    let dimensions := Tree.dimensionsOf env.source (declarator.child? "dimensions")
    { type with
      fields := type.fields.insert (env.text name) (base.map (·.arrayOf dimensions)) }

/-- Adds a member of the class at `path`. Of methods with one name the first counts. -/
def addMember (env : Env) (scope : Scope) (path : String) (type : SourceType) (member : Node) :
    SourceType :=
  if member.kind == "field_declaration" || member.kind == "constant_declaration" then
    let base := (member.child? "type").bind (typeOf env scope)
    (member.childrenIn "declarator").foldl (addDeclarator env base) type
  else if member.kind == "enum_constant" then
    match member.child? "name" with
    | none => type
    | some name =>
      { type with fields := type.fields.insert (env.text name) (some (.reference path)) }
  else if member.kind == "method_declaration" then
    match member.child? "name" with
    | none => type
    | some name =>
      let result := (member.child? "type").bind (typeOf env scope)
      { type with methods := type.methods.insertNew (env.text name) result }
  else type

/-- Adds what the declaration of a class says about it. -/
def addDeclaration (env : Env) (scope : Scope) (type : SourceType) (declaration : Node) :
    SourceType :=
  let start := { type with superClass := impliedSuperClass declaration.kind type.superClass }
  let headed := declaration.children.foldl (addHeader env scope) start
  if declaration.kind == "record_declaration" then
    (parameters env scope (declaration.child? "parameters")).foldl (addComponent env) headed
  else headed

/-- The class at `path`, from its declaration, its members, and the super class of an anonymous
class. -/
def sourceType (env : Env) (scope : Scope) (path : String) (declaration : Option Node)
    (members : List Node) (hint : Option String) : SourceType :=
  let start : SourceType := { superClass := hint }
  let declared :=
    match declaration with
    | some declaration => addDeclaration env scope start declaration
    | none => start
  members.foldl (addMember env scope path) declared

/-- Names a member class in the innermost frame. -/
def nameMember (env : Env) (scope : Scope) (member : Node) : Scope :=
  match member.child? "name" with
  | some name =>
    if declaresType member.kind then
      let name := env.text name
      scope.modifyFrame fun frame =>
        { frame with nested := frame.nested.insert name (frame.path ++ "$" ++ name) }
    else scope
  | none => scope

end SymbolIndex.Walk
