import SymbolIndex.Walk.Body
import SymbolIndex.Walk.State

/-!
# Walking declarations

Types, fields, enum constants, methods and constructors. Each is filed under its name, and what
belongs to it is walked with the right class and method around it.
-/

namespace SymbolIndex.Walk

open SymbolIndex.Tree (Node Cursor)

/-- Files the components of a record as fields. -/
def fileComponents (env : Env) (components : List Parameter) (state : State) : State :=
  components.foldl
    (fun state component =>
      let name := env.text component.name
      state.file name
        (.field name component.typeName state.owner (Span.ofNode env.source component.name)))
    state

/-- The components of a record declaration; nothing else has any. -/
def componentsOf (env : Env) (scope : Scope) (declaration : Option Node) : List Parameter :=
  match declaration with
  | some declaration =>
    if declaration.kind == "record_declaration" then
      parameters env scope (declaration.child? "parameters")
    else []
  | none => []

/-- Enters the body of a class: its members are collected in a new frame. -/
def openBody (env : Env) (declaration : Option Node) (path : String) (body : Option Node)
    (hint : Option String) (state : State) : State :=
  let members := (body.map bodyMembers).getD []
  let named := members.foldl (nameMember env) (state.scope.pushFrame path)
  let type := sourceType env named path declaration members hint
  { state with scope := named.modifyFrame fun frame => { frame with members := type } }

/-- Walks a class: its record components, then its body, in a frame of its own. -/
def enterType (env : Env) (walker : Walker) (declaration : Option Node) (path : String)
    (body : Option Cursor) (hint : Option String) (state : State) : State :=
  let opened := openBody env declaration path (body.map (·.node)) hint state
  let filed := fileComponents env (componentsOf env opened.scope declaration) opened
  (walker.visitChildren? body filed).withScope Scope.popFrame

/-- Walks the body of an anonymous class, the next one of the class around it. -/
def enterAnonymous (env : Env) (walker : Walker) (body : Cursor) (hint : Option String)
    (state : State) : State :=
  enterType env walker none state.scope.anonymousPath (some body) hint
    (state.withScope Scope.countAnonymous)

/-- The path of a class declared here: a member of the class around it, a local class of a method,
or a type of the package. -/
def declaredPath (env : Env) (scope : Scope) (name : String) : String :=
  match scope.frame? with
  | some frame =>
    if frame.method.isSome then frame.path ++ "$1" ++ name else frame.path ++ "$" ++ name
  | none => env.imports.inPackage name

/-- A class, interface, enum, record or annotation type. -/
def visitType (env : Env) (walker : Walker) (cursor : Cursor) (state : State) : State :=
  match cursor.node.child? "name" with
  | none => state
  | some name =>
    let name := env.text name
    let path := declaredPath env state.scope name
    let named := state.withScope (·.modifyFrame fun frame =>
      { frame with nested := frame.nested.insert name path })
    enterType env walker (some cursor.node) path (cursor.child? "body") none named

/-- One declarator of a field declaration: the field, then its value as part of `method`. -/
def visitField (env : Env) (walker : Walker) (baseText method : String) (state : State)
    (declarator : Cursor) : State :=
  match declarator.node.child? "name" with
  | none => state
  | some name =>
    let dimensions := Tree.dimensionsOf env.source (declarator.node.child? "dimensions")
    let key := env.text name
    let filed := state.file key
      (.field key (Tree.withDimensions baseText dimensions) state.owner
        (Span.ofNode env.source name))
    walker.visitWithin method (declarator.child? "value") filed

/-- The text of a type that may be written. -/
def typeText? (env : Env) (type : Option Node) : Option String :=
  type.map (Tree.typeText env.source)

/-- The fields of a declaration. A constant of an interface is static by nature. -/
def visitFields (env : Env) (walker : Walker) (cursor : Cursor) (state : State) : State :=
  let baseText := (typeText? env (cursor.node.child? "type")).getD ""
  let isStatic := cursor.kind == "constant_declaration" || cursor.node.hasModifier "static"
  let method := if isStatic then classInit else instanceInit
  (cursor.childrenIn "declarator").foldl (visitField env walker baseText method) state

/-- A constant of an enum: a field of the enum's type, with its arguments and its body. -/
def visitEnumConstant (env : Env) (walker : Walker) (cursor : Cursor) (state : State) : State :=
  match cursor.node.child? "name" with
  | none => state
  | some name =>
    let enumPath := (state.scope.frame?.map (·.path)).getD ""
    let enumName := simpleNameOf enumPath
    let key := env.text name
    let filed := state.file key (.field key enumName state.owner (Span.ofNode env.source name))
    let walked := walker.visitWithin classInit (cursor.child? "arguments") filed
    match cursor.child? "body" with
    | some body => enterAnonymous env walker body (some enumPath) walked
    | none => walked

/-- Files the parameters of a method and declares them. -/
def declareParameters (env : Env) (method owner : String) (parameters : List Parameter)
    (state : State) : State :=
  parameters.foldl
    (fun state parameter =>
      let name := env.text parameter.name
      (state.file name
        (.parameter name parameter.typeName method owner
          (Span.ofNode env.source parameter.name))).declare env parameter.name parameter.type)
    state

/-- A method or a constructor. -/
def visitMethod (env : Env) (walker : Walker) (cursor : Cursor) (state : State) : State :=
  match cursor.node.child? "name" with
  | none => state
  | some name =>
    let key := env.text name
    let parameters := parameters env state.scope (cursor.node.child? "parameters")
    let method := signature key parameters
    let returnType :=
      if cursor.kind == "constructor_declaration" then none
      else typeText? env (cursor.node.child? "type")
    let owner := state.owner
    let filed := state.file key
      (.method key method (parameters.map (·.erased)) returnType owner
        (Span.ofNode env.source name))
    inMethod method
      (inBlock fun state =>
        walker.visit? (cursor.child? "body") (declareParameters env method owner parameters state))
      filed

/-- Declares the components of a record as variables. -/
def declareComponents (env : Env) (components : List Parameter) (state : State) : State :=
  components.foldl (fun state component => state.declare env component.name component.type) state

/-- A compact constructor of a record: its parameters are the components of the record. -/
def visitCompactConstructor (env : Env) (walker : Walker) (cursor : Cursor) (state : State) :
    State :=
  match cursor.node.child? "name" with
  | none => state
  | some name =>
    let key := env.text name
    let components := componentsOf env state.scope cursor.grandparent?
    let method := signature key components
    let filed := state.file key
      (.method key method (components.map (·.erased)) none state.owner
        (Span.ofNode env.source name))
    inMethod method
      (inBlock fun state =>
        walker.visit? (cursor.child? "body") (declareComponents env components state))
      filed

end SymbolIndex.Walk
