import SymbolIndex.Classpath.Search
import SymbolIndex.Imports
import SymbolIndex.Scope
import SymbolIndex.Tree.TypeText

/-!
# What type names stand for

A name in a source is resolved against the classes around it, the types of its file, the imports,
its package and finally `java.lang`. A dotted name does not show where its package ends, so every
split is tried, the longest package first.
-/

namespace SymbolIndex.Walk

open SymbolIndex.Tree (Node Source)

/-- What stays the same through a walk. -/
structure Env where
  source : Source
  classpath : Classpath
  imports : Imports
  /-- The types declared at the top level of the file, with their paths. -/
  fileTypes : Bindings String

/-- The kinds of nodes that declare a type. -/
def declaresType (kind : String) : Bool :=
  ["class_declaration", "interface_declaration", "enum_declaration", "record_declaration",
   "annotation_type_declaration"].contains kind

namespace Env

/-- The text of a node. -/
def text (env : Env) (node : Node) : String :=
  env.source.slice node.start node.stop

/-- The types declared at the top level of a tree, with their paths. -/
def topLevelTypes (source : Source) (imports : Imports) (root : Node) : Bindings String :=
  Bindings.ofList (((root.named.filter (declaresType ·.kind)).filterMap (·.child? "name")).map
    fun name =>
      let name := source.slice name.start name.stop
      (name, imports.inPackage name))

/-- The environment of a walk over a tree. -/
def ofTree (source : Source) (root : Node) (classpath : Classpath) : Env :=
  let imports := Imports.ofTree source root
  { source, classpath, imports, fileTypes := topLevelTypes source imports root }

/-- Whether a path belongs to a type on the class path or in the source. -/
def knows (env : Env) (scope : Scope) (path : String) : Bool :=
  env.classpath.knows path || (scope.sourceType? path).isSome

end Env

/-- The path of a nested type in a package: slashes behind the identifiers of the package, dollars
between those of the type. -/
def pathOf (package type : List String) : String :=
  match package with
  | [] => String.intercalate "$" type
  | package => String.intercalate "/" package ++ "/" ++ String.intercalate "$" type

/-- The known type that a fully qualified dotted name stands for, with the longest package that
gives one. -/
def absoluteType (env : Env) (scope : Scope) (dotted : String) : Option String :=
  let parts := Text.pieces '.' dotted
  (List.range parts.length).reverse.findSome? fun packageLength =>
    let path := pathOf (parts.take packageLength) (parts.drop packageLength)
    if env.knows scope path then some path else none

/-- The class that a simple name stands for among the enclosing bodies: an enclosing class itself,
or one named in its body. -/
def enclosingType (frames : List Frame) (name : String) : Option String :=
  frames.findSome? fun frame =>
    if hasSimpleName frame.path name then some frame.path
    else frame.nested.find? name

/-- The type that a simple name stands for when neither the enclosing bodies, nor the file, nor a
single-type import gives it one: a type of the package, an import on demand, or `java.lang`. -/
def ambientType (env : Env) (scope : Scope) (name : String) : Option String :=
  let samePackage := env.imports.inPackage name
  if env.knows scope samePackage then some samePackage
  else
    match env.imports.onDemand.findSome? fun base =>
        absoluteType env scope (base ++ "." ++ name) with
    | some path => some path
    | none =>
      let lang := "java/lang/" ++ name
      if env.knows scope lang then some lang else none

/-- The type that a simple name stands for. A single-type import is trusted even when its type is
not known. -/
def simpleType (env : Env) (scope : Scope) (name : String) : Option String :=
  match enclosingType scope.frames name with
  | some path => some path
  | none =>
    match env.fileTypes.find? name with
    | some path => some path
    | none =>
      match env.imports.singleType? name with
      | some dotted => some ((absoluteType env scope dotted).getD (Text.swap '.' '/' dotted))
      | none => ambientType env scope name

/-- The type that a dotted name stands for, when its first part may be a type in scope. -/
def namedType (env : Env) (scope : Scope) (dotted : String) : Option String :=
  match Text.cutFirst '.' dotted with
  | none => simpleType env scope dotted
  | some (first, rest) =>
    match simpleType env scope first with
    | some base => some (base ++ "$" ++ Text.swap '.' '$' rest)
    | none => absoluteType env scope dotted

/-- The ways a type is written. -/
inductive TypeForm where
  | keyword
  | simple
  | qualified
  | parameterized
  | array
  | annotated
  | other
  deriving DecidableEq, Repr

/-- The way that a node of the given kind writes a type. -/
def TypeForm.ofKind (kind : String) : TypeForm :=
  if ["integral_type", "floating_point_type", "boolean_type", "void_type"].contains kind then
    .keyword
  else if kind == "type_identifier" then .simple
  else if kind == "scoped_type_identifier" then .qualified
  else if kind == "generic_type" then .parameterized
  else if kind == "array_type" then .array
  else if kind == "annotated_type" then .annotated
  else .other

/-- Whether a node of this kind names a type without arguments. -/
def namesType (kind : String) : Bool :=
  kind == "type_identifier" || kind == "scoped_type_identifier"

/-- The type that a node denotes. -/
def typeOf (env : Env) (scope : Scope) (node : Node) : Option JavaType :=
  match TypeForm.ofKind node.kind with
  | .keyword => (Primitive.ofName? (env.text node)).map .primitive
  | .simple =>
    match Primitive.ofName? (env.text node) with
    | some kind => some (.primitive kind)
    | none => (simpleType env scope (env.text node)).map .reference
  | .qualified =>
    (namedType env scope (Tree.erase (Tree.typeText env.source node))).map .reference
  | .parameterized =>
    match _found : node.named.find? (namesType ·.kind) with
    | some base => typeOf env scope base
    | none => none
  | .array =>
    match _found : node.child? "element" with
    | some element =>
      let dimensions := Tree.dimensionsOf env.source (node.child? "dimensions")
      (typeOf env scope element).map (·.arrayOf dimensions)
    | none => none
  | .annotated =>
    match _found : (node.named.filter (Tree.isTypeKind ·.kind)).getLast? with
    | some type => typeOf env scope type
    | none => none
  | .other => none
termination_by node.size
decreasing_by
  · exact Node.size_lt_of_named (List.mem_of_find?_eq_some _found)
  · exact Node.size_lt_of_child? _found
  · exact Node.size_lt_of_named (List.mem_filter.1 (List.mem_of_getLast? _found)).1

/-- The path of the class that a node denotes. -/
def classOf (env : Env) (scope : Scope) (node : Node) : Option String :=
  (typeOf env scope node).bind (·.classPath?)

end SymbolIndex.Walk
