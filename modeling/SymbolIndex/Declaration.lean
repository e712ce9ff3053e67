import SymbolIndex.JavaType

/-!
# Declared types

What a source of types knows about one type: where it stands in the hierarchy, its fields with
their types and its methods with their return types. A declaration that is not complete lists only
a part of its members, so a member it lacks may exist all the same.
-/

namespace SymbolIndex

/-- The two kinds of members a reference can point at. -/
inductive MemberKind where
  | field
  | method
  deriving DecidableEq, Repr

/-- The word for a kind of member. -/
def MemberKind.name : MemberKind → String
  | .field => "field"
  | .method => "method"

/-- A field with its type, or a method with its return type. -/
structure Member where
  name : String
  type : JavaType
  deriving DecidableEq, Repr

/-- The declaration of one type. -/
structure TypeDecl where
  path : String
  superClass : Option String
  interfaces : List String
  fields : List Member
  methods : List Member
  complete : Bool
  deriving DecidableEq, Repr

namespace TypeDecl

/-- The members of one kind, in the order they are declared. -/
def members (decl : TypeDecl) : MemberKind → List Member
  | .field => decl.fields
  | .method => decl.methods

/-- The first member of the given name and kind. -/
def member? (decl : TypeDecl) (name : String) (kind : MemberKind) : Option Member :=
  (decl.members kind).find? (·.name == name)

/-- The direct supertypes, the super class first. -/
def supertypes (decl : TypeDecl) : List String :=
  decl.superClass.toList ++ decl.interfaces

end TypeDecl

end SymbolIndex
