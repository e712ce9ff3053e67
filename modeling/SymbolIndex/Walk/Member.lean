import SymbolIndex.Walk.TypeName

/-!
# Who declares a member

A class of the source answers for its own members first. When the class path does not know it, its
supertypes are asked in order, at most `maxHierarchy` steps up; a supertype that cannot be followed
leaves a gap, and then the class itself is taken to have the member.
-/

namespace SymbolIndex.Walk

/-- The most steps from a class of the source up to a supertype. -/
def maxHierarchy : Nat := 32

/-- The root of the class hierarchy. -/
def rootClass : String := "java/lang/Object"

/-- The direct supertypes of a class of the source, the super class first. A class without one has
the root class behind its interfaces. -/
def supertypesOf (type : SourceType) : List String :=
  match type.superClass with
  | some path => path :: type.interfaces
  | none => type.interfaces ++ [rootClass]

/-- The members of one kind of a class of the source. -/
def membersOf (type : SourceType) : MemberKind → Bindings (Option JavaType)
  | .field => type.fields
  | .method => type.methods

/-- Asks each supertype in turn. The first that has the member answers; beside that, whether some
supertype could not be followed. -/
def askEach (ask : String → Except Unresolved Attribution) (gaps : Bool) :
    List String → Option Attribution × Bool
  | [] => (none, gaps)
  | path :: paths =>
    match ask path with
    | .ok found => (some found, gaps)
    | .error (.member _ _) => askEach ask gaps paths
    | .error _ => askEach ask true paths

/-- The type that declares a member of the type at `path`, itself included, with a number of steps
left to take up the hierarchy. -/
def memberWithin (env : Env) (scope : Scope) (name : String) (kind : MemberKind) :
    Nat → String → Except Unresolved Attribution
  | 0, path => .error (.type path)
  | steps + 1, path =>
    match scope.sourceType? path with
    | none => env.classpath.findMember path name kind
    | some type =>
      match (membersOf type kind).find? name with
      | some memberType => .ok ⟨path, memberType⟩
      | none =>
        if env.classpath.knows path then env.classpath.findMember path name kind
        else
          match askEach (memberWithin env scope name kind steps) false (supertypesOf type) with
          | (some found, _) => .ok found
          | (none, true) => .ok ⟨path, none⟩
          | (none, false) => .error (.member path name)

/-- The type that declares a member of the type at `path`, itself included. -/
def memberOf (env : Env) (scope : Scope) (path name : String) (kind : MemberKind) :
    Except Unresolved Attribution :=
  memberWithin env scope name kind (maxHierarchy + 1) path

/-- The attribution, if there is one. -/
def attributed? : Except Unresolved Attribution → Option Attribution
  | .ok found => some found
  | .error _ => none

/-- The attribution, if the member's own type is known. -/
def typed? (result : Except Unresolved Attribution) : Option Attribution :=
  (attributed? result).filter (·.type.isSome)

/-- The field that the class of a frame inherits under the given name, when its type is known. -/
def inheritedField (env : Env) (scope : Scope) (frame : Frame) (name : String) :
    Option (String × Option JavaType) :=
  let found :=
    if env.classpath.knows frame.path then
      typed? (env.classpath.findMember frame.path name .field)
    else
      (supertypesOf frame.members).findSome? fun path =>
        typed? (memberOf env scope path name .field)
  found.map fun found => (found.declaring, found.type)

/-- The method that the class of a frame inherits under the given name. -/
def inheritedMethod (env : Env) (scope : Scope) (frame : Frame) (name : String) :
    Option Attribution :=
  if env.classpath.knows frame.path then
    attributed? (env.classpath.findMember frame.path name .method)
  else
    (supertypesOf frame.members).findSome? fun path =>
      attributed? (memberOf env scope path name .method)

/-- The member that a single static import supplies. The import names it outright, so it counts
even when its declaration is not seen. -/
def singleStaticImport (env : Env) (scope : Scope) (name : String) (kind : MemberKind) :
    Option Attribution := do
  let dotted ← env.imports.staticOwner? name
  let owner ← absoluteType env scope dotted
  attributed? (memberOf env scope owner name kind)

/-- The member that a static import supplies; one on demand only counts when it is found. -/
def staticImport (env : Env) (scope : Scope) (name : String) (kind : MemberKind) :
    Option Attribution :=
  match singleStaticImport env scope name kind with
  | some found => some found
  | none =>
    env.imports.staticOnDemand.findSome? fun dotted => do
      let owner ← absoluteType env scope dotted
      typed? (memberOf env scope owner name kind)

/-- Looks for a method in the enclosing classes, the innermost first. Beside the method found, the
first class whose hierarchy leaves the known types without showing it. -/
def enclosingMethod (env : Env) (scope : Scope) (name : String) (candidate : Option Attribution) :
    List Frame → Option Attribution × Option Attribution
  | [] => (none, candidate)
  | frame :: frames =>
    match frame.members.methods.find? name with
    | some type => (some ⟨frame.path, type⟩, candidate)
    | none =>
      match inheritedMethod env scope frame name with
      | none => enclosingMethod env scope name candidate frames
      | some found =>
        if found.type.isSome then (some found, candidate)
        else enclosingMethod env scope name (candidate.or (some ⟨frame.path, none⟩)) frames

/-- The type that declares a method called without a receiver: an enclosing class or one it
inherits from, then a static import, and last a class whose hierarchy may hide the method. -/
def implicitMethod (env : Env) (scope : Scope) (name : String) :
    Except Unresolved Attribution :=
  match enclosingMethod env scope name none scope.frames with
  | (some found, _) => .ok found
  | (none, candidate) =>
    match (staticImport env scope name .method).or candidate with
    | some found => .ok found
    | none => .error (.member ((scope.frame?.map (·.path)).getD "") name)

end SymbolIndex.Walk
