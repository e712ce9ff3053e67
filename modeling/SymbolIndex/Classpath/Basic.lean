import Std.Data.TreeMap
import SymbolIndex.Declaration

/-!
# The class path

Types are known from sources that are asked in a fixed order: the first source that knows a path
answers for it. `Attribution` and `Unresolved` say how a member search can end: with the type that
declares the member, or with the reason why no type could be named.
-/

namespace SymbolIndex

/-- A named source of type declarations, by path. -/
structure TypeSource where
  name : String
  types : Std.TreeMap String TypeDecl

namespace TypeSource

/-- A source without types. -/
def empty (name : String) : TypeSource where
  name
  types := ∅

/-- The source with one more declaration, which replaces an earlier one of the same path. -/
def add (source : TypeSource) (decl : TypeDecl) : TypeSource :=
  { source with types := source.types.insert decl.path decl }

/-- The source of a list of declarations; of two with the same path the later one counts. -/
def ofDecls (name : String) (decls : List TypeDecl) : TypeSource :=
  decls.foldl add (empty name)

/-- The declaration of a path. -/
def type? (source : TypeSource) (path : String) : Option TypeDecl :=
  source.types[path]?

/-- The known paths, ascending. -/
def paths (source : TypeSource) : List String :=
  source.types.keys

/-- The number of known types. -/
def size (source : TypeSource) : Nat :=
  source.types.size

end TypeSource

/-- Sources of types in the order they are asked. -/
structure Classpath where
  sources : List TypeSource

namespace Classpath

/-- No source at all. -/
def empty : Classpath := ⟨[]⟩

/-- The class path with one more source behind the others. -/
def append (classpath : Classpath) (source : TypeSource) : Classpath :=
  ⟨classpath.sources ++ [source]⟩

/-- The declaration of a path, from the first source that has one. -/
def type? (classpath : Classpath) (path : String) : Option TypeDecl :=
  classpath.sources.findSome? (·.type? path)

/-- Whether some source has the path. -/
def knows (classpath : Classpath) (path : String) : Bool :=
  (classpath.type? path).isSome

/-- The names of the sources in order. -/
def sourceNames (classpath : Classpath) : List String :=
  classpath.sources.map (·.name)

/-- Every path that some source has. -/
def paths (classpath : Classpath) : List String :=
  classpath.sources.flatMap (·.paths)

/-- A type that is found is listed. -/
theorem mem_paths_of_type? {classpath : Classpath} {path : String} {decl : TypeDecl}
    (known : classpath.type? path = some decl) : path ∈ classpath.paths := by
  obtain ⟨source, member, found⟩ := List.exists_of_findSome?_eq_some known
  refine List.mem_flatMap.2 ⟨source, member, ?_⟩
  rw [TypeSource.paths, Std.TreeMap.mem_keys, Std.TreeMap.mem_iff_isSome_getElem?]
  rw [TypeSource.type?] at found
  simp [found]

end Classpath

/-- The type that a member is attributed to. The member's own type is missing when the type was
named without the declaration being seen. -/
structure Attribution where
  declaring : String
  type : Option JavaType
  deriving DecidableEq, Repr

/-- Why an expression or a member could not be attributed to a type. -/
inductive Unresolved where
  | type (name : String)
  | member (owner name : String)
  | notAClass (text : String)
  | expression (text : String)
  | nesting (limit : Nat)
  deriving DecidableEq, Repr

/-- The wording of a cause. -/
def Unresolved.message : Unresolved → String
  | .type name => "unsolved type `" ++ name ++ "`"
  | .member owner name => "unsolved member `" ++ name ++ "` in " ++ owner
  | .notAClass text => "`" ++ text ++ "` is not a class type"
  | .expression text => "cannot determine the type of `" ++ text ++ "`"
  | .nesting limit => "expression nests deeper than " ++ toString limit ++ " levels"

end SymbolIndex
