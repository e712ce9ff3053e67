import SymbolIndex.ClassName
import SymbolIndex.Jdk
import SymbolIndex.SourceIndex

/-!
# The index of one class

A class has its decompiled source, the archive it came from, and at most one index. It is indexed
by the first attempt or never: a later attempt is refused, also when the first one failed. Until
there is an index every question about occurrences has the empty answer.
-/

namespace SymbolIndex

open SymbolIndex.Tree (Node Source SourceError)

/-- A source text with its syntax tree. -/
structure SourceUnit where
  source : Source
  tree : Node

/-- The source of a text with its tree. -/
def SourceUnit.ofText (text : String) (tree : Node) : SourceUnit :=
  ⟨Source.ofText text, tree⟩

/-- Why a class could not be indexed at all. -/
inductive IndexError where
  | alreadyParsed (className : String)
  | archive (error : ArchiveError)
  deriving DecidableEq, Repr

/-- The wording of an error. -/
def IndexError.message : IndexError → String
  | .alreadyParsed className => "class `" ++ className ++ "` has already been parsed"
  | .archive error => error.message

/-- How an attempt that reached the source ended. -/
inductive Attempt where
  | indexed (summary : Summary)
  | failed (error : SourceError)
  deriving DecidableEq, Repr

/-- Where a class stands: no attempt yet, one attempt without an index, or its index. -/
inductive Progress where
  | untouched
  | attempted
  | indexed (index : SourceIndex)

/-- A class with its source and, once it was indexed, its index. -/
structure ClassIndex where
  className : String
  unit : SourceUnit
  /-- The name of the container that the class belongs to. -/
  parent : String
  /-- The path of the archive that the class came from. -/
  path : String
  progress : Progress := .untouched

namespace ClassIndex

/-- The text of the source. -/
def content (index : ClassIndex) : String := index.unit.source.text

/-- Whether there is an index. -/
def isIndexed (index : ClassIndex) : Bool :=
  match index.progress with
  | .indexed _ => true
  | _ => false

/-- The occurrences; none without an index. -/
def table (index : ClassIndex) : Table :=
  match index.progress with
  | .indexed found => found.table
  | _ => .empty

/-- The counts; all zero without an index. -/
def summary (index : ClassIndex) : Summary :=
  match index.progress with
  | .indexed found => found.summary
  | _ => Table.empty.summary 0

/-- Indexes the source against a class path. -/
def indexWith (index : ClassIndex) (classpath : Classpath) : Attempt × ClassIndex :=
  match SourceIndex.build index.unit.source index.unit.tree classpath with
  | .ok found => (.indexed found.summary, { index with progress := .indexed found })
  | .error error => (.failed error, { index with progress := .attempted })

/-- Makes the one attempt to index the class against a class path. -/
def parseWith (index : ClassIndex) (classpath : Classpath) :
    Except IndexError Attempt × ClassIndex :=
  match index.progress with
  | .untouched =>
    let (attempt, index) := index.indexWith classpath
    (.ok attempt, index)
  | _ => (.error (.alreadyParsed index.className), index)

/-- Makes the one attempt to index the class against the library and its own archive. -/
def parse (machine : Machine) (settings : ResolutionSettings) (loaded : Loaded)
    (index : ClassIndex) : Except IndexError Attempt × ClassIndex × Loaded :=
  match index.progress with
  | .untouched =>
    match Classpath.ofArchive machine settings index.path loaded with
    | (.ok classpath, loaded) =>
      let (attempt, index) := index.indexWith classpath
      (.ok attempt, index, loaded)
    | (.error error, loaded) =>
      (.error (.archive error), { index with progress := .attempted }, loaded)
  | _ => (.error (.alreadyParsed index.className), index, loaded)

end ClassIndex

end SymbolIndex
