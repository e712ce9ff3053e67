import SymbolIndex.ClassIndex
import SymbolIndex.Text.Quoted

/-!
# The classes of an archive

A workspace holds the indexes of the classes that were opened from one archive. The class path is
built when the first class needs it and shared by all later ones; an archive that cannot be read is
tried again. A class name can be opened once, until it is removed.
-/

namespace SymbolIndex

/-- The open classes of an archive. -/
structure Workspace where
  name : String
  file : String
  settings : Settings := {}
  /-- The shared class path, once the archive was read. -/
  classpath : Option Classpath := none
  classes : Std.TreeMap String ClassIndex := ∅

namespace Workspace

/-- The workspace of an archive, named after its file. -/
def ofFile (file : String) (settings : Settings) : Workspace :=
  { name := (Path.fileName? file).getD file, file, settings }

/-- The shared class path, reading the archive at the first call. -/
def sharedClasspath (machine : Machine) (workspace : Workspace) (loaded : Loaded) :
    Except IndexError Classpath × Workspace × Loaded :=
  match workspace.classpath with
  | some classpath => (.ok classpath, workspace, loaded)
  | none =>
    match Classpath.ofArchive machine workspace.settings.resolution workspace.file loaded with
    | (.ok classpath, loaded) =>
      (.ok classpath, { workspace with classpath := some classpath }, loaded)
    | (.error error, loaded) => (.error (.archive error), workspace, loaded)

/-- A class of the workspace that was not indexed yet. -/
def newClass (workspace : Workspace) (className : String) (unit : SourceUnit) : ClassIndex where
  className
  unit
  parent := workspace.name
  path := workspace.file

/-- Indexes a class against a class path and keeps it. -/
def keepClass (classpath : Classpath) (className : String) (unit : SourceUnit)
    (workspace : Workspace) : Except IndexError Attempt × Workspace :=
  match (workspace.newClass className unit).parseWith classpath with
  | (.ok attempt, index) =>
    (.ok attempt, { workspace with classes := workspace.classes.insert className index })
  | (.error error, _) => (.error error, workspace)

/-- Opens a class: indexes it and keeps it, unless its name is open. -/
def openClass (machine : Machine) (className : String) (unit : SourceUnit)
    (workspace : Workspace) (loaded : Loaded) :
    Except IndexError Attempt × Workspace × Loaded :=
  if workspace.classes.contains className then
    (.error (.alreadyParsed className), workspace, loaded)
  else
    match workspace.sharedClasspath machine loaded with
    | (.error error, workspace, loaded) => (.error error, workspace, loaded)
    | (.ok classpath, workspace, loaded) =>
      let (result, workspace) := workspace.keepClass classpath className unit
      (result, workspace, loaded)

/-- Opens classes one after another; each has a result of its own. -/
def openEach (machine : Machine) :
    List (String × SourceUnit) → Workspace → Loaded →
      List (String × Except IndexError Attempt) × Workspace × Loaded
  | [], workspace, loaded => ([], workspace, loaded)
  | (className, unit) :: rest, workspace, loaded =>
    let (result, workspace, loaded) := workspace.openClass machine className unit loaded
    let (results, workspace, loaded) := openEach machine rest workspace loaded
    ((className, result) :: results, workspace, loaded)

/-- Opens classes in order. An archive that cannot be read fails them all at once. -/
def openClasses (machine : Machine) (units : List (String × SourceUnit))
    (workspace : Workspace) (loaded : Loaded) :
    Except IndexError (List (String × Except IndexError Attempt)) × Workspace × Loaded :=
  match workspace.sharedClasspath machine loaded with
  | (.error error, workspace, loaded) => (.error error, workspace, loaded)
  | (.ok _, workspace, loaded) =>
    let (results, workspace, loaded) := openEach machine units workspace loaded
    (.ok results, workspace, loaded)

/-- An open class. -/
def class? (workspace : Workspace) (className : String) : Option ClassIndex :=
  workspace.classes[className]?

/-- The names of the open classes, ascending. -/
def classNames (workspace : Workspace) : List String :=
  workspace.classes.keys

/-- The number of open classes. -/
def size (workspace : Workspace) : Nat :=
  workspace.classes.size

/-- Takes a class away. -/
def removeClass (workspace : Workspace) (className : String) : Option ClassIndex × Workspace :=
  (workspace.class? className,
    { workspace with classes := workspace.classes.erase className })

/-- Takes every class away. -/
def close (workspace : Workspace) : Workspace :=
  { workspace with classes := ∅ }

/-- The workspace on one line. -/
def description (workspace : Workspace) : String :=
  "ResourceContainer \x7b name: " ++ Text.quoted workspace.name ++ ", file: "
    ++ Text.quoted workspace.file ++ ", classes: " ++ toString workspace.size ++ " \x7d"

end Workspace

/-- The class path on one line. -/
def Classpath.description (classpath : Classpath) : String :=
  "CombinedTypeSolver \x7b sources: " ++ Text.quotedList classpath.sourceNames ++ " \x7d"

end SymbolIndex
