import SymbolIndex.ClassFile.Parser
import SymbolIndex.Classpath.Basic
import SymbolIndex.Settings.Basic

/-!
# Archives

The classes of a zip archive, of a directory of class files, or of a single class file, as a
source of types. Class files that cannot be read are left out with a warning, and of two with the
same class path the later one counts.
-/

namespace SymbolIndex

/-- Why an archive could not be read. -/
inductive ArchiveError where
  | file (path : String) (error : FileError)
  | zip (path : String) (error : ZipError)
  deriving DecidableEq, Repr

namespace ArchiveError

/-- What the error is about, without the path. -/
def cause : ArchiveError → String
  | .file _ error => error.message
  | .zip _ error => error.message

/-- The wording of an error. -/
def message : ArchiveError → String
  | .file path error => "IO error while reading " ++ path ++ ": " ++ error.message
  | .zip path error => "Archive error while reading " ++ path ++ ": " ++ error.message

end ArchiveError

/-- A source of types that is being loaded, with the warnings so far, newest first. -/
structure Archive where
  source : TypeSource
  warnings : List String

namespace Archive

/-- An archive without classes. -/
def empty (name : String) : Archive where
  source := TypeSource.empty name
  warnings := []

/-- Warns of something. -/
def warn (archive : Archive) (warning : String) : Archive :=
  { archive with warnings := warning :: archive.warnings }

/-- Adds the class of a class file that was found at `origin`. -/
def addClass (archive : Archive) (bytes : List UInt8) (origin : String) : Archive :=
  match ClassFile.parse bytes with
  | .ok decl => { archive with source := archive.source.add decl }
  | .error error =>
    archive.warn ("Skipping malformed class file " ++ origin ++ ": " ++ error.message)

/-- A text without the given start. -/
def dropStart? (start text : String) : Option String :=
  if start.toList.isPrefixOf text.toList then
    some (String.ofList (text.toList.drop start.length))
  else none

/-- Adds an entry of the archive at `path`: a class file below `root`. -/
def addEntry (settings : ResolutionSettings) (path root : String) (archive : Archive)
    (entry : String × List UInt8) : Archive :=
  match dropStart? root entry.1 with
  | some name =>
    if settings.scansEntry name then
      archive.addClass entry.2 (path ++ "!/" ++ root ++ name)
    else archive
  | none => archive

/-- Adds the class files of a zip archive that lie below `root`. -/
def scanZip (files : Files) (settings : ResolutionSettings) (path root : String)
    (archive : Archive) : Except ArchiveError Archive :=
  match files.read path with
  | .error error => .error (.file path error)
  | .ok content =>
    match content.zipEntries with
    | .error error => .error (.zip path error)
    | .ok entries => .ok (entries.foldl (addEntry settings path root) archive)

/-- Adds a file of the directory at `path`. -/
def addFile (settings : ResolutionSettings) (path : String) (archive : Archive)
    (file : List String × Content) : Archive :=
  let relative := Text.swap '\\' '/' (Path.render file.1)
  if settings.scansEntry relative then
    archive.addClass file.2.toBytes (Path.join path (Path.render file.1))
  else archive

/-- Loads what a path leads to: a directory of class files, an archive, or a class file. Any other
file has no classes. -/
def load (files : Files) (settings : ResolutionSettings) (path : String) :
    Except ArchiveError Archive :=
  let fresh := empty ("archive:" ++ path)
  match files.locate path with
  | .error error => .error (.file path error)
  | .ok (_, .directory) => .ok ((files.walk path).foldl (addFile settings path) fresh)
  | .ok (_, .file content _) =>
    if settings.isArchive path then scanZip files settings path "" fresh
    else if Path.extension? path = some "class" then .ok (fresh.addClass content.toBytes path)
    else .ok (fresh.warn (path ++ " is not a recognised archive, no classes loaded"))

end Archive

end SymbolIndex
