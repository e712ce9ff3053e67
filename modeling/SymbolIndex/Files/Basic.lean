import SymbolIndex.Files.Path
import SymbolIndex.Files.Zip
import SymbolIndex.Tree.Node

/-!
# Files

The files that archives, sources and settings are read from, by the parts of their paths from the
root. Archives are given by their entries, sources with their syntax trees. A directory exists when
it is listed or when something lies below it; the working directory and those above it always do. A
path that starts with a slash counts from the root, every other one from the working directory.
-/

namespace SymbolIndex

/-- What a file holds. -/
inductive Content where
  | bytes (data : List UInt8)
  /-- A zip archive: what stands in front of it, and its entries in order. -/
  | archive (leading : List UInt8) (entries : List Zip.Entry)
  /-- A Java source with its syntax tree. -/
  | source (text : String) (tree : Tree.Node)

/-- What stands under a path. -/
inductive FileEntry where
  | directory
  | file (content : Content) (executable : Bool)

/-- Why a file could not be read. -/
inductive FileError where
  | notFound
  | notADirectory
  | isADirectory
  /-- A name, or the whole path, has more bytes than it may have. -/
  | nameTooLong
  /-- The path holds the character that ends paths. -/
  | nulInPath
  | notText
  deriving DecidableEq, Repr

/-- The wording of an error. -/
def FileError.message : FileError → String
  | .notFound => "No such file or directory (os error 2)"
  | .notADirectory => "Not a directory (os error 20)"
  | .isADirectory => "Is a directory (os error 21)"
  | .nameTooLong => "File name too long (os error 36)"
  | .nulInPath => "file name contained an unexpected NUL byte"
  | .notText => "stream did not contain valid UTF-8"

/-- Why an archive could not be read. -/
inductive ZipError where
  | badHeader
  | noDirectoryEnd
  deriving DecidableEq, Repr

/-- The wording of an error. -/
def ZipError.message : ZipError → String
  | .badHeader => "invalid Zip archive: Invalid zip header"
  | .noDirectoryEnd => "invalid Zip archive: Could not find central directory end"

namespace Content

/-- The bytes of a file. -/
def toBytes : Content → List UInt8
  | .bytes data => data
  | .archive leading entries => leading ++ Zip.encode entries
  | .source text _ => text.toUTF8.toList

/-- The length of the record at the end of an archive. -/
def endLength : Nat := 22

/-- The most bytes that an archive can have behind its entries: the record at its end with the
longest comment. -/
def maxTail : Nat := endLength + 65535

/-- Whether an archive's end record starts somewhere in the bytes, with room for all of it. -/
def hasEnd : List UInt8 → Bool
  | [] => false
  | byte :: rest =>
    (Zip.endMark.isPrefixOf (byte :: rest) && endLength ≤ rest.length + 1) || hasEnd rest

/-- The entries of an archive. Plain bytes are an archive without entries when they have an end
record close enough to their end. -/
def zipEntries : Content → Except ZipError (List Zip.Entry)
  | .archive _ entries => .ok entries
  | content =>
    let bytes := content.toBytes
    if bytes.length < endLength then .error .badHeader
    else if hasEnd (bytes.drop (bytes.length - maxTail)) then .ok []
    else .error .noDirectoryEnd

/-- The text of a file, with its syntax tree if it is a source. -/
def text? : Content → Option (String × Option Tree.Node)
  | .source text tree => some (text, some tree)
  | content => (String.fromUTF8? ⟨content.toBytes.toArray⟩).map (·, none)

end Content

/-- The files by the parts of their paths from the root, and the working directory. -/
structure Files where
  entries : List (List String × FileEntry)
  /-- The parts of the directory that relative paths start from. -/
  directory : List String

namespace Files

/-- No files, seen from a directory below the root. -/
def empty : Files := ⟨[], ["work"]⟩

/-- What stands at a place, given by the parts of its path from the root. The working directory and
those above it are directories. -/
def entryAt? (files : Files) (parts : List String) : Option FileEntry :=
  if parts.isPrefixOf files.directory then some .directory
  else
    match files.entries.find? (·.1 == parts) with
    | some (_, entry) => some entry
    | none => if files.entries.any fun (other, _) => parts.isPrefixOf other then some .directory
      else none

/-- Where a path starts: an absolute one at the root, every other one in the working directory. -/
def startOf (files : Files) (path : String) : List String :=
  if path.startsWith "/" then [] else files.directory

/-- Where parts lead from a directory when every directory on the way is made, and those
directories. -/
def trail (directory : List String) : List String → List String × List (List String)
  | [] => (directory, [])
  | part :: rest =>
    let next := if part == ".." then directory.dropLast else directory ++ [part]
    let (target, passed) := trail next rest
    (target, next :: passed)

/-- The files with one more, which replaces what stood under its path. The directories on the way
to it are made. -/
def add (files : Files) (path : String) (entry : FileEntry) : Files :=
  let (target, passed) := trail (files.startOf path) (Path.parts path)
  let made := passed.filter fun parts =>
    !parts.isPrefixOf target && (files.entryAt? parts).isNone
  { files with entries :=
      files.entries.filter (·.1 != target) ++ made.map (·, .directory) ++ [(target, entry)] }

/-- The most bytes that a name can have. -/
def maxName : Nat := 255

/-- The most bytes that a path can have. -/
def maxPath : Nat := 4095

/-- Follows the parts of a path from a place. The root lies in itself. -/
def follow (files : Files) : List String → List String → Except FileError (List String)
  | place, [] => .ok place
  | place, part :: rest =>
    match files.entryAt? place with
    | none => .error .notFound
    | some (.file _ _) => .error .notADirectory
    | some .directory =>
      if part == ".." then files.follow place.dropLast rest
      else if maxName < part.utf8ByteSize then .error .nameTooLong
      else files.follow (place ++ [part]) rest

/-- Whether a path can only name a directory: it ends in a slash or a dot. -/
def namesDirectory (path : String) : Bool :=
  path.endsWith "/" || path.endsWith "/." || path == "."

/-- The place that a path leads to, by its parts from the root, and what stands there. -/
def locate (files : Files) (path : String) : Except FileError (List String × FileEntry) :=
  if path.toList.contains '\x00' then .error .nulInPath
  else if maxPath < path.utf8ByteSize then .error .nameTooLong
  else if path.isEmpty then .error .notFound
  else
    match files.follow (files.startOf path) (Path.parts path) with
    | .error error => .error error
    | .ok place =>
      match files.entryAt? place with
      | none => .error .notFound
      | some .directory => .ok (place, .directory)
      | some entry => if namesDirectory path then .error .notADirectory else .ok (place, entry)

/-- Whether a path leads to a directory. -/
def isDirectory (files : Files) (path : String) : Bool :=
  match files.locate path with
  | .ok (_, .directory) => true
  | _ => false

/-- Whether a path leads to a file. -/
def isFile (files : Files) (path : String) : Bool :=
  match files.locate path with
  | .ok (_, .file _ _) => true
  | _ => false

/-- What a file holds. -/
def read (files : Files) (path : String) : Except FileError Content :=
  match files.locate path with
  | .ok (_, .file content _) => .ok content
  | .ok (_, .directory) => .error .isADirectory
  | .error error => .error error

/-- The text of a file, with its syntax tree if it is a source. -/
def readText (files : Files) (path : String) : Except FileError (String × Option Tree.Node) :=
  match files.read path with
  | .error error => .error error
  | .ok content =>
    match content.text? with
    | some found => .ok found
    | none => .error .notText

/-- Whether one list of parts comes before another, part by part. -/
def before : List String → List String → Bool
  | [], _ => true
  | _ :: _, [] => false
  | first :: rest, other :: others =>
    first < other || (first == other && before rest others)

/-- The files below a path, with the parts of their paths below it, a directory at the place of its
name. A file is below itself. -/
def walk (files : Files) (path : String) : List (List String × Content) :=
  match files.locate path with
  | .error _ => []
  | .ok (_, .file content _) => [([], content)]
  | .ok (parts, .directory) =>
    let below := files.entries.filterMap fun (other, entry) =>
      match entry with
      | .file content _ =>
        if parts.isPrefixOf other then some (other.drop parts.length, content) else none
      | .directory => none
    below.mergeSort fun first second => before first.1 second.1

end Files

end SymbolIndex
