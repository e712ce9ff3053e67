import SymbolIndex.Text.Pieces

/-!
# File paths

A path is a text whose parts are divided by slashes. Empty parts and single dots do not count,
except for a slash or a dot at the very start.
-/

namespace SymbolIndex.Path

/-- The parts between slashes that count wherever they stand. -/
def parts (path : String) : List String :=
  (Text.pieces '/' path).filter fun part => !part.isEmpty && part != "."

/-- The components of a path: a slash first when it is absolute, a dot first when it starts with
one, then its parts. -/
def components (path : String) : List String :=
  match path.toList with
  | '/' :: _ => "/" :: parts path
  | ['.'] => ["."]
  | '.' :: '/' :: _ => "." :: parts path
  | _ => parts path

/-- The components as one text. -/
def render (components : List String) : String :=
  String.intercalate "/" components

/-- The last component, when it names a file. -/
def fileName? (path : String) : Option String :=
  match (components path).getLast? with
  | some name => if name == ".." || name == "." || name == "/" then none else some name
  | none => none

/-- The name and the extension of a file name, at its last dot; a dot at the start divides
nothing. -/
def splitName (name : String) : String × Option String :=
  match Text.cutLast '.' name with
  | some (stem, extension) => if stem.isEmpty then (name, none) else (stem, some extension)
  | none => (name, none)

/-- The extension of the file a path names. -/
def extension? (path : String) : Option String :=
  (fileName? path).bind fun name => (splitName name).2

/-- The components of a path with another extension; a path that names no file is kept. What stands
in front of the extension, the dot included, must itself name a file to get the new one: a single
dot does not, since with the dot behind it it names the directory above. -/
def componentsWithExtension (path extension : String) : List String :=
  match fileName? path with
  | some name =>
    let stem := (splitName name).1
    (components path).dropLast ++ [if stem == "." then ".." else stem ++ "." ++ extension]
  | none => components path

/-- A path below another one. -/
def join (base path : String) : String :=
  if path.startsWith "/" || base.isEmpty then path
  else if base.endsWith "/" then base ++ path
  else base ++ "/" ++ path

end SymbolIndex.Path
