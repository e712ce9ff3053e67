import SymbolIndex.Command.Arguments
import SymbolIndex.Occurrence.Json
import SymbolIndex.Workspace

/-!
# Running a command

`inspect` indexes every source of a directory and reports the counts, `query` lists the occurrences
of a name in one source, and `owner` tells the type that a referenced member belongs to.
-/

namespace SymbolIndex.Command

open SymbolIndex.Tree (Node Label)

/-- What a run of the program leaves behind. -/
structure Output where
  code : Nat
  stdout : String
  stderr : String
  deriving DecidableEq, Repr

/-- Why a command failed. -/
inductive Failure where
  | reported (message : String) (cause : Option String)
  /-- More classes are to be indexed at a time than can be counted. The run breaks off without a
  report. -/
  | tooManyWorkers
  deriving DecidableEq, Repr

/-- What a failed run leaves behind. -/
def Failure.output : Failure → Output
  | .reported message cause =>
    { code := 1
      stdout := ""
      stderr := "Error: " ++ message
        ++ (match cause with
          | some cause => "\n\nCaused by:\n    " ++ cause
          | none => "")
        ++ "\n" }
  | .tooManyWorkers => { code := 101, stdout := "", stderr := "" }

/-- A failure without a deeper cause. -/
def Failure.ofMessage (message : String) : Failure :=
  .reported message none

/-- The failure to read a file. -/
def Failure.ofFile (path : String) (error : FileError) : Failure :=
  .reported ("Failed to read " ++ path) (some error.message)

/-- The failure to index. -/
def Failure.ofIndex (error : IndexError) : Failure :=
  .reported error.message
    (match error with
      | .archive error => some error.cause
      | .alreadyParsed _ => none)

/-- The version line. -/
def versionLine : String := "classnav 0.1.0\n"

/-- The class name of a source file, from its path below the source directory. -/
def classNameOf (relative : String) (decompiler : Option String) : String :=
  ClassName.withDecompiler (Path.render (Path.componentsWithExtension relative "class")) decompiler

/-- The tree of a text without any. -/
def blankTree : Node :=
  Node.ofChildren
    { kind := "program", role := none, named := true, error := false, missing := false
      start := 0, stop := 0 } []

/-- A source text with its tree. -/
def unitOf (text : String) (tree : Option Node) : SourceUnit :=
  SourceUnit.ofText text (tree.getD blankTree)

/-! ## Inspect -/

/-- Reads a source file found below the source directory: its class name and its source. -/
def readSource (sources : String) (decompiler : Option String) (parts : List String)
    (content : Content) : Except Failure (String × SourceUnit) :=
  let relative := Path.render parts
  match content.text? with
  | some (text, tree) => .ok (classNameOf relative decompiler, unitOf text tree)
  | none =>
    let path := if parts.isEmpty then sources else Path.join sources relative
    .error (.ofFile path .notText)

/-- Whether a file below the source directory is a source. -/
def isSource (sources : String) (parts : List String) : Bool :=
  Path.extension? (if parts.isEmpty then sources else Path.render parts) = some "java"

/-- The sources below a directory with their class names, in order. -/
def collectSources (files : Files) (sources : String) (decompiler : Option String) :
    Except Failure (List (String × SourceUnit)) :=
  ((files.walk sources).filter fun (parts, _) => isSource sources parts).mapM
    fun (parts, content) => readSource sources decompiler parts content

/-- A row of a report: a class with its counts, or with the reason why it has none. -/
abbrev Row := String × Except String Summary

/-- The row of a result. -/
def rowOf : String × Except IndexError Attempt → Row
  | (className, .ok (.indexed summary)) => (className, .ok summary)
  | (className, .ok (.failed error)) => (className, .error error.message)
  | (className, .error error) => (className, .error error.message)

/-- The counts of all rows that have some. -/
def totalOf (rows : List Row) : Summary :=
  rows.foldl
    (fun total row =>
      match row.2 with
      | .ok summary => total.add summary
      | .error _ => total)
    {}

/-- The number of rows without counts. -/
def failedOf (rows : List Row) : Nat :=
  (rows.filter fun row =>
    match row.2 with
    | .ok _ => false
    | .error _ => true).length

/-- A row in JSON. -/
def rowJson : Row → Json
  | (className, .ok summary) =>
    .object [("class", .string className), ("summary", summary.toJson)]
  | (className, .error message) =>
    .object [("class", .string className), ("error", .string message)]

/-- A row on one line. -/
def rowText : Row → String
  | (className, .ok summary) => "  " ++ className ++ ": " ++ summary.text ++ "\n"
  | (className, .error message) => "  " ++ className ++ ": FAILED (" ++ message ++ ")\n"

/-- The report on an archive. -/
def inspectReport (archive : String) (rows : List Row) : Format → String
  | .json =>
    Json.pretty (.object [
      ("archive", .string archive), ("classes", .array (rows.map rowJson)),
      ("failed", .nat (failedOf rows)), ("total", (totalOf rows).toJson)]) ++ "\n"
  | .text =>
    "Archive: " ++ archive ++ "\n" ++ String.join (rows.map rowText) ++ "\n"
      ++ toString rows.length ++ " classes, " ++ toString (failedOf rows) ++ " failed\n"
      ++ "Total: " ++ (totalOf rows).text ++ "\n"

/-- The most classes that can be indexed at a time. -/
def maxWorkers : Nat := 2305843009213693951

/-- Indexes every source of a directory against an archive. -/
def inspect (machine : Machine) (settings : Settings) (archive sources : String)
    (decompiler : Option String) (format : Format) : Except Failure String :=
  match collectSources machine.files sources decompiler with
  | .error failure => .error failure
  | .ok units =>
    match (Workspace.ofFile archive settings).openClasses machine units [] with
    | (.error error, _, _) => .error (.ofIndex error)
    | (.ok results, _, _) =>
      if maxWorkers < settings.workers then .error .tooManyWorkers
      else .ok (inspectReport archive (results.map rowOf) format)

/-! ## Query and owner -/

/-- Indexes one source file against an archive. -/
def indexFile (machine : Machine) (settings : Settings) (archive source : String)
    (className : Option String) : Except Failure ClassIndex :=
  match machine.files.readText source with
  | .error error => .error (.ofFile source error)
  | .ok (text, tree) =>
    let className := className.getD (classNameOf ((Path.fileName? source).getD source) none)
    let (result, workspace, _) :=
      (Workspace.ofFile archive settings).openClass machine className (unitOf text tree) []
    match result with
    | .error error => .error (.ofIndex error)
    | .ok (.failed error) =>
      .error (.ofMessage (source ++ " is not valid Java: " ++ error.message))
    | .ok (.indexed _) =>
      match workspace.class? className with
      | some index => .ok index
      | none => .error (.ofMessage ("Class " ++ className ++ " was not stored"))

/-- The occurrences of a name in JSON, or one line each. -/
def queryReport (kind : OccurrenceKind) (key source className : String)
    (found : List Occurrence) : Format → String
  | .json => Json.pretty (.array (found.map Occurrence.toJson)) ++ "\n"
  | .text =>
    if found.isEmpty then
      "No " ++ kind.name ++ " named '" ++ key ++ "' in " ++ className ++ "\n"
    else
      "Found " ++ toString found.length ++ " " ++ kind.name ++ " locations for '" ++ key ++ "':\n"
        ++ String.join (found.map fun occurrence =>
          "  " ++ source ++ ":" ++ toString occurrence.span.line ++ ":"
            ++ toString occurrence.span.column ++ "  " ++ occurrence.text ++ "\n")

/-- The type of a referenced member, in source form. -/
def ownerReport (name className : String) : Option String → String
  | some owner => Text.swap '/' '.' owner ++ "\n"
  | none => "No reference to '" ++ name ++ "' in " ++ className ++ "\n"

/-- Does a task. -/
def perform (machine : Machine) (settings : Settings) : Task → Except Failure String
  | .inspect archive sources decompiler format =>
    inspect machine settings archive sources decompiler format
  | .query kind key archive source className format => do
    let index ← indexFile machine settings archive source className
    return queryReport kind key source index.className (index.table.find kind key) format
  | .owner name archive source className => do
    let index ← indexFile machine settings archive source className
    return ownerReport name index.className (index.table.declaringType? name)

/-- The settings of a run: those of the given file, or those of the project. -/
def settingsOf (files : Files) (path : Option String) : Except Failure Settings :=
  match path with
  | none => .ok (Settings.ofProject files)
  | some path =>
    match Settings.load files path with
    | .ok settings => .ok settings
    | .error error => .error (.ofMessage error.message)

/-- Runs the program with the given arguments. -/
def run (machine : Machine) (arguments : List String) : Output :=
  match parse arguments with
  | .error .version => { code := 0, stdout := versionLine, stderr := "" }
  | .error .help => { code := 0, stdout := "", stderr := "" }
  | .error .usage => { code := 2, stdout := "", stderr := "" }
  | .ok invocation =>
    let result := do
      let settings ← settingsOf machine.files invocation.settings
      perform machine settings invocation.task
    match result with
    | .ok stdout => { code := 0, stdout, stderr := "" }
    | .error failure => failure.output

end SymbolIndex.Command
