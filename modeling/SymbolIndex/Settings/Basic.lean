import SymbolIndex.Files.Basic
import SymbolIndex.Json.Decode
import SymbolIndex.Text.Quoted
import SymbolIndex.Toml.Parser

/-!
# Settings

What a project can choose: where types are looked up, how many classes are indexed at a time, and
how messages are logged. Settings are read from TOML or JSON; what is not given has its default,
and what is given must make sense.
-/

namespace SymbolIndex

/-- Where types are looked up. -/
structure ResolutionSettings where
  /-- Whether the library types come before those of the archive. -/
  runtimeTypes : Bool := true
  /-- The installation whose classes are the library. -/
  javaHome : Option String := none
  /-- Whether an installation is looked for when none is given. -/
  detectJdk : Bool := true
  archiveExtensions : List String := ["jar", "zip"]
  skipPrefixes : List String := ["META-INF/"]
  deriving DecidableEq, Repr

/-- How messages are logged. -/
structure LoggingSettings where
  level : String := "info"
  format : String := "compact"
  deriving DecidableEq, Repr

/-- All settings. -/
structure Settings where
  resolution : ResolutionSettings := {}
  workers : Nat := 4
  logging : LoggingSettings := {}
  deriving DecidableEq, Repr

namespace ResolutionSettings

/-- Whether an archive entry is read as a class file. -/
def scansEntry (settings : ResolutionSettings) (entry : String) : Bool :=
  let name := String.ofList (entry.toList.dropWhile (· == '/'))
  entry.endsWith ".class"
    && name != "module-info.class" && !name.endsWith "/module-info.class"
    && !settings.skipPrefixes.any fun start => name.startsWith start

/-- A text with its ASCII letters in lower case. -/
def lowerAscii (text : String) : String :=
  String.ofList (text.toList.map Char.toLower)

/-- Whether a path names an archive: its extension is listed, in any case. -/
def isArchive (settings : ResolutionSettings) (path : String) : Bool :=
  match Path.extension? path with
  | some extension =>
    settings.archiveExtensions.any fun candidate => lowerAscii candidate == lowerAscii extension
  | none => false

end ResolutionSettings

/-- Why settings make no sense. -/
inductive SettingsError where
  | noExtension
  | badExtension (extension : String)
  | noJavaHome (path : String)
  | noWorkers
  | badLevel (level : String)
  | badFormat (format : String)
  deriving DecidableEq, Repr

/-- The wording of an error. -/
def SettingsError.message : SettingsError → String
  | .noExtension => "At least one archive extension is required"
  | .badExtension extension => "Invalid archive extension: " ++ Text.quoted extension
  | .noJavaHome path => "java_home is not a directory: " ++ path
  | .noWorkers => "Worker count must be greater than 0"
  | .badLevel level => "Invalid log level: " ++ level
  | .badFormat format => "Invalid log format: " ++ format

namespace Settings

/-- The name of the settings file of a project. -/
def fileName : String := ".classnav.toml"

/-- Whether a text is no extension: it is empty or starts with a dot. -/
def isBadExtension (extension : String) : Bool :=
  extension.isEmpty || extension.startsWith "."

/-- The first thing about the settings that makes no sense. -/
def validate (files : Files) (settings : Settings) : Except SettingsError Unit := do
  if settings.resolution.archiveExtensions.isEmpty then throw .noExtension
  if let some extension := settings.resolution.archiveExtensions.find? isBadExtension then
    throw (.badExtension extension)
  if let some home := settings.resolution.javaHome then
    if !files.isDirectory home then throw (.noJavaHome home)
  if settings.workers = 0 then throw .noWorkers
  if settings.logging.level ∉ ["error", "warn", "info", "debug", "trace"] then
    throw (.badLevel settings.logging.level)
  if settings.logging.format ∉ ["compact", "pretty"] then
    throw (.badFormat settings.logging.format)

/-! ## Reading -/

/-- Reads a field that may be missing. -/
def fieldOr {α : Type} (read : Json → Option α) (default : α) : Option Json → Option α
  | none => some default
  | some value => read value

/-- Reads where types are looked up. `fits` says how many items an array may have for a number of
fields. -/
def resolutionOfJson? (fits : Nat → Nat → Bool) (value : Json) : Option ResolutionSettings := do
  let names := ["runtime_types", "java_home", "detect_jdk", "archive_extensions", "skip_prefixes"]
  match ← value.record? names (fits names.length) with
  | [runtimeTypes, javaHome, detectJdk, archiveExtensions, skipPrefixes] =>
    let defaults : ResolutionSettings := {}
    return {
      runtimeTypes := ← fieldOr Json.asBool? defaults.runtimeTypes runtimeTypes
      javaHome := ← fieldOr (Json.asOption? Json.asString?) defaults.javaHome javaHome
      detectJdk := ← fieldOr Json.asBool? defaults.detectJdk detectJdk
      archiveExtensions := ←
        fieldOr Json.asStrings? defaults.archiveExtensions archiveExtensions
      skipPrefixes := ← fieldOr Json.asStrings? defaults.skipPrefixes skipPrefixes }
  | _ => none

/-- Reads how many classes are indexed at a time. -/
def workersOfJson? (fits : Nat → Nat → Bool) (value : Json) : Option Nat := do
  match ← value.record? ["workers"] (fits 1) with
  | [workers] => fieldOr (Json.asNat? 64) ({} : Settings).workers workers
  | _ => none

/-- Reads how messages are logged. -/
def loggingOfJson? (fits : Nat → Nat → Bool) (value : Json) : Option LoggingSettings := do
  match ← value.record? ["level", "format"] (fits 2) with
  | [level, format] =>
    let defaults : LoggingSettings := {}
    return {
      level := ← fieldOr Json.asString? defaults.level level
      format := ← fieldOr Json.asString? defaults.format format }
  | _ => none

/-- Reads settings. -/
def ofValue? (fits : Nat → Nat → Bool) (value : Json) : Option Settings := do
  match ← value.record? ["resolution", "indexing", "logging"] (fits 3) with
  | [resolution, indexing, logging] =>
    let defaults : Settings := {}
    return {
      resolution := ← fieldOr (resolutionOfJson? fits) defaults.resolution resolution
      workers := ← fieldOr (workersOfJson? fits) defaults.workers indexing
      logging := ← fieldOr (loggingOfJson? fits) defaults.logging logging }
  | _ => none

/-- Reads settings from JSON, where an array has no more items than the record has fields. -/
def ofJson? (value : Json) : Option Settings :=
  ofValue? (fun fields items => items ≤ fields) value

/-- Reads where types are looked up from JSON. -/
def resolutionOf? (value : Json) : Option ResolutionSettings :=
  resolutionOfJson? (fun fields items => items ≤ fields) value

/-- Reads settings from TOML. -/
def ofToml? (text : String) : Option Settings := do
  let table ← Toml.parse text
  ofValue? (fun _ _ => true) table.toJson

/-- Settings in JSON. -/
def toJson (settings : Settings) : Json :=
  .object [
    ("resolution", .object [
      ("runtime_types", .bool settings.resolution.runtimeTypes),
      ("java_home", Json.text? settings.resolution.javaHome),
      ("detect_jdk", .bool settings.resolution.detectJdk),
      ("archive_extensions", Json.texts settings.resolution.archiveExtensions),
      ("skip_prefixes", Json.texts settings.resolution.skipPrefixes)]),
    ("indexing", .object [("workers", .nat settings.workers)]),
    ("logging", .object [("level", .string settings.logging.level),
      ("format", .string settings.logging.format)])]

/-! ## Loading -/

/-- Why settings could not be loaded. -/
inductive LoadError where
  | file (error : FileError)
  | malformed
  | invalid (error : SettingsError)
  deriving DecidableEq, Repr

/-- The wording of an error. -/
def LoadError.message : LoadError → String
  | .file error => error.message
  | .malformed => "malformed settings"
  | .invalid error => error.message

/-- Loads the settings of a file. -/
def load (files : Files) (path : String) : Except LoadError Settings := do
  let (text, _) ← (files.readText path).mapError LoadError.file
  match ofToml? text with
  | none => throw .malformed
  | some settings =>
    (settings.validate files).mapError LoadError.invalid
    return settings

/-- The settings of the project in the working directory; the defaults when it has none that can
be used. -/
def ofProject (files : Files) : Settings :=
  match load files (Path.join "." fileName) with
  | .ok settings => settings
  | .error _ => {}

end Settings

end SymbolIndex
