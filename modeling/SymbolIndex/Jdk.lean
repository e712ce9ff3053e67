import SymbolIndex.Archive
import SymbolIndex.Classpath.Builtin

/-!
# Installed libraries

The library classes of an installation: its module files, or a single archive in older ones. An
installation is named in the settings or found on the machine, and each one is loaded once and
shared from then on. `Machine` is what a lookup can see of the machine, `Loaded` what has been
loaded so far.
-/

namespace SymbolIndex

/-- What can be seen of a machine. -/
structure Machine where
  files : Files
  /-- The home directory that the environment names. -/
  javaHome : Option String := none
  /-- The directories that programs are looked for in. -/
  searchPath : List String := []

/-- The installations that have been loaded, by the components of their homes. -/
abbrev Loaded := List (List String × Archive)

namespace Jdk

/-- Where the classes lie in a module file. -/
def moduleRoot : String := "classes/"

/-- Where older installations keep their classes. -/
def archiveLocations : List String := ["lib/rt.jar", "jre/lib/rt.jar"]

/-- The module files of an installation, by name. -/
def modules (files : Files) (home : String) : List String :=
  let directory := Path.join home "jmods"
  if files.isDirectory directory then
    (files.walk directory).filterMap fun (parts, _) =>
      match parts with
      | [name] =>
        let path := Path.join directory name
        if Path.extension? path = some "jmod" then some path else none
      | _ => none
  else []

/-- Loads the installation at `home`; nothing when it has no classes to load. -/
def load (files : Files) (settings : ResolutionSettings) (home : String) :
    Except ArchiveError (Option Archive) :=
  let fresh := Archive.empty "jdk"
  match modules files home with
  | [] =>
    match (archiveLocations.map (Path.join home)).find? files.isFile with
    | some path => (fresh.scanZip files settings path "").map some
    | none => .ok none
  | modules =>
    (modules.foldlM
      (fun (archive : Archive) path => archive.scanZip files settings path moduleRoot)
      fresh).map some

/-- The launcher that is found first in the search path: the path that it was found under, and its
place. -/
def launcher? (machine : Machine) : Option (String × List String) :=
  machine.searchPath.findSome? fun directory =>
    let path := Path.join directory "java"
    match machine.files.locate path with
    | .ok (place, .file _ true) => some (path, place)
    | _ => none

/-- The home of the installation that owns the launcher: the directory two levels above it, as an
absolute path. A launcher that was found from the working directory on, and below it, has its home
named from there too. -/
def launcherHome (machine : Machine) : Option String := do
  let (path, place) ← launcher? machine
  guard (2 ≤ place.length)
  let home := place.dropLast.dropLast
  let start := machine.files.startOf path
  if !path.startsWith "/" && start.isPrefixOf home then
    return Path.render (home.drop start.length)
  else return "/" ++ Path.render home

/-- The home of an installation on the machine: the one that the environment names, when it is a
directory, else the one that owns the launcher. -/
def detect (machine : Machine) : Option String :=
  match machine.javaHome with
  | some home =>
    if machine.files.isDirectory home then some home else launcherHome machine
  | none => launcherHome machine

/-- The home of the installation to use, if there is one. -/
def home? (machine : Machine) (settings : ResolutionSettings) : Option String :=
  match settings.javaHome with
  | some home => some home
  | none => if settings.detectJdk then detect machine else none

/-- The installation at a home, loaded at the first call. One that cannot be loaded is passed
over. -/
def sharedAt (machine : Machine) (settings : ResolutionSettings) (home : String)
    (loaded : Loaded) : Option Archive × Loaded :=
  match loaded.find? (·.1 == Path.components home) with
  | some (_, archive) => (some archive, loaded)
  | none =>
    match load machine.files settings home with
    | .ok (some archive) => (some archive, (Path.components home, archive) :: loaded)
    | _ => (none, loaded)

/-- The installation to use, loaded at the first call and shared from then on. -/
def shared (machine : Machine) (settings : ResolutionSettings) (loaded : Loaded) :
    Option Archive × Loaded :=
  match home? machine settings with
  | some home => sharedAt machine settings home loaded
  | none => (none, loaded)

end Jdk

namespace Classpath

/-- The library, when the settings ask for it: an installed one, or else the built-in one. -/
def library (machine : Machine) (settings : ResolutionSettings) (loaded : Loaded) :
    Classpath × Loaded :=
  if settings.runtimeTypes then
    match Jdk.shared machine settings loaded with
    | (some archive, loaded) => (⟨[archive.source]⟩, loaded)
    | (none, loaded) => (⟨[Builtin.source]⟩, loaded)
  else (.empty, loaded)

/-- The class path of an archive: the library, then the classes of the archive. -/
def ofArchive (machine : Machine) (settings : ResolutionSettings) (path : String)
    (loaded : Loaded) : Except ArchiveError Classpath × Loaded :=
  let (classpath, loaded) := library machine settings loaded
  match Archive.load machine.files settings path with
  | .ok archive => (.ok (classpath.append archive.source), loaded)
  | .error error => (.error error, loaded)

end Classpath

end SymbolIndex
