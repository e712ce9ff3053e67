import SymbolIndex.Jdk

/-!
# Shared installations

An installation is loaded for the first call that names its home, with the settings of that call, and
shared from then on. **The law** (`Jdk.shared_as_first_loaded`): whatever calls were made before, a call
gets what the first of them with the same home could load, its own load included. Calls that name one
home alike and skip the same entries therefore never notice the sharing. A home is any path, absolute or
from the working directory; two of them are the same when they have the same components.

Calls that skip different entries do notice it (`Jdk.shared_with_other_entries`): what is skipped is
that of the first call.
-/

namespace SymbolIndex

namespace Archive

section Entries

variable {first second : ResolutionSettings}

/-- Which entries are read depends on the skipped ones alone. -/
theorem scansEntry_congr (same : first.skipPrefixes = second.skipPrefixes) (entry : String) :
    first.scansEntry entry = second.scansEntry entry := by
  simp only [ResolutionSettings.scansEntry, same]

theorem scanZip_congr (same : first.skipPrefixes = second.skipPrefixes) (files : Files)
    (path root : String) (archive : Archive) :
    archive.scanZip files first path root = archive.scanZip files second path root := by
  have entries : addEntry first path root = addEntry second path root := by
    funext archive entry
    simp only [addEntry, scansEntry_congr same]
  simp only [scanZip, entries]

end Entries

end Archive

namespace Jdk

/-- What an installation is loaded with depends on the skipped entries alone, too. -/
theorem load_congr {first second : ResolutionSettings} (same : first.skipPrefixes = second.skipPrefixes)
    (files : Files) (home : String) : load files first home = load files second home := by
  simp only [load, Archive.scanZip_congr same]

variable (machine : Machine)

/-- What is known of an installation: the components of its home. -/
def key? (settings : ResolutionSettings) : Option (List String) :=
  (home? machine settings).map Path.components

/-- What a call could load by itself. -/
def own? (settings : ResolutionSettings) : Option Archive :=
  (home? machine settings).bind fun home => ((load machine.files settings home).toOption).join

/-- What the first call for a home could load. -/
def firstLoaded? (calls : List ResolutionSettings) (home : List String) : Option Archive :=
  (calls.filter (key? machine · == some home)).findSome? (own? machine)

/-- Calls one after another, each with settings of its own. -/
def sharedEach : List ResolutionSettings → Loaded → List (Option Archive) × Loaded
  | [], loaded => ([], loaded)
  | settings :: rest, loaded =>
    let (archive, loaded) := shared machine settings loaded
    let (archives, loaded) := sharedEach rest loaded
    (archive :: archives, loaded)

/-- What has been loaded after some calls: for each home, what the first of them could load. -/
def Remembers (calls : List ResolutionSettings) (loaded : Loaded) : Prop :=
  ∀ home, (loaded.find? (·.1 == home)).map Prod.snd = firstLoaded? machine calls home

section Steps

variable {machine} {calls : List ResolutionSettings} {loaded : Loaded}

theorem remembers_nothing : Remembers machine [] [] := fun _ => rfl

/-- One call more counts for its own home, when no earlier one could load it. -/
theorem firstLoaded?_concat (settings : ResolutionSettings) (home : List String) :
    firstLoaded? machine (calls ++ [settings]) home =
      (firstLoaded? machine calls home).or
        (if key? machine settings == some home then own? machine settings else none) := by
  rw [firstLoaded?, firstLoaded?, List.filter_append, List.findSome?_append]
  by_cases same : key? machine settings == some home
  · simp [same]
  · simp [same]

theorem key?_of_home {settings : ResolutionSettings} {home : String}
    (known : home? machine settings = some home) : key? machine settings = some (Path.components home) := by
  rw [key?, known]
  rfl

theorem own?_of_home {settings : ResolutionSettings} {home : String}
    (known : home? machine settings = some home) :
    own? machine settings = (load machine.files settings home).toOption.join := by
  rw [own?, known]
  rfl

theorem own?_of_homeless {settings : ResolutionSettings} (homeless : key? machine settings = none) :
    own? machine settings = none := by
  have nowhere : home? machine settings = none := Option.map_eq_none_iff.mp homeless
  rw [own?, nowhere]
  rfl

/-- What cannot be read is passed over like what is not there. -/
theorem sharedAt_of_unknown {settings : ResolutionSettings} {home : String}
    (unknown : loaded.find? (·.1 == Path.components home) = none) :
    sharedAt machine settings home loaded =
      match (load machine.files settings home).toOption.join with
      | some archive => (some archive, (Path.components home, archive) :: loaded)
      | none => (none, loaded) := by
  rw [sharedAt, unknown]
  cases load machine.files settings home with
  | error error => rfl
  | ok found => cases found <;> rfl

/-- A call gets what is remembered for its home, or else what it can load. -/
theorem shared_fst (settings : ResolutionSettings) (loaded : Loaded) :
    (shared machine settings loaded).1 = (key? machine settings).bind fun home =>
      ((loaded.find? (·.1 == home)).map Prod.snd).or (own? machine settings) := by
  cases known : home? machine settings with
  | none => simp only [shared, known, key?, Option.map_none, Option.bind_none]
  | some home =>
    simp only [shared, known, key?_of_home known, own?_of_home known, Option.bind_some]
    cases stored : loaded.find? (·.1 == Path.components home) with
    | some entry => simp only [sharedAt, stored, Option.map_some, Option.some_or]
    | none =>
      rw [sharedAt_of_unknown stored]
      cases (load machine.files settings home).toOption.join <;> rfl

/-- What a call loads is remembered for its home, where nothing is yet. -/
theorem find?_shared (settings : ResolutionSettings) (loaded : Loaded) (other : List String) :
    ((shared machine settings loaded).2.find? (·.1 == other)).map Prod.snd =
      ((loaded.find? (·.1 == other)).map Prod.snd).or
        (if key? machine settings == some other then own? machine settings else none) := by
  cases known : home? machine settings with
  | none => simp [shared, known, key?]
  | some home =>
    simp only [shared, known, key?_of_home known, own?_of_home known, Option.some_beq_some, beq_iff_eq]
    by_cases same : Path.components home = other
    · subst same
      cases stored : loaded.find? (·.1 == Path.components home) with
      | some entry => simp only [sharedAt, stored, Option.map_some, Option.some_or]
      | none =>
        rw [sharedAt_of_unknown stored]
        cases (load machine.files settings home).toOption.join with
        | none => simp [stored]
        | some archive => simp
    · rw [if_neg same, Option.or_none]
      cases stored : loaded.find? (·.1 == Path.components home) with
      | some entry => simp only [sharedAt, stored]
      | none =>
        rw [sharedAt_of_unknown stored]
        cases (load machine.files settings home).toOption.join with
        | none => rfl
        | some archive => simp [same]

/-- **A step**: the call gets what the first call for its home could load, itself included, and that is
remembered. -/
theorem shared_step (remembers : Remembers machine calls loaded) (settings : ResolutionSettings) :
    (shared machine settings loaded).1 =
        (key? machine settings).bind (firstLoaded? machine (calls ++ [settings])) ∧
      Remembers machine (calls ++ [settings]) (shared machine settings loaded).2 := by
  constructor
  · rw [shared_fst]
    cases named : key? machine settings with
    | none => rfl
    | some home =>
      rw [Option.bind_some, Option.bind_some, firstLoaded?_concat, named, remembers home]
      simp only [beq_self_eq_true, if_true]
  · intro other
    rw [find?_shared, firstLoaded?_concat, remembers other]

/-- **A run**: every call of a sequence gets what the first call for its home could load. -/
theorem sharedEach_run (remembers : Remembers machine calls loaded)
    (earlier later : List ResolutionSettings) (settings : ResolutionSettings) :
    (sharedEach machine (earlier ++ settings :: later) loaded).1[earlier.length]? =
      some ((key? machine settings).bind (firstLoaded? machine (calls ++ earlier ++ [settings]))) := by
  induction earlier generalizing calls loaded with
  | nil =>
    have step := (shared_step remembers settings).1
    simp [sharedEach, step]
  | cons first earlier ih =>
    have rest := ih (shared_step remembers first).2
    simpa [sharedEach] using rest

/-- Something is loaded for a home when one of the calls for it could load it. -/
theorem firstLoaded?_isSome (home : List String) :
    (firstLoaded? machine calls home).isSome ↔
      ∃ call ∈ calls, key? machine call = some home ∧ (own? machine call).isSome := by
  simp only [firstLoaded?, List.findSome?_isSome_iff, List.mem_filter, beq_iff_eq, and_assoc]

/-- Calls that name a home alike and skip the same entries could load the same. -/
theorem own?_congr {first second : ResolutionSettings} (home : home? machine first = home? machine second)
    (entries : first.skipPrefixes = second.skipPrefixes) : own? machine first = own? machine second := by
  simp only [own?, home, load_congr entries]

/-- Where all calls for a home could load the same, the first of them loads what each of them could. -/
theorem firstLoaded?_of_alike {settings : ResolutionSettings} {home : List String}
    (named : key? machine settings = some home)
    (alike : ∀ call ∈ calls, key? machine call = some home → own? machine call = own? machine settings) :
    firstLoaded? machine (calls ++ [settings]) home = own? machine settings := by
  rw [firstLoaded?_concat, named]
  simp only [beq_self_eq_true, if_true]
  cases found : firstLoaded? machine calls home with
  | none => rfl
  | some archive =>
    obtain ⟨call, listed, loads⟩ := List.exists_of_findSome?_eq_some found
    obtain ⟨made, same⟩ := List.mem_filter.mp listed
    rw [← alike call made (by simpa using same), loads]
    rfl

end Steps

/-- **Each installation is loaded once**, for the first call that could load it. A call in a sequence
gets what the first of the calls so far with its home could load, and so it gets an installation just
when one of them could load it. It is what the call could load itself when the calls so far with its
home name it alike and skip the same entries. -/
theorem shared_as_first_loaded (earlier later : List ResolutionSettings) (settings : ResolutionSettings) :
    ∃ answer, (sharedEach machine (earlier ++ settings :: later) []).1[earlier.length]? = some answer ∧
      answer = (key? machine settings).bind (firstLoaded? machine (earlier ++ [settings])) ∧
      (answer.isSome ↔ ∃ call ∈ earlier ++ [settings],
        (key? machine call = key? machine settings) ∧ (own? machine call).isSome) ∧
      ((∀ call ∈ earlier, key? machine call = key? machine settings →
          home? machine call = home? machine settings ∧ call.skipPrefixes = settings.skipPrefixes) →
        answer = own? machine settings) := by
  refine ⟨_, sharedEach_run remembers_nothing earlier later settings, rfl, ?_, fun alike => ?_⟩
  · rw [List.nil_append]
    cases named : key? machine settings with
    | none =>
      -- Without a home nothing can be loaded.
      refine ⟨fun some_answer => (by cases some_answer), ?_⟩
      rintro ⟨call, -, homeless, loads⟩
      rw [own?_of_homeless homeless] at loads
      cases loads
    | some home => exact firstLoaded?_isSome home
  · rw [List.nil_append]
    cases named : key? machine settings with
    | none => exact (own?_of_homeless named).symm
    | some home =>
      apply firstLoaded?_of_alike named
      intro call made same
      obtain ⟨sameHome, sameEntries⟩ := alike call made (same.trans named.symm)
      exact own?_congr sameHome sameEntries

/-! ## An installation with one class -/

/-- A class file of a class without members. -/
def lonelyClass : List UInt8 :=
  [0xca, 0xfe, 0xba, 0xbe, 0, 0, 0, 0x34, 0, 3, 1, 0, 3, 0x70, 0x2f, 0x41, 7, 0, 1, 0, 0x21, 0, 2, 0, 0,
    0, 0, 0, 0, 0, 0, 0, 0]

/-- A machine with an installation that has one class, beside the working directory. -/
def oneClass : Machine where
  files :=
    { entries := [(["opt", "jdk", "lib", "rt.jar"],
        .file (.archive [] [("p/A.class", lonelyClass)]) false)]
      directory := ["work"] }

/-- Settings that name the installation and skip some entries. -/
def skipping (prefixes : List String) : ResolutionSettings :=
  { javaHome := some "/opt/jdk", skipPrefixes := prefixes }

/-- Calls with the same settings get the same, what each of them could load. -/
theorem shared_as_first_loaded_twice :
    ∃ archive, (own? oneClass (skipping [])) = some archive ∧ (archive.source.type? "p/A").isSome ∧
      (sharedEach oneClass [skipping [], skipping []] []).1[1]? = some (some archive) := by
  obtain ⟨answer, called, -, -, alike⟩ := shared_as_first_loaded oneClass [skipping []] [] (skipping [])
  have own := alike (by
    intro call listed _
    obtain rfl := List.mem_singleton.mp listed
    exact ⟨rfl, rfl⟩)
  have loads : ((own? oneClass (skipping [])).bind (·.source.type? "p/A")).isSome := by decide +kernel
  cases known : own? oneClass (skipping []) with
  | none =>
    rw [known] at loads
    cases loads
  | some archive =>
    rw [known] at loads own
    exact ⟨archive, rfl, loads, by rw [← own]; exact called⟩

/-- **A later call does not get what it could load itself**: an entry that the first call skips is
skipped for the second one too. -/
theorem shared_with_other_entries :
    ((own? oneClass (skipping [])).bind (·.source.type? "p/A")).isSome ∧
      (((sharedEach oneClass [skipping ["p/"], skipping []] []).1[1]?).join.bind
        (·.source.type? "p/A")) = none ∧
      (((sharedEach oneClass [skipping ["p/"], skipping []] []).1[1]?).join).isSome := by
  refine ⟨?_, ?_, ?_⟩ <;> decide +kernel

end Jdk

end SymbolIndex
