import Mathlib.Algebra.GroupWithZero.Nat
import SymbolIndex.Proofs.BulkOpening
import SymbolIndex.Proofs.SourceNames

/-!
# The report on a directory of sources

**The law** (`inspect_accounts_for_sources`): with an archive that can be read, `inspect` reports on
every source exactly once, in the order they are met, and its counts are those of the rows. It holds of
every schedule of the jobs, since no two sources have one class name.

It needs sources that are text. The first that is not fails the whole, and nothing is reported
(`inspect_reports_nothing`).
-/

namespace SymbolIndex.Command

/-! ## Counting rows -/

/-- The counts of the rows that have some. -/
def summaries (rows : List Row) : List Summary :=
  rows.filterMap fun row => row.2.toOption

/-- The counters of a summary. -/
def counters : List (Summary → Nat) :=
  [Summary.fields, Summary.parameters, Summary.localVariables, Summary.methods, Summary.references,
    Summary.unresolved]

section Rows

variable {rows : List Row}

/-- Every row has a summary or counts as failed. -/
theorem failedOf_add_summaries (rows : List Row) : failedOf rows + (summaries rows).length = rows.length := by
  induction rows with
  | nil => rfl
  | cons row rows ih =>
    obtain ⟨className, outcome⟩ := row
    cases outcome with
    | ok summary =>
      simp only [failedOf, summaries, List.filter_cons, List.filterMap_cons, Except.toOption,
        List.length_cons, Bool.false_eq_true, if_false] at ih ⊢
      omega
    | error message =>
      simp only [failedOf, summaries, List.filter_cons, List.filterMap_cons, Except.toOption,
        List.length_cons, if_true] at ih ⊢
      omega

/-- Adding summaries adds each of their counts. -/
theorem counter_add {counter : Summary → Nat} (listed : counter ∈ counters) (first second : Summary) :
    counter (first.add second) = counter first + counter second := by
  simp only [counters, List.mem_cons, List.not_mem_nil, or_false] at listed
  rcases listed with rfl | rfl | rfl | rfl | rfl | rfl <;> rfl

theorem counter_empty {counter : Summary → Nat} (listed : counter ∈ counters) : counter {} = 0 := by
  simp only [counters, List.mem_cons, List.not_mem_nil, or_false] at listed
  rcases listed with rfl | rfl | rfl | rfl | rfl | rfl <;> rfl

/-- A row adds its counts, when it has some. -/
def addRow (total : Summary) (row : Row) : Summary :=
  match row.2 with
  | .ok summary => total.add summary
  | .error _ => total

theorem totalOf_eq (rows : List Row) : totalOf rows = rows.foldl addRow {} := rfl

/-- **Each count of the total is the sum over the rows.** -/
theorem counter_totalOf {counter : Summary → Nat} (listed : counter ∈ counters) (rows : List Row) :
    counter (totalOf rows) = ((summaries rows).map counter).sum := by
  -- What has been counted so far is carried along.
  suffices counted : ∀ total : Summary,
      counter (rows.foldl addRow total) = counter total + ((summaries rows).map counter).sum by
    have all := counted {}
    rwa [counter_empty listed, Nat.zero_add, ← totalOf_eq] at all
  induction rows with
  | nil => exact fun total => rfl
  | cons row rows ih =>
    intro total
    obtain ⟨className, outcome⟩ := row
    cases outcome with
    | ok summary =>
      have rest := ih (total.add summary)
      rw [counter_add listed] at rest
      simp only [List.foldl_cons, addRow, rest, summaries, List.filterMap_cons, Except.toOption, List.map_cons,
        List.sum_cons]
      omega
    | error message => exact ih total

end Rows

/-! ## Reading the sources -/

/-- The path that a source is read from. -/
def pathOf (sources : String) (parts : List String) : String :=
  if parts.isEmpty then sources else Path.join sources (Path.render parts)

section Reading

variable {files : Files} {sources : String} {decompiler : Option String}

/-- Sources that are text are all read, in order, under their class names. -/
theorem collectSources_ok (decompiler : Option String)
    (texts : ∀ file ∈ found files sources, file.2.text?.isSome) :
    ∃ units, collectSources files sources decompiler = .ok units ∧
      List.Forall₂ (fun file unit => readSource sources decompiler file.1 file.2 = .ok unit)
        (found files sources) units := by
  show ∃ units, (found files sources).mapM
    (fun file => readSource sources decompiler file.1 file.2) = .ok units ∧ _
  generalize found files sources = listed at texts ⊢
  induction listed with
  | nil => exact ⟨[], rfl, .nil⟩
  | cons file rest ih =>
    obtain ⟨units, read, each⟩ := ih fun later listed => texts later (List.mem_cons_of_mem _ listed)
    obtain ⟨⟨text, tree⟩, isText⟩ := Option.isSome_iff_exists.mp (texts file List.mem_cons_self)
    have first : readSource sources decompiler file.1 file.2 =
        .ok (classNameOf (Path.render file.1) decompiler, unitOf text tree) := by
      simp only [readSource, isText]
    refine ⟨_ :: units, ?_, .cons first each⟩
    rw [List.mapM_cons, first, read]
    rfl

/-- The first source that is not text is named as the failure. -/
theorem collectSources_error {before behind : List (List String × Content)}
    {file : List String × Content} (listed : found files sources = before ++ file :: behind)
    (texts : ∀ earlier ∈ before, earlier.2.text?.isSome) (notText : file.2.text? = none) :
    collectSources files sources decompiler = .error (.ofFile (pathOf sources file.1) .notText) := by
  show (found files sources).mapM (fun file => readSource sources decompiler file.1 file.2) = _
  rw [listed]
  clear listed
  induction before with
  | nil =>
    rw [List.nil_append, List.mapM_cons, readSource, notText]
    rfl
  | cons earlier before ih =>
    obtain ⟨⟨text, tree⟩, isText⟩ := Option.isSome_iff_exists.mp (texts earlier List.mem_cons_self)
    rw [List.cons_append, List.mapM_cons, readSource, isText,
      ih fun later listed => texts later (List.mem_cons_of_mem _ listed)]
    rfl

/-- A source that was read has the class name of its path. -/
theorem names_of_read {listed : List (List String × Content)} {units : List (String × SourceUnit)}
    (each : List.Forall₂ (fun file unit => readSource sources decompiler file.1 file.2 = .ok unit)
      listed units) :
    units.map Prod.fst = listed.map fun file => classNameOf (Path.render file.1) decompiler := by
  induction each with
  | nil => rfl
  | cons read _ ih =>
    unfold readSource at read
    split at read
    · cases read
      rw [List.map_cons, List.map_cons, ih]
    · cases read

end Reading

/-! ## The report -/

/-- What a report says of sources that were read: each has the row that it has when it is opened alone,
and the counts are those of the rows. -/
structure Accounts (machine : Machine) (workspace : Workspace) (units : List (String × SourceUnit))
    (rows : List Row) : Prop where
  /-- There is a row for each source, in order. -/
  each : rows = units.map fun unit =>
    rowOf (unit.1, (workspace.openClass machine unit.1 unit.2 []).1)
  /-- No class is refused. -/
  opened : ∀ unit ∈ units, ∃ attempt, (workspace.openClass machine unit.1 unit.2 []).1 = .ok attempt
  /-- The rows without counts are those that failed. -/
  failed : failedOf rows + (summaries rows).length = rows.length
  /-- The total has the sum of each count. -/
  total : ∀ counter ∈ counters, counter (totalOf rows) = ((summaries rows).map counter).sum

section Report

variable {machine : Machine} {workspace : Workspace} {loaded : Loaded} {classpath : Classpath}
  {inputs : List (String × SourceUnit)}

/-- With distinct names, none of them open before, every class has what opening it alone gives. -/
theorem opens_each_alone (readable : (workspace.sharedClasspath machine loaded).1 = .ok classpath)
    (distinct : (inputs.map Prod.fst).Nodup) (unopened : ∀ input ∈ inputs, workspace.class? input.1 = none) :
    (∀ input ∈ inputs, ∃ attempt, (workspace.openClass machine input.1 input.2 loaded).1 = .ok attempt) ∧
      ∀ result final, Opens machine workspace loaded inputs result final →
        result = .ok (inputs.map fun input =>
          (input.1, (workspace.openClass machine input.1 input.2 loaded).1)) := by
  rcases read : workspace.sharedClasspath machine loaded with ⟨error | found, shared, later⟩
  · rw [read] at readable
    cases readable
  obtain rfl : found = classpath := by simpa [read] using readable
  have alone : ∀ input ∈ inputs, (workspace.openClass machine input.1 input.2 loaded).1 =
      .ok (shared.indexOf found input).1 := fun input listed =>
    Workspace.openClass_first read (unopened input listed)
  refine ⟨fun input listed => ⟨_, alone input listed⟩, fun result final opens => ?_⟩
  cases opens with
  | unreadable unread =>
    rw [read] at unread
    cases unread
  | ended again _ followed ends =>
    rw [read] at again
    cases again
    have filling := Bulk.filling_follow
      (Bulk.filling_start inputs (Workspace.classpath_of_read read)) followed
    have still : ∀ input ∈ inputs, shared.class? input.1 = none := fun input listed => by
      rw [Workspace.class?_of_classes (Workspace.classes_of_read read), unopened input listed]
    rw [ends.eq_map filling distinct still]
    exact congrArg Except.ok (List.map_congr_left fun input listed => by rw [alone input listed])

end Report

section Law

variable {machine : Machine} {settings : Settings} {archive sources : String} {classpath : Classpath}

/-- A source that is not text fails the whole: nothing is reported. -/
theorem inspect_reports_nothing {decompiler : Option String} {before behind : List (List String × Content)}
    {file : List String × Content} (listed : found machine.files sources = before ++ file :: behind)
    (texts : ∀ earlier ∈ before, earlier.2.text?.isSome) (notText : file.2.text? = none) (format : Format) :
    inspect machine settings archive sources decompiler format =
      .error (.ofFile (pathOf sources file.1) .notText) := by
  rw [inspect, collectSources_error listed texts notText]

/-- **Every source is accounted for once.** In a tree of files no two sources have one class name. With
an archive that can be read, sources that are text and workers that can be counted, the report has a row
for each source, and every schedule of the jobs comes to these rows; the first source that is not text
is reported as a failure instead. -/
theorem inspect_accounts_for_sources (proper : machine.files.Proper)
    (readable : ((Workspace.ofFile archive settings).sharedClasspath machine []).1 = .ok classpath)
    (decompiler : Option String) (format : Format) :
    ((found machine.files sources).map fun file => classNameOf (Path.render file.1) decompiler).Nodup ∧
      (∀ before file behind, found machine.files sources = before ++ file :: behind →
        (∀ earlier ∈ before, earlier.2.text?.isSome) → file.2.text? = none →
          inspect machine settings archive sources decompiler format =
            .error (.ofFile (pathOf sources file.1) .notText)) ∧
      ((∀ file ∈ found machine.files sources, file.2.text?.isSome) → settings.workers ≤ maxWorkers →
        ∃ units rows,
          List.Forall₂ (fun file unit => readSource sources decompiler file.1 file.2 = .ok unit)
            (found machine.files sources) units ∧
          rows.map Prod.fst =
            (found machine.files sources).map (fun file => classNameOf (Path.render file.1) decompiler) ∧
          Accounts machine (Workspace.ofFile archive settings) units rows ∧
          inspect machine settings archive sources decompiler format =
            .ok (inspectReport archive rows format) ∧
          ∀ result final, Opens machine (Workspace.ofFile archive settings) [] units result final →
            ∃ results, result = .ok results ∧ results.map rowOf = rows) := by
  have distinct := found_names_nodup proper sources decompiler
  refine ⟨distinct, fun before file behind listed texts notText =>
    inspect_reports_nothing listed texts notText format, fun texts countable => ?_⟩
  obtain ⟨units, collected, each⟩ := collectSources_ok decompiler texts
  have names := names_of_read each
  rw [← names] at distinct
  have unopened : ∀ unit ∈ units, (Workspace.ofFile archive settings).class? unit.1 = none := by
    intro unit _
    simp [Workspace.class?, Workspace.ofFile]
  obtain ⟨opened, alone⟩ := opens_each_alone readable distinct unopened
  have inSequence := alone _ _ (opens_openClasses machine [] units countable)
  refine ⟨units, _, each, ?_, ⟨rfl, opened, failedOf_add_summaries _,
    fun counter listed => counter_totalOf listed _⟩, ?_, fun result final opens => ?_⟩
  · rw [← names, List.map_map]
    refine List.map_congr_left fun unit listed => ?_
    obtain ⟨attempt, same⟩ := opened unit listed
    simp only [Function.comp_apply, same]
    cases attempt <;> rfl
  · rcases done : (Workspace.ofFile archive settings).openClasses machine units [] with
      ⟨result, final, loaded⟩
    rw [done] at inSequence
    simp only at inSequence
    subst inSequence
    simp only [inspect, collected, done, if_neg (Nat.not_lt.mpr countable), List.map_map]
    rfl
  · exact ⟨_, alone result final opens, by rw [List.map_map]; rfl⟩

/-- Two sources of one simple name in a directory of the root, and a directory without classes in the
working directory. -/
def twoSources : Machine where
  files := [("lib", .directory), ("/src/A.java", .file (.source "" blankTree) false),
    ("/src/b/A.java", .file (.source "" blankTree) false)].foldl
      (fun files (path, entry) => files.add path entry) .empty

/-- Both sources are found, with their paths below the directory. -/
theorem found_twoSources :
    found twoSources.files "/src" =
      [(["A.java"], .source "" blankTree), (["b", "A.java"], .source "" blankTree)] := by
  have located : twoSources.files.locate "/src" = .ok (["src"], .directory) := by
    with_unfolding_all rfl
  unfold found Files.walk
  rw [located]
  simp only
  rw [List.mergeSort_of_pairwise]
  · with_unfolding_all rfl
  · decide +kernel

theorem inspect_accounts_for_two :
    twoSources.files.Proper ∧
      ∃ rows, rows.map Prod.fst = ["A.class-CFR", "b/A.class-CFR"] ∧
        inspect twoSources {} "lib" "/src" (some "CFR") .text =
          .ok (inspectReport "lib" rows .text) := by
  have proper : twoSources.files.Proper := Files.Proper.ofList _
  have read : ((Workspace.ofFile "lib" {}).sharedClasspath twoSources []).1.isOk := by decide +kernel
  refine ⟨proper, ?_⟩
  cases known : ((Workspace.ofFile "lib" {}).sharedClasspath twoSources []).1 with
  | error error =>
    rw [known] at read
    cases read
  | ok classpath =>
    obtain ⟨-, -, reports⟩ :=
      @inspect_accounts_for_sources twoSources {} "lib" "/src" classpath proper known (some "CFR") .text
    obtain ⟨units, rows, -, names, -, reported, -⟩ := reports (by
      rw [found_twoSources]
      decide +kernel) (by decide)
    have listed : (found twoSources.files "/src").map
        (fun file => classNameOf (Path.render file.1) (some "CFR")) = ["A.class-CFR", "b/A.class-CFR"] := by
      rw [found_twoSources]
      decide +kernel
    exact ⟨rows, names.trans listed, reported⟩

/-- A source that is not text beside a directory without classes. -/
def unreadableSource : Machine where
  files := [("lib", .directory), ("src/A.java", .file (.bytes [0xff]) false)].foldl
    (fun files (path, entry) => files.add path entry) .empty

/-- One source that is not text leaves no report, though the archive can be read. -/
theorem inspect_without_report :
    unreadableSource.files.Proper ∧
      ((Workspace.ofFile "lib" {}).sharedClasspath unreadableSource []).1.isOk ∧
      (found unreadableSource.files "src").map Prod.fst = [["A.java"]] ∧
      ∀ rows, inspect unreadableSource {} "lib" "src" none .text ≠ .ok (inspectReport "lib" rows .text) := by
  refine ⟨Files.Proper.ofList _, by decide +kernel, by decide +kernel, fun rows same => ?_⟩
  have failed : (inspect unreadableSource {} "lib" "src" none .text).isOk = false := by decide +kernel
  rw [same] at failed
  cases failed

end Law

end SymbolIndex.Command
