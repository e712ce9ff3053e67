import SymbolIndex.Archive
import SymbolIndex.Proofs.Decoding
import SymbolIndex.Proofs.MemberSearch

/-!
# What a scan keeps of an archive

An entry of a zip archive says something when it lies below the root, passes the filter without the root,
and is a class file (`Declares`). A scan goes through the entries one by one and adds what each of them
declares, so the source that it leaves is that of the declarations in order (`foldl_addEntry_source`); the
name of an entry has no part in the path of its class.

`Keeps` says what such a source shows in terms of the entries alone, and `scanZip_keeps` is the law: a
scan ends with a source that keeps the entries, and entries that declare nothing leave no trace in it.
-/

namespace SymbolIndex.Archive

variable {settings : ResolutionSettings} {root : String}

/-- An entry that lies below the root, passes the filter and is the class file of the declaration. -/
def Declares (settings : ResolutionSettings) (root : String) (entry : Zip.Entry) (decl : TypeDecl) :
    Prop :=
  ∃ name, entry.1 = root ++ name ∧ settings.scansEntry name = true ∧ ClassFile.parse entry.2 = .ok decl

/-- What an entry declares, if anything. -/
def declared? (settings : ResolutionSettings) (root : String) (entry : Zip.Entry) : Option TypeDecl :=
  match dropStart? root entry.1 with
  | some name => if settings.scansEntry name then (ClassFile.parse entry.2).toOption else none
  | none => none

/-! ## One entry -/

/-- A start is dropped from the texts that begin with it. -/
theorem dropStart?_eq_some_iff {start text rest : String} :
    dropStart? start text = some rest ↔ text = start ++ rest := by
  rw [dropStart?]
  constructor
  · intro dropped
    split at dropped
    · rename_i starts
      rw [List.isPrefixOf_iff_prefix, List.prefix_iff_eq_append] at starts
      cases dropped
      apply String.toList_injective
      rw [String.toList_append, String.toList_ofList]
      exact starts.symm
    · cases dropped
  · rintro rfl
    have starts : start.toList.isPrefixOf (start ++ rest).toList = true := by
      rw [String.toList_append, List.isPrefixOf_iff_prefix]
      exact List.prefix_append _ _
    rw [if_pos starts, String.toList_append, ← String.length_toList, List.drop_left,
      String.ofList_toList]

/-- What an entry declares can be computed. -/
theorem declared?_eq_some_iff {entry : Zip.Entry} {decl : TypeDecl} :
    declared? settings root entry = some decl ↔ Declares settings root entry decl := by
  constructor
  · intro declared
    rw [declared?] at declared
    split at declared
    · rename_i name below
      split at declared
      · rename_i scanned
        refine ⟨name, dropStart?_eq_some_iff.mp below, scanned, ?_⟩
        cases parsed : ClassFile.parse entry.2 with
        | ok read =>
          rw [parsed] at declared
          cases declared
          rfl
        | error error =>
          rw [parsed] at declared
          cases declared
      · cases declared
    · cases declared
  · rintro ⟨name, below, scanned, parsed⟩
    rw [declared?, dropStart?_eq_some_iff.mpr below]
    simp only [scanned, parsed, if_true]
    rfl

/-- An entry declares nothing when it is skipped, stands elsewhere or cannot be read. -/
theorem declared?_eq_none_iff {entry : Zip.Entry} :
    declared? settings root entry = none ↔ ∀ decl, ¬Declares settings root entry decl := by
  rw [Option.eq_none_iff_forall_not_mem]
  exact forall_congr' fun decl => not_congr declared?_eq_some_iff

/-- One entry adds what it declares. Of an archive, its path goes into the warnings alone. -/
theorem addEntry_source (path : String) (archive : Archive) (entry : Zip.Entry) :
    (addEntry settings path root archive entry).source =
      (declared? settings root entry).elim archive.source archive.source.add := by
  rw [addEntry, declared?]
  cases dropStart? root entry.1 with
  | none => rfl
  | some name =>
    by_cases scanned : settings.scansEntry name = true
    · simp only [if_pos scanned, addClass]
      cases ClassFile.parse entry.2 <;> rfl
    · simp only [if_neg scanned, Option.elim_none]

/-! ## All of them -/

/-- The entries add their declarations in order. -/
theorem foldl_addEntry_source (path : String) (archive : Archive) (entries : List Zip.Entry) :
    (entries.foldl (addEntry settings path root) archive).source =
      (entries.filterMap (declared? settings root)).foldl TypeSource.add archive.source := by
  induction entries generalizing archive with
  | nil => rfl
  | cons entry others ih =>
    rw [List.foldl_cons, ih, addEntry_source]
    cases known : declared? settings root entry with
    | none => rw [List.filterMap_cons_none known, Option.elim_none]
    | some decl => rw [List.filterMap_cons_some known, Option.elim_some, List.foldl_cons]

/-- What a source shows when it keeps the last declaration of each path, over all entries of an archive. -/
structure Keeps (settings : ResolutionSettings) (root : String) (entries : List Zip.Entry)
    (source : TypeSource) : Prop where
  /-- Declarations are listed under their own paths. -/
  keyed : ∀ path decl, source.type? path = some decl → decl.path = path
  /-- A path leads to the declaration of an entry that no later one replaces. -/
  last : ∀ path decl, source.type? path = some decl ↔
    ∃ before entry behind, entries = before ++ entry :: behind ∧
      Declares settings root entry decl ∧ decl.path = path ∧
      ∀ later ∈ behind, ∀ other, Declares settings root later other → other.path ≠ path
  /-- A path is unknown when no entry declares it, and only then. -/
  unknown : ∀ path, source.type? path = none ↔
    ∀ entry ∈ entries, ∀ decl, Declares settings root entry decl → decl.path ≠ path
  /-- The known paths, each once, in the order of their bytes. -/
  ascending : source.paths.Pairwise fun first second =>
    first.toUTF8.data.toList < second.toUTF8.data.toList
  listed : ∀ path, path ∈ source.paths ↔ (source.type? path).isSome

/-- Whether an entry declares the path. -/
def declaresPath (settings : ResolutionSettings) (root path : String) (entry : Zip.Entry) : Bool :=
  (declared? settings root entry).any (·.path == path)

theorem declaresPath_eq_false_iff {path : String} {entry : Zip.Entry} :
    declaresPath settings root path entry = false ↔
      ∀ decl, Declares settings root entry decl → decl.path ≠ path := by
  simp only [declaresPath, ← declared?_eq_some_iff]
  cases declared? settings root entry <;> simp

/-- Of the entries that declare a path, the last one is asked for it. -/
theorem type?_ofDeclared_eq_some_iff {name path : String} {entries : List Zip.Entry} {decl : TypeDecl} :
    (TypeSource.ofDecls name (entries.filterMap (declared? settings root))).type? path = some decl ↔
      ∃ before entry behind, entries = before ++ entry :: behind ∧
        Declares settings root entry decl ∧ decl.path = path ∧
        ∀ later ∈ behind, ∀ other, Declares settings root later other → other.path ≠ path := by
  have asked : (TypeSource.ofDecls name (entries.filterMap (declared? settings root))).type? path =
      (entries.reverse.find? (declaresPath settings root path)).bind (declared? settings root) := by
    rw [Classpath.type?_ofDecls, ← List.filterMap_reverse, List.find?_filterMap]
    rfl
  rw [asked, Option.bind_eq_some_iff]
  constructor
  · rintro ⟨entry, found, declared⟩
    obtain ⟨named, behind, before, parted, silent⟩ := List.find?_eq_some_iff_append.mp found
    refine ⟨before.reverse, entry, behind.reverse, ?_, declared?_eq_some_iff.mp declared, ?_, ?_⟩
    · simpa using List.reverse_eq_iff.mp parted
    · simpa [declaresPath, declared] using named
    · intro later member
      have quiet := silent later (List.mem_reverse.mp member)
      exact declaresPath_eq_false_iff.mp (Bool.not_eq_true' _ ▸ quiet)
  · rintro ⟨before, entry, behind, rfl, declares, named, silent⟩
    have declared := declared?_eq_some_iff.mpr declares
    refine ⟨entry, List.find?_eq_some_iff_append.mpr ⟨?_, behind.reverse, before.reverse, ?_, ?_⟩,
      declared⟩
    · simp [declaresPath, declared, named]
    · simp
    · intro later member
      have quiet := declaresPath_eq_false_iff.mpr (silent later (List.mem_reverse.mp member))
      rw [quiet, Bool.not_false]

/-- A path is unknown to the source just when no entry declares it. -/
theorem type?_ofDeclared_eq_none_iff {name path : String} {entries : List Zip.Entry} :
    (TypeSource.ofDecls name (entries.filterMap (declared? settings root))).type? path = none ↔
      ∀ entry ∈ entries, ∀ decl, Declares settings root entry decl → decl.path ≠ path := by
  rw [Classpath.type?_ofDecls, List.find?_eq_none]
  constructor
  · intro silent entry member decl declares named
    refine silent decl ?_ (beq_iff_eq.mpr named)
    rw [List.mem_reverse, List.mem_filterMap]
    exact ⟨entry, member, declared?_eq_some_iff.mpr declares⟩
  · intro silent decl listed named
    rw [List.mem_reverse, List.mem_filterMap] at listed
    obtain ⟨entry, member, declared⟩ := listed
    exact silent entry member decl (declared?_eq_some_iff.mp declared) (beq_iff_eq.mp named)

/-- **The source keeps the class entries**: the last declaration of each path, and no other paths. -/
theorem ofDeclared_keeps (name : String) (entries : List Zip.Entry) :
    Keeps settings root entries
      (TypeSource.ofDecls name (entries.filterMap (declared? settings root))) where
  keyed := Classpath.ofDecls_keyed name _
  last _ _ := type?_ofDeclared_eq_some_iff
  unknown _ := type?_ofDeclared_eq_none_iff
  ascending := Text.keys_ascend _
  listed path := by
    rw [TypeSource.paths, Std.TreeMap.mem_keys, Std.TreeMap.mem_iff_isSome_getElem?]
    rfl

/-- Entries that declare nothing can be left out. -/
theorem filterMap_declared?_filter {entries : List Zip.Entry} {keep : Zip.Entry → Bool}
    (kept : ∀ entry ∈ entries, ∀ decl, Declares settings root entry decl → keep entry = true) :
    (entries.filter keep).filterMap (declared? settings root) =
      entries.filterMap (declared? settings root) := by
  rw [List.filterMap_filter]
  refine List.filterMap_congr fun entry member => ?_
  split
  · rfl
  · rename_i left
    refine (declared?_eq_none_iff.mpr fun decl declares => ?_).symm
    exact left (kept entry member decl declares)

/-! ## A scan -/

section Scan

variable {files : Files} {path : String} {content : Content} {entries : List Zip.Entry}

/-- A scan of an archive that can be read ends with the source of its declarations. -/
theorem scanZip_eq (settings : ResolutionSettings) (root name : String)
    (read : files.read path = .ok content) (zipped : content.zipEntries = .ok entries) :
    ∃ archive, scanZip files settings path root (empty name) = .ok archive ∧
      archive.source = TypeSource.ofDecls name (entries.filterMap (declared? settings root)) := by
  refine ⟨entries.foldl (addEntry settings path root) (empty name), ?_, ?_⟩
  · simp only [scanZip, read, zipped]
  · rw [foldl_addEntry_source]
    rfl

/-- **A scan keeps the class entries.** It ends with a source that shows the last declaration of each
path, and an archive that lacks entries which declare nothing, wherever it lies, leaves the same source. -/
theorem scanZip_keeps (settings : ResolutionSettings) (root name : String)
    (read : files.read path = .ok content) (zipped : content.zipEntries = .ok entries) :
    ∃ archive, scanZip files settings path root (empty name) = .ok archive ∧
      Keeps settings root entries archive.source ∧
      ∀ keep : Zip.Entry → Bool,
        (∀ entry ∈ entries, ∀ decl, Declares settings root entry decl → keep entry = true) →
        ∀ (others : Files) (place : String) (fewer : Content),
          others.read place = .ok fewer → fewer.zipEntries = .ok (entries.filter keep) →
          ∃ thinned, scanZip others settings place root (empty name) = .ok thinned ∧
            thinned.source = archive.source := by
  obtain ⟨archive, scanned, source⟩ := scanZip_eq settings root name read zipped
  refine ⟨archive, scanned, source ▸ ofDeclared_keeps name entries, ?_⟩
  intro keep kept others place fewer readToo zippedToo
  obtain ⟨thinned, scannedToo, sourceToo⟩ := scanZip_eq settings root name readToo zippedToo
  refine ⟨thinned, scannedToo, ?_⟩
  rw [sourceToo, source, filterMap_declared?_filter kept]

end Scan

/-! ## An archive with entries of all sorts -/

/-- A class file without members, whose pool has the classes `p/A` at 2 and `p/B` at 4. -/
def plainClass (this super : UInt8) : List UInt8 :=
  [0xca, 0xfe, 0xba, 0xbe, 0, 0, 0, 0x34, 0, 5, 1, 0, 3, 0x70, 0x2f, 0x41, 7, 0, 1, 1, 0, 3, 0x70, 0x2f,
    0x42, 7, 0, 3, 0, 0x21, 0, this, 0, super, 0, 0, 0, 0, 0, 0, 0, 0]

/-- Two entries for `p/A`, the later one under another name, then a file that is cut off, one that is
skipped and one outside of the root. -/
def mixedEntries : List Zip.Entry :=
  [("classes/p/B.class", plainClass 4 0), ("classes/p/A.class", plainClass 2 0),
    ("classes/q/Z.class", plainClass 2 4), ("classes/p/Cut.class", [0xca, 0xfe]),
    ("classes/META-INF/p/A.class", plainClass 2 0), ("p/A.class", plainClass 2 0)]

/-- An archive with the given entries and nothing else. -/
def holding (entries : List Zip.Entry) : Files where
  entries := [(["app.jar"], .file (.archive [] entries) false)]
  directory := []

/-- The archive is read under its name, whatever entries it has. -/
theorem read_holding (entries : List Zip.Entry) :
    (holding entries).read "app.jar" = .ok (.archive [] entries) := by
  have parts : Path.parts "app.jar" = ["app.jar"] := by decide +kernel
  have start : (holding entries).startOf "app.jar" = [] := ite_self []
  have noSlash : Files.namesDirectory "app.jar" = false := by decide +kernel
  have size : "app.jar".utf8ByteSize = 7 := by decide +kernel
  rw [Files.read, Files.locate, start, parts]
  simp [noSlash, size, Files.follow, Files.entryAt?, holding, Files.maxPath, Files.maxName]

/-- The later of two entries counts, and the last three of all entries leave no trace. -/
theorem scanZip_keeps_mixedEntries :
    ∃ archive, scanZip (holding mixedEntries) {} "app.jar" "classes/" (empty "app") = .ok archive ∧
      archive.source.type? "p/A" = some ⟨"p/A", some "p/B", [], [], [], true⟩ ∧
      archive.source.paths = ["p/A", "p/B"] ∧
      ∃ thinned, scanZip (holding (mixedEntries.take 3)) {} "app.jar" "classes/" (empty "app") =
          .ok thinned ∧
        thinned.source = archive.source := by
  obtain ⟨archive, scanned, -, thins⟩ :=
    scanZip_keeps {} "classes/" "app" (read_holding mixedEntries) rfl
  have shown : ((scanZip (holding mixedEntries) {} "app.jar" "classes/" (empty "app")).toOption.map
      fun archive => (archive.source.type? "p/A", archive.source.paths)) =
        some (some ⟨"p/A", some "p/B", [], [], [], true⟩, ["p/A", "p/B"]) := by
    decide +kernel
  rw [scanned] at shown
  obtain ⟨type, paths⟩ := Prod.mk.inj (Option.some.inj shown)
  have left : mixedEntries.take 3 =
      mixedEntries.filter fun entry => (declared? {} "classes/" entry).isSome := by
    decide +kernel
  refine ⟨archive, scanned, type, paths, ?_⟩
  refine thins (fun entry => (declared? {} "classes/" entry).isSome) ?_
    (holding (mixedEntries.take 3)) "app.jar" _ (read_holding _) (congrArg Except.ok left)
  intro entry _ decl declares
  exact Option.isSome_of_eq_some (declared?_eq_some_iff.mpr declares)

end SymbolIndex.Archive
