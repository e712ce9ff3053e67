import Mathlib.Data.List.Infix
import Mathlib.Data.List.Nodup
import Mathlib.Data.List.TakeDrop
import SymbolIndex.Command.Run

/-!
# Names of sources

The sources below a directory get their class names from their paths. **The law**
(`Command.found_names_nodup`): where files form a tree (`Files.Proper`), two sources never get one
class name. It rests on two facts: a path that is made of names is cut again into the same names
(`Path.components_render`), and writing another extension behind the last of them loses nothing
(`Command.classNameOf_injective`).

Files that were added one by one form a tree (`Files.Proper.ofList`), whatever their paths.
-/

namespace SymbolIndex

namespace Text

/-- No separator is left in what stands between two of them. -/
theorem notMem_of_mem_splitOn {separator : Char} {text piece : List Char}
    (cut : piece ∈ text.splitOn separator) : separator ∉ piece := by
  induction text generalizing piece with
  | nil =>
    obtain rfl : piece = [] := by simpa using cut
    exact List.not_mem_nil
  | cons letter text ih =>
    rw [List.splitOn_cons_eq_if_modifyHead] at cut
    split at cut
    · rcases List.mem_cons.mp cut with rfl | later
      · exact List.not_mem_nil
      · exact ih later
    · rename_i differs
      cases pieces : text.splitOn separator with
      | nil => exact absurd pieces (List.splitOn_ne_nil _ _)
      | cons first rest =>
        rw [pieces] at cut ih
        rcases List.mem_cons.mp cut with rfl | later
        · have clean := ih List.mem_cons_self
          simpa [clean] using Ne.symm (by simpa using differs)
        · exact ih (List.mem_cons_of_mem _ later)

/-- What is cut at the last separator can be put together again. -/
theorem eq_of_cutLast {separator : Char} {text before after : String}
    (cut : cutLast separator text = some (before, after)) :
    text = before ++ String.singleton separator ++ after := by
  have whole := List.takeWhile_append_dropWhile (p := fun c => decide (c ≠ separator))
    (l := text.toList.reverse)
  have stops := List.head?_dropWhile_not (fun c => decide (c ≠ separator)) text.toList.reverse
  unfold cutLast at cut
  rw [List.span_eq_takeWhile_dropWhile] at cut
  split at cut
  · rename_i last found rest same
    obtain ⟨taken, dropped⟩ := Prod.mk.inj same
    cases cut
    rw [dropped] at whole stops
    rw [taken] at whole
    obtain rfl : found = separator := by simpa using stops
    have turned := congrArg List.reverse whole
    apply String.toList_injective
    simpa using turned.symm
  · cases cut

end Text

/-! ## Paths made of names -/

namespace Path

/-- A part of a path that names a file or a directory. -/
structure IsName (part : String) : Prop where
  nonempty : part ≠ ""
  notHere : part ≠ "."
  notAbove : part ≠ ".."
  slashless : '/' ∉ part.toList

section Names

variable {names others : List String}

theorem toList_render (names : List String) :
    (render names).toList = ['/'].intercalate (names.map String.toList) :=
  String.toList_intercalate

/-- A path is cut at its slashes into the parts it was made of. -/
theorem pieces_render (slashless : ∀ name ∈ names, '/' ∉ name.toList) (some_name : names ≠ []) :
    Text.pieces '/' (render names) = names :=
  Text.pieces_intercalate slashless some_name

/-- So two lists of parts that make one path are the same. -/
theorem render_injective (slashless : ∀ name ∈ names, '/' ∉ name.toList) (some_name : names ≠ [])
    (slashlessOther : ∀ name ∈ others, '/' ∉ name.toList) (some_other : others ≠ [])
    (same : render names = render others) : names = others := by
  rw [← pieces_render slashless some_name, same, pieces_render slashlessOther some_other]

theorem parts_render (named : ∀ name ∈ names, IsName name) : parts (render names) = names := by
  cases names with
  | nil => rfl
  | cons first rest =>
    rw [parts, pieces_render (fun name listed => (named name listed).slashless) (List.cons_ne_nil _ _)]
    apply List.filter_eq_self.mpr
    intro name listed
    have known := named name listed
    simp [known.nonempty, known.notHere]

/-- A path that is made of names starts with the first of them. -/
theorem toList_render_cons (first : String) (rest : List String) :
    ∃ behind, (render (first :: rest)).toList = first.toList ++ behind := by
  rw [toList_render]
  cases rest with
  | nil => exact ⟨[], by simp [List.intercalate]⟩
  | cons second rest =>
    exact ⟨'/' :: ['/'].intercalate ((second :: rest).map String.toList), by simp [List.intercalate]⟩

/-- A path has its parts for its components, when it starts with a letter that is neither a slash nor a dot
that stands for itself. -/
theorem components_eq_parts {path : String} {letter : Char} {more : List Char}
    (letters : path.toList = letter :: more) (relative : letter ≠ '/')
    (notHere : letter = '.' → ∃ next behind, more = next :: behind ∧ next ≠ '/') :
    components path = parts path := by
  unfold components
  rw [letters]
  split
  · rename_i isSlash
    exact absurd (List.cons.inj isSlash).1 relative
  · rename_i isHere
    obtain ⟨isDot, nothing⟩ := List.cons.inj isHere
    obtain ⟨next, behind, isMore, -⟩ := notHere isDot
    rw [nothing] at isMore
    cases isMore
  · rename_i isHere
    obtain ⟨isDot, slash⟩ := List.cons.inj isHere
    obtain ⟨next, behind, isMore, other⟩ := notHere isDot
    rw [slash] at isMore
    exact absurd (List.cons.inj isMore).1.symm other
  · rfl

/-- **A path that is made of names has these for its components.** -/
theorem components_render (named : ∀ name ∈ names, IsName name) :
    components (render names) = names := by
  cases names with
  | nil => rfl
  | cons first rest =>
    have known := named first List.mem_cons_self
    have slashless := known.slashless
    obtain ⟨behind, spelled⟩ := toList_render_cons first rest
    cases letters : first.toList with
    | nil => exact absurd (String.toList_eq_nil_iff.mp letters) known.nonempty
    | cons letter more =>
      rw [letters] at spelled slashless
      rw [components_eq_parts spelled, parts_render named]
      · rintro rfl
        exact slashless List.mem_cons_self
      · rintro rfl
        cases more with
        | nil => exact absurd (String.toList_injective (letters.trans rfl)) known.notHere
        | cons next more =>
          refine ⟨next, more ++ behind, rfl, ?_⟩
          rintro rfl
          exact slashless (List.mem_cons_of_mem _ List.mem_cons_self)

theorem fileName?_render (named : ∀ name ∈ names, IsName name) :
    fileName? (render names) = names.getLast? := by
  rw [fileName?, components_render named]
  cases last : names.getLast? with
  | none => rfl
  | some name =>
    have known := named name (List.mem_of_getLast? last)
    have notRoot : name ≠ "/" := by
      rintro rfl
      exact known.slashless (by decide)
    simp [known.notHere, known.notAbove, notRoot]

end Names

end Path

/-! ## Files that form a tree -/

namespace Files

/-- The path of a file, and nothing for a directory. -/
def filePath? : List String × FileEntry → Option (List String)
  | (parts, .file _ _) => some parts
  | (_, .directory) => none

/-- Paths are made of names, and no two files have the same. -/
structure Proper (files : Files) : Prop where
  named : ∀ entry ∈ files.entries, ∀ part ∈ entry.1, Path.IsName part
  distinct : (files.entries.filterMap filePath?).Nodup

/-- Where there are no files, none has a bad path or one that another has. -/
theorem proper_empty : empty.Proper := ⟨by simp [empty], by simp [empty]⟩

/-- The directory that the empty files are seen from is made of names. -/
theorem isName_work : ∀ part ∈ empty.directory, Path.IsName part := by
  intro part listed
  obtain rfl := List.mem_singleton.mp listed
  exact ⟨by decide, by decide, by decide, by decide⟩

/-- What the directories on a way and its end are made of. -/
theorem trail_named {directory parts : List String} (start : ∀ part ∈ directory, Path.IsName part)
    (way : ∀ part ∈ parts, part ≠ ".." → Path.IsName part) :
    (∀ part ∈ (trail directory parts).1, Path.IsName part) ∧
      ∀ passed ∈ (trail directory parts).2, ∀ part ∈ passed, Path.IsName part := by
  induction parts generalizing directory with
  | nil => exact ⟨start, by simp [trail]⟩
  | cons part rest ih =>
    have next : ∀ name ∈ (if part == ".." then directory.dropLast else directory ++ [part]),
        Path.IsName name := by
      intro name listed
      by_cases above : part = ".."
      · rw [if_pos (by simpa using above)] at listed
        exact start name (List.mem_of_mem_dropLast listed)
      · rw [if_neg (by simpa using above), List.mem_append, List.mem_singleton] at listed
        rcases listed with listed | rfl
        · exact start name listed
        · exact way name List.mem_cons_self above
    obtain ⟨target, passed⟩ := ih next fun name listed => way name (List.mem_cons_of_mem _ listed)
    simp only [trail, List.forall_mem_cons]
    exact ⟨target, next, passed⟩

/-- The parts of a path are names, but for the steps up. -/
theorem isName_of_mem_parts {path part : String} (listed : part ∈ Path.parts path) (stays : part ≠ "..") :
    Path.IsName part := by
  rw [Path.parts, List.mem_filter] at listed
  obtain ⟨piece, counts⟩ := listed
  obtain ⟨letters, cut, rfl⟩ := List.mem_map.mp piece
  refine ⟨?_, ?_, stays, ?_⟩
  · rintro empty
    simp [empty] at counts
  · rintro dot
    simp [dot] at counts
  · rw [String.toList_ofList]
    exact Text.notMem_of_mem_splitOn cut

/-- A path starts at the root or in the working directory. -/
theorem startOf_named {files : Files} (working : ∀ part ∈ files.directory, Path.IsName part)
    (path : String) : ∀ part ∈ files.startOf path, Path.IsName part := by
  unfold startOf
  split
  · simp
  · exact working

/-- **Adding keeps the tree**: what stood under the path is replaced. -/
theorem Proper.add {files : Files} (proper : files.Proper)
    (working : ∀ part ∈ files.directory, Path.IsName part) (path : String) (entry : FileEntry) :
    (files.add path entry).Proper := by
  have way : ∀ part ∈ Path.parts path, part ≠ ".." → Path.IsName part :=
    fun part listed => isName_of_mem_parts listed
  obtain ⟨targetNamed, passedNamed⟩ := trail_named (startOf_named working path) way
  unfold Files.add
  generalize trail (files.startOf path) (Path.parts path) = led at targetNamed passedNamed ⊢
  obtain ⟨target, passed⟩ := led
  constructor
  · intro found listed part among
    simp only [List.mem_append, List.mem_filter, List.mem_map, List.mem_singleton] at listed
    rcases listed with (⟨old, -⟩ | ⟨made, ⟨on_way, -⟩, rfl⟩) | rfl
    · exact proper.named found old part among
    · exact passedNamed made on_way part among
    · exact targetNamed part among
  · have made (directories : List (List String)) :
        (directories.map fun parts => (parts, FileEntry.directory)).filterMap filePath? = [] := by
      rw [List.filterMap_eq_nil_iff]
      intro found listed
      obtain ⟨parts, -, rfl⟩ := List.mem_map.mp listed
      rfl
    have others : ((files.entries.filter (·.1 != target)).filterMap filePath?).Nodup :=
      proper.distinct.sublist (List.filter_sublist.filterMap _)
    show (_ ++ _ ++ [_]).filterMap filePath? |>.Nodup
    rw [List.filterMap_append, List.filterMap_append, made, List.append_nil]
    refine others.append ?_ ?_
    · cases entry with
      | directory => exact List.nodup_nil
      | file content executable => exact List.nodup_singleton target
    · intro parts old new
      obtain ⟨⟨oldParts, oldEntry⟩, kept, isOld⟩ := List.mem_filterMap.mp old
      have differs : oldParts ≠ target := by simpa using (List.mem_filter.mp kept).2
      cases entry with
      | directory => simp [filePath?] at new
      | file content executable =>
        cases oldEntry with
        | directory => cases isOld
        | file oldContent oldExecutable =>
          cases isOld
          exact differs (by simpa [filePath?] using new)

/-- Files that were added one by one form a tree. Adding leaves the working directory as it is. -/
theorem Proper.ofList (additions : List (String × FileEntry)) :
    (additions.foldl (fun files (path, entry) => files.add path entry) empty).Proper := by
  suffices grows : ∀ files : Files, files.Proper → (∀ part ∈ files.directory, Path.IsName part) →
      (additions.foldl (fun files (path, entry) => files.add path entry) files).Proper from
    grows empty proper_empty isName_work
  induction additions with
  | nil => exact fun files proper _ => proper
  | cons addition rest ih =>
    intro files proper working
    exact ih _ (proper.add working addition.1 addition.2) working

section Walk

variable {files : Files}

/-- What one selection chooses is, by its image, among what a wider one chooses. -/
theorem map_filterMap_sublist {α β γ : Type} {narrow : α → Option β} {wide : α → Option γ} {image : β → γ}
    (covers : ∀ item choice, narrow item = some choice → wide item = some (image choice)) (items : List α) :
    ((items.filterMap narrow).map image).Sublist (items.filterMap wide) := by
  induction items with
  | nil => exact List.Sublist.slnil
  | cons item rest ih =>
    cases chosen : narrow item with
    | some choice =>
      rw [List.filterMap_cons_some chosen, List.filterMap_cons_some (covers item choice chosen)]
      exact ih.cons_cons _
    | none =>
      rw [List.filterMap_cons_none chosen]
      cases other : wide item with
      | some choice =>
        rw [List.filterMap_cons_some other]
        exact ih.cons _
      | none =>
        rw [List.filterMap_cons_none other]
        exact ih

/-- A walk finds files under their paths, and each of them once. -/
theorem walk_paths (files : Files) (path : String) :
    ∃ base, (∀ found ∈ files.walk path, found.1 = [] ∨ base ++ found.1 ∈ files.entries.filterMap filePath?) ∧
      ((files.entries.filterMap filePath?).Nodup → ((files.walk path).map Prod.fst).Nodup) := by
  unfold walk
  split
  · exact ⟨[], by simp, by simp⟩
  · exact ⟨[], by simp, by simp⟩
  · rename_i base _
    -- What is found below the base is an entry, whose path is the base followed by the one found.
    set below := files.entries.filterMap _ with known
    have chosen : (below.map fun found => base ++ found.1).Sublist (files.entries.filterMap filePath?) := by
      rw [known]
      apply map_filterMap_sublist
      rintro ⟨parts, entry⟩ found same
      cases entry with
      | directory => cases same
      | file content executable =>
        simp only [Option.ite_none_right_eq_some, Option.some.injEq, List.isPrefixOf_iff_prefix] at same
        obtain ⟨⟨own, rfl⟩, rfl⟩ := same
        simp [filePath?]
    refine ⟨base, fun found listed => ?_, fun distinct => ?_⟩
    · apply Or.inr
      apply chosen.subset
      exact List.mem_map_of_mem (f := fun found : List String × Content => base ++ found.1)
        (List.mem_mergeSort.mp listed)
    · rw [((List.mergeSort_perm below _).map Prod.fst).nodup_iff]
      apply List.Nodup.of_map (base ++ ·)
      rw [List.map_map]
      exact distinct.sublist chosen

/-- What is found in a tree has a path made of names. -/
theorem Proper.walk_named (proper : files.Proper) {path : String} {found : List String × Content}
    (listed : found ∈ files.walk path) : ∀ part ∈ found.1, Path.IsName part := by
  obtain ⟨base, paths, -⟩ := walk_paths files path
  intro part among
  rcases paths found listed with empty | member
  · rw [empty] at among
    cases among
  · obtain ⟨⟨parts, entry⟩, member, same⟩ := List.mem_filterMap.mp member
    cases entry with
    | directory => cases same
    | file content executable =>
      cases same
      exact proper.named _ member part (List.mem_append_right base among)

theorem Proper.walk_nodup (proper : files.Proper) (path : String) :
    ((files.walk path).map Prod.fst).Nodup :=
  (walk_paths files path).choose_spec.2 proper.distinct

end Walk

end Files

/-! ## Class names -/

theorem ClassName.withDecompiler_injective (decompiler : Option String) :
    Function.Injective fun name => withDecompiler name decompiler := by
  intro first second same
  cases decompiler with
  | none => exact same
  | some tag =>
    simp only [withDecompiler] at same
    split at same
    · exact same
    · simpa [String.append_left_inj, ← String.toList_inj] using same

namespace Command

/-- The sources below a directory, in the order they are met. -/
def found (files : Files) (sources : String) : List (List String × Content) :=
  (files.walk sources).filter fun (parts, _) => isSource sources parts

/-- The class file beside a source. -/
def classFile (stem : String) : String :=
  if stem == "." then ".." else stem ++ "." ++ "class"

section Names

variable {parts others : List String} {stem : String}

/-- A source has a name with its extension behind it. -/
theorem exists_stem {sources : String} (named : ∀ part ∈ parts, Path.IsName part) (some_part : parts ≠ [])
    (source : isSource sources parts) :
    ∃ directory stem, parts = directory ++ [stem ++ ".java"] ∧
      Path.componentsWithExtension (Path.render parts) "class" = directory ++ [classFile stem] := by
  obtain ⟨directory, name, rfl⟩ := List.eq_nil_or_concat' parts |>.resolve_left some_part
  have file : Path.fileName? (Path.render (directory ++ [name])) = some name := by
    rw [Path.fileName?_render named, List.getLast?_concat]
  have extension : (Path.splitName name).2 = some "java" := by
    simpa [isSource, Path.extension?, file] using source
  unfold Path.splitName at extension
  split at extension
  · rename_i stem ending cut
    split at extension
    · cases extension
    · rename_i filled
      obtain rfl : ending = "java" := by simpa using extension
      refine ⟨directory, stem, ?_, ?_⟩
      · rw [Text.eq_of_cutLast cut, String.append_assoc]
        rfl
      · have split_name : Path.splitName name = (stem, some "java") := by
          simp only [Path.splitName, cut, if_neg filled]
        simp [Path.componentsWithExtension, file, split_name, Path.components_render named, classFile]
  · cases extension

/-- No two stems have one class file. -/
theorem classFile_injective : Function.Injective classFile := by
  have differs : ∀ stem : String, stem ++ "." ++ "class" ≠ ".." := by
    intro stem same
    have ending := congrArg (fun text : String => text.toList.getLast?) same
    simp at ending
  intro first second same
  unfold classFile at same
  split at same <;> split at same
  · rename_i here there
    simp only [beq_iff_eq] at here there
    rw [here, there]
  · exact absurd same.symm (differs second)
  · exact absurd same (differs first)
  · simpa [← String.toList_inj] using same

theorem classFile_slashless {stem : String} (slashless : '/' ∉ stem.toList) : '/' ∉ (classFile stem).toList := by
  unfold classFile
  split
  · decide
  · simpa using slashless

theorem classFile_ne_empty (stem : String) : classFile stem ≠ "" := by
  unfold classFile
  split
  · decide
  · simp

/-- The class path of a source is made of parts without slashes, and the last is not empty. -/
theorem render_classFile_ne_empty {directory : List String}
    (slashless : ∀ name ∈ directory ++ [classFile stem], '/' ∉ name.toList) :
    Path.render (directory ++ [classFile stem]) ≠ "" := by
  intro empty
  have cut := Path.pieces_render slashless (by simp)
  rw [empty] at cut
  have last := congrArg List.getLast? cut
  rw [List.getLast?_concat] at last
  exact classFile_ne_empty stem (Option.some.inj last.symm)

/-- **Different sources get different class names.** -/
theorem classNameOf_injective {sources : String} (decompiler : Option String)
    (named : ∀ part ∈ parts, Path.IsName part) (source : isSource sources parts)
    (namedOther : ∀ part ∈ others, Path.IsName part) (sourceOther : isSource sources others)
    (same : classNameOf (Path.render parts) decompiler = classNameOf (Path.render others) decompiler) :
    parts = others := by
  have files := ClassName.withDecompiler_injective decompiler same
  have slashless : ∀ {directory : List String} {stem : String},
      (∀ part ∈ directory ++ [stem ++ ".java"], Path.IsName part) →
        ∀ name ∈ directory ++ [classFile stem], '/' ∉ name.toList := by
    intro directory stem named name listed
    rcases List.mem_append.mp listed with inside | last
    · exact (named name (List.mem_append_left _ inside)).slashless
    · obtain rfl := List.mem_singleton.mp last
      have known := (named _ (List.mem_append_right directory (List.mem_singleton_self _))).slashless
      apply classFile_slashless
      simp at known
      exact known
  -- The source directory may itself be the one source: then its path is empty, as no other is.
  by_cases root : parts = []
  · subst root
    by_contra differs
    obtain ⟨directory, stem, rfl, written⟩ := exists_stem namedOther (Ne.symm differs) sourceOther
    rw [written] at files
    exact render_classFile_ne_empty (slashless namedOther) files.symm
  · obtain ⟨directory, stem, rfl, written⟩ := exists_stem named root source
    rw [written] at files
    by_cases rootOther : others = []
    · subst rootOther
      exact absurd files (render_classFile_ne_empty (slashless named))
    · obtain ⟨directoryOther, stemOther, rfl, writtenOther⟩ :=
        exists_stem namedOther rootOther sourceOther
      rw [writtenOther] at files
      have equal := Path.render_injective (slashless named) (by simp) (slashless namedOther) (by simp) files
      obtain ⟨rfl, lasts⟩ := List.append_inj' equal rfl
      rw [classFile_injective (List.singleton_injective lasts)]

/-- **No two sources below a directory have one class name.** -/
theorem found_names_nodup {files : Files} (proper : files.Proper) (sources : String)
    (decompiler : Option String) :
    ((found files sources).map fun file => classNameOf (Path.render file.1) decompiler).Nodup := by
  have paths : ((found files sources).map Prod.fst).Nodup :=
    (proper.walk_nodup sources).sublist (List.filter_sublist.map _)
  have names : ((found files sources).map fun file => classNameOf (Path.render file.1) decompiler) =
      ((found files sources).map Prod.fst).map fun parts => classNameOf (Path.render parts) decompiler := by
    rw [List.map_map]
    rfl
  have known : ∀ parts ∈ (found files sources).map Prod.fst,
      (∀ part ∈ parts, Path.IsName part) ∧ isSource sources parts := by
    intro parts listed
    obtain ⟨file, member, rfl⟩ := List.mem_map.mp listed
    obtain ⟨walked, source⟩ := List.mem_filter.mp member
    exact ⟨proper.walk_named walked, source⟩
  rw [names]
  apply paths.map_on
  intro first listed second listedOther same
  obtain ⟨named, source⟩ := known first listed
  obtain ⟨namedOther, sourceOther⟩ := known second listedOther
  exact classNameOf_injective decompiler named source namedOther sourceOther same

end Names

end Command

end SymbolIndex
