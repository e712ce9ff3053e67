import Mathlib.Data.List.TakeWhile
import SymbolIndex.Proofs.SourceNames

/-!
# Class names are read back

A class is named by the path of its source, with the decompiler behind a hyphen when there is one to name.
The stem of the source and the decompiler are read off that name again: the decompiler is what follows the
last hyphen behind the last slash, and the stem stands in front of the last dot before it.

**The law** (`Command.classNameOf_decodes`): with a decompiler both are read back, whatever the path and the
stem look like. Without one they are read back when the stem has no hyphen. A hyphen in the stem counts as
the mark all the same, since the name does not say who wrote it: what follows it is taken for the decompiler
(`Command.hyphen_in_stem_marks`), and nothing is said of the stem.
-/

namespace SymbolIndex

namespace Text

variable {separator : Char} {text before after : String}

/-- The text is empty or ends with the separator, so that what is written behind it stands alone. -/
def Closed (separator : Char) (text : String) : Prop :=
  ∀ letter ∈ text.toList.getLast?, letter = separator

theorem ne_of_mem_reverse (clean : separator ∉ after.toList) {letter : Char}
    (listed : letter ∈ after.toList.reverse) : letter ≠ separator := by
  rintro rfl
  exact clean (List.mem_reverse.mp listed)

/-- What has no separator is the last piece, behind whatever ends with one. -/
theorem lastPiece_append (closed : Closed separator before) (clean : separator ∉ after.toList) :
    lastPiece (· == separator) (before ++ after) = after := by
  have stops : before.toList.reverse.takeWhile (fun c => !(c == separator)) = [] := by
    cases letters : before.toList.reverse with
    | nil => rfl
    | cons last front =>
      obtain rfl : last = separator := by
        apply closed
        rw [← List.head?_reverse, letters]
        rfl
      simp
  have passes : ∀ c ∈ after.toList.reverse, (!(c == separator)) = true := by
    intro c listed
    simpa using ne_of_mem_reverse clean listed
  rw [lastPiece, String.toList_append, List.reverse_append, List.takeWhile_append_of_pos passes, stops,
    List.append_nil, List.reverse_reverse, String.ofList_toList]

/-- A text with a separator is cut in front of its last piece. -/
theorem eq_lastPiece (marked : separator ∈ text.toList) :
    ∃ front, text = front ++ String.singleton separator ++ lastPiece (· == separator) text ∧
      separator ∉ (lastPiece (· == separator) text).toList := by
  have clean : separator ∉ (lastPiece (· == separator) text).toList := by
    intro listed
    rw [lastPiece, String.toList_ofList, List.mem_reverse] at listed
    simpa using List.mem_takeWhile_imp listed
  have whole := List.takeWhile_append_dropWhile (p := fun c => !(c == separator)) (l := text.toList.reverse)
  have stops := List.head?_dropWhile_not (fun c => !(c == separator)) text.toList.reverse
  cases rest : text.toList.reverse.dropWhile (fun c => !(c == separator)) with
  | nil =>
    have all := List.dropWhile_eq_nil_iff.mp rest separator (List.mem_reverse.mpr marked)
    simp at all
  | cons found front =>
    rw [rest] at whole stops
    obtain rfl : found = separator := by simpa using stops
    refine ⟨String.ofList front.reverse, ?_, clean⟩
    apply String.toList_injective
    have turned := congrArg List.reverse whole
    simpa [lastPiece] using turned.symm

/-- The last separator is where a piece without one begins. -/
theorem cutLast_append (before : String) (clean : separator ∉ after.toList) :
    cutLast separator (before ++ String.singleton separator ++ after) = some (before, after) := by
  have passes : ∀ c ∈ after.toList.reverse, decide (c ≠ separator) = true := by
    intro c listed
    simpa using ne_of_mem_reverse clean listed
  have letters : (before ++ String.singleton separator ++ after).toList.reverse =
      after.toList.reverse ++ separator :: before.toList.reverse := by simp
  have span : (before ++ String.singleton separator ++ after).toList.reverse.span (· ≠ separator) =
      (after.toList.reverse, separator :: before.toList.reverse) := by
    rw [letters, List.span_eq_takeWhile_dropWhile, List.takeWhile_append_of_pos passes,
      List.dropWhile_append_of_pos passes]
    simp
  rw [cutLast, span]
  simp

theorem cutLast_eq_none (clean : separator ∉ text.toList) : cutLast separator text = none := by
  cases cut : cutLast separator text with
  | none => rfl
  | some parts =>
    obtain ⟨before, after⟩ := parts
    exact absurd (by simp [eq_of_cutLast cut]) clean

end Text

/-! ## The last part of a path -/

namespace Path

/-- A path ends with its last part, and what stands in front of it ends with a slash. -/
theorem render_concat (directory : List String) (file : String) :
    ∃ front, Text.Closed '/' front ∧ render (directory ++ [file]) = front ++ file := by
  induction directory with
  | nil =>
    refine ⟨"", by simp [Text.Closed], ?_⟩
    apply String.toList_injective
    simp [toList_render, List.intercalate]
  | cons first directory ih =>
    obtain ⟨front, closed, written⟩ := ih
    refine ⟨first ++ "/" ++ front, ?_, ?_⟩
    · intro letter last
      cases letters : front.toList.getLast? with
      | none => simpa [List.getLast?_cons, letters, eq_comm] using last
      | some own =>
        rw [closed own letters] at letters
        simpa [List.getLast?_cons, letters, eq_comm] using last
    · apply String.toList_injective
      have behind := congrArg String.toList written
      rw [toList_render] at behind
      obtain ⟨second, rest, parts⟩ : ∃ second rest, directory ++ [file] = second :: rest :=
        List.exists_cons_of_ne_nil (by simp)
      rw [parts] at behind
      rw [List.cons_append, toList_render, parts]
      simp only [List.map_cons, String.toList_append] at behind ⊢
      rw [List.append_assoc, ← behind]
      simp [List.intercalate]

/-- A file is named by the last component, which has no slash. -/
theorem components_of_fileName? {path name : String} (file : fileName? path = some name) :
    components path = (components path).dropLast ++ [name] ∧ '/' ∉ name.toList := by
  unfold fileName? at file
  split at file
  · rename_i last ends
    split at file
    · cases file
    · rename_i proper
      cases file
      simp only [Bool.or_eq_true, beq_iff_eq, not_or] at proper
      obtain ⟨⟨notAbove, notHere⟩, notRoot⟩ := proper
      refine ⟨(List.dropLast_append_getLast? _ ends).symm, ?_⟩
      have listed : name ∈ parts path := by
        have member := List.mem_of_getLast? ends
        unfold components at member
        split at member
        · exact (List.mem_cons.mp member).resolve_left notRoot
        · exact absurd (List.mem_singleton.mp member) notHere
        · exact (List.mem_cons.mp member).resolve_left notHere
        · exact member
      exact (Files.isName_of_mem_parts listed notAbove).slashless
  · cases file

end Path

/-! ## Reading a name -/

namespace ClassName

variable {front file tag : String}

/-- A hyphen behind the last slash is the mark, and the last one counts. -/
theorem split_marked (closed : Text.Closed '/' front) (slashless : '/' ∉ file.toList)
    (tagSlashless : '/' ∉ tag.toList) (tagPlain : '-' ∉ tag.toList) :
    split (front ++ file ++ "-" ++ tag) = (front ++ file, tag) := by
  have whole : front ++ file ++ "-" ++ tag = front ++ (file ++ String.singleton '-' ++ tag) := by
    apply String.toList_injective
    simp
  have last : Text.lastPiece (· == '/') (front ++ file ++ "-" ++ tag) = file ++ String.singleton '-' ++ tag := by
    rw [whole]
    apply Text.lastPiece_append closed
    simp [slashless, tagSlashless]
  simp only [split, last, Text.cutLast_append file tagPlain]
  refine Prod.ext (String.toList_injective ?_) rfl
  have length : (front ++ file ++ "-" ++ tag).length - tag.length - 1 = (front ++ file).toList.length := by
    simp only [String.length_append, String.length_toList]
    have one : "-".length = 1 := rfl
    omega
  rw [String.toList_ofList, length, String.append_assoc, String.toList_append (s := front ++ file),
    List.take_left]

theorem split_unmarked (closed : Text.Closed '/' front) (slashless : '/' ∉ file.toList)
    (plain : '-' ∉ file.toList) : split (front ++ file) = (front ++ file, "") := by
  simp only [split, Text.lastPiece_append closed slashless, Text.cutLast_eq_none plain]

/-- The simple name stands in front of the last dot of the part before the mark. -/
theorem simpleName_of_split {name stem ending : String} (reads : (split name).1 = front ++ file)
    (closed : Text.Closed '/' front) (slashless : '/' ∉ file.toList)
    (cut : Text.cutLast '.' file = some (stem, ending)) : simpleName name = stem := by
  unfold simpleName
  rw [reads, Text.lastPiece_append closed slashless]
  dsimp only
  rw [cut]

end ClassName

namespace Command

variable {path stem : String}

/-- The class file beside a source has its stem. -/
theorem cutLast_classFile (stem : String) : ∃ ending, Text.cutLast '.' (classFile stem) = some (stem, ending) := by
  unfold classFile
  split
  · rename_i dot
    obtain rfl : stem = "." := by simpa using dot
    exact ⟨"", rfl⟩
  · exact ⟨"class", Text.cutLast_append stem (by decide)⟩

theorem hyphen_mem_classFile : '-' ∈ (classFile stem).toList ↔ '-' ∈ stem.toList := by
  unfold classFile
  split
  · rename_i dot
    obtain rfl : stem = "." := by simpa using dot
    decide
  · simp

/-- The class name of a source is the path of its class file, with the mark. -/
theorem classNameOf_source (file : Path.fileName? path = some (stem ++ ".java")) (filled : stem ≠ "") :
    ∃ front, Text.Closed '/' front ∧ '/' ∉ (classFile stem).toList ∧
      ∀ tag, classNameOf path tag = ClassName.withDecompiler (front ++ classFile stem) tag := by
  obtain ⟨-, slashless⟩ := Path.components_of_fileName? file
  have stemSlashless : '/' ∉ stem.toList := by
    intro listed
    apply slashless
    simp [listed]
  have cut : Path.splitName (stem ++ ".java") = (stem, some "java") := by
    have dotted : stem ++ ".java" = stem ++ String.singleton '.' ++ "java" := by
      apply String.toList_injective
      simp
    rw [Path.splitName, dotted, Text.cutLast_append stem (by decide)]
    simp [filled]
  obtain ⟨front, closed, written⟩ := Path.render_concat (Path.components path).dropLast (classFile stem)
  refine ⟨front, closed, classFile_slashless stemSlashless, fun tag => ?_⟩
  rw [← written]
  simp only [classNameOf, Path.componentsWithExtension, file, cut, classFile]

section Names

variable (file : Path.fileName? path = some (stem ++ ".java")) (filled : stem ≠ "")

include file filled

/-- With a decompiler, both are read back. -/
theorem decodes_marked {tag : String} (some_tag : tag ≠ "") (plain : '-' ∉ tag.toList)
    (slashless : '/' ∉ tag.toList) :
    ClassName.simpleName (classNameOf path (some tag)) = stem ∧
      ClassName.decompiler (classNameOf path (some tag)) = tag := by
  obtain ⟨front, closed, fileSlashless, named⟩ := classNameOf_source file filled
  obtain ⟨ending, cut⟩ := cutLast_classFile stem
  have reads := ClassName.split_marked closed fileSlashless slashless plain
  have marked : classNameOf path (some tag) = front ++ classFile stem ++ "-" ++ tag := by
    rw [named, ClassName.withDecompiler, if_neg (by simpa using some_tag)]
  rw [marked]
  exact ⟨ClassName.simpleName_of_split (congrArg Prod.fst reads) closed fileSlashless cut,
    congrArg Prod.snd reads⟩

/-- Without one, a stem that has no hyphen is read back, and no decompiler is. -/
theorem decodes_unmarked (plain : '-' ∉ stem.toList) :
    ClassName.simpleName (classNameOf path none) = stem ∧
      ClassName.decompiler (classNameOf path none) = "" := by
  obtain ⟨front, closed, slashless, named⟩ := classNameOf_source file filled
  obtain ⟨ending, cut⟩ := cutLast_classFile stem
  have reads := ClassName.split_unmarked closed slashless (mt hyphen_mem_classFile.mp plain)
  rw [named, ClassName.withDecompiler]
  exact ⟨ClassName.simpleName_of_split (congrArg Prod.fst reads) closed slashless cut,
    congrArg Prod.snd reads⟩

/-- A hyphen in the stem marks what follows it, the extension included: the last hyphen of the name is
that of the stem, since the extension has none. -/
theorem hyphen_in_stem_marks (hyphen : '-' ∈ stem.toList) :
    ClassName.decompiler (classNameOf path none) = Text.lastPiece (· == '-') stem ++ ".class" := by
  obtain ⟨front, closed, slashless, named⟩ := classNameOf_source file filled
  obtain ⟨start, whole, clean⟩ := Text.eq_lastPiece hyphen
  have notDot : ¬(stem == ".") = true := by
    intro dot
    obtain rfl : stem = "." := by simpa using dot
    exact absurd hyphen (by decide)
  have written : classFile stem = start ++ "-" ++ (Text.lastPiece (· == '-') stem ++ ".class") := by
    rw [classFile, if_neg notDot]
    nth_rewrite 1 [whole]
    apply String.toList_injective
    simp
  generalize Text.lastPiece (· == '-') stem = ending at clean written ⊢
  have parts : '/' ∉ start.toList ∧ '/' ∉ (ending ++ ".class").toList := by
    rw [written] at slashless
    simpa using slashless
  have reads := ClassName.split_marked closed parts.1 parts.2 (by simpa using clean)
  have name : classNameOf path none = front ++ start ++ "-" ++ (ending ++ ".class") := by
    rw [named, ClassName.withDecompiler, written]
    simp only [String.append_assoc]
  rw [name]
  exact congrArg Prod.snd reads

end Names

/-- **What a class name was made from is read off it**, when it has a decompiler or a stem without a
hyphen. Without a decompiler, what follows the last hyphen of a stem is taken for one, the extension
included. -/
theorem classNameOf_decodes {tag : Option String} (file : Path.fileName? path = some (stem ++ ".java"))
    (filled : stem ≠ "") (plain : ∀ text ∈ tag, '-' ∉ text.toList ∧ '/' ∉ text.toList) :
    (tag.getD "" ≠ "" ∨ '-' ∉ stem.toList →
      ClassName.simpleName (classNameOf path tag) = stem ∧
        ClassName.decompiler (classNameOf path tag) = tag.getD "") ∧
    (tag.getD "" = "" → '-' ∈ stem.toList →
      ClassName.decompiler (classNameOf path tag) = Text.lastPiece (· == '-') stem ++ ".class") := by
  by_cases tagged : tag.getD "" = ""
  · -- An empty tag leaves no mark, so it is as good as none.
    have bare : classNameOf path tag = classNameOf path none := by
      cases tag with
      | none => rfl
      | some text =>
        obtain rfl : text = "" := tagged
        rfl
    rw [bare, tagged]
    refine ⟨fun fine => ?_, fun _ hyphen => hyphen_in_stem_marks file filled hyphen⟩
    exact decodes_unmarked file filled (fine.resolve_left fun differs => differs rfl)
  · refine ⟨fun _ => ?_, fun empty => absurd empty tagged⟩
    cases tag with
    | none => exact absurd rfl tagged
    | some text =>
      obtain ⟨tagPlain, slashless⟩ := plain text rfl
      exact decodes_marked file filled tagged tagPlain slashless

/-- A stem and a package with hyphens and dots, and a decompiler with a dot. -/
theorem classNameOf_decodes_hyphens :
    Path.fileName? "my-pkg/./a-b.c$1.java" = some ("a-b.c$1" ++ ".java") ∧
      classNameOf "my-pkg/./a-b.c$1.java" (some "CFR0.152") = "my-pkg/a-b.c$1.class-CFR0.152" ∧
      ClassName.simpleName (classNameOf "my-pkg/./a-b.c$1.java" (some "CFR0.152")) = "a-b.c$1" ∧
      ClassName.decompiler (classNameOf "my-pkg/./a-b.c$1.java" (some "CFR0.152")) = "CFR0.152" := by
  have file : Path.fileName? "my-pkg/./a-b.c$1.java" = some ("a-b.c$1" ++ ".java") := by decide +kernel
  have plain : ∀ text ∈ some "CFR0.152", '-' ∉ text.toList ∧ '/' ∉ text.toList := by
    rintro text ⟨⟩
    decide
  refine ⟨file, by decide +kernel, ?_⟩
  exact (classNameOf_decodes file (by decide) plain).1 (.inl (by decide))

/-- **A stem with a hyphen is not read back without a decompiler**: what follows the hyphen is taken for
one. -/
theorem packageInfo_misread :
    Path.fileName? "com/package-info.java" = some ("package-info" ++ ".java") ∧
      ¬(ClassName.simpleName (classNameOf "com/package-info.java" none) = "package-info" ∧
        ClassName.decompiler (classNameOf "com/package-info.java" none) = "") := by
  have named : classNameOf "com/package-info.java" none = "com/package-info.class" := by decide +kernel
  have simple : ClassName.simpleName "com/package-info.class" = "package" := by decide +kernel
  have decompiler : ClassName.decompiler "com/package-info.class" = "info.class" := by decide +kernel
  rw [named, simple, decompiler]
  exact ⟨by decide +kernel, by decide⟩

end Command

end SymbolIndex
