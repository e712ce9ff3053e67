import SymbolIndex.Proofs.ClassNames
import SymbolIndex.Proofs.Nodes

/-!
# The names at the head of a file

A package or an import is named by identifiers with dots between them, and blanks may stand on both sides of
every dot (`Written`). Blanks are taken out of the name of an import, so the tables hold the dotted name
whatever its layout; of two imports of one name into one table the later counts.

The name of the package is taken as it is written, with slashes for its dots. **The law**
(`names_at_head`) says so: the path of a class has the identifiers of the package in front, but also every
blank that is written between them. It is the path that is meant if and only if there are none
(`Written.path_eq_iff`), and for `package a . b ;` it is not (`blanks_in_package`): a class `C` of that
file has the path `a / b/C`, under which nothing else knows it.

A file is given by its heads, one for each of its top-level nodes, and a head by its identifiers. What the
tables hold then is read off the list of heads, by induction from its end.
-/

namespace SymbolIndex

open SymbolIndex.Tree (Node Source)

/-! ## Names as they are written -/

namespace Text

/-- An identifier, as far as it matters where it ends. -/
structure Identifier (text : String) : Prop where
  nonempty : text ≠ ""
  clean : ∀ c ∈ text.toList, c ≠ '.' ∧ isBlank c = false

/-- An identifier has no dot. -/
theorem Identifier.noDot {text : String} (identifier : Identifier text) : '.' ∉ text.toList :=
  fun member => (identifier.clean '.' member).1 rfl

/-- What stands between two tokens. -/
def Gap (text : String) : Prop :=
  ∀ c ∈ text.toList, isBlank c = true

/-- Whether a text is an identifier can be computed. -/
theorem identifier_iff {text : String} :
    (text ≠ "" ∧ text.toList.all fun c => c != '.' && !isBlank c) ↔ Identifier text := by
  simp only [List.all_eq_true, Bool.and_eq_true, bne_iff_ne, Bool.not_eq_true']
  exact ⟨fun ⟨nonempty, clean⟩ => ⟨nonempty, clean⟩, fun ⟨nonempty, clean⟩ => ⟨nonempty, clean⟩⟩

instance (text : String) : Decidable (Identifier text) :=
  decidable_of_iff _ identifier_iff

instance (text : String) : Decidable (Gap text) :=
  decidable_of_iff (text.toList.all isBlank) List.all_eq_true

/-- A dotted name as it is written: its identifiers, with blanks on both sides of the dots. -/
inductive Written : List String → String → Prop
  | last {identifier : String} (isIdentifier : Identifier identifier) : Written [identifier] identifier
  | dotted {identifier before after rest : String} {identifiers : List String}
      (isIdentifier : Identifier identifier) (isGap : Gap before) (isGap' : Gap after)
      (written : Written identifiers rest) :
      Written (identifier :: identifiers) (identifier ++ before ++ "." ++ after ++ rest)

/-- Blanks are taken out piece by piece. -/
theorem squeeze_append (text text' : String) : squeeze (text ++ text') = squeeze text ++ squeeze text' := by
  rw [squeeze, squeeze, squeeze, String.toList_append, List.filter_append, String.ofList_append]

/-- An identifier has no blanks to take out. -/
theorem Identifier.squeeze_eq {text : String} (identifier : Identifier text) : squeeze text = text := by
  have kept : text.toList.filter (fun c => !isBlank c) = text.toList := by
    apply List.filter_eq_self.mpr
    intro c member
    rw [(identifier.clean c member).2]
    rfl
  rw [squeeze, kept, String.ofList_toList]

theorem swap_append (old new : Char) (text text' : String) :
    swap old new (text ++ text') = swap old new text ++ swap old new text' := by
  rw [swap, swap, swap, String.toList_append, List.map_append, String.ofList_append]

/-- An identifier has no dots to turn into slashes. -/
theorem Identifier.swap_eq {text : String} (identifier : Identifier text) : swap '.' '/' text = text := by
  have kept : text.toList.map (fun c => if c = '.' then '/' else c) = text.toList.map id :=
    List.map_congr_left fun c member => if_neg (identifier.clean c member).1
  rw [swap, kept, List.map_id, String.ofList_toList]

/-- A gap leaves nothing when its blanks are taken out. -/
theorem Gap.squeeze_eq {text : String} (gap : Gap text) : squeeze text = "" := by
  have dropped : text.toList.filter (fun c => !isBlank c) = [] := by
    apply List.filter_eq_nil_iff.mpr
    intro c member
    rw [gap c member]
    decide
  rw [squeeze, dropped]

namespace Written

variable {identifiers : List String} {text : String}

/-- A written name has a first identifier. -/
theorem ne_nil (written : Written identifiers text) : identifiers ≠ [] := by
  cases written <;> exact List.cons_ne_nil _ _

/-- A written name is made of identifiers. -/
theorem identifier (written : Written identifiers text) :
    ∀ identifier ∈ identifiers, Identifier identifier := by
  induction written with
  | last isIdentifier =>
    intro other member
    rwa [List.mem_singleton.mp member]
  | dotted isIdentifier _ _ _ ih =>
    intro other member
    rcases List.mem_cons.mp member with rfl | later
    · exact isIdentifier
    · exact ih other later

/-- Without its blanks a name is its identifiers with dots between them. -/
theorem squeeze_eq (written : Written identifiers text) :
    squeeze text = String.intercalate "." identifiers := by
  induction written with
  | last isIdentifier => rw [isIdentifier.squeeze_eq, String.intercalate_singleton]
  | dotted isIdentifier isGap isGap' written ih =>
    have dot : squeeze "." = "." := by decide
    rw [String.intercalate_cons_of_ne_nil written.ne_nil, ← ih]
    simp only [squeeze_append, isIdentifier.squeeze_eq, isGap.squeeze_eq, isGap'.squeeze_eq, dot,
      String.append_empty]

/-- A written name is never empty, with dots or with slashes. -/
theorem swap_ne_empty (written : Written identifiers text) : swap '.' '/' text ≠ "" := by
  have starts : ∃ first rest, Identifier first ∧ text = first ++ rest := by
    cases written with
    | last isIdentifier => exact ⟨_, "", isIdentifier, String.append_empty.symm⟩
    | dotted isIdentifier =>
      simp only [String.append_assoc]
      exact ⟨_, _, isIdentifier, rfl⟩
  obtain ⟨first, rest, isIdentifier, rfl⟩ := starts
  rw [swap_append, isIdentifier.swap_eq]
  intro empty
  exact isIdentifier.nonempty (String.append_eq_empty_iff.mp empty).1

/-- The path of a package has slashes for the dots of its name. -/
theorem swap_intercalate (clean : ∀ identifier ∈ identifiers, Identifier identifier) :
    swap '.' '/' (String.intercalate "." identifiers) = String.intercalate "/" identifiers := by
  induction identifiers with
  | nil => rfl
  | cons first rest ih =>
    have same := (clean first List.mem_cons_self).swap_eq
    by_cases isLast : rest = []
    · subst isLast
      rw [String.intercalate_singleton, String.intercalate_singleton, same]
    · have dot : swap '.' '/' "." = "/" := by decide
      rw [String.intercalate_cons_of_ne_nil isLast, String.intercalate_cons_of_ne_nil isLast, swap_append,
        swap_append, same, dot, ih fun identifier member => clean identifier (List.mem_cons_of_mem _ member)]

/-- Blanks stay in a path where they are. -/
theorem squeeze_path (written : Written identifiers text) :
    squeeze (swap '.' '/' text) = String.intercalate "/" identifiers := by
  rw [← swap_intercalate written.identifier, ← written.squeeze_eq]
  have same (c : Char) : isBlank (if c = '.' then '/' else c) = isBlank c := by
    split
    · rename_i isDot
      rw [isDot]
      decide
    · rfl
  simp only [squeeze, swap, String.toList_ofList, List.filter_map, Function.comp_def, same]

/-- **The path is the one that is meant if and only if no blank is written in the name.** -/
theorem path_eq_iff (written : Written identifiers text) :
    swap '.' '/' text = String.intercalate "/" identifiers ↔
      text = String.intercalate "." identifiers := by
  constructor
  · intro same
    rw [← swap_intercalate written.identifier, ← written.squeeze_eq] at same
    have lengths : text.toList.length = (squeeze text).toList.length := by
      have letters := congrArg (fun text => text.toList.length) same
      simpa [swap] using letters
    have kept : (squeeze text).toList.Sublist text.toList := by
      rw [squeeze, String.toList_ofList]
      exact List.filter_sublist
    rw [← written.squeeze_eq]
    exact (String.toList_injective (kept.eq_of_length lengths.symm)).symm
  · rintro rfl
    exact swap_intercalate written.identifier

end Written

/-- A name is its last identifier behind a dot, if there is more than one. -/
theorem intercalate_concat {front : List String} (some : front ≠ []) (last : String) :
    String.intercalate "." (front ++ [last]) =
      String.intercalate "." front ++ String.singleton '.' ++ last := by
  rw [String.intercalate_append_of_ne_nil some (List.cons_ne_nil last []), String.intercalate_singleton]
  rfl

/-- What stands behind the last dot of a name is its last identifier. -/
theorem lastPiece_dotted (front : List String) {last : String} (identifier : Identifier last) :
    lastPiece (· == '.') (String.intercalate "." (front ++ [last])) = last := by
  by_cases none : front = []
  · subst none
    rw [List.nil_append, String.intercalate_singleton]
    have closed : Closed '.' "" := by simp [Closed]
    have alone := lastPiece_append closed identifier.noDot
    rwa [String.empty_append] at alone
  · rw [intercalate_concat none]
    exact lastPiece_append (by simp [Closed]) identifier.noDot

end Text

namespace Imports

/-! ## Heads -/

/-- What a top-level node has to say for the names of a file. -/
inductive Head where
  | package (identifiers : List String) (text : String)
  | imported (isStatic isOnDemand : Bool) (identifiers : List String)
  | other

namespace Head

/-- The names that are imported in one of the four ways, in the order of the source. -/
def names (isStatic isOnDemand : Bool) (heads : List Head) : List (List String) :=
  heads.filterMap fun head =>
    match head with
    | .imported isStatic' isOnDemand' identifiers =>
      if isStatic' = isStatic ∧ isOnDemand' = isOnDemand then some identifiers else none
    | _ => none

/-- The name of the package, as identifiers and as written. -/
def package? (heads : List Head) : Option (List String × String) :=
  (heads.filterMap fun head =>
    match head with
    | .package identifiers text => some (identifiers, text)
    | _ => none).getLast?

/-- The last of some names that ends with the given identifier. -/
def lastEnding (names : List (List String)) (identifier : String) : Option (List String) :=
  names.reverse.find? (·.getLast? = some identifier)

section Concat

variable {isStatic isOnDemand : Bool} {head : Head}

/-- A head more gives its own names behind those of the others. -/
theorem names_concat (isStatic isOnDemand : Bool) (heads : List Head) (head : Head) :
    names isStatic isOnDemand (heads ++ [head]) =
      names isStatic isOnDemand heads ++ names isStatic isOnDemand [head] :=
  List.filterMap_append

theorem names_imported (isStatic isOnDemand : Bool) (identifiers : List String) :
    names isStatic isOnDemand [.imported isStatic isOnDemand identifiers] = [identifiers] := by
  simp [names]

/-- A head that gives no name leaves the names as they were. -/
theorem names_concat_of_nil (none : names isStatic isOnDemand [head] = []) {heads : List Head} :
    names isStatic isOnDemand (heads ++ [head]) = names isStatic isOnDemand heads := by
  rw [names_concat, none, List.append_nil]

/-- The last package that is named counts. -/
theorem package?_concat (heads : List Head) (head : Head) :
    package? (heads ++ [head]) = (package? [head]).or (package? heads) := by
  rw [package?, package?, package?, List.filterMap_append, List.getLast?_append]

/-- A head that names no package leaves it as it was. -/
theorem package?_concat_of_none (none : package? [head] = none) {heads : List Head} :
    package? (heads ++ [head]) = package? heads := by
  rw [package?_concat, none, Option.none_or]

end Concat

/-- Of the names that end alike the last one counts. -/
theorem lastEnding_concat (names : List (List String)) (identifiers : List String) (identifier : String) :
    lastEnding (names ++ [identifiers]) identifier =
      if identifiers.getLast? = some identifier then some identifiers else lastEnding names identifier := by
  unfold lastEnding
  rw [List.reverse_append, List.reverse_singleton, List.singleton_append, List.find?_cons]
  split
  · rename_i ends
    rw [if_pos (of_decide_eq_true ends)]
  · rename_i ends
    rw [if_neg (of_decide_eq_false ends)]

/-- What a head adds to the names of a file. -/
def addTo (imports : Imports) : Head → Imports
  | .package _ text => { imports with package := Text.swap '.' '/' text }
  | .imported isStatic isOnDemand identifiers =>
    imports.add isStatic isOnDemand (String.intercalate "." identifiers)
  | .other => imports

end Head

/-- The kinds of nodes that name a package or what is imported. -/
def nameKinds : List String :=
  ["scoped_identifier", "identifier"]

/-- A declaration that has one name, with the identifiers and the text that are given. -/
structure Names (source : Source) (node : Node) (identifiers : List String) (text : String) : Prop where
  name : ∃ name ∈ node.named, name.kind ∈ nameKinds ∧ source.slice name.start name.stop = text ∧
    ∀ other ∈ node.named, other.kind ∈ nameKinds → other = name
  written : Text.Written identifiers text

/-- What a top-level node says. -/
inductive Reads (source : Source) (node : Node) : Head → Prop
  | package {identifiers : List String} {text : String} (isPackage : node.kind = "package_declaration")
      (names : Names source node identifiers text) : Reads source node (.package identifiers text)
  | imported {identifiers : List String} {text : String} {isStatic isOnDemand : Bool}
      (isImport : node.kind = "import_declaration")
      (static : node.children.any (·.kind == "static") = isStatic)
      (onDemand : node.children.any (·.kind == "asterisk") = isOnDemand)
      (names : Names source node identifiers text) :
      Reads source node (.imported isStatic isOnDemand identifiers)
  | other (isOther : node.kind ∉ ["package_declaration", "import_declaration"]) : Reads source node .other

/-- A declaration whose only named child is its name. -/
theorem Names.ofNamed {source : Source} {node name : Node} {identifiers : List String} {text : String}
    (alone : node.named = [name]) (isName : name.kind ∈ nameKinds)
    (slice : source.slice name.start name.stop = text) (written : Text.Written identifiers text) :
    Names source node identifiers text := by
  refine ⟨⟨name, ?_, isName, slice, ?_⟩, written⟩
  · rw [alone]
    exact List.mem_cons_self
  · intro other member _
    rw [alone] at member
    exact List.mem_singleton.mp member

/-- A head with a name is read with the text of that name. -/
theorem Names.declaredName? {source : Source} {node : Node} {identifiers : List String} {text : String}
    (names : Names source node identifiers text) :
    ∃ name, Imports.declaredName? node = some name ∧ source.slice name.start name.stop = text := by
  obtain ⟨name, member, isName, slice, only⟩ := names.name
  refine ⟨name, ?_, slice⟩
  cases found : Imports.declaredName? node with
  | none =>
    have none := List.find?_eq_none.mp found name member
    simp only [nameKinds, List.mem_cons, List.not_mem_nil, or_false] at isName
    simp [isName] at none
  | some other =>
    have isOther : other.kind ∈ nameKinds := by simpa [nameKinds] using List.find?_some found
    rw [only other (List.mem_of_find?_eq_some found) isOther]

/-- Every head adds what it says. -/
theorem Reads.addNode_eq {source : Source} {node : Node} {head : Head} (reads : Reads source node head)
    (imports : Imports) : Imports.addNode source imports node = head.addTo imports := by
  unfold Imports.addNode
  cases reads with
  | package isPackage names =>
    obtain ⟨name, declared, rfl⟩ := names.declaredName?
    simp only [declared, isPackage, BEq.rfl, if_true, Head.addTo]
  | imported isImport static onDemand names =>
    obtain ⟨name, declared, rfl⟩ := names.declaredName?
    simp only [declared, isImport, static, onDemand, String.reduceBEq, Bool.false_eq_true, if_false,
      if_true, Head.addTo, names.written.squeeze_eq]
  | other isOther =>
    simp only [List.mem_cons, List.not_mem_nil, or_false, not_or] at isOther
    have noPackage : (node.kind == "package_declaration") = false := beq_false_of_ne isOther.1
    have noImport : (node.kind == "import_declaration") = false := beq_false_of_ne isOther.2
    simp only [noPackage, noImport, Head.addTo]
    split <;> rfl

/-! ## The tables -/

/-- The names of a file hold what its heads say. -/
structure Holds (heads : List Head) (imports : Imports) : Prop where
  package : imports.package = ((Head.package? heads).map fun name => Text.swap '.' '/' name.2).getD ""
  single : ∀ identifier, imports.singleType? identifier =
    (Head.lastEnding (Head.names false false heads) identifier).map (String.intercalate ".")
  onDemand : imports.onDemand = (Head.names false true heads).map (String.intercalate ".")
  staticSingle : ∀ identifier, imports.staticOwner? identifier =
    (Head.lastEnding ((Head.names true false heads).filter (1 < ·.length)) identifier).map
      fun identifiers => String.intercalate "." identifiers.dropLast
  staticOnDemand : imports.staticOnDemand = (Head.names true true heads).map (String.intercalate ".")

namespace Holds

variable {heads : List Head} {imports : Imports}

/-- A package sets the package, and leaves the imports alone. -/
theorem addPackage (holds : Holds heads imports) (identifiers : List String) (text : String) :
    Holds (heads ++ [.package identifiers text]) (Head.addTo imports (.package identifiers text)) := by
  obtain ⟨-, single, onDemand, staticSingle, staticOnDemand⟩ := holds
  constructor
  · rw [Head.package?_concat]
    rfl
  · rwa [Head.names_concat_of_nil rfl]
  · rwa [Head.names_concat_of_nil rfl]
  · rwa [Head.names_concat_of_nil rfl]
  · rwa [Head.names_concat_of_nil rfl]

/-- Any other head adds nothing. -/
theorem addOther (holds : Holds heads imports) : Holds (heads ++ [.other]) (Head.addTo imports .other) := by
  obtain ⟨package, single, onDemand, staticSingle, staticOnDemand⟩ := holds
  constructor
  · rwa [Head.package?_concat_of_none rfl]
  · rwa [Head.names_concat_of_nil rfl]
  · rwa [Head.names_concat_of_nil rfl]
  · rwa [Head.names_concat_of_nil rfl]
  · rwa [Head.names_concat_of_nil rfl]

/-- **An import of all names** of a package or a class is added to the lists that are searched. -/
theorem addOnDemand (holds : Holds heads imports) (isStatic : Bool) (identifiers : List String) :
    Holds (heads ++ [.imported isStatic true identifiers])
      (Head.addTo imports (.imported isStatic true identifiers)) := by
  obtain ⟨package, single, onDemand, staticSingle, staticOnDemand⟩ := holds
  cases isStatic with
  | false =>
    constructor
    · rwa [Head.package?_concat_of_none rfl]
    · rwa [Head.names_concat_of_nil rfl]
    · rw [Head.names_concat, Head.names_imported, List.map_append, ← onDemand]
      rfl
    · rwa [Head.names_concat_of_nil rfl]
    · rwa [Head.names_concat_of_nil rfl]
  | true =>
    constructor
    · rwa [Head.package?_concat_of_none rfl]
    · rwa [Head.names_concat_of_nil rfl]
    · rwa [Head.names_concat_of_nil rfl]
    · rwa [Head.names_concat_of_nil rfl]
    · rw [Head.names_concat, Head.names_imported, List.map_append, ← staticOnDemand]
      rfl

/-- **An import of one class** is known by its last identifier. -/
theorem addSingle (holds : Holds heads imports) (front : List String) {last : String}
    (identifier : Text.Identifier last) :
    Holds (heads ++ [.imported false false (front ++ [last])])
      (Head.addTo imports (.imported false false (front ++ [last]))) := by
  obtain ⟨package, single, onDemand, staticSingle, staticOnDemand⟩ := holds
  constructor
  · rwa [Head.package?_concat_of_none rfl]
  · intro other
    have found := imports.single.find?_insert last other (String.intercalate "." (front ++ [last]))
    rw [Head.names_concat, Head.names_imported, Head.lastEnding_concat, List.getLast?_concat]
    simp only [Head.addTo, Imports.add, Imports.singleType?, Text.lastPiece_dotted front identifier, found,
      Option.some.injEq]
    split
    · rfl
    · exact single other
  · rwa [Head.names_concat_of_nil rfl]
  · rwa [Head.names_concat_of_nil rfl]
  · rwa [Head.names_concat_of_nil rfl]

/-- A member without a class in front of it is not taken up. -/
theorem addStaticAlone (holds : Holds heads imports) {last : String} (identifier : Text.Identifier last) :
    Holds (heads ++ [.imported true false [last]]) (Head.addTo imports (.imported true false [last])) := by
  obtain ⟨package, single, onDemand, staticSingle, staticOnDemand⟩ := holds
  have unchanged : Head.addTo imports (.imported true false [last]) = imports := by
    simp only [Head.addTo, Imports.add, String.intercalate_singleton,
      Text.cutLast_eq_none identifier.noDot]
  have dropped : [[last]].filter (1 < ·.length) = [] := rfl
  rw [unchanged]
  constructor
  · rwa [Head.package?_concat_of_none rfl]
  · rwa [Head.names_concat_of_nil rfl]
  · rwa [Head.names_concat_of_nil rfl]
  · rwa [Head.names_concat, Head.names_imported, List.filter_append, dropped, List.append_nil]
  · rwa [Head.names_concat_of_nil rfl]

/-- **A static import** is known by its last identifier, and stands for the class in front of it. -/
theorem addStatic (holds : Holds heads imports) {front : List String} {last : String} (owned : front ≠ [])
    (identifier : Text.Identifier last) :
    Holds (heads ++ [.imported true false (front ++ [last])])
      (Head.addTo imports (.imported true false (front ++ [last]))) := by
  obtain ⟨package, single, onDemand, staticSingle, staticOnDemand⟩ := holds
  have inserted : Head.addTo imports (.imported true false (front ++ [last])) =
      { imports with
        staticSingle := imports.staticSingle.insert last (String.intercalate "." front) } := by
    simp only [Head.addTo, Imports.add, Text.intercalate_concat owned,
      Text.cutLast_append _ identifier.noDot]
  have kept : [front ++ [last]].filter (1 < ·.length) = [front ++ [last]] := by
    simpa [List.length_pos_iff] using owned
  rw [inserted]
  constructor
  · rwa [Head.package?_concat_of_none rfl]
  · rwa [Head.names_concat_of_nil rfl]
  · rwa [Head.names_concat_of_nil rfl]
  · intro other
    have found := imports.staticSingle.find?_insert last other (String.intercalate "." front)
    rw [Head.names_concat, Head.names_imported, List.filter_append, kept, Head.lastEnding_concat,
      List.getLast?_concat]
    simp only [Imports.staticOwner?, found, Option.some.injEq]
    split
    · rw [Option.map_some, List.dropLast_concat]
    · exact staticSingle other
  · rwa [Head.names_concat_of_nil rfl]

/-- **One more head.** Each goes into the one table that is meant for it. -/
theorem addTo (holds : Holds heads imports) {head : Head} {source : Source} {node : Node}
    (reads : Reads source node head) : Holds (heads ++ [head]) (head.addTo imports) := by
  cases reads with
  | package => exact holds.addPackage _ _
  | other => exact holds.addOther
  | @imported identifiers text isStatic isOnDemand isImport _ _ names =>
    obtain ⟨front, last, rfl⟩ : ∃ front last, identifiers = front ++ [last] :=
      ⟨_, _, (List.dropLast_append_getLast names.written.ne_nil).symm⟩
    have identifier : Text.Identifier last := names.written.identifier last (by simp)
    cases isOnDemand with
    | true => exact holds.addOnDemand isStatic _
    | false =>
      cases isStatic with
      | false => exact holds.addSingle front identifier
      | true =>
        by_cases alone : front = []
        · subst alone
          exact holds.addStaticAlone identifier
        · exact holds.addStatic alone identifier

/-- **All heads**, from whatever has been read before. -/
theorem foldl {source : Source} {nodes : List Node} {heads : List Head}
    (reads : List.Forall₂ (Reads source) nodes heads) {done : List Head} {imports : Imports}
    (holds : Holds done imports) :
    Holds (done ++ heads) (nodes.foldl (Imports.addNode source) imports) := by
  induction reads generalizing done imports with
  | nil => rwa [List.append_nil]
  | cons here _ ih =>
    rw [List.foldl_cons, here.addNode_eq, List.append_cons]
    exact ih (holds.addTo here)

end Holds

/-- The name of a package is written somewhere. -/
theorem written_of_package? {source : Source} {nodes : List Node} {heads : List Head}
    (reads : List.Forall₂ (Reads source) nodes heads) {identifiers : List String} {text : String}
    (isPackage : Head.package? heads = some (identifiers, text)) : Text.Written identifiers text := by
  obtain ⟨head, member, isHead⟩ := List.mem_filterMap.mp (List.mem_of_getLast? isPackage)
  have named : ∀ head ∈ heads, ∃ node, Reads source node head := by
    clear isPackage member
    induction reads with
    | nil => exact fun _ member => absurd member List.not_mem_nil
    | cons here _ ih =>
      intro head member
      rcases List.mem_cons.mp member with rfl | later
      · exact ⟨_, here⟩
      · exact ih head later
  obtain ⟨node, reads⟩ := named head member
  cases reads with
  | package _ names =>
    cases isHead
    exact names.written
  | imported => cases isHead
  | other => cases isHead

/-- **The names at the head of a file.** The tables of imports hold the dotted names of the imports,
whatever blanks are written in them: what an identifier stands for is the last name in its own table that
ends with it, and names on demand are in the order of the source. A class has the name of the package in
front of its path, with slashes for the dots and with the blanks that are written in it. -/
theorem names_at_head (source : Source) (root : Node) (heads : List Head)
    (reads : List.Forall₂ (Reads source) root.named heads) :
    (∀ name, (Imports.ofTree source root).inPackage name =
      match Head.package? heads with
      | some (_, text) => Text.swap '.' '/' text ++ "/" ++ name
      | none => name) ∧
    (∀ identifiers text, Head.package? heads = some (identifiers, text) →
      Text.squeeze (Text.swap '.' '/' text) = String.intercalate "/" identifiers ∧
        (Text.swap '.' '/' text = String.intercalate "/" identifiers ↔
          text = String.intercalate "." identifiers)) ∧
    Holds heads (Imports.ofTree source root) := by
  have holds : Holds heads (Imports.ofTree source root) := by
    have empty : Holds [] {} := ⟨rfl, fun _ => rfl, rfl, fun _ => rfl, rfl⟩
    exact empty.foldl reads
  refine ⟨fun name => ?_, fun identifiers text isPackage => ?_, holds⟩
  · have package := holds.package
    unfold Imports.inPackage
    cases isPackage : Head.package? heads with
    | none =>
      rw [isPackage] at package
      rw [package]
      rfl
    | some declared =>
      have nonempty := (written_of_package? reads isPackage).swap_ne_empty
      rw [isPackage] at package
      simp only [package, Option.map_some, Option.getD_some, String.isEmpty_iff, nonempty, if_false]
  · have written := written_of_package? reads isPackage
    exact ⟨written.squeeze_path, written.path_eq_iff⟩

/-- The head of a file with names in several layouts. -/
def layoutText : String :=
  "package a.b;\nimport c . D;\nimport x.D;\nimport static f.G\n  . h;"

def layoutTree : Node :=
  .word "program" none 0 63 [
    .word "package_declaration" none 0 12 [
      .token "package" 0 7,
      .word "scoped_identifier" none 8 11 [],
      .token ";" 11 12],
    .word "import_declaration" none 13 26 [
      .token "import" 13 19,
      .word "scoped_identifier" none 20 25 [],
      .token ";" 25 26],
    .word "import_declaration" none 27 38 [
      .token "import" 27 33,
      .word "scoped_identifier" none 34 37 [],
      .token ";" 37 38],
    .word "import_declaration" none 39 63 [
      .token "import" 39 45,
      .token "static" 46 52,
      .word "scoped_identifier" none 53 62 [],
      .token ";" 62 63]]

theorem layoutTree_reads : List.Forall₂ (Reads (.ofText layoutText)) layoutTree.named
    [.package ["a", "b"] "a.b", .imported false false ["c", "D"], .imported false false ["x", "D"],
      .imported true false ["f", "G", "h"]] := by
  have none : Text.Gap "" := by decide
  have blank : Text.Gap " " := by decide
  have line : Text.Gap "\n  " := by decide
  have ab : Text.Written ["a", "b"] "a.b" :=
    .dotted (by decide : Text.Identifier "a") none none
      (.last (by decide : Text.Identifier "b"))
  have cD : Text.Written ["c", "D"] "c . D" :=
    .dotted (by decide : Text.Identifier "c") blank blank
      (.last (by decide : Text.Identifier "D"))
  have xD : Text.Written ["x", "D"] "x.D" :=
    .dotted (by decide : Text.Identifier "x") none none
      (.last (by decide : Text.Identifier "D"))
  have fGh : Text.Written ["f", "G", "h"] "f.G\n  . h" :=
    .dotted (by decide : Text.Identifier "f") none none
      (.dotted (by decide : Text.Identifier "G") line blank
        (.last (by decide : Text.Identifier "h")))
  have names {node name : Node} := @Names.ofNamed (.ofText layoutText) node name
  exact .cons (.package rfl (names rfl (by decide) (by decide +kernel) ab)) <|
    .cons (.imported rfl (by decide) (by decide) (names rfl (by decide) (by decide +kernel) cD)) <|
    .cons (.imported rfl (by decide) (by decide) (names rfl (by decide) (by decide +kernel) xD)) <|
    .cons (.imported rfl (by decide) (by decide) (names rfl (by decide) (by decide +kernel) fGh)) .nil

theorem names_at_head_layout :
    (Imports.ofTree (.ofText layoutText) layoutTree).inPackage "C" = "a/b/C" ∧
      (Imports.ofTree (.ofText layoutText) layoutTree).singleType? "D" = some "x.D" ∧
      (Imports.ofTree (.ofText layoutText) layoutTree).staticOwner? "h" = some "f.G" := by
  obtain ⟨path, -, holds⟩ := names_at_head _ layoutTree _ layoutTree_reads
  rw [path, holds.single, holds.staticSingle]
  decide

/-- A file in which the name of the package is written with blanks. -/
def spacedText : String :=
  "package a . b ; class C \x7b \x7d"

def spacedTree : Node :=
  .word "program" none 0 27 [
    .word "package_declaration" none 0 15 [
      .token "package" 0 7,
      .word "scoped_identifier" none 8 13 [],
      .token ";" 14 15],
    .word "class_declaration" none 16 27 [
      .token "class" 16 21,
      .word "identifier" (some "name") 22 23 [],
      .word "class_body" (some "body") 24 27 []]]

/-- The blanks of the package stand in the paths of its classes. -/
theorem blanks_in_package :
    List.Forall₂ (Reads (.ofText spacedText)) spacedTree.named [.package ["a", "b"] "a . b", .other] ∧
      (Imports.ofTree (.ofText spacedText) spacedTree).inPackage "C" = "a / b/C" ∧
      String.intercalate "/" ["a", "b", "C"] ≠ "a / b/C" := by
  have blank : Text.Gap " " := by decide
  have written : Text.Written ["a", "b"] "a . b" :=
    .dotted (by decide : Text.Identifier "a") blank blank
      (.last (by decide : Text.Identifier "b"))
  have names {node name : Node} := @Names.ofNamed (.ofText spacedText) node name
  refine ⟨?_, by decide +kernel, by decide⟩
  exact .cons (.package rfl (names rfl (by decide) (by decide +kernel) written))
    (.cons (.other (by decide)) .nil)

end Imports

end SymbolIndex
