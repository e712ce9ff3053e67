import Mathlib.Data.List.Induction
import SymbolIndex.Occurrence.Table
import SymbolIndex.Proofs.Decoding

/-!
# A table as the list of its entries

A table is filled entry by entry. What a shelf holds depends on the entries of its kind alone
(`shelf_ofEntries`); under one name it shows them in the order they came in (`find_ofEntries`), and
all of its occurrences are those of the entries, in another order (`list_ofEntries_perm`).

`Refines` collects what a table shows, a field for each question that it answers, and `ofEntries_refines`
is the law: every answer can be read off the entries. The name that an entry is filed under need not be
that of its occurrence, and one name may be used in several kinds.
-/

namespace SymbolIndex

/-- Whether an occurrence is a declaration: anything but a reference. -/
def Occurrence.isDeclaration (occurrence : Occurrence) : Bool :=
  occurrence.kind != .reference

/-- The type that a reference is attributed to. -/
def Occurrence.ownerType? : Occurrence → Option String
  | .reference _ _ ownerType _ _ => some ownerType
  | _ => none

namespace Shelf

/-- Filing under a name puts the occurrence in front of what the name holds, and leaves every other
name alone. -/
theorem getD_file (shelf : Shelf) (key other : String) (occurrence : Occurrence) :
    (Shelf.file shelf key occurrence).getD other [] =
      if key = other then occurrence :: shelf.getD other [] else shelf.getD other [] := by
  rw [Shelf.file, Std.TreeMap.getD_insert]
  by_cases same : key = other
  · subst same
    rw [if_pos Std.ReflOrd.compare_self, if_pos rfl]
  · rw [if_neg same, if_neg]
    intro equal
    exact same (Std.LawfulEqCmp.eq_of_compare equal)

/-- Read in filing order, a name gains the new occurrence at its end. -/
theorem under_file (shelf : Shelf) (key other : String) (occurrence : Occurrence) :
    Shelf.under (Shelf.file shelf key occurrence) other =
      if key = other then Shelf.under shelf other ++ [occurrence] else Shelf.under shelf other := by
  rw [Shelf.under, getD_file]
  split
  · rw [List.reverse_cons, Shelf.under]
  · rfl

/-- The entry of a name, split off from the others. -/
private theorem toList_perm_split (shelf : Shelf) (key : String) :
    (shelf.toList.flatMap fun (_, filed) => filed.reverse).Perm
      ((shelf.getD key []).reverse ++
        (shelf.toList.filter fun entry => ¬(key == entry.1) = true).flatMap
          fun (_, filed) => filed.reverse) := by
  cases found : shelf[key]? with
  | none =>
    have absent : (shelf.toList.filter fun entry => ¬(key == entry.1) = true) = shelf.toList := by
      refine List.filter_eq_self.mpr fun entry member => ?_
      have known := Std.TreeMap.mem_toList_iff_getElem?_eq_some.mp member
      by_cases same : key = entry.1
      · rw [← same, found] at known
        cases known
      · simpa using same
    rw [absent, Std.TreeMap.getD_eq_getD_getElem?, found]
    exact List.Perm.refl _
  | some filed =>
    -- inserting what the shelf holds already changes nothing, so the library's law for `insert`
    -- takes the entry apart from the others
    have same : (shelf.insert key filed).toList = shelf.toList := by
      refine (Std.TreeMap.Equiv.of_forall_constGet?_eq fun other => ?_).toList_eq
      rw [Std.TreeMap.getElem?_insert]
      split
      · rename_i equal
        rw [← Std.LawfulEqCmp.eq_of_compare equal, found]
      · rfl
    have split := Std.TreeMap.toList_insert_perm (t := shelf) (k := key) (v := filed)
    rw [same] at split
    have flat := split.flatMap_right (fun (entry : String × List Occurrence) => entry.2.reverse)
    rw [Std.TreeMap.getD_eq_getD_getElem?, found]
    simpa using flat

/-- Filing adds one occurrence to a shelf. -/
theorem all_file_perm (shelf : Shelf) (key : String) (occurrence : Occurrence) :
    (Shelf.all (Shelf.file shelf key occurrence)).Perm (occurrence :: Shelf.all shelf) := by
  have filed : (Shelf.all (Shelf.file shelf key occurrence)).Perm
      ((occurrence :: shelf.getD key []).reverse ++
        (shelf.toList.filter fun entry => ¬(key == entry.1) = true).flatMap
          fun (_, filed) => filed.reverse) := by
    have flat := (Std.TreeMap.toList_insert_perm (t := shelf) (k := key)
      (v := occurrence :: shelf.getD key [])).flatMap_right
        (fun (entry : String × List Occurrence) => entry.2.reverse)
    simpa [Shelf.all, Shelf.file] using flat
  refine filed.trans ?_
  rw [List.reverse_cons, List.append_assoc]
  refine (List.perm_middle (a := occurrence)).trans ?_
  exact List.Perm.cons _ (toList_perm_split shelf key).symm

/-- A shelf is listed name by name. -/
theorem all_eq (shelf : Shelf) : Shelf.all shelf = shelf.keys.flatMap (Shelf.under shelf) := by
  rw [Shelf.all, ← Std.TreeMap.map_fst_toList_eq_keys, List.flatMap_map]
  refine List.flatMap_congr fun entry member => ?_
  have filed := Std.TreeMap.mem_toList_iff_getElem?_eq_some.mp member
  rw [Shelf.under, Std.TreeMap.getD_eq_getD_getElem?, filed]
  rfl

/-- Filing adds its name to those of a shelf. -/
theorem mem_keys_file (shelf : Shelf) (key other : String) (occurrence : Occurrence) :
    other ∈ (Shelf.file shelf key occurrence).keys ↔ key = other ∨ other ∈ shelf.keys := by
  rw [Std.TreeMap.mem_keys, Std.TreeMap.mem_keys, Shelf.file, Std.TreeMap.mem_insert,
    Std.LawfulEqCmp.compare_eq_iff_eq]

end Shelf

namespace Table

/-- Filing an occurrence changes the shelf of its kind and no other. -/
theorem shelf_insert (table : Table) (key : String) (occurrence : Occurrence)
    (kind : OccurrenceKind) :
    (table.insert key occurrence).shelf kind =
      if occurrence.kind = kind then Shelf.file (table.shelf kind) key occurrence
      else table.shelf kind := by
  unfold Table.insert
  cases occurrence <;> cases kind <;> rfl

theorem ofEntries_concat (entries : List (String × Occurrence)) (entry : String × Occurrence) :
    ofEntries (entries ++ [entry]) = (ofEntries entries).insert entry.1 entry.2 := by
  rw [ofEntries, List.foldl_append, ofEntries]
  rfl

/-- The entries of one kind. -/
def entriesOf (kind : OccurrenceKind) (entries : List (String × Occurrence)) :
    List (String × Occurrence) :=
  entries.filter (·.2.kind = kind)

theorem entriesOf_concat (kind : OccurrenceKind) (entries : List (String × Occurrence))
    (entry : String × Occurrence) :
    entriesOf kind (entries ++ [entry]) =
      if entry.2.kind = kind then entriesOf kind entries ++ [entry] else entriesOf kind entries := by
  rw [entriesOf, List.filter_append, entriesOf]
  by_cases same : entry.2.kind = kind <;> simp [same]

/-- The shelf of a kind is filled by the entries of that kind. -/
theorem shelf_ofEntries (entries : List (String × Occurrence)) (kind : OccurrenceKind) :
    (ofEntries entries).shelf kind =
      (entriesOf kind entries).foldl (fun shelf entry => Shelf.file shelf entry.1 entry.2) ∅ := by
  induction entries using List.reverseRecOn with
  | nil => cases kind <;> rfl
  | append_singleton entries entry ih =>
    rw [ofEntries_concat, shelf_insert, entriesOf_concat, ih]
    split
    · rw [List.foldl_append]
      rfl
    · rfl

/-- Under a name of a kind stand the entries with that name and kind, in the order they came in. -/
theorem find_ofEntries (entries : List (String × Occurrence)) (kind : OccurrenceKind)
    (key : String) :
    (ofEntries entries).find kind key =
      ((entriesOf kind entries).filter (·.1 = key)).map (·.2) := by
  induction entries using List.reverseRecOn with
  | nil => cases kind <;> rfl
  | append_singleton entries entry ih =>
    rw [find, ofEntries_concat, shelf_insert, entriesOf_concat]
    split
    · rw [Shelf.under_file, List.filter_append, List.map_append, ← ih, find]
      by_cases named : entry.1 = key <;> simp [named]
    · exact ih

/-- The occurrences of a kind are those of its entries. -/
theorem list_ofEntries_perm (entries : List (String × Occurrence)) (kind : OccurrenceKind) :
    ((ofEntries entries).list kind).Perm ((entriesOf kind entries).map (·.2)) := by
  induction entries using List.reverseRecOn with
  | nil => cases kind <;> exact List.Perm.refl _
  | append_singleton entries entry ih =>
    rw [list, ofEntries_concat, shelf_insert, entriesOf_concat]
    split
    · rw [List.map_append]
      refine (Shelf.all_file_perm _ _ _).trans ?_
      exact ((List.Perm.cons _ ih).trans (List.perm_append_singleton _ _).symm)
    · exact ih

/-- The occurrences of all kinds are those of the entries. -/
theorem all_ofEntries_perm (entries : List (String × Occurrence)) :
    (OccurrenceKind.all.flatMap (ofEntries entries).list).Perm (entries.map (·.2)) := by
  refine List.perm_iff_count.mpr fun occurrence => ?_
  have counted (kind : OccurrenceKind) : ((ofEntries entries).list kind).count occurrence =
      if occurrence.kind = kind then (entries.map (·.2)).count occurrence else 0 := by
    have same : (entriesOf kind entries).map (·.2) = (entries.map (·.2)).filter (·.kind = kind) := by
      rw [entriesOf, List.filter_map]
      rfl
    rw [(list_ofEntries_perm entries kind).count_eq, same]
    split
    · exact List.count_filter (by simpa)
    · exact List.count_eq_zero_of_not_mem fun member => by simp_all
  simp only [OccurrenceKind.all, List.flatMap_cons, List.flatMap_nil, List.append_nil,
    List.count_append, counted]
  cases occurrence.kind <;> simp

/-! ## What a table shows -/

theorem mem_entriesOf {kind : OccurrenceKind} {entries : List (String × Occurrence)}
    {entry : String × Occurrence} :
    entry ∈ entriesOf kind entries ↔ entry ∈ entries ∧ entry.2.kind = kind := by
  rw [entriesOf, List.mem_filter, decide_eq_true_eq]

/-- The names of a kind are those of its entries. -/
theorem mem_keys_ofEntries (entries : List (String × Occurrence)) (kind : OccurrenceKind)
    (key : String) :
    key ∈ (ofEntries entries).keys kind ↔ ∃ entry ∈ entriesOf kind entries, entry.1 = key := by
  induction entries using List.reverseRecOn with
  | nil => cases kind <;> simp [keys, shelf, ofEntries, empty, entriesOf]
  | append_singleton entries entry ih =>
    rw [keys, ofEntries_concat, shelf_insert, entriesOf_concat]
    split
    · rw [Shelf.mem_keys_file]
      simp only [List.mem_append, List.mem_singleton, or_and_right, exists_or, exists_eq_left, ← ih]
      exact or_comm
    · exact ih

/-- There are as many occurrences of a kind as entries of it. -/
theorem count_ofEntries (entries : List (String × Occurrence)) (kind : OccurrenceKind) :
    (ofEntries entries).count kind = (entriesOf kind entries).length := by
  rw [← List.length_map (·.2), ← (list_ofEntries_perm entries kind).length_eq]
  rfl

/-- There are as many occurrences as entries. -/
theorem total_ofEntries (entries : List (String × Occurrence)) :
    (ofEntries entries).total = entries.length := by
  have counted := (all_ofEntries_perm entries).length_eq
  simp only [OccurrenceKind.all, List.flatMap_cons, List.flatMap_nil, List.append_nil,
    List.length_append, List.length_map] at counted
  rw [← counted]
  simp only [total, count, Shelf.count, list]
  omega

/-- A table is empty when it has no entries. -/
theorem isEmpty_ofEntries (entries : List (String × Occurrence)) :
    (ofEntries entries).isEmpty = true ↔ entries = [] := by
  constructor
  · intro isEmpty
    refine List.eq_nil_iff_forall_not_mem.mpr fun entry member => ?_
    have bare : ((ofEntries entries).shelf entry.2.kind).isEmpty = true := by
      refine List.all_eq_true.mp isEmpty _ ?_
      cases entry.2.kind <;> decide
    have filed := (mem_keys_ofEntries entries entry.2.kind entry.1).mpr
      ⟨entry, mem_entriesOf.mpr ⟨member, rfl⟩, rfl⟩
    rw [keys, Std.TreeMap.mem_keys] at filed
    exact Std.TreeMap.not_mem_of_isEmpty bare filed
  · rintro rfl
    rfl

/-- Among references the first one has the type that is looked for. -/
theorem findSome?_ownerType? {occurrences : List Occurrence}
    (references : ∀ occurrence ∈ occurrences, occurrence.kind = .reference) :
    occurrences.findSome? Occurrence.ownerType? = occurrences.head?.bind Occurrence.ownerType? := by
  cases occurrences with
  | nil => rfl
  | cons first others =>
    cases first with
    | reference name kind ownerType owner span => rfl
    | _ => cases references _ List.mem_cons_self

/-- The type of a member is that of the first reference filed under its name. -/
theorem declaringType?_ofEntries (entries : List (String × Occurrence)) (member : String) :
    (ofEntries entries).declaringType? member =
      (entries.find? fun entry => entry.1 = member && entry.2.kind = .reference).bind
        (·.2.ownerType?) := by
  have references : ∀ occurrence ∈ (ofEntries entries).find .reference member,
      occurrence.kind = .reference := by
    rw [find_ofEntries]
    intro occurrence found
    obtain ⟨entry, kept, rfl⟩ := List.mem_map.mp found
    exact (mem_entriesOf.mp (List.mem_of_mem_filter kept)).2
  calc (ofEntries entries).declaringType? member
      = ((ofEntries entries).find .reference member).findSome? Occurrence.ownerType? := by
        refine congrArg (List.findSome? · _) (funext fun occurrence => ?_)
        cases occurrence <;> rfl
    _ = ((ofEntries entries).find .reference member).head?.bind Occurrence.ownerType? :=
        findSome?_ownerType? references
    _ = _ := by
        rw [find_ofEntries, entriesOf, List.filter_filter, List.head?_map, List.head?_filter,
          Option.bind_map]
        rfl

/-- What a table shows, by the list of entries that filled it. -/
structure Refines (table : Table) (entries : List (String × Occurrence)) : Prop where
  /-- Under a name of a kind stand the entries with that name and kind, in the order they came in. -/
  find : ∀ kind key, table.find kind key =
    (entries.filter fun entry => entry.2.kind = kind ∧ entry.1 = key).map (·.2)
  /-- Names ascend strictly in the order of their bytes. -/
  ascending : ∀ kind, (table.keys kind).Pairwise fun first second =>
    first.toUTF8.data.toList < second.toUTF8.data.toList
  keys : ∀ kind key, key ∈ table.keys kind ↔ ∃ entry ∈ entries, entry.1 = key ∧ entry.2.kind = kind
  /-- A kind is listed name by name, and so holds all of its entries. -/
  list : ∀ kind, table.list kind = (table.keys kind).flatMap (table.find kind)
  perm : ∀ kind, (table.list kind).Perm ((entries.filter (·.2.kind = kind)).map (·.2))
  count : ∀ kind, table.count kind = (entries.filter (·.2.kind = kind)).length
  total : table.total = entries.length
  summary : ∀ unresolved, (table.summary unresolved).total = entries.length
  isEmpty : table.isEmpty = true ↔ entries = []
  /-- A member is attributed to the type of the first reference under its name. -/
  declaringType? : ∀ member, table.declaringType? member =
    (entries.find? fun entry => entry.1 = member && entry.2.kind = .reference).bind (·.2.ownerType?)
  /-- At a caret stands, kind by kind, what it stands on. -/
  atCaret : ∀ line column, table.atCaret line column =
    OccurrenceKind.all.flatMap fun kind =>
      (table.list kind).filter (·.span.contains line column)

/-- **A table refines the list of its entries.** Whatever is filed under whatever names, each question that a
table answers is answered by its entries in the order they came in. -/
theorem ofEntries_refines (entries : List (String × Occurrence)) : (ofEntries entries).Refines entries where
  find kind key := by
    rw [find_ofEntries, entriesOf, List.filter_filter]
    congr 2
    funext entry
    simp [and_comm]
  ascending kind := Text.keys_ascend _
  keys kind key := by
    rw [mem_keys_ofEntries]
    constructor
    · rintro ⟨entry, kept, named⟩
      obtain ⟨member, isKind⟩ := mem_entriesOf.mp kept
      exact ⟨entry, member, named, isKind⟩
    · rintro ⟨entry, member, named, isKind⟩
      exact ⟨entry, mem_entriesOf.mpr ⟨member, isKind⟩, named⟩
  list kind := Shelf.all_eq _
  perm kind := list_ofEntries_perm entries kind
  count kind := count_ofEntries entries kind
  total := total_ofEntries entries
  summary _ := total_ofEntries entries
  isEmpty := isEmpty_ofEntries entries
  declaringType? member := declaringType?_ofEntries entries member
  atCaret line column := List.filter_flatMap

end Table

end SymbolIndex
