import SymbolIndex.Walk.TypeName

/-!
# Qualified names

A dotted name does not show where its package ends. Every split of its identifiers into a package and a
nested type spells a path of its own, and the name stands for the path of the longest package that gives a
known type: `absoluteType_longestPackage`. An identifier has none of the three separators, so the dots of
the name give back the identifiers that it was written with (`Text.pieces_intercalate`), and the slashes and
dollars of a path give them back once more (`identifiersOf_pathOf`). What is lost in the path is nothing but
the place where they change.
-/

namespace SymbolIndex

namespace Text

/-- Texts without separators are given back when a text is cut at all of them, whichever stands between. -/
theorem splitOnP_intercalate (isSep : Char → Bool) (sep : Char) (separates : isSep sep)
    {texts : List (List Char)} (clean : ∀ text ∈ texts, ∀ c ∈ text, isSep c = false) (nonempty : texts ≠ []) :
    ([sep].intercalate texts).splitOnP isSep = texts := by
  induction texts with
  | nil => exact absurd rfl nonempty
  | cons text texts ih =>
    obtain ⟨first, others⟩ := List.forall_mem_cons.mp clean
    match texts with
    | [] => simpa using List.splitOnP_eq_singleton first
    | next :: texts =>
      rw [List.intercalate_cons_cons, List.append_assoc, List.singleton_append,
        List.splitOnP_append_cons_of_forall_mem first sep separates,
        ih others (List.cons_ne_nil next texts)]

/-- The first answer from the top of a range is that of the greatest number that has one. -/
theorem findSome?_range_reverse {α : Type} {answer : Nat → Option α} {bound : Nat} {found : α} :
    (List.range bound).reverse.findSome? answer = some found ↔
      ∃ number < bound, answer number = some found ∧
        ∀ greater < bound, number < greater → answer greater = none := by
  induction bound with
  | zero => simp
  | succ bound ih =>
    rw [List.range_succ, List.reverse_append, List.reverse_singleton, List.singleton_append,
      List.findSome?_cons]
    cases top : answer bound with
    | none =>
      rw [ih]
      constructor
      · rintro ⟨number, less, here, above⟩
        refine ⟨number, Nat.lt_succ_of_lt less, here, fun greater within far => ?_⟩
        rcases Nat.lt_succ_iff_lt_or_eq.mp within with within | rfl
        · exact above greater within far
        · exact top
      · rintro ⟨number, less, here, above⟩
        rcases Nat.lt_succ_iff_lt_or_eq.mp less with less | rfl
        · exact ⟨number, less, here, fun greater within => above greater (Nat.lt_succ_of_lt within)⟩
        · rw [top] at here
          cases here
    | some first =>
      constructor
      · rintro ⟨⟩
        exact ⟨bound, Nat.lt_succ_self bound, top, fun greater within far => by omega⟩
      · rintro ⟨number, less, here, above⟩
        rcases Nat.lt_succ_iff_lt_or_eq.mp less with less | rfl
        · have none := above bound (Nat.lt_succ_self bound) less
          rw [top] at none
          cases none
        · exact top.symm.trans here

end Text

namespace Walk

variable {env : Env} {scope : Scope} {names : List String}

/-- A text that can stand between separators of names. -/
structure IsIdentifier (name : String) : Prop where
  dotless : '.' ∉ name.toList
  slashless : '/' ∉ name.toList
  dollarless : '$' ∉ name.toList

/-- The characters that stand between the identifiers of a path. -/
def isPathSeparator (c : Char) : Bool :=
  c == '/' || c == '$'

/-- The identifiers of a path: what stands between its slashes and dollars. -/
def identifiersOf (path : String) : List String :=
  (path.toList.splitOnP isPathSeparator).map String.ofList

/-- An identifier has no separator in it. -/
theorem IsIdentifier.clean {name : String} (identifier : IsIdentifier name) :
    ∀ c ∈ name.toList, isPathSeparator c = false := by
  intro c member
  have notSlash : c ≠ '/' := fun same => identifier.slashless (same ▸ member)
  have notDollar : c ≠ '$' := fun same => identifier.dollarless (same ▸ member)
  simp [isPathSeparator, notSlash, notDollar]

/-- **A path gives back the identifiers that it was made of**, the package in front of the type. -/
theorem identifiersOf_pathOf {package type : List String}
    (identifiers : ∀ name ∈ package ++ type, IsIdentifier name) (nonempty : type ≠ []) :
    identifiersOf (pathOf package type) = package ++ type := by
  have clean : ∀ texts : List String, (∀ text ∈ texts, IsIdentifier text) →
      ∀ text ∈ texts.map String.toList, ∀ c ∈ text, isPathSeparator c = false := by
    intro texts all text member
    obtain ⟨name, listed, rfl⟩ := List.mem_map.mp member
    exact (all name listed).clean
  obtain ⟨ofPackage, ofType⟩ := List.forall_mem_append.mp identifiers
  have typeParts := Text.splitOnP_intercalate isPathSeparator '$' rfl (clean type ofType)
    (by simpa using nonempty)
  have parts : (pathOf package type).toList.splitOnP isPathSeparator =
      package.map String.toList ++ type.map String.toList := by
    cases package with
    | nil => simpa [pathOf, String.toList_intercalate] using typeParts
    | cons first others =>
      have packageParts := Text.splitOnP_intercalate isPathSeparator '/' rfl
        (clean (first :: others) ofPackage) (by simp)
      have split : (pathOf (first :: others) type).toList =
          ['/'].intercalate ((first :: others).map String.toList) ++
            '/' :: ['$'].intercalate (type.map String.toList) := by
        simp [pathOf, String.toList_intercalate]
      rw [split, List.splitOnP_append_cons _ _ rfl, packageParts, typeParts]
  rw [identifiersOf, parts, ← List.map_append, List.map_map]
  simp

/-! ## The longest package -/

/-- The path of a list of identifiers when so many of them are the package. -/
def withPackage (names : List String) (length : Nat) : String :=
  pathOf (names.take length) (names.drop length)

/-- What a dotted name with the given identifiers stands for. -/
structure LongestPackage (env : Env) (scope : Scope) (names : List String) : Prop where
  /-- It stands for the path of the longest package that gives a known type. -/
  longest : ∀ path, absoluteType env scope (String.intercalate "." names) = some path ↔
    ∃ length < names.length, path = withPackage names length ∧ env.knows scope path ∧
      ∀ longer < names.length, length < longer → ¬env.knows scope (withPackage names longer)
  /-- It stands for a path as soon as one package gives a known type. -/
  some_iff : (absoluteType env scope (String.intercalate "." names)).isSome ↔
    ∃ length < names.length, env.knows scope (withPackage names length)
  /-- The path is that of a known type, -/
  known : ∀ path, absoluteType env scope (String.intercalate "." names) = some path →
    env.knows scope path
  /-- and gives back the identifiers. -/
  recovered : ∀ path, absoluteType env scope (String.intercalate "." names) = some path →
    identifiersOf path = names

/-- The splits of a dotted name are those of its identifiers, tried from the longest package on. -/
theorem absoluteType_intercalate (env : Env) (scope : Scope)
    (identifiers : ∀ name ∈ names, IsIdentifier name) (nonempty : names ≠ []) :
    absoluteType env scope (String.intercalate "." names) =
      (List.range names.length).reverse.findSome? fun length =>
        if env.knows scope (withPackage names length) then some (withPackage names length) else none := by
  have parts : Text.pieces '.' (String.intercalate "." names) = names :=
    Text.pieces_intercalate (fun name listed => (identifiers name listed).dotless) nonempty
  rw [absoluteType, parts]
  rfl

/-- **A path is cut into the identifiers again** wherever the package ends. -/
theorem identifiersOf_withPackage {length : Nat} (identifiers : ∀ name ∈ names, IsIdentifier name)
    (less : length < names.length) : identifiersOf (withPackage names length) = names := by
  rw [withPackage, identifiersOf_pathOf, List.take_append_drop]
  · rwa [List.take_append_drop]
  · exact List.ne_nil_of_length_pos (by rw [List.length_drop]; omega)

/-- **A qualified name stands for the known type with the longest package.** In every scope and for all
identifiers: a path is the answer just when it is that of the longest package which gives a known type. -/
theorem absoluteType_longestPackage (env : Env) (scope : Scope) (names : List String)
    (nonempty : names ≠ []) (identifiers : ∀ name ∈ names, IsIdentifier name) :
    LongestPackage env scope names := by
  have tried := absoluteType_intercalate env scope identifiers nonempty
  have longest : ∀ path, absoluteType env scope (String.intercalate "." names) = some path ↔
      ∃ length < names.length, path = withPackage names length ∧ env.knows scope path ∧
        ∀ longer < names.length, length < longer → ¬env.knows scope (withPackage names longer) := by
    intro path
    rw [tried, Text.findSome?_range_reverse]
    refine exists_congr fun length => and_congr_right fun _ => ?_
    simp only [Option.ite_none_right_eq_some, Option.some.injEq, ite_eq_right_iff, reduceCtorEq, imp_false]
    constructor
    · rintro ⟨⟨known, rfl⟩, above⟩
      exact ⟨rfl, known, above⟩
    · rintro ⟨rfl, known, above⟩
      exact ⟨⟨known, rfl⟩, above⟩
  refine ⟨longest, ?_, ?_, ?_⟩
  · rw [tried, List.findSome?_isSome_iff]
    simp
  · intro path answer
    obtain ⟨length, _, _, known, _⟩ := (longest path).mp answer
    exact known
  · intro path answer
    obtain ⟨length, less, rfl, _⟩ := (longest path).mp answer
    exact identifiersOf_withPackage identifiers less

/-- A class path that knows a class of a package and a nested class whose dotted names are the same. -/
def ambiguous : Env :=
  .ofTree (.ofText "") (.ofChildren ⟨"program", none, true, false, false, 0, 0⟩ [])
    ⟨[.ofDecls "map" [⟨"a/b/C", none, [], [], [], true⟩, ⟨"a/b$C", none, [], [], [], true⟩]]⟩

theorem absoluteType_longestPackage_ambiguous :
    ["a", "b", "C"] ≠ [] ∧ (∀ name ∈ ["a", "b", "C"], IsIdentifier name) ∧
      LongestPackage ambiguous {} ["a", "b", "C"] ∧
      ambiguous.knows {} "a/b$C" ∧ absoluteType ambiguous {} "a.b.C" = some "a/b/C" := by
  have identifiers : ∀ name ∈ ["a", "b", "C"], IsIdentifier name := by
    simp only [List.forall_mem_cons]
    exact ⟨⟨by decide, by decide, by decide⟩, ⟨by decide, by decide, by decide⟩,
      ⟨by decide, by decide, by decide⟩, by simp⟩
  have nonempty : ["a", "b", "C"] ≠ [] := List.cons_ne_nil _ _
  exact ⟨nonempty, identifiers, absoluteType_longestPackage ambiguous {} _ nonempty identifiers,
    by decide +kernel, by decide +kernel⟩

end Walk

end SymbolIndex
