import Mathlib.Logic.Function.Iterate
import SymbolIndex.Proofs.MemberSearch

/-!
# The order of the member search

Pending types are looked at in the order in which they were put down, and a type puts its super class down
before its interfaces. So the search goes through the generations above the owner, one after another, and
through each generation in the order in which the links are written: `findMember_first`. That a type is
looked at only once makes no difference, since a type that comes up again brings nothing that is not
pending in front of it (`Searching.nearer`).

The super class of the super class, and so on, heads its generation (`generation_superClassAt`). It comes
before all interfaces of its own generation and of those behind it, but not before an interface that is
fewer links away. So a class of the chain is not always preferred to an interface:
`interface_overtakes_super_class` has a method of an interface named in place of the one that the class
inherits from the super class of its super class. `findMember_superClass` states both halves of the law:
which class of the chain is named when no nearer type shows the member, and what is named when one does.
-/

namespace SymbolIndex.Classpath

variable {classpath : Classpath} {owner name path : String} {kind : MemberKind}
  {attribution : Attribution} {distance : Nat} {paths : List String}

/-! ## Generations -/

/-- What the declaration of a path by itself answers for a member. -/
def shownAt (classpath : Classpath) (name : String) (kind : MemberKind) (path : String) :
    Option Attribution :=
  (classpath.type? path).bind fun decl =>
    (decl.member? name kind).map fun member => ⟨decl.path, some member.type⟩

/-- Nothing is shown where the declaration is missing or hides the member. -/
theorem shownAt_eq_none_iff : classpath.shownAt name kind path = none ↔
    ¬classpath.Shows name kind path := by
  rw [shownAt, Shows]
  cases classpath.type? path <;> simp

theorem shows_of_shownAt (shown : classpath.shownAt name kind path = some attribution) :
    classpath.Shows name kind path := by
  by_contra hidden
  rw [shownAt_eq_none_iff.mpr hidden] at shown
  cases shown

/-- The types that are so many links above the given ones, in the order in which the links are written. A
type that is reached in several ways is listed for each of them. -/
def generation (classpath : Classpath) (distance : Nat) (paths : List String) : List String :=
  (List.flatMap classpath.supertypes)^[distance] paths

/-- The generations above two lists of types are those above each. -/
theorem generation_append (distance : Nat) (paths others : List String) :
    classpath.generation distance (paths ++ others) =
      classpath.generation distance paths ++ classpath.generation distance others := by
  induction distance generalizing paths others with
  | zero => rfl
  | succ distance ih =>
    simp only [generation, Function.iterate_succ_apply, List.flatMap_append] at ih ⊢
    exact ih ..

theorem generation_cons (distance : Nat) (path : String) (paths : List String) :
    classpath.generation distance (path :: paths) =
      classpath.generation distance [path] ++ classpath.generation distance paths :=
  generation_append distance [path] paths

/-- What is above a type begins with its supertypes. -/
theorem generation_succ_singleton (distance : Nat) (path : String) :
    classpath.generation (distance + 1) [path] =
      classpath.generation distance (classpath.supertypes path) := by
  rw [generation, Function.iterate_succ_apply, List.flatMap_singleton, generation]

/-- A type is in a generation above some types when it is so above one of them. -/
theorem mem_generation {other : String} : other ∈ classpath.generation distance paths ↔
    ∃ path ∈ paths, other ∈ classpath.generation distance [path] := by
  induction paths with
  | nil =>
    have none : classpath.generation distance [] = [] := Function.iterate_fixed rfl distance
    simp [none]
  | cons path paths ih => simp [generation_cons distance path paths, ih]

/-- The links of a type are its supertypes. -/
theorem link_iff {above : String} :
    classpath.Link path above ↔ above ∈ classpath.supertypes path := by
  rw [Link, supertypes]
  cases classpath.type? path <;> simp

/-- The generation at a distance has the types that as many steps lead to. -/
theorem mem_generation_owner :
    path ∈ classpath.generation distance [owner] ↔ classpath.Steps owner distance path := by
  induction distance generalizing path with
  | zero => simp [generation, Steps]
  | succ distance ih =>
    rw [generation, Function.iterate_succ_apply', List.mem_flatMap, Steps]
    simp only [link_iff, ← ih, generation]

/-! ## The first answer -/

/-- The first answer among the types above the given ones: no nearer generation has one, and in its own it
comes first. -/
structure FirstAbove (classpath : Classpath) (name : String) (kind : MemberKind)
    (paths : List String) (distance : Nat) (attribution : Attribution) : Prop where
  here : (classpath.generation distance paths).findSome? (classpath.shownAt name kind) =
    some attribution
  nearer : ∀ near < distance,
    (classpath.generation near paths).findSome? (classpath.shownAt name kind) = none

namespace Searching

variable {seen pending : List String} {gaps : Bool}

/-- What shows the member above a type that has been seen is nearer to the pending types. By induction on
the distance: the first link from a type that has been seen leads to another such type or to a pending
one. -/
theorem nearer (searching : classpath.Searching owner name kind seen gaps pending) {other : String}
    (isSeen : path ∈ seen) (listed : other ∈ classpath.generation distance [path])
    (shown : classpath.Shows name kind other) :
    ∃ near < distance, other ∈ classpath.generation near pending := by
  induction distance generalizing path with
  | zero =>
    cases List.mem_singleton.mp listed
    exact absurd shown (searching.hidden _ isSeen)
  | succ distance ih =>
    rw [generation_succ_singleton] at listed
    obtain ⟨above, link, listed⟩ := mem_generation.mp listed
    rcases searching.followed isSeen (link_iff.mpr link) with isSeen | pends
    · obtain ⟨near, less, listed⟩ := ih isSeen listed
      exact ⟨near, Nat.lt_succ_of_lt less, listed⟩
    · exact ⟨distance, Nat.lt_succ_self distance, mem_generation.mpr ⟨above, pends, listed⟩⟩

/-- A type that has been seen does not change the first answer. -/
theorem first_skip (searching : classpath.Searching owner name kind seen gaps pending)
    (isSeen : path ∈ seen) (first : classpath.FirstAbove name kind pending distance attribution) :
    classpath.FirstAbove name kind (path :: pending) distance attribution := by
  have silent : ∀ far ≤ distance,
      (classpath.generation far [path]).findSome? (classpath.shownAt name kind) = none := by
    intro far le
    rw [List.findSome?_eq_none_iff]
    intro other listed
    refine shownAt_eq_none_iff.mpr fun shown => ?_
    obtain ⟨near, less, pends⟩ := searching.nearer isSeen listed shown
    have none := first.nearer near (Nat.lt_of_lt_of_le less le)
    exact shownAt_eq_none_iff.mp (List.findSome?_eq_none_iff.mp none other pends) shown
  constructor
  · rw [generation_cons, List.findSome?_append, silent distance (Nat.le_refl _), Option.none_or]
    exact first.here
  · intro near less
    rw [generation_cons, List.findSome?_append, silent near (Nat.le_of_lt less), Option.none_or]
    exact first.nearer near less

end Searching

/-- The supertypes of a type that shows nothing may be put behind the other types in place of it. -/
theorem FirstAbove.see {pending : List String}
    (first : classpath.FirstAbove name kind (pending ++ classpath.supertypes path) distance attribution)
    (hidden : classpath.shownAt name kind path = none) :
    ∃ distance, classpath.FirstAbove name kind (path :: pending) distance attribution := by
  have split : ∀ far, classpath.generation far (pending ++ classpath.supertypes path) =
      classpath.generation far pending ++ classpath.generation (far + 1) [path] := fun far => by
    rw [generation_append, generation_succ_singleton]
  have silent : ∀ near ≤ distance,
      (classpath.generation near [path]).findSome? (classpath.shownAt name kind) = none := by
    intro near le
    cases near with
    | zero => simpa [generation] using hidden
    | succ near =>
      have none := first.nearer near le
      rw [split, List.findSome?_append, Option.or_eq_none_iff] at none
      exact none.2
  have others : ∀ near < distance,
      (classpath.generation near pending).findSome? (classpath.shownAt name kind) = none := by
    intro near less
    have none := first.nearer near less
    rw [split, List.findSome?_append, Option.or_eq_none_iff] at none
    exact none.1
  have here := first.here
  rw [split, List.findSome?_append, Option.or_eq_some_iff] at here
  rcases here with among | ⟨notAmong, above⟩
  · refine ⟨distance, ?_, fun near less => ?_⟩
    · rw [generation_cons, List.findSome?_append, silent distance (Nat.le_refl _), Option.none_or, among]
    · rw [generation_cons, List.findSome?_append, silent near (Nat.le_of_lt less), Option.none_or,
        others near less]
  · refine ⟨distance + 1, ?_, fun near less => ?_⟩
    · rw [generation_cons, List.findSome?_append, above, Option.some_or]
    · rw [generation_cons, List.findSome?_append, silent near (Nat.le_of_lt_succ less), Option.none_or]
      rcases Nat.lt_succ_iff_lt_or_eq.mp less with nearer | rfl
      · exact others near nearer
      · exact notAmong

/-- **A search comes to the first answer.** By induction on the search: each step keeps the first answer
above the pending types. -/
theorem searchFrom_first {seen pending : List String} {gaps : Bool}
    (searching : classpath.Searching owner name kind seen gaps pending)
    (found : classpath.searchFrom name kind seen gaps pending = .found attribution) :
    ∃ distance, classpath.FirstAbove name kind pending distance attribution := by
  fun_induction searchFrom classpath name kind seen gaps pending with
  | case1 | case2 => cases found
  | case3 seen gaps path pending already ih =>
    have isSeen : path ∈ seen := by simpa using already
    have searching := searching.skip isSeen
    obtain ⟨distance, first⟩ := ih searching found
    exact ⟨distance, searching.first_skip isSeen first⟩
  | case4 seen gaps path pending fresh unknown ih =>
    obtain ⟨distance, first⟩ := ih (searching.see_unknown unknown) found
    have none : classpath.supertypes path = [] := by simp [supertypes, unknown]
    exact FirstAbove.see (by rwa [none, List.append_nil]) (by simp [shownAt, unknown])
  | case5 seen gaps path pending fresh decl known member shown =>
    cases found
    exact ⟨0, by simp [generation, shownAt, known, shown], fun near less => absurd less (Nat.not_lt_zero near)⟩
  | case6 seen gaps path pending fresh decl known hidden ih =>
    obtain ⟨distance, first⟩ := ih (searching.see_decl known hidden) found
    have above : classpath.supertypes path = decl.supertypes := by simp [supertypes, known]
    exact FirstAbove.see (by rwa [above]) (by simp [shownAt, known, hidden])

/-- **The answer is the first one.** An answer with a type is that of the first type above the owner that
shows the member, generation by generation. -/
theorem findMember_first {declaring : String} {type : JavaType}
    (answer : classpath.findMember owner name kind = .ok ⟨declaring, some type⟩) :
    ∃ distance, classpath.FirstAbove name kind [owner] distance ⟨declaring, some type⟩ := by
  unfold findMember at answer
  split at answer
  · split at answer
    · rename_i found
      cases answer
      exact searchFrom_first .start found
    · cases answer
    · cases answer
  · cases answer

namespace FirstAbove

/-- The first answer is that of a type at its distance. -/
theorem winner (first : classpath.FirstAbove name kind [owner] distance attribution) :
    ∃ winner, classpath.Steps owner distance winner ∧
      classpath.shownAt name kind winner = some attribution := by
  obtain ⟨winner, listed, shown⟩ := List.exists_of_findSome?_eq_some first.here
  exact ⟨winner, mem_generation_owner.mp listed, shown⟩

/-- No type that is nearer shows the member. -/
theorem le_of_shows (first : classpath.FirstAbove name kind [owner] distance attribution) {near : Nat}
    (steps : classpath.Steps owner near path) (shown : classpath.Shows name kind path) :
    distance ≤ near := by
  refine Nat.le_of_not_lt fun less => ?_
  have none := List.findSome?_eq_none_iff.mp (first.nearer near less) path
    (mem_generation_owner.mpr steps)
  exact shownAt_eq_none_iff.mp none shown

end FirstAbove

/-! ## The chain of super classes -/

/-- The class so many super classes above the owner. -/
def superClassAt (classpath : Classpath) (owner : String) : Nat → Option String
  | 0 => some owner
  | place + 1 => (classpath.superClassAt owner place).bind fun below =>
      (classpath.type? below).bind (·.superClass)

/-- What the class so many super classes above the owner answers for a member. -/
def superClassAnswer (classpath : Classpath) (owner name : String) (kind : MemberKind) (place : Nat) :
    Option Attribution :=
  (classpath.superClassAt owner place).bind (classpath.shownAt name kind)

/-- A class of the chain comes first in its generation. -/
theorem generation_superClassAt {place : Nat}
    (above : classpath.superClassAt owner place = some path) :
    ∃ others, classpath.generation place [owner] = path :: others := by
  induction place generalizing path with
  | zero =>
    cases above
    exact ⟨[], rfl⟩
  | succ place ih =>
    obtain ⟨below, here, decl, known, superClass⟩ :
        ∃ below, classpath.superClassAt owner place = some below ∧
          ∃ decl, classpath.type? below = some decl ∧ decl.superClass = some path := by
      simpa [superClassAt, Option.bind_eq_some_iff] using above
    obtain ⟨others, generation_eq⟩ := ih here
    have supertypes_eq : classpath.supertypes below = path :: decl.interfaces := by
      simp [supertypes, known, TypeDecl.supertypes, superClass]
    refine ⟨decl.interfaces ++ others.flatMap classpath.supertypes, ?_⟩
    rw [generation] at generation_eq
    rw [generation, Function.iterate_succ_apply', generation_eq, List.flatMap_cons, supertypes_eq]
    rfl

/-- What a search says when a class of the chain shows the member. -/
structure SuperClassSearched (classpath : Classpath) (owner name : String) (kind : MemberKind)
    (place : Nat) (attribution : Attribution) : Prop where
  /-- The class is the answer when no type that is fewer links away shows the member, whatever interfaces
  are as far away as the class. -/
  ahead : (∀ near < place, ∀ other, classpath.Steps owner near other →
      ¬classpath.Shows name kind other) →
    classpath.findMember owner name kind = .ok attribution
  /-- When there is such a type, the answer is one that is no further away, and not the class of the chain
  at its distance. -/
  overtaken : ∀ near < place, ∀ other, classpath.Steps owner near other →
    classpath.Shows name kind other →
      ∃ nearest ≤ near, ∃ winner answer, classpath.Steps owner nearest winner ∧
        classpath.superClassAt owner nearest ≠ some winner ∧
        classpath.shownAt name kind winner = some answer ∧
        classpath.findMember owner name kind = .ok answer

/-- **Super classes come before the interfaces that are as far away.** Let a class of the chain be the first
of it that shows the member. It is the answer when no nearer type shows the member; otherwise the answer is
such a type, which an interface of the chain or one above it is. -/
theorem findMember_superClass (classpath : Classpath) (owner name : String) (kind : MemberKind)
    (place : Nat) (attribution : Attribution)
    (shown : classpath.superClassAnswer owner name kind place = some attribution)
    (first : ∀ lower < place, classpath.superClassAnswer owner name kind lower = none) :
    classpath.SuperClassSearched owner name kind place attribution := by
  obtain ⟨path, above, shown⟩ := Option.bind_eq_some_iff.mp shown
  obtain ⟨others, generation_eq⟩ := generation_superClassAt above
  have steps : classpath.Steps owner place path :=
    mem_generation_owner.mp (generation_eq ▸ List.mem_cons_self)
  have shows : classpath.Shows name kind path := shows_of_shownAt shown
  obtain ⟨declaring, type, answer⟩ := findMember_of_shows (reaches_iff_steps.mpr ⟨place, steps⟩) shows
  obtain ⟨distance, firstAbove⟩ := findMember_first answer
  obtain ⟨winner, winnerSteps, winnerShown⟩ := firstAbove.winner
  constructor
  · intro hidden
    have isPlace : distance = place := by
      refine Nat.le_antisymm (firstAbove.le_of_shows steps shows) (Nat.le_of_not_lt fun less => ?_)
      exact hidden distance less winner winnerSteps (shows_of_shownAt winnerShown)
    have here := firstAbove.here
    rw [isPlace, generation_eq, List.findSome?_cons, shown] at here
    rw [answer, ← Option.some.inj here]
  · intro near less other otherSteps otherShows
    have le : distance ≤ near := firstAbove.le_of_shows otherSteps otherShows
    refine ⟨distance, le, winner, _, winnerSteps, fun onChain => ?_, winnerShown, answer⟩
    have none := first distance (Nat.lt_of_le_of_lt le less)
    rw [superClassAnswer, onChain, Option.bind_some, winnerShown] at none
    cases none

/-- Three classes, one below the other. The uppermost declares a method, and so does an interface of the
class in the middle, which is as far away from the lowest. -/
def interfaceBeside : Classpath :=
  ⟨[.ofDecls "map" [⟨"A", some "B", [], [], [], true⟩, ⟨"B", some "C", ["I"], [], [], true⟩,
    ⟨"C", none, [], [], [⟨"run", .primitive .void⟩], true⟩,
    ⟨"I", none, [], [], [⟨"run", .primitive .int⟩], true⟩]]⟩

theorem findMember_superClass_beside :
    interfaceBeside.superClassAnswer "A" "run" .method 2 = some ⟨"C", some (.primitive .void)⟩ ∧
      (∀ lower < 2, interfaceBeside.superClassAnswer "A" "run" .method lower = none) ∧
      interfaceBeside.SuperClassSearched "A" "run" .method 2 ⟨"C", some (.primitive .void)⟩ ∧
      (interfaceBeside.findMember "A" "run" .method).toOption =
        some ⟨"C", some (.primitive .void)⟩ := by
  have shown : interfaceBeside.superClassAnswer "A" "run" .method 2 =
      some ⟨"C", some (.primitive .void)⟩ := by decide +kernel
  have first : ∀ lower < 2, interfaceBeside.superClassAnswer "A" "run" .method lower = none := by
    decide +kernel
  exact ⟨shown, first, findMember_superClass interfaceBeside "A" "run" .method 2 _ shown first,
    by decide +kernel⟩

/-- The same three classes, with the interface at the lowest of them. -/
def interfaceBelow : Classpath :=
  ⟨[.ofDecls "map" [⟨"A", some "B", ["I"], [], [], true⟩, ⟨"B", some "C", [], [], [], true⟩,
    ⟨"C", none, [], [], [⟨"run", .primitive .void⟩], true⟩,
    ⟨"I", none, [], [], [⟨"run", .primitive .int⟩], true⟩]]⟩

/-- The interface of the lowest class is named, and not the uppermost class, which is the first of the chain
that declares the method. -/
theorem interface_overtakes_super_class :
    interfaceBelow.superClassAnswer "A" "run" .method 2 = some ⟨"C", some (.primitive .void)⟩ ∧
      (∀ lower < 2, interfaceBelow.superClassAnswer "A" "run" .method lower = none) ∧
      (interfaceBelow.findMember "A" "run" .method).toOption = some ⟨"I", some (.primitive .int)⟩ := by
  decide +kernel

end SymbolIndex.Classpath
