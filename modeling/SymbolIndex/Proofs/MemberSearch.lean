import Mathlib.Logic.Relation
import SymbolIndex.Classpath.Search

/-!
# The member search decides membership

A search for a member looks at pending paths one after another, puts the supertypes of each behind
them and looks at no path twice. It is compared here with the hierarchy itself: `Link` leads from a
known type to a supertype, `Reaches` follows any number of links, and `Steps` counts them.

`Level` is what the search keeps true. The pending paths fall into those at the distance that is being
searched and those one link further, all nearer types have been seen, and the links of every type that
has been seen lead to types that have been seen or are pending. So the first type that shows the member
is as near as any (`searchFrom_verdict`), and when nothing is pending the types that have been seen are
just those that the owner reaches. `findMember_decides` states the four ends of a search with both
directions each. Cycles and unknown supertypes are no exception; that a search ends at all is part of
its definition.
-/

namespace SymbolIndex.Classpath

variable {classpath : Classpath} {owner name : String} {kind : MemberKind}

/-! ## The hierarchy of a class path -/

/-- Every source lists its declarations under their own paths. -/
def Keyed (classpath : Classpath) : Prop :=
  ∀ source ∈ classpath.sources, ∀ path decl, source.type? path = some decl → decl.path = path

theorem Keyed.path_eq (keyed : classpath.Keyed) {path : String} {decl : TypeDecl}
    (known : classpath.type? path = some decl) : decl.path = path := by
  obtain ⟨source, member, found⟩ := List.exists_of_findSome?_eq_some known
  exact keyed source member path decl found

/-- Declarations that are added to a source are asked before it, the last one first. -/
theorem type?_foldl_add (source : TypeSource) (decls : List TypeDecl) (path : String) :
    (decls.foldl TypeSource.add source).type? path =
      (decls.reverse.find? (·.path == path)).or (source.type? path) := by
  induction decls generalizing source with
  | nil => rfl
  | cons first others ih =>
    have added : (source.add first).type? path =
        ([first].find? (·.path == path)).or (source.type? path) := by
      rw [TypeSource.type?, TypeSource.add, Std.TreeMap.getElem?_insert]
      by_cases same : first.path = path
      · simp [same]
      · simp [same, TypeSource.type?]
    rw [List.foldl_cons, ih, added, List.reverse_cons, List.find?_append, Option.or_assoc]

/-- A source that is built from declarations has the last one of each path. -/
theorem type?_ofDecls (name : String) (decls : List TypeDecl) (path : String) :
    (TypeSource.ofDecls name decls).type? path = decls.reverse.find? (·.path == path) := by
  rw [TypeSource.ofDecls, type?_foldl_add]
  exact Option.or_none

/-- A source that is built from declarations lists them under their own paths. -/
theorem ofDecls_keyed (name : String) (decls : List TypeDecl) (path : String) (decl : TypeDecl)
    (found : (TypeSource.ofDecls name decls).type? path = some decl) : decl.path = path := by
  rw [type?_ofDecls] at found
  have same := List.find?_some found
  exact beq_iff_eq.mp same

theorem knows_of_type? {path : String} {decl : TypeDecl}
    (known : classpath.type? path = some decl) : classpath.knows path = true := by
  rw [knows, known]
  rfl

/-- One link up the hierarchy of the class path. -/
def Link (classpath : Classpath) (path above : String) : Prop :=
  ∃ decl, classpath.type? path = some decl ∧ above ∈ decl.supertypes

/-- A path where the class path sees no further: it is unknown or not declared completely. -/
def Ends (classpath : Classpath) (path : String) : Prop :=
  classpath.type? path = none ∨ ∃ decl, classpath.type? path = some decl ∧ decl.complete = false

/-- A path whose declaration shows a member of the given name and kind. -/
def Shows (classpath : Classpath) (name : String) (kind : MemberKind) (path : String) : Prop :=
  ∃ decl, classpath.type? path = some decl ∧ (decl.member? name kind).isSome

theorem shows_of_member? {path : String} {decl : TypeDecl} {member : Member}
    (known : classpath.type? path = some decl) (shown : decl.member? name kind = some member) :
    classpath.Shows name kind path :=
  ⟨decl, known, by rw [shown]; rfl⟩

/-- A type that is reached over any number of links, none included. -/
abbrev Reaches (classpath : Classpath) : String → String → Prop :=
  Relation.ReflTransGen classpath.Link

/-- A type that is reached over the given number of links. -/
def Steps (classpath : Classpath) (owner : String) : Nat → String → Prop
  | 0, path => path = owner
  | distance + 1, path => ∃ below, classpath.Steps owner distance below ∧ classpath.Link below path

theorem reaches_iff_steps {path : String} :
    classpath.Reaches owner path ↔ ∃ distance, classpath.Steps owner distance path := by
  constructor
  · intro way
    induction way with
    | refl => exact ⟨0, rfl⟩
    | tail _ link ih =>
      obtain ⟨distance, steps⟩ := ih
      exact ⟨distance + 1, _, steps, link⟩
  · rintro ⟨distance, steps⟩
    induction distance generalizing path with
    | zero => exact steps ▸ .refl
    | succ distance ih =>
      obtain ⟨below, steps, link⟩ := steps
      exact (ih steps).tail link

/-! ## What the search keeps true -/

/-- A search that has seen some paths and has others pending: those in `front` at the given distance
from the owner, those in `back` one link further. -/
structure Level (classpath : Classpath) (owner : String) (seen front back : List String)
    (distance : Nat) : Prop where
  atFront : ∀ path ∈ front, classpath.Steps owner distance path
  atBack : ∀ path ∈ back, classpath.Steps owner (distance + 1) path
  nearer : ∀ near < distance, ∀ path, classpath.Steps owner near path → path ∈ seen
  here : ∀ path, classpath.Steps owner distance path → path ∈ seen ∨ path ∈ front
  reached : ∀ path ∈ seen, classpath.Reaches owner path
  followed : ∀ path ∈ seen, ∀ above, classpath.Link path above →
    above ∈ seen ∨ above ∈ front ++ back

namespace Level

variable {seen front back : List String} {distance : Nat} {path : String}

theorem start : classpath.Level owner [] [owner] [] 0 where
  atFront _ member := List.mem_singleton.mp member
  atBack _ member := nomatch member
  nearer near less := absurd less (Nat.not_lt_zero near)
  here _ steps := .inr (List.mem_singleton.mpr steps)
  reached _ member := nomatch member
  followed _ member := nomatch member

/-- When a distance has been searched through, the next one is at hand. -/
theorem next (level : classpath.Level owner seen [] back distance) :
    classpath.Level owner seen back [] (distance + 1) where
  atFront := level.atBack
  atBack _ member := nomatch member
  nearer near less path steps := by
    rcases Nat.lt_succ_iff_lt_or_eq.mp less with less | rfl
    · exact level.nearer near less path steps
    · exact (level.here path steps).resolve_right List.not_mem_nil
  here path steps := by
    obtain ⟨below, steps, link⟩ := steps
    have isSeen := (level.here below steps).resolve_right List.not_mem_nil
    exact level.followed below isSeen path link
  reached := level.reached
  followed path member above link := by
    simpa using level.followed path member above link

/-- A path that has been seen is passed over. -/
theorem skip (level : classpath.Level owner seen (path :: front) back distance)
    (already : path ∈ seen) : classpath.Level owner seen front back distance where
  atFront other member := level.atFront other (.tail _ member)
  atBack := level.atBack
  nearer := level.nearer
  here other steps := by
    rcases level.here other steps with isSeen | pends
    · exact .inl isSeen
    · rcases List.mem_cons.mp pends with rfl | pends
      · exact .inl already
      · exact .inr pends
  reached := level.reached
  followed other member above link := by
    rcases level.followed other member above link with isSeen | pends
    · exact .inl isSeen
    · rcases List.mem_cons.mp pends with rfl | pends
      · exact .inl already
      · exact .inr pends

/-- A path is seen, and what its links lead to is put behind the pending paths. -/
theorem see (level : classpath.Level owner seen (path :: front) back distance) {above : List String}
    (links : ∀ other, classpath.Link path other ↔ other ∈ above) :
    classpath.Level owner (path :: seen) front (back ++ above) distance where
  atFront other member := level.atFront other (.tail _ member)
  atBack other member := by
    rcases List.mem_append.mp member with before | new
    · exact level.atBack other before
    · exact ⟨path, level.atFront path List.mem_cons_self, (links other).mpr new⟩
  nearer near less other steps := .tail _ (level.nearer near less other steps)
  here other steps := by
    rcases level.here other steps with isSeen | pends
    · exact .inl (.tail _ isSeen)
    · rcases List.mem_cons.mp pends with rfl | pends
      · exact .inl List.mem_cons_self
      · exact .inr pends
  reached other member := by
    rcases List.mem_cons.mp member with rfl | earlier
    · exact reaches_iff_steps.mpr ⟨distance, level.atFront other List.mem_cons_self⟩
    · exact level.reached other earlier
  followed other member above' link := by
    rw [← List.append_assoc]
    rcases List.mem_cons.mp member with rfl | earlier
    · exact .inr (List.mem_append_right _ ((links above').mp link))
    · rcases level.followed other earlier above' link with isSeen | pends
      · exact .inl (.tail _ isSeen)
      · rcases List.mem_cons.mp pends with rfl | pends
        · exact .inl List.mem_cons_self
        · exact .inr (List.mem_append_left _ pends)

/-- When nothing is pending, every type that the owner reaches has been seen. -/
theorem seen_iff (level : classpath.Level owner seen [] [] distance) :
    path ∈ seen ↔ classpath.Reaches owner path := by
  refine ⟨level.reached path, fun way => ?_⟩
  induction way with
  | refl =>
    cases distance with
    | zero => exact (level.here owner rfl).resolve_right List.not_mem_nil
    | succ distance => exact level.nearer 0 (Nat.succ_pos distance) owner rfl
  | tail _ link ih => exact (level.followed _ ih _ link).resolve_right List.not_mem_nil

end Level

theorem ends_iff {path : String} {decl : TypeDecl} (known : classpath.type? path = some decl) :
    classpath.Ends path ↔ (!decl.complete) = true := by
  simp [Ends, known]

/-- A search in progress: no path that has been seen shows the member, and a gap was met just when one
of them ends the hierarchy. -/
structure Searching (classpath : Classpath) (owner name : String) (kind : MemberKind)
    (seen : List String) (gaps : Bool) (pending : List String) : Prop where
  level : ∃ front back distance, pending = front ++ back ∧
    classpath.Level owner seen front back distance
  hidden : ∀ path ∈ seen, ¬classpath.Shows name kind path
  gaps_iff : gaps = true ↔ ∃ path ∈ seen, classpath.Ends path

namespace Searching

variable {seen pending : List String} {gaps : Bool} {path : String}

theorem start : classpath.Searching owner name kind [] false [owner] where
  level := ⟨[owner], [], 0, rfl, .start⟩
  hidden _ member := nomatch member
  gaps_iff := by simp

/-- The next pending path is at the distance that is being searched. -/
theorem head (searching : classpath.Searching owner name kind seen gaps (path :: pending)) :
    ∃ front back distance, pending = front ++ back ∧
      classpath.Level owner seen (path :: front) back distance := by
  obtain ⟨front, back, distance, split, level⟩ := searching.level
  cases front with
  | nil =>
    have isBack : path :: pending = back := split
    exact ⟨pending, [], distance + 1, (List.append_nil _).symm, isBack ▸ level.next⟩
  | cons first front =>
    cases split
    exact ⟨front, back, distance, rfl, level⟩

theorem skip (searching : classpath.Searching owner name kind seen gaps (path :: pending))
    (already : path ∈ seen) : classpath.Searching owner name kind seen gaps pending := by
  obtain ⟨front, back, distance, split, level⟩ := searching.head
  exact ⟨⟨front, back, distance, split, level.skip already⟩, searching.hidden, searching.gaps_iff⟩

/-- A path without the member has been looked at. -/
theorem see (searching : classpath.Searching owner name kind seen gaps (path :: pending))
    {above : List String} (links : ∀ other, classpath.Link path other ↔ other ∈ above)
    (hidden : ¬classpath.Shows name kind path) {gaps' : Bool}
    (ends : gaps' = true ↔ gaps = true ∨ classpath.Ends path) :
    classpath.Searching owner name kind (path :: seen) gaps' (pending ++ above) := by
  obtain ⟨front, back, distance, rfl, level⟩ := searching.head
  refine ⟨⟨front, back ++ above, distance, List.append_assoc .., level.see links⟩, ?_, ?_⟩
  · intro other member
    rcases List.mem_cons.mp member with rfl | earlier
    · exact hidden
    · exact searching.hidden other earlier
  · rw [ends, searching.gaps_iff, or_comm]
    simp

/-- A path that is not known is a gap. -/
theorem see_unknown (searching : classpath.Searching owner name kind seen gaps (path :: pending))
    (unknown : classpath.type? path = none) :
    classpath.Searching owner name kind (path :: seen) true pending := by
  have none : ∀ other, classpath.Link path other ↔ other ∈ ([] : List String) := by
    simp [Link, unknown]
  have step : classpath.Searching owner name kind (path :: seen) true (pending ++ []) :=
    searching.see none (by simp [Shows, unknown]) (by simp [Ends, unknown])
  rwa [List.append_nil] at step

/-- A declaration without the member is a gap when it is not complete, and puts its supertypes down. -/
theorem see_decl (searching : classpath.Searching owner name kind seen gaps (path :: pending))
    {decl : TypeDecl} (known : classpath.type? path = some decl)
    (hidden : decl.member? name kind = none) :
    classpath.Searching owner name kind (path :: seen) (gaps || !decl.complete)
      (pending ++ decl.supertypes) := by
  refine searching.see (by simp [Link, known]) (by simp [Shows, known, hidden]) ?_
  rw [Bool.or_eq_true, ends_iff known]

/-- What a path that has been seen leads to has been seen or is pending. -/
theorem followed (searching : classpath.Searching owner name kind seen gaps pending)
    (isSeen : path ∈ seen) {above : String} (link : classpath.Link path above) :
    above ∈ seen ∨ above ∈ pending := by
  obtain ⟨front, back, distance, rfl, level⟩ := searching.level
  exact level.followed path isSeen above link

end Searching

/-! ## How a search ends -/

/-- What the end of a search says about the hierarchy above the owner. -/
def Verdict (classpath : Classpath) (owner name : String) (kind : MemberKind) : SearchResult → Prop
  | .found attribution => ∃ distance path decl member, classpath.Steps owner distance path ∧
      classpath.type? path = some decl ∧ decl.member? name kind = some member ∧
      attribution = ⟨decl.path, some member.type⟩ ∧
      ∀ near < distance, ∀ other, classpath.Steps owner near other →
        ¬classpath.Shows name kind other
  | .gap => (∀ path, classpath.Reaches owner path → ¬classpath.Shows name kind path) ∧
      ∃ path, classpath.Reaches owner path ∧ classpath.Ends path
  | .absent => (∀ path, classpath.Reaches owner path → ¬classpath.Shows name kind path) ∧
      ∀ path, classpath.Reaches owner path → ¬classpath.Ends path

/-- A path that does not end the hierarchy is known and declared completely. -/
theorem not_ends_iff {path : String} :
    ¬classpath.Ends path ↔ ∃ decl, classpath.type? path = some decl ∧ decl.complete = true := by
  cases known : classpath.type? path with
  | none => simp [Ends, known]
  | some decl => simp [Ends, known]

/-- When nothing is pending, what has been seen decides. -/
theorem Searching.verdict {seen : List String} {gaps : Bool}
    (searching : classpath.Searching owner name kind seen gaps []) :
    classpath.Verdict owner name kind (if gaps then .gap else .absent) := by
  obtain ⟨front, back, distance, split, level⟩ := searching.level
  obtain ⟨rfl, rfl⟩ := List.append_eq_nil_iff.mp split.symm
  have hidden : ∀ path, classpath.Reaches owner path → ¬classpath.Shows name kind path :=
    fun path way => searching.hidden path (level.seen_iff.mpr way)
  cases gaps with
  | true =>
    obtain ⟨path, isSeen, ends⟩ := searching.gaps_iff.mp rfl
    exact ⟨hidden, path, level.seen_iff.mp isSeen, ends⟩
  | false =>
    refine ⟨hidden, fun path way ends => ?_⟩
    have gap := searching.gaps_iff.mpr ⟨path, level.seen_iff.mpr way, ends⟩
    cases gap

/-- **A search decides what the hierarchy shows.** By induction on the search: one step keeps
`Searching`, and the search stops at the first path that shows the member or when nothing is
pending. -/
theorem searchFrom_verdict {seen pending : List String} {gaps : Bool}
    (searching : classpath.Searching owner name kind seen gaps pending) :
    classpath.Verdict owner name kind (classpath.searchFrom name kind seen gaps pending) := by
  fun_induction searchFrom classpath name kind seen gaps pending with
  | case1 seen => exact searching.verdict
  | case2 seen gaps noGap =>
    have same : gaps = false := by simpa using noGap
    subst same
    exact searching.verdict
  | case3 seen gaps path pending already ih => exact ih (searching.skip (by simpa using already))
  | case4 seen gaps path pending fresh unknown ih => exact ih (searching.see_unknown unknown)
  | case5 seen gaps path pending fresh decl known member shown =>
    obtain ⟨front, back, distance, -, level⟩ := searching.head
    refine ⟨distance, path, decl, member, level.atFront path List.mem_cons_self, known, shown, rfl, ?_⟩
    exact fun near less other steps =>
      searching.hidden other (level.nearer near less other steps)
  | case6 seen gaps path pending fresh decl known hidden ih => exact ih (searching.see_decl known hidden)

theorem search_verdict (classpath : Classpath) (owner name : String) (kind : MemberKind) :
    classpath.Verdict owner name kind (classpath.searchFrom name kind [] false [owner]) :=
  searchFrom_verdict .start

/-! ## The answers -/

/-- What an answer says about the types that the owner reaches. -/
structure MemberDecided (classpath : Classpath) (owner name : String) (kind : MemberKind) : Prop where
  /-- The owner is not known. -/
  unknown : classpath.findMember owner name kind = .error (.type owner) ↔
    classpath.type? owner = none
  /-- Some type shows the member. -/
  shown : (∃ declaring type, classpath.findMember owner name kind = .ok ⟨declaring, some type⟩) ↔
    ∃ path, classpath.Reaches owner path ∧ classpath.Shows name kind path
  /-- The type in the answer is as near as any that shows the member, and has it with the type in the
  answer. -/
  nearest : ∀ declaring type,
    classpath.findMember owner name kind = .ok ⟨declaring, some type⟩ →
      ∃ distance decl member, classpath.Steps owner distance declaring ∧
        classpath.type? declaring = some decl ∧ decl.member? name kind = some member ∧
        member.type = type ∧
        ∀ near path, classpath.Steps owner near path → classpath.Shows name kind path → distance ≤ near
  /-- No type shows the member, but one may hide it. -/
  hidden : classpath.findMember owner name kind = .ok ⟨owner, none⟩ ↔
    classpath.knows owner ∧
      (∀ path, classpath.Reaches owner path → ¬classpath.Shows name kind path) ∧
      ∃ path, classpath.Reaches owner path ∧ classpath.Ends path
  /-- No type has the member. -/
  absent : classpath.findMember owner name kind = .error (.member owner name) ↔
    (∀ path, classpath.Reaches owner path → ¬classpath.Shows name kind path) ∧
      ∀ path, classpath.Reaches owner path →
        ∃ decl, classpath.type? path = some decl ∧ decl.complete = true
  /-- There is no other answer. -/
  only : classpath.findMember owner name kind = .error (.type owner) ∨
    (∃ declaring type, classpath.findMember owner name kind = .ok ⟨declaring, some type⟩) ∨
    classpath.findMember owner name kind = .ok ⟨owner, none⟩ ∨
    classpath.findMember owner name kind = .error (.member owner name)

/-- The ways in which a search for a member is answered. -/
inductive Answered (classpath : Classpath) (owner name : String) (kind : MemberKind) :
    Except Unresolved Attribution → Prop
  | unknown (unknown : classpath.type? owner = none) :
      Answered classpath owner name kind (.error (.type owner))
  | shown {distance : Nat} {path : String} {decl : TypeDecl} {member : Member}
      (steps : classpath.Steps owner distance path) (known : classpath.type? path = some decl)
      (shown : decl.member? name kind = some member)
      (nearest : ∀ near < distance, ∀ other, classpath.Steps owner near other →
        ¬classpath.Shows name kind other) :
      Answered classpath owner name kind (.ok ⟨decl.path, some member.type⟩)
  | hidden (known : classpath.knows owner)
      (hidden : ∀ path, classpath.Reaches owner path → ¬classpath.Shows name kind path)
      (ends : ∃ path, classpath.Reaches owner path ∧ classpath.Ends path) :
      Answered classpath owner name kind (.ok ⟨owner, none⟩)
  | absent (hidden : ∀ path, classpath.Reaches owner path → ¬classpath.Shows name kind path)
      (complete : ∀ path, classpath.Reaches owner path → ¬classpath.Ends path) :
      Answered classpath owner name kind (.error (.member owner name))

theorem findMember_answered (classpath : Classpath) (owner name : String) (kind : MemberKind) :
    classpath.Answered owner name kind (classpath.findMember owner name kind) := by
  have verdict := classpath.search_verdict owner name kind
  unfold findMember
  split
  · rename_i known
    split
    · rename_i result
      rw [result] at verdict
      obtain ⟨distance, path, decl, member, steps, known, shown, rfl, nearest⟩ := verdict
      exact .shown steps known shown nearest
    · rename_i result
      rw [result] at verdict
      exact .hidden known verdict.1 verdict.2
    · rename_i result
      rw [result] at verdict
      exact .absent verdict.1 verdict.2
  · rename_i unknown
    exact .unknown (by simpa [knows] using unknown)

/-- An unknown type reaches nothing but itself. -/
theorem Reaches.eq_of_unknown {path : String} (unknown : classpath.type? owner = none)
    (way : classpath.Reaches owner path) : path = owner := by
  rcases way.cases_head with same | ⟨above, ⟨decl, known, _⟩, _⟩
  · exact same.symm
  · rw [unknown] at known
    cases known

namespace Answered

variable {answer : Except Unresolved Attribution}

/-- An unknown owner is the answer. -/
theorem of_unknown (answered : classpath.Answered owner name kind answer)
    (unknown : classpath.type? owner = none) : answer = .error (.type owner) := by
  cases answered with
  | unknown => rfl
  | shown steps known =>
    rw [Reaches.eq_of_unknown unknown (reaches_iff_steps.mpr ⟨_, steps⟩), unknown] at known
    cases known
  | hidden known => exact absurd unknown (Option.isSome_iff_ne_none.mp known)
  | absent _ complete => exact absurd (.inl unknown) (complete owner .refl)

/-- A member that some type of a hierarchy shows is found. -/
theorem of_shows {path : String} (answered : classpath.Answered owner name kind answer)
    (way : classpath.Reaches owner path) (shown : classpath.Shows name kind path) :
    ∃ declaring type, answer = .ok ⟨declaring, some type⟩ := by
  cases answered with
  | unknown unknown =>
    obtain ⟨decl, known, _⟩ := shown
    rw [way.eq_of_unknown unknown, unknown] at known
    cases known
  | shown => exact ⟨_, _, rfl⟩
  | hidden _ hidden | absent hidden => exact absurd shown (hidden path way)

/-- A member that no type shows, but one may hide, is the owner's, of a type that is not known. -/
theorem of_hidden (answered : classpath.Answered owner name kind answer) (known : classpath.knows owner)
    (hidden : ∀ path, classpath.Reaches owner path → ¬classpath.Shows name kind path)
    (ends : ∃ path, classpath.Reaches owner path ∧ classpath.Ends path) : answer = .ok ⟨owner, none⟩ := by
  cases answered with
  | unknown unknown => exact absurd unknown (Option.isSome_iff_ne_none.mp known)
  | @shown distance path decl member steps isDecl shown =>
    have shows : classpath.Shows name kind path := ⟨decl, isDecl, by rw [shown]; rfl⟩
    exact absurd shows (hidden path (reaches_iff_steps.mpr ⟨distance, steps⟩))
  | hidden => rfl
  | absent _ complete =>
    obtain ⟨path, way, ends⟩ := ends
    exact absurd ends (complete path way)

/-- A member that no type shows or hides is missed. -/
theorem of_absent (answered : classpath.Answered owner name kind answer)
    (hidden : ∀ path, classpath.Reaches owner path → ¬classpath.Shows name kind path)
    (complete : ∀ path, classpath.Reaches owner path → ¬classpath.Ends path) :
    answer = .error (.member owner name) := by
  cases answered with
  | unknown unknown => exact absurd (.inl unknown) (complete owner .refl)
  | @shown distance path decl member steps isDecl shown =>
    have shows : classpath.Shows name kind path := ⟨decl, isDecl, by rw [shown]; rfl⟩
    exact absurd shows (hidden path (reaches_iff_steps.mpr ⟨distance, steps⟩))
  | hidden _ _ ends =>
    obtain ⟨path, way, ends⟩ := ends
    exact absurd ends (complete path way)
  | absent => rfl

end Answered

theorem findMember_of_shows {path : String} (way : classpath.Reaches owner path)
    (shown : classpath.Shows name kind path) :
    ∃ declaring type, classpath.findMember owner name kind = .ok ⟨declaring, some type⟩ :=
  (classpath.findMember_answered owner name kind).of_shows way shown

/-- **The member search decides membership over the whole hierarchy.** On a class path that lists
declarations under their own paths, whatever cycles and unknown types are in it, each of the four
answers is given just when the types that the owner reaches are as it says. -/
theorem findMember_decides (classpath : Classpath) (keyed : classpath.Keyed) (owner name : String)
    (kind : MemberKind) : classpath.MemberDecided owner name kind := by
  have answered := classpath.findMember_answered owner name kind
  constructor
  case unknown =>
    refine ⟨fun answer => ?_, answered.of_unknown⟩
    rw [answer] at answered
    cases answered with
    | unknown unknown => exact unknown
  case shown =>
    refine ⟨fun ⟨declaring, type, answer⟩ => ?_, fun ⟨path, way, shows⟩ => answered.of_shows way shows⟩
    rw [answer] at answered
    cases answered with
    | shown steps known shown =>
      exact ⟨_, reaches_iff_steps.mpr ⟨_, steps⟩, _, known, by rw [shown]; rfl⟩
  case nearest =>
    intro declaring type answer
    rw [answer] at answered
    cases answered with
    | @shown distance path decl member steps known shown nearest =>
      rw [keyed.path_eq known]
      refine ⟨distance, decl, member, steps, known, shown, rfl, fun near other steps shows => ?_⟩
      exact Nat.le_of_not_lt fun less => nearest near less other steps shows
  case hidden =>
    refine ⟨fun answer => ?_, fun ⟨known, hidden, ends⟩ => answered.of_hidden known hidden ends⟩
    rw [answer] at answered
    cases answered with
    | hidden known hidden ends => exact ⟨known, hidden, ends⟩
  case absent =>
    simp only [← not_ends_iff]
    refine ⟨fun answer => ?_, fun ⟨hidden, complete⟩ => answered.of_absent hidden complete⟩
    rw [answer] at answered
    cases answered with
    | absent hidden complete => exact ⟨hidden, complete⟩
  case only =>
    generalize classpath.findMember owner name kind = answer at answered
    cases answered with
    | unknown => exact .inl rfl
    | shown => exact .inr (.inl ⟨_, _, rfl⟩)
    | hidden => exact .inr (.inr (.inl rfl))
    | absent => exact .inr (.inr (.inr rfl))

/-- Two classes that inherit from one another, one of them with an interface that is not known. -/
def circular : Classpath :=
  ⟨[.ofDecls "map" [⟨"A", some "B", ["I"], [], [], true⟩,
    ⟨"B", some "A", [], [], [⟨"run", .primitive .void⟩], true⟩]]⟩

/-- On the circle a method is found in the other class, and a field may be in the interface. -/
theorem findMember_decides_circular :
    circular.Keyed ∧
      (circular.findMember "A" "run" .method).toOption = some ⟨"B", some (.primitive .void)⟩ ∧
      circular.MemberDecided "A" "run" .method ∧
      (circular.findMember "A" "size" .field).toOption = some ⟨"A", none⟩ ∧
      circular.MemberDecided "A" "size" .field := by
  have keyed : circular.Keyed := by
    intro source member path decl found
    cases List.mem_singleton.mp member
    exact ofDecls_keyed _ _ path decl found
  exact ⟨keyed, by decide +kernel, findMember_decides circular keyed "A" "run" .method,
    by decide +kernel, findMember_decides circular keyed "A" "size" .field⟩

end SymbolIndex.Classpath
