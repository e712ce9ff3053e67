import SymbolIndex.Proofs.MemberSearch

/-!
# A source behind the others only adds knowledge

Sources are asked in order, so one that is put behind the others answers for new paths only: the larger
class path agrees with the smaller one wherever that one knows a type (`Within`). What the smaller one
reaches and shows is therefore reached and shown in the larger one too. Conversely, where all that the
smaller one reaches is known, the larger one reaches nothing else (`Within.reaches_of_known`): a new
declaration can only enter the hierarchy where it left the known types.

`findMember_append` says what this means for the answers. A member that was missing stays missing and one
that was found stays found, although another type may be named for it, when a supertype that was unknown
is nearer. Only an answer without a type can turn into any other that names the owner as known.
-/

namespace SymbolIndex.Classpath

variable {classpath larger : Classpath} {owner name path : String} {kind : MemberKind}

/-- What the one class path knows, the other knows in the same way. -/
def Within (classpath larger : Classpath) : Prop :=
  ∀ path decl, classpath.type? path = some decl → larger.type? path = some decl

theorem within_append (classpath : Classpath) (source : TypeSource) :
    classpath.Within (classpath.append source) := by
  intro path decl known
  rw [type?] at known
  rw [type?, append, List.findSome?_append, known, Option.some_or]

namespace Within

variable (within : classpath.Within larger)
include within

theorem link {above : String} (link : classpath.Link path above) : larger.Link path above := by
  obtain ⟨decl, known, listed⟩ := link
  exact ⟨decl, within path decl known, listed⟩

theorem reaches (way : classpath.Reaches owner path) : larger.Reaches owner path :=
  Relation.ReflTransGen.mono (fun _ _ => within.link) owner path way

theorem shows (shown : classpath.Shows name kind path) : larger.Shows name kind path := by
  obtain ⟨decl, known, shown⟩ := shown
  exact ⟨decl, within path decl known, shown⟩

/-- Where all that the smaller class path reaches is known to it, the larger one reaches no more. -/
theorem reaches_of_known
    (known : ∀ path, classpath.Reaches owner path → ∃ decl, classpath.type? path = some decl)
    (way : larger.Reaches owner path) : classpath.Reaches owner path := by
  induction way with
  | refl => exact .refl
  | @tail below above _ link ih =>
    obtain ⟨decl, same⟩ := known below ih
    obtain ⟨decl', same', listed⟩ := link
    rw [within below decl same] at same'
    cases same'
    exact ih.tail ⟨decl, same, listed⟩

/-- When the smaller class path sees a whole hierarchy, each type of it is to the larger one what it is to
the smaller one. -/
theorem type?_eq_of_known
    (known : ∀ path, classpath.Reaches owner path → ∃ decl, classpath.type? path = some decl)
    (way : larger.Reaches owner path) : larger.type? path = classpath.type? path := by
  obtain ⟨decl, same⟩ := known path (within.reaches_of_known known way)
  rw [same, within path decl same]

end Within

/-! ## The answers -/

/-- What one class path answers still stands on the other, as far as it was knowledge. -/
structure Retained (classpath larger : Classpath) (owner name : String) (kind : MemberKind) : Prop where
  /-- A declaration stays as it is. -/
  types : ∀ path decl, classpath.type? path = some decl → larger.type? path = some decl
  /-- A member that is missing stays missing, of the same type and with the same name. -/
  missing : ∀ type member, classpath.findMember owner name kind = .error (.member type member) →
    larger.findMember owner name kind = .error (.member type member)
  /-- A member that is found stays found. -/
  found : ∀ declaring type, classpath.findMember owner name kind = .ok ⟨declaring, some type⟩ →
    ∃ declaring' type', larger.findMember owner name kind = .ok ⟨declaring', some type'⟩
  /-- A type for which there was an answer is not unknown. -/
  known : ∀ attribution, classpath.findMember owner name kind = .ok attribution →
    ∀ type, larger.findMember owner name kind ≠ .error (.type type)

/-- A search whose owner is known does not end with an unknown type. -/
theorem findMember_ne_unknown (known : classpath.knows owner) (type : String) :
    classpath.findMember owner name kind ≠ .error (.type type) := by
  intro answer
  have answered := classpath.findMember_answered owner name kind
  rw [answer] at answered
  cases answered with
  | unknown unknown => simp [knows, unknown] at known

/-- A search that is answered knows its owner. -/
theorem knows_of_findMember {attribution : Attribution}
    (answer : classpath.findMember owner name kind = .ok attribution) : classpath.knows owner := by
  unfold findMember at answer
  split at answer
  · assumption
  · cases answer

/-- A member is missing where every type of a hierarchy is declared completely and none shows it. -/
theorem findMember_of_absent
    (hidden : ∀ path, classpath.Reaches owner path → ¬classpath.Shows name kind path)
    (complete : ∀ path, classpath.Reaches owner path → ¬classpath.Ends path) :
    classpath.findMember owner name kind = .error (.member owner name) := by
  have answered := classpath.findMember_answered owner name kind
  generalize classpath.findMember owner name kind = answer at answered
  cases answered with
  | unknown unknown => exact absurd (.inl unknown) (complete owner .refl)
  | shown steps known shown =>
    exact absurd (shows_of_member? known shown) (hidden _ (reaches_iff_steps.mpr ⟨_, steps⟩))
  | hidden _ _ ends =>
    obtain ⟨path, way, ends⟩ := ends
    exact absurd ends (complete path way)
  | absent => rfl

namespace Within

variable (within : classpath.Within larger)
include within

/-- A member stays missing: the larger class path sees the same hierarchy, type by type. -/
theorem missing {type member : String}
    (answer : classpath.findMember owner name kind = .error (.member type member)) :
    larger.findMember owner name kind = .error (.member type member) := by
  have answered := classpath.findMember_answered owner name kind
  rw [answer] at answered
  cases answered with
  | absent hidden complete =>
    have known : ∀ path, classpath.Reaches owner path → ∃ decl, classpath.type? path = some decl := by
      intro path way
      obtain ⟨decl, known, _⟩ := not_ends_iff.mp (complete path way)
      exact ⟨decl, known⟩
    refine findMember_of_absent (fun path way shown => ?_) (fun path way ends => ?_)
    · refine hidden path (within.reaches_of_known known way) ?_
      rwa [Shows, ← within.type?_eq_of_known known way]
    · refine complete path (within.reaches_of_known known way) ?_
      rwa [Ends, ← within.type?_eq_of_known known way]

/-- A member stays found: the type that showed it is still reached. -/
theorem found {declaring : String} {type : JavaType}
    (answer : classpath.findMember owner name kind = .ok ⟨declaring, some type⟩) :
    ∃ declaring' type', larger.findMember owner name kind = .ok ⟨declaring', some type'⟩ := by
  have answered := classpath.findMember_answered owner name kind
  rw [answer] at answered
  cases answered with
  | @shown distance path decl member steps known shown =>
    have way : classpath.Reaches owner path := reaches_iff_steps.mpr ⟨distance, steps⟩
    exact findMember_of_shows (within.reaches way) (within.shows (shows_of_member? known shown))

/-- A type for which there was an answer stays known. -/
theorem answered {attribution : Attribution}
    (answer : classpath.findMember owner name kind = .ok attribution) (type : String) :
    larger.findMember owner name kind ≠ .error (.type type) := by
  obtain ⟨decl, known⟩ := Option.isSome_iff_exists.mp (knows_of_findMember answer)
  exact findMember_ne_unknown (knows_of_type? (within owner decl known)) type

end Within

/-- **A source behind the others only adds knowledge.** Whatever the class path and the source that is put
behind it: declarations stay as they are, members that were missing stay missing, members that were found
stay found, and a type for which there was an answer is not unknown. -/
theorem findMember_append (classpath : Classpath) (source : TypeSource) (owner name : String)
    (kind : MemberKind) : classpath.Retained (classpath.append source) owner name kind := by
  have within := classpath.within_append source
  exact ⟨within, fun _ _ => within.missing, fun _ _ => within.found, fun _ => within.answered⟩

/-- Two classes, one below the other, the upper one with an interface that declares the method and a super
class that is not known. -/
def halfKnown : Classpath :=
  ⟨[.ofDecls "map" [⟨"A", some "B", [], [], [], true⟩, ⟨"B", some "C", ["I"], [], [], true⟩,
    ⟨"I", none, [], [], [⟨"run", .primitive .void⟩], true⟩]]⟩

/-- The super class that was not known comes into the middle of the search and is named in place of the
interface. -/
example :
    let added := halfKnown.append
      (.ofDecls "more" [⟨"C", none, [], [], [⟨"run", .primitive .int⟩], true⟩])
    (halfKnown.findMember "A" "run" .method).toOption = some ⟨"I", some (.primitive .void)⟩ ∧
      (added.findMember "A" "run" .method).toOption = some ⟨"C", some (.primitive .int)⟩ := by
  decide +kernel

end SymbolIndex.Classpath
