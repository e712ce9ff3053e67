import SymbolIndex.Proofs.MemberSearch
import SymbolIndex.Proofs.Nodes
import SymbolIndex.Proofs.Trace
import SymbolIndex.SourceIndex

/-!
# References are justified

A reference says which type declares the member that it names. It is *justified* when that type does
declare the member, or when the types above it cannot all be seen: one of them is unknown, is not
declared completely, or has a declaration on the class path whose own supertypes the class path does
not know. The class path is searched by itself, so a supertype that only the source declares counts as
one that cannot be seen there.

`walk_references` says this of every reference that a walk files, in the scope of its moment, together
with what `State.fileReference` checks and with the fact that the type is known. Its proof has one lemma
for each way a search can go, from the class path (`findMember_answer`) over the classes of the source
(`memberWithin_answer`) to the origins of references. Two things are needed of the classes of the source.
They must not inherit from one another in cycles or through more links than the search follows
(`Shallow`). And the classes around a place have paths of different lengths (`Nested`), so that each of
them is the class that its path stands for; every walk keeps this.

One kind of reference is not justified by this (`InheritsUntyped`): a method that an enclosing class
inherits from a class declaring it with a type that cannot be resolved is taken to the enclosing class,
as if the hierarchy were open.
-/

namespace SymbolIndex

namespace Walk

open SymbolIndex.Tree (Node)

/-! ## What is seen of a hierarchy -/

/-- The direct supertypes of a type: those of its declaration on the class path, or else those that
the source gives it. -/
def supertypes (env : Env) (scope : Scope) (path : String) : List String :=
  match env.classpath.type? path with
  | some decl => decl.supertypes
  | none => ((scope.sourceType? path).map supertypesOf).getD []

/-- The way from a type to one above it, or to itself. -/
abbrev Reaches (env : Env) (scope : Scope) : String → String → Prop :=
  Relation.ReflTransGen fun path above => above ∈ supertypes env scope path

/-- A type that declares a member of the given name and kind, in the source or on the class path. -/
def Declares (env : Env) (scope : Scope) (name : String) (kind : MemberKind) (path : String) : Prop :=
  (∃ type, scope.sourceType? path = some type ∧ ((membersOf type kind).find? name).isSome) ∨
    ∃ decl, env.classpath.type? path = some decl ∧ (decl.member? name kind).isSome

/-- A type that is unknown at this moment, or has an incomplete declaration. -/
def Unseen (env : Env) (scope : Scope) (path : String) : Prop :=
  env.knows scope path = false ∨
    ∃ decl, env.classpath.type? path = some decl ∧ decl.complete = false

/-- A type on the class path with a supertype that the class path does not know. -/
def LeadsAway (env : Env) (path : String) : Prop :=
  ∃ decl, env.classpath.type? path = some decl ∧
    ∃ above ∈ decl.supertypes, env.classpath.knows above = false

/-- A type with one at or above it that cannot be seen, or from which the class path leads away. -/
def OpenAbove (env : Env) (scope : Scope) (path : String) : Prop :=
  ∃ above, Reaches env scope path above ∧ (Unseen env scope above ∨ LeadsAway env above)

/-- What a search that started at `path` may answer. -/
structure Answer (env : Env) (scope : Scope) (name : String) (kind : MemberKind) (path : String)
    (found : Attribution) : Prop where
  reaches : Reaches env scope path found.declaring
  known : env.knows scope found.declaring = true
  justified : Declares env scope name kind found.declaring ∨
    found.type = none ∧ OpenAbove env scope found.declaring

section Search

variable {env : Env} {scope : Scope} {name : String} {kind : MemberKind}

/-- What the class path knows is known. -/
theorem knows_of_classpath {path : String} (known : env.classpath.knows path = true) :
    env.knows scope path = true := by
  rw [Env.knows, known, Bool.true_or]

/-- What the source declares is known. -/
theorem knows_of_source {path : String} {type : SourceType}
    (declared : scope.sourceType? path = some type) : env.knows scope path = true := by
  rw [Env.knows, declared, Option.isSome_some, Bool.or_true]

theorem type?_eq_none {path : String} (unknown : ¬env.classpath.knows path = true) :
    env.classpath.type? path = none := by
  rw [Classpath.knows, Option.isSome_iff_ne_none, not_not] at unknown
  exact unknown

/-- A hierarchy is open when it is open further up. -/
theorem OpenAbove.of_reaches {path above : String} (way : Reaches env scope path above)
    (opens : OpenAbove env scope above) : OpenAbove env scope path := by
  obtain ⟨last, rest, ends⟩ := opens
  exact ⟨last, way.trans rest, ends⟩

/-- The links of the class path are links up the hierarchy. -/
theorem reaches_of_links {path above : String}
    (way : Relation.ReflTransGen env.classpath.Link path above) : Reaches env scope path above := by
  refine Relation.ReflTransGen.mono (fun first second link => ?_) _ _ way
  obtain ⟨decl, known, member⟩ := link
  rw [supertypes, known]
  exact member

/-- Where the class path sees no further from a known type, the hierarchy is open. -/
theorem openAbove_of_ends {path last : String} (known : env.classpath.knows path = true)
    (way : Relation.ReflTransGen env.classpath.Link path last) (ends : env.classpath.Ends last) :
    OpenAbove env scope path := by
  rcases ends with unknown | incomplete
  · rcases way.cases_tail with rfl | ⟨before, rest, decl, declared, member⟩
    · rw [Classpath.knows, unknown] at known
      cases known
    · -- the last link leads from a declaration to a path that the class path does not know
      have missing : env.classpath.knows last = false := by
        rw [Classpath.knows, unknown]
        rfl
      exact ⟨before, reaches_of_links rest, .inr ⟨decl, declared, last, member, missing⟩⟩
  · exact ⟨last, reaches_of_links way, .inl (.inr incomplete)⟩

/-- What the class path answers. -/
theorem findMember_answer (keyed : env.classpath.Keyed) {path : String} {found : Attribution}
    (result : env.classpath.findMember path name kind = .ok found) :
    Answer env scope name kind path found := by
  have answered := env.classpath.findMember_answered path name kind
  rw [result] at answered
  cases answered with
  | @shown distance last decl member steps declared shown =>
    have same : decl.path = last := keyed.path_eq declared
    have way : Reaches env scope path decl.path :=
      same ▸ reaches_of_links (Classpath.reaches_iff_steps.mpr ⟨distance, steps⟩)
    rw [← same] at declared
    refine ⟨way, knows_of_classpath (Classpath.knows_of_type? declared), .inl (.inr ⟨decl, declared, ?_⟩)⟩
    rw [shown]
    rfl
  | hidden known _ ends =>
    obtain ⟨last, way, ends⟩ := ends
    exact ⟨.refl, knows_of_classpath known, .inr ⟨rfl, openAbove_of_ends known way ends⟩⟩

/-- The class path fails for a type that it does not know, or because it sees no such member. -/
theorem findMember_error {path : String} {cause : Unresolved}
    (result : env.classpath.findMember path name kind = .error cause) :
    cause = .member path name ∨ env.classpath.knows path = false := by
  have answered := env.classpath.findMember_answered path name kind
  rw [result] at answered
  cases answered with
  | unknown unknown => exact .inr (by rw [Classpath.knows, unknown]; rfl)
  | absent => exact .inl rfl

/-! ## The search through the source -/

/-- The answer of one supertype is the answer of all. -/
theorem askEach_found {ask : String → Except Unresolved Attribution} {gaps gaps' : Bool}
    {paths : List String} {found : Attribution}
    (result : askEach ask gaps paths = (some found, gaps')) :
    ∃ path ∈ paths, ask path = .ok found := by
  induction paths generalizing gaps with
  | nil => cases result
  | cons path paths ih =>
    unfold askEach at result
    split at result
    · cases result
      exact ⟨path, List.mem_cons_self, ‹_›⟩
    · obtain ⟨other, member, answer⟩ := ih result
      exact ⟨other, List.mem_cons_of_mem _ member, answer⟩
    · obtain ⟨other, member, answer⟩ := ih result
      exact ⟨other, List.mem_cons_of_mem _ member, answer⟩

/-- A gap comes from a supertype that fails for another reason than a missing member. -/
theorem askEach_gap {ask : String → Except Unresolved Attribution} {gaps : Bool}
    {paths : List String} (result : askEach ask gaps paths = (none, true)) :
    gaps = true ∨ ∃ path ∈ paths, ∃ cause, ask path = .error cause ∧
      ∀ owner name, cause ≠ .member owner name := by
  induction paths generalizing gaps with
  | nil => cases result; exact .inl rfl
  | cons path paths ih =>
    have later : (∃ path ∈ paths, ∃ cause, ask path = .error cause ∧
        ∀ owner name, cause ≠ .member owner name) →
        ∃ other ∈ path :: paths, ∃ cause, ask other = .error cause ∧
          ∀ owner name, cause ≠ .member owner name :=
      fun ⟨other, member, fails⟩ => ⟨other, List.mem_cons_of_mem _ member, fails⟩
    unfold askEach at result
    split at result
    · cases result
    · exact (ih result).imp_right later
    · rename_i cause other failed
      exact .inr ⟨path, List.mem_cons_self, cause, failed, other⟩

/-- A chain of links up from classes of the source that the class path does not know. -/
def Climbs (env : Env) (scope : Scope) : Nat → String → Prop
  | 0, _ => True
  | links + 1, path =>
    env.classpath.knows path = false ∧
      ∃ type, scope.sourceType? path = some type ∧ ∃ above ∈ supertypesOf type, Climbs env scope links above

/-- No classes of the source inherit from one another in a cycle, or through a chain of more links than
the search follows. -/
def Shallow (env : Env) (scope : Scope) : Prop :=
  ∀ path, ¬Climbs env scope (maxHierarchy + 1) path

/-- The search fails for a reason other than a missing member only when it has no step left or does
not know the type. -/
theorem memberWithin_error {steps : Nat} {path : String} {cause : Unresolved}
    (result : memberWithin env scope name kind steps path = .error cause)
    (other : ∀ owner name, cause ≠ .member owner name) :
    steps = 0 ∨ env.knows scope path = false := by
  cases steps with
  | zero => exact .inl rfl
  | succ steps =>
    right
    unfold memberWithin at result
    split at result
    · rename_i absent
      rcases findMember_error result with missing | unknown
      · exact absurd missing (other _ _)
      · rw [Env.knows, unknown, absent]
        rfl
    · split at result
      · cases result
      · split at result
        · rename_i known
          rcases findMember_error result with missing | unknown
          · exact absurd missing (other _ _)
          · rw [known] at unknown
            cases unknown
        · split at result
          · cases result
          · cases result
          · cases result
            exact absurd rfl (other _ _)

/-- **What the search through the source answers**, unless it has climbed as many links as it had
steps. By induction on the steps: an answer comes from the class path, from a class that declares the
member, from a supertype, or from a class with a supertype that is not known. -/
theorem memberWithin_answer (keyed : env.classpath.Keyed) {steps : Nat} {path : String}
    {found : Attribution} (result : memberWithin env scope name kind steps path = .ok found) :
    Climbs env scope steps path ∨ Answer env scope name kind path found := by
  induction steps generalizing path with
  | zero => exact .inl trivial
  | succ steps ih =>
    unfold memberWithin at result
    split at result
    · exact .inr (findMember_answer keyed result)
    · rename_i type declared
      split at result
      · rename_i memberType shown
        cases result
        exact .inr ⟨.refl, knows_of_source declared, .inl (.inl ⟨type, declared, by rw [shown]; rfl⟩)⟩
      · split at result
        · exact .inr (findMember_answer keyed result)
        · rename_i unknown
          have links : supertypes env scope path = supertypesOf type := by
            rw [supertypes, type?_eq_none unknown, declared]
            rfl
          have unknown : env.classpath.knows path = false := by simpa using unknown
          split at result
          · rename_i asked
            cases result
            obtain ⟨above, member, answer⟩ := askEach_found asked
            rcases ih answer with climbs | answers
            · exact .inl ⟨unknown, type, declared, above, member, climbs⟩
            · exact .inr ⟨answers.reaches.head (links ▸ member), answers.known, answers.justified⟩
          · rename_i asked
            cases result
            rcases askEach_gap asked with impossible | ⟨above, member, cause, failed, other⟩
            · cases impossible
            · rcases memberWithin_error failed other with rfl | missing
              · exact .inl ⟨unknown, type, declared, above, member, trivial⟩
              · refine .inr ⟨.refl, knows_of_source declared, .inr ⟨rfl, above, ?_, .inl (.inl missing)⟩⟩
                exact .single (links ▸ member)
          · cases result

/-- What the search answers, where no chain of classes is longer than it follows. -/
theorem memberOf_answer (keyed : env.classpath.Keyed) (shallow : Shallow env scope) {path : String}
    {found : Attribution} (result : memberOf env scope path name kind = .ok found) :
    Answer env scope name kind path found :=
  (memberWithin_answer keyed result).resolve_left (shallow path)

end Search

/-! ## The classes around a place -/

/-- The classes around a place have ever longer paths inwards. -/
def Nested (scope : Scope) : Prop :=
  (scope.frames.map (·.path.length)).Pairwise (· > ·)

theorem Nested.modifyFrame {scope : Scope} (nested : Nested scope) {change : Frame → Frame}
    (same : ∀ frame, (change frame).path = frame.path) : Nested (scope.modifyFrame change) := by
  unfold Nested Scope.modifyFrame at *
  cases frames : scope.frames with
  | nil => rw [frames] at nested; simpa only [frames] using nested
  | cons frame rest =>
    rw [frames] at nested
    simpa only [List.map_cons, same] using nested

theorem Nested.modifyBlocks {scope : Scope} (nested : Nested scope)
    (change : List Block → List Block) : Nested (scope.modifyBlocks change) := by
  unfold Nested Scope.modifyBlocks at *
  cases frames : scope.frames with
  | nil => rw [frames] at nested; simpa only [frames] using nested
  | cons frame rest => rw [frames] at nested; exact nested

/-- Entering a class with a longer path keeps the classes nested. -/
theorem Nested.open {scope : Scope} (nested : Nested scope) {frame : Frame}
    (longer : ∀ outer ∈ scope.frame?, outer.path.length < frame.path.length) :
    Nested { scope with frames := frame :: scope.frames } := by
  unfold Nested Scope.frame? at *
  cases frames : scope.frames with
  | nil => simp
  | cons outer rest =>
    rw [frames] at nested longer
    have here : outer.path.length < frame.path.length := longer outer rfl
    refine List.pairwise_cons.mpr ⟨fun length member => ?_, nested⟩
    rcases List.mem_cons.mp member with rfl | further
    · exact here
    · exact Nat.lt_trans ((List.pairwise_cons.mp nested).1 length further) here

theorem Nested.popFrame {scope : Scope} (nested : Nested scope) : Nested scope.popFrame := by
  unfold Nested Scope.popFrame at *
  cases frames : scope.frames with
  | nil => rw [frames] at nested; simpa only [frames] using nested
  | cons frame rest => rw [frames] at nested; exact (List.pairwise_cons.mp nested).2

/-- Each class around a place is the one that its path stands for. -/
theorem Nested.sourceType? {scope : Scope} (nested : Nested scope) {frame : Frame}
    (encloses : frame ∈ scope.frames) : scope.sourceType? frame.path = some frame.members := by
  have first : scope.frames.find? (·.path == frame.path) = some frame := by
    unfold Nested at nested
    generalize scope.frames = frames at nested encloses
    induction frames with
    | nil => cases encloses
    | cons outer rest ih =>
      rw [List.find?_cons]
      have apart := List.pairwise_cons.mp nested
      cases encloses with
      | head => rw [beq_self_eq_true]
      | tail _ further =>
        have shorter : frame.path.length < outer.path.length :=
          apart.1 frame.path.length (List.mem_map_of_mem further)
        have differ : (outer.path == frame.path) = false := by
          refine beq_false_of_ne fun same => ?_
          rw [same] at shorter
          exact Nat.lt_irrefl _ shorter
        rw [differ]
        exact ih apart.2 further
  rw [Scope.sourceType?, first]

/-! ## The origins of references -/

/-- A reference that is taken to the right type, or to one with an open hierarchy. -/
def Justified (env : Env) (scope : Scope) (name : String) (kind : MemberKind) (path : String) : Prop :=
  Declares env scope name kind path ∨ OpenAbove env scope path

/-- A method that a class around a place does not declare itself, but inherits from a class that
declares it with a type that is not known. -/
def InheritsUntyped (env : Env) (scope : Scope) (name : String) (kind : MemberKind) (path : String) :
    Prop :=
  kind = .method ∧ ∃ frame ∈ scope.frames, frame.path = path ∧
    frame.members.methods.find? name = none ∧
    ∃ found, inheritedMethod env scope frame name = some found ∧ found.type = none ∧
      Declares env scope name .method found.declaring

section Origins

variable {env : Env} {scope : Scope} {name : String} {kind : MemberKind}

/-- The type that an answer names declares the member or has an open hierarchy. -/
theorem Answer.isJustified {path : String} {found : Attribution}
    (answer : Answer env scope name kind path found) :
    Justified env scope name kind found.declaring :=
  answer.justified.imp_right And.right

/-- A class that inherits a method of unknown type from above has an open hierarchy, unless the method
is declared there. -/
theorem inheritedMethod_open (keyed : env.classpath.Keyed) (shallow : Shallow env scope)
    (nested : Nested scope) {frame : Frame} (encloses : frame ∈ scope.frames) {found : Attribution}
    (inherits : inheritedMethod env scope frame name = some found)
    (resolved : ¬Declares env scope name .method found.declaring) :
    OpenAbove env scope frame.path := by
  unfold inheritedMethod at inherits
  split at inherits
  · have answer : Answer env scope name .method frame.path found :=
      findMember_answer keyed (attributed?_eq_some inherits)
    exact (answer.justified.resolve_left resolved).2.of_reaches answer.reaches
  · rename_i unknown
    obtain ⟨above, member, result⟩ := List.exists_of_findSome?_eq_some inherits
    have answer : Answer env scope name .method above found :=
      memberOf_answer keyed shallow (attributed?_eq_some result)
    have links : supertypes env scope frame.path = supertypesOf frame.members := by
      rw [supertypes, type?_eq_none unknown, nested.sourceType? encloses]
      rfl
    exact (answer.justified.resolve_left resolved).2.of_reaches
      (answer.reaches.head (links ▸ member))

/-- Whatever way a type is named as the one that declares a member, it is known. -/
theorem Origin.known_type (keyed : env.classpath.Keyed) (shallow : Shallow env scope)
    (nested : Nested scope) {declaring : String}
    (origin : Origin env scope name kind declaring) : env.knows scope declaring = true := by
  cases origin with
  | own encloses _ => exact knows_of_source (nested.sourceType? encloses)
  | searched answer => exact (memberOf_answer keyed shallow answer).known
  | known answer => exact (findMember_answer keyed answer).known
  | hidden encloses _ _ => exact knows_of_source (nested.sourceType? encloses)

/-- Whatever way a type is named as the one that declares a member, it does so or its hierarchy is
open, unless it is a class that inherits a method without a known type. -/
theorem Origin.justified (keyed : env.classpath.Keyed) (shallow : Shallow env scope)
    (nested : Nested scope) {declaring : String}
    (origin : Origin env scope name kind declaring)
    (resolved : ¬InheritsUntyped env scope name kind declaring) :
    Justified env scope name kind declaring := by
  cases origin with
  | own encloses declares => exact .inl (.inl ⟨_, nested.sourceType? encloses, declares⟩)
  | searched answer => exact (memberOf_answer keyed shallow answer).isJustified
  | known answer => exact (findMember_answer keyed answer).isJustified
  | @hidden frame _ encloses inherits untyped =>
    cases own : frame.members.methods.find? name with
    | some type =>
      exact .inl (.inl ⟨frame.members, nested.sourceType? encloses, Option.isSome_of_eq_some own⟩)
    | none =>
      refine .inr (inheritedMethod_open keyed shallow nested encloses inherits fun declared => ?_)
      exact resolved ⟨rfl, frame, encloses, rfl, own, _, inherits, untyped, declared⟩

end Origins

/-! ## The references of a walk -/

/-- What holds of a filing with the scope of its moment. -/
def Sound (env : Env) (filing : Filing) : Prop :=
  ∀ member kind ownerType owner span,
    filing.occurrence = .reference member kind ownerType owner span →
      Nested filing.scope ∧ Origin env filing.scope member kind ownerType ∧
        filing.scope.frame?.map (·.path) ≠ some ownerType

/-- What every step of a walk keeps: the classes nest, and what was filed is sound. -/
def Keeps (env : Env) (state : State) : Prop :=
  Nested state.scope ∧ ∀ filing ∈ state.filings, Sound env filing

/-- Nothing is said of declarations. -/
theorem sound_of_declaration {env : Env} {occurrence : Occurrence}
    (declares : occurrence.isDeclaration = true) (key : String) (scope : Scope) :
    Sound env ⟨key, occurrence, scope⟩ := by
  rintro member kind ownerType owner span rfl
  cases declares

/-- Filing what is sound keeps the state so. -/
theorem Keeps.file {env : Env} {state : State} (keeps : Keeps env state) {key : String}
    {occurrence : Occurrence} (sound : Sound env ⟨key, occurrence, state.scope⟩) :
    Keeps env (state.file key occurrence) := by
  refine ⟨keeps.1, fun filing member => ?_⟩
  rcases List.mem_cons.mp member with rfl | earlier
  · exact sound
  · exact keeps.2 filing earlier

/-- **Every step keeps the invariant**: a reference is filed with its origin, and only outside of its own
class. -/
theorem Step.keeps {env : Env} {marks : List Mark} {first last : State}
    (step : Step env marks first last) (before : Keeps env first) : Keeps env last := by
  cases step with
  | declaration name occurrence declares placed =>
    exact before.file (sound_of_declaration declares _ _)
  | reference name kind declaring origin =>
    unfold State.fileReference
    split
    · exact before
    · rename_i outside
      refine before.file fun member kind' ownerType owner span same => ?_
      cases same
      exact ⟨before.1, origin, outside⟩
  | passed name => exact before
  | noted node cause => exact before
  | blocks change => exact ⟨before.1.modifyBlocks change, before.2⟩
  | frame change same => exact ⟨before.1.modifyFrame fun frame => (same frame).1, before.2⟩
  | opened frame longer => exact ⟨before.1.open longer, before.2⟩
  | closed => exact ⟨before.1.popFrame, before.2⟩
  | limit node =>
    unfold State.giveUpAt
    split <;> exact before
  | spent node =>
    unfold State.giveUpAt
    split <;> exact before
  | stopped marks given => exact before

/-- The invariant holds behind a whole walk, by induction on its trace. -/
theorem walk_keeps (env : Env) (root : Node) : Keeps env (walk env root) :=
  (walk_trace env root).keeps Step.keeps ⟨.nil, fun _ member => nomatch member⟩

/-- What is said of a reference in the scope of its moment: its type is not the innermost class, is
known, and declares the member or has an open hierarchy. The last is left open for a method that the
type, an enclosing class, does not declare but inherits with a type that is not known. -/
structure ReferenceHolds (env : Env) (scope : Scope) (member : String) (kind : MemberKind)
    (ownerType : String) : Prop where
  outside : scope.frame?.map (·.path) ≠ some ownerType
  known : env.knows scope ownerType = true
  justified : ¬InheritsUntyped env scope member kind ownerType →
    Justified env scope member kind ownerType

/-- **References are justified.** On a class path that lists declarations under their own paths, every
reference that a walk files holds in the scope of its moment, if the classes of the source that are
known then inherit from one another in no cycle and no chain that is too long. -/
theorem walk_references (env : Env) (keyed : env.classpath.Keyed) (root : Node) (filing : Filing)
    (filed : filing ∈ (walk env root).filings) (member : String) (kind : MemberKind)
    (ownerType owner : String) (span : Span)
    (isReference : filing.occurrence = .reference member kind ownerType owner span)
    (shallow : Shallow env filing.scope) :
    ReferenceHolds env filing.scope member kind ownerType := by
  obtain ⟨nested, origin, outside⟩ :=
    (walk_keeps env root).2 filing filed member kind ownerType owner span isReference
  exact ⟨outside, origin.known_type keyed shallow nested, origin.justified keyed shallow nested⟩

/-- Classes of the source whose supertypes are all on the class path make no long chain. -/
theorem shallow_of_known {env : Env} {scope : Scope}
    (frames : ∀ frame ∈ scope.frames, ∀ above ∈ supertypesOf frame.members,
      env.classpath.knows above = true)
    (finished : ∀ entry ∈ scope.finished.entries, ∀ above ∈ supertypesOf entry.2,
      env.classpath.knows above = true) : Shallow env scope := by
  rintro path ⟨_, type, declared, above, member, unknown, _⟩
  have known : env.classpath.knows above = true := by
    unfold Scope.sourceType? at declared
    split at declared
    · rename_i frame found
      cases declared
      exact frames frame (List.mem_of_find?_eq_some found) above member
    · obtain ⟨entry, found, same⟩ := Option.map_eq_some_iff.mp declared
      cases same
      exact finished entry (List.mem_of_find?_eq_some found) above member
  rw [known] at unknown
  cases unknown

/-- The text of two classes, of which the second calls a method of a type `P`. -/
def calling : String := "class Q { } class A { void m(P p) { p.foo(); } }"

/-- The tree of `calling`. -/
def callingTree : Node :=
  .word "program" none 0 48 [
    .word "class_declaration" none 0 11 [
      .token "class" 0 5,
      .word "identifier" (some "name") 6 7 [],
      .word "class_body" (some "body") 8 11 [
        .token "\x7b" 8 9,
        .token "\x7d" 10 11]],
    .word "class_declaration" none 12 48 [
      .token "class" 12 17,
      .word "identifier" (some "name") 18 19 [],
      .word "class_body" (some "body") 20 48 [
        .token "\x7b" 20 21,
        .word "method_declaration" none 22 46 [
          .word "void_type" (some "type") 22 26 [],
          .word "identifier" (some "name") 27 28 [],
          .word "formal_parameters" (some "parameters") 28 33 [
            .token "(" 28 29,
            .word "formal_parameter" none 29 32 [
              .word "type_identifier" (some "type") 29 30 [],
              .word "identifier" (some "name") 31 32 []],
            .token ")" 32 33],
          .word "block" (some "body") 34 46 [
            .token "\x7b" 34 35,
            .word "expression_statement" none 36 44 [
              .word "method_invocation" none 36 43 [
                .word "identifier" (some "object") 36 37 [],
                .token "." 37 38,
                .word "identifier" (some "name") 38 41 [],
                .word "argument_list" (some "arguments") 41 43 [
                  .token "(" 41 42,
                  .token ")" 42 43]],
              .token ";" 43 44],
            .token "\x7d" 45 46]],
        .token "\x7d" 47 48]]]

/-- The walk over `calling` with a class path that holds the root class and a `P` with the given super
class and methods. -/
def callingEnv (superClass : String) (methods : List Member) : Env :=
  Env.ofTree (.ofText calling) callingTree
    ⟨[.ofDecls "map" [⟨"P", some superClass, [], [], methods, true⟩,
      ⟨rootClass, none, [], [], [], true⟩]]⟩

theorem callingEnv_keyed (superClass : String) (methods : List Member) :
    (callingEnv superClass methods).classpath.Keyed := by
  intro source member path decl found
  cases List.mem_singleton.mp member
  exact Classpath.ofDecls_keyed _ _ path decl found

/-- The call that `calling` makes, taken to `P`. -/
def fooOfP : Occurrence :=
  .reference "foo" .method "P" "A" ⟨38, 41, 1, 39, 1, 42⟩

/-- A filing with the decidable part of what is said of it. -/
theorem exists_filing {state : State} {holds : Filing → Prop} [DecidablePred holds]
    (found : (state.filings.any fun filing => decide (holds filing)) = true) :
    ∃ filing ∈ state.filings, holds filing := by
  obtain ⟨filing, filed, held⟩ := List.any_eq_true.mp found
  exact ⟨filing, filed, of_decide_eq_true held⟩

/-- A `P` that declares the method: the reference holds, and `P` is no enclosing class. -/
theorem walk_references_calling :
    let env := callingEnv rootClass [⟨"foo", .primitive .void⟩]
    ∃ filing ∈ (walk env callingTree).filings, filing.occurrence = fooOfP ∧
      Shallow env filing.scope ∧ ¬InheritsUntyped env filing.scope "foo" .method "P" ∧
      ReferenceHolds env filing.scope "foo" .method "P" := by
  intro env
  have found : ∃ filing ∈ (walk env callingTree).filings, filing.occurrence = fooOfP ∧
      (∀ frame ∈ filing.scope.frames, frame.path ≠ "P") ∧
      (∀ frame ∈ filing.scope.frames, ∀ above ∈ supertypesOf frame.members,
        env.classpath.knows above = true) ∧
      ∀ entry ∈ filing.scope.finished.entries, ∀ above ∈ supertypesOf entry.2,
        env.classpath.knows above = true :=
    exists_filing (by decide +kernel)
  obtain ⟨filing, filed, isReference, others, frames, finished⟩ := found
  have shallow := shallow_of_known frames finished
  refine ⟨filing, filed, isReference, shallow, ?_, ?_⟩
  · rintro ⟨-, frame, encloses, same, _⟩
    exact others frame encloses same
  · exact walk_references env (callingEnv_keyed _ _) callingTree filing filed _ _ _ _ _ isReference
      shallow

/-- A `P` whose super class is the class `Q` of the source, which the class path does not know: the
call is taken to `P`, although no type at or above `P` is unknown or incomplete. -/
theorem reference_past_source_class :
    let env := callingEnv "Q" []
    (walk env callingTree).tooDeep = none ∧ env.classpath.Keyed ∧
      ∃ filing ∈ (walk env callingTree).filings, filing.occurrence = fooOfP ∧
        Shallow env filing.scope ∧
        ¬(Declares env filing.scope "foo" .method "P" ∨
          ∃ above, Reaches env filing.scope "P" above ∧ Unseen env filing.scope above) := by
  intro env
  have found : ∃ filing ∈ (walk env callingTree).filings, filing.occurrence = fooOfP ∧
      (filing.scope.sourceType? "P").isNone ∧
      (∀ path ∈ ["P", "Q", rootClass], (∀ above ∈ supertypes env filing.scope path,
        above ∈ ["P", "Q", rootClass]) ∧ env.knows filing.scope path = true) ∧
      (∀ frame ∈ filing.scope.frames, ∀ above ∈ supertypesOf frame.members,
        env.classpath.knows above = true) ∧
      ∀ entry ∈ filing.scope.finished.entries, ∀ above ∈ supertypesOf entry.2,
        env.classpath.knows above = true :=
    exists_filing (by decide +kernel)
  have complete : ∀ path ∈ ["P", "Q", rootClass], ∀ decl ∈ env.classpath.type? path,
      decl.complete = true := by decide +kernel
  have hidden : ∀ decl ∈ env.classpath.type? "P", decl.member? "foo" .method = none := by
    decide +kernel
  obtain ⟨filing, filed, isReference, noSource, around, frames, finished⟩ := found
  have all (above : String) (way : Reaches env filing.scope "P" above) :
      above ∈ ["P", "Q", rootClass] := by
    induction way with
    | refl => exact List.mem_cons_self
    | tail _ link ih => exact (around _ ih).1 _ link
  refine ⟨by decide +kernel, callingEnv_keyed _ _, filing, filed, isReference,
    shallow_of_known frames finished, ?_⟩
  rintro (declares | ⟨above, way, unseen⟩)
  · rcases declares with ⟨type, declared, _⟩ | ⟨decl, declared, shown⟩
    · rw [declared] at noSource
      cases noSource
    · rw [hidden decl declared] at shown
      cases shown
  · have listed := all above way
    rcases unseen with unknown | ⟨decl, declared, incomplete⟩
    · rw [(around above listed).2] at unknown
      cases unknown
    · rw [complete above listed decl declared] at incomplete
      cases incomplete

end Walk

end SymbolIndex
