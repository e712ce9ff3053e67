import SymbolIndex.Proofs.Attribution

/-!
# Inherited members

A class of the source that the class path does not know asks its supertypes in order for a member that
it does not declare. The first answer counts, and an answer may be open: a type that is named because
the types above it cannot all be seen. So a declaration further on can be missed.

`memberOf_inherited` says how far a declared member is found all the same. If a type at most
`maxHierarchy` links up declares it there is always an answer, which declares the member or is open; and
the answer declares the member whenever the search comes upon a declaration before it asks a supertype
whose hierarchy is open (`Visible`).

A call without a receiver asks the same supertypes, one class around the call after the other.
`implicitMethod_agrees` says that with one class around the call the two searches give the same result
but for two cases, and that they do differ in these (`Diverges`): the first supertype that answers gives
no type with its answer, or none answers and one of them is unknown. An answer has no type when the
hierarchy behind it is open, and also when a class of the source declares the method with a type that
cannot be resolved: then the method is found, but the call without a receiver takes it for one that is
only claimed.
-/

namespace SymbolIndex.Walk

variable {env : Env} {scope : Scope} {name : String} {kind : MemberKind}

/-! ## One step of the search -/

/-- A class of the source answers for the members that it declares. -/
theorem memberWithin_own {steps : Nat} {path : String} {type : SourceType}
    {memberType : Option JavaType} (declared : scope.sourceType? path = some type)
    (shown : (membersOf type kind).find? name = some memberType) :
    memberWithin env scope name kind (steps + 1) path = .ok ⟨path, memberType⟩ := by
  simp only [memberWithin, declared, shown]

/-- The class path answers for the types that it knows, unless the source declares the member. -/
theorem memberWithin_listed {steps : Nat} {path : String} (known : env.classpath.knows path = true) :
    (∃ found, memberWithin env scope name kind (steps + 1) path = .ok found ∧
      Declares env scope name kind found.declaring) ∨
    memberWithin env scope name kind (steps + 1) path = env.classpath.findMember path name kind := by
  cases declared : scope.sourceType? path with
  | none =>
    right
    simp only [memberWithin, declared]
  | some type =>
    cases shown : (membersOf type kind).find? name with
    | none =>
      right
      simp only [memberWithin, declared, shown, known, if_true]
    | some memberType =>
      left
      exact ⟨_, memberWithin_own declared shown, .inl ⟨type, declared, by rw [shown]; rfl⟩⟩

/-- What a class of the source answers when it has asked its supertypes. -/
def inheritedAnswer (path name : String) : Option Attribution × Bool → Except Unresolved Attribution
  | (some found, _) => .ok found
  | (none, true) => .ok ⟨path, none⟩
  | (none, false) => .error (.member path name)

/-- A class that only the source knows asks its supertypes for what it does not declare. -/
theorem memberWithin_inherited {steps : Nat} {path : String} {type : SourceType}
    (declared : scope.sourceType? path = some type)
    (hidden : (membersOf type kind).find? name = none)
    (unknown : env.classpath.knows path = false) :
    memberWithin env scope name kind (steps + 1) path =
      inheritedAnswer path name
        (askEach (memberWithin env scope name kind steps) false (supertypesOf type)) := by
  simp only [memberWithin, declared, hidden, unknown, Bool.false_eq_true, if_false]
  split <;> rename_i asked <;> rw [asked] <;> rfl

/-- If a supertype answers, one of those up to it answers first. -/
theorem askEach_answers {ask : String → Except Unresolved Attribution} {above : String}
    {found : Attribution} (answer : ask above = .ok found) (gaps : Bool) (before after : List String) :
    ∃ other ∈ before ++ [above], ∃ found gaps', ask other = .ok found ∧
      askEach ask gaps (before ++ above :: after) = (some found, gaps') := by
  induction before generalizing gaps with
  | nil =>
    refine ⟨above, List.mem_cons_self, found, gaps, answer, ?_⟩
    simp only [List.nil_append, askEach, answer]
  | cons first before ih =>
    have later (gaps : Bool) : ∃ other ∈ first :: before ++ [above], ∃ found gaps',
        ask other = .ok found ∧ askEach ask gaps (before ++ above :: after) = (some found, gaps') := by
      obtain ⟨other, member, result⟩ := ih gaps
      exact ⟨other, List.mem_cons_of_mem _ member, result⟩
    cases asked : ask first with
    | ok answered =>
      refine ⟨first, List.mem_cons_self, answered, gaps, asked, ?_⟩
      simp only [List.cons_append, askEach, asked]
    | error cause =>
      cases cause <;> simp only [List.cons_append, askEach, asked] <;> exact later _

/-! ## Declarations above a class -/

/-- A type at most a number of links above another. -/
inductive Above (env : Env) (scope : Scope) : Nat → String → String → Prop
  | self (links : Nat) (path : String) : Above env scope links path path
  | link {links : Nat} {path above owner : String} (link : above ∈ supertypes env scope path)
      (rest : Above env scope links above owner) : Above env scope (links + 1) path owner

/-- A type that declares a member where it is looked up: on the class path if that knows the type, or
else in the source. -/
def DeclaredThere (env : Env) (scope : Scope) (name : String) (kind : MemberKind) (path : String) :
    Prop :=
  env.classpath.Shows name kind path ∨
    env.classpath.knows path = false ∧
      ∃ type, scope.sourceType? path = some type ∧ ((membersOf type kind).find? name).isSome

/-- On the way up from a known type the class path stays, or it comes to a type that it does not
know. -/
theorem Above.onClasspath {links : Nat} {path owner : String}
    (above : Above env scope links path owner) :
    env.classpath.Reaches path owner ∨
      ∃ last, env.classpath.Reaches path last ∧ env.classpath.type? last = none := by
  induction above with
  | self links path => exact .inl .refl
  | @link links path next owner link rest ih =>
    cases known : env.classpath.type? path with
    | none => exact .inr ⟨path, .refl, known⟩
    | some decl =>
      rw [supertypes, known] at link
      have first : env.classpath.Link path next := ⟨decl, known, link⟩
      rcases ih with way | ⟨last, way, unknown⟩
      · exact .inl (way.head first)
      · exact .inr ⟨last, way.head first, unknown⟩

/-- The class path has an answer for a known type with a declaration above it. -/
theorem findMember_answers {links : Nat} {path owner : String}
    (known : env.classpath.knows path = true) (above : Above env scope links path owner)
    (declares : DeclaredThere env scope name kind owner) :
    ∃ found, env.classpath.findMember path name kind = .ok found := by
  have answered := env.classpath.findMember_answered path name kind
  generalize env.classpath.findMember path name kind = result at answered
  cases answered with
  | unknown unknown =>
    rw [Classpath.knows, unknown] at known
    cases known
  | shown => exact ⟨_, rfl⟩
  | hidden => exact ⟨_, rfl⟩
  | absent hidden complete =>
    -- the way up to the declaration meets a type that shows the member or one that is unknown
    rcases above.onClasspath with way | ⟨last, way, unknown⟩
    · rcases declares with shows | ⟨unknown, _⟩
      · exact absurd shows (hidden owner way)
      · exact absurd (.inl (type?_eq_none (by simp [unknown]))) (complete owner way)
    · exact absurd (.inl unknown) (complete last way)

theorem memberWithin_answers_listed {steps links : Nat} {path owner : String}
    (known : env.classpath.knows path = true) (above : Above env scope links path owner)
    (declares : DeclaredThere env scope name kind owner) :
    ∃ found, memberWithin env scope name kind (steps + 1) path = .ok found := by
  rcases memberWithin_listed known with ⟨found, answer, _⟩ | same
  · exact ⟨found, answer⟩
  · rw [same]
    exact findMember_answers known above declares

/-- **There is an answer for every declared member.** By induction on the links up to the type that
declares it. -/
theorem memberWithin_answers {links : Nat} {path owner : String}
    (above : Above env scope links path owner)
    (declares : DeclaredThere env scope name kind owner) :
    ∃ found, memberWithin env scope name kind (links + 1) path = .ok found := by
  induction above with
  | self links path =>
    rcases declares with ⟨decl, listed, shown⟩ | ⟨unknown, type, declared, shown⟩
    · exact memberWithin_answers_listed (Classpath.knows_of_type? listed) (.self 0 path)
        (.inl ⟨decl, listed, shown⟩)
    · obtain ⟨memberType, shown⟩ := Option.isSome_iff_exists.mp shown
      exact ⟨_, memberWithin_own declared shown⟩
  | @link links path next owner link rest ih =>
    by_cases known : env.classpath.knows path = true
    · exact memberWithin_answers_listed known (.link link rest) declares
    · rw [supertypes, type?_eq_none known] at link
      cases declared : scope.sourceType? path with
      | none => simp [declared] at link
      | some type =>
        cases shown : (membersOf type kind).find? name with
        | some memberType => exact ⟨_, memberWithin_own declared shown⟩
        | none =>
          obtain ⟨found, answer⟩ := ih declares
          have listed : next ∈ supertypesOf type := by simpa [declared] using link
          obtain ⟨before, after, order⟩ := List.append_of_mem listed
          obtain ⟨_, _, first, gaps, _, asked⟩ := askEach_answers answer false before after
          refine ⟨first, ?_⟩
          rw [memberWithin_inherited declared shown (by simpa using known), order, asked]
          rfl

/-! ## Declarations that the search comes upon -/

/-- A declaration that the search comes upon with a number of steps left: the type declares the member,
or the class path shows it above the type, or a supertype leads to it and each one that is asked before
is unknown itself, or is closed, with no open type and no chain of classes that is too long above it. -/
inductive Visible (env : Env) (scope : Scope) (name : String) (kind : MemberKind) :
    Nat → String → Prop
  | own {steps : Nat} {path : String} {type : SourceType}
      (declared : scope.sourceType? path = some type)
      (shown : ((membersOf type kind).find? name).isSome) : Visible env scope name kind (steps + 1) path
  | listed {steps : Nat} {path owner : String} (way : env.classpath.Reaches path owner)
      (shows : env.classpath.Shows name kind owner) : Visible env scope name kind (steps + 1) path
  | inherited {steps : Nat} {path above : String} {type : SourceType} {before after : List String}
      (declared : scope.sourceType? path = some type) (unknown : env.classpath.knows path = false)
      (order : supertypesOf type = before ++ above :: after)
      (closed : ∀ other ∈ before, env.knows scope other = false ∨
        ¬OpenAbove env scope other ∧ ¬Climbs env scope steps other)
      (visible : Visible env scope name kind steps above) : Visible env scope name kind (steps + 1) path

/-- An unknown type answers nothing. -/
theorem memberWithin_unknown {path : String} (unknown : env.knows scope path = false) (steps : Nat) :
    memberWithin env scope name kind steps path = .error (.type path) := by
  obtain ⟨noDecl, noClass⟩ := Bool.or_eq_false_iff.mp unknown
  cases steps with
  | zero => rfl
  | succ steps =>
    have absent : scope.sourceType? path = none := by simpa using noClass
    simp only [memberWithin, absent, Classpath.findMember, noDecl, Bool.false_eq_true, if_false]

/-- A type on the class path with a declaration above it is known. -/
theorem knows_of_shows {path owner : String} (way : env.classpath.Reaches path owner)
    (shows : env.classpath.Shows name kind owner) : env.classpath.knows path = true := by
  by_contra unknown
  have missing := type?_eq_none unknown
  obtain ⟨decl, listed, _⟩ := shows
  rw [way.eq_of_unknown missing, missing] at listed
  cases listed

/-- The class path finds a member that it shows above a type. -/
theorem findMember_shown (keyed : env.classpath.Keyed) {path owner : String}
    (way : env.classpath.Reaches path owner) (shows : env.classpath.Shows name kind owner) :
    ∃ found, env.classpath.findMember path name kind = .ok found ∧
      Declares env scope name kind found.declaring := by
  have answered := env.classpath.findMember_answered path name kind
  generalize answer : env.classpath.findMember path name kind = result at answered
  cases answered with
  | unknown unknown =>
    have known := knows_of_shows way shows
    rw [Classpath.knows, unknown] at known
    cases known
  | shown steps known shown nearest =>
    refine ⟨_, rfl, (findMember_answer keyed answer).justified.resolve_right ?_⟩
    rintro ⟨untyped, _⟩
    cases untyped
  | hidden known hidden ends => exact absurd shows (hidden owner way)
  | absent hidden complete => exact absurd shows (hidden owner way)

/-- What a closed type answers declares the member. -/
theorem declares_of_closed (keyed : env.classpath.Keyed) {steps : Nat} {path : String}
    {found : Attribution} (answer : memberWithin env scope name kind steps path = .ok found)
    (noGap : ¬OpenAbove env scope path) (short : ¬Climbs env scope steps path) :
    Declares env scope name kind found.declaring := by
  have answers := (memberWithin_answer keyed answer).resolve_left short
  exact answers.justified.resolve_right fun isOpen => noGap (isOpen.2.of_reaches answers.reaches)

/-- **The search finds a declaration that it comes upon.** By induction on the way up: the first answer
of a supertype is that of the one on the way, or of a closed one in front of it. -/
theorem memberWithin_visible (keyed : env.classpath.Keyed) {steps : Nat} {path : String}
    (visible : Visible env scope name kind steps path) :
    ∃ found, memberWithin env scope name kind steps path = .ok found ∧
      Declares env scope name kind found.declaring := by
  induction visible with
  | own declared shown =>
    obtain ⟨memberType, same⟩ := Option.isSome_iff_exists.mp shown
    exact ⟨_, memberWithin_own declared same, .inl ⟨_, declared, shown⟩⟩
  | @listed steps path owner way shows =>
    rcases memberWithin_listed (knows_of_shows way shows) with found | same
    · exact found
    · rw [same]
      exact findMember_shown keyed way shows
  | @inherited steps path above type before after declared unknown order closed visible ih =>
    cases shown : (membersOf type kind).find? name with
    | some memberType =>
      exact ⟨_, memberWithin_own declared shown, .inl ⟨type, declared, by rw [shown]; rfl⟩⟩
    | none =>
      obtain ⟨found, answer, declares⟩ := ih
      obtain ⟨other, member, first, gaps, answered, asked⟩ :=
        askEach_answers answer false before after
      refine ⟨first, ?_, ?_⟩
      · rw [memberWithin_inherited declared shown unknown, order, asked]
        rfl
      · rcases List.mem_append.mp member with earlier | last
        · rcases closed other earlier with missing | ⟨noGap, short⟩
          · rw [memberWithin_unknown missing] at answered
            cases answered
          · exact declares_of_closed keyed answered noGap short
        · cases List.mem_singleton.mp last
          rw [answer] at answered
          cases answered
          exact declares

/-- An answer of the search from a class: it declares the member, or it is open, or the classes above
make a longer chain than the search follows. -/
def Found (env : Env) (scope : Scope) (name : String) (kind : MemberKind) (path : String)
    (found : Attribution) : Prop :=
  Declares env scope name kind found.declaring ∨
    found.type = none ∧ OpenAbove env scope found.declaring ∨ Climbs env scope (maxHierarchy + 1) path

/-- **A declared inherited member is found, unless an open hierarchy is asked first.** If a type within
`maxHierarchy` links above a class declares the member, there is an answer, and it declares the member
unless it is open; and if the search comes upon a declaration before it asks a supertype with an open
hierarchy, the answer declares the member. -/
theorem memberOf_inherited (env : Env) (keyed : env.classpath.Keyed) (scope : Scope) (path : String)
    (name : String) (kind : MemberKind) :
    ((∃ owner, Above env scope maxHierarchy path owner ∧ DeclaredThere env scope name kind owner) →
      ∃ found, memberOf env scope path name kind = .ok found ∧ Found env scope name kind path found) ∧
    (Visible env scope name kind (maxHierarchy + 1) path →
      ∃ found, memberOf env scope path name kind = .ok found ∧
        Declares env scope name kind found.declaring) := by
  refine ⟨?_, memberWithin_visible keyed⟩
  rintro ⟨owner, above, declares⟩
  obtain ⟨found, answer⟩ := memberWithin_answers above declares
  refine ⟨found, answer, ?_⟩
  rcases memberWithin_answer keyed answer with climbs | answers
  · exact .inr (.inr climbs)
  · exact answers.justified.imp_right .inl

/-- A walk with nothing but a class path. -/
def bare (decls : List TypeDecl) : Env where
  source := .ofText ""
  classpath := ⟨[.ofDecls "map" decls]⟩
  imports := {}
  fileTypes := .empty

theorem bare_keyed (decls : List TypeDecl) : (bare decls).classpath.Keyed := by
  intro source member path decl found
  cases List.mem_singleton.mp member
  exact Classpath.ofDecls_keyed _ _ path decl found

/-- A class path with the root class and a class `X` of which not all members are known. -/
def partly : Env :=
  bare [⟨"X", none, [], [], [], false⟩, ⟨rootClass, none, [], [], [], true⟩]

/-- An interface `I` with a method `foo`, and a class `P` with the given super class that implements
it. -/
def heir (superClass : String) : Scope where
  finished := .ofList [("I", { methods := .ofList [("foo", some (.primitive .void))] }),
    ("P", { superClass := some superClass, interfaces := ["I"] })]

/-- Behind a super class that is not known the method is found in the interface. -/
theorem memberOf_inherited_unknownSuperClass :
    partly.classpath.Keyed ∧ Visible partly (heir "lib/Base") "foo" .method (maxHierarchy + 1) "P" ∧
      ∃ found, memberOf partly (heir "lib/Base") "P" "foo" .method = .ok found ∧
        Declares partly (heir "lib/Base") "foo" .method found.declaring := by
  have declared : (heir "lib/Base").sourceType? "P" =
      some { superClass := some "lib/Base", interfaces := ["I"] } := by rfl
  have interface : (heir "lib/Base").sourceType? "I" =
      some { methods := .ofList [("foo", some (.primitive .void))] } := by rfl
  have order : supertypesOf { superClass := some "lib/Base", interfaces := ["I"] } =
      ["lib/Base"] ++ "I" :: [] := rfl
  have visible : Visible partly (heir "lib/Base") "foo" .method (maxHierarchy + 1) "P" := by
    refine .inherited declared (by decide +kernel) order (fun other member => .inl ?_)
      (.own interface (by decide +kernel))
    cases List.mem_singleton.mp member
    decide +kernel
  have keyed : partly.classpath.Keyed := bare_keyed _
  exact ⟨keyed, visible, (memberOf_inherited partly keyed _ "P" "foo" .method).2 visible⟩

/-- Behind a super class that is declared in part the interface is not asked: the method is taken to the
super class, which does not declare it, although the interface is one link up. -/
theorem interface_behind_partial_class :
    partly.classpath.Keyed ∧ ((heir "X").sourceType? "P").isSome ∧
      partly.classpath.knows "P" = false ∧ Above partly (heir "X") maxHierarchy "P" "I" ∧
      DeclaredThere partly (heir "X") "foo" .method "I" ∧
      (memberOf partly (heir "X") "P" "foo" .method).toOption = some ⟨"X", none⟩ ∧
      ¬Declares partly (heir "X") "foo" .method "X" := by
  have link : "I" ∈ supertypes partly (heir "X") "P" := by decide +kernel
  have interface : (heir "X").sourceType? "I" =
      some { methods := .ofList [("foo", some (.primitive .void))] } := by rfl
  refine ⟨bare_keyed _, by decide +kernel, by decide +kernel, .link link (.self _ _),
    .inr ⟨by decide +kernel, _, interface, by decide +kernel⟩, by decide +kernel, ?_⟩
  have noClass : ((heir "X").sourceType? "X").isNone := by decide +kernel
  have hidden : ∀ decl ∈ partly.classpath.type? "X", decl.member? "foo" .method = none := by
    decide +kernel
  rintro (⟨type, declared, _⟩ | ⟨decl, listed, shown⟩)
  · rw [declared] at noClass
    cases noClass
  · rw [hidden decl listed] at shown
    cases shown

/-! ## Calls without a receiver -/

/-- Supertypes that answer alike are asked alike. -/
theorem askEach_congr {ask ask' : String → Except Unresolved Attribution} {paths : List String}
    (same : ∀ path ∈ paths, ask path = ask' path) (gaps : Bool) :
    askEach ask gaps paths = askEach ask' gaps paths := by
  induction paths generalizing gaps with
  | nil => rfl
  | cons path paths ih =>
    have rest (gaps : Bool) := ih (fun other member => same other (List.mem_cons_of_mem _ member)) gaps
    simp only [askEach, same path List.mem_cons_self, rest]

/-- A search that does not come to its last step gives the same with one more. -/
theorem memberWithin_succ {steps : Nat} {path : String} (short : ¬Climbs env scope steps path) :
    memberWithin env scope name kind (steps + 1) path = memberWithin env scope name kind steps path := by
  induction steps generalizing path with
  | zero => exact absurd trivial short
  | succ steps ih =>
    cases declared : scope.sourceType? path with
    | none => simp only [memberWithin, declared]
    | some type =>
      cases shown : (membersOf type kind).find? name with
      | some memberType => rw [memberWithin_own declared shown, memberWithin_own declared shown]
      | none =>
        by_cases known : env.classpath.knows path = true
        · simp only [memberWithin, declared, shown, known, if_true]
        · have unknown : env.classpath.knows path = false := by simpa using known
          rw [memberWithin_inherited declared shown unknown,
            memberWithin_inherited declared shown unknown]
          rw [askEach_congr fun above member => ih fun climbs =>
            short ⟨unknown, type, declared, above, member, climbs⟩]

/-- The answer of the supertypes is the first that one of them gives. -/
theorem askEach_fst (ask : String → Except Unresolved Attribution) (gaps : Bool) (paths : List String) :
    (askEach ask gaps paths).1 = paths.findSome? fun path => attributed? (ask path) := by
  induction paths generalizing gaps with
  | nil => rfl
  | cons path paths ih =>
    cases asked : ask path with
    | ok found => simp only [askEach, asked, List.findSome?_cons, attributed?]
    | error cause => cases cause <;> simp only [askEach, asked, List.findSome?_cons, attributed?, ih]

/-- Without a gap every supertype misses the member. -/
theorem askEach_absent {ask : String → Except Unresolved Attribution} {gaps : Bool} {paths : List String}
    (result : askEach ask gaps paths = (none, false)) :
    gaps = false ∧ ∀ path ∈ paths, ∃ owner name, ask path = .error (.member owner name) := by
  induction paths generalizing gaps with
  | nil =>
    cases result
    exact ⟨rfl, fun _ member => nomatch member⟩
  | cons path paths ih =>
    unfold askEach at result
    split at result
    · cases result
    · rename_i asked
      obtain ⟨noGap, rest⟩ := ih result
      exact ⟨noGap, List.forall_mem_cons.mpr ⟨⟨_, _, asked⟩, rest⟩⟩
    · cases (ih result).1

/-- What a call without a receiver is taken to with one class around it, when no static import supplies
the method. -/
theorem implicitMethod_single {frame : Frame} (only : scope.frames = [frame])
    (noImport : staticImport env scope name .method = none)
    (hidden : frame.members.methods.find? name = none) :
    implicitMethod env scope name =
      match inheritedMethod env scope frame name with
      | some found => if found.type.isSome then .ok found else .ok ⟨frame.path, none⟩
      | none => .error (.member frame.path name) := by
  have innermost : scope.frame? = some frame := by rw [Scope.frame?, only, List.head?_cons]
  cases inherits : inheritedMethod env scope frame name with
  | none => simp [implicitMethod, only, enclosingMethod, hidden, inherits, noImport, innermost]
  | some found =>
    cases typed : found.type.isSome <;>
      simp [implicitMethod, only, enclosingMethod, hidden, inherits, noImport, typed]

/-- The cases in which a call without a receiver and the call on `this` part, for a class that only the
source knows and that does not declare the method. The first of its supertypes that answers names another
class and no type, because the hierarchy there is open or because the source declares the method there
with a type that cannot be resolved: the call on `this` is taken to that class. Or none answers and one is
unknown: only the call on `this` is taken to the class itself. -/
def Diverges (env : Env) (scope : Scope) (frame : Frame) (name : String) : Prop :=
  frame.members.methods.find? name = none ∧ env.classpath.knows frame.path = false ∧
    match inheritedMethod env scope frame name with
    | some found => found.type = none ∧ found.declaring ≠ frame.path
    | none => ∃ above ∈ supertypesOf frame.members, env.knows scope above = false

/-- The type that a result names. -/
def target? (result : Except Unresolved Attribution) : Option String :=
  (attributed? result).map (·.declaring)

/-- Whether a gap was met among supertypes that do not answer: one of them is unknown. -/
theorem gap_iff_unknown {paths : List String} {gaps : Bool}
    (result : askEach (memberOf env scope · name kind) false paths = (none, gaps)) :
    gaps = true ↔ ∃ above ∈ paths, env.knows scope above = false := by
  cases gaps with
  | true =>
    refine ⟨fun _ => ?_, fun _ => rfl⟩
    rcases askEach_gap result with impossible | ⟨above, member, cause, failed, other⟩
    · cases impossible
    · rcases memberWithin_error failed other with impossible | unknown
      · cases impossible
      · exact ⟨above, member, unknown⟩
  | false =>
    refine ⟨(nomatch ·), ?_⟩
    rintro ⟨above, member, unknown⟩
    obtain ⟨owner, other, failed⟩ := (askEach_absent result).2 above member
    rw [memberOf, memberWithin_unknown unknown] at failed
    cases failed

/-- The call on `this` asks the supertypes of a class that only the source knows. -/
theorem memberOf_frame {frame : Frame} (declared : scope.sourceType? frame.path = some frame.members)
    (hidden : frame.members.methods.find? name = none)
    (unknown : env.classpath.knows frame.path = false)
    (short : ¬Climbs env scope (maxHierarchy + 1) frame.path) :
    ∃ gaps, askEach (memberOf env scope · name .method) false (supertypesOf frame.members) =
        (inheritedMethod env scope frame name, gaps) ∧
      memberOf env scope frame.path name .method =
        inheritedAnswer frame.path name (inheritedMethod env scope frame name, gaps) := by
  have asked : memberOf env scope frame.path name .method =
      inheritedAnswer frame.path name (askEach (memberWithin env scope name .method maxHierarchy) false
        (supertypesOf frame.members)) :=
    memberWithin_inherited declared hidden unknown
  -- a call without a receiver asks each supertype with one step more
  have same : askEach (memberWithin env scope name .method maxHierarchy) false
      (supertypesOf frame.members) =
        askEach (memberOf env scope · name .method) false (supertypesOf frame.members) := by
    refine askEach_congr (fun above member => (memberWithin_succ fun climbs => ?_).symm) false
    exact short ⟨unknown, frame.members, declared, above, member, climbs⟩
  have inherits : inheritedMethod env scope frame name =
      (askEach (memberOf env scope · name .method) false (supertypesOf frame.members)).1 := by
    rw [askEach_fst, inheritedMethod, if_neg (by simp [unknown])]
  exact ⟨_, by rw [inherits], by rw [asked, same, inherits]⟩

/-- A class that declares the method itself. -/
theorem implicitMethod_own {frame : Frame} {type : Option JavaType} (only : scope.frames = [frame])
    (shown : frame.members.methods.find? name = some type) :
    implicitMethod env scope name = .ok ⟨frame.path, type⟩ := by
  simp [implicitMethod, only, enclosingMethod, shown]

/-- A class that the class path knows. -/
theorem implicitMethod_listed {frame : Frame} (only : scope.frames = [frame])
    (noImport : staticImport env scope name .method = none)
    (hidden : frame.members.methods.find? name = none)
    (known : env.classpath.knows frame.path = true) :
    implicitMethod env scope name = env.classpath.findMember frame.path name .method := by
  have answered := env.classpath.findMember_answered frame.path name .method
  rw [implicitMethod_single only noImport hidden, inheritedMethod, if_pos known]
  generalize env.classpath.findMember frame.path name .method = result at answered
  cases answered with
  | unknown unknown =>
    rw [Classpath.knows, unknown] at known
    cases known
  | shown => rfl
  | hidden => rfl
  | absent => rfl

/-- Where the two searches do not diverge they give the same result. -/
theorem implicitMethod_eq {frame : Frame} (only : scope.frames = [frame])
    (noImport : staticImport env scope name .method = none)
    (short : ¬Climbs env scope (maxHierarchy + 1) frame.path)
    (agrees : ¬Diverges env scope frame name) :
    implicitMethod env scope name = memberOf env scope frame.path name .method := by
  have declared : scope.sourceType? frame.path = some frame.members := by
    simp [Scope.sourceType?, only]
  cases shown : frame.members.methods.find? name with
  | some type =>
    have own : (membersOf frame.members .method).find? name = some type := shown
    rw [implicitMethod_own only shown, memberOf, memberWithin_own declared own]
  | none =>
    by_cases known : env.classpath.knows frame.path = true
    · rw [implicitMethod_listed only noImport shown known]
      simp only [memberOf, memberWithin, declared, membersOf, shown, known, if_true]
    · have unknown : env.classpath.knows frame.path = false := by simpa using known
      obtain ⟨gaps, asked, answer⟩ := memberOf_frame declared shown unknown short
      rw [answer, implicitMethod_single only noImport shown]
      cases inherits : inheritedMethod env scope frame name with
      | none =>
        have noGap : gaps = false := by
          by_contra gap
          rw [inherits] at asked
          have missing := (gap_iff_unknown asked).mp (by simpa using gap)
          exact agrees ⟨shown, unknown, by rw [inherits]; exact missing⟩
        rw [noGap]
        rfl
      | some found =>
        obtain ⟨declaring, type⟩ := found
        cases type with
        | some type => rfl
        | none =>
          have same : declaring = frame.path := by
            by_contra differ
            exact agrees ⟨shown, unknown, by rw [inherits]; exact ⟨rfl, differ⟩⟩
          rw [same]
          rfl

/-- Where they diverge the call on `this` is taken to another type, or is the only one that is taken to
a type. -/
theorem target?_ne_of_diverges {frame : Frame} (only : scope.frames = [frame])
    (noImport : staticImport env scope name .method = none)
    (short : ¬Climbs env scope (maxHierarchy + 1) frame.path)
    (diverges : Diverges env scope frame name) :
    target? (implicitMethod env scope name) ≠
      target? (memberOf env scope frame.path name .method) := by
  obtain ⟨hidden, unknown, parts⟩ := diverges
  have declared : scope.sourceType? frame.path = some frame.members := by
    simp [Scope.sourceType?, only]
  obtain ⟨gaps, asked, answer⟩ := memberOf_frame declared hidden unknown short
  rw [answer, implicitMethod_single only noImport hidden]
  cases inherits : inheritedMethod env scope frame name with
  | none =>
    rw [inherits] at parts asked
    have gap : gaps = true := (gap_iff_unknown asked).mpr parts
    simp [gap, inheritedAnswer, target?, attributed?]
  | some found =>
    rw [inherits] at parts
    obtain ⟨untyped, differ⟩ := parts
    simpa [untyped, inheritedAnswer, target?, attributed?] using Ne.symm differ

/-- **A call without a receiver and the call on `this`.** With one class around the call, no static import
that supplies the method and no longer chain of classes above than a search follows, both are taken to the
same type, or to none, just when they do not diverge; and then their results are the same. -/
theorem implicitMethod_agrees (env : Env) (scope : Scope) (frame : Frame) (name : String)
    (only : scope.frames = [frame]) (noImport : staticImport env scope name .method = none)
    (short : ¬Climbs env scope (maxHierarchy + 1) frame.path) :
    (target? (implicitMethod env scope name) =
        target? (memberOf env scope frame.path name .method) ↔ ¬Diverges env scope frame name) ∧
      (¬Diverges env scope frame name →
        implicitMethod env scope name = memberOf env scope frame.path name .method) := by
  have same := implicitMethod_eq only noImport short
  refine ⟨⟨fun targets diverges => ?_, fun agrees => by rw [same agrees]⟩, same⟩
  exact target?_ne_of_diverges only noImport short diverges targets

/-- A chain of classes leads on to a supertype. -/
theorem Climbs.link {links : Nat} {path : String} (climbs : Climbs env scope (links + 1) path) :
    env.classpath.knows path = false ∧
      ∃ above ∈ supertypes env scope path, Climbs env scope links above := by
  obtain ⟨unknown, type, declared, above, member, rest⟩ := climbs
  refine ⟨unknown, above, ?_, rest⟩
  rw [supertypes, type?_eq_none (by simp [unknown]), declared]
  exact member

/-- A class `A` around a call, with the given supertypes, behind the classes of `heir`. -/
def calledIn (superClass : Option String) (interfaces : List String) : Scope :=
  { heir "X" with frames := [{ path := "A", members := { superClass, interfaces } }] }

/-- In a class that implements `I` the call without a receiver finds the method of `I`, as the call on
`this` does. -/
theorem implicitMethod_agrees_interface :
    let scope := calledIn none ["I"]
    (memberOf partly scope "A" "foo" .method).toOption = some ⟨"I", some (.primitive .void)⟩ ∧
      implicitMethod partly scope "foo" = memberOf partly scope "A" "foo" .method := by
  intro scope
  have noImport : staticImport partly scope "foo" .method = none := rfl
  have short : ¬Climbs partly scope (maxHierarchy + 1) "A" := by
    have known : partly.classpath.knows rootClass = true := by decide +kernel
    have top (links : Nat) : ¬Climbs partly scope (links + 1) rootClass :=
      fun climbs => by simp [climbs.link.1] at known
    have links : ∀ above ∈ supertypes partly scope "A", above = "I" ∨ above = rootClass := by
      decide +kernel
    have links' : ∀ above ∈ supertypes partly scope "I", above = rootClass := by decide +kernel
    intro climbs
    obtain ⟨_, above, member, rest⟩ := climbs.link
    rcases links above member with rfl | rfl
    · obtain ⟨_, above, member, rest⟩ := rest.link
      cases links' above member
      exact top _ rest
    · exact top _ rest
  have agrees : ¬Diverges partly scope { path := "A", members := { interfaces := ["I"] } } "foo" := by
    rintro ⟨_, _, parts⟩
    have inherits : inheritedMethod partly scope { path := "A", members := { interfaces := ["I"] } }
        "foo" = some ⟨"I", some (.primitive .void)⟩ := by decide +kernel
    rw [inherits] at parts
    cases parts.1
  exact ⟨by decide +kernel, (implicitMethod_agrees partly scope _ "foo" rfl noImport short).2 agrees⟩

/-- In a class whose super class is not known, only the call on `this` is taken to the class. -/
theorem call_below_unknown_class :
    let scope := calledIn (some "lib/Base") []
    scope.frames.length = 1 ∧ staticImport partly scope "foo" .method = none ∧
      (implicitMethod partly scope "foo").toOption = none ∧
      (memberOf partly scope "A" "foo" .method).toOption = some ⟨"A", none⟩ := by
  decide +kernel

end SymbolIndex.Walk
