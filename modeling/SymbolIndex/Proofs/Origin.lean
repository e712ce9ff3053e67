import SymbolIndex.Walk.Walker

/-!
# Where references come from

A name is attributed to a type by one of many ways through the scope, the imports and the class
path. All of them end in one of four places: a member that an enclosing class declares, an answer of
the search through the source and the class path, an answer of the class path alone, or an enclosing
class that is taken to inherit a method whose type is not known. `Origin` names these ends, and there
is one lemma for each function that attributes.
-/

namespace SymbolIndex.Walk

/-- How a type comes to be named as the one that declares a member. -/
inductive Origin (env : Env) (scope : Scope) (name : String) : MemberKind → String → Prop
  /-- An enclosing class declares the member. -/
  | own {kind : MemberKind} {frame : Frame} (encloses : frame ∈ scope.frames)
      (declares : ((membersOf frame.members kind).find? name).isSome) :
      Origin env scope name kind frame.path
  /-- The search through the source and the class path gives the type. -/
  | searched {kind : MemberKind} {path : String} {found : Attribution}
      (answer : memberOf env scope path name kind = .ok found) :
      Origin env scope name kind found.declaring
  /-- The class path gives the type. -/
  | known {kind : MemberKind} {path : String} {found : Attribution}
      (answer : env.classpath.findMember path name kind = .ok found) :
      Origin env scope name kind found.declaring
  /-- An enclosing class inherits a method of that name, whose type is not known. -/
  | hidden {frame : Frame} {found : Attribution} (encloses : frame ∈ scope.frames)
      (inherits : inheritedMethod env scope frame name = some found) (untyped : found.type = none) :
      Origin env scope name .method frame.path

variable {env : Env} {scope : Scope} {name : String}

theorem attributed?_eq_some {result : Except Unresolved Attribution} {found : Attribution}
    (attributed : attributed? result = some found) : result = .ok found := by
  cases result with
  | ok _ => rw [attributed?, Option.some.injEq] at attributed; rw [attributed]
  | error _ => cases attributed

theorem typed?_eq_some {result : Except Unresolved Attribution} {found : Attribution}
    (typed : typed? result = some found) : result = .ok found :=
  attributed?_eq_some (Option.filter_eq_some_iff.mp typed).1

/-- An inherited field comes from a search for a supertype or for the class itself. -/
theorem inheritedField_origin {frame : Frame} {declaring : String} {type : Option JavaType}
    (inherits : inheritedField env scope frame name = some (declaring, type)) :
    Origin env scope name .field declaring := by
  unfold inheritedField at inherits
  simp only at inherits
  obtain ⟨found, answers, same⟩ := Option.map_eq_some_iff.mp inherits
  cases same
  split at answers
  · exact .known (typed?_eq_some answers)
  · obtain ⟨path, _, answer⟩ := List.exists_of_findSome?_eq_some answers
    exact .searched (typed?_eq_some answer)

/-- An inherited method comes from a search for a supertype or for the class itself. -/
theorem inheritedMethod_origin {frame : Frame} {found : Attribution}
    (inherits : inheritedMethod env scope frame name = some found) :
    Origin env scope name .method found.declaring := by
  unfold inheritedMethod at inherits
  split at inherits
  · exact .known (attributed?_eq_some inherits)
  · obtain ⟨path, _, answer⟩ := List.exists_of_findSome?_eq_some inherits
    exact .searched (attributed?_eq_some answer)

/-- A block holds variables, not fields. -/
theorem inBlocks_ne_field {blocks : List Block} {declaring : String} {type : Option JavaType} :
    Scope.inBlocks name blocks ≠ some (.field declaring type) := by
  intro found
  obtain ⟨_, _, same⟩ := Option.map_eq_some_iff.mp found
  cases same

theorem inFrame_origin {frame : Frame} (encloses : frame ∈ scope.frames) {declaring : String}
    {type : Option JavaType}
    (found : Scope.inFrame name (inheritedField env scope) frame = some (.field declaring type)) :
    Origin env scope name .field declaring := by
  unfold Scope.inFrame at found
  split at found
  · rename_i isVariable
    rw [found] at isVariable
    exact absurd isVariable inBlocks_ne_field
  · split at found
    · rename_i declared
      cases found
      exact .own encloses (by rw [membersOf, declared]; rfl)
    · obtain ⟨⟨declaring, type⟩, inherits, same⟩ := Option.map_eq_some_iff.mp found
      cases same
      exact inheritedField_origin inherits

/-- A simple name that stands for a field. -/
theorem lookup_origin {declaring : String} {type : Option JavaType}
    (found : scope.lookup name (inheritedField env scope) = some (.field declaring type)) :
    Origin env scope name .field declaring := by
  unfold Scope.lookup at found
  split at found
  · rename_i standsFor inFrames
    cases found
    obtain ⟨frame, encloses, found⟩ := List.exists_of_findSome?_eq_some inFrames
    exact inFrame_origin encloses found
  · exact absurd found inBlocks_ne_field

/-- A member that a static import supplies. -/
theorem staticImport_origin {kind : MemberKind} {found : Attribution}
    (imported : staticImport env scope name kind = some found) :
    Origin env scope name kind found.declaring := by
  unfold staticImport at imported
  split at imported
  · rename_i single
    cases imported
    obtain ⟨dotted, _, rest⟩ := Option.bind_eq_some_iff.mp single
    obtain ⟨owner, _, answer⟩ := Option.bind_eq_some_iff.mp rest
    exact .searched (attributed?_eq_some answer)
  · obtain ⟨dotted, _, rest⟩ := List.exists_of_findSome?_eq_some imported
    obtain ⟨owner, _, answer⟩ := Option.bind_eq_some_iff.mp rest
    exact .searched (typed?_eq_some answer)

/-- What `enclosingMethod` finds, and the class it keeps for the case that nothing is found, have an
origin each, if the class it started with has one. -/
theorem enclosingMethod_origin (env : Env) {scope : Scope} (name : String) {frames : List Frame}
    (enclose : frames ⊆ scope.frames) (candidate : Option Attribution)
    (before : ∀ found ∈ candidate, Origin env scope name .method found.declaring) :
    (∀ found ∈ (enclosingMethod env scope name candidate frames).1,
        Origin env scope name .method found.declaring) ∧
      ∀ found ∈ (enclosingMethod env scope name candidate frames).2,
        Origin env scope name .method found.declaring := by
  induction frames generalizing candidate with
  | nil => exact ⟨(fun _ absent => nomatch absent), before⟩
  | cons frame frames ih =>
    have encloses : frame ∈ scope.frames := enclose List.mem_cons_self
    have others : frames ⊆ scope.frames := fun _ member => enclose (List.mem_cons_of_mem _ member)
    unfold enclosingMethod
    split
    · rename_i type declared
      refine ⟨fun found same => ?_, before⟩
      cases same
      exact .own encloses (by rw [membersOf, declared]; rfl)
    · split
      · exact ih others candidate before
      · rename_i found inherits
        split
        · refine ⟨fun _ same => ?_, before⟩
          cases same
          exact inheritedMethod_origin inherits
        · rename_i untyped
          refine ih others _ fun kept same => ?_
          cases candidate with
          | none =>
            cases same
            exact .hidden encloses inherits (by simpa using untyped)
          | some _ => exact before kept same

/-- A method that is called without a receiver. -/
theorem implicitMethod_origin {found : Attribution}
    (answer : implicitMethod env scope name = .ok found) :
    Origin env scope name .method found.declaring := by
  have enclosing := enclosingMethod_origin env name (List.Subset.refl scope.frames) none
    (fun _ absent => nomatch absent)
  unfold implicitMethod at answer
  split at answer
  · rename_i first candidate result
    cases answer
    exact enclosing.1 found (by rw [result]; rfl)
  · rename_i candidate result
    split at answer
    · rename_i kept either
      cases answer
      cases imported : staticImport env scope name .method with
      | some other =>
        rw [imported, Option.some_or] at either
        cases either
        exact staticImport_origin imported
      | none =>
        rw [imported, Option.none_or] at either
        exact enclosing.2 found (by rw [result]; exact either)
    · cases answer

end SymbolIndex.Walk
