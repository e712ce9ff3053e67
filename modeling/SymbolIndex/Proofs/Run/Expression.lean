import SymbolIndex.Proofs.Run.Declaration

/-!
# Runs over expressions

While an expression is followed, references are filed at the names of members. The frame stays as it is,
but for the body of an anonymous class.
-/

namespace SymbolIndex.Walk

open SymbolIndex.Tree (Node Cursor)

variable {env : Env} {sited : Prop} {walker : Walker} {below : Outline} {mode : Mode}
  {cursor : Cursor}

/-! ## References -/

section Reference

variable {above : List Node}

/-- A name may be passed without being filed. -/
theorem passed_run {place : List Node} (recording : Bool) (name : Node) (state : State) :
    Run env sited mode place (seen recording [.name .reference name]) state state := by
  cases recording with
  | false => exact .refl
  | true => exact .passed name

/-- **A reference is filed** at the name of the member, where it has an origin. -/
theorem noteReference_run (recording : Bool) {name : Node} {kind : MemberKind} {declaring : String}
    {state : State} (origin : Origin env state.scope (env.text name) kind declaring) :
    Run env sited mode (name :: above) (seen recording [.name .reference name]) state
      (noteReference env recording name kind declaring state) := by
  cases recording with
  | false => exact .refl
  | true => exact .reference kind declaring origin

/-- A bare name is filed at its own place, with the origin that the lookup gives it. -/
theorem denoteName_run (node : Node) (recording : Bool) (state : State) :
    Run env sited mode (node :: above) (seen recording [.name .reference node]) state
      (denoteName env node recording state).2 := by
  unfold denoteName
  simp only
  split
  · exact passed_run recording node state
  · rename_i found
    exact noteReference_run recording (lookup_origin found)
  · split
    · rename_i imported
      exact noteReference_run recording (staticImport_origin imported)
    · split <;> exact passed_run recording node state

/-- A member that is looked up on a type is filed at its name when the search answers. -/
theorem denoteMember_run (path : String) (name : Node) (kind : MemberKind) (recording : Bool)
    (state : State) :
    Run env sited mode (name :: above) (seen recording [.name .reference name]) state
      (denoteMember env path name kind recording state).2 := by
  unfold denoteMember
  split
  · rename_i answer
    exact noteReference_run recording (.searched answer)
  · exact passed_run recording name state

/-- A field of what an object stands for is filed at its name. -/
theorem fieldOn_run (object field : Node) (recording : Bool) (referent : Referent) (state : State) :
    Run env sited mode (field :: above) (seen recording [.name .reference field]) state
      (fieldOn env object field recording referent state).2 := by
  unfold fieldOn
  cases referent with
  | name dotted => simp only; split <;> exact passed_run recording field state
  | type path =>
    simp only
    split
    · exact passed_run recording field state
    · exact denoteMember_run path field .field recording state
  | value type =>
    cases type with
    | reference path => exact denoteMember_run path field .field recording state
    | array element => simp only; split <;> exact passed_run recording field state
    | primitive kind => exact passed_run recording field state
  | unknown => exact passed_run recording field state

/-- A method that is called on an object is filed at its name. -/
theorem methodOn_run (object name : Node) (recording : Bool) (referent : Referent) (state : State) :
    Run env sited mode (name :: above) (seen recording [.name .reference name]) state
      (methodOn env object name recording referent state).2 := by
  unfold methodOn
  cases referent with
  | type path => exact denoteMember_run path name .method recording state
  | value type =>
    cases type with
    | reference path => exact denoteMember_run path name .method recording state
    | array element => exact passed_run recording name state
    | primitive kind => exact passed_run recording name state
  | name dotted => exact passed_run recording name state
  | unknown => exact passed_run recording name state

/-- A method that is referred to is filed at its name. -/
theorem referredMethod_run (qualifier name : Node) (recording : Bool) (referent : Referent)
    (state : State) :
    Run env sited mode (name :: above) (seen recording [.name .reference name]) state
      (referredMethod env qualifier name recording referent state).2 := by
  unfold referredMethod
  split
  · exact passed_run recording name state
  · rename_i referent _
    have run : Run env sited mode (name :: above) (seen recording [.name .reference name]) state
        (methodOn env qualifier name recording referent state).2 := methodOn_run ..
    split <;> simp_all

end Reference

/-- A field access passes the marks of its object, then the name of the field. -/
theorem denoteField_run (runs : Runs env sited walker below) (ordinary : Ordinary sited cursor)
    (recording : Bool) (state : State) :
    Run env sited .around (placeOf cursor) (seen recording (fieldMarks below cursor.node)) state
      (denoteField env walker cursor recording state).2 := by
  unfold denoteField fieldMarks
  simp only [Cursor.child?]
  cases hasObject : cursor.node.child? "object" with
  | none => rw [seen_nil]; exact .refl
  | some object =>
    have goes : Goes env sited .around cursor object := ordinary.goesRole object hasObject
    cases hasField : cursor.node.child? "field" with
    | none => rw [seen_nil]; exact .refl
    | some field =>
      simp only [Option.map_some]
      split
      · rw [seen_nil]
        exact runs.denoteChild goes false state
      · rw [seen_append]
        have run := runs.denoteChild goes recording state
        split
        · rename_i found
          rw [found] at run
          exact run.trans (.aside (Node.mem_of_child? hasField) (fieldOn_run ..))
        · rename_i found
          rw [found] at run
          exact run.trans (passed_run ..)

/-- What is called passes the marks of its object, then the name of the method. -/
theorem denoteCallee_run (runs : Runs env sited walker below) (ordinary : Ordinary sited cursor)
    {name : Node} (named : name ∈ cursor.node.children) (recording : Bool) (state : State) :
    Run env sited .around (placeOf cursor)
      (seen recording (below.denote? (cursor.node.child? "object") ++ [.name .reference name])) state
      (denoteCallee env walker (cursor.child? "object") name recording state).2 := by
  rw [seen_append, Cursor.child?]
  cases hasObject : cursor.node.child? "object" with
  | none =>
    have nothing : seen recording (below.denote? none) = [] := seen_nil recording
    rw [nothing, List.nil_append]
    simp only [Option.map_none, denoteCallee]
    split
    · rename_i answer
      exact .aside named (noteReference_run recording (implicitMethod_origin answer))
    · exact passed_run recording name state
  | some object =>
    have run := runs.denoteChild (ordinary.goesRole object hasObject) recording state
    simp only [Option.map_some, denoteCallee]
    split
    · rename_i found
      rw [found] at run
      exact run.trans (.aside named (methodOn_run ..))
    · rename_i found
      rw [found] at run
      exact run.trans (passed_run ..)

/-- A call passes its callee, then its arguments. -/
theorem denoteCall_run (runs : Runs env sited walker below) (ordinary : Ordinary sited cursor)
    (recording : Bool) (state : State) :
    Run env sited .around (placeOf cursor) (seen recording (callMarks below cursor.node)) state
      (denoteCall env walker cursor recording state).2 := by
  unfold denoteCall callMarks
  cases named : cursor.node.child? "name" with
  | none => simp only [seen_nil]; exact .refl
  | some name =>
    simp only
    rw [seen_append]
    exact (denoteCallee_run runs ordinary (Node.mem_of_child? named) recording state).trans
      (runs.visitRecording recording ordinary.goesRole _)

/-- A type on the left of a method reference passes no marks, an expression those of its own. -/
theorem denoteQualifier_run (runs : Runs env sited walker below) {qualifier : Node}
    (goes : Goes env sited mode cursor qualifier) (recording : Bool) (state : State) :
    Run env sited mode (placeOf cursor) (seen recording (qualifierMarks below qualifier)) state
      (denoteQualifier env walker (cursor.down qualifier) recording state).2 := by
  unfold denoteQualifier qualifierMarks
  by_cases isType : Tree.isTypeKind qualifier.kind = true
  · rw [if_pos isType, seen_nil]
    simp only [Cursor.kind, Cursor.down, isType, if_true]
    split <;> exact .refl
  · rw [if_neg isType]
    simp only [Cursor.kind, Cursor.down, isType]
    exact runs.denoteChild goes recording state

/-- A method reference passes its left side, then the name of the method. -/
theorem denoteReference_run (runs : Runs env sited walker below) (ordinary : Ordinary sited cursor)
    (recording : Bool) (state : State) :
    Run env sited .around (placeOf cursor) (seen recording (referenceMarks below cursor.node)) state
      (denoteReference env walker cursor recording state).2 := by
  unfold denoteReference referenceMarks
  have inside : ∀ child ∈ cursor.node.named, child ∈ cursor.node.children :=
    fun _ => Node.mem_of_named
  simp only [Cursor.named]
  generalize cursor.node.named = nodes at inside ⊢
  cases nodes with
  | nil => rw [seen_nil]; exact .refl
  | cons qualifier others =>
    have goes : Goes env sited .around cursor qualifier :=
      ordinary.goes (inside qualifier List.mem_cons_self)
    have run := denoteQualifier_run runs goes recording state
    rw [seen_append]
    simp only [List.map_cons, List.getLast?_map]
    split
    · rename_i found
      rw [found] at run
      refine run.trans ?_
      cases others.getLast? with
      | none => exact seen_nil recording ▸ .refl
      | some name => exact passed_run recording name _
    · rename_i found
      rw [found] at run
      refine run.trans ?_
      cases isLast : others.getLast? with
      | none => exact seen_nil recording ▸ .refl
      | some name =>
        have named := inside name (List.mem_cons_of_mem _ (List.mem_of_getLast? isLast))
        simp only [Option.map_some]
        split
        · exact passed_run recording name _
        · exact .aside named (referredMethod_run ..)

/-- An element of an array passes the array, then the index. -/
theorem denoteElement_run (runs : Runs env sited walker below) (ordinary : Ordinary sited cursor)
    (recording : Bool) (state : State) :
    Run env sited .around (placeOf cursor) (seen recording (elementMarks below cursor.node)) state
      (denoteElement env walker cursor recording state).2 := by
  unfold elementMarks
  cases hasArray : cursor.node.child? "array" with
  | none =>
    simp only [denoteElement, Cursor.child?, hasArray, Option.map_none, seen_nil]
    exact .refl
  | some array =>
    have isArray : cursor.child? "array" = some (cursor.down array) := by
      rw [Cursor.child?, hasArray]
      rfl
    rw [denoteElement_snd env walker cursor _ recording state isArray]
    simp only [seen_append]
    exact (runs.denoteChild (ordinary.goesRole array hasArray) recording state).trans
      (runs.visitRecording recording ordinary.goesRole _)

/-- What is visited of a creation: its body is not among it. -/
theorem goesCreation (arrives : sited → Arrives cursor)
    (creates : cursor.node.kind = "object_creation_expression") :
    ∀ child ∈ creationParts cursor.node, Goes env sited .around cursor child := by
  intro child member
  obtain ⟨kept, held⟩ := List.mem_filter.mp member
  have inside := List.mem_of_mem_eraseP kept
  have outside (here : sited) : child.kind ∉ bodyKinds := by
    intro isBody
    rcases (arrives here).housed.here.owned child inside isBody with ⟨isMember, _⟩ | ⟨_, isBody⟩
    · rw [creates] at isMember
      exact absurd isMember (by decide)
    · simp [isBody] at held
  have notField : cursor.node.kind ∉ fieldKinds := by
    rw [creates]
    decide
  have free : cursor.node.kind ∉ namingKinds := by
    rw [creates]
    decide
  exact ⟨inside, fun here => (arrives here).housed.arrives inside (outside here) notField,
    fun here => .around (outside here)
      (memberName?_eq_none free (fun _ => (arrives here).apart) child)⟩

/-- A creation passes its parts, then the body of its anonymous class. -/
theorem visitCreation_run (runs : Runs env sited walker below) (arrives : sited → Arrives cursor)
    (creates : cursor.node.kind = "object_creation_expression") (state : State) :
    Run env sited .around (placeOf cursor) (creationMarks below cursor.node) state
      (visitCreation env walker cursor state) := by
  have walked := runs.visitAll (goesCreation arrives creates) state
  unfold visitCreation creationMarks
  cases hasBody : creationBody? cursor.node with
  | none => exact walked.trans .refl
  | some body =>
    obtain ⟨member, isBody⟩ := List.mem_filter.mp (List.mem_of_getLast? hasBody)
    have inside := Node.mem_of_named member
    refine walked.trans (enterAnonymous_run runs inside (fun here => ?_) _ _)
    exact ⟨(arrives here).housed.below inside, by rw [eq_of_beq isBody]; decide⟩

/-- Among the nodes that denote something, only a creation changes the frame of a walk. -/
theorem ExprForm.ordinary {form : ExprForm} (found : ofKind cursor.node.kind = form)
    (free : form ∉ [.creation, .other]) (arrives : sited → Arrives cursor) :
    Ordinary sited cursor := by
  refine ⟨arrives, fun _ guarded => free ?_⟩
  have forms : ∀ kind ∈ guardedKinds, ofKind kind ∈ [.creation, .other] := by decide
  exact found ▸ forms _ guarded

/-- **What a node denotes** is found by a run over its marks, whatever the walkers below do. -/
theorem denoteNode_run (runs : Runs env sited walker below) (arrives : sited → Arrives cursor)
    (recording : Bool) (state : State) :
    Run env sited .around (placeOf cursor) (seen recording (denotedNode below cursor.node)) state
      (denoteNode env walker cursor recording state).2 := by
  unfold denoteNode denotedNode
  simp only [Cursor.kind]
  cases form : ExprForm.ofKind cursor.node.kind with
  | name => exact denoteName_run cursor.node recording state
  | this => simp only [seen_nil]; split <;> exact .refl
  | super => simp only [seen_nil]; exact .refl
  | field => exact denoteField_run runs (ExprForm.ordinary form (by decide) arrives) recording state
  | call => exact denoteCall_run runs (ExprForm.ordinary form (by decide) arrives) recording state
  | reference =>
    exact denoteReference_run runs (ExprForm.ordinary form (by decide) arrives) recording state
  | parenthesized =>
    have ordinary := ExprForm.ordinary form (by decide) arrives
    simp only [Cursor.named, List.head?_map]
    cases found : cursor.node.named.head? with
    | none => exact seen_nil recording ▸ .refl
    | some inner =>
      exact runs.denoteChild (ordinary.goesNamed inner (List.mem_of_head? found)) recording state
  | element =>
    exact denoteElement_run runs (ExprForm.ordinary form (by decide) arrives) recording state
  | cast =>
    have ordinary := ExprForm.ordinary form (by decide) arrives
    exact runs.visitRecording recording ordinary.goesRole state
  | creation =>
    cases recording with
    | false => exact .refl
    | true =>
      have creates : cursor.node.kind = "object_creation_expression" :=
        ExprForm.kind_eq form (by decide) (by decide)
      exact visitCreation_run runs arrives creates state
  | arrayCreation =>
    have ordinary := ExprForm.ordinary form (by decide) arrives
    cases recording with
    | false => exact .refl
    | true => exact runs.visitChildren ordinary.goesNamed state
  | text => simp only [seen_nil]; exact .refl
  | classLiteral => simp only [seen_nil]; exact .refl
  | other =>
    cases recording with
    | false => exact .refl
    | true => exact runs.visit cursor state arrives

end SymbolIndex.Walk
