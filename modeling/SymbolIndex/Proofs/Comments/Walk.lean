import SymbolIndex.Proofs.Comments.Steps
import SymbolIndex.Proofs.Independence

/-!
# Comments are transparent

A source is indexed as if its tree had no comments (`build_uncommented`): with the same error, or with the
same occurrences and notes. The proof is a simulation like that of `Proofs.Independence`, by the steps of
`Comments.Steps`, and `walker_alongside` is the induction on the levels that are left.

In two places a comment is read as something else (`Harmless`). Among the parameters of a lambda without
types it is filed as one of them (`comment_filed_as_parameter`), and where it comes first in parentheses it is
taken for the expression in them. `build_uncommented` assumes that no comment stands there. It also leaves the
case that the tree nests too deep and the node past the limit is a comment. A node takes two levels of nesting
at most, so this happens only below half as many nodes as there are levels.
-/

namespace SymbolIndex.Walk

open SymbolIndex.Tree (Node Source Cursor SourceError Tidy Inner)

/-! ## Comments that are read -/

/-- A node whose comments are not read as something else: as the names of a lambda's parameters, or as what
stands in parentheses. -/
@[mk_iff]
structure Harmless (node : Node) : Prop where
  inferred : node.kind = "inferred_parameters" → ∀ child ∈ node.children, ¬ child.isComment
  parenthesized : node.kind = "parenthesized_expression" → ∀ child ∈ node.named.head?, ¬ child.isComment

instance (node : Node) : Decidable (Harmless node) :=
  decidable_of_iff' _ (harmless_iff node)

/-- A tree whose comments are not read as something else. -/
def HarmlessComments (root : Node) : Prop :=
  root.all fun node => decide (Harmless node)

instance (root : Node) : Decidable (HarmlessComments root) :=
  inferInstanceAs (Decidable (_ = true))

/-- What holds of the comments in a whole tree holds at each of its places. -/
theorem HarmlessComments.at {root node : Node} {above : List Node} (harmless : HarmlessComments root)
    (place : Place root (node :: above)) : Harmless node :=
  of_decide_eq_true (Node.all_iff.mp (place.all harmless)).1

section Constructs

variable {env : Env} {root : Node} {depth : Nat} {walker walker' : Walker} {cursor : Cursor}

/-! ## Statements -/

/-- A block is walked alike, also one that initialises objects. -/
theorem visitBlock_follows (walkers : Alongside env root (depth + 1) walker walker')
    (stands : Stands root depth cursor) :
    Follows env root (visitBlock walker cursor) (visitBlock walker' cursor.uncommented) := by
  have step := (walkers.visitChildren stands).inBlock
  have parent : cursor.uncommented.parent?.map (·.kind) = cursor.parent?.map (·.kind) := by
    rw [Cursor.parent?_uncommented, Option.map_map]
    exact congrArg (Option.map · cursor.parent?) (funext Node.kind_uncommented)
  unfold visitBlock
  simp only [parent]
  cases cursor.parent?.map (·.kind) == some "class_body" with
  | true => exact step.inMethod instanceInit
  | false => exact step

/-- A variable is declared behind its value, with the type of the value or the one that is written. -/
theorem declareBehind_follows (walkers : Alongside env root depth walker walker') {value : Option Cursor}
    (stands : ∀ cursor ∈ value, Stands root depth cursor) (name : Node) (inferred : Bool)
    (ofValue : JavaType → Option JavaType) (written : Scope → Option JavaType) :
    Follows env root (declareBehind env walker name value inferred ofValue written)
      (declareBehind env walker' name.uncommented (value.map Cursor.uncommented) inferred ofValue written) := by
  unfold declareBehind
  simp only [declare_uncommented]
  cases inferred with
  | true =>
    have typed : Follows env root
        (fun state => (walker.valueType? value state).2.declare env name
          ((walker.valueType? value state).1.bind ofValue))
        (fun state => (walker'.valueType? (value.map Cursor.uncommented) state).2.declare env name
          ((walker'.valueType? (value.map Cursor.uncommented) state).1.bind ofValue)) :=
      (walkers.valueType? stands).resolved (fun _ => rfl) fun state same => by rw [same]
    exact (walkers.visit? stands).trans typed
  | false =>
    have declared : Follows env root (fun state => state.declare env name (written state.scope))
        (fun state => state.declare env name (written state.scope)) :=
      Follows.quiet _ fun _ => rfl
    exact (walkers.visit? stands).trans declared

/-- A variable is filed and then declared behind its value. -/
theorem fileBehind_follows (walkers : Alongside env root (depth + 1) walker walker') (tidy : Tidy root)
    (stands : Stands root depth cursor) (name : Node) (typeName : Option String) (inferred : Bool)
    (ofValue : JavaType → Option JavaType) (written : Scope → Option JavaType) :
    Follows env root
      (fun state => declareBehind env walker name (cursor.child? "value") inferred ofValue written
        (state.fileLocal env name typeName))
      (fun state => declareBehind env walker' name.uncommented
        ((cursor.child? "value").map Cursor.uncommented) inferred ofValue written
        (state.fileLocal env name typeName)) :=
  (Follows.quiet (fun state : State => state.fileLocal env name typeName) fun _ => rfl).trans
    (declareBehind_follows walkers (stands.child? tidy "value") name inferred ofValue written)

/-- A declarator of a local declaration files its variable and declares it behind its value. -/
theorem visitLocal_follows (walkers : Alongside env root (depth + 1) walker walker') (tidy : Tidy root)
    {declarator : Cursor} (stands : Stands root depth declarator) {type : Option Node}
    (inner : ∀ node ∈ type, Inner node) (declared : Option JavaType) :
    Follows env root (visitLocal env walker type declared · declarator)
      (visitLocal env walker' (type.map Node.uncommented) declared · declarator.uncommented) := by
  have here := stands.tidy tidy
  simp only [visitLocal, Cursor.node_uncommented, here.child?_uncommented, Cursor.child?_uncommented here,
    Tree.dimensionsOf_uncommented, isInferred_uncommented, typeText?_uncommented env inner]
  cases declarator.node.child? "name" with
  | none => exact Follows.idle
  | some name =>
    simp only [Option.map_some, fileLocal_uncommented]
    exact fileBehind_follows walkers tidy stands name _ _ _ _

/-- A local declaration does so for each declarator, with one type for all of them. -/
theorem visitLocals_follows (walkers : Alongside env root (depth + 1) walker walker') (tidy : Tidy root)
    (stands : Stands root depth cursor) :
    Follows env root (visitLocals env walker cursor) (visitLocals env walker' cursor.uncommented) := by
  have here := stands.tidy tidy
  have inner := here.innerRole "type"
  unfold visitLocals
  simp only [Cursor.node_uncommented, here.child?_uncommented, Cursor.childrenIn_uncommented,
    isInferred_uncommented, typeOf?_uncommented env _ inner]
  have word {declarator : Cursor} (inside : declarator ∈ cursor.childrenIn "declarator") :
      Stands root depth declarator :=
    (stands.inRole tidy inside).weaken
  have declarators (declared : Option JavaType) := Follows.foldl
    (fun declarator inside _ => visitLocal_follows walkers tidy (word inside) inner declared)
    (fun declarator inside comment => absurd comment (word inside).word)
  have step := Follows.reading (fun state : State =>
    if isInferred env (cursor.node.child? "type") then none
    else typeOf? env state.scope (cursor.node.child? "type")) declarators
  exact step

/-- The variable of an enhanced `for` is declared behind the value that is looped over. -/
theorem visitLoopVariable_follows (walkers : Alongside env root (depth + 1) walker walker') (tidy : Tidy root)
    (stands : Stands root depth cursor) (name : Node) :
    Follows env root (visitLoopVariable env walker cursor name)
      (visitLoopVariable env walker' cursor.uncommented name.uncommented) := by
  have here := stands.tidy tidy
  have inner := here.innerRole "type"
  unfold visitLoopVariable
  simp only [Cursor.node_uncommented, here.child?_uncommented, Cursor.child?_uncommented here,
    Tree.dimensionsOf_uncommented, isInferred_uncommented, typeText?_uncommented env inner,
    typeOf?_uncommented env _ inner, fileLocal_uncommented]
  exact fileBehind_follows walkers tidy stands name _ _ _ _

/-- An enhanced `for` walks its body behind its variable, inside a block. -/
theorem visitLoop_follows (walkers : Alongside env root (depth + 1) walker walker') (tidy : Tidy root)
    (stands : Stands root depth cursor) :
    Follows env root (visitLoop env walker cursor) (visitLoop env walker' cursor.uncommented) := by
  have here := stands.tidy tidy
  have body := walkers.visit? (stands.child? tidy "body")
  unfold visitLoop
  simp only [Cursor.node_uncommented, here.child?_uncommented, Cursor.child?_uncommented here]
  cases cursor.node.child? "name" with
  | none => exact body.inBlock
  | some name => exact ((visitLoopVariable_follows walkers tidy stands name).trans body).inBlock

/-- Children of one kind are treated in a way of their own, and the others are visited. -/
theorem visitSorted_follows (walkers : Alongside env root (depth + 1) walker walker')
    (stands : Stands root depth cursor) (kind : String) (passes : Node.PassesComments (· == kind))
    (special special' : Cursor → State → State)
    (each : ∀ child, Stands root (depth + 1) child →
      Follows env root (special child) (special' child.uncommented)) :
    Follows env root
      (cursor.named.foldl fun state child =>
        if child.kind == kind then special child state else walker.visit child state)
      (cursor.uncommented.named.foldl fun state child =>
        if child.kind == kind then special' child state else walker'.visit child state) := by
  rw [Cursor.named_uncommented]
  refine Follows.foldl (fun child inside word => ?_) fun child inside comment => ?_
  · rw [Cursor.kind_uncommented]
    cases child.kind == kind with
    | true => exact each child ⟨stands.named inside, word⟩
    | false => exact walkers.visit child ⟨stands.named inside, word⟩
  · have plain : (child.kind == kind) = false := Node.eq_false_of_comment passes comment
    simp only [plain]
    exact walkers.comment child (stands.named inside) comment

/-- Declaring what is caught stops no walk. -/
theorem tooDeep_declareCaught (parameter : Node) (state : State) :
    (declareCaught env parameter state).tooDeep = state.tooDeep := by
  unfold declareCaught
  cases parameter.child? "name" <;> rfl

/-- A `catch` clause declares what it catches and walks the rest. A comment between them is walked over. -/
theorem visitCatch_follows (walkers : Alongside env root (depth + 1) walker walker') (tidy : Tidy root)
    (stands : Stands root depth cursor) :
    Follows env root (visitCatch env walker cursor) (visitCatch env walker' cursor.uncommented) := by
  have caught (child : Cursor) (stands : Stands root (depth + 1) child) :
      Follows env root (declareCaught env child.node) (declareCaught env child.uncommented.node) :=
    (Follows.quiet _ (tooDeep_declareCaught child.node)).congr
      (declareCaught_uncommented env (stands.tidy tidy))
  exact (visitSorted_follows walkers stands "catch_formal_parameter" (by decide)
    (fun child => declareCaught env child.node) (fun child => declareCaught env child.node) caught).inBlock

/-- A resource of a `try` is a variable behind its value, or an expression. -/
theorem visitResource_follows (walkers : Alongside env root (depth + 1) walker walker') (tidy : Tidy root)
    {resource : Cursor} (stands : Stands root depth resource) :
    Follows env root (visitResource env walker · resource)
      (visitResource env walker' · resource.uncommented) := by
  have here := stands.tidy tidy
  have inner := here.innerRole "type"
  simp only [visitResource, Cursor.node_uncommented, here.child?_uncommented, Cursor.child?_uncommented here,
    isInferred_uncommented, typeText?_uncommented env inner, typeOf?_uncommented env _ inner]
  cases resource.node.child? "name" with
  | none => exact walkers.visitChildren stands
  | some name =>
    simp only [Option.map_some, fileLocal_uncommented]
    exact fileBehind_follows walkers tidy stands name _ _ _ _

/-- A comment among resources is no resource. -/
theorem visitResource_of_comment {resource : Cursor} (tidy : Tidy resource.node)
    (comment : resource.node.isComment) (state : State) :
    visitResource env walker state resource = state := by
  simp only [visitResource, tidy.child?_of_comment comment, Walker.visitChildren, Cursor.named,
    tidy.named_of_comment comment]
  rfl

/-- A `try` with resources walks them, and then its blocks, inside one block. -/
theorem visitTry_follows (walkers : Alongside env root (depth + 1) walker walker') (tidy : Tidy root)
    (stands : Stands root depth cursor) :
    Follows env root (visitTry env walker cursor) (visitTry env walker' cursor.uncommented) := by
  have resources (child : Cursor) (stands : Stands root (depth + 1) child) :
      Follows env root (child.named.foldl (visitResource env walker))
        (child.uncommented.named.foldl (visitResource env walker')) := by
    rw [Cursor.named_uncommented]
    refine Follows.foldl (fun resource inside word => ?_) fun resource inside comment => ?_
    · have resource : Stands root (depth + 1) resource := ⟨stands.weaken.named inside, word⟩
      exact visitResource_follows walkers tidy resource.weaken
    · simp only [visitResource_of_comment ((stands.named inside).place.all tidy) comment]
      exact Follows.idle
  exact (visitSorted_follows walkers stands "resource_specification" (by decide)
    (fun child state => child.named.foldl (visitResource env walker) state)
    (fun child state => child.named.foldl (visitResource env walker') state) resources).inBlock

/-- An `instanceof` binds its variable behind the value that it tests. -/
theorem visitInstanceof_follows (walkers : Alongside env root (depth + 1) walker walker') (tidy : Tidy root)
    (stands : Stands root depth cursor) :
    Follows env root (visitInstanceof env walker cursor)
      (visitInstanceof env walker' cursor.uncommented) := by
  have here := stands.tidy tidy
  have inner := here.innerRole "right"
  unfold visitInstanceof
  simp only [Cursor.node_uncommented, here.child?_uncommented, Cursor.child?_uncommented here,
    typeText?_uncommented env inner, typeOf?_uncommented env _ inner]
  cases cursor.node.child? "name" with
  | none => exact walkers.visitChildren stands
  | some name =>
    simp only [Option.map_some, fileLocal_uncommented, declare_uncommented]
    have bound : Follows env root
        (fun state => (state.fileLocal env name (typeText? env (cursor.node.child? "right"))).declare env name
          (typeOf? env state.scope (cursor.node.child? "right")))
        (fun state => (state.fileLocal env name (typeText? env (cursor.node.child? "right"))).declare env name
          (typeOf? env state.scope (cursor.node.child? "right"))) :=
      Follows.quiet _ fun _ => rfl
    exact (walkers.visit? (stands.child? tidy "left")).trans bound

theorem tooDeep_visitPattern (cursor : Cursor) (state : State) :
    (visitPattern env cursor state).tooDeep = state.tooDeep := by
  unfold visitPattern
  split
  · rfl
  · split <;> rfl

/-- A pattern binds the name at its end, which is no comment in a tidy tree. -/
theorem visitPattern_follows (tidy : Tidy root) (stands : Stands root depth cursor)
    (isPattern : cursor.kind ∈ ["type_pattern", "record_pattern_component"]) :
    Follows env root (visitPattern env cursor) (visitPattern env cursor.uncommented) :=
  (Follows.quiet (visitPattern env cursor) (tooDeep_visitPattern cursor)).congr
    (visitPattern_uncommented env (stands.tidy tidy) isPattern _)

theorem tooDeep_declareLambdaParameters (list : Node) (state : State) :
    (declareLambdaParameters env list state).tooDeep = state.tooDeep := by
  unfold declareLambdaParameters
  split
  · rfl
  · split
    · refine tooDeep_foldl (fun state name => ?_) _ state
      rfl
    · refine tooDeep_foldl (fun state parameter => ?_) _ state
      rfl

/-- **A lambda** declares the same parameters when no comment stands among names without types, the place
where it would be taken for a name. -/
theorem visitLambda_follows (walkers : Alongside env root (depth + 1) walker walker') (tidy : Tidy root)
    (harmless : HarmlessComments root) (stands : Stands root depth cursor) :
    Follows env root (visitLambda env walker cursor) (visitLambda env walker' cursor.uncommented) := by
  have here := stands.tidy tidy
  have body := walkers.visit? (stands.child? tidy "body")
  unfold visitLambda
  simp only [Cursor.node_uncommented, here.child?_uncommented, Cursor.child?_uncommented here]
  cases found : cursor.node.child? "parameters" with
  | none => exact body.inBlock
  | some list =>
    have place := (stands.below (Node.mem_of_child? found)).place
    have bound : Follows env root (declareLambdaParameters env list)
        (declareLambdaParameters env list.uncommented) :=
      (Follows.quiet _ (tooDeep_declareLambdaParameters list)).congr
        (declareLambdaParameters_uncommented env (place.all tidy) (harmless.at place).inferred)
    exact (bound.trans body).inBlock

/-- An access notes the same failure of the chain that it starts. -/
theorem visitAccess_follows
    (denotes : Answers env root (walker.denote cursor true) (walker'.denote cursor.uncommented true)) :
    Follows env root (visitAccess env walker cursor) (visitAccess env walker' cursor.uncommented) := by
  refine denotes.resolved (fun state => ?_) fun state same => ?_
  · exact (resolves_visitAccess env walker cursor state).2.1
  · simp only [visitAccess, same, Cursor.kind_uncommented, Cursor.node_uncommented, note_uncommented]

/-- A bare name is looked up alike, unless the node around it takes it for something else. -/
theorem visitName_follows (tidy : Tidy root) (stands : Stands root depth cursor)
    (denotes : Answers env root (walker.denote cursor true) (walker'.denote cursor.uncommented true)) :
    Follows env root (visitName walker cursor) (visitName walker' cursor.uncommented) := by
  have named : Follows env root (fun state => (walker.denote cursor true state).2)
      (fun state => (walker'.denote cursor.uncommented true state).2) :=
    denotes.resolved (fun _ => rfl) fun state same => by rw [same]
  unfold visitName
  rw [Cursor.parent?_uncommented]
  cases found : cursor.parent? with
  | none => exact Follows.idle
  | some parent =>
    have around := stands.above tidy parent (List.mem_of_head? found)
    simp only [Option.map_some, Node.kind_uncommented, Cursor.node_uncommented, isKeyOf_uncommented around]
    cases holdsNoExpression parent.kind || isKeyOf parent cursor.node with
    | true => exact Follows.idle
    | false => exact named

/-- A creation walks the same parts, and the body of an anonymous class last. -/
theorem visitCreation_follows (walkers : Alongside env root (depth + 1) walker walker') (tidy : Tidy root)
    (stands : Stands root depth cursor) :
    Follows env root (visitCreation env walker cursor) (visitCreation env walker' cursor.uncommented) := by
  have here := stands.tidy tidy
  have parts : Follows env root (walker.visitAll ((creationParts cursor.node).map cursor.down))
      (walker'.visitAll ((creationParts cursor.uncommented.node).map cursor.uncommented.down)) := by
    rw [Cursor.node_uncommented, creationParts_uncommented here, Cursor.map_down_uncommented]
    refine walkers.visitAll fun child inside => ?_
    obtain ⟨node, part, rfl⟩ := List.mem_map.mp inside
    exact stands.below (List.mem_of_mem_eraseP (List.mem_filter.mp part).1)
  have types (scope : Scope) : (cursor.node.child? "type").bind (classOf env scope) =
      ((cursor.node.child? "type").map Node.uncommented).bind (classOf env scope) := by
    cases found : cursor.node.child? "type" with
    | none => rfl
    | some type => exact (classOf_uncommented env scope (here.belowRole found)).symm
  unfold visitCreation
  simp only [Cursor.node_uncommented, creationBody?_uncommented, here.child?_uncommented, ← types]
  cases found : creationBody? cursor.node with
  | none => exact parts
  | some body =>
    obtain ⟨inside, isBody⟩ := List.mem_filter.mp (List.mem_of_getLast? found)
    have passes : Node.PassesComments (· == "class_body") := by decide
    have standsBody : Stands root (depth + 1) (cursor.down body) :=
      ⟨stands.below (Node.mem_of_named inside), Node.not_comment_of_kind passes isBody⟩
    have entered : Follows env root
        (fun state => enterAnonymous env walker (cursor.down body)
          ((cursor.node.child? "type").bind (classOf env state.scope)) state)
        (fun state => enterAnonymous env walker' (cursor.down body).uncommented
          ((cursor.node.child? "type").bind (classOf env state.scope)) state) :=
      Follows.reading (fun state => (cursor.node.child? "type").bind (classOf env state.scope))
        (enterAnonymous_follows walkers tidy standsBody)
    exact parts.trans entered

/-! ## Expressions -/

/-- A field access denotes the field of the same object. -/
theorem denoteField_answers (walkers : Alongside env root (depth + 1) walker walker') (tidy : Tidy root)
    (stands : Stands root depth cursor) (recording : Bool) :
    Answers env root (denoteField env walker cursor recording)
      (denoteField env walker' cursor.uncommented recording) := by
  have here := stands.tidy tidy
  cases hasObject : cursor.child? "object" with
  | none =>
    unfold denoteField
    simp only [hasObject, Cursor.child?_uncommented here, Option.map_none, Cursor.node_uncommented,
      Env.text_uncommented]
    exact Answers.quiet _ fun _ => rfl
  | some object =>
    cases hasField : cursor.node.child? "field" with
    | none =>
      unfold denoteField
      simp only [hasObject, hasField, Cursor.child?_uncommented here, here.child?_uncommented,
        Option.map_none, Option.map_some, Cursor.node_uncommented, Env.text_uncommented]
      exact Answers.quiet _ fun _ => rfl
    | some field =>
      refine (walkers.denote object (recording && !(field.kind == "this"))
        (stands.child? tidy "object" object hasObject)).refined (fun state => ?_) fun state same => ?_
      · exact (resolves_denoteField env walker cursor object field recording state hasObject hasField).2.1
      · simp only [denoteField, hasObject, hasField, Cursor.child?_uncommented here, here.child?_uncommented,
          Cursor.node_uncommented, Option.map_some, Node.kind_uncommented, Env.text_uncommented,
          fieldOn_uncommented]
        cases isThis : field.kind == "this" with
        | true =>
          simp only [isThis, Bool.not_true, Bool.and_false] at same
          simp only [same, if_true]
        | false =>
          simp only [isThis, Bool.not_false, Bool.and_true] at same
          simp only [same, Bool.false_eq_true, if_false]

/-- What is called is found on the object, or in the classes around the call. -/
theorem denoteCallee_answers (walkers : Alongside env root depth walker walker') {object : Option Cursor}
    (stands : ∀ cursor ∈ object, Stands root depth cursor) (name : Node) (recording : Bool) :
    Answers env root (denoteCallee env walker object name recording)
      (denoteCallee env walker' (object.map Cursor.uncommented) name.uncommented recording) := by
  cases object with
  | none =>
    refine (Answers.quiet (denoteCallee env walker none name recording) fun state => ?_).congr fun state => ?_
    · exact (resolves_denoteCallee_none env walker name recording state).2.1
    · simp only [Option.map_none, denoteCallee, Env.text_uncommented, noteReference,
        fileReference_uncommented]
  | some object =>
    refine (walkers.denote object recording (stands object rfl)).refined (fun state => ?_) fun state same => ?_
    · exact (resolves_denoteCallee env walker object name recording state).2.1
    · simp only [Option.map_some, denoteCallee, same, Cursor.node_uncommented, methodOn_uncommented]

/-- A call denotes the result of the same method and walks its arguments. -/
theorem denoteCall_answers (walkers : Alongside env root (depth + 1) walker walker') (tidy : Tidy root)
    (stands : Stands root depth cursor) (recording : Bool) :
    Answers env root (denoteCall env walker cursor recording)
      (denoteCall env walker' cursor.uncommented recording) := by
  have here := stands.tidy tidy
  unfold denoteCall
  simp only [Cursor.node_uncommented, here.child?_uncommented, Cursor.child?_uncommented here,
    Env.text_uncommented]
  cases cursor.node.child? "name" with
  | none => exact Answers.quiet _ fun _ => rfl
  | some name =>
    exact (denoteCallee_answers walkers (stands.child? tidy "object") name recording).behind
      (walkers.visitRecording recording (stands.child? tidy "arguments"))

/-- The left side of a method reference is read as the same type or expression. -/
theorem denoteQualifier_answers (walkers : Alongside env root depth walker walker') {qualifier : Cursor}
    (inner : Inner qualifier.node) (stands : Stands root depth qualifier) (recording : Bool) :
    Answers env root (denoteQualifier env walker qualifier recording)
      (denoteQualifier env walker' qualifier.uncommented recording) := by
  unfold denoteQualifier
  simp only [Cursor.kind_uncommented, Cursor.node_uncommented, typeOf_uncommented env _ inner.tidy,
    Tree.typeText_uncommented env.source inner]
  cases Tree.isTypeKind qualifier.kind with
  | true =>
    refine Answers.quiet _ fun state => ?_
    simp only [if_true]
    split <;> rfl
  | false => exact walkers.denote qualifier recording stands

/-- An element of an array denotes the same type and walks its index. -/
theorem denoteElement_answers (walkers : Alongside env root (depth + 1) walker walker') (tidy : Tidy root)
    (stands : Stands root depth cursor) (recording : Bool) :
    Answers env root (denoteElement env walker cursor recording)
      (denoteElement env walker' cursor.uncommented recording) := by
  have here := stands.tidy tidy
  cases hasArray : cursor.child? "array" with
  | none =>
    unfold denoteElement
    simp only [hasArray, Cursor.child?_uncommented here, Option.map_none, Cursor.node_uncommented,
      Env.text_uncommented]
    exact Answers.quiet _ fun _ => rfl
  | some array =>
    refine ((walkers.denote array recording (stands.child? tidy "array" array hasArray)).behind
      (walkers.visitRecording recording (stands.child? tidy "index"))).refined (fun state => ?_)
      fun state same => ?_
    · rw [denoteElement_snd env walker cursor array recording state hasArray]
    · obtain ⟨outcome, walked⟩ := Prod.ext_iff.mp same
      simp only at outcome walked
      simp only [denoteElement, hasArray, Cursor.child?_uncommented here, Option.map_some, outcome, walked,
        Cursor.node_uncommented, Env.text_uncommented]

/-- A method reference names the same method, since a tidy tree has no comment where its parts are told
by their position. -/
theorem denoteReference_answers (walkers : Alongside env root (depth + 1) walker walker') (tidy : Tidy root)
    (stands : Stands root depth cursor) (isReference : cursor.node.kind = "method_reference")
    (recording : Bool) :
    Answers env root (denoteReference env walker cursor recording)
      (denoteReference env walker' cursor.uncommented recording) := by
  have here := stands.tidy tidy
  have below : cursor.node.kind ≠ "program" := by simp [isReference]
  cases parts : cursor.node.named with
  | nil =>
    have nothing : cursor.named = [] := by rw [Cursor.named, parts, List.map_nil]
    have nothing' : cursor.uncommented.named = [] := by
      rw [Cursor.named_uncommented, nothing, Cursor.uncommentedAll, List.filter_nil, List.map_nil]
    unfold denoteReference
    simp only [nothing, nothing', Cursor.node_uncommented, Env.text_uncommented]
    exact Answers.quiet _ fun _ => rfl
  | cons qualifier others =>
    have kept : ¬ qualifier.isComment :=
      here.qualifier_not_comment isReference qualifier (by simp [parts])
    have split : cursor.named = cursor.down qualifier :: others.map cursor.down := by
      rw [Cursor.named, parts, List.map_cons]
    have split' : cursor.uncommented.named =
        (cursor.down qualifier).uncommented :: (Node.uncommentedAll others).map cursor.uncommented.down := by
      rw [Cursor.map_down_uncommented, Cursor.named_uncommented, split]
      simp [Cursor.uncommentedAll, Cursor.down, kept]
    have member : qualifier ∈ cursor.node.children := Node.mem_of_named (by simp [parts])
    refine (denoteQualifier_answers walkers (here.inner member) ⟨stands.below member, kept⟩
      recording).refined (fun state => ?_) fun state same => ?_
    · exact (resolves_denoteReference env walker cursor _ _ recording state split).2.1
    · simp only [denoteReference, split, split', same, Cursor.node_uncommented, here.ending_uncommented below,
        List.getLast?_map]
      -- Behind `new` there is no name to look for; elsewhere the last word is the name.
      cases constructs : cursor.node.children.getLast?.map (·.kind) == some "new" with
      | true =>
        cases others.getLast? <;> cases (Node.uncommentedAll others).getLast? <;> rfl
      | false =>
        rw [here.referred_uncommented isReference (by simpa using constructs) parts]
        cases others.getLast? with
        | none => rfl
        | some name => simp only [Option.map_some, Cursor.down, Cursor.uncommented, referredMethod_uncommented]

/-- What stands in parentheses, unless a comment stands before it. -/
theorem denoteInner_answers (walkers : Alongside env root (depth + 1) walker walker')
    (stands : Stands root depth cursor)
    (harmless : ∀ child ∈ cursor.node.named.head?, ¬ child.isComment) (recording : Bool) :
    Answers env root
      (fun state => match cursor.named.head? with
        | some inner => walker.denote inner recording state
        | none => (.error (.expression (env.text cursor.node)), state))
      (fun state => match cursor.uncommented.named.head? with
        | some inner => walker'.denote inner recording state
        | none => (.error (.expression (env.text cursor.node)), state)) := by
  have head : cursor.uncommented.named.head? = cursor.named.head?.map Cursor.uncommented := by
    rw [Cursor.named, Cursor.node_uncommented, Node.named_uncommented, List.head?_map,
      Node.head?_uncommentedAll harmless, Cursor.named, List.head?_map, Option.map_map, Option.map_map]
    rfl
  rw [head]
  cases first : cursor.named.head? with
  | none =>
    simp only [Option.map_none]
    exact Answers.quiet _ fun _ => rfl
  | some inner =>
    have member : inner ∈ cursor.named := List.mem_of_head? first
    have word : ¬ inner.node.isComment := by
      rw [Cursor.named, List.head?_map] at first
      obtain ⟨node, found, rfl⟩ := Option.map_eq_some_iff.mp first
      exact harmless node found
    exact walkers.denote inner recording ⟨stands.named member, word⟩

/-- **What an expression denotes does not depend on comments.** An expression of no special form is visited
at the same place. -/
theorem denoteNode_answers (walkers : Alongside env root (depth + 1) walker walker') (tidy : Tidy root)
    (harmless : HarmlessComments root) (stands : Stands root depth cursor) (recording : Bool)
    (again : ExprForm.ofKind cursor.kind = .other →
      Follows env root (walker.visit cursor) (walker'.visit cursor.uncommented)) :
    Answers env root (denoteNode env walker cursor recording)
      (denoteNode env walker' cursor.uncommented recording) := by
  have here := stands.tidy tidy
  have inner := here.innerRole "type"
  have type (state : State) : denoteType env (cursor.node.uncommented.child? "type") state =
      denoteType env (cursor.node.child? "type") state := by
    rw [here.child?_uncommented, denoteType_uncommented env inner]
  unfold denoteNode
  simp only [Cursor.kind_uncommented, Cursor.node_uncommented, type, createdDimensions_uncommented,
    Env.text_uncommented, denoteName_uncommented]
  cases form : ExprForm.ofKind cursor.kind with
  | name =>
    exact Answers.quiet (denoteName env cursor.node recording)
      fun state => (resolves_denoteName env cursor.node recording state).2.1
  | this =>
    refine Answers.quiet _ fun state => ?_
    cases state.scope.frame? <;> rfl
  | super => exact Answers.quiet _ fun _ => rfl
  | field => exact denoteField_answers walkers tidy stands recording
  | call => exact denoteCall_answers walkers tidy stands recording
  | reference =>
    exact denoteReference_answers walkers tidy stands (ExprForm.kind_eq form (by decide) (by decide)) recording
  | parenthesized =>
    have kind : cursor.node.kind = "parenthesized_expression" :=
      ExprForm.kind_eq form (by decide) (by decide)
    exact denoteInner_answers walkers stands ((harmless.at stands.place).parenthesized kind) recording
  | element => exact denoteElement_answers walkers tidy stands recording
  | cast =>
    simp only [Cursor.child?_uncommented here]
    exact (walkers.visitRecording recording (stands.child? tidy "value")).denoting
      (denoteType env (cursor.node.child? "type"))
  | creation =>
    cases recording with
    | false => exact Follows.idle.denoting (denoteType env (cursor.node.child? "type"))
    | true =>
      exact (visitCreation_follows walkers tidy stands).denoting
        (denoteType env (cursor.node.child? "type"))
  | arrayCreation =>
    let denoted (state : State) : Outcome :=
      arrayOutcome (createdDimensions env cursor.node) (denoteType env (cursor.node.child? "type") state)
    cases recording with
    | false => exact Follows.idle.denoting denoted
    | true => exact (walkers.visitChildren stands).denoting denoted
  | text => exact Answers.quiet _ fun _ => rfl
  | classLiteral => exact Answers.quiet _ fun _ => rfl
  | other =>
    let denoted (_ : State) : Outcome := .error (.expression (env.text cursor.node))
    cases recording with
    | false => exact Follows.idle.denoting denoted
    | true => exact (again form).denoting denoted

/-! ## The walks -/

/-- **A node is visited the same with or without comments.** An access or a name is denoted at the same
place. -/
theorem visitNode_follows (walkers : Alongside env root (depth + 1) walker walker') (tidy : Tidy root)
    (harmless : HarmlessComments root) (stands : Stands root depth cursor)
    (again : ExprForm.ofKind cursor.kind ≠ .other →
      Answers env root (walker.denote cursor true) (walker'.denote cursor.uncommented true)) :
    Follows env root (visitNode env walker cursor) (visitNode env walker' cursor.uncommented) := by
  have denoted : ∀ entry ∈ Construct.kinds, entry.2 = .access ∨ entry.2 = .name →
      ExprForm.ofKind entry.1 ≠ .other := by decide
  unfold visitNode
  rw [Cursor.kind_uncommented]
  cases construct : Construct.ofKind cursor.kind with
  | skipped => exact Follows.idle
  | type => exact visitType_follows walkers tidy stands
  | fields => exact visitFields_follows walkers tidy stands
  | method => exact visitMethod_follows walkers tidy stands
  | compactConstructor => exact visitCompactConstructor_follows walkers tidy stands
  | enumConstant => exact visitEnumConstant_follows walkers tidy stands
  | staticInitializer => exact (walkers.visitChildren stands).inMethod classInit
  | block => exact visitBlock_follows walkers stands
  | blockLike => exact (walkers.visitChildren stands).inBlock
  | locals => exact visitLocals_follows walkers tidy stands
  | loop => exact visitLoop_follows walkers tidy stands
  | catchClause => exact visitCatch_follows walkers tidy stands
  | resources => exact visitTry_follows walkers tidy stands
  | instanceof => exact visitInstanceof_follows walkers tidy stands
  | pattern =>
    have kinds : ∀ entry ∈ Construct.kinds, entry.2 = .pattern →
        entry.1 ∈ ["type_pattern", "record_pattern_component"] := by decide
    exact visitPattern_follows tidy stands (kinds _ (Construct.mem_kinds construct (by decide)) rfl)
  | lambda => exact visitLambda_follows walkers tidy harmless stands
  | creation => exact visitCreation_follows walkers tidy stands
  | access =>
    exact visitAccess_follows (again (denoted _ (Construct.mem_kinds construct (by decide)) (.inl rfl)))
  | name =>
    exact visitName_follows tidy stands
      (again (denoted _ (Construct.mem_kinds construct (by decide)) (.inr rfl)))
  | other => exact walkers.visitChildren stands

end Constructs

section Walkers

variable (env : Env) {root : Node}

/-- Nothing is done at a comment: its kind is one that a walk skips. -/
theorem visitNode_of_comment (walker : Walker) {cursor : Cursor} (comment : cursor.node.isComment)
    (state : State) : visitNode env walker cursor state = state := by
  have skipped : Construct.ofKind cursor.kind = .skipped := by
    rcases Node.kind_of_comment comment with kind | kind <;> rw [Cursor.kind, kind] <;> decide
  rw [visitNode, skipped]

/-- A walk that has stopped at a comment has stopped. -/
theorem Halted.given {state : State} (halted : Halted env root state) :
    ∃ position, state.tooDeep = some position := by
  obtain ⟨_, _, _, _, _, given⟩ := halted
  exact ⟨_, given⟩

/-- A state that is given up stays as it is. -/
theorem Halted.giveUpAt {state : State} (halted : Halted env root state) (node : Node) :
    state.giveUpAt env node = state := by
  obtain ⟨_, given⟩ := halted.given
  simp only [State.giveUpAt, given]

/-- Where no level is left, the walk is given up. -/
theorem giveUpAt_follows (node : Node) :
    Follows env root (State.giveUpAt env node) (State.giveUpAt env node.uncommented) where
  same state := .inr (giveUpAt_uncommented env node state).symm
  halted state halted := by rwa [halted.giveUpAt]

/-- Where no level is left for a comment, only the walk that comes to it is given up. -/
theorem giveUpAt_comment {depth : Nat} (last : Tree.maxNesting ≤ 2 * depth) {cursor : Cursor}
    (located : Located root depth cursor) (comment : cursor.node.isComment) :
    Follows env root (State.giveUpAt env cursor.node) id where
  same state := by
    cases given : state.tooDeep with
    | some _ => exact .inr (by simp only [State.giveUpAt, given, id])
    | none =>
      have deep : Tree.maxNesting ≤ 2 * cursor.above.length :=
        Nat.le_trans last (Nat.mul_le_mul_left 2 located.deep)
      exact .inl ⟨cursor.node, cursor.above, located.place, comment, deep, by
        simp only [State.giveUpAt, given]⟩
  halted state halted := by rwa [halted.giveUpAt]

/-- A visit with a level left, unless the walk has been given up. -/
theorem visit_succ_follows {room : Nat} {cursor : Cursor}
    (follows : Follows env root (visitNode env (walker env room) cursor)
      (visitNode env (walker env room) cursor.uncommented)) :
    Follows env root ((walker env (room + 1)).visit cursor)
      ((walker env (room + 1)).visit cursor.uncommented) where
  same state := by
    simp only [walker, atLevel_eq]
    cases state.tooDeep with
    | some _ => exact .inr rfl
    | none => exact follows.same state
  halted state halted := by
    obtain ⟨_, given⟩ := halted.given
    simpa only [walker, given] using halted

/-- With one level more the answers agree as they do at the node itself; a walk that has stopped does
nothing. -/
theorem denote_succ_answers {room : Nat} {cursor : Cursor} {recording : Bool}
    (answers : Answers env root (denoteNode env (walker env room) cursor recording)
      (denoteNode env (walker env room) cursor.uncommented recording)) :
    Answers env root ((walker env (room + 1)).denote cursor recording)
      ((walker env (room + 1)).denote cursor.uncommented recording) where
  same state := by
    simp only [walker, atLevel_eq]
    cases state.tooDeep with
    | some _ => exact .inr rfl
    | none => exact answers.same state
  halted state halted := by
    obtain ⟨_, given⟩ := halted.given
    simpa only [walker, given] using halted

/-- A visit of a comment does nothing, or stops the walk there. -/
theorem visit_succ_comment {room : Nat} {cursor : Cursor} (comment : cursor.node.isComment) :
    Follows env root ((walker env (room + 1)).visit cursor) id := by
  simp only [walker, atLevel_eq, visitNode_of_comment env _ comment]
  refine ⟨fun state => .inr ?_, fun state halted => ?_⟩
  · cases state.tooDeep <;> rfl
  · cases state.tooDeep <;> exact halted

/-- Two walkers that go on alike at a node that has taken one level already: it is visited because it denotes
nothing by its form, or it is denoted because it is an access or a name. -/
structure Again (env : Env) (root : Node) (depth : Nat) (walker walker' : Walker) : Prop where
  visit : ∀ cursor, Stands root depth cursor → ExprForm.ofKind cursor.kind = .other →
    Follows env root (walker.visit cursor) (walker'.visit cursor.uncommented)
  denote : ∀ cursor recording, Stands root depth cursor → ExprForm.ofKind cursor.kind ≠ .other →
    Answers env root (walker.denote cursor recording) (walker'.denote cursor.uncommented recording)

/-- **The simulation.** With any number of levels left, the walkers with and without comments go on alike at
nodes that are deep enough for the levels that have been taken, at most two for each node above. A node that
is come to for the second time goes down in either case. -/
theorem walker_alongside (tidy : Tidy root) (harmless : HarmlessComments root) (room : Nat) :
    (∀ depth, Tree.maxNesting ≤ room + 2 * depth →
      Alongside env root depth (walker env room) (walker env room)) ∧
    ∀ depth, Tree.maxNesting ≤ room + 2 * depth + 1 →
      Again env root depth (walker env room) (walker env room) := by
  induction room with
  | zero =>
    have denotes (cursor : Cursor) (recording : Bool) : Answers env root
        ((walker env 0).denote cursor recording) ((walker env 0).denote cursor.uncommented recording) :=
      (giveUpAt_follows env cursor.node).denoting
        (fun _ => .error (.nesting Tree.maxNesting) : State → Outcome)
    refine ⟨fun depth deep => ⟨?_, ?_, ?_⟩, fun depth _ => ⟨?_, ?_⟩⟩
    · exact fun cursor _ => giveUpAt_follows env cursor.node
    · exact fun cursor => giveUpAt_comment env (by omega)
    · exact fun cursor recording _ => denotes cursor recording
    · exact fun cursor _ _ => giveUpAt_follows env cursor.node
    · exact fun cursor recording _ _ => denotes cursor recording
  | succ room ih =>
    obtain ⟨below, again⟩ := ih
    refine ⟨fun depth deep => ⟨?_, ?_, ?_⟩, fun depth deep => ⟨?_, ?_⟩⟩
    · intro cursor stands
      exact visit_succ_follows env (visitNode_follows (below (depth + 1) (by omega)) tidy harmless stands
        ((again depth (by omega)).denote cursor true stands))
    · exact fun cursor _ => visit_succ_comment env
    · intro cursor recording stands
      exact denote_succ_answers env (denoteNode_answers (below (depth + 1) (by omega)) tidy harmless stands
        recording ((again depth (by omega)).visit cursor stands))
    · intro cursor stands plain
      exact visit_succ_follows env (visitNode_follows (below (depth + 1) (by omega)) tidy harmless stands
        fun special => absurd plain special)
    · intro cursor recording stands special
      exact denote_succ_answers env (denoteNode_answers (below (depth + 1) (by omega)) tidy harmless stands
        recording fun plain => absurd plain special)

/-- **A walk over a tree without its comments** ends in the same state, unless it is given up at a comment. -/
theorem walk_uncommented (tidy : Tidy root) (harmless : HarmlessComments root) (word : ¬ root.isComment) :
    Halted env root (walk env root) ∨ walk env root = walk env root.uncommented := by
  have walkers := (walker_alongside env tidy harmless Tree.maxNesting).1 0 (Nat.le_refl _)
  exact (walkers.visit (Cursor.root root) ⟨⟨.root, Nat.le_refl _⟩, word⟩).same {}

end Walkers

end SymbolIndex.Walk

namespace SymbolIndex

open SymbolIndex.Tree (Node Source SourceError Tidy)

/-! ## Indexes -/

/-- A tree without flawed nodes has no first flaw. -/
theorem Tree.firstFlaw_eq_none {nodes : List Node}
    (sound : ∀ node ∈ nodes, node.all (!·.label.flawed)) : Tree.firstFlaw nodes = none := by
  fun_induction Tree.firstFlaw nodes with
  | case1 => rfl
  | case2 node rest flawed =>
    have here := (Node.all_iff.mp (sound node List.mem_cons_self)).1
    rw [flawed] at here
    cases here
  | case3 node rest _ _ ih =>
    obtain ⟨first, others⟩ := List.forall_mem_cons.mp sound
    exact ih (List.forall_mem_append.mpr ⟨(Node.all_iff.mp first).2, others⟩)
  | case4 node rest _ _ ih => exact ih (List.forall_mem_cons.mp sound).2

/-- What holds of the labels of a tree holds without its comments. -/
theorem Tree.Node.all_uncommented {holds : Node → Bool}
    (byLabel : ∀ node : Node, holds node.uncommented = holds node) {node : Node} (all : node.all holds) :
    node.uncommented.all holds := by
  induction node using Node.induct with
  | step node ih =>
    obtain ⟨here, below⟩ := Node.all_iff.mp all
    refine Node.all_iff.mpr ⟨(byLabel node).trans here, fun child inside => ?_⟩
    rw [Node.children_uncommented, Node.uncommentedAll_eq] at inside
    obtain ⟨kept, member, rfl⟩ := List.mem_map.mp inside
    have member := (List.mem_filter.mp member).1
    exact ih kept member (below kept member)

/-- The index of a tree without flaws is that of its walk. -/
theorem SourceIndex.build_of_sound (source : Source) {root : Node} (sound : root.all (!·.label.flawed))
    (classpath : Classpath) :
    build source root classpath = ofWalk (Walk.walk (Walk.Env.ofTree source root classpath) root) := by
  rw [build, Tree.check, Tree.firstFlaw_eq_none (by simpa using sound)]

/-- **Comments are transparent** where they are not read as something else: a source is indexed as if its tree
had no comments, with the same error or the same occurrences and notes. The other outcome is that the tree
nests too deep and that the first node past the limit is a comment; at least half as many nodes as the limit
has levels stand above it. -/
theorem build_uncommented (source : Source) (root : Node) (classpath : Classpath)
    (word : ¬ root.isComment) (sound : root.all (!·.label.flawed)) (tidy : Tidy root)
    (harmless : Walk.HarmlessComments root) :
    SourceIndex.build source root classpath = SourceIndex.build source root.uncommented classpath ∨
      ∃ comment above, Walk.Place root (comment :: above) ∧ comment.isComment ∧
        Tree.maxNesting ≤ 2 * above.length ∧
        SourceIndex.build source root classpath = .error (.tooDeep
          ((source.position comment.start).row + 1) ((source.position comment.start).column + 1)) := by
  have sound' := Node.all_uncommented (fun node => by rw [Node.label_uncommented]) sound
  rw [SourceIndex.build_of_sound source sound, SourceIndex.build_of_sound source sound',
    Walk.ofTree_uncommented source tidy]
  rcases Walk.walk_uncommented (Walk.Env.ofTree source root classpath) tidy harmless word with halted | same
  · obtain ⟨comment, above, place, isComment, deep, given⟩ := halted
    refine .inr ⟨comment, above, place, isComment, deep, ?_⟩
    simp only [SourceIndex.ofWalk, given]
    rfl
  · rw [same]
    exact .inl rfl

/-- The tree of `class A { F /* c */ f = (x, y) -> x; }`. -/
def commentedField : Node :=
  .word "program" none 0 38 [
    .word "class_declaration" none 0 38 [
      .token "class" 0 5,
      .word "identifier" (some "name") 6 7 [],
      .word "class_body" (some "body") 8 38 [
        .token "\x7b" 8 9,
        .word "field_declaration" none 10 36 [
          .word "type_identifier" (some "type") 10 11 [],
          .word "block_comment" none 12 19 [],
          .word "variable_declarator" (some "declarator") 20 35 [
            .word "identifier" (some "name") 20 21 [],
            .token "=" 22 23,
            .word "lambda_expression" (some "value") 24 35 [
              .word "inferred_parameters" (some "parameters") 24 30 [
                .token "(" 24 25,
                .word "identifier" none 25 26 [],
                .token "," 26 27,
                .word "identifier" none 28 29 [],
                .token ")" 29 30],
              .token "->" 31 33,
              .word "identifier" (some "body") 34 35 []]],
          .token ";" 35 36],
        .token "\x7d" 37 38]]]

def commentedFieldSource : Source :=
  .ofText "class A \x7b F /* c */ f = (x, y) -> x; \x7d"

theorem build_uncommented_field :
    ¬ commentedField.all (!·.isComment) ∧
      ∃ index, SourceIndex.build commentedFieldSource commentedField .empty = .ok index ∧
        SourceIndex.build commentedFieldSource commentedField.uncommented .empty = .ok index ∧
        index.table.keys .localVariable = ["x", "y"] := by
  have sound : commentedField.all (!·.label.flawed) := by decide +kernel
  have shallow : (Walk.walk (Walk.Env.ofTree commentedFieldSource commentedField .empty)
      commentedField).tooDeep = none := by decide +kernel
  have built := (SourceIndex.build_of_sound commentedFieldSource sound .empty).trans
    (SourceIndex.ofWalk_eq_ok_iff.mpr ⟨shallow, rfl⟩)
  refine ⟨by decide +kernel, _, built, ?_, by decide +kernel⟩
  rcases build_uncommented commentedFieldSource commentedField .empty (by decide) sound (by decide +kernel)
    (by decide +kernel) with same | ⟨_, _, _, _, _, failed⟩
  · exact same ▸ built
  · rw [built] at failed
    cases failed

/-- The tree of `class A { F f = (x, /* c */ y) -> x; }`. -/
def commentedLambda : Node :=
  .word "program" none 0 38 [
    .word "class_declaration" none 0 38 [
      .token "class" 0 5,
      .word "identifier" (some "name") 6 7 [],
      .word "class_body" (some "body") 8 38 [
        .token "\x7b" 8 9,
        .word "field_declaration" none 10 36 [
          .word "type_identifier" (some "type") 10 11 [],
          .word "variable_declarator" (some "declarator") 12 35 [
            .word "identifier" (some "name") 12 13 [],
            .token "=" 14 15,
            .word "lambda_expression" (some "value") 16 35 [
              .word "inferred_parameters" (some "parameters") 16 30 [
                .token "(" 16 17,
                .word "identifier" none 17 18 [],
                .token "," 18 19,
                .word "block_comment" none 20 27 [],
                .word "identifier" none 28 29 [],
                .token ")" 29 30],
              .token "->" 31 33,
              .word "identifier" (some "body") 34 35 []]],
          .token ";" 35 36],
        .token "\x7d" 37 38]]]

def commentedLambdaSource : Source :=
  .ofText "class A \x7b F f = (x, /* c */ y) -> x; \x7d"

/-- Between the untyped parameters of a lambda a comment is filed as one of them. -/
theorem comment_filed_as_parameter :
    Tidy commentedLambda ∧
      ∃ index index', SourceIndex.build commentedLambdaSource commentedLambda .empty = .ok index ∧
        SourceIndex.build commentedLambdaSource commentedLambda.uncommented .empty = .ok index' ∧
        index.table.keys .localVariable = ["/* c */", "x", "y"] ∧
        index'.table.keys .localVariable = ["x", "y"] := by
  have built (root : Node) (sound : root.all (!·.label.flawed))
      (shallow : (Walk.walk (Walk.Env.ofTree commentedLambdaSource root .empty) root).tooDeep = none) :=
    (SourceIndex.build_of_sound commentedLambdaSource sound .empty).trans
      (SourceIndex.ofWalk_eq_ok_iff.mpr ⟨shallow, rfl⟩)
  exact ⟨by decide +kernel, _, _, built commentedLambda (by decide +kernel) (by decide +kernel),
    built commentedLambda.uncommented (by decide +kernel) (by decide +kernel), by decide +kernel,
    by decide +kernel⟩

end SymbolIndex
