import SymbolIndex.Proofs.Order.Steps

/-!
# Walks over moved nodes

The steps of statements and expressions, in the manner of `Order.Steps`, and the walks themselves.
`walker_companions` is the induction on the levels that are left: with any number of them the walkers over the
two texts go on alike at a node and where it has been moved to.
-/

namespace SymbolIndex.Walk

open SymbolIndex.Tree (Node Source Cursor Carried)

variable {classpath : Classpath} {env : Env} {source : Source} {distance : Int}

/-! ## Questions over the other text -/

section Questions

variable {first second : Scope} (same : Same env.classpath first second)

/-- The search for a member does not read the text. -/
theorem memberWithin_on (scope : Scope) (name : String) (kind : MemberKind) (steps : Nat) :
    memberWithin (env.on source) scope name kind steps = memberWithin env scope name kind steps := by
  induction steps with
  | zero => rfl
  | succ steps ih =>
    funext path
    rw [memberWithin, memberWithin, ih]
    rfl

/-- The search for a member gives the same answer over either text. -/
theorem memberOf_on (scope : Scope) (path name : String) (kind : MemberKind) :
    memberOf (env.on source) scope path name kind = memberOf env scope path name kind := by
  rw [memberOf, memberOf, memberWithin_on]

theorem inheritedField_on (scope : Scope) : inheritedField (env.on source) scope = inheritedField env scope := by
  funext frame name
  simp only [inheritedField, memberOf_on]
  rfl

/-- What a class inherits does not depend on the text. -/
theorem inheritedMethod_on (scope : Scope) :
    inheritedMethod (env.on source) scope = inheritedMethod env scope := by
  funext frame name
  simp only [inheritedMethod, memberOf_on]
  rfl

/-- What is imported is a matter of names, not of places. -/
theorem staticImport_on (scope : Scope) (name : String) (kind : MemberKind) :
    staticImport (env.on source) scope name kind = staticImport env scope name kind := by
  simp only [staticImport, singleStaticImport, memberOf_on]
  rfl

theorem enclosingMethod_on (scope : Scope) (name : String) (candidate : Option Attribution)
    (frames : List Frame) :
    enclosingMethod (env.on source) scope name candidate frames =
      enclosingMethod env scope name candidate frames := by
  induction frames generalizing candidate with
  | nil => rfl
  | cons frame frames ih => simp only [enclosingMethod, inheritedMethod_on, ih]

/-- A call without a receiver is attributed alike over either text. -/
theorem implicitMethod_on (scope : Scope) (name : String) :
    implicitMethod (env.on source) scope name = implicitMethod env scope name := by
  simp only [implicitMethod, enclosingMethod_on, staticImport_on]

include same

/-- **Members are found alike** in scopes that know the same, whichever text they are asked over. -/
theorem memberOf_beside (path name : String) (kind : MemberKind) :
    memberOf env first path name kind = memberOf (env.on source) second path name kind := by
  rw [memberOf_on, memberOf_same same]

/-- A name stands for the same local, field or enclosing type. -/
theorem lookup_beside (name : String) :
    first.lookup name (inheritedField env first) =
      second.lookup name (inheritedField (env.on source) second) := by
  rw [inheritedField_on, lookup_same same]

theorem staticImport_beside (name : String) (kind : MemberKind) :
    staticImport env first name kind = staticImport (env.on source) second name kind := by
  rw [staticImport_on, staticImport_same same]

/-- A call without a receiver is attributed alike in such scopes. -/
theorem implicitMethod_beside (name : String) :
    implicitMethod env first name = implicitMethod (env.on source) second name := by
  rw [implicitMethod_on, implicitMethod_same same]

end Questions

/-! ## What names and types denote -/

section Names

variable {node name object : Node}

/-- A bare name denotes the same where it has been moved to. -/
theorem denoteName_concur (carried : Carried env.source source distance node) (recording : Bool) :
    Concur env.classpath (denoteName env node recording)
      (denoteName (env.on source) (node.moved distance) recording) := by
  intro first second level
  simp only [denoteName, text_moved carried, ← lookup_beside level.scope, ← staticImport_beside level.scope,
    simpleType_on, ← simpleType_same level.scope]
  cases first.scope.lookup (env.text node) (inheritedField env first.scope) with
  | some found =>
    cases found with
    | declared type => exact ⟨rfl, .refl level⟩
    | field declaring type => exact ⟨rfl, noteReference_abreast carried recording .field declaring _ _ level⟩
  | none =>
    cases staticImport env first.scope (env.text node) .field with
    | some found => exact ⟨rfl, noteReference_abreast carried recording .field found.declaring _ _ level⟩
    | none => cases simpleType env first.scope (env.text node) <;> exact ⟨rfl, .refl level⟩

/-- A type that has been moved is read as the same type. -/
theorem denoteType_beside {type : Option Node}
    (carried : ∀ node ∈ type, Carried env.source source distance node) {first second : State}
    (level : Level env.classpath first second) :
    denoteType env type first = denoteType (env.on source) (type.map (Node.moved distance)) second := by
  cases type with
  | none => rfl
  | some type =>
    have text : Tree.typeText (env.on source).source (type.moved distance) = Tree.typeText env.source type :=
      Tree.typeText_moved (carried type rfl)
    simp only [denoteType, Option.map_some, typeOf_beside level.scope (carried type rfl), text]

/-- A member that is looked up on a type is filed at the place that its name has been moved to. -/
theorem denoteMember_concur (carried : Carried env.source source distance name) (path : String)
    (kind : MemberKind) (recording : Bool) :
    Concur env.classpath (denoteMember env path name kind recording)
      (denoteMember (env.on source) path (name.moved distance) kind recording) := by
  intro first second level
  simp only [denoteMember, text_moved carried, ← memberOf_beside level.scope]
  cases memberOf env first.scope path (env.text name) kind with
  | ok found => exact ⟨rfl, noteReference_abreast carried recording kind found.declaring _ _ level⟩
  | error cause => exact ⟨rfl, .refl level⟩

/-- A field of what an object stands for is found, and filed at the moved place, alike. -/
theorem fieldOn_concur (carriedObject : Carried env.source source distance object)
    (carried : Carried env.source source distance name) (recording : Bool) (referent : Referent) :
    Concur env.classpath (fieldOn env object name recording referent)
      (fieldOn (env.on source) (object.moved distance) (name.moved distance) recording referent) := by
  have known (first second : Scope) (same : Same env.classpath first second) (path : String) :
      (env.on source).knows second path = env.knows first path := (knows_same same path).symm
  have absolute (first second : Scope) (same : Same env.classpath first second) (dotted : String) :
      absoluteType (env.on source) second dotted = absoluteType env first dotted :=
    (absoluteType_same same dotted).symm
  intro first second level
  cases referent with
  | name dotted =>
    simp only [fieldOn, text_moved carried, absolute _ _ level.scope]
    cases absoluteType env first.scope (dotted ++ "." ++ env.text name) <;> exact ⟨rfl, .refl level⟩
  | type path =>
    simp only [fieldOn, text_moved carried, known _ _ level.scope]
    cases env.knows first.scope (path ++ "$" ++ env.text name) with
    | true => exact ⟨rfl, .refl level⟩
    | false => exact denoteMember_concur carried path .field recording _ _ level
  | value type =>
    cases type with
    | reference path => exact denoteMember_concur carried path .field recording _ _ level
    | array element =>
      simp only [fieldOn, text_moved carried]
      split <;> exact ⟨rfl, .refl level⟩
    | primitive kind => exact ⟨rfl, .refl level⟩
  | unknown => simp only [fieldOn, text_moved carriedObject, Arrive.refl level, and_self]

/-- A method that is called on an object is found, and filed, alike. -/
theorem methodOn_concur (carriedObject : Carried env.source source distance object)
    (carried : Carried env.source source distance name) (recording : Bool) (referent : Referent) :
    Concur env.classpath (methodOn env object name recording referent)
      (methodOn (env.on source) (object.moved distance) (name.moved distance) recording referent) := by
  intro first second level
  cases referent with
  | type path => exact denoteMember_concur carried path .method recording _ _ level
  | value type =>
    cases type with
    | reference path => exact denoteMember_concur carried path .method recording _ _ level
    | array element => exact ⟨rfl, .refl level⟩
    | primitive kind => exact ⟨rfl, .refl level⟩
  | name dotted => exact ⟨rfl, .refl level⟩
  | unknown => simp only [methodOn, text_moved carriedObject, Arrive.refl level, and_self]

/-- A method that is referred to by its name is found, and filed, alike. -/
theorem referredMethod_concur (carriedObject : Carried env.source source distance object)
    (carried : Carried env.source source distance name) (recording : Bool) (referent : Referent) :
    Concur env.classpath (referredMethod env object name recording referent)
      (referredMethod (env.on source) (object.moved distance) (name.moved distance) recording referent) := by
  have qualifier (first second : State) (level : Level env.classpath first second) :
      qualifierType env first.scope referent = qualifierType (env.on source) second.scope referent := by
    cases referent with
    | name dotted => simp only [qualifierType, namedType_on, namedType_same level.scope]
    | value | type | unknown => rfl
  intro first second level
  simp only [referredMethod, ← qualifier first second level]
  cases qualifierType env first.scope referent with
  | error cause => exact ⟨rfl, .refl level⟩
  | ok referent =>
    obtain ⟨outcome, last, last', found, found', arrive⟩ :=
      (methodOn_concur carriedObject carried recording referent).split level
    simp only [found, found']
    cases outcome <;> exact ⟨rfl, arrive⟩

end Names

/-! ## Statements -/

section Statements

variable {walker walker' : Walker} {cursor cursor' : Cursor}

/-- A block is walked alike, also one that initialises objects. -/
theorem visitBlock_abreast (walkers : Companions env source walker walker')
    (twins : Twins env source distance cursor cursor') :
    Abreast env.classpath (visitBlock walker cursor) (visitBlock walker' cursor') := by
  have step := (walkers.visitChildren twins).inBlock
  unfold visitBlock
  simp only [twins.parentKind]
  cases cursor.parent?.map (·.kind) == some "class_body" with
  | true => exact step.inMethod instanceInit instanceInit
  | false => exact step

/-- A variable is declared behind its value, with what the first walk takes for its type. -/
theorem declareBehind_abreast (walkers : Companions env source walker walker') {name : Node}
    (carried : Carried env.source source distance name) {value value' : Option Cursor}
    (twins : Option.Rel (Twins env source distance) value value') (inferred : Bool)
    (ofValue : JavaType → Option JavaType) {written written' : Scope → Option JavaType}
    (sameWritten : ∀ first second, Same env.classpath first second → written first = written' second) :
    Abreast env.classpath (declareBehind env walker name value inferred ofValue written)
      (declareBehind (env.on source) walker' (name.moved distance) value' inferred ofValue written') := by
  intro first second level
  have walked := walkers.visit? twins first second level
  unfold declareBehind
  cases inferred with
  | true =>
    obtain ⟨found, last, last', typed, typed', arrive⟩ := (walkers.valueType? twins).split walked.level
    simp only [typed, typed', if_true]
    exact walked.trans (arrive.trans (declare_abreast carried _ _ _ arrive.level))
  | false =>
    simp only [Bool.false_eq_true, if_false, ← sameWritten _ _ walked.level.scope]
    exact walked.trans (declare_abreast carried _ _ _ walked.level)

/-- A variable is filed and then declared behind its value. -/
theorem fileBehind_abreast (walkers : Companions env source walker walker')
    (twins : Twins env source distance cursor cursor') {name : Node}
    (carried : Carried env.source source distance name) (typeName typeName' : Option String) (inferred : Bool)
    (ofValue : JavaType → Option JavaType) {written written' : Scope → Option JavaType}
    (sameWritten : ∀ first second, Same env.classpath first second → written first = written' second) :
    Abreast env.classpath
      (fun state => declareBehind env walker name (cursor.child? "value") inferred ofValue written
        (state.fileLocal env name typeName))
      (fun state => declareBehind (env.on source) walker' (name.moved distance) (cursor'.child? "value")
        inferred ofValue written' (state.fileLocal (env.on source) (name.moved distance) typeName')) :=
  (fileLocal_abreast name (name.moved distance) typeName typeName').trans
    (declareBehind_abreast walkers carried (twins.child? "value") inferred ofValue sameWritten)

theorem isInferred_moved {type : Option Node}
    (carried : ∀ node ∈ type, Carried env.source source distance node) :
    isInferred (env.on source) (type.map (Node.moved distance)) = isInferred env type := by
  cases type with
  | none => rfl
  | some type => simp only [isInferred, Option.map_some, text_moved (carried type rfl)]

/-- Brackets are counted alike in either text. -/
theorem dimensionsOf_on {node : Node} (carried : Carried env.source source distance node) :
    Tree.dimensionsOf (env.on source).source ((node.child? "dimensions").map (Node.moved distance)) =
      Tree.dimensionsOf env.source (node.child? "dimensions") :=
  Tree.dimensionsOf_moved (carried.role "dimensions")

/-- A declarator of a local declaration files its variable at the moved place and declares it behind its
value. -/
theorem visitLocal_abreast (walkers : Companions env source walker walker')
    (twins : Twins env source distance cursor cursor') {type : Option Node}
    (carried : ∀ node ∈ type, Carried env.source source distance node) (declared : Option JavaType) :
    Abreast env.classpath (visitLocal env walker type declared · cursor)
      (visitLocal (env.on source) walker' (type.map (Node.moved distance)) declared · cursor') := by
  simp only [visitLocal, twins.node, Node.child?_moved, isInferred_moved carried, dimensionsOf_on twins.carried]
  cases found : cursor.node.child? "name" with
  | none => exact Abreast.idle
  | some name =>
    exact fileBehind_abreast walkers twins (twins.carried.belowRole found) _ _ _ _ fun _ _ _ => rfl

/-- A local declaration does so for each declarator, with one type for all of them. -/
theorem visitLocals_abreast (walkers : Companions env source walker walker')
    (twins : Twins env source distance cursor cursor') :
    Abreast env.classpath (visitLocals env walker cursor) (visitLocals (env.on source) walker' cursor') := by
  have carried := twins.carried.role "type"
  intro first second level
  have types : typeOf? (env.on source) second.scope ((cursor.node.child? "type").map (Node.moved distance)) =
      typeOf? env first.scope (cursor.node.child? "type") := typeOf?_beside level.scope carried
  simp only [visitLocals, twins.node, Node.child?_moved, isInferred_moved carried, types]
  exact Abreast.foldl (twins.childrenIn "declarator")
    (fun _ _ twins => visitLocal_abreast walkers twins carried _) first second level

/-- The variable of an enhanced `for` is declared behind the value that is looped over. -/
theorem visitLoopVariable_abreast (walkers : Companions env source walker walker')
    (twins : Twins env source distance cursor cursor') {name : Node}
    (carried : Carried env.source source distance name) :
    Abreast env.classpath (visitLoopVariable env walker cursor name)
      (visitLoopVariable (env.on source) walker' cursor' (name.moved distance)) := by
  have carriedType := twins.carried.role "type"
  unfold visitLoopVariable
  simp only [twins.node, Node.child?_moved, isInferred_moved carriedType, dimensionsOf_on twins.carried]
  refine fileBehind_abreast walkers twins carried _ _ _ _ fun first second same => ?_
  have types : typeOf? (env.on source) second ((cursor.node.child? "type").map (Node.moved distance)) =
      typeOf? env first (cursor.node.child? "type") := typeOf?_beside same carriedType
  rw [types]

/-- An enhanced `for` walks its body behind its variable. -/
theorem visitLoop_abreast (walkers : Companions env source walker walker')
    (twins : Twins env source distance cursor cursor') :
    Abreast env.classpath (visitLoop env walker cursor) (visitLoop (env.on source) walker' cursor') := by
  have body := walkers.visit? (twins.child? "body")
  unfold visitLoop
  simp only [twins.node, Node.child?_moved]
  cases found : cursor.node.child? "name" with
  | none => exact body.inBlock
  | some name =>
    exact ((visitLoopVariable_abreast walkers twins (twins.carried.belowRole found)).trans body).inBlock

/-- A variable is filed and declared. -/
theorem bind_abreast {name : Node} (carried : Carried env.source source distance name)
    (typeName typeName' : Option String) {first second : State} (level : Level env.classpath first second)
    {type type' : Option JavaType} (same : type = type') :
    Arrive env.classpath first second ((first.fileLocal env name typeName).declare env name type)
      ((second.fileLocal (env.on source) (name.moved distance) typeName').declare (env.on source)
        (name.moved distance) type') := by
  subst same
  exact ((fileLocal_abreast name (name.moved distance) typeName typeName').trans
    (declare_abreast carried type)) first second level

/-- What is caught is declared with the same type, or with none when there are alternatives. -/
theorem declareCaught_abreast {parameter : Node} (carried : Carried env.source source distance parameter) :
    Abreast env.classpath (declareCaught env parameter)
      (declareCaught (env.on source) (parameter.moved distance)) := by
  intro first second level
  unfold declareCaught
  rw [Node.child?_moved]
  cases found : parameter.child? "name" with
  | none => exact .refl level
  | some name =>
    have type : (parameter.moved distance).named.find? (·.kind == "catch_type") =
        (parameter.named.find? (·.kind == "catch_type")).map (Node.moved distance) := by
      rw [Node.named_moved, Node.find?_moved distance fun node => by rw [Node.kind_moved]]
    simp only [Option.map_some, type]
    apply bind_abreast (carried.belowRole found) _ _ level
    cases caught : parameter.named.find? (·.kind == "catch_type") with
    | none => rfl
    | some type =>
      have below := carried.belowNamed (List.mem_of_find?_eq_some caught)
      simp only [Option.map_some, Option.getD_some, Node.named_moved]
      cases alternatives : type.named with
      | nil => rfl
      | cons single others =>
        cases others with
        | nil =>
          have inside : single ∈ type.named := by rw [alternatives]; exact List.mem_cons_self
          exact (typeOf_beside level.scope (below.belowNamed inside)).symm
        | cons => rfl

/-- Children of one kind are treated in a way of their own, and the others are visited. -/
theorem visitSorted_abreast (walkers : Companions env source walker walker')
    (twins : Twins env source distance cursor cursor') (kind : String) {special special' : Cursor → State → State}
    (each : ∀ child child', Twins env source distance child child' →
      Abreast env.classpath (special child) (special' child')) :
    Abreast env.classpath
      (cursor.named.foldl fun state child =>
        if child.kind == kind then special child state else walker.visit child state)
      (cursor'.named.foldl fun state child =>
        if child.kind == kind then special' child state else walker'.visit child state) := by
  refine Abreast.foldl twins.named fun child child' twins => ?_
  rw [twins.kind]
  cases child.kind == kind with
  | true => exact each child child' twins
  | false => exact walkers.visit distance child child' twins

/-- A `catch` clause declares what it catches and walks the rest. -/
theorem visitCatch_abreast (walkers : Companions env source walker walker')
    (twins : Twins env source distance cursor cursor') :
    Abreast env.classpath (visitCatch env walker cursor) (visitCatch (env.on source) walker' cursor') := by
  have caught (child child' : Cursor) (twins : Twins env source distance child child') :
      Abreast env.classpath (declareCaught env child.node) (declareCaught (env.on source) child'.node) := by
    rw [twins.node]
    exact declareCaught_abreast twins.carried
  exact (visitSorted_abreast walkers twins "catch_formal_parameter" caught).inBlock

/-- A resource of a `try` is a variable behind its value, or an expression. -/
theorem visitResource_abreast (walkers : Companions env source walker walker')
    (twins : Twins env source distance cursor cursor') :
    Abreast env.classpath (visitResource env walker · cursor)
      (visitResource (env.on source) walker' · cursor') := by
  have carried := twins.carried.role "type"
  simp only [visitResource, twins.node, Node.child?_moved, isInferred_moved carried]
  cases found : cursor.node.child? "name" with
  | none => exact walkers.visitChildren twins
  | some name =>
    exact fileBehind_abreast walkers twins (twins.carried.belowRole found) _ _ _ _
      fun first second same => (typeOf?_beside same carried).symm

/-- A `try` with resources walks them, and then its blocks. -/
theorem visitTry_abreast (walkers : Companions env source walker walker')
    (twins : Twins env source distance cursor cursor') :
    Abreast env.classpath (visitTry env walker cursor) (visitTry (env.on source) walker' cursor') := by
  have resources (child child' : Cursor) (twins : Twins env source distance child child') :
      Abreast env.classpath (child.named.foldl (visitResource env walker))
        (child'.named.foldl (visitResource (env.on source) walker')) :=
    Abreast.foldl twins.named fun _ _ twins => visitResource_abreast walkers twins
  exact (visitSorted_abreast walkers twins "resource_specification" resources).inBlock

/-- An `instanceof` binds its variable behind the value that it tests. -/
theorem visitInstanceof_abreast (walkers : Companions env source walker walker')
    (twins : Twins env source distance cursor cursor') :
    Abreast env.classpath (visitInstanceof env walker cursor)
      (visitInstanceof (env.on source) walker' cursor') := by
  unfold visitInstanceof
  simp only [twins.node, Node.child?_moved]
  cases found : cursor.node.child? "name" with
  | none => exact walkers.visitChildren twins
  | some name =>
    intro first second level
    have walked := walkers.visit? (twins.child? "left") first second level
    exact walked.trans (bind_abreast (twins.carried.belowRole found) _ _ walked.level
      (typeOf?_beside walked.level.scope (twins.carried.role "right")).symm)

/-- A pattern binds the name at its end. -/
theorem visitPattern_abreast (twins : Twins env source distance cursor cursor') :
    Abreast env.classpath (visitPattern env cursor) (visitPattern (env.on source) cursor') := by
  intro first second level
  unfold visitPattern
  simp only [twins.node, Node.named_moved, List.getLast?_map]
  cases found : cursor.node.named.getLast? with
  | none => exact .refl level
  | some name =>
    simp only [Option.map_some, Node.kind_moved]
    split
    · rw [Node.find?_moved distance fun node => by rw [Node.kind_moved]]
      have carried : ∀ node ∈ cursor.node.named.find? (Tree.isTypeKind ·.kind),
          Carried env.source source distance node :=
        fun node found => twins.carried.belowNamed (List.mem_of_find?_eq_some found)
      simp only [isInferred_moved carried]
      apply bind_abreast (twins.carried.belowNamed (List.mem_of_getLast? found)) _ _ level
      split
      · rfl
      · exact (typeOf?_beside level.scope carried).symm
    · exact .refl level

/-- The parameters of a lambda are declared in any of their three forms. -/
theorem declareLambdaParameters_abreast {list : Node} (carried : Carried env.source source distance list) :
    Abreast env.classpath (declareLambdaParameters env list)
      (declareLambdaParameters (env.on source) (list.moved distance)) := by
  intro first second level
  unfold declareLambdaParameters
  rw [Node.kind_moved]
  split
  · exact bind_abreast carried _ _ level rfl
  · split
    · rw [Node.named_moved]
      have names : List.Forall₂ (fun name name' => Carried env.source source distance name ∧
          name' = name.moved distance) list.named (list.named.map (Node.moved distance)) := by
        rw [List.forall₂_map_right_iff, List.forall₂_same]
        exact fun name inside => ⟨carried.belowNamed inside, rfl⟩
      refine Abreast.foldl names (fun name name' pair => ?_) first second level
      obtain ⟨carried, rfl⟩ := pair
      exact fun _ _ level => bind_abreast carried _ _ level rfl
    · have listed : ∀ node ∈ some list, Carried env.source source distance node := by simpa using carried
      have twins := parameters_twins level.scope listed
      refine Abreast.foldl twins (fun parameter parameter' pair => ?_) first second level
      obtain ⟨carried, rfl⟩ := pair
      exact fun _ _ level => bind_abreast carried _ _ level rfl

/-- A lambda walks its body behind its parameters. -/
theorem visitLambda_abreast (walkers : Companions env source walker walker')
    (twins : Twins env source distance cursor cursor') :
    Abreast env.classpath (visitLambda env walker cursor) (visitLambda (env.on source) walker' cursor') := by
  have body := walkers.visit? (twins.child? "body")
  unfold visitLambda
  simp only [twins.node, Node.child?_moved]
  cases found : cursor.node.child? "parameters" with
  | none => exact body.inBlock
  | some list => exact ((declareLambdaParameters_abreast (twins.carried.belowRole found)).trans body).inBlock

/-- An access notes the same failure, at the moved place. -/
theorem visitAccess_abreast (walkers : Companions env source walker walker')
    (twins : Twins env source distance cursor cursor') :
    Abreast env.classpath (visitAccess env walker cursor) (visitAccess (env.on source) walker' cursor') := by
  intro first second level
  obtain ⟨outcome, last, last', found, found', arrive⟩ :=
    (walkers.denote distance cursor cursor' true twins).split level
  have noted (cause : Unresolved) : Arrive env.classpath first second (last.note env cursor.node cause)
      (last'.note (env.on source) cursor'.node cause) :=
    arrive.trans (note_abreast _ _ cause cause _ _ arrive.level)
  simp only [visitAccess, found, found', twins.kind]
  cases outcome with
  | ok referent =>
    cases referent with
    | name dotted =>
      simp only
      split
      · exact noted _
      · exact arrive
    | value | type | unknown => exact arrive
  | error cause =>
    cases cause with
    | nesting limit => exact arrive
    | type | member | notAClass | expression => exact noted _

/-- A bare name is looked up alike, unless the node around it takes it for something else. -/
theorem visitName_abreast (walkers : Companions env source walker walker')
    (twins : Twins env source distance cursor cursor') :
    Abreast env.classpath (visitName walker cursor) (visitName walker' cursor') := by
  have named := (walkers.denote distance cursor cursor' true twins).abreast
  have key := twins.key
  have kind := twins.parentKind
  unfold visitName
  generalize cursor.parent? = parent at key kind
  generalize cursor'.parent? = parent' at key kind
  cases parent with
  | none =>
    cases parent' with
    | none => exact Abreast.idle
    | some parent' => cases key
  | some parent =>
    cases parent' with
    | none => cases key
    | some parent' =>
      simp only [Option.map_some, Option.some.injEq] at key kind
      simp only [key, kind]
      cases holdsNoExpression parent.kind || isKeyOf parent cursor.node with
      | true => exact Abreast.idle
      | false => exact named

theorem creationParts_moved (node : Node) :
    creationParts (node.moved distance) = (creationParts node).map (Node.moved distance) := by
  have erased (nodes : List Node) : (nodes.map (Node.moved distance)).eraseP (·.plays "type") =
      (nodes.eraseP (·.plays "type")).map (Node.moved distance) := by
    induction nodes with
    | nil => rfl
    | cons node nodes ih =>
      rw [List.map_cons, List.eraseP_cons, List.eraseP_cons, Node.plays_moved]
      cases node.plays "type" with
      | true => rfl
      | false => exact congrArg (node.moved distance :: ·) ih
  rw [creationParts, creationParts, Node.children_moved, erased]
  exact Node.filter_moved distance (fun node => by rw [Node.kind_moved, Node.label_moved]; rfl) _

theorem creationBody?_moved (node : Node) :
    creationBody? (node.moved distance) = (creationBody? node).map (Node.moved distance) := by
  rw [creationBody?, creationBody?, Node.named_moved,
    Node.filter_moved distance fun node => by rw [Node.kind_moved], List.getLast?_map]

/-- A creation walks the same parts, and the body of an anonymous class under the same number. -/
theorem visitCreation_abreast (walkers : Companions env source walker walker')
    (twins : Twins env source distance cursor cursor') :
    Abreast env.classpath (visitCreation env walker cursor)
      (visitCreation (env.on source) walker' cursor') := by
  have parts : Abreast env.classpath (walker.visitAll ((creationParts cursor.node).map cursor.down))
      (walker'.visitAll (((creationParts cursor.node).map (Node.moved distance)).map cursor'.down)) :=
    walkers.visitAll (twins.all fun node part => List.mem_of_mem_eraseP (List.mem_filter.mp part).1)
  intro first second level
  have walked := parts first second level
  simp only [visitCreation, twins.node, creationParts_moved, creationBody?_moved, Node.child?_moved]
  cases found : creationBody? cursor.node with
  | none => exact walked
  | some body =>
    have inside := Node.mem_of_named (List.mem_filter.mp (List.mem_of_getLast? found)).1
    have hint := classOf?_beside walked.level.scope (twins.carried.role "type")
    simp only [Option.map_some, hint]
    exact walked.trans (enterAnonymous_abreast walkers (twins.down inside) _ _ _ walked.level)

end Statements

/-! ## Expressions -/

section Expressions

variable {walker walker' : Walker} {cursor cursor' : Cursor}

/-- A field access denotes the field of the same object. -/
theorem denoteField_concur (walkers : Companions env source walker walker')
    (twins : Twins env source distance cursor cursor') (recording : Bool) :
    Concur env.classpath (denoteField env walker cursor recording)
      (denoteField (env.on source) walker' cursor' recording) := by
  intro first second level
  have object := twins.child? "object"
  unfold denoteField
  simp only [twins.node, text_moved twins.carried, Node.child?_moved]
  generalize cursor.child? "object" = object? at object
  generalize cursor'.child? "object" = object?' at object
  cases object with
  | none => exact ⟨rfl, .refl level⟩
  | @some object object' here =>
    cases found : cursor.node.child? "field" with
    | none => exact ⟨rfl, .refl level⟩
    | some field =>
      simp only [Option.map_some, Node.kind_moved]
      split
      · obtain ⟨outcome, last, last', found, found', arrive⟩ :=
          (walkers.denote distance object object' false here).split level
        simp only [found, found', true_and]
        exact arrive
      · obtain ⟨outcome, last, last', asked, asked', arrive⟩ :=
          (walkers.denote distance object object' recording here).split level
        simp only [asked, asked']
        cases outcome with
        | error cause => exact ⟨rfl, arrive⟩
        | ok referent =>
          have rest := fieldOn_concur here.carried (twins.carried.belowRole found) recording referent _ _
            arrive.level
          rw [here.node]
          exact ⟨rest.1, arrive.trans rest.2⟩

/-- What is called is found on the object, or in the classes around the call. -/
theorem denoteCallee_concur (walkers : Companions env source walker walker') {object object' : Option Cursor}
    (twins : Option.Rel (Twins env source distance) object object') {name : Node}
    (carried : Carried env.source source distance name) (recording : Bool) :
    Concur env.classpath (denoteCallee env walker object name recording)
      (denoteCallee (env.on source) walker' object' (name.moved distance) recording) := by
  intro first second level
  cases twins with
  | none =>
    simp only [denoteCallee, text_moved carried, ← implicitMethod_beside level.scope]
    cases implicitMethod env first.scope (env.text name) with
    | ok found => exact ⟨rfl, noteReference_abreast carried recording .method found.declaring _ _ level⟩
    | error cause => exact ⟨rfl, .refl level⟩
  | @some object object' twins =>
    obtain ⟨outcome, last, last', asked, asked', arrive⟩ :=
      (walkers.denote distance object object' recording twins).split level
    simp only [denoteCallee, asked, asked', twins.node]
    cases outcome with
    | error cause => exact ⟨rfl, arrive⟩
    | ok referent =>
      have rest := methodOn_concur twins.carried carried recording referent _ _ arrive.level
      exact ⟨rest.1, arrive.trans rest.2⟩

/-- A call denotes the result of the same method and walks its arguments. -/
theorem denoteCall_concur (walkers : Companions env source walker walker')
    (twins : Twins env source distance cursor cursor') (recording : Bool) :
    Concur env.classpath (denoteCall env walker cursor recording)
      (denoteCall (env.on source) walker' cursor' recording) := by
  unfold denoteCall
  simp only [twins.node, text_moved twins.carried, Node.child?_moved]
  cases found : cursor.node.child? "name" with
  | none => exact Concur.answer fun _ _ _ => rfl
  | some name =>
    intro first second level
    have callee := denoteCallee_concur walkers (twins.child? "object") (twins.carried.belowRole found)
      recording first second level
    have arguments := walkers.visitRecording recording (twins.child? "arguments")
    exact ⟨callee.1, callee.2.trans (arguments _ _ callee.2.level)⟩

/-- The left side of a method reference is read as the same type or expression. -/
theorem denoteQualifier_concur (walkers : Companions env source walker walker')
    (twins : Twins env source distance cursor cursor') (recording : Bool) :
    Concur env.classpath (denoteQualifier env walker cursor recording)
      (denoteQualifier (env.on source) walker' cursor' recording) := by
  intro first second level
  have text : Tree.typeText (env.on source).source (cursor.node.moved distance) =
      Tree.typeText env.source cursor.node := Tree.typeText_moved twins.carried
  simp only [denoteQualifier, twins.kind, twins.node, typeOf_beside level.scope twins.carried, text]
  split
  · cases typeOf env first.scope cursor.node with
    | none => exact ⟨rfl, .refl level⟩
    | some type => cases type <;> exact ⟨rfl, .refl level⟩
  · exact walkers.denote distance cursor cursor' recording twins first second level

/-- A method reference names the same method. -/
theorem denoteReference_concur (walkers : Companions env source walker walker')
    (twins : Twins env source distance cursor cursor') (recording : Bool) :
    Concur env.classpath (denoteReference env walker cursor recording)
      (denoteReference (env.on source) walker' cursor' recording) := by
  intro first second level
  have parts := twins.named
  have last? : cursor'.node.children.getLast?.map (·.kind) = cursor.node.children.getLast?.map (·.kind) := by
    rw [twins.node, Node.children_moved, List.getLast?_map, Option.map_map]
    exact congrArg (Option.map · _) (funext (Node.kind_moved distance))
  simp only [denoteReference, twins.text, last?]
  generalize cursor.named = named at parts
  generalize cursor'.named = named' at parts
  cases parts with
  | nil => exact ⟨rfl, .refl level⟩
  | @cons qualifier qualifier' others others' here rest =>
    obtain ⟨outcome, last, last', asked, asked', arrive⟩ :=
      (denoteQualifier_concur walkers here recording).split level
    simp only [asked, asked']
    cases outcome with
    | error cause => exact ⟨rfl, arrive⟩
    | ok referent =>
      have final : Option.Rel (Twins env source distance) others.getLast? others'.getLast? := by
        rw [← List.head?_reverse, ← List.head?_reverse]
        have reversed := List.rel_reverse rest
        generalize others.reverse = others at reversed
        generalize others'.reverse = others' at reversed
        cases reversed with
        | nil => exact .none
        | cons here _ => exact .some here
      generalize others.getLast? = name? at final
      generalize others'.getLast? = name?' at final
      cases final with
      | none => exact ⟨rfl, arrive⟩
      | some final =>
        simp only [here.node, final.node]
        split
        · exact ⟨rfl, arrive⟩
        · have found := referredMethod_concur here.carried final.carried recording referent _ _ arrive.level
          exact ⟨found.1, arrive.trans found.2⟩

/-- An element of an array denotes the same type and walks its index. -/
theorem denoteElement_concur (walkers : Companions env source walker walker')
    (twins : Twins env source distance cursor cursor') (recording : Bool) :
    Concur env.classpath (denoteElement env walker cursor recording)
      (denoteElement (env.on source) walker' cursor' recording) := by
  intro first second level
  have index := walkers.visitRecording recording (twins.child? "index")
  have array := twins.child? "array"
  simp only [denoteElement, twins.text]
  generalize cursor.child? "array" = array? at array
  generalize cursor'.child? "array" = array?' at array
  cases array with
  | none => exact ⟨rfl, .refl level⟩
  | @some array array' here =>
    obtain ⟨outcome, last, last', asked, asked', arrive⟩ :=
      (walkers.denote distance array array' recording here).split level
    have walked := arrive.trans (index _ _ arrive.level)
    simp only [asked, asked', here.text]
    cases outcome with
    | error cause => exact ⟨rfl, walked⟩
    | ok referent =>
      cases referent with
      | value type => cases type <;> exact ⟨rfl, walked⟩
      | type | name | unknown => exact ⟨rfl, walked⟩

theorem createdDimensions_moved {node : Node} (carried : Carried env.source source distance node) :
    createdDimensions (env.on source) (node.moved distance) = createdDimensions env node := by
  unfold createdDimensions
  rw [Node.named_moved, Node.filter_moved distance fun node => by rw [Node.kind_moved], List.foldl_map]
  refine List.foldl_ext _ _ 0 fun count child inside => ?_
  rw [text_moved (carried.belowNamed (List.mem_filter.mp inside).1)]

/-- **What an expression denotes does not depend on where it stands**, nor does what is found on the way. -/
theorem denoteNode_concur (walkers : Companions env source walker walker')
    (twins : Twins env source distance cursor cursor') (recording : Bool) :
    Concur env.classpath (denoteNode env walker cursor recording)
      (denoteNode (env.on source) walker' cursor' recording) := by
  have type (first second : State) (level : Level env.classpath first second) :
      denoteType env (cursor.node.child? "type") first =
        denoteType (env.on source) ((cursor.node.child? "type").map (Node.moved distance)) second :=
    denoteType_beside (twins.carried.role "type") level
  unfold denoteNode
  simp only [twins.kind, twins.node, text_moved twins.carried, Node.child?_moved,
    createdDimensions_moved twins.carried]
  cases ExprForm.ofKind cursor.kind with
  | name => exact denoteName_concur twins.carried recording
  | this =>
    intro first second level
    simp only
    have path := level.scope.path?
    generalize first.scope.frame? = frame at path
    generalize second.scope.frame? = frame' at path
    cases frame with
    | none =>
      cases frame' with
      | none => exact ⟨rfl, .refl level⟩
      | some frame' => cases path
    | some frame =>
      cases frame' with
      | none => cases path
      | some frame' =>
        simp only [Option.map_some, Option.some.injEq] at path
        simp only [path, Arrive.refl level, and_self]
  | super => exact Concur.answer fun first second level => by rw [level.scope.superClass]
  | field => exact denoteField_concur walkers twins recording
  | call => exact denoteCall_concur walkers twins recording
  | reference => exact denoteReference_concur walkers twins recording
  | parenthesized =>
    have parts := twins.named
    generalize cursor.named = named at parts
    generalize cursor'.named = named' at parts
    cases parts with
    | nil => exact Concur.answer fun _ _ _ => rfl
    | cons here _ => exact walkers.denote distance _ _ recording here
  | element => exact denoteElement_concur walkers twins recording
  | cast => exact (walkers.visitRecording recording (twins.child? "value")).denoting type
  | creation =>
    cases recording with
    | false => exact Abreast.idle.denoting type
    | true => exact (visitCreation_abreast walkers twins).denoting type
  | arrayCreation =>
    have array (first second : State) (level : Level env.classpath first second) :=
      congrArg (arrayOutcome (createdDimensions env cursor.node)) (type first second level)
    cases recording with
    | false => exact Abreast.idle.denoting array
    | true => exact (walkers.visitChildren twins).denoting array
  | text => exact Concur.answer fun _ _ _ => rfl
  | classLiteral => exact Concur.answer fun _ _ _ => rfl
  | other =>
    cases recording with
    | false => exact Abreast.idle.denoting fun _ _ _ => rfl
    | true => exact (walkers.visit distance cursor cursor' twins).denoting fun _ _ _ => rfl

end Expressions

/-! ## The walks -/

/-- **A visit does not depend on where its node stands.** -/
theorem visitNode_abreast {walker walker' : Walker} (walkers : Companions env source walker walker')
    {cursor cursor' : Cursor} (twins : Twins env source distance cursor cursor') :
    Abreast env.classpath (visitNode env walker cursor) (visitNode (env.on source) walker' cursor') := by
  unfold visitNode
  rw [twins.kind]
  cases Construct.ofKind cursor.kind with
  | skipped => exact Abreast.idle
  | type => exact visitType_abreast walkers twins
  | fields => exact visitFields_abreast walkers twins
  | method => exact visitMethod_abreast walkers twins
  | compactConstructor => exact visitCompactConstructor_abreast walkers twins
  | enumConstant => exact visitEnumConstant_abreast walkers twins
  | staticInitializer => exact (walkers.visitChildren twins).inMethod classInit classInit
  | block => exact visitBlock_abreast walkers twins
  | blockLike => exact (walkers.visitChildren twins).inBlock
  | locals => exact visitLocals_abreast walkers twins
  | loop => exact visitLoop_abreast walkers twins
  | catchClause => exact visitCatch_abreast walkers twins
  | resources => exact visitTry_abreast walkers twins
  | instanceof => exact visitInstanceof_abreast walkers twins
  | pattern => exact visitPattern_abreast twins
  | lambda => exact visitLambda_abreast walkers twins
  | creation => exact visitCreation_abreast walkers twins
  | access => exact visitAccess_abreast walkers twins
  | name => exact visitName_abreast walkers twins
  | other => exact walkers.visitChildren twins

/-- Giving up stops both walks, each at its own place. -/
theorem giveUpAt_abreast {env env' : Env} (node node' : Node) :
    Abreast classpath (State.giveUpAt env node) (State.giveUpAt env' node') := by
  intro first second level
  have given := level.given
  unfold State.giveUpAt
  cases here : first.tooDeep with
  | some position =>
    cases there : second.tooDeep with
    | some position' => exact .refl level
    | none => rw [here, there] at given; cases given
  | none =>
    cases there : second.tooDeep with
    | some position' => rw [here, there] at given; cases given
    | none => exact ⟨⟨level.scope, rfl⟩, add_comm _ _⟩

/-- A visit with a level left, unless the walk has been given up. -/
theorem visit_succ_abreast {env' : Env} {room : Nat} {cursor cursor' : Cursor}
    (abreast : Abreast classpath (visitNode env (walker env room) cursor)
      (visitNode env' (walker env' room) cursor')) :
    Abreast classpath ((walker env (room + 1)).visit cursor) ((walker env' (room + 1)).visit cursor') := by
  intro first second level
  have given := level.given
  simp only [walker, atLevel_eq]
  cases here : first.tooDeep with
  | some position =>
    cases there : second.tooDeep with
    | some position' => exact .refl level
    | none => rw [here, there] at given; cases given
  | none =>
    cases there : second.tooDeep with
    | some position' => rw [here, there] at given; cases given
    | none => exact abreast first second level

/-- With one level more the two nodes still denote alike; walks that have stopped do nothing. -/
theorem denote_succ_concur {env' : Env} {room : Nat} {cursor cursor' : Cursor} {recording : Bool}
    (concur : Concur classpath (denoteNode env (walker env room) cursor recording)
      (denoteNode env' (walker env' room) cursor' recording)) :
    Concur classpath ((walker env (room + 1)).denote cursor recording)
      ((walker env' (room + 1)).denote cursor' recording) := by
  intro first second level
  have given := level.given
  simp only [walker, atLevel_eq]
  cases here : first.tooDeep with
  | some position =>
    cases there : second.tooDeep with
    | some position' => exact ⟨rfl, .refl level⟩
    | none => rw [here, there] at given; cases given
  | none =>
    cases there : second.tooDeep with
    | some position' => rw [here, there] at given; cases given
    | none => exact concur first second level

/-- **The walkers over both texts go on alike with twins**, by induction on the levels left. -/
theorem walker_companions (env : Env) (source : Source) (room : Nat) :
    Companions env source (walker env room) (walker (env.on source) room) := by
  induction room with
  | zero =>
    constructor
    · exact fun _ cursor cursor' _ => giveUpAt_abreast cursor.node cursor'.node
    · intro _ cursor cursor' recording _
      have denoted : Concur env.classpath
          (fun state => ((.error (.nesting Tree.maxNesting) : Outcome), state.giveUpAt env cursor.node))
          (fun state => (.error (.nesting Tree.maxNesting), state.giveUpAt (env.on source) cursor'.node)) :=
        (giveUpAt_abreast cursor.node cursor'.node).denoting fun _ _ _ => rfl
      exact denoted
  | succ room ih =>
    constructor
    · exact fun _ _ _ twins => visit_succ_abreast (visitNode_abreast ih twins)
    · exact fun _ _ _ recording twins => denote_succ_concur (denoteNode_concur ih twins recording)

end SymbolIndex.Walk
