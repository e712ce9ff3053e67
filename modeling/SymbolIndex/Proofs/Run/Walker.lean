import SymbolIndex.Proofs.Run.Expression

/-!
# Runs of whole walks

Statements file local variables at their names, in blocks that are closed again. With declarations and
expressions they make up one level of a walk, and by induction on the levels left `walker_runs` says what
a walker does at any place.
-/

namespace SymbolIndex.Walk

open SymbolIndex.Tree (Node Cursor)

/-! ## Statements -/

section Level

variable {env : Env} {sited : Prop} {walker : Walker} {below : Outline} {mode : Mode}
  {cursor : Cursor}

/-- What stands in a block. -/
theorem goesBlock (arrives : sited → Arrives cursor) (isBlock : cursor.node.kind = "block")
    (leads : ∀ child, child.kind ∉ bodyKinds → Leads env (placeOf cursor) child mode .around) :
    ∀ child ∈ cursor.node.named, Goes env sited mode cursor child := by
  intro child member
  have free : cursor.node.kind ∉ hostKinds := by
    rw [isBlock]
    decide
  exact .ofHoused (Node.mem_of_named member) (fun here => (arrives here).housed) (fun _ => free)
    fun _ outside => leads child outside

/-- A block. Directly in a class body it initialises objects. -/
theorem visitBlock_run (runs : Runs env sited walker below) (arrives : sited → Arrives cursor)
    (isBlock : cursor.node.kind = "block") (state : State) :
    Run env sited .around (placeOf cursor) (cursor.node.named.flatMap below.visit) state
      (visitBlock walker cursor state) := by
  have notMethod : cursor.node.kind ∉ methodKinds := by
    rw [isBlock]
    decide
  have named (child : Node) : memberName? env (placeOf cursor) child =
      if cursor.above.head?.map (·.kind) = some "class_body" then some instanceInit else none := by
    simp [memberName?, placeOf, declaredSignature?_eq_none notMethod, initializer?, isBlock]
  unfold visitBlock
  simp only
  split
  · rename_i inBody
    have isBody : cursor.above.head?.map (·.kind) = some "class_body" := by
      simpa [Cursor.parent?] using inBody
    refine .inMethod (.inr (.inl rfl)) (.inBlock (runs.visitChildren ?_ _))
    exact goesBlock arrives isBlock fun child outside =>
      .within outside ((named child).trans (if_pos isBody))
  · rename_i elsewhere
    have notBody : ¬cursor.above.head?.map (·.kind) = some "class_body" := by
      simpa [Cursor.parent?] using elsewhere
    refine .inBlock (runs.visitChildren ?_ _)
    exact goesBlock arrives isBlock fun child outside =>
      .around outside ((named child).trans (if_neg notBody))

/-- A static initializer is walked inside the method that initialises the class. -/
theorem visitStatic_run (runs : Runs env sited walker below) (arrives : sited → Arrives cursor)
    (isStatic : cursor.node.kind = "static_initializer") (state : State) :
    Run env sited .around (placeOf cursor) (cursor.node.named.flatMap below.visit) state
      (inMethod classInit (walker.visitChildren cursor) state) := by
  have free : cursor.node.kind ∉ hostKinds := by
    rw [isStatic]
    decide
  have notMethod : cursor.node.kind ∉ methodKinds := by
    rw [isStatic]
    decide
  refine .inMethod (.inl rfl) (runs.visitChildren (fun child member => ?_) _)
  refine .ofHoused (Node.mem_of_named member) (fun here => (arrives here).housed) (fun _ => free)
    fun here outside => .within outside ?_
  simp [memberName?, placeOf, declaredSignature?_eq_none notMethod, initializer?, isStatic]

/-- A variable passes the marks of its value; declaring it passes none. -/
theorem declareBehind_run (runs : Runs env sited walker below) (name : Node) {value : Option Node}
    (goes : ∀ child ∈ value, Goes env sited mode cursor child) (inferred : Bool)
    (ofValue : JavaType → Option JavaType) (written : Scope → Option JavaType) (state : State) :
    Run env sited mode (placeOf cursor) (below.visit? value) state
      (declareBehind env walker name (value.map cursor.down) inferred ofValue written state) := by
  have walked := runs.visit? goes state
  unfold declareBehind
  simp only
  split
  · have typed := walked.trans (runs.valueType? goes _)
    rw [List.append_nil] at typed
    exact typed.followed (.declare _ _)
  · exact walked.followed (.declare _ _)

/-- A local variable with its value: it is filed at its name and declared behind the value. -/
theorem valued_run (runs : Runs env sited walker below) (ordinary : Ordinary sited cursor)
    {name : Node} (named : cursor.node.child? "name" = some name) (typeName : Option String)
    (inferred : Bool) (ofValue : JavaType → Option JavaType) (written : Scope → Option JavaType)
    (state : State) :
    Run env sited .around (placeOf cursor) (valuedMarks below .localVariable cursor.node) state
      (declareBehind env walker name (cursor.child? "value") inferred ofValue written
        (state.fileLocal env name typeName)) := by
  have filed : Run env sited .around (placeOf cursor) _ state _ :=
    (ordinary.goesRole name named).run (Run.fileLocal typeName state)
  unfold valuedMarks
  rw [named]
  exact filed.trans (declareBehind_run runs name ordinary.goesRole inferred ofValue written _)

/-- The declarators of a local declaration are gone through. -/
theorem visitLocal_run (runs : Runs env sited walker below) (ordinary : Ordinary sited cursor)
    (type : Option Node) (declared : Option JavaType) {declarator : Node}
    (member : declarator ∈ cursor.node.childrenIn "declarator") (state : State) :
    Run env sited .around (placeOf cursor) (valuedMarks below .localVariable declarator) state
      (visitLocal env walker type declared state (cursor.down declarator)) := by
  have inside := (List.mem_filter.mp member).1
  have free (here : sited) : declarator.kind ∉ guardedKinds := by
    rw [(ordinary.arrives here).housed.here.declarators declarator member]
    decide
  unfold visitLocal
  cases named : (cursor.down declarator).node.child? "name" with
  | none =>
    have absent : declarator.child? "name" = none := named
    unfold valuedMarks
    rw [absent]
    exact .refl
  | some name =>
    exact (ordinary.goes inside).run
      (valued_run runs (ordinary.down inside free) named _ _ _ _ state)

/-- A local declaration passes the name and the value of each declarator. -/
theorem visitLocals_run (runs : Runs env sited walker below) (ordinary : Ordinary sited cursor)
    (state : State) :
    Run env sited .around (placeOf cursor)
      ((cursor.node.childrenIn "declarator").flatMap (valuedMarks below .localVariable)) state
      (visitLocals env walker cursor state) := by
  simp only [visitLocals, Cursor.childrenIn, List.foldl_map]
  exact Run.foldl _ (fun _ member state => visitLocal_run runs ordinary _ _ member state) state

/-- An enhanced `for` passes its variable and its value, then its body. -/
theorem visitLoop_run (runs : Runs env sited walker below) (ordinary : Ordinary sited cursor)
    (state : State) :
    Run env sited .around (placeOf cursor) (valuedMarks below .localVariable cursor.node ++
        below.visit? (cursor.node.child? "body")) state
      (visitLoop env walker cursor state) := by
  refine .inBlock (Run.trans ?_ (runs.visit? ordinary.goesRole _))
  cases named : cursor.node.child? "name" with
  | none =>
    unfold valuedMarks
    rw [named]
    exact .refl
  | some name =>
    simp only [visitLoopVariable]
    exact valued_run runs ordinary named _ _ _ _ _

/-- The parameter of a `catch` is gone through. -/
theorem declareCaught_run (ordinary : Ordinary sited cursor) (state : State) :
    Run env sited .around (placeOf cursor)
      (names .localVariable (cursor.node.child? "name").toList) state
      (declareCaught env cursor.node state) := by
  unfold declareCaught
  cases named : cursor.node.child? "name" with
  | none => exact .refl
  | some name => exact (ordinary.goesRole name named).run (Run.declareLocal _ _ state)

/-- A `catch` clause passes its parameter, then its block. -/
theorem visitCatch_run (runs : Runs env sited walker below) (ordinary : Ordinary sited cursor)
    (state : State) :
    Run env sited .around (placeOf cursor) (cursor.node.named.flatMap (caughtMarks below)) state
      (visitCatch env walker cursor state) := by
  refine .inBlock ?_
  simp only [Cursor.named, List.foldl_map]
  refine Run.foldl _ (fun child member state => ?_) _
  have goes : Goes env sited .around cursor child := ordinary.goesNamed child member
  unfold caughtMarks Cursor.kind Cursor.down
  by_cases caught : (child.kind == "catch_formal_parameter") = true
  · rw [if_pos caught, if_pos caught]
    have free (_ : sited) : child.kind ∉ guardedKinds := by
      rw [eq_of_beq caught]
      decide
    exact goes.run (declareCaught_run (ordinary.down goes.inside free) state)
  · rw [if_neg caught, if_neg caught]
    exact runs.visitChild goes state

/-- A resource is gone through. -/
theorem visitResource_run (runs : Runs env sited walker below) (ordinary : Ordinary sited cursor)
    (state : State) :
    Run env sited .around (placeOf cursor) (resourceMarks below cursor.node) state
      (visitResource env walker state cursor) := by
  unfold visitResource resourceMarks
  cases named : cursor.node.child? "name" with
  | none => exact runs.visitChildren ordinary.goesNamed state
  | some name => exact valued_run runs ordinary named _ _ _ _ state

/-- A `try` passes its resources, then its blocks. -/
theorem visitTry_run (runs : Runs env sited walker below) (ordinary : Ordinary sited cursor)
    (state : State) :
    Run env sited .around (placeOf cursor) (cursor.node.named.flatMap (tryMarks below)) state
      (visitTry env walker cursor state) := by
  refine .inBlock ?_
  simp only [Cursor.named, List.foldl_map]
  refine Run.foldl _ (fun child member state => ?_) _
  have goes : Goes env sited .around cursor child := ordinary.goesNamed child member
  unfold tryMarks Cursor.kind
  by_cases specified : (child.kind == "resource_specification") = true
  · have specifies : child.kind = "resource_specification" := eq_of_beq specified
    have isSpecification : ((cursor.down child).node.kind == "resource_specification") = true :=
      specified
    rw [if_pos specified, if_pos isSpecification]
    have free (_ : sited) : child.kind ∉ guardedKinds := by
      rw [specifies]
      decide
    have inner := ordinary.down goes.inside free
    refine goes.run (Run.foldl _ (fun resource member state => ?_) state)
    have inside := Node.mem_of_named member
    refine (inner.goes inside).run (visitResource_run runs (inner.down inside fun here => ?_) state)
    have kinds : ∀ kind ∈ ["resource", "line_comment", "block_comment"], kind ∉ guardedKinds := by
      decide
    exact kinds _ ((inner.arrives here).housed.here.resources specifies resource member)
  · have notSpecification : ¬((cursor.down child).node.kind == "resource_specification") = true :=
      specified
    rw [if_neg specified, if_neg notSpecification]
    exact runs.visitChild goes state

/-- An `instanceof` passes its value, then the name that it binds. -/
theorem visitInstanceof_run (runs : Runs env sited walker below) (ordinary : Ordinary sited cursor)
    (state : State) :
    Run env sited .around (placeOf cursor) (instanceofMarks below cursor.node) state
      (visitInstanceof env walker cursor state) := by
  unfold visitInstanceof instanceofMarks
  cases named : cursor.node.child? "name" with
  | none => exact runs.visitChildren ordinary.goesNamed state
  | some name =>
    exact (runs.visit? ordinary.goesRole state).trans
      ((ordinary.goesRole name named).run (Run.declareLocal _ _ _))

/-- A pattern passes the name that it binds. -/
theorem visitPattern_run (ordinary : Ordinary sited cursor) (state : State) :
    Run env sited .around (placeOf cursor) (names .localVariable (patternNames cursor.node)) state
      (visitPattern env cursor state) := by
  unfold visitPattern patternNames
  cases found : cursor.node.named.getLast? with
  | none => exact .refl
  | some name =>
    by_cases isName : (name.kind == "identifier") = true
    · simp only [if_pos isName]
      exact (ordinary.goesNamed name (List.mem_of_getLast? found)).run (Run.declareLocal _ _ state)
    · simp only [if_neg isName]
      exact .refl

/-- The parameters of a lambda are filed at their names. -/
theorem declareLambdaParameters_run (ordinary : Ordinary sited cursor) {list : Node}
    (found : cursor.node.child? "parameters" = some list) (state : State) :
    Run env sited .around (placeOf cursor) (names .localVariable (boundNames list)) state
      (declareLambdaParameters env list state) := by
  have goes : Goes env sited .around cursor list := ordinary.goesRole list found
  have free (here : sited) : list.kind ∉ guardedKinds := by
    have kinds : ∀ kind ∈ ["formal_parameters", "inferred_parameters", "identifier"],
        kind ∉ guardedKinds := by decide
    exact kinds _ ((ordinary.arrives here).housed.here.parameters list
      (Node.mem_childrenIn_of_child? found))
  have inner := ordinary.down goes.inside free
  unfold declareLambdaParameters boundNames
  by_cases single : (list.kind == "identifier") = true
  · rw [if_pos single, if_pos single]
    exact goes.run (Run.declareLocal _ _ state)
  · rw [if_neg single, if_neg single]
    by_cases inferred : (list.kind == "inferred_parameters") = true
    · rw [if_pos inferred, if_pos inferred]
      unfold names
      rw [List.map_eq_flatMap]
      refine goes.run (Run.foldl list.named (fun name member state => ?_) state)
      exact (inner.goes (Node.mem_of_named member)).run (Run.declareLocal _ _ state)
    · rw [if_neg inferred, if_neg inferred, ← parameters_names env state.scope]
      refine goes.run (Run.parameters (cursor.down list) (fun _ => True) (.inr ⟨rfl, inner⟩) state.scope
        (fun parameter _ state _ _ => ?_) state True.intro)
      exact ⟨Run.declareLocal _ _ state, True.intro⟩

/-- A lambda passes its parameters, then its body. -/
theorem visitLambda_run (runs : Runs env sited walker below) (ordinary : Ordinary sited cursor)
    (state : State) :
    Run env sited .around (placeOf cursor) (names .localVariable (lambdaNames cursor.node) ++
        below.visit? (cursor.node.child? "body")) state
      (visitLambda env walker cursor state) := by
  refine .inBlock (Run.trans ?_ (runs.visit? ordinary.goesRole _))
  unfold lambdaNames
  cases found : cursor.node.child? "parameters" with
  | none => exact .refl
  | some list => exact declareLambdaParameters_run ordinary found _

/-- An access passes what it denotes, and notes at most a failure behind it. -/
theorem visitAccess_run (runs : Runs env sited walker below) (arrives : sited → Arrives cursor)
    (state : State) :
    Run env sited .around (placeOf cursor) (below.denote cursor.node) state
      (visitAccess env walker cursor state) := by
  have run := runs.denote cursor true state arrives
  unfold visitAccess
  split
  · rename_i found
    rw [found] at run
    split
    · exact run.followed (.noted _ _)
    · exact run
  · rename_i found
    rw [found] at run
    exact run
  · rename_i found
    rw [found] at run
    exact run
  · rename_i found
    rw [found] at run
    exact run.followed (.noted _ _)

/-- A bare name is passed as a reference, whether or not it is filed. -/
theorem visitName_run (runs : Runs env sited walker below) (arrives : sited → Arrives cursor)
    (isName : cursor.node.kind = "identifier") (state : State) :
    Run env sited .around (placeOf cursor) [.name .reference cursor.node] state
      (visitName walker cursor state) := by
  unfold visitName
  cases cursor.parent? with
  | none => exact .passed cursor.node
  | some parent =>
    simp only
    split
    · exact .passed cursor.node
    · exact runs.name cursor state arrives isName

/-- Where the frame of a walk may change. -/
theorem Construct.ordinary {construct : Construct} (found : ofKind cursor.node.kind = construct)
    (free : construct ∉ [.type, .fields, .method, .compactConstructor, .enumConstant,
      .staticInitializer, .block, .creation]) (arrives : sited → Arrives cursor) :
    Ordinary sited cursor := by
  refine ⟨arrives, fun _ guarded => free ?_⟩
  have constructs : ∀ kind ∈ guardedKinds, ofKind kind ∈ [.type, .fields, .method,
      .compactConstructor, .enumConstant, .staticInitializer, .block, .creation] := by decide
  exact found ▸ constructs _ guarded

/-- **A visit of a node** is a run over the marks that the outline gives it, whatever construct it is.
Each construct has its own lemma above; the walkers below are known by induction on the levels left. -/
theorem visitNode_run (runs : Runs env sited walker below) (arrives : sited → Arrives cursor)
    (state : State) :
    Run env sited .around (placeOf cursor) (visitedNode below cursor.node) state
      (visitNode env walker cursor state) := by
  unfold visitNode visitedNode
  simp only [Cursor.kind]
  cases found : Construct.ofKind cursor.node.kind with
  | skipped => exact .refl
  | type =>
    have kinds : ∀ entry ∈ Construct.kinds, entry.2 = .type → entry.1 ∈ memberKinds := by decide
    exact visitType_run runs arrives (kinds _ (Construct.mem_kinds found (by decide)) rfl) state
  | fields =>
    have kinds : ∀ entry ∈ Construct.kinds, entry.2 = .fields → entry.1 ∈ fieldKinds := by decide
    exact visitFields_run runs arrives (kinds _ (Construct.mem_kinds found (by decide)) rfl) state
  | method =>
    have kinds : ∀ entry ∈ Construct.kinds, entry.2 = .method →
        entry.1 ∈ ["method_declaration", "constructor_declaration"] := by decide
    exact visitMethod_run runs arrives (kinds _ (Construct.mem_kinds found (by decide)) rfl) state
  | compactConstructor =>
    exact visitCompactConstructor_run runs arrives
      (Construct.kind_eq found (by decide) (by decide)) state
  | enumConstant =>
    exact visitEnumConstant_run runs arrives (Construct.kind_eq found (by decide) (by decide)) state
  | staticInitializer =>
    exact visitStatic_run runs arrives (Construct.kind_eq found (by decide) (by decide)) state
  | block => exact visitBlock_run runs arrives (Construct.kind_eq found (by decide) (by decide)) state
  | blockLike =>
    have ordinary := Construct.ordinary found (by decide) arrives
    exact .inBlock (runs.visitChildren ordinary.goesNamed _)
  | locals => exact visitLocals_run runs (Construct.ordinary found (by decide) arrives) state
  | loop => exact visitLoop_run runs (Construct.ordinary found (by decide) arrives) state
  | catchClause => exact visitCatch_run runs (Construct.ordinary found (by decide) arrives) state
  | resources => exact visitTry_run runs (Construct.ordinary found (by decide) arrives) state
  | instanceof => exact visitInstanceof_run runs (Construct.ordinary found (by decide) arrives) state
  | pattern => exact visitPattern_run (Construct.ordinary found (by decide) arrives) state
  | lambda => exact visitLambda_run runs (Construct.ordinary found (by decide) arrives) state
  | creation =>
    exact visitCreation_run runs arrives (Construct.kind_eq found (by decide) (by decide)) state
  | access => exact visitAccess_run runs arrives state
  | name =>
    exact visitName_run runs arrives (Construct.kind_eq found (by decide) (by decide)) state
  | other =>
    have ordinary := Construct.ordinary found (by decide) arrives
    exact runs.visitChildren ordinary.goesNamed state

end Level

/-! ## The walk -/

/-- Where no level is left, the walk is given up in front of what lies below. -/
theorem runs_zero (env : Env) (sited : Prop) : Runs env sited (walker env 0) (outline 0) where
  visit cursor state _ := .limit cursor.node
  denote cursor recording state _ := by
    cases recording with
    | false => exact .spent cursor.node
    | true => exact .limit cursor.node
  name cursor state _ _ := Run.followed (.passed cursor.node) (.spent cursor.node)

/-- **A walk runs through its outline.** With any number of levels left, a walker does at every place
what a run does, and passes the marks of the outline with as many levels. -/
theorem walker_runs (env : Env) (sited : Prop) (room : Nat) :
    Runs env sited (walker env room) (outline room) := by
  induction room with
  | zero => exact runs_zero env sited
  | succ room ih =>
    constructor
    case visit =>
      intro cursor state arrives
      simp only [walker, atLevel_eq]
      split
      · rename_i given
        exact .stopped _ (by rw [given]; rfl)
      · exact visitNode_run ih arrives state
    case denote =>
      intro cursor recording state arrives
      simp only [walker, atLevel_eq]
      split
      · rename_i given
        exact .stopped _ (by rw [given]; rfl)
      · exact denoteNode_run ih arrives recording state
    case name =>
      intro cursor state arrives isName
      simp only [walker, atLevel_eq]
      split
      · rename_i given
        exact .stopped _ (by rw [given]; rfl)
      · have run := denoteNode_run ih arrives true state
        rwa [denotedNode, isName] at run

end SymbolIndex.Walk
