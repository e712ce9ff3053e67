import SymbolIndex.Proofs.Run.Basic

/-!
# Runs over declarations

Parameters, types, fields, enum constants and methods. What a walk files there it files at the name that
it belongs to, and what it walks it walks in the frame and with the method of its place.
-/

namespace SymbolIndex.Walk

open SymbolIndex.Tree (Node Cursor)

variable {env : Env} {sited : Prop} {walker : Walker} {below : Outline} {mode : Mode}
  {cursor : Cursor}

/-! ## Parameters -/

/-- The names of parameters do not depend on what their types resolve to. -/
theorem parameter?_name (env : Env) (scope : Scope) (node : Node) :
    (parameter? env scope node).map (·.name) = parameterName? node := by
  unfold parameter? parameterName?
  split
  · unfold formalParameter formalName?
    cases node.child? "type" <;> cases node.child? "name" <;> rfl
  · split
    · unfold spreadParameter spreadName?
      cases node.named.find? (Tree.isTypeKind ·.kind) with
      | none => rfl
      | some type =>
        cases node.named.find? (·.kind == "variable_declarator") with
        | none => rfl
        | some declarator => cases found : declarator.child? "name" <;> simp [found]
    · rfl

/-- The parameters that are read are named by the nodes that the outline lists. -/
theorem parameters_names (env : Env) (scope : Scope) (list : Option Node) :
    (parameters env scope list).map (·.name) = parameterNames list := by
  cases list with
  | none => rfl
  | some list =>
    simp only [parameters, parameterNames, Option.map_some, Option.getD_some, List.map_filterMap]
    exact congrArg (List.filterMap · list.named) (funext (parameter?_name env scope))

/-- The components of a record are named by the nodes that the outline lists. -/
theorem componentsOf_names (env : Env) (scope : Scope) (declaration : Node) :
    (componentsOf env scope (some declaration)).map (·.name) = componentNames declaration := by
  unfold componentsOf componentNames
  simp only
  split
  · exact parameters_names ..
  · rfl

/-- The types of parameters as they are written do not depend on what they resolve to. -/
theorem parameter?_erased (env : Env) (scope scope' : Scope) (node : Node) :
    (parameter? env scope node).map (·.erased) = (parameter? env scope' node).map (·.erased) := by
  unfold parameter?
  split
  · unfold formalParameter
    cases node.child? "type" <;> cases node.child? "name" <;> rfl
  · split
    · unfold spreadParameter
      cases node.named.find? (Tree.isTypeKind ·.kind) with
      | none => rfl
      | some type =>
        cases node.named.find? (·.kind == "variable_declarator") with
        | none => rfl
        | some declarator => cases found : declarator.child? "name" <;> simp [found, Parameter.erased]
    · rfl

/-- The types in a signature do not depend on what is known. -/
theorem parameters_erased (env : Env) (scope scope' : Scope) (list : Option Node) :
    (parameters env scope list).map (·.erased) = (parameters env scope' list).map (·.erased) := by
  cases list with
  | none => rfl
  | some list =>
    simp only [parameters, List.map_filterMap]
    exact congrArg (List.filterMap · list.named) (funext (parameter?_erased env scope scope'))

/-- A signature does not depend on what the types in it resolve to. -/
theorem signature_parameters (env : Env) (scope scope' : Scope) (name : String)
    (list : Option Node) :
    signature name (parameters env scope list) = signature name (parameters env scope' list) := by
  rw [signature, parameters_erased env scope scope', signature]

/-- The signature of a compact constructor does not depend on what is known. -/
theorem signature_components (env : Env) (scope scope' : Scope) (name : String)
    (declaration : Option Node) :
    signature name (componentsOf env scope declaration) =
      signature name (componentsOf env scope' declaration) := by
  unfold componentsOf
  cases declaration with
  | none => rfl
  | some declaration =>
    simp only
    split
    · exact signature_parameters env scope scope' name _
    · rfl

/-- Where the name of a parameter stands: in the parameter, or in a declarator of it. -/
theorem parameterName?_inside {node token : Node} (found : parameterName? node = some token) :
    node.kind ∈ ["formal_parameter", "spread_parameter"] ∧
      (token ∈ node.children ∨ ∃ declarator ∈ node.children,
        declarator.kind = "variable_declarator" ∧ token ∈ declarator.children) := by
  unfold parameterName? at found
  split at found
  · rename_i isFormal
    obtain ⟨type, _, named⟩ := Option.bind_eq_some_iff.mp found
    exact ⟨by simp [eq_of_beq isFormal], .inl (Node.mem_of_child? named)⟩
  · split at found
    · rename_i isSpread
      obtain ⟨type, _, rest⟩ := Option.bind_eq_some_iff.mp found
      obtain ⟨declarator, isDeclarator, named⟩ := Option.bind_eq_some_iff.mp rest
      refine ⟨by simp [eq_of_beq isSpread], .inr ⟨declarator, ?_, ?_, Node.mem_of_child? named⟩⟩
      · exact Node.mem_of_named (List.mem_of_find?_eq_some isDeclarator)
      · have held := List.find?_some isDeclarator
        exact eq_of_beq held
    · cases found

/-- A cursor that a walk goes through on its way to a name. -/
def Passes (sited : Prop) (mode : Mode) (cursor : Cursor) : Prop :=
  mode = .aside ∨ mode = .around ∧ Ordinary sited cursor

namespace Passes

/-- A walk that goes through a node goes through its children, but for bodies and fields. -/
theorem down (passes : Passes sited mode cursor) {child : Node}
    (inside : child ∈ cursor.node.children) (kind : child.kind ∉ guardedKinds) :
    Passes sited mode (cursor.down child) := by
  rcases passes with rfl | ⟨rfl, ordinary⟩
  · exact .inl rfl
  · exact .inr ⟨rfl, ordinary.down inside fun _ => kind⟩

/-- A run at a child is one at the node. -/
theorem run (passes : Passes sited mode cursor) {child : Node} {marks : List Mark}
    {first last : State} (inside : child ∈ cursor.node.children)
    (inner : Run env sited mode (child :: placeOf cursor) marks first last) :
    Run env sited mode (placeOf cursor) marks first last := by
  rcases passes with rfl | ⟨rfl, ordinary⟩
  · exact .aside inside inner
  · exact (ordinary.goes inside).run inner

end Passes

/-- What is done at the name of a parameter. The method around it is that around the parameter. -/
theorem Run.parameter (cursor : Cursor) {marks : List Mark} {first last : State} {token : Node}
    (passes : Passes sited mode cursor) (found : parameterName? cursor.node = some token)
    (inner : ∀ above, methodAbove? above = methodAbove? cursor.above →
      Run env sited mode (token :: above) marks first last) :
    Run env sited mode (placeOf cursor) marks first last := by
  obtain ⟨kind, place⟩ := parameterName?_inside found
  have kinds : ∀ kind ∈ ["formal_parameter", "spread_parameter"], kind ∉ methodKinds := by decide
  have skips : methodAbove? (placeOf cursor) = methodAbove? cursor.above := if_neg (kinds _ kind)
  rcases place with inside | ⟨declarator, inside, isDeclarator, behind⟩
  · exact passes.run inside (inner _ skips)
  · have free : declarator.kind ∉ guardedKinds := by
      rw [isDeclarator]
      decide
    have notMethod : declarator.kind ∉ methodKinds := by
      rw [isDeclarator]
      decide
    refine passes.run inside ((passes.down inside free).run behind (inner _ ?_))
    exact (if_neg notMethod).trans skips

/-- A fold over the parameters of a list that passes the name of each. What holds in front of the fold
may be used at every name, if the steps keep it. -/
theorem Run.parameters (cursor : Cursor) {step : State → Parameter → State} {kind : OccurrenceKind}
    (holds : State → Prop) (passes : Passes sited mode cursor) (scope : Scope)
    (each : ∀ parameter above state, methodAbove? above = methodAbove? (placeOf cursor) →
      holds state →
        Run env sited mode (parameter.name :: above) [.name kind parameter.name] state
          (step state parameter) ∧ holds (step state parameter))
    (state : State) (start : holds state) :
    Run env sited mode (placeOf cursor)
      (names kind ((parameters env scope (some cursor.node)).map (·.name))) state
      ((parameters env scope (some cursor.node)).foldl step state) := by
  simp only [Walk.parameters]
  have inside : ∀ node ∈ cursor.node.named, node ∈ cursor.node.children :=
    fun _ => Node.mem_of_named
  generalize cursor.node.named = nodes at inside
  induction nodes generalizing state with
  | nil => exact .refl
  | cons node nodes ih =>
    have others := fun other member => inside other (List.mem_cons_of_mem node member)
    rw [List.filterMap_cons]
    cases found : parameter? env scope node with
    | none => exact ih state start others
    | some parameter =>
      have named : parameterName? node = some parameter.name := by
        rw [← parameter?_name env scope, found]
        rfl
      have kinds : ∀ kind ∈ ["formal_parameter", "spread_parameter"], kind ∉ guardedKinds := by
        decide
      have free := kinds _ (parameterName?_inside named).1
      have member := inside node List.mem_cons_self
      have run : Run env sited mode (placeOf cursor) [.name kind parameter.name] state
          (step state parameter) :=
        passes.run member (Run.parameter (cursor.down node) (passes.down member free) named
          fun above same => (each parameter above state same start).1)
      have kept := (each parameter _ state rfl start).2
      exact run.trans (ih (step state parameter) kept others)

/-! ## Types and fields -/

/-- The components of a record are filed. -/
theorem fileComponents_run (scope : Scope) (declaration : Node) (above : List Node) (state : State) :
    Run env sited mode (declaration :: above) (names .field (componentNames declaration)) state
      (fileComponents env (componentsOf env scope (some declaration)) state) := by
  rw [← componentsOf_names env scope]
  unfold componentsOf
  simp only
  split
  · cases found : declaration.child? "parameters" with
    | none => exact .refl
    | some list =>
      have filed : Run env sited .aside (placeOf ⟨list, declaration :: above⟩)
          (names .field ((parameters env scope (some list)).map (·.name))) state
          (fileComponents env (parameters env scope (some list)) state) := by
        refine Run.parameters ⟨list, declaration :: above⟩ (fun _ => True) (.inl rfl) scope
          (fun parameter _ state _ _ => ?_) state True.intro
        exact ⟨Run.fileField _ _ state, True.intro⟩
      exact Run.aside (Node.mem_of_child? found) filed
  · exact .refl

/-- A scope with one more frame for the class at `path`, without method and blocks. -/
def Opens (path : String) (scope opened : Scope) : Prop :=
  ∃ frame : Frame, frame.path = path ∧ (frame.method = none ∧ frame.blocks = []) ∧
    opened = { scope with frames := frame :: scope.frames }

/-- A frame that is opened may be changed in what it knows. -/
theorem Opens.modifyFrame {path : String} {scope opened : Scope} (opens : Opens path scope opened)
    {change : Frame → Frame} (same : ∀ frame, (change frame).path = frame.path ∧
      (change frame).method = frame.method ∧ (change frame).blocks = frame.blocks) :
    Opens path scope (opened.modifyFrame change) := by
  obtain ⟨frame, isPath, ⟨noMethod, noBlocks⟩, rfl⟩ := opens
  obtain ⟨samePath, sameMethod, sameBlocks⟩ := same frame
  exact ⟨change frame, samePath.trans isPath, ⟨sameMethod.trans noMethod, sameBlocks.trans noBlocks⟩,
    rfl⟩

/-- Making a member class known is such a change. -/
theorem Opens.nameMember {path : String} {scope opened : Scope} (opens : Opens path scope opened)
    (env : Env) (member : Node) : Opens path scope (nameMember env opened member) := by
  unfold Walk.nameMember
  split
  · split
    · exact opens.modifyFrame fun _ => ⟨rfl, rfl, rfl⟩
    · exact opens
  · exact opens

/-- **A class body is opened** with one frame more, under the path of the class and without a member. -/
theorem openBody_opens (env : Env) (declaration : Option Node) (path : String)
    (body : Option Node) (hint : Option String) (state : State) :
    Opens path state.scope (openBody env declaration path body hint state).scope := by
  refine Opens.modifyFrame ?_ fun _ => ⟨rfl, rfl, rfl⟩
  have pushed : Opens path state.scope (state.scope.pushFrame path) := ⟨_, rfl, ⟨rfl, rfl⟩, rfl⟩
  generalize state.scope.pushFrame path = opened at pushed ⊢
  generalize (body.map bodyMembers).getD [] = members
  induction members generalizing opened with
  | nil => exact pushed
  | cons member members ih => exact ih _ (pushed.nameMember env member)

/-- The path of a class lies below that of the class around it. -/
def Deeper (scope : Scope) (path : String) : Prop :=
  ∀ outer ∈ scope.frame?, outer.path.length < path.length

/-- A path with a name behind it is longer. -/
theorem append_length_lt (path suffix : String) (text : String) (some : 0 < text.length) :
    path.length < (path ++ text ++ suffix).length := by
  simp only [String.length_append]
  omega

/-- A declared class has a longer path than the class around it. -/
theorem declaredPath_deeper (env : Env) (scope : Scope) (name : String) :
    Deeper scope (declaredPath env scope name) := by
  intro outer innermost
  rw [declaredPath, innermost]
  simp only
  split <;> exact append_length_lt _ _ _ (by decide)

/-- An anonymous class has a longer path than the class around it. -/
theorem anonymousPath_deeper (scope : Scope) : Deeper scope scope.anonymousPath := by
  intro outer innermost
  rw [Scope.anonymousPath, innermost]
  exact append_length_lt _ _ _ (by decide)

/-- Naming or counting a class does not change the paths around it. -/
theorem Deeper.modifyFrame {scope : Scope} {path : String} (deeper : Deeper scope path)
    {change : Frame → Frame} (same : ∀ frame, (change frame).path = frame.path) :
    Deeper (scope.modifyFrame change) path := by
  intro outer innermost
  unfold Scope.modifyFrame at innermost
  cases frames : scope.frames with
  | nil => simp [frames, Scope.frame?] at innermost
  | cons frame rest =>
    simp only [frames, Scope.frame?, List.head?_cons, Option.mem_some_iff] at innermost
    rw [← innermost, same]
    exact deeper frame (by rw [Scope.frame?, frames]; rfl)

/-- A class body that a walk goes through. -/
def IsBody (body : Node) : Prop :=
  Housed body ∧ body.kind ∈ bodyKinds

/-- A walk goes on with every member of a class body. -/
theorem IsBody.goes (env : Env) (body : Cursor) (isBody : sited → IsBody body.node) :
    ∀ child ∈ body.node.named, Goes env sited .opened body child := by
  intro child member
  have kinds : ∀ kind ∈ bodyKinds, kind ∉ hostKinds := by decide
  refine .ofHoused (Node.mem_of_named member) (fun here => (isBody here).1)
    (fun here => kinds _ (isBody here).2) fun here outside => ?_
  exact .member outside (memberName?_body (isBody here).2 _ _)

/-- A class: its components and its body, in a frame of its own. -/
theorem enterType_run (runs : Runs env sited walker below) (declaration : Option Node)
    (same : ∀ node ∈ declaration, node = cursor.node) {path : String} (body : Option Node)
    (inside : ∀ child ∈ body, child ∈ cursor.node.children)
    (isBody : sited → ∀ child ∈ body, IsBody child) (hint : Option String) {state : State}
    (deeper : Deeper state.scope path) :
    Run env sited .around (placeOf cursor)
      (names .field ((declaration.map componentNames).getD []) ++ below.visitChildren? body) state
      (enterType env walker declaration path (body.map cursor.down) hint state) := by
  unfold enterType
  obtain ⟨frame, isPath, bare, opened⟩ := openBody_opens env declaration path
    ((body.map cursor.down).map (·.node)) hint state
  have entered : openBody env declaration path ((body.map cursor.down).map (·.node)) hint state =
      state.withScope fun scope => { scope with frames := frame :: scope.frames } := by
    rw [State.withScope, ← opened]
    rfl
  simp only [entered]
  have filed (scope : Scope) (state : State) : Run env sited .entered (placeOf cursor)
      (names .field ((declaration.map componentNames).getD [])) state
      (fileComponents env (componentsOf env scope declaration) state) := by
    cases declaration with
    | none => exact .refl
    | some node =>
      rw [same node rfl]
      exact fileComponents_run scope cursor.node cursor.above state
  have walked (state : State) : Run env sited .entered (placeOf cursor) (below.visitChildren? body)
      state (walker.visitChildren? (body.map cursor.down) state) := by
    cases body with
    | none => exact .refl
    | some child =>
      have goes := IsBody.goes env (cursor.down child) fun here => isBody here child rfl
      exact .descend (inside child rfl) (fun here => .body (isBody here child rfl).2)
        (runs.visitChildren goes state)
  exact .inType (isPath ▸ deeper) bare ((filed _ _).trans (walked _))

/-- The body of an anonymous class is walked in a frame of its own. -/
theorem enterAnonymous_run (runs : Runs env sited walker below) {body : Node}
    (inside : body ∈ cursor.node.children) (isBody : sited → IsBody body) (hint : Option String)
    (state : State) :
    Run env sited .around (placeOf cursor) (body.named.flatMap below.visit) state
      (enterAnonymous env walker (cursor.down body) hint state) := by
  have counted : Run env sited .around (placeOf cursor) [] state
      (state.withScope Scope.countAnonymous) := .frame (·.nested) (·.anonymous + 1)
  refine counted.behind (enterType_run runs none ?_ (some body) ?_ ?_ hint ?_)
  · exact fun _ absent => nomatch absent
  · rintro child same
    cases same
    exact inside
  · rintro here child same
    cases same
    exact isBody here
  · exact (anonymousPath_deeper state.scope).modifyFrame fun _ => rfl

/-- **A class declaration** is a run over its components and its body, in a frame of its own. -/
theorem visitType_run (runs : Runs env sited walker below) (arrives : sited → Arrives cursor)
    (declares : cursor.node.kind ∈ memberKinds) (state : State) :
    Run env sited .around (placeOf cursor) (typeMarks below cursor.node) state
      (visitType env walker cursor state) := by
  unfold visitType typeMarks
  cases cursor.node.child? "name" with
  | none => exact .refl
  | some name =>
    have named : Run env sited .around (placeOf cursor) [] state
        (state.withScope (·.modifyFrame fun frame => { frame with
          nested := frame.nested.insert (env.text name)
            (declaredPath env state.scope (env.text name)) })) :=
      .frame _ (·.anonymous)
    refine named.behind (enterType_run runs (some cursor.node) ?_ (cursor.node.child? "body") ?_ ?_ none ?_)
    · rintro node same
      cases same
      rfl
    · exact fun child found => Node.mem_of_child? found
    · intro here child found
      have housed := (arrives here).housed
      exact ⟨housed.below (Node.mem_of_child? found),
        housed.here.bodies declares child (Node.mem_childrenIn_of_child? found)⟩
    · exact (declaredPath_deeper env state.scope _).modifyFrame fun _ => rfl

/-- A field is initialised with its class or with each object. -/
theorem fieldInit_initializes (declaration : Node) :
    fieldInit declaration = classInit ∨ fieldInit declaration = instanceInit := by
  unfold fieldInit
  split
  · exact .inl rfl
  · exact .inr rfl

/-- The value of a field belongs to the code that initialises it. -/
theorem goesValue (arrives : sited → Arrives cursor) (isField : cursor.node.kind ∈ fieldKinds)
    {declarator : Node} (member : declarator ∈ cursor.node.childrenIn "declarator") :
    ∀ value ∈ declarator.child? "value",
      Goes env sited (.within (fieldInit cursor.node)) (cursor.down declarator) value := by
  intro value found
  have kind (here : sited) : declarator.kind = "variable_declarator" :=
    (arrives here).housed.here.declarators declarator member
  refine .ofHoused (Node.mem_of_child? found)
    (fun here => (arrives here).housed.below (List.mem_filter.mp member).1) (fun here => ?_)
    (fun here outside => .within outside ?_)
  · have free : declarator.kind ∉ hostKinds := by
      rw [kind here]
      decide
    exact free
  · have valued : value.plays "value" := Node.plays_of_child? found
    have notMethod : declarator.kind ∉ methodKinds := by
      rw [kind here]
      decide
    simp [memberName?, placeOf, Cursor.down, declaredSignature?_eq_none notMethod, initializer?,
      kind here, valued, Option.filter, isField]

/-- A declarator of a field is filed, and its value is walked as an initializer. -/
theorem visitField_run (runs : Runs env sited walker below) (arrives : sited → Arrives cursor)
    (isField : cursor.node.kind ∈ fieldKinds) (baseText : String) {declarator : Node}
    (member : declarator ∈ cursor.node.childrenIn "declarator") (state : State) :
    Run env sited .around (placeOf cursor) (valuedMarks below .field declarator) state
      (visitField env walker baseText (fieldInit cursor.node) state (cursor.down declarator)) := by
  have kinds : ∀ kind ∈ fieldKinds, kind ∉ namingKinds ∧ kind ≠ "variable_declarator" := by decide
  obtain ⟨free, notDeclarator⟩ := kinds _ isField
  have leads (here : sited) : Leads env (placeOf cursor) declarator .around .around := by
    refine .around ?_ (memberName?_eq_none free (fun same => absurd same notDeclarator) declarator)
    rw [(arrives here).housed.here.declarators declarator member]
    decide
  unfold visitField valuedMarks
  cases found : (cursor.down declarator).node.child? "name" with
  | none =>
    have absent : declarator.child? "name" = none := found
    simp only [absent]
    exact .refl
  | some name =>
    have named : declarator.child? "name" = some name := found
    simp only [named]
    have filed (typeName : String) : Run env sited .around (placeOf (cursor.down declarator)) _ state _ :=
      .aside (Node.mem_of_child? named) (Run.fileField typeName state.owner state)
    have walked := runs.visitWithin (fieldInit_initializes _) (goesValue arrives isField member)
    exact .descend (List.mem_filter.mp member).1 leads ((filed _).trans (walked _))

/-- A field declaration does so for each of its declarators. -/
theorem visitFields_run (runs : Runs env sited walker below) (arrives : sited → Arrives cursor)
    (isField : cursor.node.kind ∈ fieldKinds) (state : State) :
    Run env sited .around (placeOf cursor)
      ((cursor.node.childrenIn "declarator").flatMap (valuedMarks below .field)) state
      (visitFields env walker cursor state) := by
  simp only [visitFields, Cursor.childrenIn, List.foldl_map]
  exact Run.foldl _ (fun _ member state => visitField_run runs arrives isField _ member state) state

/-- An enum constant is filed, its arguments are walked, and its body is entered. -/
theorem visitEnumConstant_run (runs : Runs env sited walker below) (arrives : sited → Arrives cursor)
    (isConstant : cursor.node.kind = "enum_constant") (state : State) :
    Run env sited .around (placeOf cursor) (constantMarks below cursor.node) state
      (visitEnumConstant env walker cursor state) := by
  have goes : ∀ arguments ∈ cursor.node.child? "arguments",
      Goes env sited (.within classInit) cursor arguments := by
    intro arguments found
    have inside := Node.mem_of_child? found
    have plays : arguments.plays "arguments" := Node.plays_of_child? found
    have outside (here : sited) : arguments.kind ∉ bodyKinds := by
      intro isBody
      rcases (arrives here).housed.here.owned arguments inside isBody with ⟨_, asBody⟩ | ⟨creates, _⟩
      · exact Node.ne_of_roles plays asBody (by decide) rfl
      · rw [isConstant] at creates
        exact absurd creates (by decide)
    have notField : cursor.node.kind ∉ fieldKinds := by
      rw [isConstant]
      decide
    have notMethod : cursor.node.kind ∉ methodKinds := by
      rw [isConstant]
      decide
    refine ⟨inside, fun here => (arrives here).housed.arrives inside (outside here) notField,
      fun here => .within (outside here) ?_⟩
    simp [memberName?, placeOf, declaredSignature?_eq_none notMethod, initializer?, isConstant, plays]
  unfold visitEnumConstant constantMarks
  cases found : cursor.node.child? "name" with
  | none => exact .refl
  | some name =>
    have filed : Run env sited .around (placeOf cursor) _ state _ :=
      .aside (Node.mem_of_child? found) (Run.fileField
        (simpleNameOf ((state.scope.frame?.map (·.path)).getD "")) state.owner state)
    have walked := filed.trans (runs.visitWithin (.inl rfl) goes _)
    simp only [Cursor.child?]
    cases hasBody : cursor.node.child? "body" with
    | none => exact walked.trans .refl
    | some body =>
      refine walked.trans (enterAnonymous_run runs (Node.mem_of_child? hasBody) (fun here => ?_) _ _)
      refine ⟨(arrives here).housed.below (Node.mem_of_child? hasBody), ?_⟩
      exact (arrives here).housed.here.bodies (by rw [isConstant]; decide) body
        (Node.mem_childrenIn_of_child? hasBody)

/-! ## Methods -/

/-- What stands in a method belongs to it. -/
theorem goesMethod (arrives : sited → Arrives cursor) (isMethod : cursor.node.kind ∈ methodKinds)
    {method : String} (declares : declaredSignature? env cursor.node cursor.above = some method)
    {child : Node} (inside : child ∈ cursor.node.children) :
    Goes env sited (.within method) cursor child := by
  have kinds : ∀ kind ∈ methodKinds, kind ∉ hostKinds := by decide
  refine .ofHoused inside (fun here => (arrives here).housed) (fun _ => kinds _ isMethod)
    fun here outside => .within outside ?_
  simp [memberName?, placeOf, declares]

/-- The parameters of a method are filed with its signature and owner. -/
theorem declareParameters_run (arrives : sited → Arrives cursor) (isMethod : cursor.node.kind ∈ methodKinds)
    {name : Node} (named : cursor.node.child? "name" = some name) {method owner : String}
    (declares : declaredSignature? env cursor.node cursor.above = some method) (scope : Scope)
    (state : State) (filed : HoldsMethodAt env state.records name method owner) :
    Run env sited (.within method) (placeOf cursor)
      (names .parameter (parameterNames (cursor.node.child? "parameters"))) state
      (declareParameters env method owner
        (parameters env scope (cursor.node.child? "parameters")) state) := by
  rw [← parameters_names env scope]
  cases found : cursor.node.child? "parameters" with
  | none => exact .refl
  | some list =>
    have goes := goesMethod arrives isMethod declares (Node.mem_of_child? found)
    have kind (here : sited) : list.kind ∈ ["formal_parameters", "inferred_parameters", "identifier"] :=
      (arrives here).housed.here.parameters list (Node.mem_childrenIn_of_child? found)
    have kinds : ∀ kind ∈ ["formal_parameters", "inferred_parameters", "identifier"],
        kind ∉ guardedKinds ∧ kind ∉ methodKinds := by decide
    have ordinary : Ordinary sited (cursor.down list) :=
      ⟨goes.arrives, fun here => (kinds _ (kind here)).1⟩
    have nearest (here : sited) :
        methodAbove? (placeOf (cursor.down list)) = some (cursor.node, cursor.above) := by
      have passed : methodAbove? (placeOf (cursor.down list)) = methodAbove? (placeOf cursor) :=
        if_neg (kinds _ (kind here)).2
      exact passed.trans (if_pos isMethod)
    refine goes.run (Run.parameters (cursor.down list)
      (fun state => HoldsMethodAt env state.records name method owner) (.inr ⟨rfl, ordinary⟩) scope
      (fun parameter above state same filed => ⟨?_, ?_⟩) state filed)
    · refine Run.followed (.declaration (.parameter (env.text parameter.name) parameter.typeName method
        owner (Span.ofNode env.source parameter.name)) rfl rfl rfl fun here => ?_) (.declare _ _)
      exact ⟨cursor.node, cursor.above, name, same.trans (nearest here), named, declares, filed⟩
    · obtain ⟨parameterTypes, returnType, member⟩ := filed
      exact ⟨parameterTypes, returnType, List.mem_cons_of_mem _ member⟩

/-- **A method** is recorded, and its parameters and its body are walked inside it. -/
theorem visitMethod_run (runs : Runs env sited walker below) (arrives : sited → Arrives cursor)
    (isMethod : cursor.node.kind ∈ ["method_declaration", "constructor_declaration"]) (state : State) :
    Run env sited .around (placeOf cursor) (methodMarks below cursor.node) state
      (visitMethod env walker cursor state) := by
  have kinds : ∀ kind ∈ ["method_declaration", "constructor_declaration"], kind ∈ methodKinds ∧
      kind ≠ "compact_constructor_declaration" := by decide
  obtain ⟨kind, notCompact⟩ := kinds _ isMethod
  unfold visitMethod methodMarks
  cases named : cursor.node.child? "name" with
  | none => exact .refl
  | some name =>
    have declares : declaredSignature? env cursor.node cursor.above = some (signature (env.text name)
        (parameters env state.scope (cursor.node.child? "parameters"))) := by
      rw [declaredSignature?, if_pos kind, named, Option.map_some, if_neg notCompact,
        signature_parameters env {} state.scope]
    have goes : ∀ body ∈ cursor.node.child? "body", Goes env sited (.within _) cursor body :=
      fun _ found => goesMethod arrives kind declares (Node.mem_of_child? found)
    have filed : ∀ method parameterTypes returnType, Run env sited .around (placeOf cursor) _ state _ :=
      fun method parameterTypes returnType =>
        .fileMethod (Node.mem_of_child? named) method parameterTypes returnType state.owner state
    refine (filed _ _ _).trans (.inMethod ?_ (.inBlock
      ((declareParameters_run arrives kind named declares state.scope _ ?_).trans
        (runs.visit? goes _))))
    · exact .inr (.inr ⟨_, _, _, _, List.mem_cons_self⟩)
    · exact ⟨_, _, List.mem_cons_self⟩

/-- Components that a compact constructor binds again are not filed again. -/
theorem declareComponents_run {place : List Node} (components : List Parameter) (state : State) :
    Run env sited mode place [] state (declareComponents env components state) := by
  induction components generalizing state with
  | nil => exact .refl
  | cons component components ih => exact Run.behind (.declare _ _) (ih _)

/-- A compact constructor is recorded under the signature of its record, and its body is walked inside
it. -/
theorem visitCompactConstructor_run (runs : Runs env sited walker below)
    (arrives : sited → Arrives cursor) (isCompact : cursor.node.kind = "compact_constructor_declaration")
    (state : State) :
    Run env sited .around (placeOf cursor) (compactMarks below cursor.node) state
      (visitCompactConstructor env walker cursor state) := by
  have kind : cursor.node.kind ∈ methodKinds := by rw [isCompact]; decide
  unfold visitCompactConstructor compactMarks
  cases named : cursor.node.child? "name" with
  | none => exact .refl
  | some name =>
    have declares : declaredSignature? env cursor.node cursor.above = some (signature (env.text name)
        (componentsOf env state.scope cursor.grandparent?)) := by
      rw [declaredSignature?, if_pos kind, named, Option.map_some, if_pos isCompact,
        signature_components env {} state.scope]
      rfl
    have goes : ∀ body ∈ cursor.node.child? "body", Goes env sited (.within _) cursor body :=
      fun _ found => goesMethod arrives kind declares (Node.mem_of_child? found)
    have filed : ∀ method parameterTypes, Run env sited .around (placeOf cursor) _ state _ :=
      fun method parameterTypes =>
        .fileMethod (Node.mem_of_child? named) method parameterTypes none state.owner state
    refine (filed _ _).trans (.inMethod ?_ (.inBlock
      ((declareComponents_run _ _).behind (runs.visit? goes _))))
    exact .inr (.inr ⟨_, _, _, _, List.mem_cons_self⟩)

end SymbolIndex.Walk
