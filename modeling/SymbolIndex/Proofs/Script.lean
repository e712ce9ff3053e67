import SymbolIndex.Proofs.Run.Declaration

/-!
# What a construct asks of a walk

What a walk does at a node is the same whatever the names there resolve to: it goes on with parts of the
node, binds names, and opens and closes blocks and class bodies, in an order that the tree decides. A
`Script` writes this down for a single node, with `visit` and `denote` for what lies below. It says less
than the walk, as types, filings and notes are left out, and more than the outline, as it has the nesting.

`visitNode_does` and `denoteNode_does` say that a walk keeps to its scripts. They hold of every walker, so a
script lists every node that the walk goes on with: a walker may change the state as it likes wherever it is
asked, and nothing but the script accounts for it. What is wanted of scopes is then proved for scripts, one
case for each thing that a script can say, and not once more for every construct.
-/

namespace SymbolIndex

/-- A frame as it is when a class is entered, up to its members and the classes named in it. -/
structure Frame.Bare (frame : Frame) : Prop where
  method : frame.method = none
  blocks : frame.blocks = []
  anonymous : frame.anonymous = 0

namespace Walk

open SymbolIndex.Tree (Node Cursor)

/-! ## Scripts -/

/-- How a class comes by its path. -/
inductive Naming where
  | declared (name : Node)
  | anonymous

/-- What a walk does at a node. -/
inductive Script where
  | skip
  | seq (first second : Script)
  /-- The node itself is visited. -/
  | visit
  /-- The node itself is followed as an expression. -/
  | denote (recording : Bool)
  | bind (name : Node)
  /-- What is done at a node below. -/
  | under (child : Node) (inner : Script)
  /-- What is done in a block of its own. -/
  | block (inner : Script)
  /-- What is done as part of a method or an initialiser. -/
  | member (inner : Script)
  /-- What is done in the body of a class. -/
  | body (naming : Naming) (inner : Script)

namespace Script

variable {α : Type}

/-- The same for each of some items, one after another. -/
def each (script : α → Script) : List α → Script
  | [] => .skip
  | item :: items => .seq (script item) (each script items)

/-- What is done with an item that may be there. -/
def optional (script : α → Script) : Option α → Script
  | none => .skip
  | some item => script item

/-- What is done while recording. -/
def recorded (recording : Bool) (script : Script) : Script :=
  if recording then script else .skip

end Script

/-- Nodes below are visited. -/
def visitEach (nodes : List Node) : Script :=
  .each (fun child => .under child .visit) nodes

/-- A node below that may be there is visited. -/
def visitOptional (node : Option Node) : Script :=
  .optional (fun child => .under child .visit) node

/-- A node below that may be there is followed as an expression. -/
def denoteOptional (recording : Bool) (node : Option Node) : Script :=
  .optional (fun child => .under child (.denote recording)) node

/-- Names are bound. -/
def bindEach (names : List Node) : Script :=
  .each .bind names

/-- A class with a body that may be there. -/
def bodyScript (naming : Naming) (body : Option Node) : Script :=
  .body naming (.optional (fun body => .under body (visitEach body.named)) body)

/-- The creation of an object. -/
def creationScript (node : Node) : Script :=
  .seq (visitEach (creationParts node))
    (.optional (fun body => bodyScript .anonymous (some body)) (creationBody? node))

/-- One declarator of a field declaration. -/
def fieldScript (declarator : Node) : Script :=
  match declarator.child? "name" with
  | none => .skip
  | some _ =>
    .under declarator
      (.optional (fun value => .member (.under value .visit)) (declarator.child? "value"))

/-- A constant of an enum. -/
def constantScript (node : Node) : Script :=
  match node.child? "name" with
  | none => .skip
  | some _ =>
    .seq (.optional (fun list => .member (.under list .visit)) (node.child? "arguments"))
      (.optional (fun body => bodyScript .anonymous (some body)) (node.child? "body"))

/-- A method or a constructor with the names it binds. -/
def methodScript (names : List Node) (node : Node) : Script :=
  match node.child? "name" with
  | none => .skip
  | some _ => .member (.block (.seq (bindEach names) (visitOptional (node.child? "body"))))

/-- A child of a `catch` clause. -/
def caughtScript (child : Node) : Script :=
  if child.kind == "catch_formal_parameter" then bindEach (child.child? "name").toList
  else .under child .visit

/-- An `instanceof`. -/
def instanceofScript (node : Node) : Script :=
  match node.child? "name" with
  | none => visitEach node.named
  | some name => .seq (visitOptional (node.child? "left")) (.bind name)

/-- A bare name. -/
def nameScript (cursor : Cursor) : Script :=
  match cursor.parent? with
  | none => .skip
  | some parent =>
    if holdsNoExpression parent.kind || isKeyOf parent cursor.node then .skip else .denote true

/-- A dotted access. In front of `this` the object is only typed. -/
def accessScript (recording : Bool) (node : Node) : Script :=
  match node.child? "object", node.child? "field" with
  | some object, some field =>
    .under object (.denote (if field.kind == "this" then false else recording))
  | _, _ => .skip

/-- A method call. -/
def callScript (recording : Bool) (node : Node) : Script :=
  match node.child? "name" with
  | none => .skip
  | some _ =>
    .seq (denoteOptional recording (node.child? "object"))
      (.recorded recording (visitOptional (node.child? "arguments")))

/-- A method reference. A type on its left side is not followed. -/
def referenceScript (recording : Bool) (node : Node) : Script :=
  match node.named with
  | [] => .skip
  | qualifier :: _ =>
    if Tree.isTypeKind qualifier.kind then .skip else .under qualifier (.denote recording)

/-- An element of an array. -/
def elementScript (recording : Bool) (node : Node) : Script :=
  match node.child? "array" with
  | none => .skip
  | some array =>
    .seq (.under array (.denote recording))
      (.recorded recording (visitOptional (node.child? "index")))

section Scripts

variable (env : Env)

/-- A variable behind its value. For a type that is inferred the value is followed once more. -/
def variableScript (type : Option Node) (node : Node) : Script :=
  match node.child? "name" with
  | none => .skip
  | some name =>
    .seq (.optional
        (fun value => .under value (if isInferred env type then .seq .visit (.denote false) else .visit))
        (node.child? "value"))
      (.bind name)

/-- A resource of a `try`: a named one, or an expression. -/
def resourceScript (node : Node) : Script :=
  if (node.child? "name").isSome then variableScript env (node.child? "type") node
  else visitEach node.named

/-- A child of a `try` with resources. -/
def tryScript (child : Node) : Script :=
  if child.kind == "resource_specification" then
    .under child (.each (fun resource => .under resource (resourceScript env resource)) child.named)
  else .under child .visit

/-- What a visit does at a node. -/
def visitScript (cursor : Cursor) : Script :=
  let node := cursor.node
  match Construct.ofKind cursor.kind with
  | .skipped => .skip
  | .type => .optional (fun name => bodyScript (.declared name) (node.child? "body")) (node.child? "name")
  | .fields => .each fieldScript (node.childrenIn "declarator")
  | .method => methodScript (parameterNames (node.child? "parameters")) node
  | .compactConstructor => methodScript ((cursor.grandparent?.map componentNames).getD []) node
  | .enumConstant => constantScript node
  | .staticInitializer => .member (visitEach node.named)
  | .block =>
    if cursor.parent?.map (·.kind) == some "class_body" then .member (.block (visitEach node.named))
    else .block (visitEach node.named)
  | .blockLike => .block (visitEach node.named)
  | .locals =>
    .each (fun declarator => .under declarator (variableScript env (node.child? "type") declarator))
      (node.childrenIn "declarator")
  | .loop =>
    .block (.seq (variableScript env (node.child? "type") node) (visitOptional (node.child? "body")))
  | .catchClause => .block (.each caughtScript node.named)
  | .resources => .block (.each (tryScript env) node.named)
  | .instanceof => instanceofScript node
  | .pattern => bindEach (patternNames node)
  | .lambda => .block (.seq (bindEach (lambdaNames node)) (visitOptional (node.child? "body")))
  | .creation => creationScript node
  | .access => .denote true
  | .name => nameScript cursor
  | .other => visitEach node.named

/-- What is done to find out what an expression denotes. -/
def denoteScript (cursor : Cursor) (recording : Bool) : Script :=
  let node := cursor.node
  match ExprForm.ofKind cursor.kind with
  | .name | .this | .super | .text | .classLiteral => .skip
  | .field => accessScript recording node
  | .call => callScript recording node
  | .reference => referenceScript recording node
  | .parenthesized => denoteOptional recording node.named.head?
  | .element => elementScript recording node
  | .cast => .recorded recording (visitOptional (node.child? "value"))
  | .creation => .recorded recording (creationScript node)
  | .arrayCreation => .recorded recording (visitEach node.named)
  | .other => .recorded recording .visit

end Scripts

/-! ## What a script does -/

/-- The path of a class that is entered in a scope. -/
def Naming.path (env : Env) (scope : Scope) : Naming → String
  | .declared name => declaredPath env scope (env.text name)
  | .anonymous => scope.anonymousPath

/-- The frame around a class that is entered under a path: there a declared class is named, and an
anonymous one counted. -/
def Naming.mark (env : Env) (path : String) (naming : Naming) (frame : Frame) : Frame :=
  match naming with
  | .declared name => { frame with nested := frame.nested.insert (env.text name) path }
  | .anonymous => { frame with anonymous := frame.anonymous + 1 }

/-- The scope around a class that is entered under a path. -/
def Naming.note (env : Env) (path : String) (naming : Naming) (scope : Scope) : Scope :=
  scope.modifyFrame (naming.mark env path)

/-- The scope in which the body of a class is walked. -/
def Naming.opened (env : Env) (frame : Frame) (naming : Naming) (scope : Scope) : Scope :=
  let noted := naming.note env frame.path scope
  { noted with frames := frame :: noted.frames }

/-- Nothing that matters to scopes changes. -/
structure Quiet (first last : State) : Prop where
  scope : last.scope = first.scope
  tooDeep : last.tooDeep = first.tooDeep

/-- What is done to the state by a script at a place, with a walker for what lies below. -/
inductive Does (env : Env) (walker : Walker) : Cursor → Script → State → State → Prop
  | skip {cursor : Cursor} {state : State} : Does env walker cursor .skip state state
  | seq {cursor : Cursor} {script script' : Script} {first middle last : State}
      (does : Does env walker cursor script first middle)
      (rest : Does env walker cursor script' middle last) :
      Does env walker cursor (.seq script script') first last
  | visit {cursor : Cursor} {state : State} :
      Does env walker cursor .visit state (walker.visit cursor state)
  | denote {cursor : Cursor} {state : State} (recording : Bool) :
      Does env walker cursor (.denote recording) state (walker.denote cursor recording state).2
  | bind {cursor : Cursor} {state : State} {name : Node} (type : Option JavaType) :
      Does env walker cursor (.bind name) state (state.declare env name type)
  | under {cursor : Cursor} {child : Node} {script : Script} {first last : State}
      (inner : Does env walker (cursor.down child) script first last) :
      Does env walker cursor (.under child script) first last
  | block {cursor : Cursor} {script : Script} {first last : State}
      (inner : Does env walker cursor script (first.withScope Scope.pushBlock) last) :
      Does env walker cursor (.block script) first (last.withScope Scope.popBlock)
  | member {cursor : Cursor} {script : Script} {first last : State} {method : String}
      (inner : Does env walker cursor script (first.withScope (·.setMethod (some method))) last) :
      Does env walker cursor (.member script) first (last.withScope (·.setMethod first.scope.method?))
  | body {cursor : Cursor} {naming : Naming} {script : Script} {first last : State} {frame : Frame}
      (named : frame.path = naming.path env first.scope) (bare : frame.Bare)
      (inner : Does env walker cursor script (first.withScope (naming.opened env frame)) last) :
      Does env walker cursor (.body naming script) first (last.withScope Scope.popFrame)
  | behind {cursor : Cursor} {script : Script} {first middle last : State} (quiet : Quiet first middle)
      (does : Does env walker cursor script middle last) : Does env walker cursor script first last
  | followed {cursor : Cursor} {script : Script} {first middle last : State}
      (does : Does env walker cursor script first middle) (quiet : Quiet middle last) :
      Does env walker cursor script first last

variable {env : Env} {walker : Walker} {cursor : Cursor}

namespace Quiet

/-- Filing changes the table only. -/
theorem file (state : State) (key : String) (occurrence : Occurrence) :
    Quiet state (state.file key occurrence) := ⟨rfl, rfl⟩

/-- Filing a local is quiet too; declaring it is a step of its own. -/
theorem fileLocal (state : State) (name : Node) (typeName : Option String) :
    Quiet state (state.fileLocal env name typeName) := ⟨rfl, rfl⟩

/-- A note of a failure changes neither scope nor limit. -/
theorem note (state : State) (node : Node) (cause : Unresolved) :
    Quiet state (state.note env node cause) := ⟨rfl, rfl⟩

/-- Noting a reference changes neither scope nor limit. -/
theorem noteReference (recording : Bool) (name : Node) (kind : MemberKind) (declaring : String)
    (state : State) : Quiet state (noteReference env recording name kind declaring state) := by
  unfold Walk.noteReference State.fileReference
  split
  · split <;> exact ⟨rfl, rfl⟩
  · exact ⟨rfl, rfl⟩

theorem fileComponents (components : List Parameter) (state : State) :
    Quiet state (fileComponents env components state) := by
  induction components generalizing state with
  | nil => exact ⟨rfl, rfl⟩
  | cons component components ih =>
    have rest := ih (state.file (env.text component.name) (.field (env.text component.name)
      component.typeName state.owner (Span.ofNode env.source component.name)))
    exact ⟨rest.scope, rest.tooDeep⟩

end Quiet

namespace Does

variable {α : Type} {first last : State}

/-- What does nothing that matters to scopes. -/
theorem quietly (quiet : Quiet first last) : Does env walker cursor .skip first last :=
  .behind quiet .skip

/-- A list of steps does the scripts of its items, one after the other. -/
theorem each {step : State → α → State} {script : α → Script} (items : List α)
    (does : ∀ item ∈ items, ∀ state, Does env walker cursor (script item) state (step state item))
    (state : State) : Does env walker cursor (.each script items) state (items.foldl step state) := by
  induction items generalizing state with
  | nil => exact .skip
  | cons item items ih =>
    refine .seq (does item List.mem_cons_self state) (ih ?_ _)
    exact fun other member => does other (List.mem_cons_of_mem _ member)

/-- Visiting a list of children does a visit of each. -/
theorem visitAll (nodes : List Node) (state : State) :
    Does env walker cursor (visitEach nodes) state
      (walker.visitAll (nodes.map cursor.down) state) := by
  unfold Walker.visitAll
  rw [List.foldl_map]
  exact each nodes (fun _ _ _ => .under .visit) state

/-- Visiting the children of a node visits each of its named children. -/
theorem visitChildren (state : State) :
    Does env walker cursor (visitEach cursor.node.named) state (walker.visitChildren cursor state) :=
  visitAll cursor.node.named state

theorem visit? (node : Option Node) (state : State) :
    Does env walker cursor (visitOptional node) state
      (walker.visit? (node.map cursor.down) state) := by
  cases node with
  | none => exact .skip
  | some child => exact .under .visit

/-- What is done as part of a method. -/
theorem inMethod {script : Script} {step : State → State} (method : String)
    (does : ∀ state, Does env walker cursor script state (step state)) (state : State) :
    Does env walker cursor (.member script) state (inMethod method step state) :=
  .member (does _)

/-- What is done in a block. -/
theorem inBlock {script : Script} {step : State → State}
    (does : ∀ state, Does env walker cursor script state (step state)) (state : State) :
    Does env walker cursor (.block script) state (inBlock step state) :=
  .block (does _)

/-- A part is visited inside a method of its own. -/
theorem visitWithin (method : String) (node : Option Node) (state : State) :
    Does env walker cursor (.optional (fun child => .member (.under child .visit)) node) state
      (walker.visitWithin method (node.map cursor.down) state) := by
  cases node with
  | none => exact .skip
  | some child => exact inMethod method (fun _ => .under .visit) state

/-- A part that is visited for its references is left out unless they are recorded. -/
theorem visitRecording (recording : Bool) (node : Option Node) (state : State) :
    Does env walker cursor (.recorded recording (visitOptional node)) state
      (visitRecording walker recording (node.map cursor.down) state) := by
  cases recording with
  | false => exact .skip
  | true => exact visit? node state

end Does

/-! ## Declarations -/

/-- Parameters are declared one after another. -/
theorem declared_does {step : State → Parameter → State} (parameters : List Parameter)
    (does : ∀ parameter state,
      Does env walker cursor (.bind parameter.name) state (step state parameter)) (state : State) :
    Does env walker cursor (bindEach (parameters.map (·.name))) state
      (parameters.foldl step state) := by
  induction parameters generalizing state with
  | nil => exact .skip
  | cons parameter parameters ih => exact .seq (does parameter state) (ih _)

/-- The name of a member that is a class. -/
def memberClass? (env : Env) (member : Node) : Option String :=
  if declaresType member.kind then (member.child? "name").map env.text else none

/-- The names of the classes among the members of a class. -/
def memberClasses (env : Env) (members : List Node) : List String :=
  members.filterMap (memberClass? env)

/-- Making a member class known changes the innermost frame's table of nested classes, and nothing else
there. -/
theorem nameMember_bare {scope : Scope} {frame : Frame} {frames : List Frame}
    (innermost : scope.frames = frame :: frames) (bare : frame.Bare) (env : Env) (member : Node) :
    ∃ named : Frame, named.path = frame.path ∧ named.Bare ∧
      (∀ name, named.nested.find? name = if memberClass? env member = some name
        then some (frame.path ++ "$" ++ name) else frame.nested.find? name) ∧
      nameMember env scope member = { scope with frames := named :: frames } := by
  have unchanged : scope = { scope with frames := frame :: frames } := by rw [← innermost]
  unfold nameMember memberClass?
  cases member.child? "name" with
  | none => exact ⟨frame, rfl, bare, by simp, unchanged⟩
  | some name =>
    by_cases declares : declaresType member.kind = true
    · simp only [declares, if_true]
      refine ⟨_, ?_, ?_, ?_, by rw [Scope.modifyFrame, innermost]⟩
      · rfl
      · exact ⟨bare.method, bare.blocks, bare.anonymous⟩
      · intro other
        rw [Bindings.find?_insert]
        by_cases same : env.text name = other
        · simp [same]
        · simp [same]
    · simp only [declares]
      exact ⟨frame, rfl, bare, by simp, unchanged⟩

/-- The member classes are named in a bare frame, which stays bare otherwise. -/
theorem nameMembers_bare {frames : List Frame} (env : Env) (members : List Node) {scope : Scope}
    {frame : Frame} (innermost : scope.frames = frame :: frames) (bare : frame.Bare) :
    ∃ named : Frame, named.path = frame.path ∧ named.Bare ∧
      (∀ name, named.nested.find? name = if name ∈ memberClasses env members
        then some (frame.path ++ "$" ++ name) else frame.nested.find? name) ∧
      members.foldl (nameMember env) scope = { scope with frames := named :: frames } := by
  induction members generalizing scope frame with
  | nil => exact ⟨frame, rfl, bare, fun _ => rfl, by rw [List.foldl_nil, ← innermost]⟩
  | cons member members ih =>
    obtain ⟨next, samePath, bare', names, same⟩ := nameMember_bare innermost bare env member
    have innermost' : (nameMember env scope member).frames = next :: frames := by rw [same]
    obtain ⟨final, samePath', bare'', names', same'⟩ := ih innermost' bare'
    refine ⟨final, samePath'.trans samePath, bare'', fun name => ?_, ?_⟩
    · have split : name ∈ memberClasses env (member :: members) ↔
          name ∈ memberClasses env members ∨ memberClass? env member = some name := by
        simp [memberClasses, or_comm]
      rw [names', names, samePath]
      by_cases behind : name ∈ memberClasses env members
      · rw [if_pos behind, if_pos (split.mpr (.inl behind))]
      · rw [if_neg behind]
        simp only [split, behind, false_or]
    · rw [List.foldl_cons, same', same]

/-- A class is entered with a bare frame, in which its member classes are named. -/
theorem openBody_bare (env : Env) (declaration : Option Node) (path : String) (body : Option Node)
    (hint : Option String) (state : State) :
    ∃ frame : Frame, frame.path = path ∧ frame.Bare ∧
      (∀ name ∈ memberClasses env ((body.map bodyMembers).getD []),
        frame.nested.find? name = some (path ++ "$" ++ name)) ∧
      openBody env declaration path body hint state =
        state.withScope fun scope => { scope with frames := frame :: scope.frames } := by
  have innermost : (state.scope.pushFrame path).frames = { path } :: state.scope.frames := rfl
  obtain ⟨frame, isPath, bare, names, same⟩ := nameMembers_bare env ((body.map bodyMembers).getD [])
    innermost ⟨rfl, rfl, rfl⟩
  unfold openBody
  simp only [same, Scope.modifyFrame]
  generalize sourceType env _ path declaration _ hint = members
  refine ⟨{ frame with members }, isPath, ⟨bare.method, bare.blocks, bare.anonymous⟩, ?_, rfl⟩
  exact fun name member => (names name).trans (if_pos member)

/-- **The inside of a class** does the script of its body: a frame is opened, the body is walked, the
frame is closed and its class kept as finished. -/
theorem enterType_does (naming : Naming) (declaration : Option Node) (body : Option Node)
    (hint : Option String) (state : State) :
    Does env walker cursor (bodyScript naming body) state
      (enterType env walker declaration (naming.path env state.scope) (body.map cursor.down) hint
        (state.withScope (naming.note env (naming.path env state.scope)))) := by
  unfold enterType
  obtain ⟨frame, isPath, bare, -, opened⟩ := openBody_bare env declaration (naming.path env state.scope)
    ((body.map cursor.down).map (·.node)) hint
    (state.withScope (naming.note env (naming.path env state.scope)))
  have members (state : State) :
      Does env walker cursor (.optional (fun body => .under body (visitEach body.named)) body) state
        (walker.visitChildren? (body.map cursor.down) state) := by
    cases body with
    | none => exact .skip
    | some child => exact .under (Does.visitChildren state)
  simp only [opened]
  rw [← isPath]
  exact .body isPath bare (.behind (Quiet.fileComponents _ _) (members _))

/-- The body of an anonymous class is entered under the next number. -/
theorem enterAnonymous_does (body : Node) (hint : Option String) (state : State) :
    Does env walker cursor (bodyScript .anonymous (some body)) state
      (enterAnonymous env walker (cursor.down body) hint state) :=
  enterType_does .anonymous none (some body) hint state

/-- A class declaration with a name enters its body. -/
theorem visitType_does (state : State) :
    Does env walker cursor (.optional (fun name => bodyScript (.declared name) (cursor.node.child? "body"))
        (cursor.node.child? "name")) state
      (visitType env walker cursor state) := by
  unfold visitType
  cases cursor.node.child? "name" with
  | none => exact .skip
  | some name => exact enterType_does (.declared name) (some cursor.node) _ none state

/-- A declarator of a field walks its value as a member. -/
theorem visitField_does (baseText method : String) (declarator : Node) (state : State) :
    Does env walker cursor (fieldScript declarator) state
      (visitField env walker baseText method state (cursor.down declarator)) := by
  unfold visitField fieldScript
  cases named : (cursor.down declarator).node.child? "name" with
  | none =>
    have absent : declarator.child? "name" = none := named
    simp only [absent]
    exact .skip
  | some name =>
    have present : declarator.child? "name" = some name := named
    simp only [present]
    exact .under (.behind (Quiet.file _ _ _) (Does.visitWithin method _ _))

theorem visitFields_does (state : State) :
    Does env walker cursor (.each fieldScript (cursor.node.childrenIn "declarator")) state
      (visitFields env walker cursor state) := by
  simp only [visitFields, Cursor.childrenIn, List.foldl_map]
  exact Does.each _ (fun declarator _ state => visitField_does _ _ declarator state) state

/-- An enum constant walks its arguments and enters its body. -/
theorem visitEnumConstant_does (state : State) :
    Does env walker cursor (constantScript cursor.node) state
      (visitEnumConstant env walker cursor state) := by
  unfold visitEnumConstant constantScript
  cases cursor.node.child? "name" with
  | none => exact .skip
  | some name =>
    simp only [Cursor.child?]
    cases cursor.node.child? "body" with
    | none => exact .behind (Quiet.file _ _ _) (.seq (Does.visitWithin classInit _ _) .skip)
    | some body =>
      exact .behind (Quiet.file _ _ _)
        (.seq (Does.visitWithin classInit _ _) (enterAnonymous_does body _ _))

/-- A method binds its parameters in a block of its own and walks its body there. -/
theorem visitMethod_does (state : State) :
    Does env walker cursor (methodScript (parameterNames (cursor.node.child? "parameters")) cursor.node)
      state (visitMethod env walker cursor state) := by
  unfold visitMethod methodScript
  cases cursor.node.child? "name" with
  | none => exact .skip
  | some name =>
    refine .behind (Quiet.file _ _ _) (Does.inMethod _ (Does.inBlock fun state' => ?_) _)
    rw [← parameters_names env state.scope]
    refine .seq (declared_does _ (fun parameter state => ?_) _) (Does.visit? _ _)
    exact .behind (Quiet.file _ _ _) (.bind _)

/-- A compact constructor binds the components of its record in the same way. -/
theorem visitCompactConstructor_does (state : State) :
    Does env walker cursor
      (methodScript ((cursor.grandparent?.map componentNames).getD []) cursor.node) state
      (visitCompactConstructor env walker cursor state) := by
  unfold visitCompactConstructor methodScript
  cases cursor.node.child? "name" with
  | none => exact .skip
  | some name =>
    refine .behind (Quiet.file _ _ _) (Does.inMethod _ (Does.inBlock fun state' => ?_) _)
    have names : (cursor.grandparent?.map componentNames).getD [] =
        (componentsOf env state.scope cursor.grandparent?).map (·.name) := by
      cases cursor.grandparent? with
      | none => rfl
      | some record => exact (componentsOf_names env state.scope record).symm
    rw [names]
    exact .seq (declared_does _ (fun parameter state => .bind _) _) (Does.visit? _ _)

/-! ## Expressions -/

/-- Looking up a name is quiet. -/
theorem denoteName_quiet (node : Node) (recording : Bool) (state : State) :
    Quiet state (denoteName env node recording state).2 := by
  unfold denoteName
  simp only
  split
  · exact ⟨rfl, rfl⟩
  · exact Quiet.noteReference ..
  · split
    · exact Quiet.noteReference ..
    · split <;> exact ⟨rfl, rfl⟩

/-- Looking up a member on a type is quiet. -/
theorem denoteMember_quiet (path : String) (name : Node) (kind : MemberKind) (recording : Bool)
    (state : State) : Quiet state (denoteMember env path name kind recording state).2 := by
  unfold denoteMember
  split
  · exact Quiet.noteReference ..
  · exact ⟨rfl, rfl⟩

theorem fieldOn_quiet (object field : Node) (recording : Bool) (referent : Referent) (state : State) :
    Quiet state (fieldOn env object field recording referent state).2 := by
  unfold fieldOn
  cases referent with
  | name dotted => simp only; split <;> exact ⟨rfl, rfl⟩
  | type path =>
    simp only
    split
    · exact ⟨rfl, rfl⟩
    · exact denoteMember_quiet ..
  | value type =>
    cases type with
    | reference path => exact denoteMember_quiet ..
    | array element => simp only; split <;> exact ⟨rfl, rfl⟩
    | primitive kind => exact ⟨rfl, rfl⟩
  | unknown => exact ⟨rfl, rfl⟩

theorem methodOn_quiet (object name : Node) (recording : Bool) (referent : Referent) (state : State) :
    Quiet state (methodOn env object name recording referent state).2 := by
  unfold methodOn
  cases referent with
  | type path => exact denoteMember_quiet ..
  | value type =>
    cases type with
    | reference path => exact denoteMember_quiet ..
    | array element => exact ⟨rfl, rfl⟩
    | primitive kind => exact ⟨rfl, rfl⟩
  | name dotted => exact ⟨rfl, rfl⟩
  | unknown => exact ⟨rfl, rfl⟩

theorem referredMethod_quiet (qualifier name : Node) (recording : Bool) (referent : Referent)
    (state : State) : Quiet state (referredMethod env qualifier name recording referent state).2 := by
  unfold referredMethod
  split
  · exact ⟨rfl, rfl⟩
  · rename_i referent _
    have quiet : Quiet state (methodOn env qualifier name recording referent state).2 :=
      methodOn_quiet ..
    split <;> simp_all

/-- A node below is followed as an expression. -/
theorem denoteBelow_does (env : Env) (walker : Walker) (cursor : Cursor) (child : Node)
    (recording : Bool) (state : State) :
    Does env walker cursor (.under child (.denote recording)) state
      (walker.denote (cursor.down child) recording state).2 :=
  .under (.denote recording)

/-- A field access denotes its object first. -/
theorem denoteField_does (recording : Bool) (state : State) :
    Does env walker cursor (accessScript recording cursor.node) state
      (denoteField env walker cursor recording state).2 := by
  unfold denoteField accessScript
  simp only [Cursor.child?]
  cases cursor.node.child? "object" with
  | none => exact .skip
  | some object =>
    cases cursor.node.child? "field" with
    | none => exact .skip
    | some field =>
      simp only [Option.map_some]
      by_cases isThis : (field.kind == "this") = true
      · rw [if_pos isThis, if_pos isThis]
        exact denoteBelow_does env walker cursor object false state
      · rw [if_neg isThis, if_neg isThis]
        have does := denoteBelow_does env walker cursor object recording state
        split
        · rename_i found
          rw [found] at does
          exact .followed does (fieldOn_quiet ..)
        · rename_i found
          rw [found] at does
          exact does

/-- A call denotes its object first, if it has one. -/
theorem denoteCallee_does (name : Node) (recording : Bool) (state : State) :
    Does env walker cursor (denoteOptional recording (cursor.node.child? "object")) state
      (denoteCallee env walker (cursor.child? "object") name recording state).2 := by
  rw [Cursor.child?]
  cases cursor.node.child? "object" with
  | none =>
    simp only [Option.map_none, denoteCallee]
    split
    · exact Does.quietly (Quiet.noteReference ..)
    · exact .skip
  | some object =>
    have does := denoteBelow_does env walker cursor object recording state
    simp only [Option.map_some, denoteCallee]
    split
    · rename_i found
      rw [found] at does
      exact .followed does (methodOn_quiet ..)
    · rename_i found
      rw [found] at does
      exact does

/-- A call then walks its arguments. -/
theorem denoteCall_does (recording : Bool) (state : State) :
    Does env walker cursor (callScript recording cursor.node) state
      (denoteCall env walker cursor recording state).2 := by
  unfold denoteCall callScript
  cases cursor.node.child? "name" with
  | none => exact .skip
  | some name =>
    exact .seq (denoteCallee_does name recording state) (Does.visitRecording recording _ _)

/-- A type on the left of a method reference is only read; an expression is denoted. -/
theorem denoteQualifier_does (env : Env) (walker : Walker) (cursor : Cursor) (qualifier : Node)
    (recording : Bool) (state : State) :
    Does env walker cursor
      (if Tree.isTypeKind qualifier.kind then .skip else .under qualifier (.denote recording)) state
      (denoteQualifier env walker (cursor.down qualifier) recording state).2 := by
  unfold denoteQualifier
  by_cases isType : Tree.isTypeKind qualifier.kind = true
  · rw [if_pos isType]
    simp only [Cursor.kind, Cursor.down, isType, if_true]
    split <;> exact .skip
  · rw [if_neg isType]
    simp only [Cursor.kind, Cursor.down, isType]
    exact denoteBelow_does env walker cursor qualifier recording state

/-- A method reference denotes its left side. -/
theorem denoteReference_does (recording : Bool) (state : State) :
    Does env walker cursor (referenceScript recording cursor.node) state
      (denoteReference env walker cursor recording state).2 := by
  unfold denoteReference referenceScript
  simp only [Cursor.named]
  cases cursor.node.named with
  | nil => exact .skip
  | cons qualifier others =>
    have does := denoteQualifier_does env walker cursor qualifier recording state
    simp only [List.map_cons]
    generalize (if Tree.isTypeKind qualifier.kind then Script.skip
      else .under qualifier (.denote recording)) = script at does ⊢
    cases found : denoteQualifier env walker (cursor.down qualifier) recording state with
    | mk outcome after =>
      rw [found] at does
      cases outcome with
      | error cause => exact does
      | ok referent =>
        simp only
        split
        · split
          · exact does
          · exact .followed does (referredMethod_quiet ..)
        · exact does

/-- An element of an array denotes the array, then walks the index. -/
theorem denoteElement_does (recording : Bool) (state : State) :
    Does env walker cursor (elementScript recording cursor.node) state
      (denoteElement env walker cursor recording state).2 := by
  unfold elementScript
  cases hasArray : cursor.node.child? "array" with
  | none =>
    simp only [denoteElement, Cursor.child?, hasArray, Option.map_none]
    exact .skip
  | some array =>
    have isArray : cursor.child? "array" = some (cursor.down array) := by
      rw [Cursor.child?, hasArray]
      rfl
    rw [denoteElement_snd env walker cursor _ recording state isArray]
    exact .seq (denoteBelow_does env walker cursor array recording state)
      (Does.visitRecording recording _ _)

/-- A creation walks its parts and enters its body last. -/
theorem visitCreation_does (state : State) :
    Does env walker cursor (creationScript cursor.node) state
      (visitCreation env walker cursor state) := by
  unfold visitCreation creationScript
  refine .seq (Does.visitAll (creationParts cursor.node) state) ?_
  cases creationBody? cursor.node with
  | none => exact .skip
  | some body => exact enterAnonymous_does body _ _

/-- **An expression is followed as its script says.** -/
theorem denoteNode_does (env : Env) (walker : Walker) (cursor : Cursor) (recording : Bool)
    (state : State) :
    Does env walker cursor (denoteScript cursor recording) state
      (denoteNode env walker cursor recording state).2 := by
  unfold denoteNode denoteScript
  simp only
  cases ExprForm.ofKind cursor.kind with
  | name => exact Does.quietly (denoteName_quiet ..)
  | this => simp only; split <;> exact .skip
  | super => exact .skip
  | field => exact denoteField_does recording state
  | call => exact denoteCall_does recording state
  | reference => exact denoteReference_does recording state
  | parenthesized =>
    simp only [Cursor.named, List.head?_map]
    cases cursor.node.named.head? with
    | none => exact .skip
    | some inner => exact denoteBelow_does env walker cursor inner recording state
  | element => exact denoteElement_does recording state
  | cast => exact Does.visitRecording recording _ state
  | creation =>
    cases recording with
    | false => exact .skip
    | true => exact visitCreation_does state
  | arrayCreation =>
    cases recording with
    | false => exact .skip
    | true => exact Does.visitChildren state
  | text => exact .skip
  | classLiteral => exact .skip
  | other =>
    cases recording with
    | false => exact .skip
    | true => exact .visit

/-! ## Statements -/

/-- A block walks its statements in a block of the scope. Directly in a class body it is a member. -/
theorem visitBlock_does (state : State) :
    Does env walker cursor
      (if cursor.parent?.map (·.kind) == some "class_body" then
        .member (.block (visitEach cursor.node.named))
      else .block (visitEach cursor.node.named)) state (visitBlock walker cursor state) := by
  have inner : ∀ state, Does env walker cursor (.block (visitEach cursor.node.named)) state
      (inBlock (walker.visitChildren cursor) state) := Does.inBlock Does.visitChildren
  unfold visitBlock
  simp only
  split
  · exact Does.inMethod instanceInit inner state
  · exact inner state

/-- A variable is declared behind its value. -/
theorem declareBehind_does {name : Node} (value : Option Node) (type : Option Node)
    (ofValue : JavaType → Option JavaType) (written : Scope → Option JavaType) (state : State) :
    Does env walker cursor
      (.seq (.optional (fun value =>
          .under value (if isInferred env type then .seq .visit (.denote false) else .visit)) value)
        (.bind name)) state
      (declareBehind env walker name (value.map cursor.down) (isInferred env type) ofValue written
        state) := by
  unfold declareBehind
  cases isInferred env type with
  | false =>
    cases value with
    | none => exact .seq .skip (.bind _)
    | some value => exact .seq (.under .visit) (.bind _)
  | true =>
    cases value with
    | none => exact .seq .skip (.bind _)
    | some value =>
      simp only [Option.map_some, Walker.visit?, Walker.valueType?, if_true]
      refine .seq (.under (.seq .visit ?_)) (.bind _)
      rw [Walker.valueType_snd]
      exact .denote false

/-- A declarator of a local declaration walks its value and binds its name behind it. -/
theorem visitLocal_does (type : Option Node) (declared : Option JavaType) (declarator : Node)
    (state : State) :
    Does env walker cursor (.under declarator (variableScript env type declarator)) state
      (visitLocal env walker type declared state (cursor.down declarator)) := by
  unfold visitLocal variableScript
  refine .under ?_
  cases named : (cursor.down declarator).node.child? "name" with
  | none =>
    have absent : declarator.child? "name" = none := named
    simp only [absent]
    exact .skip
  | some name =>
    have present : declarator.child? "name" = some name := named
    simp only [present]
    exact .behind (Quiet.fileLocal _ _ _) (declareBehind_does _ type _ _ _)

/-- A local declaration binds the names of its declarators one after the other, in the block around it. -/
theorem visitLocals_does (state : State) :
    Does env walker cursor
      (.each (fun declarator => .under declarator
          (variableScript env (cursor.node.child? "type") declarator))
        (cursor.node.childrenIn "declarator")) state
      (visitLocals env walker cursor state) := by
  simp only [visitLocals, Cursor.childrenIn, List.foldl_map]
  exact Does.each _ (fun declarator _ state => visitLocal_does _ _ declarator state) state

/-- An enhanced `for` binds its variable in a block of its own. -/
theorem visitLoop_does (state : State) :
    Does env walker cursor
      (.block (.seq (variableScript env (cursor.node.child? "type") cursor.node)
        (visitOptional (cursor.node.child? "body")))) state
      (visitLoop env walker cursor state) := by
  refine Does.inBlock (fun state => .seq ?_ (Does.visit? _ _)) state
  unfold variableScript
  cases cursor.node.child? "name" with
  | none => exact .skip
  | some name =>
    unfold visitLoopVariable
    exact .behind (Quiet.fileLocal _ _ _) (declareBehind_does _ _ _ _ _)

/-- A `catch` clause binds the name of its parameter. -/
theorem declareCaught_does (parameter : Node) (state : State) :
    Does env walker cursor (bindEach (parameter.child? "name").toList) state
      (declareCaught env parameter state) := by
  unfold declareCaught
  cases parameter.child? "name" with
  | none => exact .skip
  | some name => exact .seq (.behind (Quiet.fileLocal _ _ _) (.bind _)) .skip

theorem visitCatch_does (state : State) :
    Does env walker cursor (.block (.each caughtScript cursor.node.named)) state
      (visitCatch env walker cursor state) := by
  refine Does.inBlock (fun state => ?_) state
  simp only [Cursor.named, List.foldl_map]
  refine Does.each _ (fun child _ state => ?_) state
  unfold caughtScript Cursor.kind Cursor.down
  split
  · exact declareCaught_does child state
  · exact .under .visit

theorem visitResource_does (resource : Node) (state : State) :
    Does env walker cursor (.under resource (resourceScript env resource)) state
      (visitResource env walker state (cursor.down resource)) := by
  refine .under ?_
  unfold visitResource resourceScript variableScript
  cases named : (cursor.down resource).node.child? "name" with
  | none =>
    have absent : resource.child? "name" = none := named
    simp only [absent]
    exact Does.visitChildren state
  | some name =>
    have present : resource.child? "name" = some name := named
    simp only [present]
    exact .behind (Quiet.fileLocal _ _ _) (declareBehind_does _ _ _ _ _)

/-- A `try` with resources binds them in a block that holds its other blocks too. -/
theorem visitTry_does (state : State) :
    Does env walker cursor (.block (.each (tryScript env) cursor.node.named)) state
      (visitTry env walker cursor state) := by
  refine Does.inBlock (fun state => ?_) state
  simp only [Cursor.named, List.foldl_map]
  refine Does.each _ (fun child _ state => ?_) state
  unfold tryScript
  by_cases specified : (child.kind == "resource_specification") = true
  · have isSpecification : ((cursor.down child).kind == "resource_specification") = true := specified
    rw [if_pos specified, if_pos isSpecification]
    exact .under (Does.each _ (fun resource _ state => visitResource_does resource state) state)
  · have notSpecification : ¬((cursor.down child).kind == "resource_specification") = true := specified
    rw [if_neg specified, if_neg notSpecification]
    exact .under .visit

/-- An `instanceof` binds its name in the block around it, behind the tested value. -/
theorem visitInstanceof_does (state : State) :
    Does env walker cursor (instanceofScript cursor.node) state
      (visitInstanceof env walker cursor state) := by
  unfold visitInstanceof instanceofScript
  cases cursor.node.child? "name" with
  | none => exact Does.visitChildren state
  | some name =>
    exact .seq (Does.visit? _ _) (.behind (Quiet.fileLocal _ _ _) (.bind _))

/-- A pattern binds the name at its end in the block around it. -/
theorem visitPattern_does (state : State) :
    Does env walker cursor (bindEach (patternNames cursor.node)) state
      (visitPattern env cursor state) := by
  unfold visitPattern patternNames
  cases cursor.node.named.getLast? with
  | none => exact .skip
  | some name =>
    simp only
    split
    · exact .seq (.behind (Quiet.fileLocal _ _ _) (.bind _)) .skip
    · exact .skip

theorem declareLambdaParameters_does (list : Node) (state : State) :
    Does env walker cursor (bindEach (boundNames list)) state
      (declareLambdaParameters env list state) := by
  unfold declareLambdaParameters boundNames
  split
  · exact .seq (.behind (Quiet.fileLocal _ _ _) (.bind _)) .skip
  · split
    · exact Does.each _ (fun name _ state => .behind (Quiet.fileLocal _ _ _) (.bind _)) state
    · rw [← parameters_names env state.scope]
      exact declared_does _ (fun parameter state => .behind (Quiet.fileLocal _ _ _) (.bind _)) state

/-- A lambda binds its parameters in a block of its own and walks its body there. -/
theorem visitLambda_does (state : State) :
    Does env walker cursor
      (.block (.seq (bindEach (lambdaNames cursor.node)) (visitOptional (cursor.node.child? "body"))))
      state (visitLambda env walker cursor state) := by
  refine Does.inBlock (fun state => .seq ?_ (Does.visit? _ _)) state
  unfold lambdaNames
  cases cursor.node.child? "parameters" with
  | none => exact .skip
  | some list => exact declareLambdaParameters_does list state

theorem visitAccess_does (state : State) :
    Does env walker cursor (.denote true) state (visitAccess env walker cursor state) := by
  have does : Does env walker cursor (.denote true) state (walker.denote cursor true state).2 :=
    .denote true
  unfold visitAccess
  split
  · rename_i found
    rw [found] at does
    split
    · exact .followed does (Quiet.note ..)
    · exact does
  · rename_i found
    rw [found] at does
    exact does
  · rename_i found
    rw [found] at does
    exact does
  · rename_i found
    rw [found] at does
    exact .followed does (Quiet.note ..)

/-- A bare name is denoted, unless the node around it takes it for something else. -/
theorem visitName_does (state : State) :
    Does env walker cursor (nameScript cursor) state (visitName walker cursor state) := by
  unfold visitName nameScript
  cases cursor.parent? with
  | none => exact .skip
  | some parent =>
    simp only
    split
    · exact .skip
    · exact .denote true

/-- **A node is visited as its script says.** -/
theorem visitNode_does (env : Env) (walker : Walker) (cursor : Cursor) (state : State) :
    Does env walker cursor (visitScript env cursor) state (visitNode env walker cursor state) := by
  unfold visitNode visitScript
  simp only
  cases Construct.ofKind cursor.kind with
  | skipped => exact .skip
  | type => exact visitType_does state
  | fields => exact visitFields_does state
  | method => exact visitMethod_does state
  | compactConstructor => exact visitCompactConstructor_does state
  | enumConstant => exact visitEnumConstant_does state
  | staticInitializer => exact Does.inMethod classInit Does.visitChildren state
  | block => exact visitBlock_does state
  | blockLike => exact Does.inBlock Does.visitChildren state
  | locals => exact visitLocals_does state
  | loop => exact visitLoop_does state
  | catchClause => exact visitCatch_does state
  | resources => exact visitTry_does state
  | instanceof => exact visitInstanceof_does state
  | pattern => exact visitPattern_does state
  | lambda => exact visitLambda_does state
  | creation => exact visitCreation_does state
  | access => exact visitAccess_does state
  | name => exact visitName_does state
  | other => exact Does.visitChildren state

end Walk

end SymbolIndex
