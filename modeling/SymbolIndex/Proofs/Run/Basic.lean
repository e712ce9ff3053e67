import SymbolIndex.Proofs.Enclosing
import SymbolIndex.Proofs.Origin
import SymbolIndex.Proofs.Table

/-!
# What a walk does at its places

A walk goes down and up a tree, and what it changes on the way down it takes back on the way up: a block
around a statement, the method around a body, the frame around the members of a class. `Run` lists what
a walk does to its state with this nesting, with the place where it does it, and with the marks of the
outline that it passes. `walker_runs` says that a walker with a number of levels left runs so at every
place, through the outline of as many levels. What is wanted of a walk is then proved by induction on its
run: one case for each thing that a walk can do, whatever construct it does it for.

At places where a walk really comes to, a run also says how the innermost frame belongs to the place.
This is its `Mode`, and `Leads` says how a mode changes on the way down. Nothing is said of it for a run
that starts at an arbitrary node, so `sited` is a parameter: only where it holds are the modes meant.
-/

namespace SymbolIndex.Walk

open SymbolIndex.Tree (Node Cursor)

/-! ## Runs -/

/-- How the innermost frame belongs to the place of a walk. -/
inductive Mode where
  /-- Its method is that of the member around the place. -/
  | around
  /-- It has been given a method for what lies below. -/
  | within (method : String)
  /-- It has been opened for the class that is declared here. -/
  | entered
  /-- It has been opened for the class whose body the place is. -/
  | opened
  /-- Nothing is said of it. -/
  | aside

/-- The modes in front of and behind a step down from a place to a child. -/
inductive Leads (env : Env) (place : List Node) (child : Node) : Mode → Mode → Prop
  | around (outside : child.kind ∉ bodyKinds) (plain : memberName? env place child = none) :
      Leads env place child .around .around
  | within {method : String} (outside : child.kind ∉ bodyKinds)
      (named : memberName? env place child = some method) :
      Leads env place child (.within method) .around
  | body (isBody : child.kind ∈ bodyKinds) : Leads env place child .entered .opened
  | member (outside : child.kind ∉ bodyKinds) (plain : memberName? env place child = none) :
      Leads env place child .opened .around
  | aside {mode : Mode} : Leads env place child mode .aside

/-- The occurrences filed so far, newest first. -/
def State.records (state : State) : List Occurrence :=
  state.filings.map (·.occurrence)

/-- A method of the given signature and owner is among the records. -/
def HoldsMethod (records : List Occurrence) (method owner : String) : Prop :=
  ∃ name parameterTypes returnType span,
    .method name method parameterTypes returnType owner span ∈ records

/-- The method of the given signature and owner is among the records, at its name. -/
def HoldsMethodAt (env : Env) (records : List Occurrence) (name : Node) (method owner : String) : Prop :=
  ∃ parameterTypes returnType, .method (env.text name) method parameterTypes returnType owner
    (Span.ofNode env.source name) ∈ records

/-- The names that a frame is given for its method: those of initialisers, or the signature of a method
on record. -/
def Recorded (records : List Occurrence) (method owner : String) : Prop :=
  method = classInit ∨ method = instanceInit ∨ HoldsMethod records method owner

/-- The nearest method or constructor among nodes, with the nodes above it. -/
def methodAbove? : List Node → Option (Node × List Node)
  | [] => none
  | node :: above => if node.kind ∈ methodKinds then some (node, above) else methodAbove? above

/-- The nearest method among nodes is on record with the given signature and owner. -/
def OwnMethod (env : Env) (above : List Node) (records : List Occurrence) (method owner : String) :
    Prop :=
  ∃ node outer name, methodAbove? above = some (node, outer) ∧ node.child? "name" = some name ∧
    declaredSignature? env node outer = some method ∧ HoldsMethodAt env records name method owner

/-- What a declaration says about the member and the class around it: a local variable has them from the
state of its moment, a parameter from its own method. -/
def Attributed (env : Env) (mode : Mode) (above : List Node) (state : State) : Occurrence → Prop
  | .localVariable _ _ method owner _ =>
    mode = .around ∧ method = state.method ∧ owner = state.owner
  | .parameter _ _ method owner _ => OwnMethod env above state.records method owner
  | _ => True

/-- What a walk does to its state at a place, with the marks that it passes. -/
inductive Run (env : Env) (sited : Prop) : Mode → List Node → List Mark → State → State → Prop
  | refl {mode : Mode} {place : List Node} {state : State} : Run env sited mode place [] state state
  | trans {mode : Mode} {place : List Node} {marks passed : List Mark} {first middle last : State}
      (run : Run env sited mode place marks first middle)
      (rest : Run env sited mode place passed middle last) :
      Run env sited mode place (marks ++ passed) first last
  /-- What is done at a child of the node. -/
  | descend {mode mode' : Mode} {node child : Node} {above : List Node} {marks : List Mark}
      {first last : State} (inside : child ∈ node.children)
      (leads : sited → Leads env (node :: above) child mode mode')
      (inner : Run env sited mode' (child :: node :: above) marks first last) :
      Run env sited mode (node :: above) marks first last
  /-- A declaration is filed at its name. -/
  | declaration {mode : Mode} {name : Node} {above : List Node} {state : State}
      (occurrence : Occurrence) (declares : occurrence.isDeclaration = true)
      (named : occurrence.key = env.text name)
      (placed : occurrence.span = Span.ofNode env.source name)
      (attributed : sited → Attributed env mode above state occurrence) :
      Run env sited mode (name :: above) [.name occurrence.kind name] state
        (state.file (env.text name) occurrence)
  /-- A reference is filed at its name, unless it is one to the innermost class. -/
  | reference {mode : Mode} {name : Node} {above : List Node} {state : State} (kind : MemberKind)
      (declaring : String) (origin : Origin env state.scope (env.text name) kind declaring) :
      Run env sited mode (name :: above) [.name .reference name] state
        (state.fileReference env name kind declaring)
  /-- A name is passed over that refers to nothing known. -/
  | passed {mode : Mode} {place : List Node} {state : State} (name : Node) :
      Run env sited mode place [.name .reference name] state state
  | noted {mode : Mode} {place : List Node} {state : State} (node : Node) (cause : Unresolved) :
      Run env sited mode place [] state (state.note env node cause)
  | declare {mode : Mode} {place : List Node} {state : State} (name : Node)
      (type : Option JavaType) : Run env sited mode place [] state (state.declare env name type)
  /-- The innermost frame gets another class that is named in it or is counted. -/
  | frame {mode : Mode} {place : List Node} {state : State} (nested : Frame → Bindings String)
      (anonymous : Frame → Nat) :
      Run env sited mode place [] state (state.withScope (·.modifyFrame fun frame =>
        { frame with nested := nested frame, anonymous := anonymous frame }))
  | inBlock {mode : Mode} {place : List Node} {marks : List Mark} {first last : State}
      (inner : Run env sited mode place marks (first.withScope Scope.pushBlock) last) :
      Run env sited mode place marks first (last.withScope Scope.popBlock)
  /-- A method is around what is done, and the one before it comes back. -/
  | inMethod {place : List Node} {marks : List Mark} {first last : State} {method : String}
      (recorded : Recorded first.records method first.owner)
      (inner : Run env sited (.within method) place marks
        (first.withScope (·.setMethod (some method))) last) :
      Run env sited .around place marks first (last.withScope (·.setMethod first.scope.method?))
  /-- A new class is around what is done. Its path is longer than that of the class around it. -/
  | inType {place : List Node} {marks : List Mark} {first last : State} {frame : Frame}
      (longer : ∀ outer ∈ first.scope.frame?, outer.path.length < frame.path.length)
      (bare : frame.method = none ∧ frame.blocks = [])
      (inner : Run env sited .entered place marks
        (first.withScope fun scope => { scope with frames := frame :: scope.frames }) last) :
      Run env sited .around place marks first (last.withScope Scope.popFrame)
  /-- The walk is given up where the outline shows the limit. -/
  | limit {mode : Mode} {place : List Node} {state : State} (node : Node) :
      Run env sited mode place [.limit] state (state.giveUpAt env node)
  /-- The walk is given up while an expression is only typed. -/
  | spent {mode : Mode} {place : List Node} {state : State} (node : Node) :
      Run env sited mode place [] state (state.giveUpAt env node)
  /-- Once given up, the walk does nothing more. -/
  | stopped {mode : Mode} {place : List Node} {state : State} (marks : List Mark)
      (given : state.tooDeep.isSome) : Run env sited mode place marks state state

variable {env : Env} {sited : Prop}

namespace Run

variable {mode : Mode} {place above : List Node} {node name : Node} {marks : List Mark}
  {first middle last : State}

/-- A run behind one that passes nothing. -/
theorem behind (quiet : Run env sited mode place [] first middle)
    (run : Run env sited mode place marks middle last) :
    Run env sited mode place marks first last :=
  quiet.trans run

/-- A run in front of one that passes nothing. -/
theorem followed (run : Run env sited mode place marks first middle)
    (quiet : Run env sited mode place [] middle last) :
    Run env sited mode place marks first last := by
  have whole := run.trans quiet
  rwa [List.append_nil] at whole

/-- A list of runs is a run over all their marks. -/
theorem foldl {α : Type} {step : State → α → State} {marks : α → List Mark} (items : List α)
    (each : ∀ item ∈ items, ∀ state, Run env sited mode place (marks item) state (step state item))
    (state : State) :
    Run env sited mode place (items.flatMap marks) state (items.foldl step state) := by
  induction items generalizing state with
  | nil => exact .refl
  | cons item items ih =>
    rw [List.flatMap_cons, List.foldl_cons]
    refine (each item List.mem_cons_self state).trans (ih ?_ _)
    exact fun other member => each other (List.mem_cons_of_mem _ member)

/-- What is done at a child without regard to the frame. -/
theorem aside (inside : name ∈ node.children)
    (inner : Run env sited .aside (name :: node :: above) marks first last) :
    Run env sited mode (node :: above) marks first last :=
  .descend inside (fun _ => .aside) inner

/-- A field is filed. -/
theorem fileField (typeName owner : String) (state : State) :
    Run env sited mode (name :: above) [.name .field name] state (state.file (env.text name)
      (.field (env.text name) typeName owner (Span.ofNode env.source name))) :=
  .declaration (.field (env.text name) typeName owner (Span.ofNode env.source name)) rfl rfl rfl
    fun _ => trivial

/-- A method is filed at its name. -/
theorem fileMethod (inside : name ∈ node.children) (signature : String)
    (parameterTypes : List String) (returnType : Option String) (owner : String) (state : State) :
    Run env sited mode (node :: above) [.name .method name] state (state.file (env.text name)
      (.method (env.text name) signature parameterTypes returnType owner
        (Span.ofNode env.source name))) :=
  aside inside (.declaration (.method (env.text name) signature parameterTypes returnType owner
    (Span.ofNode env.source name)) rfl rfl rfl fun _ => trivial)

/-- A local variable is filed. -/
theorem fileLocal (typeName : Option String) (state : State) :
    Run env sited .around (name :: above) [.name .localVariable name] state
      (state.fileLocal env name typeName) :=
  .declaration (.localVariable (env.text name) typeName state.method state.owner
    (Span.ofNode env.source name)) rfl rfl rfl fun _ => ⟨rfl, rfl, rfl⟩

/-- A local variable is filed and declared. -/
theorem declareLocal (typeName : Option String) (type : Option JavaType) (state : State) :
    Run env sited .around (name :: above) [.name .localVariable name] state
      ((state.fileLocal env name typeName).declare env name type) :=
  (fileLocal typeName state).followed (.declare name type)

end Run

/-! ## Where walks come to -/

/-- The kinds of nodes that have parts which are not visited themselves: class bodies, or the declarators
of fields. -/
def hostKinds : List String :=
  memberKinds ++ fieldKinds ++ ["object_creation_expression"]

/-- The kinds of nodes at which the frame of a walk may change. -/
def guardedKinds : List String :=
  hostKinds ++ namingKinds

/-- A cursor at which walks arrive. They go through class bodies and the declarators of fields, but do
not arrive there. -/
structure Arrives (cursor : Cursor) : Prop where
  housed : Housed cursor.node
  outside : cursor.node.kind ∉ bodyKinds
  apart : ∀ parent ∈ cursor.above.head?, parent.kind ∉ fieldKinds

/-- A child that a walk goes on with. -/
structure Goes (env : Env) (sited : Prop) (mode : Mode) (cursor : Cursor) (child : Node) : Prop where
  inside : child ∈ cursor.node.children
  arrives : sited → Arrives (cursor.down child)
  leads : sited → Leads env (placeOf cursor) child mode .around

/-- A cursor at which a walk leaves its frame as it is. -/
structure Ordinary (sited : Prop) (cursor : Cursor) : Prop where
  arrives : sited → Arrives cursor
  kind : sited → cursor.node.kind ∉ guardedKinds

section Goes

variable {mode : Mode} {cursor : Cursor} {child : Node}

/-- What is done at a child that a walk goes on with. -/
theorem Goes.run {marks : List Mark} {first last : State} (goes : Goes env sited mode cursor child)
    (inner : Run env sited .around (child :: placeOf cursor) marks first last) :
    Run env sited mode (placeOf cursor) marks first last :=
  .descend goes.inside goes.leads inner

/-- Walks arrive at a child that is no class body, below anything but a declaration of fields. -/
theorem Housed.arrives (housed : Housed cursor.node) (inside : child ∈ cursor.node.children)
    (outside : child.kind ∉ bodyKinds) (notField : cursor.node.kind ∉ fieldKinds) :
    Arrives (cursor.down child) := by
  refine ⟨housed.below inside, outside, fun parent same => ?_⟩
  cases same
  exact notField

/-- Walks arrive at every child of a node without parts that are only gone through. -/
theorem Housed.arrivesBelow (housed : Housed cursor.node) (inside : child ∈ cursor.node.children)
    (free : cursor.node.kind ∉ hostKinds) : Arrives (cursor.down child) := by
  simp only [hostKinds, List.mem_append, List.mem_singleton, not_or] at free
  obtain ⟨⟨notType, notField⟩, notCreation⟩ := free
  exact housed.arrives inside (housed.outside inside notType notCreation) notField

/-- A walk goes on with every child of such a node. -/
theorem Goes.ofHoused (inside : child ∈ cursor.node.children) (housed : sited → Housed cursor.node)
    (free : sited → cursor.node.kind ∉ hostKinds)
    (leads : sited → child.kind ∉ bodyKinds → Leads env (placeOf cursor) child mode .around) :
    Goes env sited mode cursor child where
  inside := inside
  arrives here := (housed here).arrivesBelow inside (free here)
  leads here := leads here ((housed here).arrivesBelow inside (free here)).outside

namespace Ordinary

/-- An ordinary place has no class body and no declarators of fields. -/
theorem notHost (ordinary : Ordinary sited cursor) (here : sited) : cursor.node.kind ∉ hostKinds :=
  fun hosts => ordinary.kind here (List.mem_append_left _ hosts)

/-- From an ordinary node a walk may go on with every child. -/
theorem goes (ordinary : Ordinary sited cursor) (inside : child ∈ cursor.node.children) :
    Goes env sited .around cursor child := by
  refine .ofHoused inside (fun here => (ordinary.arrives here).housed) ordinary.notHost ?_
  intro here outside
  have free : cursor.node.kind ∉ namingKinds :=
    fun named => ordinary.kind here (List.mem_append_right _ named)
  exact .around outside (memberName?_eq_none free (fun _ => (ordinary.arrives here).apart) child)

/-- From an ordinary place a walk goes to every named child. -/
theorem goesNamed (ordinary : Ordinary sited cursor) :
    ∀ child ∈ cursor.node.named, Goes env sited .around cursor child :=
  fun _ member => ordinary.goes (Node.mem_of_named member)

/-- From an ordinary place a walk goes to the child in any role. -/
theorem goesRole (ordinary : Ordinary sited cursor) {role : String} :
    ∀ child ∈ cursor.node.child? role, Goes env sited .around cursor child :=
  fun _ found => ordinary.goes (Node.mem_of_child? found)

/-- A child of an ordinary node is ordinary, if its kind is. -/
theorem down (ordinary : Ordinary sited cursor) (inside : child ∈ cursor.node.children)
    (kind : sited → child.kind ∉ guardedKinds) : Ordinary sited (cursor.down child) :=
  ⟨fun here => (ordinary.arrives here).housed.arrivesBelow inside (ordinary.notHost here), kind⟩

end Ordinary

end Goes

/-! ## What a walker does -/

/-- The marks that are passed, if the walk is recording. -/
def seen (recording : Bool) (marks : List Mark) : List Mark :=
  if recording then marks else []

@[simp]
theorem seen_true (marks : List Mark) : seen true marks = marks := rfl

@[simp]
theorem seen_false (marks : List Mark) : seen false marks = [] := rfl

@[simp]
theorem seen_nil (recording : Bool) : seen recording [] = [] := by
  cases recording <;> rfl

theorem seen_append (recording : Bool) (first second : List Mark) :
    seen recording (first ++ second) = seen recording first ++ seen recording second := by
  cases recording <;> rfl

/-- A walker that runs through an outline wherever it arrives. An expression that is only typed passes
no mark. -/
structure Runs (env : Env) (sited : Prop) (walker : Walker) (below : Outline) : Prop where
  visit : ∀ cursor state, (sited → Arrives cursor) →
    Run env sited .around (placeOf cursor) (below.visit cursor.node) state
      (walker.visit cursor state)
  denote : ∀ cursor recording state, (sited → Arrives cursor) →
    Run env sited .around (placeOf cursor) (seen recording (below.denote cursor.node)) state
      (walker.denote cursor recording state).2
  /-- A bare name is passed even where no level is left for it. -/
  name : ∀ cursor state, (sited → Arrives cursor) → cursor.node.kind = "identifier" →
    Run env sited .around (placeOf cursor) [.name .reference cursor.node] state
      (walker.denote cursor true state).2

namespace Runs

variable {walker : Walker} {below : Outline} {mode : Mode} {cursor : Cursor}

/-- Visiting a child is a run over its marks. -/
theorem visitChild (runs : Runs env sited walker below) {child : Node}
    (goes : Goes env sited mode cursor child) (state : State) :
    Run env sited mode (placeOf cursor) (below.visit child) state
      (walker.visit (cursor.down child) state) :=
  goes.run (runs.visit (cursor.down child) state goes.arrives)

/-- Denoting a child is a run over its marks, while the walk is recording. -/
theorem denoteChild (runs : Runs env sited walker below) {child : Node}
    (goes : Goes env sited mode cursor child) (recording : Bool) (state : State) :
    Run env sited mode (placeOf cursor) (seen recording (below.denote child)) state
      (walker.denote (cursor.down child) recording state).2 :=
  goes.run (runs.denote (cursor.down child) recording state goes.arrives)

/-- Visiting children is a run over the marks of each, in order. -/
theorem visitAll (runs : Runs env sited walker below) {nodes : List Node}
    (goes : ∀ child ∈ nodes, Goes env sited mode cursor child) (state : State) :
    Run env sited mode (placeOf cursor) (nodes.flatMap below.visit) state
      (walker.visitAll (nodes.map cursor.down) state) := by
  unfold Walker.visitAll
  rw [List.foldl_map]
  exact Run.foldl nodes (fun child member state => runs.visitChild (goes child member) state) state

theorem visitChildren (runs : Runs env sited walker below)
    (goes : ∀ child ∈ cursor.node.named, Goes env sited mode cursor child) (state : State) :
    Run env sited mode (placeOf cursor) (cursor.node.named.flatMap below.visit) state
      (walker.visitChildren cursor state) :=
  runs.visitAll goes state

theorem visit? (runs : Runs env sited walker below) {node : Option Node}
    (goes : ∀ child ∈ node, Goes env sited mode cursor child) (state : State) :
    Run env sited mode (placeOf cursor) (below.visit? node) state
      (walker.visit? (node.map cursor.down) state) := by
  cases node with
  | none => exact .refl
  | some child => exact runs.visitChild (goes child rfl) state

/-- What is visited as part of an initialiser. -/
theorem visitWithin (runs : Runs env sited walker below) {method : String}
    (initializes : method = classInit ∨ method = instanceInit) {node : Option Node}
    (goes : ∀ child ∈ node, Goes env sited (.within method) cursor child) (state : State) :
    Run env sited .around (placeOf cursor) (below.visit? node) state
      (walker.visitWithin method (node.map cursor.down) state) := by
  cases node with
  | none => exact .refl
  | some child =>
    exact .inMethod (initializes.imp_right .inl) (runs.visitChild (goes child rfl) _)

/-- A child that is visited for its references passes its marks only then. -/
theorem visitRecording (runs : Runs env sited walker below) (recording : Bool) {node : Option Node}
    (goes : ∀ child ∈ node, Goes env sited mode cursor child) (state : State) :
    Run env sited mode (placeOf cursor) (seen recording (below.visit? node)) state
      (visitRecording walker recording (node.map cursor.down) state) := by
  cases recording with
  | false => exact .refl
  | true => exact runs.visit? goes state

/-- Typing a value passes nothing. -/
theorem valueType? (runs : Runs env sited walker below) {node : Option Node}
    (goes : ∀ child ∈ node, Goes env sited mode cursor child) (state : State) :
    Run env sited mode (placeOf cursor) [] state
      (walker.valueType? (node.map cursor.down) state).2 := by
  cases node with
  | none => exact .refl
  | some child =>
    rw [Option.map_some, Walker.valueType?, Walker.valueType_snd]
    exact runs.denoteChild (goes child rfl) false state

end Runs

end SymbolIndex.Walk
