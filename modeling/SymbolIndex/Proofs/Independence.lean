import SymbolIndex.Proofs.Table
import SymbolIndex.SourceIndex

/-!
# Declarations do not depend on the class path

A walk resolves types and members while it goes, and what it resolves ends up in the scope: the
types of variables, the supertypes and member types of classes. None of this decides where the walk
goes. Two walks over one tree with different class paths stay *alike*: their frames have the same
paths, methods and counts of anonymous classes, they have filed the same declarations, and they have
given up at the same place or not at all.

The proof is a simulation. `Alike` is kept by every operation on the state that both walks make, and
by every reference or note that only one of them makes; `Walker.Alike` lifts it to the two ways of
going on with a node below, and `walker_alike` is the induction on the levels that are left.
-/

namespace SymbolIndex.Walk

open SymbolIndex.Tree (Node Cursor Position Source SourceError)

/-! ## Alike states -/

/-- What decides how a frame names its classes and methods. -/
def frameSketch (frame : Frame) : String × Option String × Nat :=
  (frame.path, frame.method, frame.anonymous)

/-- The declarations among filings, in the same order. -/
def declarationsOf (filings : List Filing) : List (String × Occurrence) :=
  (filings.filter (·.occurrence.isDeclaration)).map Filing.entry

/-- Two scopes whose frames differ in what was resolved only. -/
def ScopesAlike (first second : Scope) : Prop :=
  first.frames.map frameSketch = second.frames.map frameSketch

/-- Two states that differ in what was resolved only. -/
structure Alike (first second : State) : Prop where
  scope : ScopesAlike first.scope second.scope
  declarations : declarationsOf first.filings = declarationsOf second.filings
  tooDeep : first.tooDeep = second.tooDeep

/-- Alike scopes have alike innermost frames, or none. -/
theorem ScopesAlike.frame? {first second : Scope} (alike : ScopesAlike first second) :
    first.frame?.map frameSketch = second.frame?.map frameSketch := by
  have heads := congrArg List.head? alike
  simpa only [List.head?_map, Scope.frame?] using heads

/-- A change of the innermost frame that its sketch decides keeps scopes alike. -/
theorem ScopesAlike.modifyFrame {first second : Scope} (alike : ScopesAlike first second)
    {change change' : Frame → Frame}
    (same : ∀ frame frame', frameSketch frame = frameSketch frame' →
      frameSketch (change frame) = frameSketch (change' frame')) :
    ScopesAlike (first.modifyFrame change) (second.modifyFrame change') := by
  unfold ScopesAlike at alike ⊢
  unfold Scope.modifyFrame
  cases frames : first.frames with
  | nil =>
    cases frames' : second.frames with
    | nil => simp [frames, frames']
    | cons frame' rest' => simp [frames, frames'] at alike
  | cons frame rest =>
    cases frames' : second.frames with
    | nil => simp [frames, frames'] at alike
    | cons frame' rest' =>
      simp only [frames, frames', List.map_cons, List.cons.injEq] at alike ⊢
      exact ⟨same frame frame' alike.1, alike.2⟩

/-- Blocks are no part of what is compared. -/
theorem ScopesAlike.modifyBlocks {first second : Scope} (alike : ScopesAlike first second)
    (change change' : List Block → List Block) :
    ScopesAlike (first.modifyBlocks change) (second.modifyBlocks change') := by
  unfold ScopesAlike at alike ⊢
  unfold Scope.modifyBlocks
  cases frames : first.frames <;> cases frames' : second.frames <;>
    simp_all [frameSketch]

/-- Entering a class under the same path keeps scopes alike. -/
theorem ScopesAlike.pushFrame {first second : Scope} (alike : ScopesAlike first second)
    (path : String) : ScopesAlike (first.pushFrame path) (second.pushFrame path) := by
  simp only [ScopesAlike, Scope.pushFrame, List.map_cons] at alike ⊢
  rw [alike]

/-- Leaving a class keeps scopes alike. -/
theorem ScopesAlike.popFrame {first second : Scope} (alike : ScopesAlike first second) :
    ScopesAlike first.popFrame second.popFrame := by
  unfold ScopesAlike at alike ⊢
  unfold Scope.popFrame
  cases frames : first.frames <;> cases frames' : second.frames <;> simp_all

/-- Entering or leaving a method of the same signature keeps them alike. -/
theorem ScopesAlike.setMethod {first second : Scope} (alike : ScopesAlike first second)
    (method : Option String) : ScopesAlike (first.setMethod method) (second.setMethod method) := by
  refine alike.modifyFrame fun frame frame' same => ?_
  simp only [frameSketch, Prod.mk.injEq] at same ⊢
  exact ⟨same.1, trivial, same.2.2⟩

/-- Counting one anonymous class more keeps them alike. -/
theorem ScopesAlike.countAnonymous {first second : Scope} (alike : ScopesAlike first second) :
    ScopesAlike first.countAnonymous second.countAnonymous := by
  refine alike.modifyFrame fun frame frame' same => ?_
  simp only [frameSketch, Prod.mk.injEq] at same ⊢
  exact ⟨same.1, same.2.1, by rw [same.2.2]⟩

/-- Alike scopes give the next anonymous class the same path. -/
theorem ScopesAlike.anonymousPath {first second : Scope} (alike : ScopesAlike first second) :
    first.anonymousPath = second.anonymousPath := by
  have heads := alike.frame?
  unfold Scope.anonymousPath
  cases frame : first.frame? <;> cases frame' : second.frame? <;>
    simp_all [frameSketch]

/-- Alike scopes are in the same method. -/
theorem ScopesAlike.method? {first second : Scope} (alike : ScopesAlike first second) :
    first.method? = second.method? := by
  have heads := alike.frame?
  unfold Scope.method?
  cases frame : first.frame? <;> cases frame' : second.frame? <;>
    simp_all [frameSketch]

/-- Alike scopes are in the same class. -/
theorem ScopesAlike.path? {first second : Scope} (alike : ScopesAlike first second) :
    first.frame?.map (·.path) = second.frame?.map (·.path) := by
  have heads := congrArg (Option.map (·.1)) alike.frame?
  simpa only [Option.map_map, Function.comp_def, frameSketch] using heads

namespace Alike

variable {first second : State}

/-- What is filed in alike states has the same owner. -/
theorem owner (alike : Alike first second) : first.owner = second.owner := by
  have paths := alike.scope.path?
  unfold State.owner
  cases frame : first.scope.frame? <;> cases frame' : second.scope.frame? <;>
    simp_all [Frame.name]

/-- What is filed in alike states has the same method. -/
theorem method (alike : Alike first second) : first.method = second.method := by
  rw [State.method, State.method, alike.scope.method?]

/-- A change of the scope alone keeps states alike when it keeps their scopes so. -/
theorem withScope (alike : Alike first second) (change change' : Scope → Scope)
    (changed : ScopesAlike (change first.scope) (change' second.scope)) :
    Alike (first.withScope change) (second.withScope change') :=
  ⟨changed, alike.declarations, alike.tooDeep⟩

/-- Both walks file the same. -/
theorem file (alike : Alike first second) (key : String) (occurrence : Occurrence) :
    Alike (first.file key occurrence) (second.file key occurrence) := by
  refine ⟨alike.scope, ?_, alike.tooDeep⟩
  have same := alike.declarations
  simp only [declarationsOf, State.file, List.filter_cons] at same ⊢
  split
  · simp only [List.map_cons, Filing.entry, same]
  · exact same

/-- Declaring a local changes the blocks only, whatever its type. -/
theorem declare (alike : Alike first second) (env env' : Env) (name name' : Node)
    (type type' : Option JavaType) :
    Alike (first.declare env name type) (second.declare env' name' type') :=
  alike.withScope _ _ (alike.scope.modifyBlocks _ _)

end Alike

/-! ## What only one walk does -/

/-- A step that only resolves: it files references and makes notes, and leaves the rest alone. -/
def Resolves (before after : State) : Prop :=
  after.scope = before.scope ∧ after.tooDeep = before.tooDeep ∧
    declarationsOf after.filings = declarationsOf before.filings

theorem Resolves.refl (state : State) : Resolves state state := ⟨rfl, rfl, rfl⟩

/-- **What only resolves may differ.** Alike states stay alike when each of them goes on to resolve
something. -/
theorem Alike.resolves {first second first' second' : State} (alike : Alike first second)
    (step : Resolves first first') (step' : Resolves second second') : Alike first' second' where
  scope := by rw [step.1, step'.1]; exact alike.scope
  declarations := by rw [step.2.2, step'.2.2]; exact alike.declarations
  tooDeep := by rw [step.2.1, step'.2.1]; exact alike.tooDeep

/-- Noting a failure resolves only. -/
theorem resolves_note (env : Env) (node : Node) (cause : Unresolved) (state : State) :
    Resolves state (state.note env node cause) := ⟨rfl, rfl, rfl⟩

/-- Filing a reference resolves only, for it is no declaration. -/
theorem resolves_noteReference (env : Env) (recording : Bool) (name : Node) (kind : MemberKind)
    (declaring : String) (state : State) :
    Resolves state (noteReference env recording name kind declaring state) := by
  unfold noteReference State.fileReference
  split
  · split
    · exact Resolves.refl _
    · exact ⟨rfl, rfl, rfl⟩
  · exact Resolves.refl _

/-- Looking up a name resolves only. -/
theorem resolves_denoteName (env : Env) (node : Node) (recording : Bool) (state : State) :
    Resolves state (denoteName env node recording state).2 := by
  unfold denoteName
  simp only
  split
  · exact Resolves.refl _
  · exact resolves_noteReference ..
  · split
    · exact resolves_noteReference ..
    · split <;> exact Resolves.refl _

/-- Looking up a member on a type resolves only. -/
theorem resolves_denoteMember (env : Env) (path : String) (name : Node) (kind : MemberKind)
    (recording : Bool) (state : State) :
    Resolves state (denoteMember env path name kind recording state).2 := by
  unfold denoteMember
  split
  · exact resolves_noteReference ..
  · exact Resolves.refl _

theorem resolves_fieldOn (env : Env) (object field : Node) (recording : Bool)
    (referent : Referent) (state : State) :
    Resolves state (fieldOn env object field recording referent state).2 := by
  unfold fieldOn
  cases referent with
  | name dotted => simp only; split <;> exact Resolves.refl _
  | type path =>
    simp only
    split
    · exact Resolves.refl _
    · exact resolves_denoteMember ..
  | value type =>
    cases type with
    | reference path => exact resolves_denoteMember ..
    | array element => simp only; split <;> exact Resolves.refl _
    | primitive kind => exact Resolves.refl _
  | unknown => exact Resolves.refl _

theorem resolves_methodOn (env : Env) (object name : Node) (recording : Bool)
    (referent : Referent) (state : State) :
    Resolves state (methodOn env object name recording referent state).2 := by
  unfold methodOn
  cases referent with
  | value type => cases type <;> first | exact resolves_denoteMember .. | exact Resolves.refl _
  | type path => exact resolves_denoteMember ..
  | name dotted => exact Resolves.refl _
  | unknown => exact Resolves.refl _

/-- Looking up the method of a method reference resolves only. -/
theorem resolves_referredMethod (env : Env) (qualifier name : Node) (recording : Bool)
    (referent : Referent) (state : State) :
    Resolves state (referredMethod env qualifier name recording referent state).2 := by
  unfold referredMethod
  split
  · exact Resolves.refl _
  · rename_i found _
    have step := resolves_methodOn env qualifier name recording found state
    split <;> simp_all

/-! ## Steps that both walks make -/

/-- The environment with another class path. -/
def Env.over (env : Env) (classpath : Classpath) : Env :=
  { env with classpath }

/-- Two steps that lead alike states to alike states. -/
def StepsAlike (step step' : State → State) : Prop :=
  ∀ first second, Alike first second → Alike (step first) (step' second)

/-- Two walkers that go on alike. -/
structure WalkersAlike (walker walker' : Walker) : Prop where
  visit : ∀ cursor, StepsAlike (walker.visit cursor) (walker'.visit cursor)
  denote : ∀ cursor recording, StepsAlike (fun state => (walker.denote cursor recording state).2)
    (fun state => (walker'.denote cursor recording state).2)

/-- Alike steps over a list are alike together. -/
theorem StepsAlike.foldl {α : Type} {step step' : State → α → State}
    (alike : ∀ item, StepsAlike (step · item) (step' · item)) (items : List α) :
    StepsAlike (items.foldl step) (items.foldl step') := by
  induction items with
  | nil => exact fun _ _ same => same
  | cons item items ih => exact fun first second same => ih _ _ (alike item first second same)

/-- A block around alike steps keeps them alike. -/
theorem StepsAlike.inBlock {step step' : State → State} (alike : StepsAlike step step') :
    StepsAlike (inBlock step) (inBlock step') := by
  intro first second same
  have pushed := same.withScope Scope.pushBlock Scope.pushBlock (same.scope.modifyBlocks _ _)
  have stepped := alike _ _ pushed
  exact stepped.withScope Scope.popBlock Scope.popBlock (stepped.scope.modifyBlocks _ _)

/-- Alike steps in a method stay alike: both leave it for the method around it. -/
theorem StepsAlike.inMethod {step step' : State → State} (alike : StepsAlike step step')
    (method : String) : StepsAlike (inMethod method step) (inMethod method step') := by
  intro first second same
  have entered := same.withScope (·.setMethod (some method)) (·.setMethod (some method))
    (same.scope.setMethod _)
  have stepped := alike _ _ entered
  refine stepped.withScope _ _ ?_
  rw [same.scope.method?]
  exact stepped.scope.setMethod _

section Steps

variable (env : Env) (classpath : Classpath) {walker walker' : Walker}

/-- Alike walkers visit a list of nodes alike. -/
theorem WalkersAlike.visitAll (alike : WalkersAlike walker walker') (cursors : List Cursor) :
    StepsAlike (walker.visitAll cursors) (walker'.visitAll cursors) :=
  StepsAlike.foldl (fun cursor => alike.visit cursor) cursors

theorem WalkersAlike.visitChildren (alike : WalkersAlike walker walker') (cursor : Cursor) :
    StepsAlike (walker.visitChildren cursor) (walker'.visitChildren cursor) :=
  alike.visitAll cursor.named

theorem WalkersAlike.visitChildren? (alike : WalkersAlike walker walker')
    (cursor : Option Cursor) :
    StepsAlike (walker.visitChildren? cursor) (walker'.visitChildren? cursor) := by
  cases cursor with
  | none => exact fun _ _ same => same
  | some cursor => exact alike.visitChildren cursor

/-- Alike walkers visit a part inside a method alike. -/
theorem WalkersAlike.visitWithin (alike : WalkersAlike walker walker') (method : String)
    (cursor : Option Cursor) :
    StepsAlike (walker.visitWithin method cursor) (walker'.visitWithin method cursor) := by
  cases cursor with
  | none => exact fun _ _ same => same
  | some cursor => exact StepsAlike.inMethod (alike.visit cursor) method

theorem WalkersAlike.visit? (alike : WalkersAlike walker walker') (cursor : Option Cursor) :
    StepsAlike (walker.visit? cursor) (walker'.visit? cursor) := by
  cases cursor with
  | none => exact fun _ _ same => same
  | some cursor => exact alike.visit cursor

/-- Alike walkers visit a part for its references alike, or both leave it out. -/
theorem WalkersAlike.visitRecording (alike : WalkersAlike walker walker') (recording : Bool)
    (cursor : Option Cursor) :
    StepsAlike (visitRecording walker recording cursor)
      (visitRecording walker' recording cursor) := by
  cases recording with
  | false => exact fun _ _ same => same
  | true => exact alike.visit? cursor

/-- Finding the type of a value leads to alike states, though the types may differ. -/
theorem WalkersAlike.valueType? (alike : WalkersAlike walker walker') (cursor : Option Cursor) :
    StepsAlike (fun state => (walker.valueType? cursor state).2)
      (fun state => (walker'.valueType? cursor state).2) := by
  cases cursor with
  | none => exact fun _ _ same => same
  | some cursor =>
    intro first second same
    simp only [Walker.valueType?, Walker.valueType_snd]
    exact alike.denote cursor false first second same

/-- Filing a local variable takes the method and the class around it from the scope. -/
theorem StepsAlike.fileLocal (name : Node) (typeName : Option String) :
    StepsAlike (State.fileLocal env name typeName)
      (State.fileLocal (env.over classpath) name typeName) := by
  intro first second same
  simp only [State.fileLocal, same.owner, same.method]
  exact same.file _ _

/-! ### Parameters -/

/-- Two parameters that differ in their resolved types only. -/
def ParametersAlike (first second : Parameter) : Prop :=
  first.name = second.name ∧ first.typeName = second.typeName

/-- A parameter is read with the same name and text of its type, whatever that resolves to. -/
theorem formalParameter_alike (scope scope' : Scope) (node : Node) :
    Option.Rel ParametersAlike (formalParameter env scope node)
      (formalParameter (env.over classpath) scope' node) := by
  unfold formalParameter
  cases node.child? "type" with
  | none => exact .none
  | some type =>
    cases node.child? "name" with
    | none => exact .none
    | some name => exact .some ⟨rfl, rfl⟩

/-- A parameter with dots behind its type is read with the same name and text. -/
theorem spreadParameter_alike (scope scope' : Scope) (node : Node) :
    Option.Rel ParametersAlike (spreadParameter env scope node)
      (spreadParameter (env.over classpath) scope' node) := by
  unfold spreadParameter
  cases node.named.find? (Tree.isTypeKind ·.kind) with
  | none => exact .none
  | some type =>
    cases node.named.find? (·.kind == "variable_declarator") with
    | none => exact .none
    | some declarator =>
      simp only [Option.bind_eq_bind, Option.bind_some]
      cases declarator.child? "name" with
      | none => exact .none
      | some name => exact .some ⟨rfl, rfl⟩

theorem parameter?_alike (scope scope' : Scope) (node : Node) :
    Option.Rel ParametersAlike (parameter? env scope node)
      (parameter? (env.over classpath) scope' node) := by
  unfold parameter?
  split
  · exact formalParameter_alike ..
  · split
    · exact spreadParameter_alike ..
    · exact .none

/-- The parameters of a list pair up. -/
theorem parameters_alike (scope scope' : Scope) (list : Option Node) :
    List.Forall₂ ParametersAlike (parameters env scope list)
      (parameters (env.over classpath) scope' list) := by
  cases list with
  | none => exact .nil
  | some list =>
    simp only [parameters]
    induction list.named with
    | nil => exact .nil
    | cons node nodes ih =>
      have alike := parameter?_alike env classpath scope scope' node
      simp only [List.filterMap_cons]
      generalize parameter? env scope node = found at alike
      generalize parameter? (env.over classpath) scope' node = found' at alike
      cases alike with
      | none => exact ih
      | some alike => exact .cons alike ih

/-- The components of a record pair up. -/
theorem componentsOf_alike (scope scope' : Scope) (declaration : Option Node) :
    List.Forall₂ ParametersAlike (componentsOf env scope declaration)
      (componentsOf (env.over classpath) scope' declaration) := by
  unfold componentsOf
  split
  · split
    · exact parameters_alike ..
    · exact .nil
  · exact .nil

/-- Parameters that differ in their resolved types make up the same signature. -/
theorem erased_alike {first second : List Parameter}
    (alike : List.Forall₂ ParametersAlike first second) :
    first.map (·.erased) = second.map (·.erased) := by
  induction alike with
  | nil => rfl
  | cons same _ ih => rw [List.map_cons, List.map_cons, ih, Parameter.erased, same.2]; rfl

/-- Folding alike steps over alike parameters. -/
theorem foldl_parameters_alike {step step' : State → Parameter → State}
    (alike : ∀ parameter parameter', ParametersAlike parameter parameter' →
      StepsAlike (step · parameter) (step' · parameter'))
    {parameters parameters' : List Parameter}
    (same : List.Forall₂ ParametersAlike parameters parameters') :
    StepsAlike (parameters.foldl step) (parameters'.foldl step') := by
  induction same with
  | nil => exact fun _ _ same => same
  | cons same _ ih => exact fun first second before => ih _ _ (alike _ _ same _ _ before)

/-! ### Declarations -/

/-- Making a member class known changes the frame's table of nested classes only. -/
theorem nameMember_alike {scope scope' : Scope} (alike : ScopesAlike scope scope')
    (member : Node) :
    ScopesAlike (nameMember env scope member) (nameMember (env.over classpath) scope' member) := by
  unfold nameMember
  split
  · split
    · exact alike.modifyFrame fun _ _ same => same
    · exact alike
  · exact alike

/-- The frame of a class body is opened under the same path, with members that may differ. -/
theorem openBody_alike (declaration : Option Node) (path : String) (body : Option Node)
    (hint hint' : Option String) :
    StepsAlike (openBody env declaration path body hint)
      (openBody (env.over classpath) declaration path body hint') := by
  intro first second same
  refine ⟨?_, same.declarations, same.tooDeep⟩
  refine ScopesAlike.modifyFrame ?_ fun _ _ same => same
  generalize (body.map bodyMembers).getD [] = members
  have pushed := same.scope.pushFrame path
  generalize first.scope.pushFrame path = scope at pushed
  generalize second.scope.pushFrame path = scope' at pushed
  induction members generalizing scope scope' with
  | nil => exact pushed
  | cons member members ih => exact ih _ _ (nameMember_alike env classpath pushed member)

/-- The components of a record are filed as the same fields. -/
theorem fileComponents_alike {components components' : List Parameter}
    (alike : List.Forall₂ ParametersAlike components components') :
    StepsAlike (fileComponents env components)
      (fileComponents (env.over classpath) components') := by
  refine foldl_parameters_alike (fun component component' same => ?_) alike
  intro first second before
  simp only [same.1, same.2, before.owner]
  exact before.file _ _

/-- **The inside of a class** is walked alike, though its members may have other types. -/
theorem enterType_alike (alike : WalkersAlike walker walker') (declaration : Option Node)
    (path : String) (body : Option Cursor) (hint hint' : Option String) :
    StepsAlike (enterType env walker declaration path body hint)
      (enterType (env.over classpath) walker' declaration path body hint') := by
  intro first second same
  have opened := openBody_alike env classpath declaration path (body.map (·.node)) hint hint'
    first second same
  have components := componentsOf_alike env classpath
    (openBody env declaration path (body.map (·.node)) hint first).scope
    (openBody (env.over classpath) declaration path (body.map (·.node)) hint' second).scope
    declaration
  have filed := fileComponents_alike env classpath components _ _ opened
  have walked := alike.visitChildren? body _ _ filed
  exact walked.withScope _ _ walked.scope.popFrame

/-- An anonymous class is entered under the same number, whatever type it is created from. -/
theorem enterAnonymous_alike (alike : WalkersAlike walker walker') (body : Cursor)
    (hint hint' : Option String) :
    StepsAlike (enterAnonymous env walker body hint)
      (enterAnonymous (env.over classpath) walker' body hint') := by
  intro first second same
  unfold enterAnonymous
  rw [same.scope.anonymousPath]
  exact enterType_alike env classpath alike none _ (some body) hint hint' _ _
    (same.withScope _ _ same.scope.countAnonymous)

/-- A declared class has the path that its name and the class around it give it. -/
theorem declaredPath_alike {scope scope' : Scope} (alike : ScopesAlike scope scope')
    (name : String) :
    declaredPath env scope name = declaredPath (env.over classpath) scope' name := by
  have heads := alike.frame?
  unfold declaredPath
  cases frame : scope.frame? <;> cases frame' : scope'.frame? <;>
    simp_all [frameSketch, Env.over]

/-- A class declaration is named and entered alike. -/
theorem visitType_alike (alike : WalkersAlike walker walker') (cursor : Cursor) :
    StepsAlike (visitType env walker cursor) (visitType (env.over classpath) walker' cursor) := by
  intro first second same
  unfold visitType
  cases cursor.node.child? "name" with
  | none => exact same
  | some name =>
    have path := declaredPath_alike env classpath same.scope (env.text name)
    simp only
    rw [path]
    refine enterType_alike env classpath alike _ _ _ _ _ _ _ (same.withScope _ _ ?_)
    exact same.scope.modifyFrame fun _ _ same => same

/-- A declarator files the same field and walks its value. -/
theorem visitField_alike (alike : WalkersAlike walker walker') (baseText method : String)
    (declarator : Cursor) :
    StepsAlike (visitField env walker baseText method · declarator)
      (visitField (env.over classpath) walker' baseText method · declarator) := by
  intro first second same
  simp only [visitField]
  cases declarator.node.child? "name" with
  | none => exact same
  | some name =>
    simp only [same.owner]
    exact alike.visitWithin method _ _ _ (same.file _ _)

/-- A field declaration does so for each of its declarators. -/
theorem visitFields_alike (alike : WalkersAlike walker walker') (cursor : Cursor) :
    StepsAlike (visitFields env walker cursor)
      (visitFields (env.over classpath) walker' cursor) :=
  StepsAlike.foldl (fun declarator => visitField_alike env classpath alike _ _ declarator) _

/-- An enum constant files the same field and enters its body. -/
theorem visitEnumConstant_alike (alike : WalkersAlike walker walker') (cursor : Cursor) :
    StepsAlike (visitEnumConstant env walker cursor)
      (visitEnumConstant (env.over classpath) walker' cursor) := by
  intro first second same
  unfold visitEnumConstant
  cases cursor.node.child? "name" with
  | none => exact same
  | some name =>
    simp only [same.owner, same.scope.path?]
    have walked := alike.visitWithin classInit (cursor.child? "arguments") _ _
      (same.file (env.text name) (.field (env.text name)
        (simpleNameOf ((second.scope.frame?.map (·.path)).getD "")) second.owner
        (Span.ofNode env.source name)))
    cases cursor.child? "body" with
    | none => exact walked
    | some body => exact enterAnonymous_alike env classpath alike body _ _ _ _ walked

/-- The parameters of a method are filed alike, with the texts of their types. -/
theorem declareParameters_alike (method owner : String) {parameters parameters' : List Parameter}
    (alike : List.Forall₂ ParametersAlike parameters parameters') :
    StepsAlike (declareParameters env method owner parameters)
      (declareParameters (env.over classpath) method owner parameters') := by
  refine foldl_parameters_alike (fun parameter parameter' same => ?_) alike
  intro first second before
  simp only [same.1, same.2]
  exact (before.file _ _).declare _ _ _ _ _ _

/-- A method is filed with the same signature, and its body is walked inside it. -/
theorem visitMethod_alike (alike : WalkersAlike walker walker') (cursor : Cursor) :
    StepsAlike (visitMethod env walker cursor)
      (visitMethod (env.over classpath) walker' cursor) := by
  intro first second same
  unfold visitMethod
  cases cursor.node.child? "name" with
  | none => exact same
  | some name =>
    have parameters := parameters_alike env classpath first.scope second.scope
      (cursor.node.child? "parameters")
    simp only [same.owner, signature, erased_alike parameters]
    refine StepsAlike.inMethod (StepsAlike.inBlock fun first second before => ?_) _ _ _
      (same.file _ _)
    exact alike.visit? _ _ _
      (declareParameters_alike env classpath _ _ parameters first second before)

theorem declareComponents_alike {components components' : List Parameter}
    (alike : List.Forall₂ ParametersAlike components components') :
    StepsAlike (declareComponents env components)
      (declareComponents (env.over classpath) components') :=
  foldl_parameters_alike (fun _ _ _ _ _ before => before.declare _ _ _ _ _ _) alike

/-- A compact constructor declares the components of its record and walks its body. -/
theorem visitCompactConstructor_alike (alike : WalkersAlike walker walker') (cursor : Cursor) :
    StepsAlike (visitCompactConstructor env walker cursor)
      (visitCompactConstructor (env.over classpath) walker' cursor) := by
  intro first second same
  unfold visitCompactConstructor
  cases cursor.node.child? "name" with
  | none => exact same
  | some name =>
    have components := componentsOf_alike env classpath first.scope second.scope
      cursor.grandparent?
    simp only [same.owner, signature, erased_alike components]
    refine StepsAlike.inMethod (StepsAlike.inBlock fun first second before => ?_) _ _ _
      (same.file _ _)
    exact alike.visit? _ _ _ (declareComponents_alike env classpath components first second before)

/-! ### Statements -/

/-- A block is walked alike, also one that initialises objects. -/
theorem visitBlock_alike (alike : WalkersAlike walker walker') (cursor : Cursor) :
    StepsAlike (visitBlock walker cursor) (visitBlock walker' cursor) := by
  intro first second same
  have step := StepsAlike.inBlock (alike.visitChildren cursor)
  unfold visitBlock
  simp only
  split
  · exact StepsAlike.inMethod step instanceInit _ _ same
  · exact step _ _ same

/-- A variable is declared behind its value, with a type that may differ. -/
theorem declareBehind_alike (alike : WalkersAlike walker walker') (name : Node)
    (value : Option Cursor) (inferred : Bool) (ofValue : JavaType → Option JavaType)
    (written written' : Scope → Option JavaType) :
    StepsAlike (declareBehind env walker name value inferred ofValue written)
      (declareBehind (env.over classpath) walker' name value inferred ofValue written') := by
  intro first second same
  have walked := alike.visit? value _ _ same
  unfold declareBehind
  simp only
  split
  · exact (alike.valueType? value _ _ walked).declare _ _ _ _ _ _
  · exact walked.declare _ _ _ _ _ _

/-- A declarator of a local declaration files the same variable. -/
theorem visitLocal_alike (alike : WalkersAlike walker walker') (type : Option Node)
    (declared declared' : Option JavaType) (declarator : Cursor) :
    StepsAlike (visitLocal env walker type declared · declarator)
      (visitLocal (env.over classpath) walker' type declared' · declarator) := by
  intro first second same
  simp only [visitLocal]
  cases declarator.node.child? "name" with
  | none => exact same
  | some name =>
    exact declareBehind_alike env classpath alike name _ _ _ _ _ _ _
      (StepsAlike.fileLocal env classpath name _ _ _ same)

theorem visitLocals_alike (alike : WalkersAlike walker walker') (cursor : Cursor) :
    StepsAlike (visitLocals env walker cursor)
      (visitLocals (env.over classpath) walker' cursor) := fun _ _ same =>
  StepsAlike.foldl (fun declarator => visitLocal_alike env classpath alike _ _ _ declarator) _
    _ _ same

/-- The variable of an enhanced `for` is filed alike. -/
theorem visitLoopVariable_alike (alike : WalkersAlike walker walker') (cursor : Cursor)
    (name : Node) :
    StepsAlike (visitLoopVariable env walker cursor name)
      (visitLoopVariable (env.over classpath) walker' cursor name) := by
  intro first second same
  unfold visitLoopVariable
  exact declareBehind_alike env classpath alike name _ _ _ _ _ _ _
    (StepsAlike.fileLocal env classpath name _ _ _ same)

theorem visitLoop_alike (alike : WalkersAlike walker walker') (cursor : Cursor) :
    StepsAlike (visitLoop env walker cursor) (visitLoop (env.over classpath) walker' cursor) := by
  refine StepsAlike.inBlock fun first second same => ?_
  cases cursor.node.child? "name" with
  | none => exact alike.visit? _ _ _ same
  | some name =>
    exact alike.visit? _ _ _ (visitLoopVariable_alike env classpath alike cursor name _ _ same)

/-- What is caught is filed with the text of its types. -/
theorem declareCaught_alike (parameter : Node) :
    StepsAlike (declareCaught env parameter) (declareCaught (env.over classpath) parameter) := by
  intro first second same
  unfold declareCaught
  cases parameter.child? "name" with
  | none => exact same
  | some name => exact (StepsAlike.fileLocal env classpath name _ _ _ same).declare _ _ _ _ _ _

/-- A `catch` clause files what it catches and walks the rest. -/
theorem visitCatch_alike (alike : WalkersAlike walker walker') (cursor : Cursor) :
    StepsAlike (visitCatch env walker cursor)
      (visitCatch (env.over classpath) walker' cursor) := by
  refine StepsAlike.inBlock (StepsAlike.foldl (fun child first second same => ?_) _)
  simp only
  split
  · exact declareCaught_alike env classpath child.node _ _ same
  · exact alike.visit child _ _ same

theorem visitResource_alike (alike : WalkersAlike walker walker') (resource : Cursor) :
    StepsAlike (visitResource env walker · resource)
      (visitResource (env.over classpath) walker' · resource) := by
  intro first second same
  simp only [visitResource]
  cases resource.node.child? "name" with
  | none => exact alike.visitChildren resource _ _ same
  | some name =>
    exact declareBehind_alike env classpath alike name _ _ _ _ _ _ _
      (StepsAlike.fileLocal env classpath name _ _ _ same)

/-- A `try` with resources files its variables and walks its blocks. -/
theorem visitTry_alike (alike : WalkersAlike walker walker') (cursor : Cursor) :
    StepsAlike (visitTry env walker cursor) (visitTry (env.over classpath) walker' cursor) := by
  refine StepsAlike.inBlock (StepsAlike.foldl (fun child first second same => ?_) _)
  simp only
  split
  · exact StepsAlike.foldl (fun resource => visitResource_alike env classpath alike resource) _
      _ _ same
  · exact alike.visit child _ _ same

/-- An `instanceof` files the variable that it binds. -/
theorem visitInstanceof_alike (alike : WalkersAlike walker walker') (cursor : Cursor) :
    StepsAlike (visitInstanceof env walker cursor)
      (visitInstanceof (env.over classpath) walker' cursor) := by
  intro first second same
  unfold visitInstanceof
  cases cursor.node.child? "name" with
  | none => exact alike.visitChildren cursor _ _ same
  | some name =>
    have walked := alike.visit? (cursor.child? "left") _ _ same
    exact (StepsAlike.fileLocal env classpath name _ _ _ walked).declare _ _ _ _ _ _

/-- A pattern files the name at its end. -/
theorem visitPattern_alike (cursor : Cursor) :
    StepsAlike (visitPattern env cursor) (visitPattern (env.over classpath) cursor) := by
  intro first second same
  unfold visitPattern
  cases cursor.node.named.getLast? with
  | none => exact same
  | some name =>
    simp only
    split
    · exact (StepsAlike.fileLocal env classpath name _ _ _ same).declare _ _ _ _ _ _
    · exact same

theorem declareUntyped_alike (name : Node) :
    StepsAlike (declareUntyped env · name) (declareUntyped (env.over classpath) · name) :=
  fun _ _ same => (StepsAlike.fileLocal env classpath name _ _ _ same).declare _ _ _ _ _ _

/-- The parameters of a lambda are filed alike in any of their three forms. -/
theorem declareLambdaParameters_alike (list : Node) :
    StepsAlike (declareLambdaParameters env list)
      (declareLambdaParameters (env.over classpath) list) := by
  intro first second same
  unfold declareLambdaParameters
  split
  · exact declareUntyped_alike env classpath list _ _ same
  · split
    · exact StepsAlike.foldl (declareUntyped_alike env classpath) _ _ _ same
    · refine foldl_parameters_alike (fun parameter parameter' alike first second before => ?_)
        (parameters_alike env classpath first.scope second.scope (some list)) _ _ same
      simp only [declareTyped, alike.1, alike.2]
      exact (StepsAlike.fileLocal env classpath _ _ _ _ before).declare _ _ _ _ _ _

/-- A lambda walks its body behind its parameters. -/
theorem visitLambda_alike (alike : WalkersAlike walker walker') (cursor : Cursor) :
    StepsAlike (visitLambda env walker cursor)
      (visitLambda (env.over classpath) walker' cursor) := by
  refine StepsAlike.inBlock fun first second same => ?_
  cases cursor.node.child? "parameters" with
  | none => exact alike.visit? _ _ _ same
  | some list =>
    exact alike.visit? _ _ _ (declareLambdaParameters_alike env classpath list _ _ same)

/-- Behind what an access denotes, at most a failure is noted. -/
theorem resolves_visitAccess (env : Env) (walker : Walker) (cursor : Cursor) (state : State) :
    Resolves (walker.denote cursor true state).2 (visitAccess env walker cursor state) := by
  unfold visitAccess
  split
  · rename_i found
    simp only [found]
    split
    · exact resolves_note ..
    · exact Resolves.refl _
  · rename_i found
    simp only [found]
    exact Resolves.refl _
  · rename_i found
    simp only [found]
    exact Resolves.refl _
  · rename_i found
    simp only [found]
    exact resolves_note ..

/-- An access leads to alike states, whether or not it is attributed. -/
theorem visitAccess_alike (alike : WalkersAlike walker walker') (cursor : Cursor) :
    StepsAlike (visitAccess env walker cursor)
      (visitAccess (env.over classpath) walker' cursor) := fun first second same =>
  (alike.denote cursor true first second same).resolves (resolves_visitAccess ..)
    (resolves_visitAccess ..)

/-- A bare name leads to alike states, whatever it denotes. -/
theorem visitName_alike (alike : WalkersAlike walker walker') (cursor : Cursor) :
    StepsAlike (visitName walker cursor) (visitName walker' cursor) := by
  intro first second same
  unfold visitName
  cases cursor.parent? with
  | none => exact same
  | some parent =>
    simp only
    split
    · exact same
    · exact alike.denote cursor true _ _ same

/-- A creation walks the same parts and enters its body, if it has one. -/
theorem visitCreation_alike (alike : WalkersAlike walker walker') (cursor : Cursor) :
    StepsAlike (visitCreation env walker cursor)
      (visitCreation (env.over classpath) walker' cursor) := by
  intro first second same
  have walked := alike.visitAll ((creationParts cursor.node).map cursor.down) _ _ same
  unfold visitCreation
  cases creationBody? cursor.node with
  | none => exact walked
  | some body => exact enterAnonymous_alike env classpath alike _ _ _ _ _ walked

/-! ### Expressions -/

/-- Behind what an expression denotes, a field or a method of it is only resolved. -/
theorem resolves_denoteField (env : Env) (walker : Walker) (cursor object : Cursor) (field : Node)
    (recording : Bool) (state : State) (hasObject : cursor.child? "object" = some object)
    (hasField : cursor.node.child? "field" = some field) :
    Resolves (walker.denote object (recording && !(field.kind == "this")) state).2
      (denoteField env walker cursor recording state).2 := by
  unfold denoteField
  rw [hasObject, hasField]
  simp only
  cases field.kind == "this" with
  | true =>
    simp only [Bool.not_true, Bool.and_false]
    exact Resolves.refl _
  | false =>
    simp only [Bool.not_false, Bool.and_true, Bool.false_eq_true, if_false]
    split
    · rename_i found
      simp only [found]
      exact resolves_fieldOn ..
    · rename_i found
      simp only [found]
      exact Resolves.refl _

/-- What a field access denotes may differ, but not what is declared on the way. -/
theorem denoteField_alike (alike : WalkersAlike walker walker') (cursor : Cursor)
    (recording : Bool) :
    StepsAlike (fun state => (denoteField env walker cursor recording state).2)
      (fun state => (denoteField (env.over classpath) walker' cursor recording state).2) := by
  intro first second same
  cases hasObject : cursor.child? "object" with
  | none => simpa only [denoteField, hasObject] using same
  | some object =>
    cases hasField : cursor.node.child? "field" with
    | none => simpa only [denoteField, hasObject, hasField] using same
    | some field =>
      exact (alike.denote object _ _ _ same).resolves
        (resolves_denoteField env walker cursor object field recording first hasObject hasField)
        (resolves_denoteField _ walker' cursor object field recording second hasObject hasField)

/-- Behind the object of a call, its method is only resolved. -/
theorem resolves_denoteCallee (env : Env) (walker : Walker) (object : Cursor) (name : Node)
    (recording : Bool) (state : State) :
    Resolves (walker.denote object recording state).2
      (denoteCallee env walker (some object) name recording state).2 := by
  simp only [denoteCallee]
  split
  · rename_i found
    simp only [found]
    exact resolves_methodOn ..
  · rename_i found
    simp only [found]
    exact Resolves.refl _

/-- The method of a call without a receiver is only resolved. -/
theorem resolves_denoteCallee_none (env : Env) (walker : Walker) (name : Node)
    (recording : Bool) (state : State) :
    Resolves state (denoteCallee env walker none name recording state).2 := by
  simp only [denoteCallee]
  split
  · exact resolves_noteReference ..
  · exact Resolves.refl _

theorem denoteCallee_alike (alike : WalkersAlike walker walker') (object : Option Cursor)
    (name : Node) (recording : Bool) :
    StepsAlike (fun state => (denoteCallee env walker object name recording state).2)
      (fun state => (denoteCallee (env.over classpath) walker' object name recording state).2) := by
  intro first second same
  cases object with
  | none =>
    exact same.resolves (resolves_denoteCallee_none ..) (resolves_denoteCallee_none ..)
  | some object =>
    exact (alike.denote object recording _ _ same).resolves (resolves_denoteCallee ..)
      (resolves_denoteCallee ..)

/-- A call walks its arguments whatever its callee denotes. -/
theorem denoteCall_alike (alike : WalkersAlike walker walker') (cursor : Cursor)
    (recording : Bool) :
    StepsAlike (fun state => (denoteCall env walker cursor recording state).2)
      (fun state => (denoteCall (env.over classpath) walker' cursor recording state).2) := by
  intro first second same
  unfold denoteCall
  cases cursor.node.child? "name" with
  | none => exact same
  | some name =>
    exact alike.visitRecording recording _ _ _
      (denoteCallee_alike env classpath alike (cursor.child? "object") name recording _ _ same)

theorem denoteQualifier_alike (alike : WalkersAlike walker walker') (qualifier : Cursor)
    (recording : Bool) :
    StepsAlike (fun state => (denoteQualifier env walker qualifier recording state).2)
      (fun state => (denoteQualifier (env.over classpath) walker' qualifier recording state).2) := by
  have resolved (env : Env) (state : State) (walker : Walker)
      (isType : Tree.isTypeKind qualifier.kind = true) :
      (denoteQualifier env walker qualifier recording state).2 = state := by
    rw [denoteQualifier, if_pos isType]
    split <;> rfl
  intro first second same
  by_cases isType : Tree.isTypeKind qualifier.kind = true
  · simp only [resolved _ _ _ isType]
    exact same
  · simp only [denoteQualifier, if_neg isType]
    exact alike.denote qualifier recording _ _ same

/-- Behind its left side a method reference is only resolved. -/
theorem resolves_denoteReference (env : Env) (walker : Walker) (cursor qualifier : Cursor)
    (others : List Cursor) (recording : Bool) (state : State)
    (parts : cursor.named = qualifier :: others) :
    Resolves (denoteQualifier env walker qualifier recording state).2
      (denoteReference env walker cursor recording state).2 := by
  unfold denoteReference
  simp only [parts]
  split
  · rename_i found
    simp only [found]
    exact Resolves.refl _
  · rename_i found
    simp only [found]
    split
    · split
      · exact Resolves.refl _
      · exact resolves_referredMethod ..
    · exact Resolves.refl _

theorem denoteReference_alike (alike : WalkersAlike walker walker') (cursor : Cursor)
    (recording : Bool) :
    StepsAlike (fun state => (denoteReference env walker cursor recording state).2)
      (fun state => (denoteReference (env.over classpath) walker' cursor recording state).2) := by
  intro first second same
  cases parts : cursor.named with
  | nil => simpa only [denoteReference, parts] using same
  | cons qualifier others =>
    exact (denoteQualifier_alike env classpath alike qualifier recording _ _ same).resolves
      (resolves_denoteReference _ _ _ _ _ _ _ parts)
      (resolves_denoteReference _ _ _ _ _ _ _ parts)

/-- An element of an array walks its index whatever the array denotes. -/
theorem denoteElement_alike (alike : WalkersAlike walker walker') (cursor : Cursor)
    (recording : Bool) :
    StepsAlike (fun state => (denoteElement env walker cursor recording state).2)
      (fun state => (denoteElement (env.over classpath) walker' cursor recording state).2) := by
  intro first second same
  cases hasArray : cursor.child? "array" with
  | none => simpa only [denoteElement, hasArray] using same
  | some array =>
    simp only [denoteElement_snd _ _ _ _ _ _ hasArray]
    exact alike.visitRecording recording _ _ _ (alike.denote array recording _ _ same)

/-- **What a node denotes** may differ between class paths; the states behind it are alike. -/
theorem denoteNode_alike (alike : WalkersAlike walker walker') (cursor : Cursor)
    (recording : Bool) :
    StepsAlike (fun state => (denoteNode env walker cursor recording state).2)
      (fun state => (denoteNode (env.over classpath) walker' cursor recording state).2) := by
  intro first second same
  simp only [denoteNode]
  cases ExprForm.ofKind cursor.kind with
  | name => exact same.resolves (resolves_denoteName ..) (resolves_denoteName ..)
  | this =>
    simp only
    split <;> split <;> exact same
  | field => exact denoteField_alike env classpath alike cursor recording _ _ same
  | call => exact denoteCall_alike env classpath alike cursor recording _ _ same
  | reference => exact denoteReference_alike env classpath alike cursor recording _ _ same
  | parenthesized =>
    simp only
    split
    · exact alike.denote _ recording _ _ same
    · exact same
  | element => exact denoteElement_alike env classpath alike cursor recording _ _ same
  | cast => exact alike.visitRecording recording _ _ _ same
  | creation =>
    cases recording with
    | false => exact same
    | true => exact visitCreation_alike env classpath alike cursor _ _ same
  | arrayCreation =>
    cases recording with
    | false => exact same
    | true => exact alike.visitChildren cursor _ _ same
  | other =>
    cases recording with
    | false => exact same
    | true => exact alike.visit cursor _ _ same
  | super => exact same
  | text => exact same
  | classLiteral => exact same

/-- **A step of the walk**: a node is visited alike, whatever construct it is. -/
theorem visitNode_alike (alike : WalkersAlike walker walker') (cursor : Cursor) :
    StepsAlike (visitNode env walker cursor) (visitNode (env.over classpath) walker' cursor) := by
  intro first second same
  unfold visitNode
  cases Construct.ofKind cursor.kind with
  | skipped => exact same
  | type => exact visitType_alike env classpath alike cursor _ _ same
  | fields => exact visitFields_alike env classpath alike cursor _ _ same
  | method => exact visitMethod_alike env classpath alike cursor _ _ same
  | compactConstructor => exact visitCompactConstructor_alike env classpath alike cursor _ _ same
  | enumConstant => exact visitEnumConstant_alike env classpath alike cursor _ _ same
  | staticInitializer => exact StepsAlike.inMethod (alike.visitChildren cursor) classInit _ _ same
  | block => exact visitBlock_alike alike cursor _ _ same
  | blockLike => exact StepsAlike.inBlock (alike.visitChildren cursor) _ _ same
  | locals => exact visitLocals_alike env classpath alike cursor _ _ same
  | loop => exact visitLoop_alike env classpath alike cursor _ _ same
  | catchClause => exact visitCatch_alike env classpath alike cursor _ _ same
  | resources => exact visitTry_alike env classpath alike cursor _ _ same
  | instanceof => exact visitInstanceof_alike env classpath alike cursor _ _ same
  | pattern => exact visitPattern_alike env classpath cursor _ _ same
  | lambda => exact visitLambda_alike env classpath alike cursor _ _ same
  | creation => exact visitCreation_alike env classpath alike cursor _ _ same
  | access => exact visitAccess_alike env classpath alike cursor _ _ same
  | name => exact visitName_alike alike cursor _ _ same
  | other => exact alike.visitChildren cursor _ _ same

end Steps

/-! ## The walks -/

/-- Both walks give up at the same node. -/
theorem giveUpAt_alike (env : Env) (classpath : Classpath) (node : Node) :
    StepsAlike (State.giveUpAt env node) (State.giveUpAt (env.over classpath) node) := by
  intro first second same
  unfold State.giveUpAt
  rw [same.tooDeep]
  split
  · exact same
  · exact ⟨same.scope, same.declarations, rfl⟩

/-- **The simulation.** With any number of levels left, walkers with different class paths go on
alike. -/
theorem walker_alike (env : Env) (classpath : Classpath) (room : Nat) :
    WalkersAlike (walker env room) (walker (env.over classpath) room) := by
  induction room with
  | zero =>
    exact ⟨fun cursor => giveUpAt_alike env classpath cursor.node,
      fun cursor _ => giveUpAt_alike env classpath cursor.node⟩
  | succ room ih =>
    constructor
    · intro cursor first second same
      simp only [walker, atLevel_eq, same.tooDeep]
      split
      · exact same
      · exact visitNode_alike env classpath ih cursor _ _ same
    · intro cursor recording first second same
      simp only [walker, atLevel_eq, same.tooDeep]
      split
      · exact same
      · exact denoteNode_alike env classpath ih cursor recording _ _ same

/-- Two walks over one tree differ in what was resolved only. -/
theorem walk_alike (env : Env) (classpath : Classpath) (root : Node) :
    Alike (walk env root) (walk (env.over classpath) root) :=
  (walker_alike env classpath Tree.maxNesting).visit (Cursor.root root) {} {} ⟨rfl, rfl, rfl⟩

end SymbolIndex.Walk

namespace SymbolIndex

open SymbolIndex.Tree (Node Source SourceError)

/-- The shelves of declarations depend on the filed declarations alone. -/
theorem shelf_eq_of_alike {first second : Walk.State} (alike : Walk.Alike first second)
    {kind : OccurrenceKind} (declares : kind ≠ .reference) :
    first.table.shelf kind = second.table.shelf kind := by
  have entries (state : Walk.State) :
      Table.entriesOf kind (state.filings.reverse.map Walk.Filing.entry) =
        Table.entriesOf kind (Walk.declarationsOf state.filings).reverse := by
    simp only [Table.entriesOf, Walk.declarationsOf, ← List.map_reverse, ← List.filter_reverse,
      List.filter_map, List.filter_filter]
    congr 1
    refine List.filter_congr fun filing _ => ?_
    by_cases same : filing.occurrence.kind = kind
    · simp [Walk.Filing.entry, Occurrence.isDeclaration, same, declares]
    · simp [Walk.Filing.entry, same]
  simp only [Walk.State.table, Table.shelf_ofEntries, entries, alike.declarations]

/-- What two indexes of one source have in common: both fail with the same error, or both succeed
with the same fields, parameters, local variables and methods. -/
def SameDeclarations : Except SourceError SourceIndex → Except SourceError SourceIndex → Prop
  | .error error, .error error' => error = error'
  | .ok index, .ok index' =>
    ∀ kind, kind ≠ .reference → index.table.shelf kind = index'.table.shelf kind
  | _, _ => False

/-- **Declarations do not depend on the class path.** Whatever two class paths know, indexing a
source against them fails with the same error or gives the same declarations: the same names, and
under each the same records in the same order. -/
theorem build_sameDeclarations (source : Source) (root : Node) (first second : Classpath) :
    SameDeclarations (SourceIndex.build source root first)
      (SourceIndex.build source root second) := by
  unfold SourceIndex.build
  cases Tree.check source root with
  | error error => rfl
  | ok _ =>
    have alike := Walk.walk_alike (Walk.Env.ofTree source root first) second root
    change Walk.Alike _ (Walk.walk (Walk.Env.ofTree source root second) root) at alike
    simp only [SourceIndex.ofWalk, alike.tooDeep]
    split
    · rfl
    · exact fun kind declares => shelf_eq_of_alike alike declares

end SymbolIndex
