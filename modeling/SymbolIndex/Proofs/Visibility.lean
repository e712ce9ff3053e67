import SymbolIndex.Proofs.Leavings
import SymbolIndex.Proofs.Trace

/-!
# Where a local variable is seen

`Comes` follows a walk from one place to another below it: what it does on the way, and what it has left
behind by then in the scope of the place it came from. It is read off the scripts, level by level, and holds
of every place that a walk comes to.

**The law** (`local_seen_behind`): a variable that a statement declares is what its name stands for at every
place that the walk comes to from a later statement of the same block, as long as the place lies in no other
class body and the name is not bound again on the way. It has the type that it was declared with. Blocks,
loops, lambdas, rules of a `switch`, and `try` and `catch` on the way open blocks of their own, and no field,
static import or type comes before a variable of an open block.

The statements of a `switch` are no exception when they stand in one group. Each group has a block of its
own, so a variable is not seen in the groups behind its own (`local_missed_in_next_group`).
-/

namespace SymbolIndex.Walk

open SymbolIndex.Tree (Node Cursor)

/-! ## Where a walk comes to -/

/-- Something that a walk comes to. -/
inductive Event where
  /-- A node is visited. -/
  | visit (cursor : Cursor)
  /-- A node is followed as an expression. -/
  | denote (cursor : Cursor) (recording : Bool)

namespace Event

/-- The place at which it happens. -/
def cursor : Event → Cursor
  | .visit cursor | .denote cursor _ => cursor

/-- What is done there. -/
def script (env : Env) : Event → Script
  | .visit cursor => visitScript env cursor
  | .denote cursor recording => denoteScript cursor recording

end Event

/-- What a script comes to before anything below it is gone into: the state there, what has been left behind
on the way, and whether a class body has been entered. -/
inductive Meets (env : Env) (walker : Walker) (below : Reading (List Leaving)) :
    Cursor → Script → State → List Leaving → Bool → Event → State → Prop
  | visit {cursor : Cursor} {state : State} :
      Meets env walker below cursor .visit state [] false (.visit cursor) state
  | denote {cursor : Cursor} {state : State} (recording : Bool) :
      Meets env walker below cursor (.denote recording) state [] false (.denote cursor recording) state
  | first {cursor : Cursor} {script script' : Script} {state state' : State} {left : List Leaving}
      {entered : Bool} {event : Event}
      (meets : Meets env walker below cursor script state left entered event state') :
      Meets env walker below cursor (.seq script script') state left entered event state'
  | second {cursor : Cursor} {script script' : Script} {state middle state' : State}
      {left : List Leaving} {entered : Bool} {event : Event}
      (does : Does env walker cursor script state middle)
      (meets : Meets env walker below cursor script' middle left entered event state') :
      Meets env walker below cursor (.seq script script') state
        (script.leavings below cursor ++ left) entered event state'
  | under {cursor : Cursor} {child : Node} {script : Script} {state state' : State} {left : List Leaving}
      {entered : Bool} {event : Event}
      (meets : Meets env walker below (cursor.down child) script state left entered event state') :
      Meets env walker below cursor (.under child script) state left entered event state'
  | block {cursor : Cursor} {script : Script} {state state' : State} {left : List Leaving}
      {entered : Bool} {event : Event}
      (meets : Meets env walker below cursor script (state.withScope Scope.pushBlock) left entered event
        state') :
      Meets env walker below cursor (.block script) state left entered event state'
  | member {cursor : Cursor} {script : Script} {state state' : State} {left : List Leaving}
      {entered : Bool} {event : Event} {method : String}
      (meets : Meets env walker below cursor script (state.withScope (·.setMethod (some method))) left
        entered event state') :
      Meets env walker below cursor (.member script) state left entered event state'
  | body {cursor : Cursor} {naming : Naming} {script : Script} {state state' : State}
      {left : List Leaving} {entered : Bool} {event : Event} {frame : Frame}
      (named : frame.path = naming.path env state.scope) (bare : frame.Bare)
      (meets : Meets env walker below cursor script (state.withScope (naming.opened env frame)) left entered
        event state') :
      Meets env walker below cursor (.body naming script) state left true event state'
  | behind {cursor : Cursor} {script : Script} {state middle state' : State} {left : List Leaving}
      {entered : Bool} {event : Event} (quiet : Quiet state middle)
      (meets : Meets env walker below cursor script middle left entered event state') :
      Meets env walker below cursor script state left entered event state'

/-- What a walk comes to from an event, with a number of levels left. A walk that has been given up goes no
further. -/
inductive Comes (env : Env) : Nat → Event → State → List Leaving → Bool → Event → State → Prop
  | here {room : Nat} {event : Event} {state : State} : Comes env room event state [] false event state
  | into {room : Nat} {event next last : Event} {state middle state' : State}
      {left left' : List Leaving} {entered entered' : Bool} (alive : state.tooDeep = none)
      (meets : Meets env (walker env room) (leavings env room) event.cursor (event.script env) state left
        entered next middle)
      (comes : Comes env room next middle left' entered' last state') :
      Comes env (room + 1) event state (left ++ left') (entered || entered') last state'

variable {env : Env}

/-! ## Variables on the way -/

theorem innermostBlocks_setMethod (scope : Scope) (method : Option String) :
    (scope.setMethod method).innermostBlocks = scope.innermostBlocks := by
  obtain ⟨frames, outer, finished⟩ := scope
  cases frames <;> rfl

/-- An empty block hides nothing. -/
theorem inBlocks_pushBlock (scope : Scope) (name : String) :
    Scope.inBlocks name scope.pushBlock.innermostBlocks = Scope.inBlocks name scope.innermostBlocks := by
  obtain ⟨frames, outer, finished⟩ := scope
  cases frames <;> rfl

/-- What a script does on the way changes no variable but those it binds. -/
theorem Meets.inBlocks {walker : Walker} {below : Reading (List Leaving)} {cursor : Cursor}
    {script : Script} {state state' : State} {left : List Leaving} {entered : Bool} {event : Event}
    (meets : Meets env walker below cursor script state left entered event state')
    (only : LeavesOnly env walker below) (outside : entered = false) {name : String}
    (unbound : name ∉ boundIn env left) :
    Scope.inBlocks name state'.scope.innermostBlocks = Scope.inBlocks name state.scope.innermostBlocks := by
  induction meets with
  | visit | denote => rfl
  | first _ ih => exact ih outside unbound
  | second does _ ih =>
    rw [boundIn_append, List.mem_append, not_or] at unbound
    exact (ih outside unbound.2).trans ((does.leaves only).inBlocks unbound.1)
  | under _ ih => exact ih outside unbound
  | block _ ih => exact (ih outside unbound).trans (inBlocks_pushBlock _ name)
  | member _ ih =>
    rw [ih outside unbound]
    exact congrArg _ (innermostBlocks_setMethod _ _)
  | body => cases outside
  | behind quiet _ ih => rw [ih outside unbound, quiet.scope]

/-- So it is on the whole way, by induction on the levels. -/
theorem Comes.inBlocks {room : Nat} {event last : Event} {state state' : State} {left : List Leaving}
    {entered : Bool} (comes : Comes env room event state left entered last state')
    (outside : entered = false) {name : String} (unbound : name ∉ boundIn env left) :
    Scope.inBlocks name state'.scope.innermostBlocks = Scope.inBlocks name state.scope.innermostBlocks := by
  induction comes with
  | here => rfl
  | @into room _ _ _ _ _ _ _ _ _ _ _ meets _ ih =>
    rw [boundIn_append, List.mem_append, not_or] at unbound
    rw [Bool.or_eq_false_iff] at outside
    exact (ih outside.2 unbound.2).trans (meets.inBlocks (walker_leaves env room) outside.1 unbound.1)

/-- A variable of the innermost blocks is what its name stands for. -/
theorem lookup_of_inBlocks {scope : Scope} {name : String} {found : Variable}
    (seen : Scope.inBlocks name scope.innermostBlocks = some found)
    (inherited : Frame → String → Option (String × Option JavaType)) :
    scope.lookup name inherited = some found := by
  obtain ⟨frames, outer, finished⟩ := scope
  cases frames with
  | nil => exact seen
  | cons frame frames =>
    have inFrame : Scope.inFrame name inherited frame = some found := by
      simp only [Scope.innermostBlocks] at seen
      simp only [Scope.inFrame, seen]
    simp only [Scope.lookup, List.findSome?_cons, inFrame]

/-- A name that has just been declared stands for its local. -/
theorem inBlocks_declared (name : String) (type : Option JavaType) (blocks : List Block) :
    Scope.inBlocks name (declareIn blocks name type) = some (.declared type) := by
  have found (block : Block) : (block.insert name type).find? name = some type := by
    rw [Bindings.find?_insert, if_pos rfl]
  cases blocks with
  | nil => simp only [declareIn, Scope.inBlocks, List.findSome?_cons, found, Option.map_some]
  | cons block below => simp only [declareIn, Scope.inBlocks, List.findSome?_cons, found, Option.map_some]

/-! ## Declarations -/

/-- The type that a declarator gives its variable, in the state in front of it: the one that is written, or
that of the value. -/
def localType (env : Env) (walker : Walker) (type : Option Node) (declared : Option JavaType)
    (state : State) (declarator : Cursor) : Option JavaType :=
  if isInferred env type then
    (declarator.node.child? "name").bind fun name =>
      let value := declarator.child? "value"
      (walker.valueType? value (walker.visit? value (state.fileLocal env name none))).1
  else declared.map (·.arrayOf (Tree.dimensionsOf env.source (declarator.node.child? "dimensions")))

/-- Behind its declarator a variable has the type of the declarator. -/
theorem visitLocal_declares (walker : Walker) (type : Option Node) (declared : Option JavaType)
    (state : State) {declarator : Cursor} {name : Node}
    (named : declarator.node.child? "name" = some name) :
    Scope.inBlocks (env.text name)
        (visitLocal env walker type declared state declarator).scope.innermostBlocks =
      some (.declared (localType env walker type declared state declarator)) := by
  have seen (state : State) (type : Option JavaType) :
      Scope.inBlocks (env.text name) (state.declare env name type).scope.innermostBlocks =
        some (.declared type) := by
    show Scope.inBlocks _ (state.scope.declare (env.text name) type).innermostBlocks = _
    rw [innermostBlocks_declare, inBlocks_declared]
  unfold visitLocal localType declareBehind
  simp only [named]
  by_cases inferred : isInferred env type = true
  · simp only [inferred, if_true, Option.bind_some, Option.bind_fun_some]
    exact seen _ _
  · simp only [inferred]
    exact seen _ _

/-- What is done at some declarators of a declaration. -/
def declaratorsScript (env : Env) (declaration : Cursor) (declarators : List Node) : Script :=
  .each (fun declarator =>
    .under declarator (variableScript env (declaration.node.child? "type") declarator)) declarators

/-- What some declarators of a declaration leave behind. -/
def declaratorLeavings (env : Env) (room : Nat) (declaration : Cursor) (declarators : List Node) :
    List Leaving :=
  (declaratorsScript env declaration declarators).leavings (leavings env room) declaration

/-- A walk that goes on has not been given up. -/
theorem Comes.alive {room : Nat} {event last : Event} {state state' : State} {left : List Leaving}
    {entered : Bool} (comes : Comes env room event state left entered last state')
    (moves : event ≠ last) : state.tooDeep = none := by
  cases comes with
  | here => exact absurd rfl moves
  | into alive => exact alive

/-- A walk that is not given up was not given up before. -/
theorem alive_of_visit {room : Nat} {cursor : Cursor} {state : State}
    (alive : ((walker env room).visit cursor state).tooDeep = none) : state.tooDeep = none := by
  have run := (walker_runs env False room).visit cursor state False.elim
  exact (run.trace.alive alive).1

theorem alive_of_visitAll {room : Nat} {cursors : List Cursor} {state : State}
    (alive : ((walker env room).visitAll cursors state).tooDeep = none) : state.tooDeep = none := by
  unfold Walker.visitAll at alive
  induction cursors generalizing state with
  | nil => exact alive
  | cons cursor cursors ih => exact alive_of_visit (ih alive)

/-- The type that a declaration writes, unless it is to be inferred. -/
def writtenType (env : Env) (declaration : Node) (scope : Scope) : Option JavaType :=
  let type := declaration.child? "type"
  if isInferred env type then none else typeOf? env scope type

/-- Some declarators of a declaration are gone through. -/
def declareEach (env : Env) (walker : Walker) (declaration : Cursor) (written : Option JavaType)
    (declarators : List Node) (state : State) : State :=
  declarators.foldl (fun state declarator => visitLocal env walker (declaration.node.child? "type") written
    state (declaration.down declarator)) state

/-- A local declaration declares its names one by one, with the type that is written in front of them. -/
theorem visitLocals_eq (walker : Walker) (declaration : Cursor) (state : State) :
    visitLocals env walker declaration state = declareEach env walker declaration
      (writtenType env declaration.node state.scope) (declaration.node.childrenIn "declarator") state := by
  simp only [visitLocals, declareEach, writtenType, Cursor.childrenIn, List.foldl_map]

/-- Declaring some of its names is a script of the declaration. -/
theorem declareEach_does (walker : Walker) (declaration : Cursor) (written : Option JavaType)
    (declarators : List Node) (state : State) :
    Does env walker declaration (declaratorsScript env declaration declarators) state
      (declareEach env walker declaration written declarators state) :=
  Does.each declarators (fun declarator _ state => visitLocal_does _ written declarator state) state

/-- Behind its declaration a variable is seen with its type. -/
theorem visitLocals_declares {room : Nat} {declaration : Cursor} {declarator name : Node}
    {earlier later : List Node} (state : State)
    (declarators : declaration.node.childrenIn "declarator" = earlier ++ declarator :: later)
    (named : declarator.child? "name" = some name)
    (unbound : env.text name ∉ boundIn env (declaratorLeavings env room declaration later)) :
    let written := writtenType env declaration.node state.scope
    let front := declareEach env (walker env room) declaration written earlier state
    Scope.inBlocks (env.text name)
        (visitLocals env (walker env room) declaration state).scope.innermostBlocks =
      some (.declared (localType env (walker env room) (declaration.node.child? "type") written front
        (declaration.down declarator))) := by
  intro written front
  have split : visitLocals env (walker env room) declaration state =
      declareEach env (walker env room) declaration written later
        (visitLocal env (walker env room) (declaration.node.child? "type") written front
          (declaration.down declarator)) := by
    rw [visitLocals_eq, declarators, declareEach, List.foldl_append, List.foldl_cons]
    rfl
  have rest (state : State) := (declareEach_does (walker env room) declaration written later state).leaves
    (walker_leaves env room)
  rw [split, (rest _).inBlocks unbound]
  exact visitLocal_declares _ _ _ _ named

/-- **A local variable is seen in the statements behind it.** Take a declaration among the statements of a
block, visited in any state, and a declarator of it. Wherever the walk comes to a name from a later
statement, by whatever way outside of other class bodies, the name stands for the variable with the type it
was declared with, if it is that of the declarator and is bound again neither by a later declarator, nor by
a statement in between, nor on the way. Following the name then files nothing. -/
theorem local_seen_behind (env : Env) (room : Nat) (block : Cursor) (state last : State)
    (declaration statement declarator name : Node) (earlier later between : List Node) (cursor : Cursor)
    (recording : Bool) (left : List Leaving)
    (declares : declaration.kind = "local_variable_declaration")
    (declarators : declaration.childrenIn "declarator" = earlier ++ declarator :: later)
    (named : declarator.child? "name" = some name)
    (comes : Comes env (room + 1) (.visit (block.down statement))
      ((walker env (room + 1)).visitAll ((declaration :: between).map block.down) state) left false
      (.denote cursor recording) last)
    (isName : cursor.kind = "identifier") (sameName : env.text cursor.node = env.text name)
    (unbound : env.text name ∉ boundIn env (declaratorLeavings env room (block.down declaration) later ++
      between.flatMap (fun node => (leavings env (room + 1)).visit (block.down node)) ++ left)) :
    let written := writtenType env declaration state.scope
    let front := declareEach env (walker env room) (block.down declaration) written earlier state
    let type := localType env (walker env room) (declaration.child? "type") written front
      ((block.down declaration).down declarator)
    last.scope.lookup (env.text cursor.node) (inheritedField env last.scope) = some (.declared type) ∧
      ∀ walker, denoteNode env walker cursor recording last =
        (variableOutcome (env.text cursor.node) type, last) := by
  intro written front type
  rw [boundIn_append, boundIn_append, List.mem_append, List.mem_append, not_or, not_or] at unbound
  obtain ⟨⟨unboundLater, unboundBetween⟩, unboundLeft⟩ := unbound
  have moves : Event.visit (block.down statement) ≠ .denote cursor recording := nofun
  have aliveBehind := comes.alive moves
  have alive : state.tooDeep = none := alive_of_visitAll aliveBehind
  -- The declaration itself.
  have visited : (walker env (room + 1)).visit (block.down declaration) state =
      visitLocals env (walker env room) (block.down declaration) state := by
    have isLocals : Construct.ofKind (block.down declaration).kind = .locals := by
      show Construct.ofKind declaration.kind = _
      rw [declares]
      decide
    simp only [walker, alive, atLevel_eq, visitNode, isLocals]
  have declared := visitLocals_declares state declarators named unboundLater
  rw [← visited] at declared
  -- The statements in between, and the way from the last one.
  have unboundAll : env.text name ∉ boundIn env ((between.map block.down).flatMap
      (leavings env (room + 1)).visit) := by
    rwa [List.flatMap_map]
  have passed := (walker_leaves env (room + 1)).visitAll (between.map block.down)
    ((walker env (room + 1)).visit (block.down declaration) state)
  have seen := (comes.inBlocks rfl unboundLeft).trans ((passed.inBlocks unboundAll).trans declared)
  rw [← sameName] at seen
  have found : last.scope.lookup (env.text cursor.node) (inheritedField env last.scope) =
      some (.declared type) := lookup_of_inBlocks seen _
  refine ⟨found, fun walker => ?_⟩
  have isForm : ExprForm.ofKind cursor.kind = .name := by
    rw [isName]
    decide
  simp only [denoteNode, isForm, denoteName, found]

theorem visitScript_other {cursor : Cursor} (isOther : Construct.ofKind cursor.kind = .other) :
    visitScript env cursor = visitEach cursor.node.named := by
  simp only [visitScript, isOther]

theorem visitScript_access {cursor : Cursor} (isAccess : Construct.ofKind cursor.kind = .access) :
    visitScript env cursor = .denote true := by
  simp only [visitScript, isAccess]

theorem denoteScript_call {cursor : Cursor} (isCall : ExprForm.ofKind cursor.kind = .call)
    (recording : Bool) : denoteScript cursor recording = callScript recording cursor.node := by
  simp only [denoteScript, isCall]

/-- The call `x.run()` at a byte. -/
def runningCall (start : Nat) : Node :=
  .word "method_invocation" none start (start + 7) [
    .word "identifier" (some "object") start (start + 1) [],
    .token "." (start + 1) (start + 2),
    .word "identifier" (some "name") (start + 2) (start + 5) [],
    .word "argument_list" (some "arguments") (start + 5) (start + 7)
      [.token "(" (start + 5) (start + 6), .token ")" (start + 6) (start + 7)]]

/-- The statement `x.run();` at a byte. -/
def runningStatement (start : Nat) : Node :=
  .word "expression_statement" none start (start + 8)
    [runningCall start, .token ";" (start + 7) (start + 8)]

/-- The declaration `C x;` at a byte. -/
def plainLocal (start : Nat) : Node :=
  .word "local_variable_declaration" none start (start + 4) [
    .word "type_identifier" (some "type") start (start + 1) [],
    .word "variable_declarator" (some "declarator") (start + 2) (start + 3)
      [.word "identifier" (some "name") (start + 2) (start + 3) []],
    .token ";" (start + 3) (start + 4)]

/-- The block `{ C x; x.run(); }`. -/
def seenBlock : Node :=
  .word "block" none 0 17 [.token "\x7b" 0 1, plainLocal 2, runningStatement 7, .token "\x7d" 16 17]

def seenEnv : Env :=
  Env.ofTree (.ofText "\x7b C x; x.run(); \x7d") (.word "program" none 0 17 [seenBlock]) runningClasses

/-- Behind `C x;` the walk comes to the receiver of `x.run()`, and there `x` has the type `C`. -/
theorem local_seen_behind_call :
    let env := seenEnv
    let block := (Cursor.root (.word "program" none 0 17 [seenBlock])).down seenBlock
    let statement := block.down (runningStatement 7)
    let call := statement.down (runningCall 7)
    let receiver := call.down (.word "identifier" (some "object") 7 8 [])
    let behind := (walker env 8).visitAll [block.down (plainLocal 2)] {}
    Comes env 8 (.visit statement) behind [] false (.denote receiver true) behind ∧
      behind.scope.lookup "x" (inheritedField env behind.scope) =
        some (.declared (some (.reference "C"))) := by
  intro env block statement call receiver behind
  have comes : Comes env 8 (.visit statement) behind [] false (.denote receiver true) behind := by
    have alive : behind.tooDeep = none := by decide +kernel
    have isOther : Construct.ofKind statement.kind = .other := by decide
    have isAccess : Construct.ofKind call.kind = .access := by decide
    have isCall : ExprForm.ofKind call.kind = .call := by decide
    have into {room : Nat} {event : Event} (next : Event)
        (meets : Meets env (walker env room) (leavings env room) event.cursor (event.script env) behind []
          false next behind) (comes : Comes env room next behind [] false (.denote receiver true) behind) :
        Comes env (room + 1) event behind [] false (.denote receiver true) behind := .into alive meets comes
    refine into (.visit call) ?_ (into (.denote call true) ?_ (into (.denote receiver true) ?_ .here))
    · rw [Event.script, visitScript_other isOther]
      exact .first (.under .visit)
    · rw [Event.script, visitScript_access isAccess]
      exact .denote true
    · rw [Event.script, denoteScript_call isCall]
      exact .first (.under (.denote true))
  have seen := (local_seen_behind env 7 block {} behind (plainLocal 2) (runningStatement 7)
    (.word "variable_declarator" (some "declarator") 4 5 [.word "identifier" (some "name") 4 5 []])
    (.word "identifier" (some "name") 4 5 []) [] [] [] receiver true [] rfl rfl rfl comes rfl
    (by decide +kernel) (by decide +kernel)).1
  have text : env.text receiver.node = "x" := by decide +kernel
  rw [text] at seen
  exact ⟨comes, seen.trans (by decide +kernel)⟩

/-- The group `case 0: C x;`. -/
def declaringGroup : Node :=
  .word "switch_block_statement_group" none 44 56 [
    .word "switch_label" none 44 50
      [.token "case" 44 48, .word "decimal_integer_literal" none 49 50 []],
    .token ":" 50 51,
    plainLocal 52]

/-- The group `default: x = null; x.run();` behind it. -/
def callingGroup : Node :=
  .word "switch_block_statement_group" none 57 84 [
    .word "switch_label" none 57 64 [.token "default" 57 64],
    .token ":" 64 65,
    .word "expression_statement" none 66 75 [
      .word "assignment_expression" none 66 74 [
        .word "identifier" (some "left") 66 67 [],
        .token "=" 68 69,
        .word "null_literal" (some "right") 70 74 []],
      .token ";" 74 75],
    runningStatement 76]

/-- A `switch` of both groups, in a method of a class with a field `B x`. -/
def groupedTree : Node :=
  .word "program" none 0 90 [
    .word "class_declaration" none 0 90 [
      .token "class" 0 5,
      .word "identifier" (some "name") 6 7 [],
      .word "class_body" (some "body") 8 90 [
        .token "\x7b" 8 9,
        .word "field_declaration" none 10 14 [
          .word "type_identifier" (some "type") 10 11 [],
          .word "variable_declarator" (some "declarator") 12 13
            [.word "identifier" (some "name") 12 13 []],
          .token ";" 13 14],
        .word "method_declaration" none 15 88 [
          .word "void_type" (some "type") 15 19 [],
          .word "identifier" (some "name") 20 21 [],
          .word "formal_parameters" (some "parameters") 21 28 [
            .token "(" 21 22,
            .word "formal_parameter" none 22 27 [
              .word "integral_type" (some "type") 22 25 [.token "int" 22 25],
              .word "identifier" (some "name") 26 27 []],
            .token ")" 27 28],
          .word "block" (some "body") 29 88 [
            .token "\x7b" 29 30,
            .word "switch_expression" none 31 86 [
              .token "switch" 31 37,
              .word "parenthesized_expression" (some "condition") 38 41
                [.token "(" 38 39, .word "identifier" none 39 40 [], .token ")" 40 41],
              .word "switch_block" (some "body") 42 86
                [.token "\x7b" 42 43, declaringGroup, callingGroup, .token "\x7d" 85 86]],
            .token "\x7d" 87 88]],
        .token "\x7d" 89 90]]]

def groupedText : String :=
  "class A \x7b B x; void m(int k) \x7b switch (k) \x7b case 0: C x; default: x = null; x.run(); \x7d \x7d \x7d"

/-- The group behind that of a variable does not see it: there the name stands for the field, and the call is
taken to the type of the field, not to that of the variable. -/
theorem local_missed_in_next_group :
    let env := Env.ofTree (.ofText groupedText) groupedTree runningClasses
    let records := (walk env groupedTree).records
    (walk env groupedTree).tooDeep = none ∧
      .localVariable "x" (some "C") "m(int)" "A" ⟨54, 55, 1, 55, 1, 56⟩ ∈ records ∧
      .reference "run" .method "B" "A" ⟨78, 81, 1, 79, 1, 82⟩ ∈ records ∧
      ¬.reference "run" .method "C" "A" ⟨78, 81, 1, 79, 1, 82⟩ ∈ records := by
  decide +kernel

end SymbolIndex.Walk
