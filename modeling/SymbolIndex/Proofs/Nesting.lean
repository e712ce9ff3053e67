import SymbolIndex.Proofs.Enclosing
import SymbolIndex.Proofs.Script
import SymbolIndex.SourceIndex

/-!
# The guard against deep nesting

A walk counts the calls that are open. Every visit of a node and every question what a node denotes
takes one level when it starts and gives it back when it ends, and with `maxNesting` levels taken the
walk is given up at the node that asks for one more. The walker is written with the levels that are
left, which cannot get lost on the way. `Counts` is the same walk with the counter as a part of what
changes: a call adds one, goes on with whatever the node asks for, and takes one off what it finds in
the counter then. `walker_counts` says that the walker is such a run.

**The law** (`nesting_guarded`): the counter is behind every call what it was in front of it, and it
stays between zero and the limit. A node takes at most two levels, one to visit it and one for what it
denotes (`Script.once_more`), so a walk is given up only at a node that has at least half as many nodes
above it as there are levels, and a tree that is nowhere as deep is walked to its end.
-/

namespace SymbolIndex.Walk

open SymbolIndex.Tree (Node Cursor)

/-! ## The counter -/

/-- A walk with its counter of open calls. The counter is an integer, so that it could fall below
zero. -/
structure Meter where
  state : State
  depth : Int

/-- What a call at a node goes on with. Nothing else in a script is a call. -/
def Script.called (env : Env) (cursor : Cursor) : Script → Option Script
  | .visit => some (visitScript env cursor)
  | .denote recording => some (denoteScript cursor recording)
  | _ => none

/-- What a script does to the walk and its counter, with every value that the counter takes on the
way. -/
inductive Counts (env : Env) : Cursor → Script → Meter → List Int → Meter → Prop
  | skip {cursor : Cursor} {meter : Meter} : Counts env cursor .skip meter [] meter
  | seq {cursor : Cursor} {script script' : Script} {first middle last : Meter}
      {readings readings' : List Int} (counts : Counts env cursor script first readings middle)
      (rest : Counts env cursor script' middle readings' last) :
      Counts env cursor (.seq script script') first (readings ++ readings') last
  /-- A call takes a level and gives one back. -/
  | entered {cursor : Cursor} {script inner : Script} {state : State} {depth : Int} {last : Meter}
      {readings : List Int} (called : script.called env cursor = some inner)
      (alive : state.tooDeep = none) (free : depth < Tree.maxNesting)
      (counts : Counts env cursor inner ⟨state, depth + 1⟩ readings last) :
      Counts env cursor script ⟨state, depth⟩ ((depth + 1) :: readings ++ [last.depth - 1])
        ⟨last.state, last.depth - 1⟩
  /-- With no level left the walk is given up. -/
  | refused {cursor : Cursor} {script inner : Script} {state : State} {depth : Int}
      (called : script.called env cursor = some inner) (alive : state.tooDeep = none)
      (full : Tree.maxNesting ≤ depth) :
      Counts env cursor script ⟨state, depth⟩ [] ⟨state.giveUpAt env cursor.node, depth⟩
  /-- Once it has been given up, a call does nothing. -/
  | halted {cursor : Cursor} {script inner : Script} {state : State} {depth : Int}
      (called : script.called env cursor = some inner) (given : state.tooDeep ≠ none) :
      Counts env cursor script ⟨state, depth⟩ [] ⟨state, depth⟩
  | bind {cursor : Cursor} {state : State} {depth : Int} {name : Node} (type : Option JavaType) :
      Counts env cursor (.bind name) ⟨state, depth⟩ [] ⟨state.declare env name type, depth⟩
  | under {cursor : Cursor} {child : Node} {script : Script} {first last : Meter}
      {readings : List Int} (counts : Counts env (cursor.down child) script first readings last) :
      Counts env cursor (.under child script) first readings last
  | block {cursor : Cursor} {script : Script} {state : State} {depth : Int} {last : Meter}
      {readings : List Int}
      (counts : Counts env cursor script ⟨state.withScope Scope.pushBlock, depth⟩ readings last) :
      Counts env cursor (.block script) ⟨state, depth⟩ readings
        ⟨last.state.withScope Scope.popBlock, last.depth⟩
  | member {cursor : Cursor} {script : Script} {state : State} {depth : Int} {last : Meter}
      {readings : List Int} {method : String}
      (counts : Counts env cursor script ⟨state.withScope (·.setMethod (some method)), depth⟩
        readings last) :
      Counts env cursor (.member script) ⟨state, depth⟩ readings
        ⟨last.state.withScope (·.setMethod state.scope.method?), last.depth⟩
  | body {cursor : Cursor} {naming : Naming} {script : Script} {state : State} {depth : Int}
      {last : Meter} {readings : List Int} {frame : Frame}
      (counts : Counts env cursor script ⟨state.withScope (naming.opened env frame), depth⟩
        readings last) :
      Counts env cursor (.body naming script) ⟨state, depth⟩ readings
        ⟨last.state.withScope Scope.popFrame, last.depth⟩
  | behind {cursor : Cursor} {script : Script} {state middle : State} {depth : Int} {last : Meter}
      {readings : List Int} (quiet : Quiet state middle)
      (counts : Counts env cursor script ⟨middle, depth⟩ readings last) :
      Counts env cursor script ⟨state, depth⟩ readings last
  | followed {cursor : Cursor} {script : Script} {first : Meter} {middle state : State}
      {depth : Int} {readings : List Int}
      (counts : Counts env cursor script first readings ⟨middle, depth⟩)
      (quiet : Quiet middle state) : Counts env cursor script first readings ⟨state, depth⟩

variable {env : Env}

/-- **The counter is back where it was.** -/
theorem Counts.depth_eq {cursor : Cursor} {script : Script} {first last : Meter}
    {readings : List Int} (counts : Counts env cursor script first readings last) :
    last.depth = first.depth := by
  induction counts with
  | skip => rfl
  | seq _ _ ih ih' => exact ih'.trans ih
  | entered _ _ _ _ ih =>
    show _ - 1 = _
    rw [ih]
    exact Int.add_sub_cancel _ 1
  | refused => rfl
  | halted => rfl
  | bind => rfl
  | under _ ih => exact ih
  | block _ ih => exact ih
  | member _ ih => exact ih
  | body _ ih => exact ih
  | behind _ _ ih => exact ih
  | followed _ _ ih => exact ih

/-- **The counter keeps within its limits**, from any value within them. -/
theorem Counts.bounded {cursor : Cursor} {script : Script} {first last : Meter}
    {readings : List Int} (counts : Counts env cursor script first readings last)
    (low : 0 ≤ first.depth) (high : first.depth ≤ Tree.maxNesting) :
    ∀ reading ∈ readings, 0 ≤ reading ∧ reading ≤ Tree.maxNesting := by
  induction counts with
  | skip => exact fun _ member => absurd member List.not_mem_nil
  | refused => exact fun _ member => absurd member List.not_mem_nil
  | halted => exact fun _ member => absurd member List.not_mem_nil
  | bind => exact fun _ member => absurd member List.not_mem_nil
  | seq counts _ ih ih' =>
    have same := counts.depth_eq
    intro reading member
    rcases List.mem_append.mp member with early | late
    · exact ih low high reading early
    · exact ih' (by omega) (by omega) reading late
  | @entered _ _ _ _ depth last readings _ _ free counts ih =>
    have same : last.depth = depth + 1 := counts.depth_eq
    have low : 0 ≤ depth := low
    intro reading member
    simp only [List.mem_append, List.mem_cons, List.not_mem_nil, or_false] at member
    rcases member with (taken | inside) | given
    · omega
    · apply ih
      · show 0 ≤ depth + 1
        omega
      · show depth + 1 ≤ Tree.maxNesting
        omega
      · exact inside
    · omega
  | under _ ih => exact ih low high
  | block _ ih => exact ih low high
  | member _ ih => exact ih low high
  | body _ ih => exact ih low high
  | behind _ _ ih => exact ih low high
  | followed _ _ ih => exact ih low high

/-! ## The walker counts -/

/-- A walker that takes calls with so many of them open. -/
structure CountsAt (env : Env) (walker : Walker) (depth : Int) : Prop where
  visit : ∀ cursor state, ∃ readings,
    Counts env cursor .visit ⟨state, depth⟩ readings ⟨walker.visit cursor state, depth⟩
  denote : ∀ cursor recording state, ∃ readings,
    Counts env cursor (.denote recording) ⟨state, depth⟩ readings
      ⟨(walker.denote cursor recording state).2, depth⟩

/-- **What a script does counts** as the script says, when the walkers below do. -/
theorem Does.counts {walker : Walker} {depth : Int} {cursor : Cursor} {script : Script}
    {first last : State} (does : Does env walker cursor script first last)
    (below : CountsAt env walker depth) :
    ∃ readings, Counts env cursor script ⟨first, depth⟩ readings ⟨last, depth⟩ := by
  induction does with
  | skip => exact ⟨_, .skip⟩
  | seq _ _ ih ih' =>
    obtain ⟨_, counts⟩ := ih
    obtain ⟨_, rest⟩ := ih'
    exact ⟨_, .seq counts rest⟩
  | visit => exact below.visit _ _
  | denote recording => exact below.denote _ recording _
  | bind type => exact ⟨_, .bind type⟩
  | under _ ih =>
    obtain ⟨_, counts⟩ := ih
    exact ⟨_, .under counts⟩
  | block _ ih =>
    obtain ⟨_, counts⟩ := ih
    exact ⟨_, .block counts⟩
  | member _ ih =>
    obtain ⟨_, counts⟩ := ih
    exact ⟨_, .member counts⟩
  | body _ _ _ ih =>
    obtain ⟨_, counts⟩ := ih
    exact ⟨_, .body counts⟩
  | behind quiet _ ih =>
    obtain ⟨_, counts⟩ := ih
    exact ⟨_, .behind quiet counts⟩
  | followed _ quiet ih =>
    obtain ⟨_, counts⟩ := ih
    exact ⟨_, .followed counts quiet⟩

/-- A call with a level left does what its node asks for, one level further in. -/
theorem Does.counts_entered {walker : Walker} {depth : Int} {cursor : Cursor}
    {script inner : Script} {first last : State} (called : script.called env cursor = some inner)
    (alive : first.tooDeep = none) (free : depth < Tree.maxNesting)
    (does : Does env walker cursor inner first last) (below : CountsAt env walker (depth + 1)) :
    ∃ readings, Counts env cursor script ⟨first, depth⟩ readings ⟨last, depth⟩ := by
  obtain ⟨_, counts⟩ := does.counts below
  have taken := Counts.entered called alive free counts
  simp only [Int.add_sub_cancel] at taken
  exact ⟨_, taken⟩

/-- A call without a level left. -/
theorem counts_refused {cursor : Cursor} {script inner : Script} {depth : Int}
    (called : script.called env cursor = some inner) (full : Tree.maxNesting ≤ depth) (state : State) :
    ∃ readings, Counts env cursor script ⟨state, depth⟩ readings
      ⟨state.giveUpAt env cursor.node, depth⟩ := by
  cases given : state.tooDeep with
  | none => exact ⟨_, .refused called given full⟩
  | some position =>
    have same : state.giveUpAt env cursor.node = state := by
      rw [State.giveUpAt, given]
    have isGiven : state.tooDeep ≠ none := by
      rw [given]
      exact Option.some_ne_none position
    rw [same]
    exact ⟨_, .halted called isGiven⟩

/-- **The walker counts its calls**: with some levels left the others are taken. By induction on the
levels left. -/
theorem walker_counts (env : Env) {room taken : Nat} (levels : room + taken = Tree.maxNesting) :
    CountsAt env (walker env room) taken := by
  induction room generalizing taken with
  | zero =>
    obtain rfl : taken = Tree.maxNesting := by omega
    constructor
    case visit => exact fun cursor state => counts_refused rfl (Int.le_refl _) state
    case denote => exact fun cursor recording state => counts_refused rfl (Int.le_refl _) state
  | succ room ih =>
    have below : CountsAt env (walker env room) ((taken : Int) + 1) := @ih (taken + 1) (by omega)
    have free : (taken : Int) < Tree.maxNesting := by omega
    constructor
    case visit =>
      intro cursor state
      simp only [walker, atLevel_eq]
      cases given : state.tooDeep with
      | some position =>
        have isGiven : state.tooDeep ≠ none := by
          rw [given]
          exact Option.some_ne_none position
        exact ⟨_, .halted rfl isGiven⟩
      | none => exact (visitNode_does env (walker env room) cursor state).counts_entered rfl given free below
    case denote =>
      intro cursor recording state
      simp only [walker, atLevel_eq]
      cases given : state.tooDeep with
      | some position =>
        have isGiven : state.tooDeep ≠ none := by
          rw [given]
          exact Option.some_ne_none position
        exact ⟨_, .halted rfl isGiven⟩
      | none =>
        exact (denoteNode_does env (walker env room) cursor recording state).counts_entered rfl given free
          below

/-! ## How deep a call can be -/

/-- The script goes on with nodes below the given one only, and with the node itself only if it may. -/
def Script.Within (itself : Prop) (node : Node) : Script → Prop
  | .skip => True
  | .seq first second => first.Within itself node ∧ second.Within itself node
  | .visit => itself
  | .denote _ => itself
  | .bind _ => True
  | .under child inner => child ∈ node.children ∧ inner.Within True child
  | .block inner => inner.Within itself node
  | .member inner => inner.Within itself node
  | .body _ inner => inner.Within itself node

namespace Script.Within

variable {node : Node} {itself : Prop} {α : Type}

/-- A list of scripts stays within a node when each of them does. -/
theorem each {script : α → Script} {items : List α}
    (within : ∀ item ∈ items, (script item).Within itself node) :
    (Script.each script items).Within itself node := by
  induction items with
  | nil => trivial
  | cons item items ih =>
    refine ⟨within item List.mem_cons_self, ih fun other member => ?_⟩
    exact within other (List.mem_cons_of_mem _ member)

/-- A part that may be missing stays within a node when it does. -/
theorem optional {script : α → Script} {item : Option α}
    (within : ∀ found, item = some found → (script found).Within itself node) :
    (Script.optional script item).Within itself node := by
  cases item with
  | none => trivial
  | some found => exact within found rfl

/-- A script that is left out unless references are recorded stays within a node as it does. -/
theorem recorded {script : Script} (within : script.Within itself node) (recording : Bool) :
    (Script.recorded recording script).Within itself node := by
  cases recording with
  | false => trivial
  | true => exact within

/-- Visits of children stay within their node. -/
theorem visitEach {nodes : List Node} (inside : ∀ child ∈ nodes, child ∈ node.children) :
    (visitEach nodes).Within itself node :=
  each fun child member => ⟨inside child member, trivial⟩

/-- Visits of the named children stay within their node. -/
theorem visitNamed (node : Node) : (Walk.visitEach node.named).Within itself node :=
  visitEach fun _ => Node.mem_of_named

/-- A child in a role is one of the children. -/
theorem visitRole (node : Node) (role : String) :
    (visitOptional (node.child? role)).Within itself node :=
  optional fun _ found => ⟨Node.mem_of_child? found, trivial⟩

/-- Binding names goes nowhere. -/
theorem bindEach (names : List Node) : (bindEach names).Within itself node :=
  each fun _ _ => trivial

/-- The part of a class that is walked in its body. -/
theorem bodyScript {body : Option Node} (naming : Naming)
    (inside : ∀ found, body = some found → found ∈ node.children) :
    (bodyScript naming body).Within itself node :=
  optional fun found isBody => ⟨inside found isBody, visitNamed found⟩

end Script.Within

section Constructs

variable {itself : Prop} (node : Node)

/-- A creation visits its own children. -/
theorem creationScript_within : (creationScript node).Within itself node := by
  refine ⟨.visitEach fun child member => ?_, .optional fun body found => .bodyScript _ ?_⟩
  · have kept := (List.mem_filter.mp member).1
    exact List.mem_of_mem_eraseP kept
  · intro body' same
    cases same
    have listed := List.mem_of_getLast? found
    exact Node.mem_of_named (List.mem_filter.mp listed).1

theorem fieldScript_within {declarator : Node} (inside : declarator ∈ node.children) :
    (fieldScript declarator).Within itself node := by
  unfold fieldScript
  cases declarator.child? "name" with
  | none => trivial
  | some name => exact ⟨inside, .optional fun value found => ⟨Node.mem_of_child? found, trivial⟩⟩

theorem constantScript_within : (constantScript node).Within itself node := by
  unfold constantScript
  cases node.child? "name" with
  | none => trivial
  | some name =>
    refine ⟨.optional fun list found => ⟨Node.mem_of_child? found, trivial⟩,
      .optional fun body found => .bodyScript _ ?_⟩
    intro body' same
    cases same
    exact Node.mem_of_child? found

/-- A method visits its body. -/
theorem methodScript_within (names : List Node) : (methodScript names node).Within itself node := by
  unfold methodScript
  cases node.child? "name" with
  | none => trivial
  | some name => exact ⟨.bindEach names, .visitRole node "body"⟩

theorem caughtScript_within {child : Node} (inside : child ∈ node.children) :
    (caughtScript child).Within itself node := by
  unfold caughtScript
  split
  · exact .bindEach _
  · exact ⟨inside, trivial⟩

theorem instanceofScript_within : (instanceofScript node).Within itself node := by
  unfold instanceofScript
  cases node.child? "name" with
  | none => exact .visitNamed node
  | some name => exact ⟨.visitRole node "left", trivial⟩

/-- A variable visits its value. -/
theorem variableScript_within (env : Env) (type : Option Node) :
    (variableScript env type node).Within itself node := by
  unfold variableScript
  cases node.child? "name" with
  | none => trivial
  | some name =>
    refine ⟨.optional fun value found => ⟨Node.mem_of_child? found, ?_⟩, trivial⟩
    split
    · exact ⟨trivial, trivial⟩
    · trivial

theorem resourceScript_within (env : Env) : (resourceScript env node).Within itself node := by
  unfold resourceScript
  split
  · exact variableScript_within node env _
  · exact .visitNamed node

/-- A `try` visits its resources and its blocks. -/
theorem tryScript_within (env : Env) {child : Node} (inside : child ∈ node.children) :
    (tryScript env child).Within itself node := by
  unfold tryScript
  split
  · refine ⟨inside, .each fun resource member => ?_⟩
    exact ⟨Node.mem_of_named member, resourceScript_within resource env⟩
  · exact ⟨inside, trivial⟩

theorem accessScript_within (recording : Bool) : (accessScript recording node).Within itself node := by
  unfold accessScript
  split
  · rename_i object field isObject _
    exact ⟨Node.mem_of_child? isObject, trivial⟩
  · trivial

/-- A call goes to its object and its arguments. -/
theorem callScript_within (recording : Bool) : (callScript recording node).Within itself node := by
  unfold callScript
  cases node.child? "name" with
  | none => trivial
  | some name =>
    refine ⟨.optional fun object found => ⟨Node.mem_of_child? found, trivial⟩, ?_⟩
    exact .recorded (.visitRole node "arguments") recording

theorem referenceScript_within (recording : Bool) :
    (referenceScript recording node).Within itself node := by
  unfold referenceScript
  split
  · trivial
  · rename_i qualifier others isNamed
    have member : qualifier ∈ node.named := isNamed ▸ List.mem_cons_self
    split
    · trivial
    · exact ⟨Node.mem_of_named member, trivial⟩

theorem elementScript_within (recording : Bool) : (elementScript recording node).Within itself node := by
  unfold elementScript
  split
  · trivial
  · rename_i array found
    exact ⟨⟨Node.mem_of_child? found, trivial⟩, .recorded (.visitRole node "index") recording⟩

end Constructs

/-- The script that goes on with its own node no more than once: there it makes a call, and what is
called goes on with nodes below. -/
def Script.Settles (env : Env) (cursor : Cursor) (script : Script) : Prop :=
  script.Within False cursor.node ∨
    ∃ inner, script.called env cursor = some inner ∧ inner.Within False cursor.node

/-- What an expression of a kind of its own asks for lies below it. -/
theorem denoteScript_within {cursor : Cursor} (recording : Bool)
    (special : ExprForm.ofKind cursor.kind ≠ .other) :
    (denoteScript cursor recording).Within False cursor.node := by
  unfold denoteScript
  cases form : ExprForm.ofKind cursor.kind with
  | other => exact absurd form special
  | name => trivial
  | this => trivial
  | super => trivial
  | text => trivial
  | classLiteral => trivial
  | field => exact accessScript_within _ recording
  | call => exact callScript_within _ recording
  | reference => exact referenceScript_within _ recording
  | parenthesized =>
    refine .optional fun inner found => ⟨?_, trivial⟩
    exact Node.mem_of_named (List.mem_of_mem_head? found)
  | element => exact elementScript_within _ recording
  | cast => exact .recorded (.visitRole _ "value") recording
  | creation => exact .recorded (creationScript_within _) recording
  | arrayCreation => exact .recorded (.visitNamed _) recording

/-- Accesses and names are visited by what they denote, and nothing else is. -/
theorem visitScript_within {cursor : Cursor} (noAccess : Construct.ofKind cursor.kind ≠ .access)
    (noName : Construct.ofKind cursor.kind ≠ .name) :
    (visitScript env cursor).Within False cursor.node := by
  unfold visitScript
  cases construct : Construct.ofKind cursor.kind with
  | access => exact absurd construct noAccess
  | name => exact absurd construct noName
  | skipped => trivial
  | type =>
    exact .optional fun name _ => .bodyScript _ fun _ found => Node.mem_of_child? found
  | fields =>
    refine .each fun declarator member => fieldScript_within _ ?_
    exact (List.mem_filter.mp member).1
  | method => exact methodScript_within _ _
  | compactConstructor => exact methodScript_within _ _
  | enumConstant => exact constantScript_within _
  | staticInitializer => exact Script.Within.visitNamed cursor.node
  | block =>
    simp only
    split
    · exact Script.Within.visitNamed cursor.node
    · exact Script.Within.visitNamed cursor.node
  | blockLike => exact Script.Within.visitNamed cursor.node
  | locals =>
    refine .each fun declarator member => ⟨(List.mem_filter.mp member).1, ?_⟩
    exact variableScript_within declarator env _
  | loop => exact ⟨variableScript_within _ env _, .visitRole _ "body"⟩
  | catchClause =>
    exact Script.Within.each fun child member => caughtScript_within _ (Node.mem_of_named member)
  | resources =>
    exact Script.Within.each fun child member => tryScript_within _ env (Node.mem_of_named member)
  | instanceof => exact instanceofScript_within _
  | pattern => exact .bindEach _
  | lambda => exact ⟨Script.Within.bindEach _, Script.Within.visitRole cursor.node "body"⟩
  | creation => exact creationScript_within _
  | other => exact .visitNamed _

/-- Accesses and names are expressions of kinds of their own. -/
theorem denotes_of_access {kind : String}
    (found : Construct.ofKind kind = .access ∨ Construct.ofKind kind = .name) :
    ExprForm.ofKind kind ≠ .other := by
  have listed : (kind, Construct.access) ∈ Construct.kinds ∨ (kind, Construct.name) ∈ Construct.kinds :=
    found.imp (Construct.mem_kinds · (by decide)) (Construct.mem_kinds · (by decide))
  have special : ∀ entry ∈ Construct.kinds, entry.2 = .access ∨ entry.2 = .name →
      ExprForm.ofKind entry.1 ≠ .other := by decide
  rcases listed with member | member
  · exact special _ member (.inl rfl)
  · exact special _ member (.inr rfl)

/-- **A node takes at most two levels**: what a call goes on with settles at the node. -/
theorem Script.once_more {cursor : Cursor} {script inner : Script}
    (called : script.called env cursor = some inner) : inner.Settles env cursor := by
  cases script with
  | visit =>
    cases called
    by_cases access : Construct.ofKind cursor.kind = .access ∨ Construct.ofKind cursor.kind = .name
    · have below := denoteScript_within true (denotes_of_access access)
      rcases access with access | name
      · refine .inr ⟨denoteScript cursor true, ?_, below⟩
        simp only [visitScript, access, Script.called]
      · have isName : visitScript env cursor = nameScript cursor := by
          simp only [visitScript, name]
        rw [isName]
        unfold nameScript
        split
        · exact .inl trivial
        · split
          · exact .inl trivial
          · exact .inr ⟨denoteScript cursor true, rfl, below⟩
    · rw [not_or] at access
      exact .inl (visitScript_within access.1 access.2)
  | denote recording =>
    cases called
    by_cases other : ExprForm.ofKind cursor.kind = .other
    · have isVisit : denoteScript cursor recording = .recorded recording .visit := by
        simp only [denoteScript, other]
      rw [isVisit]
      cases recording with
      | false => exact .inl trivial
      | true =>
        refine .inr ⟨visitScript env cursor, rfl, visitScript_within ?_ ?_⟩
        · exact fun access => denotes_of_access (.inl access) other
        · exact fun name => denotes_of_access (.inr name) other
    · exact .inl (denoteScript_within recording other)
  | _ => cases called

/-- How many levels can be taken where a script is done: two for each node above, and one for each
call that is open at the node itself. -/
inductive Allows (env : Env) (cursor : Cursor) (script : Script) (depth : Int) : Prop
  | first (within : script.Within True cursor.node) (bound : depth ≤ 2 * cursor.above.length)
  | second (settles : script.Settles env cursor) (bound : depth ≤ 2 * cursor.above.length + 1)
  | below (within : script.Within False cursor.node) (bound : depth ≤ 2 * cursor.above.length + 2)

/-- A part of a script that makes no call is allowed what the script is. -/
theorem Allows.part {cursor : Cursor} {script part : Script} {depth : Int}
    (allows : Allows env cursor script depth) (noCall : script.called env cursor = none)
    (within : ∀ itself, script.Within itself cursor.node → part.Within itself cursor.node) :
    Allows env cursor part depth := by
  cases allows with
  | first inside bound => exact .first (within True inside) bound
  | second settles bound =>
    rcases settles with inside | ⟨inner, called, -⟩
    · exact .below (within False inside) (by omega)
    · rw [noCall] at called
      cases called
  | below inside bound => exact .below (within False inside) bound

/-- **A call goes one level down**: where it is made, the depth is at most twice the number of nodes
above and one, and what is called is allowed one level more. -/
theorem Allows.entered {cursor : Cursor} {script inner : Script} {depth : Int}
    (allows : Allows env cursor script depth) (called : script.called env cursor = some inner) :
    depth ≤ 2 * cursor.above.length + 1 ∧ Allows env cursor inner (depth + 1) := by
  have isCall (inside : script.Within False cursor.node) : False := by
    cases script with
    | visit => exact inside
    | denote recording => exact inside
    | _ => cases called
  cases allows with
  | first inside bound => exact ⟨by omega, .second (Script.once_more called) (by omega)⟩
  | second settles bound =>
    rcases settles with inside | ⟨inner', called', inside⟩
    · exact (isCall inside).elim
    · rw [called] at called'
      cases called'
      exact ⟨bound, .below inside (by omega)⟩
  | below inside bound => exact (isCall inside).elim

/-- Going down to a child keeps the depth, and one node more stands above. -/
theorem Allows.under {cursor : Cursor} {child : Node} {inner : Script} {depth : Int}
    (allows : Allows env cursor (.under child inner) depth) :
    child ∈ cursor.node.children ∧ Allows env (cursor.down child) inner depth := by
  have lower : ((cursor.down child).above.length : Int) = cursor.above.length + 1 :=
    Int.natCast_succ cursor.above.length
  cases allows with
  | first inside bound => exact ⟨inside.1, .first inside.2 (by omega)⟩
  | second settles bound =>
    rcases settles with inside | ⟨inner', called, -⟩
    · exact ⟨inside.1, .first inside.2 (by omega)⟩
    · cases called
  | below inside bound => exact ⟨inside.1, .first inside.2 (by omega)⟩

/-- If the walk has been given up, then at a node of the tree that has at least half as many nodes
above it as there are levels. -/
def GivenUpDeep (env : Env) (root : Node) (state : State) : Prop :=
  ∀ position, state.tooDeep = some position → ∃ node above, Place root (node :: above) ∧
    Tree.maxNesting / 2 ≤ above.length ∧ position = env.source.position node.start

/-- Only the record of the place too deep matters. -/
theorem GivenUpDeep.congr {root : Node} {state state' : State} (deep : GivenUpDeep env root state)
    (same : state'.tooDeep = state.tooDeep) : GivenUpDeep env root state' := by
  intro position given
  exact deep position (same.symm.trans given)

/-- **A walk is given up in the deep only.** By induction on the run: a call that is refused has found
the limit in the counter, and the counter is no more than twice the depth of the node and one. -/
theorem Counts.deep {root : Node} {cursor : Cursor} {script : Script} {first last : Meter}
    {readings : List Int} (counts : Counts env cursor script first readings last)
    (place : Place root (placeOf cursor)) (allows : Allows env cursor script first.depth)
    (deep : GivenUpDeep env root first.state) : GivenUpDeep env root last.state := by
  induction counts with
  | skip => exact deep
  | seq counts _ ih ih' =>
    have middle := ih place (allows.part rfl fun _ inside => inside.1) deep
    rw [← counts.depth_eq] at allows
    exact ih' place (allows.part rfl fun _ inside => inside.2) middle
  | entered called _ _ _ ih => exact ih place (allows.entered called).2 deep
  | @refused cursor script inner state depth called alive full =>
    intro position given
    rw [State.giveUpAt, alive] at given
    cases given
    have bound : depth ≤ 2 * cursor.above.length + 1 := (allows.entered called).1
    exact ⟨cursor.node, cursor.above, place, by omega, rfl⟩
  | halted => exact deep
  | bind => exact deep
  | under _ ih =>
    obtain ⟨inside, allows⟩ := allows.under
    exact ih (place.down inside) allows deep
  | block _ ih => exact ih place (allows.part rfl fun _ inside => inside) deep
  | member _ ih => exact ih place (allows.part rfl fun _ inside => inside) deep
  | body _ ih => exact ih place (allows.part rfl fun _ inside => inside) deep
  | behind quiet _ ih => exact ih place allows (deep.congr quiet.tooDeep)
  | followed _ quiet ih => exact (ih place allows deep).congr quiet.tooDeep

/-! ## Whole walks -/

/-- A walk that is given up is given up at a place with so many nodes above it. -/
theorem walk_givenUpDeep (env : Env) (root : Node) : GivenUpDeep env root (walk env root) := by
  have levels : Tree.maxNesting + 0 = Tree.maxNesting := Nat.add_zero _
  obtain ⟨readings, counts⟩ := (walker_counts env levels).visit (.root root) {}
  refine counts.deep .root (.first trivial ?_) ?_
  · show (0 : Int) ≤ 2 * 0
    omega
  · intro position given
    cases given

/-- **The guard against deep nesting is balanced and exact.** Every visit and every question that a walk
makes is a run with the counter, and in every such run the counter is back at its end and never leaves
its limits. A tree whose nodes all have fewer nodes above them than half the levels is walked to its
end. A walk that fails gives no table, and its error names the limit and the start of a node that has at
least that many nodes above it. -/
theorem nesting_guarded (env : Env) (root : Node) :
    (∀ room taken : Nat, room + taken = Tree.maxNesting → CountsAt env (walker env room) taken) ∧
      (∀ cursor script first readings last, Counts env cursor script first readings last →
        last.depth = first.depth ∧
          (0 ≤ first.depth ∧ first.depth ≤ Tree.maxNesting →
            ∀ reading ∈ readings, 0 ≤ reading ∧ reading ≤ Tree.maxNesting)) ∧
      ((∀ node above, Place root (node :: above) → above.length ≤ Tree.maxNesting / 2 - 1) →
        ∃ index, SourceIndex.ofWalk (walk env root) = .ok index) ∧
      ∀ error, SourceIndex.ofWalk (walk env root) = .error error →
        ∃ node above, Place root (node :: above) ∧ Tree.maxNesting / 2 ≤ above.length ∧
          ∃ line column, error = .tooDeep line column ∧
            line = (env.source.position node.start).row + 1 ∧
            column = (env.source.position node.start).column + 1 ∧
            error.message = "syntax nests deeper than " ++ toString Tree.maxNesting ++ " levels at "
              ++ toString line ++ ":" ++ toString column := by
  have deep := walk_givenUpDeep env root
  refine ⟨fun room taken => walker_counts env, ?_, ?_, ?_⟩
  · intro cursor script first readings last counts
    exact ⟨counts.depth_eq, fun within => counts.bounded within.1 within.2⟩
  · intro shallow
    cases given : (walk env root).tooDeep with
    | none => exact ⟨_, SourceIndex.ofWalk_eq_ok_iff.mpr ⟨given, rfl⟩⟩
    | some position =>
      obtain ⟨node, above, place, far, -⟩ := deep position given
      have near := shallow node above place
      have positive : 0 < Tree.maxNesting / 2 := by decide
      omega
  · intro error failed
    unfold SourceIndex.ofWalk at failed
    cases given : (walk env root).tooDeep with
    | none =>
      rw [given] at failed
      cases failed
    | some position =>
      rw [given] at failed
      cases failed
      obtain ⟨node, above, place, far, rfl⟩ := deep position given
      exact ⟨node, above, place, far, _, _, rfl, rfl, rfl, rfl⟩

end SymbolIndex.Walk
