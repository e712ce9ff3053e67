import SymbolIndex.Proofs.Comments.Reading
import SymbolIndex.Proofs.Enclosing
import SymbolIndex.SourceIndex

/-!
# Walks over trees with and without comments, step by step

Two walks go over one tree, the second without its comments. They are compared step by step: `Follows` says of
two steps that they lead from one state to the same state, and `Answers` says the same of two questions and
what they answer. A comment is visited and left alone, which takes a level of nesting all the same. Where no
level is left the first walk is given up there and the second is not, so a step may also end with the first
walk given up at a comment (`Halted`), and it stays given up. Such a comment is deep in the tree, so cursors
come with the least number of nodes above them (`Located`).

`Alongside` lifts this to the two ways of going on with a node below. This module has the steps of
declarations, and `Comments.Walk` has the others and the walks.
-/

namespace SymbolIndex.Tree.Cursor

/-- The place of a node in the tree without comments. -/
def uncommented (cursor : Cursor) : Cursor :=
  ⟨cursor.node.uncommented, cursor.above.map Node.uncommented⟩

/-- The cursors at nodes that are no comments, in the tree without comments. -/
def uncommentedAll (cursors : List Cursor) : List Cursor :=
  (cursors.filter (!·.node.isComment)).map uncommented

@[simp] theorem node_uncommented (cursor : Cursor) : cursor.uncommented.node = cursor.node.uncommented :=
  rfl

@[simp] theorem kind_uncommented (cursor : Cursor) : cursor.uncommented.kind = cursor.kind :=
  cursor.node.kind_uncommented

/-- Going down to nodes commutes with taking the comments out. -/
theorem map_down_uncommented (cursor : Cursor) (nodes : List Node) :
    (Node.uncommentedAll nodes).map cursor.uncommented.down = uncommentedAll (nodes.map cursor.down) := by
  simp only [Node.uncommentedAll_eq, uncommentedAll, List.filter_map, List.map_map]
  rfl

theorem named_uncommented (cursor : Cursor) : cursor.uncommented.named = uncommentedAll cursor.named := by
  rw [named, node_uncommented, Node.named_uncommented, map_down_uncommented, named]

/-- The children in a role are those of the node, without their comments. -/
theorem childrenIn_uncommented (cursor : Cursor) (role : String) :
    cursor.uncommented.childrenIn role = uncommentedAll (cursor.childrenIn role) := by
  rw [childrenIn, node_uncommented, Node.childrenIn_uncommented, map_down_uncommented, childrenIn]

theorem parent?_uncommented (cursor : Cursor) :
    cursor.uncommented.parent? = cursor.parent?.map Node.uncommented :=
  List.head?_map

theorem grandparent?_uncommented (cursor : Cursor) :
    cursor.uncommented.grandparent? = cursor.grandparent?.map Node.uncommented := by
  rw [grandparent?, grandparent?, ← List.head?_map, List.map_tail]
  rfl

/-- The first child in a role is the same one. -/
theorem child?_uncommented {cursor : Cursor} (tidy : Tidy cursor.node) (role : String) :
    cursor.uncommented.child? role = (cursor.child? role).map uncommented := by
  rw [child?, node_uncommented, tidy.child?_uncommented, child?, Option.map_map, Option.map_map]
  rfl

end SymbolIndex.Tree.Cursor

namespace SymbolIndex.Walk

open SymbolIndex.Tree (Node Source Cursor SourceError Tidy Inner)

/-! ## Where both walks stand -/

/-- A cursor at a place of the tree, with at least so many nodes above it. -/
structure Located (root : Node) (depth : Nat) (cursor : Cursor) : Prop where
  place : Place root (placeOf cursor)
  deep : depth ≤ cursor.above.length

/-- A cursor at a place of the tree that is no comment. -/
structure Stands (root : Node) (depth : Nat) (cursor : Cursor) : Prop extends
    Located root depth cursor where
  word : ¬ cursor.node.isComment

namespace Stands

variable {root : Node} {depth : Nat} {cursor child : Cursor} {role : String}

/-- Standing deep includes standing less deep. -/
theorem weaken (stands : Stands root (depth + 1) cursor) : Stands root depth cursor :=
  ⟨⟨stands.place, Nat.le_of_succ_le stands.deep⟩, stands.word⟩

/-- Where a cursor stands in a tidy tree, its node is tidy. -/
theorem tidy (stands : Stands root depth cursor) (tidy : Tidy root) : Tidy cursor.node :=
  stands.place.all tidy

/-- The nodes above are tidy as well. -/
theorem above (stands : Stands root depth cursor) (tidy : Tidy root) :
    ∀ node ∈ cursor.above, Tidy node := by
  have all {nodes : List Node} (place : Place root nodes) : ∀ node ∈ nodes, Tidy node := by
    induction place with
    | root => simpa using tidy
    | down _ inside ih =>
      rw [List.forall_mem_cons]
      exact ⟨(ih _ List.mem_cons_self).below inside, ih⟩
  exact fun node inside => all stands.place node (List.mem_cons_of_mem _ inside)

/-- Every child of a node has a place one level deeper. -/
theorem below (stands : Stands root depth cursor) {node : Node} (inside : node ∈ cursor.node.children) :
    Located root (depth + 1) (cursor.down node) :=
  ⟨stands.place.down inside, Nat.succ_le_succ stands.deep⟩

theorem named (stands : Stands root depth cursor) (inside : child ∈ cursor.named) :
    Located root (depth + 1) child := by
  obtain ⟨node, named, rfl⟩ := List.mem_map.mp inside
  exact stands.below (Node.mem_of_named named)

/-- A child in a role stands one level deeper, being no comment. -/
theorem inRole (stands : Stands root depth cursor) (tidy : Tidy root)
    (inside : child ∈ cursor.childrenIn role) : Stands root (depth + 1) child := by
  obtain ⟨node, plays, rfl⟩ := List.mem_map.mp inside
  obtain ⟨inside, plays⟩ := List.mem_filter.mp plays
  exact ⟨stands.below inside, (stands.tidy tidy).not_comment inside plays⟩

/-- The first child in a role stands there, when there is one. -/
theorem child? (stands : Stands root depth cursor) (tidy : Tidy root) (role : String) :
    ∀ child ∈ cursor.child? role, Stands root (depth + 1) child := by
  intro child found
  obtain ⟨node, inside, rfl⟩ := Option.map_eq_some_iff.mp found
  exact stands.inRole tidy (List.mem_map_of_mem (Node.mem_childrenIn_of_child? inside))

end Stands

/-! ## Steps of both walks -/

section Steps

variable (env : Env) (root : Node)

/-- The walk has been given up at a comment. A node takes at most two levels of nesting, one to visit it and
one for what it denotes. -/
def Halted (state : State) : Prop :=
  ∃ comment above, Place root (comment :: above) ∧ comment.isComment ∧
    Tree.maxNesting ≤ 2 * above.length ∧ state.tooDeep = some (env.source.position comment.start)

/-- Two steps that do the same, unless the first gives up at a comment. -/
structure Follows (step step' : State → State) : Prop where
  same : ∀ state, Halted env root (step state) ∨ step state = step' state
  halted : ∀ state, Halted env root state → Halted env root (step state)

/-- Two questions with the same answer, unless the first is given up at a comment. -/
structure Answers {α : Type} (ask ask' : State → α × State) : Prop where
  same : ∀ state, Halted env root (ask state).2 ∨ ask state = ask' state
  halted : ∀ state, Halted env root state → Halted env root (ask state).2

variable {env root}

/-- Only the record of the place too deep matters. -/
theorem Halted.congr {state state' : State} (halted : Halted env root state)
    (same : state'.tooDeep = state.tooDeep) : Halted env root state' := by
  obtain ⟨comment, above, place, isComment, deep, given⟩ := halted
  exact ⟨comment, above, place, isComment, deep, same.trans given⟩

namespace Follows

variable {step step' next next' : State → State}

/-- A step that does not give up. -/
theorem quiet (step : State → State) (keeps : ∀ state, (step state).tooDeep = state.tooDeep) :
    Follows env root step step :=
  ⟨fun _ => .inr rfl, fun _ halted => halted.congr (keeps _)⟩

/-- Doing nothing follows doing nothing. -/
theorem idle : Follows env root id id :=
  quiet id fun _ => rfl

/-- A change of the scope alone cannot depend on comments. -/
theorem withScope (change : Scope → Scope) :
    Follows env root (State.withScope · change) (State.withScope · change) :=
  quiet _ fun _ => rfl

/-- A step may be replaced by one that does the same in every state. -/
theorem congr (follows : Follows env root step step') (same : ∀ state, next' state = step' state) :
    Follows env root step next' :=
  ⟨fun state => (follows.same state).imp_right (·.trans (same state).symm), follows.halted⟩

/-- **Steps follow one another.** A walk that has stopped in the first step stays stopped in the second. -/
theorem trans (first : Follows env root step step') (second : Follows env root next next') :
    Follows env root (fun state => next (step state)) (fun state => next' (step' state)) where
  same state := by
    rcases first.same state with halted | same
    · exact .inl (second.halted _ halted)
    · rw [← same]
      exact second.same _
  halted state halted := second.halted _ (first.halted _ halted)

/-- A step that takes a value from the state. -/
theorem reading {α : Type} {step step' : α → State → State} (value : State → α)
    (each : ∀ value, Follows env root (step value) (step' value)) :
    Follows env root (fun state => step (value state) state) (fun state => step' (value state) state) :=
  ⟨fun state => (each (value state)).same state, fun state => (each (value state)).halted state⟩

/-- Two steps that follow one another do so inside blocks of their own. -/
theorem inBlock (follows : Follows env root step step') :
    Follows env root (inBlock step) (inBlock step') :=
  (withScope Scope.pushBlock).trans (follows.trans (withScope Scope.popBlock))

/-- Two steps that follow one another do so inside a method. -/
theorem inMethod (follows : Follows env root step step') (method : String) :
    Follows env root (inMethod method step) (inMethod method step') :=
  reading (fun state => state.scope.method?) fun around =>
    (withScope (·.setMethod (some method))).trans (follows.trans (withScope (·.setMethod around)))

/-- A fold over cursors, comments apart. -/
theorem foldl {step step' : State → Cursor → State} {cursors : List Cursor}
    (each : ∀ cursor ∈ cursors, ¬ cursor.node.isComment →
      Follows env root (step · cursor) (step' · cursor.uncommented))
    (comments : ∀ cursor ∈ cursors, cursor.node.isComment → Follows env root (step · cursor) id) :
    Follows env root (cursors.foldl step) ((Cursor.uncommentedAll cursors).foldl step') := by
  induction cursors with
  | nil => exact idle
  | cons cursor cursors ih =>
    obtain ⟨first, others⟩ := List.forall_mem_cons.mp each
    obtain ⟨firstComment, otherComments⟩ := List.forall_mem_cons.mp comments
    by_cases comment : cursor.node.isComment
    · have skipped : Cursor.uncommentedAll (cursor :: cursors) = Cursor.uncommentedAll cursors := by
        simp [Cursor.uncommentedAll, comment]
      rw [skipped]
      exact (firstComment comment).trans (ih others otherComments)
    · have kept : Cursor.uncommentedAll (cursor :: cursors) =
          cursor.uncommented :: Cursor.uncommentedAll cursors := by
        simp [Cursor.uncommentedAll, comment]
      rw [kept]
      exact (first comment).trans (ih others otherComments)

end Follows

namespace Answers

variable {α β : Type} {ask ask' : State → α × State}

/-- A question that is not given up. -/
theorem quiet (ask : State → α × State) (keeps : ∀ state, (ask state).2.tooDeep = state.tooDeep) :
    Answers env root ask ask :=
  ⟨fun _ => .inr rfl, fun _ halted => halted.congr (keeps _)⟩

theorem congr {other : State → α × State} (answers : Answers env root ask ask')
    (same : ∀ state, other state = ask' state) : Answers env root ask other :=
  ⟨fun state => (answers.same state).imp_right (·.trans (same state).symm), answers.halted⟩

/-- A question that is decided by another one. -/
theorem refined {other other' : State → β × State} (answers : Answers env root ask ask')
    (keeps : ∀ state, (other state).2.tooDeep = (ask state).2.tooDeep)
    (same : ∀ state, ask state = ask' state → other state = other' state) :
    Answers env root other other' where
  same state := (answers.same state).imp (·.congr (keeps state)) (same state)
  halted state halted := (answers.halted state halted).congr (keeps state)

/-- A step that is decided by a question. -/
theorem resolved {step step' : State → State} (answers : Answers env root ask ask')
    (keeps : ∀ state, (step state).tooDeep = (ask state).2.tooDeep)
    (same : ∀ state, ask state = ask' state → step state = step' state) :
    Follows env root step step' where
  same state := (answers.same state).imp (·.congr (keeps state)) (same state)
  halted state halted := (answers.halted state halted).congr (keeps state)

/-- A step behind a question. -/
theorem behind {step step' : State → State} (answers : Answers env root ask ask')
    (follows : Follows env root step step') :
    Answers env root (fun state => ((ask state).1, step (ask state).2))
      (fun state => ((ask' state).1, step' (ask' state).2)) where
  same state := by
    rcases answers.same state with halted | same
    · exact .inl (follows.halted _ halted)
    · rw [← same]
      exact (follows.same _).imp_right fun stepped => by rw [stepped]
  halted state halted := follows.halted _ (answers.halted _ halted)

end Answers

/-- What is denoted behind a step. -/
theorem Follows.denoting {α : Type} {step step' : State → State} (follows : Follows env root step step')
    (denoted : State → α) :
    Answers env root (fun state => (denoted (step state), step state))
      (fun state => (denoted (step' state), step' state)) where
  same state := (follows.same state).imp_right fun same => by rw [same]
  halted := follows.halted

/-! ## Walkers -/

/-- Two walkers that go on alike with nodes of at least some depth, the second without comments. -/
structure Alongside (env : Env) (root : Node) (depth : Nat) (walker walker' : Walker) : Prop where
  visit : ∀ cursor, Stands root depth cursor →
    Follows env root (walker.visit cursor) (walker'.visit cursor.uncommented)
  comment : ∀ cursor, Located root depth cursor → cursor.node.isComment →
    Follows env root (walker.visit cursor) id
  denote : ∀ cursor recording, Stands root depth cursor →
    Answers env root (walker.denote cursor recording) (walker'.denote cursor.uncommented recording)

namespace Alongside

variable {depth : Nat} {walker walker' : Walker} {cursor : Cursor} {cursor? : Option Cursor}

/-- **A list of nodes.** The walk without comments visits what is left of the list; over a comment the
other walk does nothing, or stops at it. -/
theorem visitAll (walkers : Alongside env root depth walker walker') {cursors : List Cursor}
    (places : ∀ cursor ∈ cursors, Located root depth cursor) :
    Follows env root (walker.visitAll cursors) (walker'.visitAll (Cursor.uncommentedAll cursors)) :=
  Follows.foldl (fun cursor inside word => walkers.visit cursor ⟨places cursor inside, word⟩)
    (fun cursor inside comment => walkers.comment cursor (places cursor inside) comment)

/-- Walking the children of a node follows walking those that are left of them. -/
theorem visitChildren (walkers : Alongside env root (depth + 1) walker walker')
    (stands : Stands root depth cursor) :
    Follows env root (walker.visitChildren cursor) (walker'.visitChildren cursor.uncommented) := by
  have step := walkers.visitAll fun _ => stands.named
  rw [← Cursor.named_uncommented] at step
  exact step

theorem visitChildren? (walkers : Alongside env root (depth + 1) walker walker')
    (stands : ∀ cursor ∈ cursor?, Stands root depth cursor) :
    Follows env root (walker.visitChildren? cursor?)
      (walker'.visitChildren? (cursor?.map Cursor.uncommented)) := by
  cases cursor? with
  | none => exact Follows.idle
  | some cursor => exact walkers.visitChildren (stands cursor rfl)

theorem visit? (walkers : Alongside env root depth walker walker')
    (stands : ∀ cursor ∈ cursor?, Stands root depth cursor) :
    Follows env root (walker.visit? cursor?) (walker'.visit? (cursor?.map Cursor.uncommented)) := by
  cases cursor? with
  | none => exact Follows.idle
  | some cursor => exact walkers.visit cursor (stands cursor rfl)

/-- A part that is walked inside a method follows the part without comments there. -/
theorem visitWithin (walkers : Alongside env root depth walker walker') (method : String)
    (stands : ∀ cursor ∈ cursor?, Stands root depth cursor) :
    Follows env root (walker.visitWithin method cursor?)
      (walker'.visitWithin method (cursor?.map Cursor.uncommented)) := by
  cases cursor? with
  | none => exact Follows.idle
  | some cursor => exact (walkers.visit cursor (stands cursor rfl)).inMethod method

/-- A part that is visited only for its references follows the part without comments. -/
theorem visitRecording (walkers : Alongside env root depth walker walker') (recording : Bool)
    (stands : ∀ cursor ∈ cursor?, Stands root depth cursor) :
    Follows env root (visitRecording walker recording cursor?)
      (visitRecording walker' recording (cursor?.map Cursor.uncommented)) := by
  cases recording with
  | false => exact Follows.idle
  | true => exact walkers.visit? stands

/-- The type of a part that may be missing is the same. -/
theorem valueType? (walkers : Alongside env root depth walker walker')
    (stands : ∀ cursor ∈ cursor?, Stands root depth cursor) :
    Answers env root (walker.valueType? cursor?)
      (walker'.valueType? (cursor?.map Cursor.uncommented)) := by
  cases cursor? with
  | none => exact Answers.quiet _ fun _ => rfl
  | some cursor =>
    refine (walkers.denote cursor false (stands cursor rfl)).refined (fun state => ?_) fun state same => ?_
    · rw [Walker.valueType?, Walker.valueType_snd]
    · simp only [Option.map_some, Walker.valueType?, Walker.valueType, same]

end Alongside

/-! ## Declarations -/

section Constructs

variable {depth : Nat} {walker walker' : Walker} {cursor : Cursor}

/-- Steps that never stop a walk do not stop it together. -/
theorem tooDeep_foldl {α : Type} {step : State → α → State}
    (keeps : ∀ state item, (step state item).tooDeep = state.tooDeep) (items : List α) (state : State) :
    (items.foldl step state).tooDeep = state.tooDeep := by
  induction items generalizing state with
  | nil => rfl
  | cons item items ih => rw [List.foldl_cons, ih, keeps]

/-- Filing the components of a record stops no walk. -/
theorem tooDeep_fileComponents (components : List Parameter) (state : State) :
    (fileComponents env components state).tooDeep = state.tooDeep := by
  refine tooDeep_foldl (fun state component => ?_) components state
  rfl

/-- **The inside of a class.** The class is collected alike, its frame is opened, and its body is walked
and left. -/
theorem enterType_follows (walkers : Alongside env root (depth + 1) walker walker') (tidy : Tidy root)
    {declaration : Option Node} {body : Option Cursor} (declared : ∀ node ∈ declaration, Tidy node)
    (stands : ∀ cursor ∈ body, Stands root (depth + 1) cursor) (path : String) (hint : Option String) :
    Follows env root (enterType env walker declaration path body hint)
      (enterType env walker' (declaration.map Node.uncommented) path (body.map Cursor.uncommented) hint) := by
  have bodies : (body.map Cursor.uncommented).map (·.node) = (body.map (·.node)).map Node.uncommented := by
    rw [Option.map_map, Option.map_map]
    rfl
  have tidyBody : ∀ node ∈ body.map (·.node), Tidy node := by
    intro node inside
    obtain ⟨cursor, found, rfl⟩ := Option.map_eq_some_iff.mp inside
    exact (stands cursor found).tidy tidy
  have opens (state : State) :
      (fileComponents env (componentsOf env (openBody env declaration path (body.map (·.node)) hint state).scope
        declaration) (openBody env declaration path (body.map (·.node)) hint state)).tooDeep = state.tooDeep :=
    tooDeep_fileComponents _ _
  have members := walkers.visitChildren? fun cursor found => (stands cursor found).weaken
  refine ((Follows.quiet _ opens).trans (members.trans
    (Follows.withScope Scope.popFrame))).congr fun state => ?_
  simp only [enterType, bodies, openBody_uncommented env path declared tidyBody,
    componentsOf_uncommented env _ declared, fileComponents_uncommented]

/-- An anonymous class is entered under the same number. -/
theorem enterAnonymous_follows (walkers : Alongside env root (depth + 1) walker walker') (tidy : Tidy root)
    {body : Cursor} (stands : Stands root (depth + 1) body) (hint : Option String) :
    Follows env root (enterAnonymous env walker body hint)
      (enterAnonymous env walker' body.uncommented hint) :=
  Follows.reading (fun state => state.scope.anonymousPath) fun path =>
    (Follows.withScope Scope.countAnonymous).trans
      (enterType_follows walkers tidy (nofun : ∀ node ∈ none, Tidy node)
        (by simpa using stands : ∀ cursor ∈ some body, Stands root (depth + 1) cursor) path hint)

/-- A class declaration is named and entered alike. -/
theorem visitType_follows (walkers : Alongside env root (depth + 1) walker walker') (tidy : Tidy root)
    (stands : Stands root depth cursor) :
    Follows env root (visitType env walker cursor) (visitType env walker' cursor.uncommented) := by
  have here := stands.tidy tidy
  unfold visitType
  simp only [Cursor.node_uncommented, here.child?_uncommented, Cursor.child?_uncommented here]
  cases cursor.node.child? "name" with
  | none => exact Follows.idle
  | some name =>
    simp only [Option.map_some, Env.text_uncommented]
    have entered (path : String) := (Follows.withScope (·.modifyFrame fun frame =>
      { frame with nested := frame.nested.insert (env.text name) path })).trans
        (enterType_follows walkers tidy (by simpa using here : ∀ node ∈ some cursor.node, Tidy node)
          (stands.child? tidy "body") path none)
    exact Follows.reading (fun state => declaredPath env state.scope (env.text name)) entered

/-- A declarator files a field of the same type and walks its value. -/
theorem visitField_follows (walkers : Alongside env root (depth + 1) walker walker') (tidy : Tidy root)
    {declarator : Cursor} (stands : Stands root depth declarator) (baseText method : String) :
    Follows env root (visitField env walker baseText method · declarator)
      (visitField env walker' baseText method · declarator.uncommented) := by
  have here := stands.tidy tidy
  simp only [visitField, Cursor.node_uncommented, here.child?_uncommented, Cursor.child?_uncommented here,
    Tree.dimensionsOf_uncommented]
  cases declarator.node.child? "name" with
  | none => exact Follows.idle
  | some name =>
    simp only [Option.map_some, Env.text_uncommented, ofNode_uncommented]
    exact (Follows.quiet (fun state : State => state.file _ _) fun _ => rfl).trans
      (walkers.visitWithin method (stands.child? tidy "value"))

/-- A field declaration does so for each of its declarators. -/
theorem visitFields_follows (walkers : Alongside env root (depth + 1) walker walker') (tidy : Tidy root)
    (stands : Stands root depth cursor) :
    Follows env root (visitFields env walker cursor) (visitFields env walker' cursor.uncommented) := by
  have here := stands.tidy tidy
  unfold visitFields
  simp only [Cursor.node_uncommented, here.child?_uncommented, Cursor.kind_uncommented,
    Cursor.childrenIn_uncommented, hasModifier_uncommented _ "static" (by decide)]
  rw [typeText?_uncommented env (here.innerRole "type")]
  refine Follows.foldl (fun declarator inside _ => ?_) fun declarator inside comment => ?_
  · exact visitField_follows walkers tidy (stands.inRole tidy inside).weaken _ _
  · exact absurd comment (stands.inRole tidy inside).word

/-- An enum constant files its field, walks its arguments, and enters its body. -/
theorem visitEnumConstant_follows (walkers : Alongside env root (depth + 1) walker walker') (tidy : Tidy root)
    (stands : Stands root depth cursor) :
    Follows env root (visitEnumConstant env walker cursor)
      (visitEnumConstant env walker' cursor.uncommented) := by
  have here := stands.tidy tidy
  unfold visitEnumConstant
  simp only [Cursor.node_uncommented, here.child?_uncommented, Cursor.child?_uncommented here]
  cases cursor.node.child? "name" with
  | none => exact Follows.idle
  | some name =>
    simp only [Option.map_some, Env.text_uncommented, ofNode_uncommented]
    have filed (enumPath : String) := (Follows.quiet (fun state : State => state.file (env.text name)
      (.field (env.text name) (simpleNameOf enumPath) state.owner (Span.ofNode env.source name)))
      fun _ => rfl).trans (walkers.visitWithin classInit (stands.child? tidy "arguments"))
    cases found : cursor.child? "body" with
    | none =>
      have step := Follows.reading (fun state : State => (state.scope.frame?.map (·.path)).getD "") filed
      exact step
    | some body =>
      have entered (enumPath : String) := (filed enumPath).trans
        (enterAnonymous_follows walkers tidy (stands.child? tidy "body" body found) (some enumPath))
      have step := Follows.reading (fun state : State => (state.scope.frame?.map (·.path)).getD "") entered
      exact step

/-- Declaring the parameters of a method stops no walk. -/
theorem tooDeep_declareParameters (method owner : String) (parameters : List Parameter) (state : State) :
    (declareParameters env method owner parameters state).tooDeep = state.tooDeep := by
  refine tooDeep_foldl (fun state parameter => ?_) parameters state
  rfl

/-- A method is filed with the same signature, and its body is walked inside it. -/
theorem visitMethod_follows (walkers : Alongside env root (depth + 1) walker walker') (tidy : Tidy root)
    (stands : Stands root depth cursor) :
    Follows env root (visitMethod env walker cursor) (visitMethod env walker' cursor.uncommented) := by
  have here := stands.tidy tidy
  unfold visitMethod
  simp only [Cursor.node_uncommented, here.child?_uncommented, Cursor.child?_uncommented here,
    Cursor.kind_uncommented, parameters_child?_uncommented env _ here,
    typeText?_uncommented env (here.innerRole "type")]
  cases cursor.node.child? "name" with
  | none => exact Follows.idle
  | some name =>
    simp only [Option.map_some, Env.text_uncommented, ofNode_uncommented, signature_uncommented,
      erased_uncommented, declareParameters_uncommented]
    have walked (head : List Parameter × String) :=
      let method := signature (env.text name) head.1
      (Follows.quiet (fun state : State => state.file (env.text name)
        (.method (env.text name) method (head.1.map (·.erased))
          (if cursor.kind == "constructor_declaration" then none
          else typeText? env (cursor.node.child? "type")) head.2 (Span.ofNode env.source name)))
        fun _ => rfl).trans
      (((Follows.quiet (declareParameters env method head.2 head.1)
        (tooDeep_declareParameters method head.2 head.1)).trans
          (walkers.visit? (stands.child? tidy "body"))).inBlock.inMethod method)
    exact Follows.reading (fun state =>
      (parameters env state.scope (cursor.node.child? "parameters"), state.owner)) walked

theorem tooDeep_declareComponents (components : List Parameter) (state : State) :
    (declareComponents env components state).tooDeep = state.tooDeep := by
  refine tooDeep_foldl (fun state component => ?_) components state
  rfl

/-- A compact constructor declares the components of its record and walks its body. -/
theorem visitCompactConstructor_follows (walkers : Alongside env root (depth + 1) walker walker')
    (tidy : Tidy root) (stands : Stands root depth cursor) :
    Follows env root (visitCompactConstructor env walker cursor)
      (visitCompactConstructor env walker' cursor.uncommented) := by
  have here := stands.tidy tidy
  have around : ∀ node ∈ cursor.grandparent?, Tidy node := fun node found =>
    stands.above tidy node (List.mem_of_mem_tail (List.mem_of_head? found))
  unfold visitCompactConstructor
  simp only [Cursor.node_uncommented, here.child?_uncommented, Cursor.child?_uncommented here,
    Cursor.grandparent?_uncommented, componentsOf_uncommented env _ around]
  cases cursor.node.child? "name" with
  | none => exact Follows.idle
  | some name =>
    simp only [Option.map_some, Env.text_uncommented, ofNode_uncommented, signature_uncommented,
      erased_uncommented, declareComponents_uncommented]
    have walked (components : List Parameter) :=
      let method := signature (env.text name) components
      (Follows.quiet (fun state : State => state.file (env.text name)
        (.method (env.text name) method (components.map (·.erased)) none state.owner
          (Span.ofNode env.source name))) fun _ => rfl).trans
      (((Follows.quiet (declareComponents env components) (tooDeep_declareComponents components)).trans
        (walkers.visit? (stands.child? tidy "body"))).inBlock.inMethod method)
    have step := Follows.reading (fun state : State => componentsOf env state.scope cursor.grandparent?) walked
    exact step

end Constructs

end Steps

end SymbolIndex.Walk
