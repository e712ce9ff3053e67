import SymbolIndex.Proofs.Order.Bodies

/-!
# The order of members

Two sources, the second with the members of one class body in another order, are walked side by side. Down to
the body the walks go abreast (`Rearranged.arrive`); in it they meet the members in different orders and find
the same (`Shuffled.arrive`).

**The law** (`build_rearranged`): both sources have the same references, by member, kind, declaring type and
owner, and as many notes. A member class is the exception. Its members become known where its body is walked,
so an access to them from a sibling hangs on which of the two comes first
(`order_of_class_changes_references`), unless the class path answers for the classes of the source. The
members of the class itself and the names of its member classes are collected before anything is walked, and
their order is no matter.
-/

namespace SymbolIndex.Walk

open SymbolIndex.Tree (Node Source Cursor Carried)

variable {env : Env} {source : Source} {may : Prop} {room : Nat}

/-! ## Names that members leave -/

/-- A name that a list of nodes leaves behind is left by one of them. -/
theorem mem_namedIn_visitEach {below : Reading (List Leaving)} {cursor : Cursor} {nodes : List Node}
    {entry : Bool × String} (left : entry ∈ namedIn env ((visitEach nodes).leavings below cursor)) :
    ∃ node ∈ nodes, entry ∈ namedIn env (below.visit (cursor.down node)) := by
  unfold visitEach at left
  induction nodes with
  | nil => cases left
  | cons node nodes ih =>
    simp only [Script.each, Script.leavings] at left
    rw [namedIn_append, List.mem_append] at left
    rcases left with here | later
    · exact ⟨node, List.mem_cons_self, here⟩
    · obtain ⟨other, listed, named⟩ := ih later
      exact ⟨other, List.mem_cons_of_mem _ listed, named⟩

/-- A program and a list of members are walked child by child. -/
theorem ofKind_eq_other {kind : String} (lists : kind = "program" ∨ kind ∈ memberListKinds) :
    Construct.ofKind kind = .other := by
  simp only [memberListKinds, bodyKinds, List.mem_cons, List.not_mem_nil, or_false] at lists
  rcases lists with rfl | rfl | rfl | rfl | rfl | rfl <;> rfl

theorem not_pair_of_lists {kind : String} (lists : kind = "program" ∨ kind ∈ memberListKinds) :
    kind ≠ "element_value_pair" := by
  rintro rfl
  exact absurd lists (by decide)

/-- A node that lists members is no record. -/
theorem Peers.around {node node' : Node} (peers : Peers node node')
    (lists : node.kind = "program" ∨ node.kind ∈ memberListKinds) : Around env source node node' := by
  refine ⟨peers.kind, fun isRecord => ?_⟩
  rw [isRecord] at lists
  exact absurd lists (by decide)

/-- The classes of a body are listed by the names of its members. -/
theorem mem_memberClasses {body member : Node} (listed : member ∈ bodyMembers body) :
    ∀ name ∈ memberClass? env member, name ∈ memberClasses env (bodyMembers body) :=
  fun _ isName => List.mem_filterMap.mpr ⟨member, listed, isName⟩

/-- The members behind the constants of an enum are members of the enum. -/
theorem memberClasses_constants {body child : Node} (inside : child ∈ body.named)
    (isList : child.kind = "enum_body_declarations")
    (flat : ∀ member ∈ child.named, member.kind ≠ "enum_body_declarations") :
    memberClasses env (bodyMembers child) ⊆ memberClasses env (bodyMembers body) := by
  intro name listed
  obtain ⟨member, inList, isName⟩ := List.mem_filterMap.mp listed
  obtain ⟨other, below, same⟩ := List.mem_flatMap.mp inList
  rw [if_neg (by simpa using flat other below), List.mem_singleton] at same
  subst same
  exact mem_memberClasses (List.mem_flatMap.mpr ⟨child, inside, by simpa [isList] using below⟩) name isName

/-- In a body with no other classes than members, a child names no other. -/
theorem MemberClassesOnly.names {body child : Node} (only : MemberClassesOnly body)
    (inside : child ∈ body.named) : NamesOnly env (memberClasses env (bodyMembers body)) child := by
  have each {member : Node} (listed : member ∈ bodyMembers body) :
      NamesOnly env (memberClasses env (bodyMembers body)) member := by
    rcases only member listed with declares | classless
    · exact namesOnly_of_type declares (mem_memberClasses listed)
    · intro room above isLocal name left
      obtain ⟨leaving, inside, isName⟩ := List.mem_filterMap.mp left
      have outlasts := (Classless.leavings env room).1 ⟨member, above⟩ classless leaving inside
      cases leaving with
      | bound name => cases isName
      | entered isLocal naming => cases outlasts
  by_cases isList : child.kind = "enum_body_declarations"
  · have listed {member : Node} (below : member ∈ child.named) : member ∈ bodyMembers body :=
      List.mem_flatMap.mpr ⟨child, inside, by simpa [isList] using below⟩
    intro room above isLocal name left
    cases room with
    | zero => cases left
    | succ room =>
      have kind : Construct.ofKind (Cursor.kind ⟨child, above⟩) = .other :=
        ofKind_eq_other (.inr (List.mem_cons.mpr (.inl isList)))
      simp only [leavings, visitScript, kind] at left
      obtain ⟨member, below, named⟩ := mem_namedIn_visitEach left
      exact each (listed below) room _ isLocal name named
  · exact each (List.mem_flatMap.mpr ⟨child, inside, by simp [isList]⟩)

/-- A member without classes that binds no variable leaves nothing behind. -/
theorem Classless.inert {member : Node} (classless : Classless member) (unbound : Unbound env member) :
    Inert env member := by
  intro room above
  have none := (Classless.leavings env room).1 ⟨member, above⟩ classless
  have names := unbound room above
  refine List.eq_nil_iff_forall_not_mem.mpr fun leaving listed => ?_
  cases leaving with
  | bound name =>
    have bound : env.text name ∈ boundIn env ((Walk.leavings env room).visit ⟨member, above⟩) :=
      List.mem_filterMap.mpr ⟨_, listed, rfl⟩
    rw [names] at bound
    cases bound
  | entered isLocal naming => cases none _ listed

/-! ## Nodes that are still to be visited -/

/-- What is known of a walk in front of some of the nodes below a cursor. -/
structure Ready (env : Env) (may : Prop) (room : Nat) (cursor : Cursor) (nodes : List Node) (state : State) :
    Prop where
  inside : ∀ node ∈ nodes, node ∈ cursor.node.named
  only : cursor.node.kind ∈ memberListKinds → MemberClassesOnly cursor.node
  alive : ((walker env room).visitAll (nodes.map cursor.down) state).tooDeep = none
  vouched : may → Vouched env room cursor (visitEach nodes) state
    ((walker env room).visitAll (nodes.map cursor.down) state)
  homed : may → cursor.node.kind ∈ memberListKinds →
    Homed (memberClasses env (bodyMembers cursor.node)) state.scope

namespace Ready

variable {cursor : Cursor} {node : Node} {nodes rest : List Node} {state : State}

/-- Behind the first of the nodes, the walk is ready for the others. -/
theorem next (ready : Ready env may room cursor (node :: nodes) state) :
    Ready env may room cursor nodes ((walker env room).visit (cursor.down node) state) where
  inside other listed := ready.inside other (List.mem_cons_of_mem _ listed)
  only := ready.only
  alive := ready.alive
  vouched granted := (ready.vouched granted).visitEach.2
  homed granted lists :=
    (ready.homed granted lists).visit ((ready.only lists).names (ready.inside node List.mem_cons_self))

/-- Behind the first of two lists, the walk is ready for the second. -/
theorem behind (ready : Ready env may room cursor (nodes ++ rest) state) :
    Ready env may room cursor rest ((walker env room).visitAll (nodes.map cursor.down) state) := by
  induction nodes generalizing state with
  | nil => exact ready
  | cons node nodes ih => exact ih ready.next

/-- A walk that is ready does not give up at the next node. -/
theorem alive_here (ready : Ready env may room cursor (node :: nodes) state) :
    ((walker env room).visit (cursor.down node) state).tooDeep = none :=
  alive_of_visitAll ready.alive

/-- A member that may change places leaves the walk level. -/
theorem level (ready : Ready env may room cursor (node :: nodes) state)
    (lists : cursor.node.kind ∈ memberListKinds) (mobile : Mobile env may node) :
    Level env.classpath state ((walker env room).visit (cursor.down node) state) := by
  have listed : node ∈ bodyMembers cursor.node :=
    List.mem_flatMap.mpr ⟨node, ready.inside node List.mem_cons_self, by simp [mobile.kind]⟩
  cases declares : declaresType node.kind with
  | false =>
    have classless : Classless node := (ready.only lists node listed).resolve_left (by simp [declares])
    exact level_of_inert (classless.inert (mobile.other declares)) ready.alive_here
  | true =>
    have granted := mobile.type declares
    exact level_of_type declares (mem_memberClasses listed) (ready.homed granted lists)
      (ready.vouched granted).visitEach.1 ready.alive_here

/-- **Where the walk is ready, its steps hold**: a member that may change places leaves the walk level
with where it was. -/
theorem holding {pairs : List (Node × Node)} (ready : Ready env may room cursor (pairs.map Prod.fst) state)
    (lists : cursor.node.kind ∈ memberListKinds) :
    Holding env.classpath (fun state pair => (walker env room).visit (cursor.down pair.1) state)
      (Mobile env may ·.1) pairs state := by
  induction pairs generalizing state with
  | nil => trivial
  | cons pair pairs ih => exact ⟨ready.level lists, ih ready.next⟩

end Ready

/-! ## Bodies in two orders -/

section Bodies

variable {cursor cursor' : Cursor} {nodes nodes' : List Node} {first second : State}

theorem visitAll_down (walker : Walker) (cursor : Cursor) (nodes : List Node) (state : State) :
    walker.visitAll (nodes.map cursor.down) state =
      nodes.foldl (fun state node => walker.visit (cursor.down node) state) state :=
  List.foldl_map

/-- Two lists are visited one after the other. -/
theorem visitAll_append (walker : Walker) (cursors cursors' : List Cursor) (state : State) :
    walker.visitAll (cursors ++ cursors') state = walker.visitAll cursors' (walker.visitAll cursors state) :=
  List.foldl_append

/-- A moved child of a node is visited alike. -/
theorem Moved.abreast {node node' : Node} (moved : Moved env source node node')
    (around : List.Forall₂ (Around env source) (cursor.node :: cursor.above) (cursor'.node :: cursor'.above))
    (kind : cursor.node.kind ≠ "element_value_pair") (room : Nat) :
    Abreast env.classpath ((walker env room).visit (cursor.down node))
      ((walker (env.on source) room).visit (cursor'.down node')) := by
  obtain ⟨distance, carried, rfl⟩ := moved
  have kind' : cursor'.node.kind ≠ "element_value_pair" := by
    cases around with
    | cons here _ => rwa [here.kind]
  have key : isKeyOf cursor'.node (node.moved distance) = isKeyOf cursor.node node := by
    rw [isKeyOf, isKeyOf, beq_false_of_ne kind, beq_false_of_ne kind', Bool.false_and, Bool.false_and]
  exact (walker_companions env source room).visit distance _ _
    ⟨rfl, carried, around, congrArg some key⟩

/-- Lists that are moved node by node arrive, for each node has a twin. -/
theorem moved_arrive (pairs : List.Forall₂ (Moved env source) nodes nodes')
    (around : List.Forall₂ (Around env source) (cursor.node :: cursor.above) (cursor'.node :: cursor'.above))
    (kind : cursor.node.kind ≠ "element_value_pair") (level : Level env.classpath first second) :
    Arrive env.classpath first second ((walker env room).visitAll (nodes.map cursor.down) first)
      ((walker (env.on source) room).visitAll (nodes'.map cursor'.down) second) := by
  rw [visitAll_down, visitAll_down]
  exact Abreast.foldl pairs (fun _ _ moved => moved.abreast around kind room) first second level

/-- **Shuffled members are walked alike**: first each beside the moved one, then the moved ones in both
orders. -/
theorem Shuffled.arrive (shuffled : Shuffled env source may nodes nodes')
    (around : List.Forall₂ (Around env source) (cursor.node :: cursor.above) (cursor'.node :: cursor'.above))
    (lists : cursor.node.kind ∈ memberListKinds) (ready : Ready env may room cursor nodes first)
    (level : Level env.classpath first second) :
    Arrive env.classpath first second ((walker env room).visitAll (nodes.map cursor.down) first)
      ((walker (env.on source) room).visitAll (nodes'.map cursor'.down) second) := by
  have kind := not_pair_of_lists (.inr lists)
  obtain ⟨pairs, pairs', moved, exchanged, rfl, rfl⟩ := shuffled
  have each : ∀ pair ∈ pairs, Abreast env.classpath
      (fun state => (walker env room).visit (cursor.down pair.1) state)
      (fun state => (walker (env.on source) room).visit (cursor'.down pair.2) state) :=
    fun pair listed => (moved pair listed).abreast around kind room
  have inOrder : List.Forall₂ (fun pair pair' => pair = pair' ∧ pair ∈ pairs) pairs pairs :=
    List.forall₂_same.mpr fun pair listed => ⟨rfl, listed⟩
  have beside := (ready.holding lists).beside each level
  have exchange := beside.exchange exchanged
    (fun pair => visit_abreast_self (env.on source) room (cursor'.down pair.2))
    (fun _ _ exchange => ⟨exchange.mobile, exchange.mobile'⟩) (.refl second)
  rw [visitAll_down, visitAll_down, List.foldl_map, List.foldl_map]
  refine Arrive.along (Abreast.foldl inOrder ?_ first second level) exchange.2
  rintro pair _ ⟨rfl, listed⟩
  exact each pair listed

end Bodies

/-! ## Classes on the way -/

/-- The state in which the body of a declared class is walked. -/
def entering (env : Env) (node name body : Node) (state : State) : State :=
  let path := declaredPath env state.scope (env.text name)
  opening env (some node) path (some body) none (state.withScope ((Naming.declared name).note env path))

section Classes

variable {cursor : Cursor} {name body : Node} {state : State}

/-- A class declaration with a name and a body, in three steps: entering, walking, leaving. -/
theorem visitType_eq (walker : Walker) (isName : cursor.node.child? "name" = some name)
    (isBody : cursor.node.child? "body" = some body) (state : State) :
    visitType env walker cursor state =
      (walker.visitChildren (cursor.down body) (entering env cursor.node name body state)).withScope
        Scope.popFrame := by
  simp only [visitType, isName, Cursor.child?, isBody, Option.map_some]
  rfl

/-- The body is walked in a frame of its own, in which its classes are named. -/
theorem entering_scope (env : Env) (node name body : Node) (state : State) :
    ∃ frame : Frame, frame.path = (Naming.declared name).path env state.scope ∧ frame.Bare ∧
      (∀ member ∈ memberClasses env (bodyMembers body),
        frame.nested.find? member = some (frame.path ++ "$" ++ member)) ∧
      Quiet (state.withScope ((Naming.declared name).opened env frame)) (entering env node name body state) := by
  let path := declaredPath env state.scope (env.text name)
  obtain ⟨frame, isPath, bare, named, same⟩ := openBody_bare env (some node) path (some body) none
    (state.withScope ((Naming.declared name).note env path))
  have opened : openBody env (some node) path (some body) none
      (state.withScope ((Naming.declared name).note env path)) =
        state.withScope ((Naming.declared name).opened env frame) := by
    rw [same]
    simp only [State.withScope, Naming.opened, isPath]
  refine ⟨frame, isPath, bare, fun member listed => isPath ▸ named member listed, ?_⟩
  rw [← opened]
  exact Quiet.fileComponents _ _

/-- What is at home in a body is at home among more classes. -/
theorem Homed.mono {classes others : List String} {scope : Scope} (homed : Homed classes scope)
    (listed : others ⊆ classes) : Homed others scope := by
  obtain ⟨frame, frames, inside, bare, named⟩ := homed
  exact ⟨frame, frames, inside, bare, fun name other => named name (listed other)⟩

/-- Classes with the same head and name, and with members that are collected alike, are entered alike. -/
theorem entering_arrive {node node' name' body' : Node} {first second : State}
    (heads : Heads env source node node')
    (gathered : Gathered env source (bodyMembers body) (bodyMembers body'))
    (text : (env.on source).text name' = env.text name) (level : Level env.classpath first second) :
    Arrive env.classpath first second (entering env node name body first)
      (entering (env.on source) node' name' body' second) := by
  have gathered : Gathered env source (bodyMembers? (some body)) (bodyMembers? (some body')) := gathered
  have isPath : declaredPath (env.on source) second.scope (env.text name) =
      declaredPath env first.scope (env.text name) :=
    (declaredPath_same level.scope (env.text name)).symm
  have noted (path : String) :
      (Naming.declared name').note (env.on source) path = (Naming.declared name).note env path := by
    have marked : (Naming.declared name').mark (env.on source) path = (Naming.declared name).mark env path := by
      funext frame
      simp only [Naming.mark, text]
    funext scope
    rw [Naming.note, Naming.note, marked]
  simp only [entering, text, isPath, noted]
  have named := naming_abreast (env.text name) (declaredPath env first.scope (env.text name)) first second
    level
  exact named.trans (opening_abreast (.some heads) gathered _ none _ _ named.level)

/-- The members of a body that is entered are at home in it. -/
theorem homed_entering (env : Env) (node name body : Node) (state : State) :
    Homed (memberClasses env (bodyMembers body)) (entering env node name body state).scope := by
  obtain ⟨frame, -, bare, named, quiet⟩ := entering_scope env node name body state
  exact ⟨frame, _, congrArg Scope.frames quiet.scope, bare.method, named⟩

/-- What the class path answers for in a class it answers for in its body. -/
theorem Vouched.entering (declares : declaresType cursor.node.kind = true)
    (isName : cursor.node.child? "name" = some name) (isBody : cursor.node.child? "body" = some body)
    (vouched : Vouched env room cursor (visitScript env cursor) state
      (visitType env (walker env room) cursor state)) :
    Vouched env room (cursor.down body) (Walk.visitEach body.named) (Walk.entering env cursor.node name body state)
      ((walker env room).visitChildren (cursor.down body) (Walk.entering env cursor.node name body state)) := by
  have script : visitScript env cursor =
      .body (.declared name) (.under body (Walk.visitEach body.named)) := by
    have isKind : Construct.ofKind cursor.kind = .type := ofKind_eq_type declares
    simp only [visitScript, isKind, isName, isBody]
    rfl
  obtain ⟨frame, isPath, bare, -, quiet⟩ := entering_scope env cursor.node name body state
  rw [script, visitType_eq _ isName isBody] at vouched
  constructor
  case left =>
    have finished : (Walk.entering env cursor.node name body state).scope.finished = state.scope.finished :=
      (congrArg Scope.finished quiet.scope).trans (finished_modifyFrame _ _)
    intro path type found
    exact vouched.left path type (finished ▸ found)
  case entered =>
    intro bodies inner listed member
    exact vouched.entered _ (.body isPath bare (.behind quiet (.under inner))) listed
      (List.mem_cons_of_mem _ member)

end Classes

/-! ## Trees in two orders -/

/-- Visiting a program or a list of members visits its children. -/
theorem visitNode_of_list {walker : Walker} {cursor : Cursor}
    (lists : cursor.node.kind = "program" ∨ cursor.node.kind ∈ memberListKinds) (state : State) :
    visitNode env walker cursor state = walker.visitChildren cursor state := by
  have isKind : Construct.ofKind cursor.kind = .other := ofKind_eq_other lists
  simp only [visitNode, isKind]

/-- The script of a program or a list of members visits its children. -/
theorem visitScript_of_list {cursor : Cursor}
    (lists : cursor.node.kind = "program" ∨ cursor.node.kind ∈ memberListKinds) :
    visitScript env cursor = visitEach cursor.node.named :=
  visitScript_other (ofKind_eq_other lists)

theorem visitNode_of_type {walker : Walker} {cursor : Cursor} (declares : declaresType cursor.node.kind = true)
    (state : State) : visitNode env walker cursor state = visitType env walker cursor state := by
  have isKind : Construct.ofKind cursor.kind = .type := ofKind_eq_type declares
  simp only [visitNode, isKind]

/-- What is known of a walk at a node on the way to the body. -/
structure Coming (env : Env) (may : Prop) (room : Nat) (cursor : Cursor) (state : State) : Prop where
  alive : (visitNode env (walker env room) cursor state).tooDeep = none
  vouched : may → Vouched env room cursor (visitScript env cursor) state
    (visitNode env (walker env room) cursor state)
  homed : may → cursor.node.kind ∈ memberListKinds →
    Homed (memberClasses env (bodyMembers cursor.node)) state.scope

/-- **Coming to a list of members** makes the walk ready for them, with the classes among them known. -/
theorem Coming.ready {cursor : Cursor} {state : State} (coming : Coming env may room cursor state)
    (lists : cursor.node.kind = "program" ∨ cursor.node.kind ∈ memberListKinds)
    (only : cursor.node.kind ∈ memberListKinds → MemberClassesOnly cursor.node) :
    Ready env may room cursor cursor.node.named state := by
  obtain ⟨alive, vouched, homed⟩ := coming
  rw [visitNode_of_list lists] at alive
  rw [visitNode_of_list lists, visitScript_of_list lists] at vouched
  exact ⟨fun _ listed => listed, only, alive, vouched, homed⟩

/-- A walk that has not given up takes the step of the node. -/
theorem visit_succ_eq {cursor : Cursor} {state : State} (alive : state.tooDeep = none) :
    (walker env (room + 1)).visit cursor state = visitNode env (walker env room) cursor state := by
  simp only [walker, alive, atLevel_eq]

/-- A child on the way, where all that is known is what is known of the nodes still to be visited. -/
theorem Ready.coming {cursor : Cursor} {child : Node} {nodes : List Node} {state : State}
    (ready : Ready env may (room + 1) cursor (child :: nodes) state)
    (homed : may → child.kind ∈ memberListKinds → Homed (memberClasses env (bodyMembers child)) state.scope) :
    state.tooDeep = none ∧ Coming env may room (cursor.down child) state := by
  have alive : state.tooDeep = none := alive_of_visit ready.alive_here
  refine ⟨alive, ?_, fun granted => ?_, homed⟩
  · rw [← visit_succ_eq alive]
    exact ready.alive_here
  · rw [← visit_succ_eq alive]
    exact (ready.vouched granted).visitEach.1.visit alive

/-- The named children of a node around one of them. -/
theorem named_inside {node child : Node} {front back : List Node} (named : child.label.named = true)
    (children : node.children = front ++ child :: back) :
    node.named = front.filter (·.label.named) ++ child :: back.filter (·.label.named) := by
  simp only [Node.named, children, List.filter_append, List.filter_cons, named, if_true]

/-- **Lists of members are walked alike**, if the walks of one child are alike and the other children are only
moved. -/
theorem arrive_inside {node node' child child' : Node} {front front' back back' above above' : List Node}
    {first second : State} (peers : Peers node node')
    (lists : node.kind = "program" ∨ node.kind ∈ memberListKinds)
    (only : node.kind ∈ memberListKinds → MemberClassesOnly node)
    (named : child.label.named = true) (inner : Peers child child')
    (children : node.children = front ++ child :: back)
    (children' : node'.children = front' ++ child' :: back')
    (before : List.Forall₂ (Moved env source) front front')
    (behind : List.Forall₂ (Moved env source) back back')
    (around : List.Forall₂ (Around env source) above above')
    (homed : ∀ state, Ready env may room ⟨node, above⟩ (child :: back.filter (·.label.named)) state →
      may → child.kind ∈ memberListKinds → Homed (memberClasses env (bodyMembers child)) state.scope)
    (ih : ∀ {room : Nat} {first second : State}, Coming env may room ⟨child, node :: above⟩ first →
      Level env.classpath first second →
        Arrive env.classpath first second (visitNode env (walker env room) ⟨child, node :: above⟩ first)
          (visitNode (env.on source) (walker (env.on source) room) ⟨child', node' :: above'⟩ second))
    (coming : Coming env may room ⟨node, above⟩ first) (level : Level env.classpath first second) :
    Arrive env.classpath first second (visitNode env (walker env room) ⟨node, above⟩ first)
      (visitNode (env.on source) (walker (env.on source) room) ⟨node', above'⟩ second) := by
  have lists' : node'.kind = "program" ∨ node'.kind ∈ memberListKinds := peers.kind ▸ lists
  have kind := not_pair_of_lists lists
  have around := List.Forall₂.cons (peers.around lists) around
  have names := named_inside named children
  have names' := named_inside (inner.named.trans named) children'
  have ready : Ready env may room ⟨node, above⟩ node.named first := coming.ready lists only
  rw [names] at ready
  rw [visitNode_of_list lists, visitNode_of_list lists']
  unfold Walker.visitChildren Cursor.named
  simp only [names, names', List.map_append, List.map_cons, visitAll_append]
  have reached : Arrive env.classpath first second
      ((walker env room).visitAll ((front.filter (·.label.named)).map (Cursor.down ⟨node, above⟩)) first)
      ((walker (env.on source) room).visitAll
        ((front'.filter (·.label.named)).map (Cursor.down ⟨node', above'⟩)) second) :=
    moved_arrive (Moved.named before) around kind level
  have ready' := ready.behind
  generalize (walker env room).visitAll _ first = middle at reached ready' ⊢
  generalize (walker (env.on source) room).visitAll _ second = middle' at reached ⊢
  refine reached.trans ?_
  cases room with
  | zero => exact absurd ready'.alive_here (giveUpAt_tooDeep _ _ _)
  | succ room =>
    obtain ⟨alive, coming⟩ := ready'.coming (homed middle ready')
    have alive' : middle'.tooDeep = none := by
      have given := reached.level.given
      rw [alive] at given
      exact Option.isSome_eq_false_iff.mp given.symm |> Option.isNone_iff_eq_none.mp
    have here := ih coming reached.level
    rw [← visit_succ_eq alive, ← visit_succ_eq alive'] at here
    exact here.trans (moved_arrive (Moved.named behind) around kind here.level)

/-- What is known of a walk at a class is known at its body. -/
theorem Coming.entering {cursor : Cursor} {name body : Node} {state : State}
    (coming : Coming env may room cursor state) (declares : declaresType cursor.node.kind = true)
    (isName : cursor.node.child? "name" = some name) (isBody : cursor.node.child? "body" = some body)
    (lists : body.kind ∈ memberListKinds) :
    Coming env may room (cursor.down body) (Walk.entering env cursor.node name body state) := by
  obtain ⟨alive, vouched, -⟩ := coming
  rw [visitNode_of_type declares] at alive vouched
  constructor
  case alive =>
    rw [visitType_eq _ isName isBody] at alive
    rw [visitNode_of_list (.inr lists)]
    exact alive
  case vouched =>
    intro granted
    rw [visitNode_of_list (.inr lists), visitScript_of_list (.inr lists)]
    exact (vouched granted).entering declares isName isBody
  case homed => exact fun _ _ => homed_entering env cursor.node name body state

/-- **Classes that are the same but for their bodies are walked alike**, if the walks of their bodies are
alike. -/
theorem SameHead.arrive {node node' body body' : Node} {above above' : List Node} {first second : State}
    (head : SameHead env source node node' body body') (lists : body.kind ∈ memberListKinds)
    (peers : Peers body body') (gathered : Gathered env source (bodyMembers body) (bodyMembers body'))
    (ih : ∀ {first second : State}, Coming env may room ⟨body, node :: above⟩ first →
      Level env.classpath first second →
        Arrive env.classpath first second (visitNode env (walker env room) ⟨body, node :: above⟩ first)
          (visitNode (env.on source) (walker (env.on source) room) ⟨body', node' :: above'⟩ second))
    (coming : Coming env may room ⟨node, above⟩ first) (level : Level env.classpath first second) :
    Arrive env.classpath first second (visitNode env (walker env room) ⟨node, above⟩ first)
      (visitNode (env.on source) (walker (env.on source) room) ⟨node', above'⟩ second) := by
  have lists' : body'.kind ∈ memberListKinds := peers.kind ▸ lists
  have declares' : declaresType node'.kind = true := head.kind ▸ head.declares
  obtain ⟨distance, carried, isName'⟩ := Moved.distance (head.role "name" (by decide))
  rw [visitNode_of_type head.declares, visitNode_of_type declares']
  cases isName : node.child? "name" with
  | none =>
    rw [isName] at isName'
    simp only [visitType, isName, isName', Option.map_none]
    exact .refl level
  | some name =>
    rw [isName] at isName'
    have isName' : node'.child? "name" = some (name.moved distance) := isName'
    rw [visitType_eq _ isName head.body, visitType_eq _ isName' head.body']
    have entered : Arrive env.classpath first second (entering env node name body first)
        (entering (env.on source) node' (name.moved distance) body' second) :=
      entering_arrive head.heads gathered (text_moved (carried name isName)) level
    have walked := ih (coming.entering head.declares isName head.body lists) entered.level
    rw [visitNode_of_list (.inr lists), visitNode_of_list (.inr lists')] at walked
    exact entered.trans (walked.trans (leaving_abreast _ _ walked.level))

/-- **Trees in two orders are walked alike.** By induction on the way to the body that is rearranged. -/
theorem Rearranged.arrive {node node' : Node} (rearranged : Rearranged env source may node node')
    {above above' : List Node} {first second : State}
    (around : List.Forall₂ (Around env source) above above')
    (coming : Coming env may room ⟨node, above⟩ first) (level : Level env.classpath first second) :
    Arrive env.classpath first second (visitNode env (walker env room) ⟨node, above⟩ first)
      (visitNode (env.on source) (walker (env.on source) room) ⟨node', above'⟩ second) := by
  induction rearranged generalizing room above above' first second with
  | @members node node' peers lists only shuffled =>
    have lists' : node'.kind ∈ memberListKinds := peers.kind ▸ lists
    have ready := coming.ready (.inr lists) fun _ => only
    rw [visitNode_of_list (.inr lists), visitNode_of_list (.inr lists')]
    exact shuffled.named.arrive (.cons (peers.around (.inr lists)) around) lists ready level
  | @inside node node' child child' front front' back back' peers holds only children children' before behind
      inner ih =>
    cases holds with
    | type lists declares named =>
      exact arrive_inside peers lists only named inner.peers children children' before behind around
        (fun _ _ _ isList => absurd isList (not_lists_of_declares declares).2)
        (ih (.cons (peers.around lists) around)) coming level
    | constants isEnum isList named flat =>
      have lists : node.kind ∈ memberListKinds := isEnum ▸ by decide
      have homed (state : State)
          (ready : Ready env may room ⟨node, above⟩ (child :: back.filter (·.label.named)) state)
          (granted : may) : Homed (memberClasses env (bodyMembers child)) state.scope :=
        (ready.homed granted lists).mono
          (memberClasses_constants (ready.inside child List.mem_cons_self) isList flat)
      exact arrive_inside peers (.inr lists) only named inner.peers children children' before behind around
        (fun state ready granted _ => homed state ready granted)
        (ih (.cons (peers.around (.inr lists)) around)) coming level
    | body declares isBody plays earlier =>
      have head := sameHead_of_inside declares isBody plays earlier peers children children' before behind
        inner.peers
      have lists : child.kind ∈ memberListKinds := List.mem_cons_of_mem _ isBody
      exact head.arrive lists inner.peers (inner.gathered lists)
        (ih (.cons head.heads.toAround around)) coming level

/-! ## Indexes -/

/-- The class path answers for every class of a source. -/
def AnswersForSource (env : Env) (root : Node) : Prop :=
  ∀ bodies, Enters env Tree.maxNesting (.root root) .visit {} (walk env root) bodies →
    ∀ body ∈ bodies, AnswersFor env.classpath body.1 body.2

/-- The references of a table are those that were filed. -/
theorem mentions_perm (state : State) :
    ((state.table.list .reference).filterMap mention?).Perm
      (state.filings.filterMap fun filing => mention? filing.occurrence) := by
  have listed := (Table.list_ofEntries_perm (state.filings.reverse.map Filing.entry) .reference).filterMap mention?
  have kept : ((Table.entriesOf .reference (state.filings.reverse.map Filing.entry)).map (·.2)).filterMap mention? =
      state.filings.reverse.filterMap fun filing => mention? filing.occurrence := by
    rw [Table.entriesOf, List.filterMap_map, List.filterMap_filter, List.filterMap_map]
    apply List.filterMap_congr
    intro filing _
    cases isKind : filing.occurrence <;> simp [Filing.entry, isKind, Occurrence.kind, mention?]
  rw [kept] at listed
  exact listed.trans ((List.reverse_perm _).filterMap _)

/-- **Whole trees in two orders are walked alike.** -/
theorem walk_arrive {source' : Source} {root root' : Node} {classpath : Classpath}
    (isProgram : root.kind = "program")
    (rearranged : Rearranged (Env.ofTree source root classpath) source'
      (AnswersForSource (Env.ofTree source root classpath) root) root root')
    (alive : (walk (Env.ofTree source root classpath) root).tooDeep = none) :
    Arrive classpath {} {} (walk (Env.ofTree source root classpath) root)
      (walk (Env.ofTree source' root' classpath) root') := by
  rw [ofTree_rearranged rearranged isProgram]
  obtain ⟨room, isRoom⟩ : ∃ room, Tree.maxNesting = room + 1 := ⟨16383, rfl⟩
  have walked (env : Env) (root : Node) :
      walk env root = visitNode env (walker env room) (.root root) {} := by
    rw [walk, isRoom, visit_succ_eq rfl]
  have coming : Coming (Env.ofTree source root classpath)
      (AnswersForSource (Env.ofTree source root classpath) root) room (.root root) {} := by
    constructor
    case alive =>
      rw [← walked]
      exact alive
    case vouched =>
      intro answers
      rw [AnswersForSource, walk, isRoom] at answers
      have vouched : Vouched (Env.ofTree source root classpath) (room + 1) (.root root) .visit {}
          ((walker (Env.ofTree source root classpath) (room + 1)).visit (.root root) {}) :=
        ⟨fun _ _ absent => (nomatch absent), answers⟩
      have inner := vouched.visit rfl
      rwa [visit_succ_eq rfl] at inner
    case homed =>
      intro _ lists
      have isKind : root.kind ∈ memberListKinds := lists
      rw [isProgram] at isKind
      exact absurd isKind (by decide)
  rw [walked, walked]
  exact rearranged.arrive .nil coming (.refl {})

/-! ### Class paths that answer for a source -/

/-- Whether the class path answers for a class with the given members. -/
def answersFor (classpath : Classpath) (entry : String × SourceType) : Bool :=
  classpath.knows entry.1 && [MemberKind.field, .method].all fun kind =>
    (membersOf entry.2 kind).entries.all fun member =>
      classpath.findMember entry.1 member.1 kind = .ok ⟨entry.1, member.2⟩

theorem mem_of_find? {α : Type} {bindings : Bindings α} {name : String} {value : α}
    (found : bindings.find? name = some value) : (name, value) ∈ bindings.entries := by
  obtain ⟨entry, isEntry, rfl⟩ := Option.map_eq_some_iff.mp found
  have isName : entry.1 = name := eq_of_beq (List.find?_some (p := fun (entry : String × α) => entry.1 == name) isEntry)
  rw [← isName]
  exact List.mem_of_find?_eq_some isEntry

/-- What the check computes implies that the class path answers for the class. -/
theorem answersFor_of_check {classpath : Classpath} {path : String} {type : SourceType}
    (check : answersFor classpath (path, type) = true) : AnswersFor classpath path type := by
  simp only [answersFor, Bool.and_eq_true, List.all_eq_true, decide_eq_true_eq] at check
  refine ⟨check.1, fun kind name memberType found => ?_⟩
  exact check.2 kind (by cases kind <;> decide) (name, memberType) (mem_of_find? found)

/-- Where no two classes share a path, it is enough to look at the classes that are known in the end. -/
theorem answersForSource_of_check {root : Node} (package : '$' ∉ env.imports.package.toList)
    (outermost : outermostApart env ((leavings env Tree.maxNesting).visit (.root root)) = true)
    (named : (bodiesNamed env Tree.maxNesting).visit (.root root) = true)
    (check : (walk env root).scope.finished.entries.all (answersFor env.classpath) = true) :
    AnswersForSource env root := by
  intro bodies enters body listed
  have entered := enters.entered package (apart_of_outermostApart rfl outermost) named
  have known := enters.collects.members entered.nodup body listed
  exact answersFor_of_check (List.all_eq_true.mp check _ (mem_of_find? known))

end SymbolIndex.Walk

namespace SymbolIndex

open SymbolIndex.Tree (Node Source)
open SymbolIndex.Walk (Env Rearranged AnswersForSource mention?)

/-- **The order of members does not change what is found.** Take a source and the same source with the members
of one class body in another order, in which neighbours have been exchanged any number of times, and without
local or anonymous classes and bodies of enum constants there. If the first is indexed, so is the second, with
the same references (by member, kind, declaring type and owner) and as many notes. Not exchanged are two
members that add one name with different types, a member that binds a variable outside of blocks, and a member
class, unless the class path answers for every class of the source. -/
theorem build_rearranged (source source' : Source) (root root' : Node) (classpath : Classpath)
    (isProgram : root.kind = "program") (sound : root.all (!·.label.flawed))
    (rearranged : Rearranged (Env.ofTree source root classpath) source'
      (AnswersForSource (Env.ofTree source root classpath) root) root root') (index : SourceIndex)
    (built : SourceIndex.build source root classpath = .ok index) :
    ∃ index', SourceIndex.build source' root' classpath = .ok index' ∧
      ((index'.table.list .reference).filterMap mention?).Perm
        ((index.table.list .reference).filterMap mention?) ∧
      index'.notes.length = index.notes.length := by
  rw [SourceIndex.build_of_sound source sound, SourceIndex.ofWalk_eq_ok_iff] at built
  obtain ⟨alive, rfl⟩ := built
  have arrive := Walk.walk_arrive isProgram rearranged alive
  have alive' : (Walk.walk (Env.ofTree source' root' classpath) root').tooDeep = none := by
    have given := arrive.level.given
    rw [alive] at given
    exact Option.isNone_iff_eq_none.mp (Option.isSome_eq_false_iff.mp given.symm)
  have same := add_right_cancel arrive.gains
  refine ⟨_, (SourceIndex.build_of_sound source' (rearranged.unflawed sound) classpath).trans
    (SourceIndex.ofWalk_eq_ok_iff.mpr ⟨alive', rfl⟩), ?_, ?_⟩
  · have mentions := Multiset.coe_eq_coe.mp (congrArg Prod.fst same)
    exact (Walk.mentions_perm _).trans (mentions.symm.trans (Walk.mentions_perm _).symm)
  · rw [List.length_reverse, List.length_reverse]
    exact (congrArg Prod.snd same).symm

/-! ## A class that is used before it is declared -/

/-- The method `void m(B b) { b.x = 1; }` at byte 10. -/
def usingMethod : Node :=
  .word "method_declaration" none 10 34 [
    .word "void_type" (some "type") 10 14 [],
    .word "identifier" (some "name") 15 16 [],
    .word "formal_parameters" (some "parameters") 16 21 [
      .token "(" 16 17,
      .word "formal_parameter" none 17 20 [
        .word "type_identifier" (some "type") 17 18 [],
        .word "identifier" (some "name") 19 20 []],
      .token ")" 20 21],
    .word "block" (some "body") 22 34 [
      .token "\x7b" 22 23,
      .word "expression_statement" none 24 32 [
        .word "assignment_expression" none 24 31 [
          .word "field_access" (some "left") 24 27 [
            .word "identifier" (some "object") 24 25 [],
            .token "." 25 26,
            .word "identifier" (some "field") 26 27 []],
          .token "=" 28 29,
          .word "decimal_integer_literal" (some "right") 30 31 []],
        .token ";" 31 32],
      .token "\x7d" 33 34]]

/-- The class `class B { int x; }` behind it. -/
def usedClass : Node :=
  .word "class_declaration" none 35 53 [
    .token "class" 35 40,
    .word "identifier" (some "name") 41 42 [],
    .word "class_body" (some "body") 43 53 [
      .token "\x7b" 43 44,
      .word "field_declaration" none 45 51 [
        .word "integral_type" (some "type") 45 48 [.token "int" 45 48],
        .word "variable_declarator" (some "declarator") 49 50 [
          .word "identifier" (some "name") 49 50 []],
        .token ";" 50 51],
      .token "\x7d" 52 53]]

/-- The body of the class `A` with the given members. -/
def bodyOfTwo (first second : Node) : Node :=
  .word "class_body" (some "body") 8 55 [.token "\x7b" 8 9, first, second, .token "\x7d" 54 55]

def classOfTwo (first second : Node) : Node :=
  .word "class_declaration" none 0 55
    [.token "class" 0 5, .word "identifier" (some "name") 6 7 [], bodyOfTwo first second]

def fileOfTwo (first second : Node) : Node :=
  .word "program" none 0 55 [classOfTwo first second]

def usedFirst : Node :=
  fileOfTwo usingMethod usedClass

def usedFirstSource : Source :=
  .ofText "class A \x7b void m(B b) \x7b b.x = 1; \x7d class B \x7b int x; \x7d \x7d"

def declaredFirst : Node :=
  fileOfTwo (usedClass.moved (-25)) (usingMethod.moved 19)

def declaredFirstSource : Source :=
  .ofText "class A \x7b class B \x7b int x; \x7d void m(B b) \x7b b.x = 1; \x7d \x7d"

/-- The members of a class with a method and a member class in two orders. -/
theorem shuffled_two (env : Env) (isSource : env.source = usedFirstSource) {may : Prop} (granted : may) :
    Walk.Shuffled env declaredFirstSource may (bodyOfTwo usingMethod usedClass).children
      (bodyOfTwo (usedClass.moved (-25)) (usingMethod.moved 19)).children := by
  have moved {node : Node} (distance : Int)
      (carried : Tree.Carried usedFirstSource declaredFirstSource distance node) :
      Walk.Moved env declaredFirstSource node (node.moved distance) := ⟨distance, isSource ▸ carried, rfl⟩
  have walled : Walk.Walled usingMethod := .inl (by decide)
  have isMethod : Walk.Mobile env may usingMethod := by
    refine ⟨by decide, fun _ => granted, fun _ room above => ?_⟩
    exact Walk.Walled.unbound (show Walk.Walled (Tree.Cursor.node ⟨usingMethod, above⟩) from walled) room
  have isClass : Walk.Mobile env may usedClass :=
    ⟨by decide, fun _ => granted, fun other => absurd other (by decide)⟩
  have compatible : Walk.Compatible env usingMethod usedClass := by
    intro scope path _ _ addition listed
    have nothing : Walk.additions env scope path usedClass = [] := rfl
    rw [nothing] at listed
    cases listed
  refine ⟨[(.token "\x7b" 8 9, (Node.token "\x7b" 8 9).moved 0), (usingMethod, usingMethod.moved 19),
      (usedClass, usedClass.moved (-25)), (.token "\x7d" 54 55, (Node.token "\x7d" 54 55).moved 0)], _, ?_,
    .kept _ (.swap _ ⟨isMethod, isClass, compatible⟩), rfl, ?_⟩
  · simp only [List.forall_mem_cons]
    exact ⟨moved 0 (by decide +kernel), moved 19 (by decide +kernel), moved (-25) (by decide +kernel),
      moved 0 (by decide +kernel), fun _ absent => nomatch absent⟩
  · simp only [List.map_cons, List.map_nil, Node.moved_zero]
    rfl

/-- The two orders, if classes may change places. -/
theorem usedFirst_rearranged (classpath : Classpath) {may : Prop} (granted : may) :
    Rearranged (Env.ofTree usedFirstSource usedFirst classpath) declaredFirstSource may usedFirst
      declaredFirst := by
  have token {node : Node} (still : Tree.Carried usedFirstSource declaredFirstSource 0 node) :
      Walk.Moved (Env.ofTree usedFirstSource usedFirst classpath) declaredFirstSource node node :=
    ⟨0, still, (Node.moved_zero node).symm⟩
  have only : Walk.MemberClassesOnly (bodyOfTwo usingMethod usedClass) := by
    intro member listed
    have members : Walk.bodyMembers (bodyOfTwo usingMethod usedClass) = [usingMethod, usedClass] := rfl
    rw [members, List.mem_pair] at listed
    rcases listed with rfl | rfl
    · exact .inr (by decide +kernel)
    · exact .inl (by decide)
  have body : Rearranged (Env.ofTree usedFirstSource usedFirst classpath) declaredFirstSource may
      (bodyOfTwo usingMethod usedClass) (bodyOfTwo (usedClass.moved (-25)) (usingMethod.moved 19)) :=
    .members ⟨rfl, rfl, rfl, rfl⟩ (by decide) only (shuffled_two _ rfl granted)
  have head : List.Forall₂ (Walk.Moved (Env.ofTree usedFirstSource usedFirst classpath) declaredFirstSource)
      [.token "class" 0 5, .word "identifier" (some "name") 6 7 []]
      [.token "class" 0 5, .word "identifier" (some "name") 6 7 []] :=
    .cons (token (by decide +kernel)) (.cons (token (by decide +kernel)) .nil)
  have inClass : Rearranged (Env.ofTree usedFirstSource usedFirst classpath) declaredFirstSource may
      (classOfTwo usingMethod usedClass) (classOfTwo (usedClass.moved (-25)) (usingMethod.moved 19)) :=
    .inside ⟨rfl, rfl, rfl, rfl⟩ (.body (by decide) (by decide) rfl (by decide))
      (fun lists => absurd lists (by decide)) rfl rfl head .nil body
  exact .inside ⟨rfl, rfl, rfl, rfl⟩ (.type (.inl rfl) (by decide) rfl)
    (fun lists => absurd lists (by decide)) rfl rfl .nil .nil inClass

/-- The root class and the classes of the source, compiled. -/
def compiledClasses : Classpath :=
  ⟨[.ofDecls "map" [⟨"A", some Walk.rootClass, [], [], [⟨"m", .primitive .void⟩], true⟩,
    ⟨"A$B", some Walk.rootClass, [], [⟨"x", .primitive .int⟩], [], true⟩, ⟨Walk.rootClass, none, [], [], [], true⟩]]⟩

/-- A tree without flaws, and not too deep, has an index with the table of its walk. -/
theorem exists_index {source : Source} {root : Node} {classpath : Classpath}
    (sound : root.all (!·.label.flawed))
    (shallow : (Walk.walk (Env.ofTree source root classpath) root).tooDeep = none) :
    ∃ index, SourceIndex.build source root classpath = .ok index ∧
      index.table = (Walk.walk (Env.ofTree source root classpath) root).table ∧
      index.notes.length = (Walk.walk (Env.ofTree source root classpath) root).notes.length := by
  refine ⟨_, (SourceIndex.build_of_sound source sound classpath).trans
    (SourceIndex.ofWalk_eq_ok_iff.mpr ⟨shallow, rfl⟩), rfl, List.length_reverse⟩

/-- With the compiled classes on the class path the access to `x` is found in both orders. -/
theorem build_rearranged_compiled :
    let env := Env.ofTree usedFirstSource usedFirst compiledClasses
    AnswersForSource env usedFirst ∧
      Rearranged env declaredFirstSource (AnswersForSource env usedFirst) usedFirst declaredFirst ∧
      ∃ index index', SourceIndex.build usedFirstSource usedFirst compiledClasses = .ok index ∧
        SourceIndex.build declaredFirstSource declaredFirst compiledClasses = .ok index' ∧
        (index.table.list .reference).filterMap mention? = [("x", .field, "A$B", "A")] ∧
        ((index'.table.list .reference).filterMap mention?).Perm
          ((index.table.list .reference).filterMap mention?) ∧
        index.notes.length = 0 ∧ index'.notes.length = index.notes.length := by
  intro env
  have walked : (Walk.walk env usedFirst).scope.finished.entries.all (Walk.answersFor env.classpath) = true ∧
      (Walk.walk env usedFirst).tooDeep = none ∧
      ((Walk.walk env usedFirst).table.list .reference).filterMap mention? = [("x", .field, "A$B", "A")] ∧
      (Walk.walk env usedFirst).notes.length = 0 := by decide +kernel
  obtain ⟨check, shallow, found, noted⟩ := walked
  have answers : AnswersForSource env usedFirst :=
    Walk.answersForSource_of_check (by decide +kernel) (by decide +kernel) (by decide +kernel) check
  have rearranged := usedFirst_rearranged compiledClasses answers
  have sound : usedFirst.all (!·.label.flawed) := by decide +kernel
  obtain ⟨index, built, isTable, isNotes⟩ := exists_index sound shallow
  obtain ⟨index', built', mentions, notes⟩ := build_rearranged usedFirstSource declaredFirstSource usedFirst
    declaredFirst compiledClasses rfl sound rearranged index built
  rw [← isTable] at found
  exact ⟨answers, rearranged, index, index', built, built', found, mentions, isNotes.trans noted, notes⟩

/-- Without them it is found only where the class is declared first: a class whose body has not been walked
yet has no known members, and the access is noted instead. -/
theorem order_of_class_changes_references :
    let classes : Classpath := ⟨[.ofDecls "map" [⟨Walk.rootClass, none, [], [], [], true⟩]]⟩
    Rearranged (Env.ofTree usedFirstSource usedFirst classes) declaredFirstSource True usedFirst
        declaredFirst ∧
      ∃ index index', SourceIndex.build usedFirstSource usedFirst classes = .ok index ∧
        SourceIndex.build declaredFirstSource declaredFirst classes = .ok index' ∧
        (index.table.list .reference).filterMap mention? = [] ∧
        (index'.table.list .reference).filterMap mention? = [("x", .field, "A$B", "A")] ∧
        index.notes.length = 1 ∧ index'.notes.length = 0 := by
  intro classes
  let env := Env.ofTree usedFirstSource usedFirst classes
  let env' := Env.ofTree declaredFirstSource declaredFirst classes
  have walked : (Walk.walk env usedFirst).tooDeep = none ∧
      ((Walk.walk env usedFirst).table.list .reference).filterMap mention? = [] ∧
      (Walk.walk env usedFirst).notes.length = 1 := by decide +kernel
  have walked' : (Walk.walk env' declaredFirst).tooDeep = none ∧
      ((Walk.walk env' declaredFirst).table.list .reference).filterMap mention? =
        [("x", .field, "A$B", "A")] ∧
      (Walk.walk env' declaredFirst).notes.length = 0 := by decide +kernel
  obtain ⟨shallow, found, noted⟩ := walked
  obtain ⟨shallow', found', noted'⟩ := walked'
  obtain ⟨index, built, isTable, isNotes⟩ := exists_index (by decide +kernel) shallow
  obtain ⟨index', built', isTable', isNotes'⟩ := exists_index (by decide +kernel) shallow'
  rw [← isTable] at found
  rw [← isTable'] at found'
  exact ⟨usedFirst_rearranged classes trivial, index, index', built, built', found, found',
    isNotes.trans noted, isNotes'.trans noted'⟩

end SymbolIndex
