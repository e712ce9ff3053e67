import SymbolIndex.Proofs.Comments.Reading
import SymbolIndex.Proofs.Order.Scopes

/-!
# Nodes that are moved

A node that is moved keeps its shape, and everything below it moves by the same distance. When the text
moves along (`Carried`), nothing that a walk reads off the node changes: each reading finds the same in the
moved node over the new text, or the moved node of what it found. With the equations of `Order.Scopes` the
two walks may even ask in different scopes.
-/

namespace SymbolIndex.Tree

/-- The label of a node that is moved. -/
def Label.moved (distance : Int) (label : Label) : Label :=
  { label with
    start := (label.start + distance).toNat
    stop := (label.stop + distance).toNat }

namespace Node

mutual

/-- A node that is moved, with everything below it. -/
def moved (distance : Int) : Node → Node
  | ⟨label, broken, children⟩ => ⟨label.moved distance, broken, movedAll distance children⟩

/-- Nodes that are moved. -/
def movedAll (distance : Int) : List Node → List Node
  | [] => []
  | node :: nodes => moved distance node :: movedAll distance nodes

end

section Shape

variable (distance : Int) (node : Node)

/-- A list is moved node by node. -/
theorem movedAll_eq (nodes : List Node) : movedAll distance nodes = nodes.map (moved distance) := by
  induction nodes with
  | nil => rw [movedAll, List.map_nil]
  | cons node nodes ih => rw [movedAll, ih, List.map_cons]

@[simp] theorem label_moved : (node.moved distance).label = node.label.moved distance := by
  cases node
  rw [moved]

@[simp] theorem children_moved : (node.moved distance).children = node.children.map (moved distance) := by
  cases node
  rw [moved, movedAll_eq]

@[simp] theorem kind_moved : (node.moved distance).kind = node.kind := by
  rw [kind, kind, label_moved]
  rfl

/-- A node plays its role where it has been moved to. -/
@[simp] theorem plays_moved (role : String) : (node.moved distance).plays role = node.plays role := by
  rw [plays, plays, label_moved]
  rfl

@[simp] theorem named_moved : (node.moved distance).named = node.named.map (moved distance) := by
  rw [named, named, children_moved, List.filter_map]
  congr 1
  apply List.filter_congr
  intro child _
  rw [Function.comp_apply, label_moved]
  rfl

/-- What is found among moved nodes by kind or role is found in the same place. -/
theorem find?_moved {holds : Node → Bool} (byShape : ∀ node, holds (moved distance node) = holds node)
    (nodes : List Node) :
    (nodes.map (moved distance)).find? holds = (nodes.find? holds).map (moved distance) := by
  rw [List.find?_map]
  congr 2
  funext node
  exact byShape node

/-- What is chosen by anything but the place is chosen alike. -/
theorem filter_moved {holds : Node → Bool} (byShape : ∀ node, holds (moved distance node) = holds node)
    (nodes : List Node) :
    (nodes.map (moved distance)).filter holds = (nodes.filter holds).map (moved distance) := by
  rw [List.filter_map]
  congr 2
  funext node
  exact byShape node

/-- The first child in a role is the one that has been moved. -/
@[simp] theorem child?_moved (role : String) :
    (node.moved distance).child? role = (node.child? role).map (moved distance) := by
  rw [child?, child?, children_moved]
  exact find?_moved distance (fun node => plays_moved distance node role) _

/-- The children in a role have been moved one by one. -/
@[simp] theorem childrenIn_moved (role : String) :
    (node.moved distance).childrenIn role = (node.childrenIn role).map (moved distance) := by
  rw [childrenIn, childrenIn, children_moved]
  exact filter_moved distance (fun node => plays_moved distance node role) _

end Shape

end Node

/-! ## Text that moves along -/

/-- A node whose text moves along with it, and so does the text of everything below. -/
def Carried (source source' : Source) (distance : Int) (node : Node) : Prop :=
  node.all fun node => decide (0 ≤ node.start + distance ∧ 0 ≤ node.stop + distance ∧
    source'.slice (node.moved distance).start (node.moved distance).stop =
      source.slice node.start node.stop)

instance (source source' : Source) (distance : Int) (node : Node) :
    Decidable (Carried source source' distance node) :=
  inferInstanceAs (Decidable (_ = true))

namespace Carried

variable {source source' : Source} {distance : Int} {node child : Node}

/-- A carried node has room before it, and its text stands in both sources. -/
theorem here (carried : Carried source source' distance node) :
    0 ≤ node.start + distance ∧ 0 ≤ node.stop + distance ∧
      source'.slice (node.moved distance).start (node.moved distance).stop =
        source.slice node.start node.stop :=
  of_decide_eq_true (Node.all_iff.mp carried).1

/-- The children of a carried node are carried with it. -/
theorem below (carried : Carried source source' distance node) (inside : child ∈ node.children) :
    Carried source source' distance child :=
  (Node.all_iff.mp carried).2 child inside

/-- The named children of a carried node are carried with it. -/
theorem belowNamed (carried : Carried source source' distance node) (inside : child ∈ node.named) :
    Carried source source' distance child :=
  carried.below (Node.mem_of_named inside)

/-- A child that is found by its role is carried with the node. -/
theorem belowRole {role : String} (carried : Carried source source' distance node)
    (found : node.child? role = some child) : Carried source source' distance child :=
  carried.below (Node.mem_of_child? found)

/-- What plays a role is carried with the node, if there is anything. -/
theorem role (carried : Carried source source' distance node) (role : String) :
    ∀ child ∈ node.child? role, Carried source source' distance child :=
  fun _ => carried.belowRole

end Carried

/-- Two nodes are at one place when they have been moved to one place. -/
theorem samePlace_moved {source source' : Source} {distance : Int} {first second : Node}
    (carried : Carried source source' distance first) (carried' : Carried source source' distance second) :
    (first.moved distance).samePlace (second.moved distance) = first.samePlace second := by
  obtain ⟨start, stop, -⟩ := carried.here
  obtain ⟨start', stop', -⟩ := carried'.here
  have same {place place' : Nat} (positive : 0 ≤ (place : Int) + distance)
      (positive' : 0 ≤ (place' : Int) + distance) :
      ((place + distance).toNat == (place' + distance).toNat) = (place == place') := by
    rw [Bool.eq_iff_iff, beq_iff_eq, beq_iff_eq]
    omega
  have starts := same start start'
  have stops := same stop stop'
  simp only [Node.start, Node.stop] at starts stops
  simp only [Node.samePlace, Node.start, Node.stop, Node.label_moved, Label.moved, starts, stops]

section Texts

variable {source source' : Source} {distance : Int}

/-- The words of a type are moved with it. -/
theorem tokensOnto_moved (found nodes : List Node) :
    tokensOnto (found.map (Node.moved distance)) (nodes.map (Node.moved distance)) =
      (tokensOnto found nodes).map (Node.moved distance) := by
  fun_induction tokensOnto found nodes with
  | case1 found => rw [List.map_nil, tokensOnto]
  | case2 found node rest trivia ih =>
    rw [List.map_cons, tokensOnto, Node.kind_moved, if_pos trivia, ih]
  | case3 found node rest kept leaf ih =>
    have leaf' : (node.moved distance).children.isEmpty := by simpa using leaf
    rw [List.map_cons, tokensOnto, Node.kind_moved, if_neg kept, if_pos leaf', ← List.map_cons, ih]
  | case4 found node rest kept inside ih =>
    have inside' : ¬ (node.moved distance).children.isEmpty := by simpa using inside
    rw [List.map_cons, tokensOnto, Node.kind_moved, if_neg kept, if_neg inside', Node.children_moved,
      ← List.map_append, ih]

/-- The tokens of a type are nodes of it. -/
theorem tokensOnto_all {holds : Node → Bool} (found nodes : List Node)
    (all : ∀ node ∈ found ++ nodes, node.all holds) : ∀ token ∈ tokensOnto found nodes, token.all holds := by
  fun_induction tokensOnto found nodes with
  | case1 found => simpa using all
  | case2 found node rest _ ih =>
    refine ih fun other member => all other ?_
    simp only [List.mem_append, List.mem_cons] at member ⊢
    exact member.imp_right .inr
  | case3 found node rest _ _ ih =>
    refine ih fun other member => all other ?_
    simp only [List.mem_append, List.mem_cons] at member ⊢
    tauto
  | case4 found node rest _ _ ih =>
    refine ih fun other member => ?_
    simp only [List.mem_append] at member
    rcases member with listed | inside | later
    · exact all other (List.mem_append_left _ listed)
    · exact (Node.all_iff.mp (all node (by simp))).2 other inside
    · exact all other (by simp [later])

/-- **A type has the same text.** -/
theorem typeText_moved {node : Node} (carried : Carried source source' distance node) :
    typeText source' (node.moved distance) = typeText source node := by
  have tokens_moved : tokens (node.moved distance) = (tokens node).map (Node.moved distance) := by
    rw [tokens, tokens, List.map_reverse]
    exact congrArg List.reverse (tokensOnto_moved [] [node])
  have each : ∀ token ∈ tokens node, Carried source source' distance token := by
    intro token member
    refine tokensOnto_all [] [node] (fun other inside => ?_) token (List.mem_reverse.mp member)
    rw [List.nil_append, List.mem_singleton] at inside
    exact inside ▸ carried
  rw [typeText, typeText, tokens_moved, List.map_map]
  congr 2
  apply List.map_congr_left
  intro token member
  exact congrArg String.toList (each token member).here.2.2

/-- Brackets are counted alike in the other source. -/
theorem dimensionsOf_moved {found : Option Node}
    (carried : ∀ node ∈ found, Carried source source' distance node) :
    dimensionsOf source' (found.map (Node.moved distance)) = dimensionsOf source found := by
  cases found with
  | none => rfl
  | some node => exact congrArg (Text.occurrences '[') (carried node rfl).here.2.2

end Texts

end SymbolIndex.Tree

namespace SymbolIndex.Walk

open SymbolIndex.Tree (Node Source Cursor Carried)

/-- The environment over another text. -/
def Env.on (env : Env) (source : Source) : Env :=
  { env with source }

section Readings

variable {env : Env} {source : Source} {distance : Int} {first second : Scope} {node : Node}

/-- **The text of a carried node** is its text in the other source. -/
theorem text_moved (carried : Carried env.source source distance node) :
    (env.on source).text (node.moved distance) = env.text node :=
  carried.here.2.2

/-! ## Types -/

theorem simpleType_on (scope : Scope) (name : String) :
    simpleType (env.on source) scope name = simpleType env scope name :=
  rfl

/-- A dotted name stands for the same type, whatever text is walked. -/
theorem namedType_on (scope : Scope) (dotted : String) :
    namedType (env.on source) scope dotted = namedType env scope dotted :=
  rfl

/-- **A moved node denotes the same type.** By induction on the node. -/
theorem typeOf_moved (scope : Scope) (carried : Carried env.source source distance node) :
    typeOf (env.on source) scope (node.moved distance) = typeOf env scope node := by
  induction node using Node.induct with
  | step node ih =>
    have below {found : Option Node} (inside : ∀ child ∈ found, child ∈ node.children) :
        (found.map (Node.moved distance)).bind (typeOf (env.on source) scope) =
          found.bind (typeOf env scope) := by
      cases found with
      | none => rfl
      | some child => exact ih child (inside child rfl) (carried.below (inside child rfl))
    have text : Tree.typeText (env.on source).source (node.moved distance) = Tree.typeText env.source node :=
      Tree.typeText_moved carried
    have dimensions : Tree.dimensionsOf (env.on source).source
        ((node.child? "dimensions").map (Node.moved distance)) =
          Tree.dimensionsOf env.source (node.child? "dimensions") :=
      Tree.dimensionsOf_moved (carried.role "dimensions")
    rw [typeOf_eq (env.on source) scope (node.moved distance), typeOf_eq env scope node, Node.kind_moved,
      text_moved carried]
    cases TypeForm.ofKind node.kind with
    | keyword => rfl
    | simple => simp only [simpleType_on]
    | qualified => simp only [text, namedType_on]
    | parameterized =>
      simp only [Node.named_moved]
      rw [Node.find?_moved distance fun node => by rw [Node.kind_moved]]
      exact below fun child found => Node.mem_of_named (List.mem_of_find?_eq_some found)
    | array =>
      simp only [Node.child?_moved, dimensions]
      cases found : node.child? "element" with
      | none => rfl
      | some element =>
        simp only [Option.map_some, Option.bind_some]
        rw [ih element (Node.mem_of_child? found) (carried.belowRole found)]
    | annotated =>
      simp only [Node.named_moved]
      rw [Node.filter_moved distance fun node => by rw [Node.kind_moved], List.getLast?_map]
      exact below fun child found =>
        Node.mem_of_named (List.mem_filter.mp (List.mem_of_getLast? found)).1
    | other => rfl

variable (same : Same env.classpath first second)

include same

/-- **A moved type** is read as the same type in a scope that knows the same. -/
theorem typeOf_beside (carried : Carried env.source source distance node) :
    typeOf (env.on source) second (node.moved distance) = typeOf env first node := by
  rw [typeOf_moved second carried, typeOf_same same]

/-- A moved class name stands for the same class. -/
theorem classOf_beside (carried : Carried env.source source distance node) :
    classOf (env.on source) second (node.moved distance) = classOf env first node := by
  rw [classOf, classOf, typeOf_beside same carried]

/-- What is bound to a node that may be there is the same. -/
theorem typeOf?_beside {type : Option Node} (carried : ∀ node ∈ type, Carried env.source source distance node) :
    (type.map (Node.moved distance)).bind (typeOf (env.on source) second) = type.bind (typeOf env first) := by
  cases type with
  | none => rfl
  | some type => exact typeOf_beside same (carried type rfl)

/-- A class name that may be missing stands for the same class, or is missing. -/
theorem classOf?_beside {type : Option Node}
    (carried : ∀ node ∈ type, Carried env.source source distance node) :
    (type.map (Node.moved distance)).bind (classOf (env.on source) second) =
      type.bind (classOf env first) := by
  cases type with
  | none => rfl
  | some type => exact classOf_beside same (carried type rfl)

/-! ## Parameters -/

end Readings

/-- A parameter whose name is moved. -/
def Parameter.moved (distance : Int) (parameter : Parameter) : Parameter :=
  { parameter with name := parameter.name.moved distance }

section Parameters

variable {env : Env} {source : Source} {distance : Int} {first second : Scope} {node : Node}
  (same : Same env.classpath first second)

include same

/-- A moved parameter is read as the same parameter with its name moved. -/
theorem formalParameter_beside (carried : Carried env.source source distance node) :
    formalParameter (env.on source) second (node.moved distance) =
      (formalParameter env first node).map (Parameter.moved distance) := by
  have dimensions : Tree.dimensionsOf (env.on source).source
      ((node.child? "dimensions").map (Node.moved distance)) =
        Tree.dimensionsOf env.source (node.child? "dimensions") :=
    Tree.dimensionsOf_moved (carried.role "dimensions")
  unfold formalParameter
  simp only [Node.child?_moved, dimensions]
  cases found : node.child? "type" with
  | none => rfl
  | some type =>
    have below := carried.belowRole found
    have text : Tree.typeText (env.on source).source (type.moved distance) =
        Tree.typeText env.source type := Tree.typeText_moved below
    cases node.child? "name" with
    | none => rfl
    | some name => simp [Parameter.moved, typeOf_beside same below, text]

/-- A moved parameter with dots behind its type is read as the same with its name moved. -/
theorem spreadParameter_beside (carried : Carried env.source source distance node) :
    spreadParameter (env.on source) second (node.moved distance) =
      (spreadParameter env first node).map (Parameter.moved distance) := by
  unfold spreadParameter
  simp only [Node.named_moved]
  rw [Node.find?_moved distance fun node => by rw [Node.kind_moved],
    Node.find?_moved distance fun node => by rw [Node.kind_moved]]
  cases found : node.named.find? (Tree.isTypeKind ·.kind) with
  | none => rfl
  | some type =>
    have below := carried.belowNamed (List.mem_of_find?_eq_some found)
    have text : Tree.typeText (env.on source).source (type.moved distance) =
        Tree.typeText env.source type := Tree.typeText_moved below
    cases node.named.find? (·.kind == "variable_declarator") with
    | none => rfl
    | some declarator =>
      simp only [Option.map_some, Option.bind_eq_bind, Option.bind_some, Node.child?_moved]
      cases declarator.child? "name" with
      | none => rfl
      | some name => simp [Parameter.moved, typeOf_beside same below, text]

theorem parameter?_beside (carried : Carried env.source source distance node) :
    parameter? (env.on source) second (node.moved distance) =
      (parameter? env first node).map (Parameter.moved distance) := by
  unfold parameter?
  rw [Node.kind_moved]
  split
  · exact formalParameter_beside same carried
  · split
    · exact spreadParameter_beside same carried
    · rfl

/-- The parameters of a moved list are the same, with their names moved. -/
theorem parameters_beside {list : Option Node}
    (carried : ∀ node ∈ list, Carried env.source source distance node) :
    parameters (env.on source) second (list.map (Node.moved distance)) =
      (parameters env first list).map (Parameter.moved distance) := by
  cases list with
  | none => rfl
  | some list =>
    simp only [parameters, Option.map_some, Node.named_moved, List.filterMap_map, List.map_filterMap]
    apply List.filterMap_congr
    intro node inside
    exact parameter?_beside same ((carried list rfl).belowNamed inside)

end Parameters

/-- The name of a parameter is a node of its list. -/
theorem carried_parameters {env : Env} {source : Source} {distance : Int} {scope : Scope}
    {list : Option Node} (carried : ∀ node ∈ list, Carried env.source source distance node) :
    ∀ parameter ∈ parameters env scope list, Carried env.source source distance parameter.name := by
  cases list with
  | none => simp [parameters]
  | some list =>
    intro parameter listed
    obtain ⟨node, inside, found⟩ := List.mem_filterMap.mp listed
    have here := (carried list rfl).belowNamed inside
    unfold parameter? at found
    split at found
    · unfold formalParameter at found
      simp only [Option.bind_eq_bind, Option.bind_eq_some_iff] at found
      obtain ⟨type, -, name, isName, same⟩ := found
      cases same
      exact here.belowRole isName
    · split at found
      · unfold spreadParameter at found
        simp only [Option.bind_eq_bind, Option.bind_eq_some_iff] at found
        obtain ⟨type, -, declarator, isDeclarator, name, isName, same⟩ := found
        cases same
        exact (here.belowNamed (List.mem_of_find?_eq_some isDeclarator)).belowRole isName
      · cases found

end SymbolIndex.Walk
