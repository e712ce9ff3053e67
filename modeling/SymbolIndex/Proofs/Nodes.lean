import SymbolIndex.Tree.Node

/-!
# Properties of trees, node by node

What is assumed of a syntax tree is said of each of its nodes: `Node.all` asks it of a node and of
everything below. It computes, so that it can be tried on a given tree.
-/

namespace SymbolIndex.Tree.Node

mutual

/-- Whether a property holds of a node and of everything below it. -/
def all (holds : Node → Bool) : Node → Bool
  | ⟨label, broken, children⟩ => holds ⟨label, broken, children⟩ && allIn holds children

/-- Whether a property holds everywhere in a list of trees. -/
def allIn (holds : Node → Bool) : List Node → Bool
  | [] => true
  | node :: nodes => all holds node && allIn holds nodes

end

/-- What holds of all nodes of some trees holds of all nodes of each. -/
theorem allIn_iff {holds : Node → Bool} {nodes : List Node} :
    allIn holds nodes ↔ ∀ node ∈ nodes, node.all holds := by
  induction nodes with
  | nil => simp [allIn]
  | cons node nodes ih => simp [allIn, ih]

/-- A property holds everywhere when it holds of the node and everywhere below its children. -/
theorem all_iff {holds : Node → Bool} {node : Node} :
    node.all holds ↔ holds node ∧ ∀ child ∈ node.children, child.all holds := by
  cases node
  rw [all, Bool.and_eq_true, allIn_iff]

/-- What holds of a node when it holds of its children holds of every node. -/
theorem induct {motive : Node → Prop}
    (step : ∀ node, (∀ child ∈ node.children, motive child) → motive node) (node : Node) :
    motive node :=
  step node fun child _ => induct step child
termination_by node.size
decreasing_by exact size_lt_of_mem ‹_›

/-- A named child is a child. -/
theorem mem_of_named {node child : Node} (member : child ∈ node.named) : child ∈ node.children :=
  (List.mem_filter.mp member).1

/-- A child that is found by its role is a child. -/
theorem mem_of_child? {node child : Node} {role : String} (found : node.child? role = some child) :
    child ∈ node.children :=
  List.mem_of_find?_eq_some found

/-- A child that is found by its role plays it. -/
theorem plays_of_child? {node child : Node} {role : String} (found : node.child? role = some child) :
    child.plays role := by
  unfold child? at found
  exact List.find?_some (p := (plays · role)) found

theorem mem_childrenIn_of_child? {node child : Node} {role : String}
    (found : node.child? role = some child) : child ∈ node.childrenIn role :=
  List.mem_filter.mpr ⟨mem_of_child? found, plays_of_child? found⟩

/-- Children in different roles are different nodes. -/
theorem ne_of_roles {first second : Node} {role role' : String} (plays : first.plays role)
    (plays' : second.plays role') (differ : role ≠ role') : first ≠ second := by
  rintro rfl
  have same : some role = some role' := (eq_of_beq plays).symm.trans (eq_of_beq plays')
  exact differ (Option.some.inj same)

/-- A word of the grammar at a place, without flaws. -/
def word (kind : String) (role : Option String) (start stop : Nat) (children : List Node) : Node :=
  ofChildren ⟨kind, role, true, false, false, start, stop⟩ children

/-- A literal token at a place. -/
def token (text : String) (start stop : Nat) : Node :=
  ofChildren ⟨text, none, false, false, false, start, stop⟩ []

end SymbolIndex.Tree.Node
