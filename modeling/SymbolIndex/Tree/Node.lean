/-!
# Syntax trees

A node has a kind, the role it plays in its parent, the byte range it covers, and its children in
document order: words of the grammar as well as single tokens. A node that stands for text the
grammar could not place is an *error*, one that the grammar inserted is *missing*; `broken` tells
whether there is such a node anywhere below, the node itself included.

A tree is built from the list of its nodes in document order, each with its depth (`ofPreorder?`).
-/

namespace SymbolIndex.Tree

/-- What is said of a node apart from its children. -/
structure Label where
  kind : String
  /-- The role the node plays in its parent, when the grammar names one. -/
  role : Option String
  /-- Whether the node is a word of the grammar rather than a literal token. -/
  named : Bool
  error : Bool
  missing : Bool
  start : Nat
  stop : Nat
  deriving DecidableEq, Repr

/-- Whether the node is an error or missing. -/
def Label.flawed (label : Label) : Bool :=
  label.error || label.missing

/-- A node with everything below it. -/
structure Node where
  label : Label
  broken : Bool
  children : List Node

namespace Node

/-- The node with the given children, marked as broken when it or one of them is. -/
def ofChildren (label : Label) (children : List Node) : Node where
  label
  broken := label.flawed || children.any (·.broken)
  children

/-- The kind of the node. -/
def kind (node : Node) : String := node.label.kind

/-- The first byte of the node. -/
def start (node : Node) : Nat := node.label.start

/-- The first byte behind the node. -/
def stop (node : Node) : Nat := node.label.stop

/-- Whether two nodes cover the same bytes. Siblings that do are the same node. -/
def samePlace (first second : Node) : Bool :=
  first.start == second.start && first.stop == second.stop

/-- Whether the node plays the given role. -/
def plays (node : Node) (role : String) : Bool :=
  node.label.role == some role

/-- The children that are words of the grammar. -/
def named (node : Node) : List Node :=
  node.children.filter (·.label.named)

/-- The first child in the given role. -/
def child? (node : Node) (role : String) : Option Node :=
  node.children.find? (·.plays role)

/-- The children in the given role. -/
def childrenIn (node : Node) (role : String) : List Node :=
  node.children.filter (·.plays role)

/-- Whether a `modifiers` child holds the given modifier. -/
def hasModifier (node : Node) (modifier : String) : Bool :=
  (node.children.filter (·.kind == "modifiers")).any fun modifiers =>
    modifiers.children.any (·.kind == modifier)

mutual

/-- The number of nodes of a tree. -/
def size : Node → Nat
  | ⟨_, _, children⟩ => 1 + sizes children

/-- The number of nodes of a list of trees. -/
def sizes : List Node → Nat
  | [] => 0
  | node :: nodes => size node + sizes nodes

end

theorem sizes_append (first second : List Node) :
    sizes (first ++ second) = sizes first + sizes second := by
  induction first with
  | nil => simp [sizes]
  | cons node nodes ih => simp only [List.cons_append, sizes, ih]; omega

/-- A node counts itself and what lies below it. -/
theorem size_eq (node : Node) : node.size = 1 + sizes node.children := by
  cases node
  rw [size]

/-- Putting the children of a node in its place makes a list of nodes smaller. -/
theorem sizes_children_lt (node : Node) (rest : List Node) :
    sizes (node.children ++ rest) < sizes (node :: rest) := by
  rw [sizes_append, sizes, size_eq]
  omega

/-- Leaving a node out makes a list smaller. -/
theorem sizes_lt_cons (node : Node) (rest : List Node) : sizes rest < sizes (node :: rest) := by
  rw [sizes, size_eq]
  omega

theorem size_le_sizes_of_mem {node : Node} {nodes : List Node} (member : node ∈ nodes) :
    node.size ≤ sizes nodes := by
  induction nodes with
  | nil => cases member
  | cons first others ih =>
    rw [sizes]
    cases member with
    | head => omega
    | tail _ later => have := ih later; omega

/-- A child is smaller than its node, which is why walks over the tree end. -/
theorem size_lt_of_mem {node child : Node} (member : child ∈ node.children) :
    child.size < node.size := by
  have := size_le_sizes_of_mem member
  rw [size_eq node]
  omega

/-- A named child is smaller than its node. -/
theorem size_lt_of_named {node child : Node} (member : child ∈ node.named) :
    child.size < node.size :=
  size_lt_of_mem (List.mem_filter.1 member).1

/-- A child that is found by its role is smaller than its node. -/
theorem size_lt_of_child? {node child : Node} {role : String}
    (found : node.child? role = some child) : child.size < node.size :=
  size_lt_of_mem (List.mem_of_find?_eq_some found)

/-- The nodes of a list of trees in document order, onto those already `listed`, newest first. -/
def listOnto (listed : List Node) : List Node → List Node
  | [] => listed
  | node :: rest => listOnto (node :: listed) (node.children ++ rest)
termination_by nodes => sizes nodes
decreasing_by exact sizes_children_lt node rest

/-- The node and everything below it, in document order. -/
def preorder (node : Node) : List Node :=
  (listOnto [] [node]).reverse

/-- Puts one more node in front of the trees that begin behind it: those one level deeper are its
children. Trees are kept with their depths. -/
def adopt (depth : Nat) (label : Label) (trees : List (Nat × Node)) : List (Nat × Node) :=
  let (children, others) := trees.span (·.1 == depth + 1)
  (depth, ofChildren label (children.map (·.2))) :: others

/-- The tree whose nodes are listed with their depths in document order. -/
def ofPreorder? (entries : List (Nat × Label)) : Option Node :=
  match entries.foldr (fun (depth, label) trees => adopt depth label trees) [] with
  | [(0, root)] => some root
  | _ => none

end Node

end SymbolIndex.Tree
