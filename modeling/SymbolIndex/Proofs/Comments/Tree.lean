import Mathlib.Tactic.MkIffOfInductiveProp
import SymbolIndex.Proofs.Nodes
import SymbolIndex.Tree.TypeText

/-!
# Trees without their comments

Comments are words of the grammar and may stand almost anywhere among the children of a node. `uncommented`
takes them out of a whole tree and leaves every other node with its label.

What is assumed of the comments of a tree is `Commented`: they hold nothing and play no role, and they stand
between other children. Only a program starts or ends with comments, as a node is closed before the comments
behind it are read. A child that is looked for by its role or its kind is then found in both trees
(`child?_uncommented`, `find?_uncommentedAll`), and a type has the same text (`typeText_uncommented`).
-/

namespace SymbolIndex.Tree

namespace Node

/-- Whether the node is a comment. -/
def isComment (node : Node) : Bool :=
  ["line_comment", "block_comment"].contains node.kind

/-- The grammar has two kinds of comments. -/
theorem kind_of_comment {node : Node} (comment : node.isComment) :
    node.kind = "line_comment" ∨ node.kind = "block_comment" := by
  simpa [isComment] using comment

mutual

/-- The tree without its comments. -/
def uncommented : Node → Node
  | ⟨label, broken, children⟩ => ⟨label, broken, uncommentedAll children⟩

/-- The trees that are no comments, without the comments in them. -/
def uncommentedAll : List Node → List Node
  | [] => []
  | node :: nodes =>
    if node.isComment then uncommentedAll nodes else uncommented node :: uncommentedAll nodes

end

@[simp] theorem label_uncommented (node : Node) : node.uncommented.label = node.label := by
  cases node
  rw [uncommented]

/-- The children that are left are those of the list without its comments. -/
@[simp] theorem children_uncommented (node : Node) :
    node.uncommented.children = uncommentedAll node.children := by
  cases node
  rw [uncommented]

@[simp] theorem kind_uncommented (node : Node) : node.uncommented.kind = node.kind := by
  rw [kind, kind, label_uncommented]

@[simp] theorem start_uncommented (node : Node) : node.uncommented.start = node.start := by
  rw [start, start, label_uncommented]

@[simp] theorem stop_uncommented (node : Node) : node.uncommented.stop = node.stop := by
  rw [stop, stop, label_uncommented]

@[simp] theorem plays_uncommented (node : Node) (role : String) :
    node.uncommented.plays role = node.plays role := by
  rw [plays, plays, label_uncommented]

theorem uncommentedAll_eq (nodes : List Node) :
    uncommentedAll nodes = (nodes.filter (!·.isComment)).map uncommented := by
  induction nodes with
  | nil => rw [uncommentedAll]; rfl
  | cons node nodes ih =>
    rw [uncommentedAll, ih]
    by_cases comment : node.isComment <;> simp [comment]

/-- The comments of two lists are taken out one list after the other. -/
theorem uncommentedAll_append (first second : List Node) :
    uncommentedAll (first ++ second) = uncommentedAll first ++ uncommentedAll second := by
  simp only [uncommentedAll_eq, List.filter_append, List.map_append]

/-- A selection by labels is the same with or without comments. -/
theorem filter_uncommentedAll {holds : Node → Bool}
    (byLabel : ∀ node : Node, holds node.uncommented = holds node) (nodes : List Node) :
    (uncommentedAll nodes).filter holds = uncommentedAll (nodes.filter holds) := by
  simp only [uncommentedAll_eq, List.filter_map, Function.comp_def, byLabel, List.filter_filter,
    Bool.and_comm]

/-- What no comment is, is found in the same place. -/
theorem find?_uncommentedAll {holds : Node → Bool} {nodes : List Node}
    (byLabel : ∀ node : Node, holds node.uncommented = holds node)
    (passes : ∀ node ∈ nodes, node.isComment → holds node = false) :
    (uncommentedAll nodes).find? holds = (nodes.find? holds).map uncommented := by
  induction nodes with
  | nil => simp [uncommentedAll]
  | cons node nodes ih =>
    obtain ⟨first, others⟩ := List.forall_mem_cons.mp passes
    rw [uncommentedAll, List.find?_cons]
    by_cases comment : node.isComment
    · rw [if_pos comment, first comment, ih others]
    · rw [if_neg comment, List.find?_cons, byLabel, ih others]
      cases holds node <;> rfl

/-- The first node of a list stays the first, unless it is a comment. -/
theorem head?_uncommentedAll {nodes : List Node} (kept : ∀ node ∈ nodes.head?, ¬ node.isComment) :
    (uncommentedAll nodes).head? = nodes.head?.map uncommented := by
  cases nodes with
  | nil => rw [uncommentedAll]; rfl
  | cons node nodes => rw [uncommentedAll, if_neg (kept node rfl)]; rfl

/-- The last node of a list stays the last, unless it is a comment. -/
theorem getLast?_uncommentedAll {nodes : List Node} (kept : ∀ node ∈ nodes.getLast?, ¬ node.isComment) :
    (uncommentedAll nodes).getLast? = nodes.getLast?.map uncommented := by
  cases ends : nodes.getLast? with
  | none => rw [List.getLast?_eq_none_iff.mp ends, uncommentedAll]; rfl
  | some last =>
    obtain ⟨front, rfl⟩ := List.getLast?_eq_some_iff.mp ends
    simp [uncommentedAll_append, uncommentedAll, kept last ends]

/-- A part that is told by its label, and never by a comment's, is dropped with the comments in place or
after they are gone. -/
theorem eraseP_uncommentedAll {holds : Node → Bool} {nodes : List Node}
    (byLabel : ∀ node : Node, holds node.uncommented = holds node)
    (passes : ∀ node ∈ nodes, node.isComment → holds node = false) :
    (uncommentedAll nodes).eraseP holds = uncommentedAll (nodes.eraseP holds) := by
  induction nodes with
  | nil => simp [uncommentedAll]
  | cons node nodes ih =>
    obtain ⟨first, others⟩ := List.forall_mem_cons.mp passes
    rw [uncommentedAll, List.eraseP_cons]
    by_cases comment : node.isComment
    · simp [uncommentedAll, comment, first comment, ih others]
    · rw [if_neg comment, List.eraseP_cons, byLabel, ih others]
      cases holds node <;> simp [uncommentedAll, comment]

/-- Where there are no comments, each node keeps its place. -/
theorem uncommentedAll_of_none {nodes : List Node} (none : ∀ node ∈ nodes, ¬ node.isComment) :
    uncommentedAll nodes = nodes.map uncommented := by
  rw [uncommentedAll_eq, List.filter_eq_self.mpr (by simpa using none)]

theorem named_uncommented (node : Node) :
    node.uncommented.named = uncommentedAll node.named := by
  rw [named, named, children_uncommented]
  exact filter_uncommentedAll (fun node => by rw [label_uncommented]) _

/-- Where a node starts with a word, that is the first of its words. -/
theorem head?_named {node : Node} (starts : ∀ child ∈ node.children.head?, child.label.named) :
    node.named.head? = node.children.head? := by
  rw [named]
  cases children : node.children with
  | nil => rfl
  | cons first rest =>
    have isWord := starts first (by simp [children])
    simp [isWord]

/-- Where a node ends with a word, that is the last of its words. -/
theorem getLast?_named {node : Node} (ends : ∀ child ∈ node.children.getLast?, child.label.named) :
    node.named.getLast? = node.children.getLast? := by
  rw [named]
  cases last : node.children.getLast? with
  | none => rw [List.getLast?_eq_none_iff.mp last]; rfl
  | some child =>
    obtain ⟨front, children⟩ := List.getLast?_eq_some_iff.mp last
    simp [children, ends child last]

/-- The children in a role are those that play it among the children that are left. -/
theorem childrenIn_uncommented (node : Node) (role : String) :
    node.uncommented.childrenIn role = uncommentedAll (node.childrenIn role) := by
  rw [childrenIn, childrenIn, children_uncommented]
  exact filter_uncommentedAll (plays_uncommented · role) _

/-! ### Going over nodes -/

variable {α : Type} {nodes : List Node}

/-- A fold that passes over comments. -/
theorem foldl_uncommentedAll {step : α → Node → α}
    (same : ∀ node ∈ nodes, ∀ value, step value node.uncommented = step value node)
    (passes : ∀ node ∈ nodes, node.isComment → ∀ value, step value node = value) (start : α) :
    (uncommentedAll nodes).foldl step start = nodes.foldl step start := by
  induction nodes generalizing start with
  | nil => rw [uncommentedAll]
  | cons node nodes ih =>
    obtain ⟨first, others⟩ := List.forall_mem_cons.mp same
    obtain ⟨passesFirst, passesOthers⟩ := List.forall_mem_cons.mp passes
    rw [uncommentedAll, List.foldl_cons]
    by_cases comment : node.isComment
    · rw [if_pos comment, passesFirst comment, ih others passesOthers]
    · rw [if_neg comment, List.foldl_cons, first, ih others passesOthers]

/-- A selection that passes over comments. -/
theorem filterMap_uncommentedAll {select : Node → Option α} (change : α → α)
    (same : ∀ node ∈ nodes, select node.uncommented = (select node).map change)
    (passes : ∀ node ∈ nodes, node.isComment → select node = none) :
    (uncommentedAll nodes).filterMap select = (nodes.filterMap select).map change := by
  induction nodes with
  | nil => rw [uncommentedAll]; rfl
  | cons node nodes ih =>
    obtain ⟨first, others⟩ := List.forall_mem_cons.mp same
    obtain ⟨passesFirst, passesOthers⟩ := List.forall_mem_cons.mp passes
    rw [uncommentedAll, List.filterMap_cons]
    by_cases comment : node.isComment
    · rw [if_pos comment, passesFirst comment, ih others passesOthers]
    · rw [if_neg comment, List.filterMap_cons, first, ih others passesOthers]
      cases select node <;> rfl

/-- The parts of nodes, of which comments have none or are one. -/
theorem flatMap_uncommentedAll {parts : Node → List Node}
    (same : ∀ node ∈ nodes, ¬ node.isComment → parts node.uncommented = uncommentedAll (parts node))
    (passes : ∀ node ∈ nodes, node.isComment → uncommentedAll (parts node) = []) :
    (uncommentedAll nodes).flatMap parts = uncommentedAll (nodes.flatMap parts) := by
  induction nodes with
  | nil => rw [uncommentedAll]; rfl
  | cons node nodes ih =>
    obtain ⟨first, others⟩ := List.forall_mem_cons.mp same
    obtain ⟨passesFirst, passesOthers⟩ := List.forall_mem_cons.mp passes
    rw [uncommentedAll, List.flatMap_cons, uncommentedAll_append]
    by_cases comment : node.isComment
    · rw [if_pos comment, passesFirst comment, List.nil_append, ih others passesOthers]
    · rw [if_neg comment, List.flatMap_cons, first comment, ih others passesOthers]

/-! ### Looking for kinds -/

/-- A question about kinds that comments do not answer. -/
def PassesComments (holds : String → Bool) : Prop :=
  holds "line_comment" = false ∧ holds "block_comment" = false

instance (holds : String → Bool) : Decidable (PassesComments holds) :=
  inferInstanceAs (Decidable (_ ∧ _))

/-- A choice of kinds that passes comments over chooses no comment. -/
theorem eq_false_of_comment {holds : String → Bool} (passes : PassesComments holds) {node : Node}
    (comment : node.isComment) : holds node.kind = false := by
  rcases kind_of_comment comment with line | block
  · rw [line, passes.1]
  · rw [block, passes.2]

/-- What it does choose is no comment. -/
theorem not_comment_of_kind {holds : String → Bool} (passes : PassesComments holds) {node : Node}
    (kind : holds node.kind) : ¬ node.isComment := fun comment => by
  rw [eq_false_of_comment passes comment] at kind
  cases kind

/-- The first named child of such a kind is the same one. -/
theorem find?_named_uncommented (holds : String → Bool) (passes : PassesComments holds) (node : Node) :
    node.uncommented.named.find? (holds ·.kind) =
      (node.named.find? (holds ·.kind)).map uncommented := by
  rw [named_uncommented]
  refine find?_uncommentedAll (fun node => ?_) fun node _ comment => eq_false_of_comment passes comment
  rw [kind_uncommented]

/-- The nodes of such kinds are the same, whatever comments stand between them. -/
theorem filter_kind_uncommentedAll (holds : String → Bool) (passes : PassesComments holds)
    (nodes : List Node) :
    (uncommentedAll nodes).filter (holds ·.kind) = (nodes.filter (holds ·.kind)).map uncommented := by
  rw [filter_uncommentedAll fun node => by rw [kind_uncommented]]
  exact uncommentedAll_of_none fun node member =>
    not_comment_of_kind passes (List.mem_filter.mp member).2

theorem filter_named_uncommented (holds : String → Bool) (passes : PassesComments holds) (node : Node) :
    node.uncommented.named.filter (holds ·.kind) =
      (node.named.filter (holds ·.kind)).map uncommented := by
  rw [named_uncommented, filter_kind_uncommentedAll holds passes]

/-- Whether there is a node of such a kind does not depend on comments. -/
theorem any_uncommentedAll (holds : String → Bool) (passes : PassesComments holds) (nodes : List Node) :
    (uncommentedAll nodes).any (holds ·.kind) = nodes.any (holds ·.kind) := by
  rw [← List.isSome_find?, ← List.isSome_find?, find?_uncommentedAll, Option.isSome_map]
  · intro node
    rw [kind_uncommented]
  · intro node _ comment
    exact eq_false_of_comment passes comment

end Node

/-! ## Where comments stand -/

/-- A node whose comments stand where the grammar has them. -/
@[mk_iff]
structure Commented (node : Node) : Prop where
  leaf : node.isComment → node.children = []
  roleless : ∀ child ∈ node.children, child.isComment → child.label.role = none
  topmost : ∀ child ∈ node.children, child.kind ≠ "program"
  /-- Comments stand between other children. -/
  first : node.kind ≠ "program" → ∀ child ∈ node.children.head?, ¬ child.isComment
  last : node.kind ≠ "program" → ∀ child ∈ node.children.getLast?, ¬ child.isComment
  /-- Where the position of a child tells what it is. -/
  heads : node.kind ∈ ["method_reference", "catch_type"] →
    ∀ child ∈ node.children.head?, child.label.named
  ends : node.kind ∈ ["catch_type", "type_pattern", "record_pattern_component"] →
    ∀ child ∈ node.children.getLast?, child.label.named
  referred : node.kind = "method_reference" →
    ∀ child ∈ node.children.getLast?, child.label.named ∨ child.kind = "new"

instance (node : Node) : Decidable (Commented node) :=
  decidable_of_iff' _ (commented_iff node)

/-- A tree in which every comment stands where the grammar has it. -/
def Tidy (root : Node) : Prop :=
  root.all fun node => decide (Commented node)

instance (root : Node) : Decidable (Tidy root) :=
  inferInstanceAs (Decidable (_ = true))

/-- A tree below a program, with its comments in place. -/
structure Inner (node : Node) : Prop where
  tidy : Tidy node
  below : node.kind ≠ "program"

namespace Tidy

variable {node child : Node} {role : String}

/-- The comments among a node's own children stand where the grammar has them. -/
theorem here (tidy : Tidy node) : Commented node :=
  of_decide_eq_true (Node.all_iff.mp tidy).1

/-- The children of a tidy node are tidy. -/
theorem below (tidy : Tidy node) (member : child ∈ node.children) : Tidy child :=
  (Node.all_iff.mp tidy).2 child member

/-- The named children of a tidy node are tidy. -/
theorem belowNamed (tidy : Tidy node) (member : child ∈ node.named) : Tidy child :=
  tidy.below (Node.mem_of_named member)

/-- A child that is found by its role is tidy in turn. -/
theorem belowRole (tidy : Tidy node) (found : node.child? role = some child) : Tidy child :=
  tidy.below (Node.mem_of_child? found)

/-- A child in a tidy tree is tidy itself and no program, so comments stand only between its parts. -/
theorem inner (tidy : Tidy node) (member : child ∈ node.children) : Inner child :=
  ⟨tidy.below member, tidy.here.topmost child member⟩

/-- A child that is found by its role is such a part in turn. -/
theorem innerRole (tidy : Tidy node) (role : String) : ∀ child ∈ node.child? role, Inner child :=
  fun _ found => tidy.inner (Node.mem_of_child? found)

/-- What plays a role is no comment. -/
theorem not_comment (tidy : Tidy node) (member : child ∈ node.children) (plays : child.plays role) :
    ¬ child.isComment := by
  intro comment
  have none := tidy.here.roleless child member comment
  simp [Node.plays, none] at plays

/-- A comment plays no role in a tidy tree. -/
theorem plays_of_comment (tidy : Tidy node) (member : child ∈ node.children) (comment : child.isComment) :
    child.plays role = false :=
  Bool.eq_false_iff.mpr fun plays => tidy.not_comment member plays comment

/-- Children are found by their roles. -/
theorem child?_uncommented (tidy : Tidy node) (role : String) :
    node.uncommented.child? role = (node.child? role).map Node.uncommented := by
  rw [Node.child?, Node.child?, Node.children_uncommented]
  exact Node.find?_uncommentedAll (Node.plays_uncommented · role) fun _ => tidy.plays_of_comment

/-- A comment holds nothing. -/
theorem named_of_comment (tidy : Tidy node) (comment : node.isComment) : node.named = [] := by
  rw [Node.named, tidy.here.leaf comment, List.filter_nil]

/-- A comment has no children in any role. -/
theorem child?_of_comment (tidy : Tidy node) (comment : node.isComment) (role : String) :
    node.child? role = none := by
  rw [Node.child?, tidy.here.leaf comment, List.find?_nil]

/-- Below a program, a node ends with the same kind of child. -/
theorem ending_uncommented (tidy : Tidy node) (below : node.kind ≠ "program") :
    node.uncommented.children.getLast?.map (·.kind) = node.children.getLast?.map (·.kind) := by
  rw [Node.children_uncommented, Node.getLast?_uncommentedAll (tidy.here.last below), Option.map_map]
  exact congrArg (Option.map · node.children.getLast?) (funext Node.kind_uncommented)

/-- The left side of a method reference is no comment. -/
theorem qualifier_not_comment (tidy : Tidy node) (isReference : node.kind = "method_reference") :
    ∀ qualifier ∈ node.named.head?, ¬ qualifier.isComment := by
  rw [Node.head?_named (tidy.here.heads (by simp [isReference]))]
  exact tidy.here.first (by simp [isReference])

/-- The last word of a method reference is its name. One to a constructor has none. -/
theorem referred_uncommented (tidy : Tidy node) (isReference : node.kind = "method_reference")
    (names : node.children.getLast?.map (·.kind) ≠ some "new") {others : List Node}
    (parts : node.named = child :: others) :
    (Node.uncommentedAll others).getLast? = others.getLast?.map Node.uncommented := by
  have ends : ∀ child ∈ node.children.getLast?, child.label.named := by
    intro child last
    refine (tidy.here.referred isReference child last).resolve_right fun isNew => names ?_
    rw [Option.mem_def.mp last, Option.map_some, isNew]
  refine Node.getLast?_uncommentedAll fun name found => ?_
  refine tidy.here.last (by simp [isReference]) name ?_
  rw [← Node.getLast?_named ends, parts, List.getLast?_cons, Option.mem_def.mp found, Option.getD_some]
  exact Option.mem_def.mpr rfl

end Tidy

namespace Inner

variable {node : Node}

/-- A node that is no leaf stays one without its comments. -/
theorem isEmpty_uncommented (inner : Inner node) :
    node.uncommented.children.isEmpty = node.children.isEmpty := by
  rw [Node.children_uncommented]
  cases children : node.children with
  | nil => rfl
  | cons first others =>
    have kept := inner.tidy.here.first inner.below first (by simp [children])
    rw [Node.uncommentedAll, if_neg kept]
    rfl

end Inner

/-! ## The text of types -/

/-- What is left out of the text of a type includes the comments. -/
theorem isTrivia_of_comment {node : Node} (comment : node.isComment) : isTrivia node.kind := by
  have passes : Node.PassesComments (! isTrivia ·) := by decide
  simpa using Node.eq_false_of_comment passes comment

/-- The words of a type are the same without comments, in the order they are put in front of others. -/
theorem tokensOnto_uncommented (found nodes : List Node)
    (inner : ∀ node ∈ nodes, Inner node) :
    tokensOnto (found.map Node.uncommented) (Node.uncommentedAll nodes) =
      (tokensOnto found nodes).map Node.uncommented := by
  fun_induction tokensOnto found nodes with
  | case1 found => rw [Node.uncommentedAll, tokensOnto]
  | case2 found node rest trivia ih =>
    obtain ⟨_, others⟩ := List.forall_mem_cons.mp inner
    rw [Node.uncommentedAll]
    split
    · exact ih others
    · rw [tokensOnto, Node.kind_uncommented, if_pos trivia, ih others]
  | case3 found node rest kept leaf ih =>
    obtain ⟨first, others⟩ := List.forall_mem_cons.mp inner
    rw [Node.uncommentedAll, if_neg (mt isTrivia_of_comment kept), tokensOnto, Node.kind_uncommented,
      if_neg kept, first.isEmpty_uncommented, if_pos leaf]
    exact ih others
  | case4 found node rest kept inside ih =>
    obtain ⟨first, others⟩ := List.forall_mem_cons.mp inner
    have below : ∀ child ∈ node.children ++ rest, Inner child := by
      intro child member
      rcases List.mem_append.mp member with inside | later
      · exact first.tidy.inner inside
      · exact others child later
    rw [Node.uncommentedAll, if_neg (mt isTrivia_of_comment kept), tokensOnto, Node.kind_uncommented,
      if_neg kept, first.isEmpty_uncommented, if_neg inside, Node.children_uncommented,
      ← Node.uncommentedAll_append, ih below]

/-- **Comments are no part of a type's text.** -/
theorem typeText_uncommented {node : Node} (source : Source) (inner : Inner node) :
    typeText source node.uncommented = typeText source node := by
  have same : tokens node.uncommented = (tokens node).map Node.uncommented := by
    rw [tokens, tokens, List.map_reverse]
    by_cases comment : node.isComment
    · have trivia := isTrivia_of_comment comment
      simp [tokensOnto, trivia]
    · have alone := tokensOnto_uncommented [] [node] (by simpa using inner)
      rw [Node.uncommentedAll, if_neg comment, Node.uncommentedAll, List.map_nil] at alone
      rw [alone]
  simp only [typeText, same, List.map_map, Function.comp_def, Node.start_uncommented,
    Node.stop_uncommented]

/-- Brackets are counted alike. -/
@[simp] theorem dimensionsOf_uncommented (source : Source) (node : Option Node) :
    dimensionsOf source (node.map Node.uncommented) = dimensionsOf source node := by
  cases node with
  | none => rfl
  | some node => simp only [Option.map_some, dimensionsOf, Node.start_uncommented, Node.stop_uncommented]

end SymbolIndex.Tree
