import Mathlib.Data.List.Basic
import Mathlib.Data.List.Pairwise
import SymbolIndex.Proofs.Nodes
import SymbolIndex.Proofs.Trace
import SymbolIndex.SourceIndex

/-!
# Occurrences come in document order

In a tree that is *laid out* (`Laid`) children lie inside their parent one behind another, names are
not empty, and roles stand in the order of the grammar. A walk over such a tree comes to its names
from left to right, although it visits some parts with other functions than their neighbours, types
some expressions a second time, and puts off class bodies behind constructor arguments. The one name
that it does not wait for is that of a method, which is filed in front of the parameters wherever it
stands; but a method is no parameter, so no list of occurrences shows it.

`outline_spread` says this of the outline, by induction on the levels that are left. The outline
decides what is filed, so `walk_documentOrder` follows: under every kind and name the occurrences
ascend, and no two occurrences of a table stand at the same place.
-/

namespace SymbolIndex.Walk

open SymbolIndex.Tree (Node)

/-! ## Trees that are laid out -/

/-- Which roles stand in front of which. -/
def roleOrder : List (String × String) :=
  [("object", "name"), ("object", "field"), ("object", "arguments"), ("name", "arguments"),
   ("name", "value"), ("name", "body"), ("value", "body"), ("arguments", "body"),
   ("parameters", "body"), ("left", "name"), ("array", "index")]

/-- A node whose children lie inside it one behind another, in the order of their roles, a class body
behind all others. -/
def ChildrenAscend (node : Node) : Prop :=
  node.start ≤ node.stop ∧
    (∀ child ∈ node.children, node.start ≤ child.start ∧ child.stop ≤ node.stop) ∧
    (node.children.Pairwise fun child next =>
      child.stop ≤ next.start ∧ child.kind ≠ "class_body") ∧
    ∀ roles ∈ roleOrder, ∀ child ∈ node.child? roles.1, ∀ next ∈ node.child? roles.2,
      child.stop ≤ next.start

/-- The nodes that are filed as names cover some text. -/
def NamesShow (node : Node) : Prop :=
  (node.plays "name" ∨ node.plays "field" ∨ node.kind = "identifier" → node.start < node.stop) ∧
    (node.kind = "inferred_parameters" ∨ node.kind = "method_reference" →
      ∀ name ∈ node.named, name.start < name.stop)

instance (node : Node) : Decidable (ChildrenAscend node) :=
  inferInstanceAs (Decidable (_ ∧ _ ∧ _ ∧ _))

instance (node : Node) : Decidable (NamesShow node) :=
  inferInstanceAs (Decidable (_ ∧ _))

/-- A tree whose nodes stand in document order, with names that are not empty. -/
def Laid (root : Node) : Prop :=
  root.all fun node => decide (ChildrenAscend node ∧ NamesShow node)

instance (root : Node) : Decidable (Laid root) :=
  inferInstanceAs (Decidable (_ = true))

namespace Laid

variable {node child : Node}

/-- The children of a laid node follow one another, and its names show. -/
theorem here (laid : Laid node) : ChildrenAscend node ∧ NamesShow node :=
  of_decide_eq_true (Node.all_iff.mp laid).1

/-- The children of a laid node are laid. -/
theorem below (laid : Laid node) (member : child ∈ node.children) : Laid child :=
  (Node.all_iff.mp laid).2 child member

/-- A laid node does not end before it starts. -/
theorem start_le_stop (laid : Laid node) : node.start ≤ node.stop := laid.here.1.1

/-- The children of a laid node lie inside it. -/
theorem inside (laid : Laid node) (member : child ∈ node.children) :
    node.start ≤ child.start ∧ child.stop ≤ node.stop :=
  laid.here.1.2.1 child member

/-- The children of a laid node follow one another. -/
theorem ascend (laid : Laid node) : node.children.Pairwise fun child next =>
    child.stop ≤ next.start :=
  laid.here.1.2.2.1.imp And.left

/-- Two roles in the order of the grammar. -/
theorem roles (laid : Laid node) {first second : String} (listed : (first, second) ∈ roleOrder)
    {next : Node} (isFirst : node.child? first = some child)
    (isSecond : node.child? second = some next) : child.stop ≤ next.start :=
  laid.here.1.2.2.2 _ listed child isFirst next isSecond

/-- Of two children one stands behind the other, and the first is no class body. -/
theorem either (laid : Laid node) {other : Node} (member : child ∈ node.children)
    (member' : other ∈ node.children) (differ : child ≠ other) :
    (child.stop ≤ other.start ∧ child.kind ≠ "class_body") ∨
      (other.stop ≤ child.start ∧ other.kind ≠ "class_body") := by
  have paired : node.children.Pairwise fun child next =>
      (child.stop ≤ next.start ∧ child.kind ≠ "class_body") ∨
        (next.stop ≤ child.start ∧ next.kind ≠ "class_body") := laid.here.1.2.2.1.imp Or.inl
  have symmetric : Std.Symm fun child next : Node =>
      (child.stop ≤ next.start ∧ child.kind ≠ "class_body") ∨
        (next.stop ≤ child.start ∧ next.kind ≠ "class_body") := ⟨fun _ _ => Or.symm⟩
  exact paired.forall member member' differ

/-- A class body stands behind the other children. -/
theorem bodyLast (laid : Laid node) {body : Node} (member : child ∈ node.children)
    (isOther : child.kind ≠ "class_body") (member' : body ∈ node.children)
    (isBody : body.kind = "class_body") : child.stop ≤ body.start := by
  have differ : child ≠ body := fun same => isOther (same ▸ isBody)
  rcases laid.either member member' differ with before | behind
  · exact before.1
  · exact absurd isBody behind.2

/-- A name that plays the role of one is not empty. -/
theorem shows (laid : Laid node) (found : node.child? "name" = some child) :
    child.start < child.stop :=
  (laid.below (Node.mem_of_child? found)).here.2.1 (.inl (Node.plays_of_child? found))

end Laid

/-! ## Marks from left to right -/

/-- Whether the name at a mark lies between two places and is not empty. -/
def Mark.Within (start stop : Nat) : Mark → Prop
  | .name _ token => start ≤ token.start ∧ token.start < token.stop ∧ token.stop ≤ stop
  | .limit => True

/-- Whether a mark may come before another. Names of different kinds may stand the other way
round, but not overlap. -/
def Mark.Before : Mark → Mark → Prop
  | .name kind token, .name kind' token' =>
    token.stop ≤ token'.start ∨ kind ≠ kind' ∧ token'.stop ≤ token.start
  | _, _ => True

/-- Marks between two places, in document order. -/
structure Spread (start stop : Nat) (marks : List Mark) : Prop where
  within : ∀ mark ∈ marks, mark.Within start stop
  ascend : marks.Pairwise Mark.Before

/-- A mark within a range is within a wider one. -/
theorem Mark.Within.mono {start stop start' stop' : Nat} {mark : Mark}
    (within : mark.Within start stop) (lower : start' ≤ start) (upper : stop ≤ stop') :
    mark.Within start' stop' := by
  cases mark with
  | limit => trivial
  | name kind token =>
    obtain ⟨first, shows, last⟩ := within
    exact ⟨by omega, shows, by omega⟩

/-- A mark within a range stands in front of one within a later range. -/
theorem Mark.Within.before {start stop start' stop' : Nat} {mark next : Mark}
    (within : mark.Within start stop) (within' : next.Within start' stop')
    (apart : stop ≤ start') : mark.Before next := by
  cases mark with
  | limit => trivial
  | name kind token =>
    cases next with
    | limit => trivial
    | name kind' token' =>
      obtain ⟨_, _, last⟩ := within
      obtain ⟨first, _, _⟩ := within'
      exact .inl (by omega)

namespace Spread

variable {start middle stop : Nat} {marks others : List Mark}

/-- No marks are spread over any range. -/
theorem nil : Spread start stop [] :=
  ⟨fun _ member => (List.not_mem_nil member).elim, .nil⟩

/-- Giving up leaves a mark without a place, which is spread over any range. -/
theorem limit : Spread start stop [.limit] :=
  ⟨fun mark member => by rw [List.mem_singleton.mp member]; trivial, .cons (by simp) .nil⟩

/-- A single name is spread over a range around it. -/
theorem name (kind : OccurrenceKind) {token : Node} (lower : start ≤ token.start)
    (shows : token.start < token.stop) (upper : token.stop ≤ stop) :
    Spread start stop [.name kind token] :=
  ⟨fun mark member => by rw [List.mem_singleton.mp member]; exact ⟨lower, shows, upper⟩,
    .cons (by simp) .nil⟩

/-- Marks that are spread over a range are spread over a wider one. -/
theorem mono (spread : Spread start stop marks) {start' stop' : Nat} (lower : start' ≤ start)
    (upper : stop ≤ stop') : Spread start' stop' marks :=
  ⟨fun mark member => (spread.within mark member).mono lower upper, spread.ascend⟩

/-- **Marks of ranges that follow one another** are spread over both. -/
theorem append (spread : Spread start middle marks) (rest : Spread middle stop others)
    (lower : start ≤ middle) (upper : middle ≤ stop) : Spread start stop (marks ++ others) := by
  refine ⟨fun mark member => ?_, List.pairwise_append.mpr ⟨spread.ascend, rest.ascend, ?_⟩⟩
  · rcases List.mem_append.mp member with first | second
    · exact (spread.within mark first).mono (Nat.le_refl _) upper
    · exact (rest.within mark second).mono lower (Nat.le_refl _)
  · intro mark first next second
    exact (spread.within mark first).before (rest.within next second) (Nat.le_refl _)

/-- Parts of a tree one behind another. -/
theorem flatMap {nodes : List Node} {outline : Node → List Mark}
    (ascend : nodes.Pairwise fun node next => node.stop ≤ next.start)
    (inside : ∀ node ∈ nodes, start ≤ node.start ∧ node.stop ≤ stop)
    (each : ∀ node ∈ nodes, Spread node.start node.stop (outline node)) :
    Spread start stop (nodes.flatMap outline) := by
  constructor
  · intro mark member
    obtain ⟨node, isNode, member⟩ := List.mem_flatMap.mp member
    exact ((each node isNode).within mark member).mono (inside node isNode).1 (inside node isNode).2
  · refine List.pairwise_flatMap.mpr ⟨fun node isNode => (each node isNode).ascend, ?_⟩
    refine ascend.imp_of_mem fun {node next} isNode isNext before mark first other second => ?_
    exact ((each node isNode).within mark first).before ((each next isNext).within other second)
      before

end Spread

/-! ## The outline of a tree that is laid out -/

/-- An outline that keeps to the node it is taken of, in document order. -/
structure Orderly (below : Outline) : Prop where
  visit : ∀ node, Laid node → Spread node.start node.stop (below.visit node)
  denote : ∀ node, Laid node → Spread node.start node.stop (below.denote node)

section Level

variable {below : Outline} {node : Node}

/-- Nodes in their order leave marks in order. -/
theorem Orderly.visitAll (orderly : Orderly below) (laid : Laid node) {nodes : List Node}
    (part : nodes.Sublist node.children) :
    Spread node.start node.stop (nodes.flatMap below.visit) := by
  refine Spread.flatMap (laid.ascend.sublist part) (fun child member => ?_) fun child member => ?_
  · exact laid.inside (part.subset member)
  · exact orderly.visit child (laid.below (part.subset member))

/-- The named children of a node leave marks in order. -/
theorem Orderly.visitChildren (orderly : Orderly below) (laid : Laid node) :
    Spread node.start node.stop (node.named.flatMap below.visit) :=
  orderly.visitAll laid List.filter_sublist

/-- What lies in a child, between two places around it. -/
theorem Orderly.visit? (orderly : Orderly below) (laid : Laid node) {role : String}
    {start stop : Nat} (around : ∀ child ∈ node.child? role, start ≤ child.start ∧ child.stop ≤ stop) :
    Spread start stop (below.visit? (node.child? role)) := by
  cases found : node.child? role with
  | none => exact .nil
  | some child =>
    obtain ⟨lower, upper⟩ := around child found
    exact (orderly.visit child (laid.below (Node.mem_of_child? found))).mono lower upper

theorem Orderly.visitChildren? (orderly : Orderly below) (laid : Laid node) {role : String}
    {start stop : Nat} (around : ∀ child ∈ node.child? role, start ≤ child.start ∧ child.stop ≤ stop) :
    Spread start stop (below.visitChildren? (node.child? role)) := by
  cases found : node.child? role with
  | none => exact .nil
  | some child =>
    obtain ⟨lower, upper⟩ := around child found
    exact (orderly.visitChildren (laid.below (Node.mem_of_child? found))).mono lower upper

/-- The place from a child to the end of the node around it. -/
theorem Laid.behind (laid : Laid node) {first : String} (second : String)
    (listed : (first, second) ∈ roleOrder) {child : Node}
    (found : node.child? first = some child) :
    ∀ next ∈ node.child? second, child.stop ≤ next.start ∧ next.stop ≤ node.stop :=
  fun _ isNext => ⟨laid.roles listed found isNext, (laid.inside (Node.mem_of_child? isNext)).2⟩

/-- The name of a variable stands in front of its value. -/
theorem valuedMarks_spread (orderly : Orderly below) (laid : Laid node) (kind : OccurrenceKind) :
    Spread node.start node.stop (valuedMarks below kind node) := by
  unfold valuedMarks
  cases found : node.child? "name" with
  | none => exact .nil
  | some name =>
    have inside := laid.inside (Node.mem_of_child? found)
    have shows := laid.shows found
    have value := orderly.visit? laid (laid.behind "value" (by decide) found)
    exact (Spread.name kind inside.1 shows (Nat.le_refl _)).append value (by omega) inside.2

/-- The name of a resource stands in front of its value. -/
theorem resourceMarks_spread (orderly : Orderly below) (laid : Laid node) :
    Spread node.start node.stop (resourceMarks below node) := by
  unfold resourceMarks
  split
  · exact valuedMarks_spread orderly laid .localVariable
  · exact orderly.visitChildren laid

/-- The parts of a creation stand in front of its body. -/
theorem creationMarks_spread (orderly : Orderly below) (laid : Laid node) :
    Spread node.start node.stop (creationMarks below node) := by
  have part : (creationParts node).Sublist node.children :=
    List.filter_sublist.trans List.eraseP_sublist
  unfold creationMarks
  cases found : creationBody? node with
  | none =>
    rw [Outline.visitChildren?, Option.map_none, Option.getD_none, List.append_nil]
    exact orderly.visitAll laid part
  | some body =>
    have isBody := List.mem_filter.mp (List.mem_of_getLast? found)
    have member : body ∈ node.children := Node.mem_of_named isBody.1
    have inside := laid.inside member
    have ordered := (laid.below member).start_le_stop
    -- the parts end where the body begins: it is the last child, and no part is a body itself
    have parts : Spread node.start body.start ((creationParts node).flatMap below.visit) := by
      refine Spread.flatMap (laid.ascend.sublist part) (fun child isPart => ?_) fun child isPart => ?_
      · have isChild := part.subset isPart
        have kinds := (List.mem_filter.mp isPart).2
        simp only [Bool.and_eq_true, bne_iff_ne] at kinds
        exact ⟨(laid.inside isChild).1,
          laid.bodyLast isChild kinds.1.2 member (eq_of_beq isBody.2)⟩
      · exact orderly.visit child (laid.below (part.subset isPart))
    have walked := (orderly.visitChildren (laid.below member)).mono (Nat.le_refl _) inside.2
    exact parts.append walked inside.1 (by omega)

/-- The object of a field access stands in front of its field. -/
theorem fieldMarks_spread (orderly : Orderly below) (laid : Laid node) :
    Spread node.start node.stop (fieldMarks below node) := by
  unfold fieldMarks
  cases isObject : node.child? "object" with
  | none => exact .nil
  | some object =>
    cases isField : node.child? "field" with
    | none => exact .nil
    | some field =>
      simp only
      split
      · exact .nil
      · have member := Node.mem_of_child? isObject
        have member' := Node.mem_of_child? isField
        have shows := (laid.below member').here.2.1 (.inr (.inl (Node.plays_of_child? isField)))
        have behind := laid.roles (by decide) isObject isField
        have inside := laid.inside member
        have inside' := laid.inside member'
        have ordered := (laid.below member).start_le_stop
        have front := (orderly.denote object (laid.below member)).mono inside.1 behind
        exact front.append (Spread.name .reference (Nat.le_refl _) shows inside'.2) (by omega) (by omega)

/-- The object of a call stands in front of its method, and that in front of the arguments. -/
theorem callMarks_spread (orderly : Orderly below) (laid : Laid node) :
    Spread node.start node.stop (callMarks below node) := by
  unfold callMarks
  cases isName : node.child? "name" with
  | none => exact .nil
  | some name =>
    have inside := laid.inside (Node.mem_of_child? isName)
    have shows := laid.shows isName
    have front : Spread node.start name.start (below.denote? (node.child? "object")) := by
      cases isObject : node.child? "object" with
      | none => exact .nil
      | some object =>
        have member := Node.mem_of_child? isObject
        exact (orderly.denote object (laid.below member)).mono (laid.inside member).1
          (laid.roles (by decide) isObject isName)
    have called := front.append (Spread.name .reference (Nat.le_refl _) shows
      (Nat.le_refl _)) inside.1 (Nat.le_of_lt shows)
    exact called.append (orderly.visit? laid (laid.behind "arguments" (by decide) isName))
      (by omega) inside.2

/-- The left side of a method reference keeps to its own range. -/
theorem qualifierMarks_spread (orderly : Orderly below) (laid : Laid node) :
    Spread node.start node.stop (qualifierMarks below node) := by
  unfold qualifierMarks
  split
  · exact .nil
  · exact orderly.denote node laid

/-- The left side of a method reference stands in front of the name of the method. -/
theorem referenceMarks_spread (orderly : Orderly below) (laid : Laid node)
    (isReference : node.kind = "method_reference") :
    Spread node.start node.stop (referenceMarks below node) := by
  have ascend : node.named.Pairwise fun child next => child.stop ≤ next.start :=
    laid.ascend.sublist List.filter_sublist
  have shows := laid.here.2.2 (.inr isReference)
  have inside (child : Node) (member : child ∈ node.named) := laid.inside (Node.mem_of_named member)
  unfold referenceMarks
  cases parts : node.named with
  | nil => exact .nil
  | cons qualifier others =>
    rw [parts] at ascend shows inside
    have laid' : Laid qualifier :=
      laid.below (Node.mem_of_named (parts ▸ List.mem_cons_self))
    have around := inside qualifier List.mem_cons_self
    have ordered := laid'.start_le_stop
    have front := (qualifierMarks_spread orderly laid').mono around.1 (Nat.le_refl _)
    simp only
    cases last : others.getLast? with
    | none => exact front.append .nil (by omega) around.2
    | some name =>
      have member := List.mem_of_getLast? last
      have later := (List.pairwise_cons.mp ascend).1 name member
      refine front.append ?_ (by omega) around.2
      exact Spread.name .reference later (shows name (List.mem_cons_of_mem _ member))
        (inside name (List.mem_cons_of_mem _ member)).2

/-- An array stands in front of the index. -/
theorem elementMarks_spread (orderly : Orderly below) (laid : Laid node) :
    Spread node.start node.stop (elementMarks below node) := by
  unfold elementMarks
  cases isArray : node.child? "array" with
  | none => exact .nil
  | some array =>
    have member := Node.mem_of_child? isArray
    have inside := laid.inside member
    have ordered := (laid.below member).start_le_stop
    have front := (orderly.denote array (laid.below member)).mono inside.1 (Nat.le_refl _)
    exact front.append (orderly.visit? laid (laid.behind "index" (by decide) isArray)) (by omega)
      inside.2

/-- **What a node denotes** leaves its marks in order, whatever construct it is. -/
theorem denotedNode_spread (orderly : Orderly below) (laid : Laid node) :
    Spread node.start node.stop (denotedNode below node) := by
  unfold denotedNode
  cases form : ExprForm.ofKind node.kind with
  | name =>
    have shows := laid.here.2.1 (.inr (.inr (ExprForm.kind_eq form (by decide) (by decide))))
    exact Spread.name .reference (Nat.le_refl _) shows (Nat.le_refl _)
  | this => exact .nil
  | super => exact .nil
  | field => exact fieldMarks_spread orderly laid
  | call => exact callMarks_spread orderly laid
  | reference => exact referenceMarks_spread orderly laid (ExprForm.kind_eq form (by decide) (by decide))
  | parenthesized =>
    simp only
    cases first : node.named.head? with
    | none => exact .nil
    | some inner =>
      have member := Node.mem_of_named (List.mem_of_head? first)
      exact (orderly.denote inner (laid.below member)).mono (laid.inside member).1
        (laid.inside member).2
  | element => exact elementMarks_spread orderly laid
  | cast => exact orderly.visit? laid fun child found => laid.inside (Node.mem_of_child? found)
  | creation => exact creationMarks_spread orderly laid
  | arrayCreation => exact orderly.visitChildren laid
  | text => exact .nil
  | classLiteral => exact .nil
  | other => exact orderly.visit node laid

/-! ### Names of parameters -/

/-- The name in a parameter is inside of it and shows. -/
theorem parameterName?_within (laid : Laid node) {name : Node}
    (found : parameterName? node = some name) (kind : OccurrenceKind) :
    (Mark.name kind name).Within node.start node.stop := by
  unfold parameterName? at found
  split at found
  · obtain ⟨type, _, isName⟩ := Option.bind_eq_some_iff.mp found
    have inside := laid.inside (Node.mem_of_child? isName)
    exact ⟨inside.1, laid.shows isName, inside.2⟩
  · split at found
    · obtain ⟨type, _, rest⟩ := Option.bind_eq_some_iff.mp found
      obtain ⟨declarator, isDeclarator, isName⟩ := Option.bind_eq_some_iff.mp rest
      have member := Node.mem_of_named (List.mem_of_find?_eq_some isDeclarator)
      have inside := (laid.below member).inside (Node.mem_of_child? isName)
      have around := laid.inside member
      exact ⟨by omega, (laid.below member).shows isName, by omega⟩
    · cases found

/-- Names found one in a child, at most. -/
theorem filterMap_spread (laid : Laid node) (kind : OccurrenceKind) {find : Node → Option Node}
    (within : ∀ child, Laid child → ∀ name ∈ find child,
      (Mark.name kind name).Within child.start child.stop) :
    Spread node.start node.stop (names kind (node.named.filterMap find)) := by
  have each : names kind (node.named.filterMap find) =
      node.named.flatMap fun child => names kind (find child).toList := by
    rw [names, List.filterMap_eq_flatMap_toList, List.map_flatMap]
    rfl
  rw [each]
  refine Spread.flatMap (laid.ascend.sublist List.filter_sublist)
    (fun child member => laid.inside (Node.mem_of_named member)) fun child member => ?_
  cases found : find child with
  | none => exact .nil
  | some name =>
    obtain ⟨lower, shows, upper⟩ := within child (laid.below (Node.mem_of_named member)) name found
    exact Spread.name kind lower shows upper

/-- The names of parameters follow one another. -/
theorem parameterNames_spread (laid : Laid node) (kind : OccurrenceKind) :
    Spread node.start node.stop (names kind (parameterNames (some node))) :=
  filterMap_spread laid kind fun _ laid _ found => parameterName?_within laid found kind

/-- The names that a lambda binds follow one another. -/
theorem boundNames_spread (laid : Laid node) :
    Spread node.start node.stop (names .localVariable (boundNames node)) := by
  unfold boundNames
  split
  · rename_i isName
    exact Spread.name .localVariable (Nat.le_refl _) (laid.here.2.1 (.inr (.inr (eq_of_beq isName))))
      (Nat.le_refl _)
  · split
    · rename_i inferred
      have shows := laid.here.2.2 (.inl (eq_of_beq inferred))
      unfold names
      rw [List.map_eq_flatMap]
      refine Spread.flatMap (laid.ascend.sublist List.filter_sublist)
        (fun child member => laid.inside (Node.mem_of_named member)) fun child member => ?_
      exact Spread.name .localVariable (Nat.le_refl _) (shows child member) (Nat.le_refl _)
    · exact parameterNames_spread laid .localVariable

theorem patternNames_spread (laid : Laid node) :
    Spread node.start node.stop (names .localVariable (patternNames node)) := by
  unfold patternNames
  split
  · exact .nil
  · rename_i name last
    split
    · rename_i isName
      have member := Node.mem_of_named (List.mem_of_getLast? last)
      have inside := laid.inside member
      exact Spread.name .localVariable inside.1
        ((laid.below member).here.2.1 (.inr (.inr (eq_of_beq isName)))) inside.2
    · exact .nil

/-! ### Constructs -/

/-- A class leaves the marks of its components and then those of its body. -/
theorem typeMarks_spread (orderly : Orderly below) (laid : Laid node) :
    Spread node.start node.stop (typeMarks below node) := by
  unfold typeMarks componentNames
  cases node.child? "name" with
  | none => exact .nil
  | some name =>
    simp only
    split
    · cases found : node.child? "parameters" with
      | none =>
        exact orderly.visitChildren? laid fun child isBody => laid.inside (Node.mem_of_child? isBody)
      | some list =>
        have member := Node.mem_of_child? found
        have inside := laid.inside member
        have ordered := (laid.below member).start_le_stop
        have front := (parameterNames_spread (laid.below member) .field).mono inside.1 (Nat.le_refl _)
        have body := orderly.visitChildren? laid (laid.behind "body" (by decide) found)
        exact front.append body (by omega) inside.2
    · exact orderly.visitChildren? laid fun child isBody => laid.inside (Node.mem_of_child? isBody)

/-- The name of a method in front of its parameters. Which of the two stands first in the source is
left open. -/
theorem methodHead_spread (laid : Laid node) {name list : Node}
    (isName : node.child? "name" = some name) (isList : node.child? "parameters" = some list) :
    Spread node.start (max name.stop list.stop)
      (.name .method name :: names .parameter (parameterNames (some list))) := by
  have inside := laid.inside (Node.mem_of_child? isName)
  have inside' := laid.inside (Node.mem_of_child? isList)
  have shows := laid.shows isName
  have differ : name ≠ list := Node.ne_of_roles (Node.plays_of_child? isName)
    (Node.plays_of_child? isList) (by decide)
  have either := laid.either (Node.mem_of_child? isName) (Node.mem_of_child? isList) differ
  have named := parameterNames_spread (laid.below (Node.mem_of_child? isList)) .parameter
  refine ⟨fun mark member => ?_, List.pairwise_cons.mpr ⟨fun mark member => ?_, named.ascend⟩⟩
  · rcases List.mem_cons.mp member with rfl | member
    · exact ⟨inside.1, shows, Nat.le_max_left _ _⟩
    · exact (named.within mark member).mono inside'.1 (Nat.le_max_right _ _)
  · have within := named.within mark member
    obtain ⟨token, _, rfl⟩ := List.mem_map.mp member
    obtain ⟨lower, _, upper⟩ := within
    rcases either with before | behind
    · exact .inl (by omega)
    · exact .inr ⟨by decide, by omega⟩

/-- A method is named in front of its parameters, and they stand in front of its body. -/
theorem methodMarks_spread (orderly : Orderly below) (laid : Laid node) :
    Spread node.start node.stop (methodMarks below node) := by
  unfold methodMarks
  cases isName : node.child? "name" with
  | none => exact .nil
  | some name =>
    have inside := laid.inside (Node.mem_of_child? isName)
    have shows := laid.shows isName
    have body := laid.behind "body" (by decide) isName
    simp only
    cases isList : node.child? "parameters" with
    | none =>
      exact (Spread.name .method inside.1 shows (Nat.le_refl _)).append (orderly.visit? laid body)
        (by omega) inside.2
    | some list =>
      have inside' := laid.inside (Node.mem_of_child? isList)
      have body' := laid.behind "body" (by decide) isList
      refine (methodHead_spread laid isName isList).append (orderly.visit? laid ?_) (by omega)
        (by omega)
      intro child isBody
      exact ⟨Nat.max_le.mpr ⟨(body child isBody).1, (body' child isBody).1⟩, (body child isBody).2⟩

/-- A compact constructor is named in front of its body. -/
theorem compactMarks_spread (orderly : Orderly below) (laid : Laid node) :
    Spread node.start node.stop (compactMarks below node) := by
  unfold compactMarks
  cases isName : node.child? "name" with
  | none => exact .nil
  | some name =>
    have inside := laid.inside (Node.mem_of_child? isName)
    have shows := laid.shows isName
    exact (Spread.name .method inside.1 shows (Nat.le_refl _)).append
      (orderly.visit? laid (laid.behind "body" (by decide) isName)) (by omega) inside.2

/-- An enum constant is named in front of its arguments and its body. -/
theorem constantMarks_spread (orderly : Orderly below) (laid : Laid node) :
    Spread node.start node.stop (constantMarks below node) := by
  unfold constantMarks
  cases isName : node.child? "name" with
  | none => exact .nil
  | some name =>
    have inside := laid.inside (Node.mem_of_child? isName)
    have shows := laid.shows isName
    have arguments := laid.behind "arguments" (by decide) isName
    have body := laid.behind "body" (by decide) isName
    have front := Spread.name .field inside.1 shows (Nat.le_refl _)
    simp only
    cases isBody : node.child? "body" with
    | none =>
      rw [Outline.visitChildren?, Option.map_none, Option.getD_none, List.append_nil]
      exact front.append (orderly.visit? laid arguments) (by omega) inside.2
    | some block =>
      have member := Node.mem_of_child? isBody
      have around := body block isBody
      have ordered := (laid.below member).start_le_stop
      have middle : Spread name.stop block.start (below.visit? (node.child? "arguments")) :=
        orderly.visit? laid fun child isArguments =>
          ⟨(arguments child isArguments).1, laid.roles (by decide) isArguments isBody⟩
      have walked := (orderly.visitChildren (laid.below member)).mono (Nat.le_refl _) around.2
      exact (front.append middle (by omega) around.1).append walked (by omega) (by omega)

/-- A `catch` clause leaves the marks of its parts in order. -/
theorem caughtMarks_spread (orderly : Orderly below) (laid : Laid node) :
    Spread node.start node.stop (caughtMarks below node) := by
  unfold caughtMarks
  split
  · cases isName : node.child? "name" with
    | none => exact .nil
    | some name =>
      have inside := laid.inside (Node.mem_of_child? isName)
      exact Spread.name .localVariable inside.1 (laid.shows isName) inside.2
  · exact orderly.visit node laid

/-- Named children one behind another, each with its own outline. -/
theorem children_spread (laid : Laid node) {outline : Node → List Mark}
    (each : ∀ child, Laid child → Spread child.start child.stop (outline child)) :
    Spread node.start node.stop (node.named.flatMap outline) :=
  Spread.flatMap (laid.ascend.sublist List.filter_sublist)
    (fun _ member => laid.inside (Node.mem_of_named member))
    fun child member => each child (laid.below (Node.mem_of_named member))

/-- The resources of a `try` leave their marks in front of its blocks. -/
theorem tryMarks_spread (orderly : Orderly below) (laid : Laid node) :
    Spread node.start node.stop (tryMarks below node) := by
  unfold tryMarks
  split
  · exact children_spread laid fun _ laid => resourceMarks_spread orderly laid
  · exact orderly.visit node laid

/-- An `instanceof` tests its value in front of the name that it binds. -/
theorem instanceofMarks_spread (orderly : Orderly below) (laid : Laid node) :
    Spread node.start node.stop (instanceofMarks below node) := by
  unfold instanceofMarks
  cases isName : node.child? "name" with
  | none => exact orderly.visitChildren laid
  | some name =>
    have inside := laid.inside (Node.mem_of_child? isName)
    have shows := laid.shows isName
    have front : Spread node.start name.start (below.visit? (node.child? "left")) :=
      orderly.visit? laid fun child isLeft =>
        ⟨(laid.inside (Node.mem_of_child? isLeft)).1, laid.roles (by decide) isLeft isName⟩
    exact front.append (Spread.name .localVariable (Nat.le_refl _) shows inside.2) inside.1
      (by omega)

/-- The declarators of a declaration follow one another. -/
theorem declarators_spread (orderly : Orderly below) (laid : Laid node) (kind : OccurrenceKind) :
    Spread node.start node.stop
      ((node.childrenIn "declarator").flatMap (valuedMarks below kind)) :=
  Spread.flatMap (laid.ascend.sublist List.filter_sublist)
    (fun _ member => laid.inside (List.mem_filter.mp member).1)
    fun _ member => valuedMarks_spread orderly (laid.below (List.mem_filter.mp member).1) kind

/-- An enhanced `for` names its variable in front of the value and the body. -/
theorem loopMarks_spread (orderly : Orderly below) (laid : Laid node) :
    Spread node.start node.stop
      (valuedMarks below .localVariable node ++ below.visit? (node.child? "body")) := by
  cases isBody : node.child? "body" with
  | none =>
    rw [Outline.visit?, Option.map_none, Option.getD_none, List.append_nil]
    exact valuedMarks_spread orderly laid .localVariable
  | some body =>
    have member := Node.mem_of_child? isBody
    have inside := laid.inside member
    have ordered := (laid.below member).start_le_stop
    have walked := (orderly.visit body (laid.below member)).mono (Nat.le_refl _) inside.2
    have front : Spread node.start body.start (valuedMarks below .localVariable node) := by
      unfold valuedMarks
      cases isName : node.child? "name" with
      | none => exact .nil
      | some name =>
        have shows := laid.shows isName
        have inside' := laid.inside (Node.mem_of_child? isName)
        have before := laid.roles (by decide) isName isBody
        have value : Spread name.stop body.start (below.visit? (node.child? "value")) :=
          orderly.visit? laid fun child isValue =>
            ⟨laid.roles (by decide) isName isValue, laid.roles (by decide) isValue isBody⟩
        exact (Spread.name .localVariable inside'.1 shows (Nat.le_refl _)).append value (by omega)
          before
    exact front.append walked inside.1 (by omega)

/-- The parameters of a lambda stand in front of its body. -/
theorem lambdaMarks_spread (orderly : Orderly below) (laid : Laid node) :
    Spread node.start node.stop
      (names .localVariable (lambdaNames node) ++ below.visit? (node.child? "body")) := by
  unfold lambdaNames
  cases isList : node.child? "parameters" with
  | none => exact orderly.visit? laid fun child isBody => laid.inside (Node.mem_of_child? isBody)
  | some list =>
    have member := Node.mem_of_child? isList
    have inside := laid.inside member
    have ordered := (laid.below member).start_le_stop
    have front := (boundNames_spread (laid.below member)).mono inside.1 (Nat.le_refl _)
    exact front.append (orderly.visit? laid (laid.behind "body" (by decide) isList)) (by omega)
      inside.2

/-- **A visited node leaves its marks in order**, whatever construct it is. -/
theorem visitedNode_spread (orderly : Orderly below) (laid : Laid node) :
    Spread node.start node.stop (visitedNode below node) := by
  unfold visitedNode
  cases construct : Construct.ofKind node.kind with
  | skipped => exact .nil
  | type => exact typeMarks_spread orderly laid
  | fields => exact declarators_spread orderly laid .field
  | method => exact methodMarks_spread orderly laid
  | compactConstructor => exact compactMarks_spread orderly laid
  | enumConstant => exact constantMarks_spread orderly laid
  | staticInitializer => exact orderly.visitChildren laid
  | block => exact orderly.visitChildren laid
  | blockLike => exact orderly.visitChildren laid
  | locals => exact declarators_spread orderly laid .localVariable
  | loop => exact loopMarks_spread orderly laid
  | catchClause => exact children_spread laid fun _ laid => caughtMarks_spread orderly laid
  | resources => exact children_spread laid fun _ laid => tryMarks_spread orderly laid
  | instanceof => exact instanceofMarks_spread orderly laid
  | pattern => exact patternNames_spread laid
  | lambda => exact lambdaMarks_spread orderly laid
  | creation => exact creationMarks_spread orderly laid
  | access => exact orderly.denote node laid
  | name =>
    have isName : node.kind = "identifier" := Construct.kind_eq construct (by decide) (by decide)
    exact Spread.name .reference (Nat.le_refl _) (laid.here.2.1 (.inr (.inr isName))) (Nat.le_refl _)
  | other => exact orderly.visitChildren laid

end Level

/-- **The outline of a tree that is laid out stands in document order**, with any number of levels
left. -/
theorem outline_orderly (room : Nat) : Orderly (outline room) := by
  induction room with
  | zero => exact ⟨fun _ _ => .limit, fun _ _ => .limit⟩
  | succ room ih =>
    exact ⟨fun _ laid => visitedNode_spread ih laid, fun _ laid => denotedNode_spread ih laid⟩

/-! ## The occurrences of a walk -/

/-- Whether a label may come before another; the labels of one kind ascend. -/
def Label.Before (first second : Label) : Prop :=
  first.2.endByte ≤ second.2.startByte ∨
    first.1 ≠ second.1 ∧ second.2.endByte ≤ first.2.startByte

/-- Labels in document order, none of them empty. -/
structure LabelsAscend (labels : List Label) : Prop where
  ordered : labels.Pairwise Label.Before
  shows : ∀ label ∈ labels, label.2.startByte < label.2.endByte

/-- What is spread over a range is filed from its front to its back. -/
theorem Spread.labelsAscend {start stop : Nat} {marks : List Mark}
    (spread : Spread start stop marks) (source : Tree.Source) :
    LabelsAscend (labels source marks) where
  ordered := by
    refine List.pairwise_filterMap.mpr (spread.ascend.imp ?_)
    intro mark next before label isLabel label' isLabel'
    cases mark with
    | limit => cases isLabel
    | name kind token =>
      cases next with
      | limit => cases isLabel'
      | name kind' token' =>
        cases isLabel
        cases isLabel'
        exact before
  shows label member := by
    obtain ⟨mark, isMark, isLabel⟩ := List.mem_filterMap.mp member
    have within := spread.within mark isMark
    cases mark with
    | limit => cases isLabel
    | name kind token =>
      cases isLabel
      exact within.2.1

/-- A part of what ascends does so. -/
theorem LabelsAscend.sublist {labels others : List Label} (ascend : LabelsAscend labels)
    (part : others.Sublist labels) : LabelsAscend others :=
  ⟨ascend.ordered.sublist part, fun label member => ascend.shows label (part.subset member)⟩

/-- No two labels in document order have the same span. -/
theorem LabelsAscend.nodup {labels : List Label} (ascend : LabelsAscend labels) :
    (labels.map (·.2)).Nodup := by
  refine List.pairwise_map.mpr (ascend.ordered.imp_of_mem ?_)
  intro first second isFirst isSecond before same
  have shows := ascend.shows first isFirst
  rcases before with ends | ⟨_, ends⟩
  · rw [← same] at ends
    omega
  · rw [same] at ends shows
    omega

/-- A walk over a laid tree files in document order, by the trace of its marks. -/
theorem walk_labelsAscend (env : Env) {root : Node} (laid : Laid root) :
    LabelsAscend (walk env root).labels :=
  (((outline_orderly Tree.maxNesting).visit root laid).labelsAscend env.source).sublist
    (walk_labels_sublist env root)

end SymbolIndex.Walk

namespace SymbolIndex

open SymbolIndex.Tree (Node)

/-- A table of occurrences in document order: under every kind and name they ascend, and no two
occurrences stand at the same place. -/
structure Table.Ascends (table : Table) : Prop where
  find : ∀ kind key, (table.find kind key).Pairwise fun first second =>
    first.span.startByte < second.span.startByte
  all : ((OccurrenceKind.all.flatMap table.list).map (·.span)).Nodup

/-- What a table shows under a kind and a name are labels of that kind, in the order of filing. -/
theorem Walk.State.find_labels (state : Walk.State) (kind : OccurrenceKind) (key : String) :
    ((state.table.find kind key).map Walk.labelOf).Sublist state.labels ∧
      ∀ occurrence ∈ state.table.find kind key, occurrence.kind = kind := by
  rw [Walk.State.table, Table.find_ofEntries]
  constructor
  · have part := ((List.filter_sublist (p := fun entry : String × Occurrence => entry.1 = key)
      (l := Table.entriesOf kind (state.filings.reverse.map Walk.Filing.entry))).trans
        List.filter_sublist).map fun entry => Walk.labelOf entry.2
    simpa [Walk.State.labels, Walk.Filing.entry, Function.comp_def] using part
  · intro occurrence member
    obtain ⟨entry, isEntry, rfl⟩ := List.mem_map.mp member
    have filed := (List.mem_filter.mp (List.mem_filter.mp isEntry).1).2
    simpa using filed

/-- A table of filings that ascend has ascending lists. -/
theorem Walk.State.table_ascends {state : Walk.State} (ascend : Walk.LabelsAscend state.labels) :
    state.table.Ascends where
  find kind key := by
    obtain ⟨part, kinds⟩ := state.find_labels kind key
    have shown := ascend.sublist part
    refine (List.pairwise_map.mp shown.ordered).imp_of_mem ?_
    intro first second isFirst isSecond before
    have shows := shown.shows _ (List.mem_map_of_mem isFirst)
    -- both are of one kind, so the second stands behind the first
    rcases before with ends | ⟨differ, _⟩
    · exact Nat.lt_of_lt_of_le shows ends
    · exact absurd ((kinds first isFirst).trans (kinds second isSecond).symm) differ
  all := by
    have filed := (Table.all_ofEntries_perm (state.filings.reverse.map Walk.Filing.entry)).map
      Occurrence.span
    have same : ((state.filings.reverse.map Walk.Filing.entry).map (·.2)).map Occurrence.span =
        state.labels.map (·.2) := by
      simp [Walk.State.labels, Walk.Filing.entry, Walk.labelOf, Function.comp_def]
    rw [same] at filed
    exact filed.nodup_iff.mpr ascend.nodup

/-- **Occurrences come in document order.** Of every tree that is laid out, whatever the class path
knows, a walk that is not given up gives a table whose lists ascend and in which no two occurrences,
of whatever kinds and names, have the same span. -/
theorem walk_documentOrder (env : Walk.Env) (root : Node) (laid : Walk.Laid root)
    (index : SourceIndex) (indexed : SourceIndex.ofWalk (Walk.walk env root) = .ok index) :
    index.table.Ascends := by
  obtain ⟨_, rfl⟩ := SourceIndex.ofWalk_eq_ok_iff.mp indexed
  exact Walk.State.table_ascends (Walk.walk_labelsAscend env laid)

/-- The tree of `class A { int f, g; }`. -/
def twoFields : Node :=
  .word "program" none 0 21 [
    .word "class_declaration" none 0 21 [
      .word "identifier" (some "name") 6 7 [],
      .word "class_body" (some "body") 8 21 [
        .word "field_declaration" none 10 19 [
          .word "integral_type" (some "type") 10 13 [],
          .word "variable_declarator" (some "declarator") 14 15 [
            .word "identifier" (some "name") 14 15 []],
          .word "variable_declarator" (some "declarator") 17 18 [
            .word "identifier" (some "name") 17 18 []]]]]]

theorem walk_documentOrder_twoFields :
    ∃ index, SourceIndex.ofWalk (Walk.walk (Walk.Env.ofTree
        (Tree.Source.ofText "class A { int f, g; }") twoFields Classpath.empty) twoFields) = .ok index
      ∧ index.table.keys .field = ["f", "g"] ∧ index.table.Ascends := by
  have indexed := SourceIndex.ofWalk_eq_ok_iff.mpr
    ⟨show (Walk.walk (Walk.Env.ofTree (Tree.Source.ofText "class A { int f, g; }") twoFields
      Classpath.empty) twoFields).tooDeep = none by decide +kernel, rfl⟩
  exact ⟨_, indexed, by decide +kernel, walk_documentOrder _ twoFields (by decide) _ indexed⟩

end SymbolIndex
