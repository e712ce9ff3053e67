import SymbolIndex.Proofs.Comments.Walk
import SymbolIndex.Proofs.Order.Classless
import SymbolIndex.Proofs.Order.Exchange

/-!
# Sources in two orders

`Rearranged` relates the trees of two sources of which the second is the first with the members of one class
body in another order. The text of a member goes with it, and what stands behind the body may move as well.
`Exchangeable` says which neighbours may change places: members that leave no variable behind in the scope, and
member classes where this is granted (`may`), unless they add one name with different types.

What is read off a tree before it is walked is the same for both: the heads of the classes, the members that
are collected for a body, and the imports.
-/

namespace SymbolIndex.Walk

open SymbolIndex.Tree (Node Source Cursor Carried)

/-! ## Trees in two orders -/

/-- A node that has been moved, with its text. -/
def Moved (env : Env) (source : Source) (node node' : Node) : Prop :=
  ∃ distance, Carried env.source source distance node ∧ node' = node.moved distance

/-- Two nodes of the same sort, apart from their places and from what lies below. -/
structure Peers (node node' : Node) : Prop where
  kind : node'.kind = node.kind
  role : node'.label.role = node.label.role
  named : node'.label.named = node.label.named
  flawed : node'.label.flawed = node.label.flawed

/-- The kinds of nodes that list members of a class. -/
def memberListKinds : List String :=
  "enum_body_declarations" :: bodyKinds

/-- A body without classes other than member classes: no local class in a member, no anonymous one and no body
of a constant of an enum. -/
def MemberClassesOnly (body : Node) : Prop :=
  ∀ member ∈ bodyMembers body, declaresType member.kind = true ∨ Classless member

/-- A member that binds no variable outside of the blocks and class bodies inside of it. -/
def Unbound (env : Env) (member : Node) : Prop :=
  ∀ room above, boundIn env ((leavings env room).visit ⟨member, above⟩) = []

/-- A member that may change places: a class only where it is granted, anything else if it binds no variable
that the members behind it would see. The members behind the constants of an enum stay there as a whole. -/
structure Mobile (env : Env) (may : Prop) (member : Node) : Prop where
  kind : member.kind ≠ "enum_body_declarations"
  type : declaresType member.kind = true → may
  other : declaresType member.kind = false → Unbound env member

/-- Two members that may be exchanged: both may change places, and they add no name with different types. -/
structure Exchangeable (env : Env) (may : Prop) (first second : Node) : Prop where
  mobile : Mobile env may first
  mobile' : Mobile env may second
  compatible : Compatible env first second

/-- Nodes that have been moved, with neighbours exchanged that may be. -/
def Shuffled (env : Env) (source : Source) (may : Prop) (nodes nodes' : List Node) : Prop :=
  ∃ pairs pairs', (∀ pair ∈ pairs, Moved env source pair.1 pair.2) ∧
    Exchanged (fun first second => Exchangeable env may first.1 second.1) pairs pairs' ∧
    nodes = pairs.map Prod.fst ∧ nodes' = pairs'.map Prod.snd

/-- A node with a child on the way to a class body: a class among the members of another one or of the file,
the members behind the constants of an enum, or the body of a class. -/
inductive Holds : Node → List Node → Node → Prop
  | type {node child : Node} {front : List Node}
      (lists : node.kind = "program" ∨ node.kind ∈ memberListKinds)
      (declares : declaresType child.kind = true) (named : child.label.named = true) :
      Holds node front child
  | constants {node child : Node} {front : List Node} (isEnum : node.kind = "enum_body")
      (behind : child.kind = "enum_body_declarations") (named : child.label.named = true)
      (flat : ∀ member ∈ child.named, member.kind ≠ "enum_body_declarations") : Holds node front child
  | body {node child : Node} {front : List Node} (declares : declaresType node.kind = true)
      (isBody : child.kind ∈ bodyKinds) (plays : child.label.role = some "body")
      (first : ∀ other ∈ front, other.plays "body" = false) : Holds node front child

/-- Two trees of which the second has the members of one class body in another order. -/
inductive Rearranged (env : Env) (source : Source) (may : Prop) : Node → Node → Prop
  | members {node node' : Node} (peers : Peers node node') (lists : node.kind ∈ memberListKinds)
      (plain : MemberClassesOnly node) (shuffled : Shuffled env source may node.children node'.children) :
      Rearranged env source may node node'
  | inside {node node' child child' : Node} {front front' back back' : List Node}
      (peers : Peers node node') (holds : Holds node front child)
      (plain : node.kind ∈ memberListKinds → MemberClassesOnly node)
      (children : node.children = front ++ child :: back)
      (children' : node'.children = front' ++ child' :: back')
      (before : List.Forall₂ (Moved env source) front front')
      (behind : List.Forall₂ (Moved env source) back back')
      (rearranged : Rearranged env source may child child') : Rearranged env source may node node'

variable {env : Env} {source : Source} {may : Prop}

/-- A node whose members are in another order is still of its kind, role and name. -/
theorem Rearranged.peers {node node' : Node} (rearranged : Rearranged env source may node node') :
    Peers node node' := by
  cases rearranged with
  | members peers => exact peers
  | inside peers => exact peers

/-! ## Moved nodes -/

/-- Each item of the second list has a partner in the first. -/
theorem exists_of_forall₂ {α β : Type} {related : α → β → Prop} {items : List α} {items' : List β}
    (pairs : List.Forall₂ related items items') : ∀ item' ∈ items', ∃ item ∈ items, related item item' := by
  induction pairs with
  | nil => exact fun _ absent => nomatch absent
  | @cons item _ _ _ here _ ih =>
    refine List.forall_mem_cons.mpr ⟨⟨item, List.mem_cons_self, here⟩, fun other listed => ?_⟩
    obtain ⟨before, inside, holds⟩ := ih other listed
    exact ⟨before, List.mem_cons_of_mem _ inside, holds⟩

namespace Moved

variable {node node' : Node}

/-- A moved node is still of its kind, role and name. -/
theorem peers (moved : Moved env source node node') : Peers node node' := by
  obtain ⟨distance, -, rfl⟩ := moved
  exact ⟨Node.kind_moved _ _, by rw [Node.label_moved]; rfl, by rw [Node.label_moved]; rfl,
    by rw [Node.label_moved]; rfl⟩

/-- A moved member adds the same to its class. -/
theorem counterparts (moved : Moved env source node node') : Counterparts env source node node' := by
  obtain ⟨distance, carried, rfl⟩ := moved
  exact .moved carried

/-- What is chosen among moved nodes by their sort has been moved. -/
theorem filter {holds : Node → Bool} (bySort : ∀ node node', Peers node node' → holds node' = holds node)
    {nodes nodes' : List Node} (pairs : List.Forall₂ (Moved env source) nodes nodes') :
    List.Forall₂ (Moved env source) (nodes.filter holds) (nodes'.filter holds) := by
  induction pairs with
  | nil => exact .nil
  | @cons node node' _ _ here _ ih =>
    rw [List.filter_cons, List.filter_cons, bySort node node' here.peers]
    split
    · exact .cons here ih
    · exact ih

/-- The first node of a sort is found in both lists, or in neither. -/
theorem find? {holds : Node → Bool} (bySort : ∀ node node', Peers node node' → holds node' = holds node)
    {nodes nodes' : List Node} (pairs : List.Forall₂ (Moved env source) nodes nodes') :
    Option.Rel (Moved env source) (nodes.find? holds) (nodes'.find? holds) := by
  induction pairs with
  | nil => exact .none
  | @cons node node' _ _ here _ ih =>
    rw [List.find?_cons, List.find?_cons, bySort node node' here.peers]
    cases holds node with
    | true => exact .some here
    | false => exact ih

/-- The named nodes of lists that pair up pair up. -/
theorem named {nodes nodes' : List Node} (pairs : List.Forall₂ (Moved env source) nodes nodes') :
    List.Forall₂ (Moved env source) (nodes.filter (·.label.named)) (nodes'.filter (·.label.named)) :=
  filter (fun _ _ peers => peers.named) pairs

/-- A moved node has a flaw when the node itself has one. -/
theorem unflawed (moved : Moved env source node node')
    (sound : node.all (!·.label.flawed)) : node'.all (!·.label.flawed) := by
  obtain ⟨distance, -, rfl⟩ := moved
  induction node using Node.induct with
  | step node ih =>
    obtain ⟨here, below⟩ := Node.all_iff.mp sound
    refine Node.all_iff.mpr ⟨?_, fun child inside => ?_⟩
    · rw [Node.label_moved]
      exact here
    · rw [Node.children_moved] at inside
      obtain ⟨before, listed, rfl⟩ := List.mem_map.mp inside
      exact ih before listed (below before listed)

end Moved

/-! ## Shuffled members -/

/-- Compatible members are compatible where they have been moved to. -/
theorem Compatible.moved {node node' other other' : Node} (compatible : Compatible env node other)
    (moved : Moved env source node node') (moved' : Moved env source other other') :
    Compatible (env.on source) node' other' := by
  intro scope path
  rw [moved.counterparts.adds scope scope path (.refl _), moved'.counterparts.adds scope scope path (.refl _)]
  exact compatible scope path

section Shuffled

variable {pairs pairs' : List (Node × Node)}
  (exchanged : Exchanged (fun first second => Exchangeable env may first.1 second.1) pairs pairs')
  (each : ∀ pair ∈ pairs, Moved env source pair.1 pair.2)

include exchanged each

/-- What has been exchanged has been moved. -/
theorem Exchanged.moved : ∀ pair ∈ pairs', Moved env source pair.1 pair.2 :=
  fun pair listed => each pair (exchanged.perm.mem_iff.mpr listed)

/-- **Members are collected alike behind exchanges.** Of some nodes the nodes inside are collected in their
place, but not of those that change places. -/
theorem Exchanged.gathered {spread : Node → List Node}
    (spreads : ∀ node node', Moved env source node node' → Gathered env source (spread node) (spread node'))
    (single : ∀ node, node.kind ≠ "enum_body_declarations" → spread node = [node]) :
    Gathered env source ((pairs.map Prod.fst).flatMap spread) ((pairs'.map Prod.snd).flatMap spread) := by
  have inOrder {pairs : List (Node × Node)} (moved : ∀ pair ∈ pairs, Moved env source pair.1 pair.2) :
      Gathered env source ((pairs.map Prod.fst).flatMap spread) ((pairs.map Prod.snd).flatMap spread) := by
    induction pairs with
    | nil => exact .ofCounterparts .nil
    | cons pair pairs ih =>
      obtain ⟨here, rest⟩ := List.forall_mem_cons.mp moved
      exact (spreads _ _ here).append (ih rest)
  induction exchanged with
  | nil => exact .ofCounterparts .nil
  | kept pair _ ih =>
    obtain ⟨here, rest⟩ := List.forall_mem_cons.mp each
    exact (spreads _ _ here).append (ih rest)
  | @swap first second pairs exchange =>
    obtain ⟨isFirst, isSecond, rest⟩ : Moved env source first.1 first.2 ∧ Moved env source second.1 second.2 ∧
        ∀ pair ∈ pairs, Moved env source pair.1 pair.2 := by simpa using each
    have kind : first.2.kind ≠ "enum_body_declarations" := isFirst.peers.kind ▸ exchange.mobile.kind
    have kind' : second.2.kind ≠ "enum_body_declarations" := isSecond.peers.kind ▸ exchange.mobile'.kind
    have two : Gathered env source [first.1, second.1] [first.2, second.2] :=
      .ofCounterparts (.cons isFirst.counterparts (.cons isSecond.counterparts .nil))
    have compatible : [first.2, second.2].Pairwise (Compatible (env.on source)) :=
      List.pairwise_pair.mpr (exchange.compatible.moved isFirst isSecond)
    have swapped := two.perm (.swap second.2 first.2 []) compatible
    simp only [List.map_cons, List.flatMap_cons, single _ exchange.mobile.kind, single _ exchange.mobile'.kind,
      single _ kind, single _ kind']
    exact swapped.append (inOrder rest)
  | trans exchanged _ ih ih' =>
    have middle := exchanged.moved each
    exact (ih each).zigzag (inOrder middle) (ih' middle)

end Shuffled

namespace Shuffled

variable {nodes nodes' : List Node}

/-- The named nodes of shuffled lists are shuffled in turn. -/
theorem named (shuffled : Shuffled env source may nodes nodes') :
    Shuffled env source may (nodes.filter (·.label.named)) (nodes'.filter (·.label.named)) := by
  obtain ⟨pairs, pairs', moved, exchanged, rfl, rfl⟩ := shuffled
  refine ⟨pairs.filter (·.1.label.named), pairs'.filter (·.1.label.named),
    fun pair listed => moved pair (List.mem_filter.mp listed).1, exchanged.filter _, List.filter_map, ?_⟩
  rw [List.filter_map]
  congr 1
  apply List.filter_congr
  intro pair listed
  exact (exchanged.moved moved pair listed).peers.named

/-- Every node behind the shuffling has been moved there. -/
theorem moved_of_mem (shuffled : Shuffled env source may nodes nodes') :
    ∀ node' ∈ nodes', ∃ node ∈ nodes, Moved env source node node' := by
  obtain ⟨pairs, pairs', moved, exchanged, rfl, rfl⟩ := shuffled
  intro node' listed
  obtain ⟨pair, inside, rfl⟩ := List.mem_map.mp listed
  exact ⟨pair.1, List.mem_map_of_mem (exchanged.perm.mem_iff.mpr inside), exchanged.moved moved pair inside⟩

end Shuffled

/-! ## Declarations of classes -/

/-- A part that may be missing is moved by some distance, or is missing in both. -/
theorem Moved.distance {found found' : Option Node} (moved : Option.Rel (Moved env source) found found') :
    ∃ distance, (∀ node ∈ found, Carried env.source source distance node) ∧
      found' = found.map (Node.moved distance) := by
  cases moved with
  | none => exact ⟨0, fun _ absent => (nomatch absent), rfl⟩
  | some moved =>
    obtain ⟨distance, carried, rfl⟩ := moved
    refine ⟨distance, fun node found => ?_, rfl⟩
    cases found
    exact carried

/-- The first of two related choices, or else the second, is related. -/
theorem orElse_rel {α β : Type} {related : α → β → Prop} {first second : Option α} {first' second' : Option β}
    (here : Option.Rel related first first') (rest : Option.Rel related second second') :
    Option.Rel related (first.or second) (first'.or second') := by
  cases here with
  | none => exact rest
  | some holds => exact .some holds

/-- Two declarations of a class that are the same but for their bodies. -/
structure SameHead (env : Env) (source : Source) (node node' body body' : Node) : Prop where
  declares : declaresType node.kind = true
  kind : node'.kind = node.kind
  body : node.child? "body" = some body
  body' : node'.child? "body" = some body'
  role : ∀ role ≠ "body", Option.Rel (Moved env source) (node.child? role) (node'.child? role)
  headers : ∀ first second type, Same env.classpath first second →
    node'.children.foldl (addHeader (env.on source) second) type =
      node.children.foldl (addHeader env first) type

section Declarations

variable {node node' child child' : Node} {front front' back back' : List Node}

/-- The heads of a class add the same supertypes where they have been moved to. -/
theorem headers_moved {nodes nodes' : List Node} (pairs : List.Forall₂ (Moved env source) nodes nodes')
    {first second : Scope} (same : Same env.classpath first second) (type : SourceType) :
    nodes'.foldl (addHeader (env.on source) second) type = nodes.foldl (addHeader env first) type := by
  induction pairs generalizing type with
  | nil => rfl
  | cons here _ ih =>
    obtain ⟨distance, carried, rfl⟩ := here
    rw [List.foldl_cons, List.foldl_cons, addHeader_moved same carried, ih]

/-- A body adds no supertype. -/
theorem addHeader_of_body (isBody : child.kind ∈ bodyKinds) (scope : Scope) (type : SourceType) :
    addHeader env scope type child = type := by
  simp only [bodyKinds, List.mem_cons, List.not_mem_nil, or_false] at isBody
  rcases isBody with isKind | isKind | isKind | isKind <;> simp [addHeader, isKind]

/-- A declaration has the head of the one in which the members of its body are in another order. -/
theorem sameHead_of_inside (declares : declaresType node.kind = true) (isBody : child.kind ∈ bodyKinds)
    (plays : child.label.role = some "body") (first : ∀ other ∈ front, other.plays "body" = false)
    (peers : Peers node node') (children : node.children = front ++ child :: back)
    (children' : node'.children = front' ++ child' :: back')
    (before : List.Forall₂ (Moved env source) front front')
    (behind : List.Forall₂ (Moved env source) back back') (inner : Peers child child') :
    SameHead env source node node' child child' := by
  have byRole (role : String) (node node' : Node) (peers : Peers node node') :
      node'.plays role = node.plays role := by
    rw [Node.plays, Node.plays, peers.role]
  have playsBody : child.plays "body" = true := by simp [Node.plays, plays]
  constructor
  case declares => exact declares
  case kind => exact peers.kind
  case body =>
    have skipped : front.find? (·.plays "body") = none :=
      List.find?_eq_none.mpr fun other listed => by simp [first other listed]
    simp only [Node.child?, children, List.find?_append, skipped, Option.none_or, List.find?_cons, playsBody]
  case body' =>
    have skipped : front'.find? (·.plays "body") = none := by
      refine List.find?_eq_none.mpr fun other listed => ?_
      obtain ⟨moved, inside, isMoved⟩ := exists_of_forall₂ before other listed
      simp [byRole "body" _ _ isMoved.peers, first moved inside]
    simp only [Node.child?, children', List.find?_append, skipped, Option.none_or, List.find?_cons,
      byRole "body" _ _ inner, playsBody]
  case role =>
    intro role differs
    have other : child.plays role = false := by
      rw [Node.plays, plays]
      exact beq_false_of_ne fun same => differs (Option.some.inj same).symm
    have other' : child'.plays role = false := (byRole role _ _ inner).trans other
    simp only [Node.child?, children, children', List.find?_append, List.find?_cons, other, other']
    exact orElse_rel (Moved.find? (byRole role) before) (Moved.find? (byRole role) behind)
  case headers =>
    intro first second type same
    have isBody' : child'.kind ∈ bodyKinds := inner.kind ▸ isBody
    rw [children, children', List.foldl_append, List.foldl_append, List.foldl_cons, List.foldl_cons,
      headers_moved before same, addHeader_of_body isBody', addHeader_of_body isBody,
      headers_moved behind same]

namespace SameHead

variable (head : SameHead env source node node' child child')

include head

/-- Declarations with bodies in another order have the same head. -/
theorem heads : Heads env source node node' where
  kind := head.kind
  components _ := Moved.distance (head.role "parameters" (by decide))
  headers := head.headers

/-- The classes have the same name, and add nothing else to a body. -/
theorem counterparts : Counterparts env source node node' where
  names _ _ same := nameMember_beside same head.kind (Moved.distance (head.role "name" (by decide)))
  adds first second path _ := by
    have nothing {env : Env} {scope : Scope} {node : Node} (declares : declaresType node.kind = true) :
        additions env scope path node = [] := by
      have listed : node.kind ∈ ["class_declaration", "interface_declaration", "enum_declaration",
          "record_declaration", "annotation_type_declaration"] := List.contains_iff_mem.mp declares
      simp only [List.mem_cons, List.not_mem_nil, or_false] at listed
      rcases listed with isKind | isKind | isKind | isKind | isKind <;> simp [additions, isKind]
    rw [nothing head.declares, nothing (head.kind ▸ head.declares)]

end SameHead

end Declarations

/-! ## Members of a body -/

/-- The members that are collected for a child of a body. -/
def membersIn (child : Node) : List Node :=
  if child.kind == "enum_body_declarations" then child.named else [child]

/-- A member is gathered for itself, but for the list behind the constants of an enum. -/
theorem membersIn_of_ne {child : Node} (differs : child.kind ≠ "enum_body_declarations") :
    membersIn child = [child] :=
  if_neg (by simpa using differs)

/-- What is moved adds the same, member by member. -/
theorem Moved.gathered {child child' : Node} (moved : Moved env source child child') :
    Gathered env source (membersIn child) (membersIn child') := by
  have counterparts := moved.counterparts
  obtain ⟨distance, carried, rfl⟩ := moved
  apply Gathered.ofCounterparts
  unfold membersIn
  rw [Node.kind_moved]
  split
  · rw [Node.named_moved, List.forall₂_map_right_iff, List.forall₂_same]
    exact fun member listed => .moved (carried.belowNamed listed)
  · exact .cons counterparts .nil

theorem not_lists_of_declares {kind : String} (declares : declaresType kind = true) :
    kind ≠ "program" ∧ kind ∉ memberListKinds := by
  have listed : kind ∈ ["class_declaration", "interface_declaration", "enum_declaration",
      "record_declaration", "annotation_type_declaration"] := List.contains_iff_mem.mp declares
  simp only [List.mem_cons, List.not_mem_nil, or_false] at listed
  rcases listed with rfl | rfl | rfl | rfl | rfl <;> decide

namespace Rearranged

variable {node node' : Node}

/-- A class on the way to the body has the same head in both trees. -/
theorem sameHead (rearranged : Rearranged env source may node node')
    (declares : declaresType node.kind = true) :
    ∃ body body', SameHead env source node node' body body' := by
  obtain ⟨notProgram, notLists⟩ := not_lists_of_declares declares
  cases rearranged with
  | members _ lists => exact absurd lists notLists
  | @inside _ _ child child' _ _ _ _ peers holds _ children children' before behind inner =>
    cases holds with
    | type lists => exact absurd lists (not_or.mpr ⟨notProgram, notLists⟩)
    | constants isEnum => exact absurd (isEnum ▸ by decide) notLists
    | body declares isBody plays first =>
      exact ⟨child, child',
        sameHead_of_inside declares isBody plays first peers children children' before behind inner.peers⟩

/-- The named children around a child that is rearranged. -/
theorem gathered_inside {child child' : Node} {front front' back back' : List Node}
    {spread : Node → List Node}
    (each : ∀ node node', Moved env source node node' → Gathered env source (spread node) (spread node'))
    (named : child.label.named = true) (inner : Peers child child')
    (children : node.children = front ++ child :: back)
    (children' : node'.children = front' ++ child' :: back')
    (before : List.Forall₂ (Moved env source) front front')
    (behind : List.Forall₂ (Moved env source) back back')
    (here : Gathered env source (spread child) (spread child')) :
    Gathered env source (node.named.flatMap spread) (node'.named.flatMap spread) := by
  have around {nodes nodes' : List Node} (pairs : List.Forall₂ (Moved env source) nodes nodes') :
      Gathered env source (nodes.flatMap spread) (nodes'.flatMap spread) := by
    induction pairs with
    | nil => exact .ofCounterparts .nil
    | cons moved _ ih => exact (each _ _ moved).append ih
  have named' : child'.label.named = true := inner.named.trans named
  simp only [Node.named, children, children', List.filter_append, List.filter_cons, named, named', if_true,
    List.flatMap_append, List.flatMap_cons]
  exact (around (Moved.named before)).append (here.append (around (Moved.named behind)))

/-- **A body in another order adds the same members**, as far as those that are exchanged are compatible. -/
theorem gathered_with {spread : Node → List Node} (rearranged : Rearranged env source may node node')
    (lists : node.kind ∈ memberListKinds)
    (each : ∀ node node', Moved env source node node' → Gathered env source (spread node) (spread node'))
    (single : ∀ node, node.kind ≠ "enum_body_declarations" → spread node = [node])
    (constants : node.kind = "enum_body" → ∀ child child', Rearranged env source may child child' →
      child.kind = "enum_body_declarations" → Gathered env source (spread child) (spread child')) :
    Gathered env source (node.named.flatMap spread) (node'.named.flatMap spread) := by
  cases rearranged with
  | members _ _ _ shuffled =>
    obtain ⟨pairs, pairs', moved, exchanged, isNamed, isNamed'⟩ := shuffled.named
    rw [Node.named, Node.named, isNamed, isNamed']
    exact exchanged.gathered moved each single
  | @inside _ _ child child' _ _ _ _ peers holds _ children children' before behind inner =>
    cases holds with
    | type _ declares named =>
      refine gathered_inside each named inner.peers children children' before behind ?_
      have kind : child.kind ≠ "enum_body_declarations" := fun isKind =>
        (not_lists_of_declares declares).2 (isKind ▸ List.mem_cons_self)
      rw [single child kind, single child' (inner.peers.kind ▸ kind)]
      obtain ⟨body, body', head⟩ := inner.sameHead declares
      exact .ofCounterparts (.cons head.counterparts .nil)
    | constants isEnum isList named =>
      exact gathered_inside each named inner.peers children children' before behind
        (constants isEnum child child' inner isList)
    | body declares => exact absurd lists (not_lists_of_declares declares).2

/-- **The members of a rearranged body are collected alike.** -/
theorem gathered (rearranged : Rearranged env source may node node') (lists : node.kind ∈ memberListKinds) :
    Gathered env source (bodyMembers node) (bodyMembers node') := by
  refine rearranged.gathered_with lists (fun _ _ => Moved.gathered) (fun _ => membersIn_of_ne) ?_
  intro _ child child' inner isList
  have isList' : child'.kind = "enum_body_declarations" := inner.peers.kind.trans isList
  have listed := inner.gathered_with (isList ▸ List.mem_cons_self)
    (fun _ _ moved => .ofCounterparts (.cons moved.counterparts .nil)) (fun _ _ => rfl)
    (fun isEnum => absurd (isList.symm.trans isEnum) (by decide))
  simpa [membersIn, isList, isList'] using listed

/-! ## Whole trees -/

/-- A tree without flaws has none in another order. -/
theorem unflawed (rearranged : Rearranged env source may node node') (sound : node.all (!·.label.flawed)) :
    node'.all (!·.label.flawed) := by
  induction rearranged with
  | members peers _ _ shuffled =>
    obtain ⟨here, below⟩ := Node.all_iff.mp sound
    refine Node.all_iff.mpr ⟨by rw [peers.flawed]; exact here, fun child inside => ?_⟩
    obtain ⟨before, listed, moved⟩ := shuffled.moved_of_mem child inside
    exact moved.unflawed (below before listed)
  | @inside _ _ child _ front _ back _ peers _ _ children children' before behind _ ih =>
    obtain ⟨here, below⟩ := Node.all_iff.mp sound
    rw [children] at below
    refine Node.all_iff.mpr ⟨by rw [peers.flawed]; exact here, fun other inside => ?_⟩
    rw [children', List.mem_append, List.mem_cons] at inside
    rcases inside with earlier | rfl | later
    · obtain ⟨moved, listed, isMoved⟩ := exists_of_forall₂ before other earlier
      exact isMoved.unflawed (below moved (List.mem_append_left _ listed))
    · exact ih (below child (by simp))
    · obtain ⟨moved, listed, isMoved⟩ := exists_of_forall₂ behind other later
      exact isMoved.unflawed (below moved (by simp [listed]))

end Rearranged

/-- What a top-level node contributes to the types of its file. -/
def fileType? (source : Source) (imports : Imports) (node : Node) : Option (String × String) :=
  if declaresType node.kind then
    (node.child? "name").map fun name =>
      let name := source.slice name.start name.stop
      (name, imports.inPackage name)
  else none

/-- The types of a file are listed by the names of its declarations. -/
theorem topLevelTypes_eq (source : Source) (imports : Imports) (root : Node) :
    Env.topLevelTypes source imports root =
      Bindings.ofList (root.named.filterMap (fileType? source imports)) := by
  rw [Env.topLevelTypes, List.filterMap_filter, List.map_filterMap]
  congr 2
  funext node
  unfold fileType?
  cases declaresType node.kind <;> rfl

/-- Two top-level nodes that say the same about the file. -/
structure SameEntry (source source' : Source) (node node' : Node) : Prop where
  imports : ∀ imports, Imports.addNode source' imports node' = Imports.addNode source imports node
  type : ∀ imports, fileType? source' imports node' = fileType? source imports node

/-- A declaration that is moved makes the same entry. -/
theorem Moved.sameEntry {node node' : Node} (moved : Moved env source node node') :
    SameEntry env.source source node node' := by
  obtain ⟨distance, carried, rfl⟩ := moved
  constructor
  case imports =>
    intro imports
    have found : Imports.declaredName? (node.moved distance) =
        (Imports.declaredName? node).map (Node.moved distance) := by
      rw [Imports.declaredName?, Node.named_moved]
      exact Node.find?_moved distance (fun node => by simp only [Node.kind_moved]) _
    have kinds (kind : String) : (node.moved distance).children.any (·.kind == kind) =
        node.children.any (·.kind == kind) := by
      simp only [Node.children_moved, List.any_map, Function.comp_def, Node.kind_moved]
    unfold Imports.addNode
    rw [found]
    cases isName : Imports.declaredName? node with
    | none => rfl
    | some name =>
      have same := (carried.belowNamed (List.mem_of_find?_eq_some isName)).here.2.2
      simp only [Option.map_some, same, kinds, Node.kind_moved]
  case type =>
    intro imports
    unfold fileType?
    rw [Node.kind_moved, Node.child?_moved]
    cases isName : node.child? "name" with
    | none => rfl
    | some name => simp only [Option.map_some, (carried.belowRole isName).here.2.2]

/-- A declaration whose members are in another order makes the same entry. -/
theorem SameHead.sameEntry {node node' body body' : Node}
    (head : SameHead env source node node' body body') : SameEntry env.source source node node' := by
  constructor
  case imports =>
    have nothing {source : Source} {node : Node} (declares : declaresType node.kind = true)
        (imports : Imports) : Imports.addNode source imports node = imports := by
      have listed : node.kind ∈ ["class_declaration", "interface_declaration", "enum_declaration",
          "record_declaration", "annotation_type_declaration"] := List.contains_iff_mem.mp declares
      unfold Imports.addNode
      simp only [List.mem_cons, List.not_mem_nil, or_false] at listed
      rcases listed with isKind | isKind | isKind | isKind | isKind <;>
        (simp only [isKind]; cases Imports.declaredName? node <;> rfl)
    intro imports
    rw [nothing head.declares, nothing (head.kind ▸ head.declares)]
  case type =>
    intro imports
    obtain ⟨distance, carried, isName⟩ := Moved.distance (head.role "name" (by decide))
    unfold fileType?
    rw [head.kind, isName]
    cases found : node.child? "name" with
    | none => rfl
    | some name => simp only [Option.map_some, (carried name found).here.2.2]

section Entries

variable {source' : Source} {nodes nodes' : List Node}
  (entries : List.Forall₂ (SameEntry source source') nodes nodes')

include entries

/-- The imports are read alike from files whose declarations are moved. -/
theorem addNodes_same (imports : Imports) :
    nodes'.foldl (Imports.addNode source') imports = nodes.foldl (Imports.addNode source) imports := by
  induction entries generalizing imports with
  | nil => rw [List.foldl_nil, List.foldl_nil]
  | cons entry _ ih => rw [List.foldl_cons, List.foldl_cons, entry.imports, ih]

/-- The types of the file are listed alike, since their declarations make the same entries. -/
theorem fileTypes_same (imports : Imports) :
    nodes'.filterMap (fileType? source' imports) = nodes.filterMap (fileType? source imports) := by
  induction entries with
  | nil => rw [List.filterMap_nil, List.filterMap_nil]
  | cons entry _ ih => rw [List.filterMap_cons, List.filterMap_cons, entry.type, ih]

end Entries

/-- **Both sources have the same imports and types at the top level.** -/
theorem ofTree_rearranged {source source' : Source} {root root' : Node} {classpath : Classpath}
    (rearranged : Rearranged (Env.ofTree source root classpath) source' may root root')
    (isProgram : root.kind = "program") :
    Env.ofTree source' root' classpath = (Env.ofTree source root classpath).on source' := by
  have entries : List.Forall₂ (SameEntry source source') root.named root'.named := by
    cases rearranged with
    | members _ lists =>
      rw [isProgram] at lists
      exact absurd lists (by decide)
    | inside _ holds _ children children' before behind inner =>
      cases holds with
      | constants isEnum => exact absurd (isProgram.symm.trans isEnum) (by decide)
      | body declares => exact absurd isProgram (not_lists_of_declares declares).1
      | type _ declares named =>
        obtain ⟨_, _, head⟩ := inner.sameHead declares
        have named' := inner.peers.named.trans named
        have moved {nodes nodes' : List Node}
            (pairs : List.Forall₂ (Moved (Env.ofTree source root classpath) source') nodes nodes') :
            List.Forall₂ (SameEntry source source') (nodes.filter (·.label.named))
              (nodes'.filter (·.label.named)) :=
          (Moved.named pairs).imp fun _ _ moved => moved.sameEntry
        simp only [Node.named, children, children', List.filter_append, List.filter_cons, named, named',
          if_true]
        exact List.rel_append (moved before) (.cons head.sameEntry (moved behind))
  have imports : Imports.ofTree source' root' = Imports.ofTree source root := addNodes_same entries {}
  have types (imports : Imports) := fileTypes_same entries imports
  simp only [Env.ofTree, Env.on, imports, topLevelTypes_eq, types]

end SymbolIndex.Walk
