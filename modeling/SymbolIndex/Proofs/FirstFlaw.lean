import Mathlib.Data.List.TakeDrop
import SymbolIndex.Tree.Flaw

/-!
# The first flaw of a tree

A tree is searched for flawed nodes in document order, and what is below a node that is not marked as broken
is passed over. Where the marks are right (`Marked`) nothing is missed by this: the search gives the first
flawed node of the whole tree (`firstFlaw_eq_find?`), so a source is refused just when its tree has one.
Trees that are built from the list of their nodes are marked as they are built (`marked_ofPreorder?`).

The search keeps a list of the trees that it has not entered. A cursor keeps less: it stands at one node and
can only go to the first child, to the next sibling and to the parent. `Spot.search` is the search in these
moves, with a climb at the end of every list of siblings. What the cursor has in front of it is the list of
the other search (`Spot.ahead`), and every move shortens it or enters the first of its trees; so the cursor
comes to an end, and at the same node (`Spot.search_eq`).
-/

namespace SymbolIndex.Tree

namespace Node

/-! ## Document order -/

/-- Two lists of trees are put in front one after the other. -/
theorem listOnto_append (listed first second : List Node) :
    listOnto listed (first ++ second) = listOnto (listOnto listed first) second := by
  fun_induction listOnto listed first with
  | case1 => rfl
  | case2 listed node rest ih => rw [List.cons_append, listOnto, ← List.append_assoc, ih]

theorem listOnto_eq (listed nodes : List Node) : listOnto listed nodes = listOnto [] nodes ++ listed := by
  match nodes with
  | [] => simp [listOnto]
  | node :: rest =>
    rw [listOnto, listOnto, listOnto_eq (node :: listed), listOnto_eq [node], List.append_assoc]
    rfl
termination_by sizes nodes
decreasing_by all_goals exact sizes_children_lt node rest

/-- What is put in front of nothing is the preorder, last node first. -/
theorem listOnto_nil (nodes : List Node) : listOnto [] nodes = (nodes.flatMap preorder).reverse := by
  induction nodes with
  | nil => simp [listOnto]
  | cons node nodes ih =>
    have split : listOnto [] (node :: nodes) = listOnto (listOnto [] [node]) nodes :=
      listOnto_append [] [node] nodes
    rw [split, listOnto_eq, ih, List.flatMap_cons, List.reverse_append, preorder, List.reverse_reverse]

/-- A node comes in front of what is below it. -/
theorem preorder_eq (node : Node) : node.preorder = node :: node.children.flatMap preorder := by
  rw [preorder, listOnto, List.append_nil, listOnto_eq, listOnto_nil]
  simp

/-- The nodes of a tree are its root and those of the trees below. -/
theorem mem_preorder {node other : Node} :
    other ∈ node.preorder ↔ other = node ∨ ∃ child ∈ node.children, other ∈ child.preorder := by
  rw [preorder_eq, List.mem_cons, List.mem_flatMap]

theorem self_mem_preorder (node : Node) : node ∈ node.preorder :=
  mem_preorder.mpr (.inl rfl)

/-- Some node of a tree has a property when its root has it or a node below. -/
theorem exists_mem_preorder {node : Node} {holds : Node → Prop} :
    (∃ other ∈ node.preorder, holds other) ↔
      holds node ∨ ∃ child ∈ node.children, ∃ other ∈ child.preorder, holds other := by
  simp only [preorder_eq node, List.mem_cons, or_and_right, exists_or, exists_eq_left]
  refine or_congr_right ⟨?_, ?_⟩
  · rintro ⟨other, listed, holds⟩
    obtain ⟨child, inside, listed⟩ := List.mem_flatMap.mp listed
    exact ⟨child, inside, other, listed, holds⟩
  · rintro ⟨child, inside, other, listed, holds⟩
    exact ⟨other, List.mem_flatMap.mpr ⟨child, inside, listed⟩, holds⟩

/-! ## Marks -/

/-- Every node of a tree is marked as broken just when it is flawed or a node below it is. -/
def Marked (root : Node) : Prop :=
  ∀ node ∈ root.preorder, node.broken = true ↔ ∃ below ∈ node.preorder, below.label.flawed = true

/-- A child of a marked tree is marked. -/
theorem Marked.child {root child : Node} (marked : root.Marked) (inside : child ∈ root.children) :
    child.Marked :=
  fun node listed => marked node (mem_preorder.mpr (.inr ⟨child, inside, listed⟩))

/-- A node that is put above marked trees is marked by its own flaw and by theirs. -/
theorem marked_ofChildren (label : Label) {children : List Node} (marked : ∀ child ∈ children, child.Marked) :
    (ofChildren label children).Marked := by
  intro node listed
  rcases mem_preorder.mp listed with rfl | ⟨child, inside, listed⟩
  · rw [exists_mem_preorder]
    simp only [ofChildren, Bool.or_eq_true, List.any_eq_true]
    exact or_congr_right (exists_congr fun child => and_congr_right fun inside =>
      marked child inside child child.self_mem_preorder)
  · exact marked child inside node listed

/-- Adopting marked trees leaves marked ones: a node that takes some of them above it is marked by them. -/
theorem marked_adopt {depth : Nat} {label : Label} {trees : List (Nat × Node)}
    (marked : ∀ tree ∈ trees, tree.2.Marked) : ∀ tree ∈ adopt depth label trees, tree.2.Marked := by
  intro tree member
  rw [adopt, List.span_eq_takeWhile_dropWhile] at member
  rcases List.mem_cons.mp member with rfl | other
  · refine marked_ofChildren label fun child inside => ?_
    obtain ⟨tree, taken, rfl⟩ := List.mem_map.mp inside
    exact marked tree ((List.takeWhile_sublist _).subset taken)
  · exact marked tree ((List.dropWhile_sublist _).subset other)

/-- **A tree that is built from its nodes is marked**, by induction from the last node to the first. -/
theorem marked_adoptAll (entries : List (Nat × Label)) :
    ∀ tree ∈ entries.foldr (fun entry trees => adopt entry.1 entry.2 trees) [], tree.2.Marked := by
  induction entries with
  | nil => simp
  | cons entry entries ih => exact marked_adopt ih

/-- A tree that is built from the list of its nodes is marked. -/
theorem marked_ofPreorder? {entries : List (Nat × Label)} {root : Node}
    (built : ofPreorder? entries = some root) : root.Marked := by
  unfold ofPreorder? at built
  split at built
  · rename_i one
    cases built
    have marked := marked_adoptAll entries
    change entries.foldr (fun entry trees => adopt entry.1 entry.2 trees) [] = [(0, root)] at one
    rw [one] at marked
    exact marked (0, root) List.mem_cons_self
  · cases built

end Node

open Node (sizes)

/-! ## The search -/

/-- **The search gives the first flawed node in document order.** By induction on the search: a tree that is
not broken has no flawed node, and the others are entered. -/
theorem firstFlaw_eq_find? {nodes : List Node} (marked : ∀ node ∈ nodes, node.Marked) :
    firstFlaw nodes = (nodes.flatMap Node.preorder).find? (·.label.flawed) := by
  fun_induction firstFlaw nodes with
  | case1 => rfl
  | case2 node rest flawed =>
    rw [List.flatMap_cons, Node.preorder_eq, List.cons_append, List.find?_cons, flawed]
  | case3 node rest sound broken ih =>
    obtain ⟨first, others⟩ := List.forall_mem_cons.mp marked
    rw [ih (List.forall_mem_append.mpr ⟨fun child inside => first.child inside, others⟩),
      List.flatMap_append, List.flatMap_cons, Node.preorder_eq node, List.cons_append, List.find?_cons]
    simp [sound]
  | case4 node rest sound whole ih =>
    obtain ⟨first, others⟩ := List.forall_mem_cons.mp marked
    have clean : node.preorder.find? (·.label.flawed) = none := by
      rw [List.find?_eq_none]
      intro below listed flawed
      exact whole ((first node node.self_mem_preorder).mpr ⟨below, listed, flawed⟩)
    rw [ih others, List.flatMap_cons, List.find?_append, clean, Option.none_or]

/-! ## The search by a cursor -/

/-- A place where a cursor stands: a node with the siblings behind it, and each node above it, the nearest
first, with the siblings behind that one. -/
structure Spot where
  node : Node
  behind : List Node
  above : List (Node × List Node)

namespace Spot

/-- The cursor at the root of a tree. -/
def root (node : Node) : Spot := ⟨node, [], []⟩

/-- The cursor at the first child. -/
def firstChild? (spot : Spot) : Option Spot :=
  match spot.node.children with
  | [] => none
  | child :: others => some ⟨child, others, (spot.node, spot.behind) :: spot.above⟩

/-- The cursor at the next sibling. -/
def nextSibling? (spot : Spot) : Option Spot :=
  match spot.behind with
  | [] => none
  | sibling :: others => some ⟨sibling, others, spot.above⟩

/-- The cursor at the parent. -/
def parent? (spot : Spot) : Option Spot :=
  match spot.above with
  | [] => none
  | (parent, behind) :: above => some ⟨parent, behind, above⟩

/-- The cursor at the next sibling of the node or, where there is none, of the nearest node above it that has
one. -/
def climb? (spot : Spot) : Option Spot :=
  match spot.nextSibling? with
  | some sibling => some sibling
  | none =>
    match _risen : spot.parent? with
    | some parent => parent.climb?
    | none => none
termination_by spot.above.length
decreasing_by
  unfold parent? at _risen
  split at _risen
  · cases _risen
  · rename_i above
    cases _risen
    simp [above]

/-- The trees that a cursor has in front of it: its own, the siblings behind it, and those behind the nodes
above. -/
def ahead (spot : Spot) : List Node :=
  spot.node :: (spot.behind ++ spot.above.flatMap (·.2))

variable {spot next : Spot}

/-- A cursor that goes to the first child has the children in front of it in place of the node. -/
theorem ahead_firstChild? (moved : spot.firstChild? = some next) :
    next.ahead = spot.node.children ++ spot.ahead.tail := by
  unfold firstChild? at moved
  split at moved <;> cases moved
  simp [ahead, *]

/-- Where there is no first child there is none. -/
theorem childless (stays : spot.firstChild? = none) : spot.node.children = [] := by
  unfold firstChild? at stays
  split at stays
  · assumption
  · cases stays

/-- A cursor that goes to the next sibling leaves its own tree behind. -/
theorem ahead_nextSibling? (moved : spot.nextSibling? = some next) : next.ahead = spot.ahead.tail := by
  unfold nextSibling? at moved
  split at moved <;> cases moved
  simp [ahead, *]

/-- From the last sibling a cursor has the same in front of it as from the parent, the trees that it stands in
apart. -/
theorem tail_ahead_parent? (last : spot.nextSibling? = none) :
    spot.ahead.tail = (spot.parent?.map (·.ahead.tail)).getD [] := by
  have noSibling : spot.behind = [] := by
    unfold nextSibling? at last
    split at last
    · assumption
    · cases last
  unfold parent?
  split <;> simp [ahead, *]

/-- A cursor that climbs leaves its own tree behind. By induction on the climb: on the way up nothing comes
into view but what stands behind the parents. -/
theorem ahead_climb? (spot : Spot) : (spot.climb?.map ahead).getD [] = spot.ahead.tail := by
  fun_induction climb? spot with
  | case1 spot sibling moved => exact ahead_nextSibling? moved
  | case2 spot last parent risen ih => rw [ih, tail_ahead_parent? last, risen]; rfl
  | case3 spot last top => rw [tail_ahead_parent? last, top]; rfl

/-- A node without flaws that is not entered, or has nothing to enter, is passed over. -/
theorem firstFlaw_ahead (spot : Spot) (sound : ¬spot.node.label.flawed)
    (stays : (if spot.node.broken then spot.firstChild? else none) = none) :
    firstFlaw spot.ahead = firstFlaw spot.ahead.tail := by
  rw [ahead, firstFlaw, if_neg sound, List.tail_cons]
  split at stays
  · rename_i broken
    rw [if_pos broken, childless stays, List.nil_append]
  · rename_i whole
    rw [if_neg whole]

/-- The first flawed node that a cursor comes to, when it enters broken nodes only. -/
def search (spot : Spot) : Option Node :=
  if spot.node.label.flawed then some spot.node
  else
    match _entered : if spot.node.broken then spot.firstChild? else none with
    | some child => child.search
    | none =>
      match _climbed : spot.climb? with
      | some next => next.search
      | none => none
termination_by sizes spot.ahead
decreasing_by
  · have moved : spot.firstChild? = some child := by
      split at _entered
      · assumption
      · cases _entered
    rw [ahead_firstChild? moved]
    exact Node.sizes_children_lt ..
  · have moved := spot.ahead_climb?
    rw [_climbed] at moved
    change next.ahead = spot.ahead.tail at moved
    rw [moved]
    exact Node.sizes_lt_cons ..

/-- **A cursor comes to the same node as the search with a list.** By induction on the moves. -/
theorem search_eq (spot : Spot) : spot.search = firstFlaw spot.ahead := by
  fun_induction search spot with
  | case1 spot flawed => rw [ahead, firstFlaw, if_pos flawed]
  | case2 spot sound child entered ih =>
    obtain ⟨broken, moved⟩ : spot.node.broken ∧ spot.firstChild? = some child := by
      simpa using entered
    rw [ih, ahead_firstChild? moved, ahead, firstFlaw, if_neg sound, if_pos broken, List.tail_cons]
  | case3 spot sound entered next climbed ih =>
    have moved := spot.ahead_climb?
    rw [climbed] at moved
    rw [ih, spot.firstFlaw_ahead sound entered, ← moved]
    rfl
  | case4 spot sound entered climbed =>
    have moved := spot.ahead_climb?
    rw [climbed] at moved
    rw [spot.firstFlaw_ahead sound entered, ← moved]
    simp [firstFlaw]

end Spot

/-! ## The check -/

/-- What the check of a source says of its tree. -/
structure Checked (source : Source) (root : Node) : Prop where
  /-- The search gives the first flawed node in document order. -/
  search : firstFlaw [root] = root.preorder.find? (·.label.flawed)
  /-- So does a cursor that is sent through the tree. -/
  cursor : (Spot.root root).search = root.preorder.find? (·.label.flawed)
  /-- There is none just when no node is flawed, -/
  none_iff : firstFlaw [root] = none ↔ ∀ node ∈ root.preorder, node.label.flawed = false
  /-- and then the source is accepted. -/
  accepted : check source root = .ok () ↔ ∀ node ∈ root.preorder, node.label.flawed = false
  /-- Otherwise it is refused at the first flawed node, in the row and column of its start, counted from
  one. -/
  refused : ∀ before node behind, root.preorder = before ++ node :: behind →
    (∀ earlier ∈ before, earlier.label.flawed = false) → node.label.flawed = true →
      firstFlaw [root] = some node ∧
        check source root = .error (.flawed ((source.position node.start).row + 1)
          ((source.position node.start).column + 1) (snippet source node))

/-- **A source is refused at its first flaw.** Whatever the source and its tree, when the nodes are marked as
broken that are flawed or stand above a flawed one. -/
theorem check_marked (source : Source) (root : Node) (marked : root.Marked) : Checked source root := by
  have search : firstFlaw [root] = root.preorder.find? (·.label.flawed) := by
    rw [firstFlaw_eq_find? (by simpa using marked), List.flatMap_singleton]
  have none_iff : firstFlaw [root] = none ↔ ∀ node ∈ root.preorder, node.label.flawed = false := by
    simp [search]
  refine ⟨search, ?_, none_iff, ?_, ?_⟩
  · rw [Spot.search_eq, ← search]
    rfl
  · rw [← none_iff, check]
    cases firstFlaw [root] <;> simp
  · intro before node behind listed earlier flawed
    have first : firstFlaw [root] = some node := by
      have clean : before.find? (·.label.flawed) = none :=
        List.find?_eq_none.mpr fun other member => by simp [earlier other member]
      rw [search, listed, List.find?_append, clean, Option.none_or, List.find?_cons, flawed]
    refine ⟨first, ?_⟩
    rw [check, first]
    rfl

/-- The nodes of a class whose one field is declared without a semicolon, which the grammar has put in behind
the name. -/
def withoutSemicolon : List (Nat × Label) :=
  [(0, ⟨"program", none, true, false, false, 0, 19⟩),
    (1, ⟨"class_declaration", none, true, false, false, 0, 19⟩),
    (2, ⟨"class", none, false, false, false, 0, 5⟩),
    (2, ⟨"identifier", some "name", true, false, false, 6, 7⟩),
    (2, ⟨"class_body", some "body", true, false, false, 8, 19⟩),
    (3, ⟨"\x7b", none, false, false, false, 8, 9⟩),
    (3, ⟨"field_declaration", none, true, false, false, 12, 17⟩),
    (4, ⟨"integral_type", some "type", true, false, false, 12, 15⟩),
    (5, ⟨"int", none, false, false, false, 12, 15⟩),
    (4, ⟨"variable_declarator", some "declarator", true, false, false, 16, 17⟩),
    (5, ⟨"identifier", some "name", true, false, false, 16, 17⟩),
    (4, ⟨";", none, false, false, true, 17, 17⟩),
    (3, ⟨"\x7d", none, false, false, false, 18, 19⟩)]

theorem check_marked_withoutSemicolon :
    ∃ root, Node.ofPreorder? withoutSemicolon = some root ∧ root.Marked ∧
      Checked (.ofText "class A \x7b\n  int x\n\x7d") root ∧
      check (.ofText "class A \x7b\n  int x\n\x7d") root = .error (.flawed 2 8 "missing ;") := by
  have first : (Node.ofPreorder? withoutSemicolon).map (fun root => (firstFlaw [root]).map
      (flawAt (.ofText "class A \x7b\n  int x\n\x7d"))) = some (some (.flawed 2 8 "missing ;")) := by
    decide +kernel
  obtain ⟨root, built, first⟩ := Option.map_eq_some_iff.mp first
  obtain ⟨node, found, error⟩ := Option.map_eq_some_iff.mp first
  have marked := Node.marked_ofPreorder? built
  refine ⟨root, built, marked, check_marked _ root marked, ?_⟩
  rw [check, found]
  exact congrArg Except.error error

end SymbolIndex.Tree
