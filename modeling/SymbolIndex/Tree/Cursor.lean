import SymbolIndex.Tree.Node

/-!
# Places in a tree

A cursor is a node together with the nodes above it, nearest first. Going down to a child keeps
the way back.
-/

namespace SymbolIndex.Tree

/-- A node and the nodes above it, the parent first. -/
structure Cursor where
  node : Node
  above : List Node

namespace Cursor

/-- The root of a tree. -/
def root (node : Node) : Cursor := ⟨node, []⟩

/-- The cursor at a node below. -/
def down (cursor : Cursor) (child : Node) : Cursor :=
  ⟨child, cursor.node :: cursor.above⟩

/-- The kind of the node. -/
def kind (cursor : Cursor) : String := cursor.node.kind

/-- The parent. -/
def parent? (cursor : Cursor) : Option Node :=
  cursor.above.head?

/-- The parent's parent. -/
def grandparent? (cursor : Cursor) : Option Node :=
  cursor.above.tail.head?

/-- The named children. -/
def named (cursor : Cursor) : List Cursor :=
  cursor.node.named.map cursor.down

/-- The first child in the given role. -/
def child? (cursor : Cursor) (role : String) : Option Cursor :=
  (cursor.node.child? role).map cursor.down

/-- The children in the given role. -/
def childrenIn (cursor : Cursor) (role : String) : List Cursor :=
  (cursor.node.childrenIn role).map cursor.down

end Cursor

end SymbolIndex.Tree
