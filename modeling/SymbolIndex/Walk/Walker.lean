import SymbolIndex.Walk.Statement

/-!
# The walk

A tree is visited in document order. Every visit and every typing of a node takes one level of
nesting; `walker` counts the levels that are left, so the walk ends for every tree, and where none
is left the walk is given up.

Long chains of calls nest thousands of levels deep. Every few hundred levels the walk goes on with
a fresh stack, which changes nothing of what it computes.
-/

namespace SymbolIndex.Walk

open SymbolIndex.Tree (Node Source Cursor SourceError)

/-- The constructs that the walk treats in a way of their own. -/
inductive Construct where
  | skipped
  | type
  | fields
  | method
  | compactConstructor
  | enumConstant
  | staticInitializer
  | block
  | blockLike
  | locals
  | loop
  | catchClause
  | resources
  | instanceof
  | pattern
  | lambda
  | creation
  | access
  | name
  | other
  deriving DecidableEq, Repr

/-- The kinds of nodes that are treated in a way of their own. -/
def Construct.kinds : List (String × Construct) :=
  [("package_declaration", .skipped), ("import_declaration", .skipped),
   ("module_declaration", .skipped), ("line_comment", .skipped), ("block_comment", .skipped),
   ("class_declaration", .type), ("interface_declaration", .type), ("enum_declaration", .type),
   ("record_declaration", .type), ("annotation_type_declaration", .type),
   ("field_declaration", .fields), ("constant_declaration", .fields),
   ("method_declaration", .method), ("constructor_declaration", .method),
   ("compact_constructor_declaration", .compactConstructor), ("enum_constant", .enumConstant),
   ("static_initializer", .staticInitializer), ("block", .block), ("for_statement", .blockLike),
   ("switch_block_statement_group", .blockLike), ("switch_rule", .blockLike),
   ("local_variable_declaration", .locals), ("enhanced_for_statement", .loop),
   ("catch_clause", .catchClause), ("try_with_resources_statement", .resources),
   ("instanceof_expression", .instanceof), ("type_pattern", .pattern),
   ("record_pattern_component", .pattern), ("lambda_expression", .lambda),
   ("object_creation_expression", .creation), ("field_access", .access),
   ("method_invocation", .access), ("method_reference", .access), ("identifier", .name)]

/-- The construct that a node of the given kind is. -/
def Construct.ofKind (kind : String) : Construct :=
  (kinds.lookup kind).getD .other

/-- Visits a node. -/
def visitNode (env : Env) (walker : Walker) (cursor : Cursor) (state : State) : State :=
  match Construct.ofKind cursor.kind with
  | .skipped => state
  | .type => visitType env walker cursor state
  | .fields => visitFields env walker cursor state
  | .method => visitMethod env walker cursor state
  | .compactConstructor => visitCompactConstructor env walker cursor state
  | .enumConstant => visitEnumConstant env walker cursor state
  | .staticInitializer => inMethod classInit (walker.visitChildren cursor) state
  | .block => visitBlock walker cursor state
  | .blockLike => inBlock (walker.visitChildren cursor) state
  | .locals => visitLocals env walker cursor state
  | .loop => visitLoop env walker cursor state
  | .catchClause => visitCatch env walker cursor state
  | .resources => visitTry env walker cursor state
  | .instanceof => visitInstanceof env walker cursor state
  | .pattern => visitPattern env cursor state
  | .lambda => visitLambda env walker cursor state
  | .creation => visitCreation env walker cursor state
  | .access => visitAccess env walker cursor state
  | .name => visitName walker cursor state
  | .other => walker.visitChildren cursor state

/-- Evaluates on a fresh stack. -/
def onFreshStack {α : Type} (value : Unit → α) : α :=
  (Task.spawn value .dedicated).get

/-- Evaluates, on a fresh stack at every 512th level of nesting. -/
def atLevel {α : Type} (room : Nat) (value : Unit → α) : α :=
  if room % 512 = 256 then onFreshStack value else value ()

/-- A level is only a place to stop at; it does not change the value. -/
theorem atLevel_eq {α : Type} (room : Nat) (value : Unit → α) : atLevel room value = value () := by
  unfold atLevel
  split <;> rfl

/-- The walker with the given number of levels left. Once the walk is given up, nothing more
happens. -/
def walker (env : Env) : Nat → Walker
  | 0 =>
    { visit := fun cursor state => state.giveUpAt env cursor.node
      denote := fun cursor _ state =>
        (.error (.nesting Tree.maxNesting), state.giveUpAt env cursor.node) }
  | room + 1 =>
    { visit := fun cursor state =>
        match state.tooDeep with
        | some _ => state
        | none => atLevel room fun _ => visitNode env (walker env room) cursor state
      denote := fun cursor recording state =>
        match state.tooDeep with
        | some _ => (.error (.nesting Tree.maxNesting), state)
        | none => atLevel room fun _ => denoteNode env (walker env room) cursor recording state }

/-- The state in which a walk over a tree ends. -/
def walk (env : Env) (root : Node) : State :=
  (walker env Tree.maxNesting).visit (Cursor.root root) {}

end SymbolIndex.Walk
