import SymbolIndex.Occurrence.Table
import SymbolIndex.Tree.Cursor
import SymbolIndex.Tree.Flaw
import SymbolIndex.Walk.Member

/-!
# The state of a walk

A walk goes over a tree in document order with the lexical scope, the occurrences filed so far, the
notes on accesses that could not be attributed, and the place where it met the limit of nesting.
An occurrence is filed with the scope of that moment: what it says holds of that scope, and a class
that is walked later may change what a path stands for.

The steps of the walk are written against a `Walker`, the two ways to go on with a node below:
to visit it, or to find out what it denotes as an expression. With `recording` unset an expression
is only typed.
-/

namespace SymbolIndex.Walk

open SymbolIndex.Tree (Node Cursor Position)

/-- A member access that could not be attributed. -/
structure Note where
  text : String
  position : Position
  cause : Unresolved
  deriving DecidableEq, Repr

/-- The wording of a note. -/
def Note.message (note : Note) : String :=
  "Unresolved `" ++ note.text ++ "` at " ++ toString (note.position.row + 1) ++ ":"
    ++ toString (note.position.column + 1) ++ ": " ++ note.cause.message

/-- What an expression denotes, as far as the members behind it go. -/
inductive Referent where
  /-- A value of a known type. -/
  | value (type : JavaType)
  /-- A type, named as a qualifier. -/
  | type (path : String)
  /-- A dotted name that is neither a variable nor a known type, as a package would be. -/
  | name (dotted : String)
  /-- A member whose own type is not known. -/
  | unknown
  deriving DecidableEq, Repr

/-- What finding out the referent of an expression ends with. -/
abbrev Outcome := Except Unresolved Referent

/-- An occurrence with the name it is filed under and the scope it was found in. -/
structure Filing where
  key : String
  occurrence : Occurrence
  scope : Scope

/-- What a table keeps of a filing. -/
def Filing.entry (filing : Filing) : String × Occurrence :=
  (filing.key, filing.occurrence)

/-- The state of a walk. -/
structure State where
  scope : Scope := {}
  /-- The occurrences filed so far, newest first. -/
  filings : List Filing := []
  /-- The accesses that could not be attributed, newest first. -/
  notes : List Note := []
  /-- Where the limit of nesting was first met. -/
  tooDeep : Option Position := none

/-- The ways to go on with a node below. -/
structure Walker where
  visit : Cursor → State → State
  denote : Cursor → Bool → State → Outcome × State

/-- The method name of code that runs when a class is initialised. -/
def classInit : String := "<clinit>"

/-- The method name of code that runs when an object is initialised. -/
def instanceInit : String := "<init>"

namespace State

/-- Changes the scope. -/
def withScope (state : State) (change : Scope → Scope) : State :=
  { state with scope := change state.scope }

/-- Files an occurrence under a name. -/
def file (state : State) (key : String) (occurrence : Occurrence) : State :=
  { state with filings := ⟨key, occurrence, state.scope⟩ :: state.filings }

/-- The table of what was filed. -/
def table (state : State) : Table :=
  Table.ofEntries (state.filings.reverse.map Filing.entry)

/-- The binary name of the innermost class. -/
def owner (state : State) : String :=
  (state.scope.frame?.map Frame.name).getD ""

/-- The method around this place; code outside of methods initialises objects. -/
def method (state : State) : String :=
  state.scope.method?.getD instanceInit

/-- Notes an access that could not be attributed. -/
def note (env : Env) (node : Node) (cause : Unresolved) (state : State) : State :=
  { state with
    notes := ⟨env.text node, env.source.position node.start, cause⟩ :: state.notes }

/-- Gives up at a node, unless the walk has been given up before. -/
def giveUpAt (env : Env) (node : Node) (state : State) : State :=
  match state.tooDeep with
  | some _ => state
  | none => { state with tooDeep := some (env.source.position node.start) }

/-- Declares a variable under the name that a node writes. -/
def declare (env : Env) (name : Node) (type : Option JavaType) (state : State) : State :=
  state.withScope (·.declare (env.text name) type)

/-- Files a local variable. -/
def fileLocal (env : Env) (name : Node) (typeName : Option String) (state : State) : State :=
  let key := env.text name
  state.file key
    (.localVariable key typeName state.method state.owner (Span.ofNode env.source name))

/-- Files a reference to a member of the given type, unless that is the innermost class itself. -/
def fileReference (env : Env) (name : Node) (kind : MemberKind) (declaring : String)
    (state : State) : State :=
  if state.scope.frame?.map (·.path) = some declaring then state
  else
    let key := env.text name
    state.file key (.reference key kind declaring state.owner (Span.ofNode env.source name))

end State

/-- Runs a step with a block of its own. -/
def inBlock (step : State → State) (state : State) : State :=
  (step (state.withScope Scope.pushBlock)).withScope Scope.popBlock

/-- Runs a step as part of the given method. -/
def inMethod (method : String) (step : State → State) (state : State) : State :=
  (step (state.withScope (·.setMethod (some method)))).withScope
    (·.setMethod state.scope.method?)

namespace Walker

/-- Visits nodes in order. -/
def visitAll (walker : Walker) (cursors : List Cursor) (state : State) : State :=
  cursors.foldl (fun state cursor => walker.visit cursor state) state

/-- Visits the named children in order. -/
def visitChildren (walker : Walker) (cursor : Cursor) (state : State) : State :=
  walker.visitAll cursor.named state

/-- Visits the named children of a node that may be there. -/
def visitChildren? (walker : Walker) (cursor : Option Cursor) (state : State) : State :=
  match cursor with
  | some cursor => walker.visitChildren cursor state
  | none => state

/-- Visits a node that may be there. -/
def visit? (walker : Walker) (cursor : Option Cursor) (state : State) : State :=
  match cursor with
  | some cursor => walker.visit cursor state
  | none => state

/-- Visits a node that may be there as part of the given method. -/
def visitWithin (walker : Walker) (method : String) (cursor : Option Cursor) (state : State) :
    State :=
  match cursor with
  | some cursor => inMethod method (walker.visit cursor) state
  | none => state

/-- The type of a value, found without recording anything. -/
def valueType (walker : Walker) (cursor : Cursor) (state : State) : Option JavaType × State :=
  match walker.denote cursor false state with
  | (.ok (.value type), state) => (some type, state)
  | (_, state) => (none, state)

/-- Finding the type of a value leaves the state that denoting it leaves. -/
theorem valueType_snd (walker : Walker) (cursor : Cursor) (state : State) :
    (walker.valueType cursor state).2 = (walker.denote cursor false state).2 := by
  unfold valueType
  split <;> simp_all

/-- The type of a value that may be there. -/
def valueType? (walker : Walker) (cursor : Option Cursor) (state : State) :
    Option JavaType × State :=
  match cursor with
  | some cursor => walker.valueType cursor state
  | none => (none, state)

end Walker

end SymbolIndex.Walk
