import SymbolIndex.Bindings
import SymbolIndex.JavaType
import SymbolIndex.Text.Pieces

/-!
# Lexical scope

What the walk knows about the names around it. Class bodies nest; each of them is a frame with the
members its class declares, the types named in it, and the blocks that are open in it. Blocks that
are open outside of every class lie below all frames. The members of a class stay known after its
body has been left.

A name is looked up frame by frame, the innermost first, and within a frame in its blocks, then in
its fields, then in the fields it inherits.
-/

namespace SymbolIndex

/-- A class declared in the source: its supertypes and its members with their types, as far as the
types could be resolved. -/
structure SourceType where
  superClass : Option String := none
  interfaces : List String := []
  fields : Bindings (Option JavaType) := .empty
  methods : Bindings (Option JavaType) := .empty

/-- The variables declared in one block. -/
abbrev Block := Bindings (Option JavaType)

/-- The name of a class itself: what stands behind the last slash or dollar of its path. -/
def simpleNameOf (path : String) : String :=
  Text.lastPiece (fun c => c == '/' || c == '$') path

/-- Whether the class at a path has the given name. The paths of deeply nested classes are long, so
their ends are compared first. -/
def hasSimpleName (path name : String) : Bool :=
  path.endsWith name && simpleNameOf path == name

/-- A path has a simple name when its own is that name. -/
theorem hasSimpleName_eq (path name : String) :
    hasSimpleName path name = (simpleNameOf path == name) := by
  unfold hasSimpleName
  by_cases named : simpleNameOf path = name
  · have ends : path.endsWith name = true := by
      rw [← String.endsWith_toSlice, String.Slice.endsWith_string_iff, String.copy_toSlice, ← named]
      exact Text.lastPiece_suffix _ path
    rw [ends, Bool.true_and]
  · rw [beq_false_of_ne named, Bool.and_false]

/-- An enclosing class body. -/
structure Frame where
  /-- The binary path of the class. -/
  path : String
  members : SourceType := {}
  /-- The member and local classes named in this body, with their paths. -/
  nested : Bindings String := .empty
  /-- The open blocks, the innermost first. -/
  blocks : List Block := []
  /-- The signature of the method being walked. -/
  method : Option String := none
  /-- How many anonymous classes the body has had so far. -/
  anonymous : Nat := 0

/-- The binary name without the package: `Foo`, `Foo$Inner`, `Foo$1`. -/
def Frame.name (frame : Frame) : String :=
  Text.lastPiece (· == '/') frame.path

/-- What an unqualified name stands for. -/
inductive Variable where
  | declared (type : Option JavaType)
  | field (declaring : String) (type : Option JavaType)
  deriving DecidableEq, Repr

/-- The lexical scope. -/
structure Scope where
  /-- The enclosing class bodies, the innermost first. -/
  frames : List Frame := []
  /-- The blocks that are open outside of every class body, the innermost first. -/
  outer : List Block := []
  /-- The classes whose bodies have been left. -/
  finished : Bindings SourceType := .empty

/-- Declares a variable in the innermost block; a block is opened when there is none. -/
def declareIn (blocks : List Block) (name : String) (type : Option JavaType) : List Block :=
  match blocks with
  | [] => [Bindings.empty.insert name type]
  | block :: below => block.insert name type :: below

namespace Scope

/-- Enters a class body. -/
def pushFrame (scope : Scope) (path : String) : Scope :=
  { scope with frames := { path } :: scope.frames }

/-- Leaves the innermost class body, with the blocks that are open in it. -/
def popFrame (scope : Scope) : Scope :=
  match scope.frames with
  | [] => scope
  | frame :: frames =>
    { scope with frames, finished := scope.finished.insert frame.path frame.members }

/-- The innermost frame. -/
def frame? (scope : Scope) : Option Frame :=
  scope.frames.head?

/-- Changes the innermost frame, if there is one. -/
def modifyFrame (scope : Scope) (change : Frame → Frame) : Scope :=
  match scope.frames with
  | [] => scope
  | frame :: frames => { scope with frames := change frame :: frames }

/-- The class of the source with the given path: one whose body encloses this place, or one whose
body has been left. -/
def sourceType? (scope : Scope) (path : String) : Option SourceType :=
  match scope.frames.find? (·.path == path) with
  | some frame => some frame.members
  | none => scope.finished.find? path

/-- The method being walked in the innermost frame. -/
def method? (scope : Scope) : Option String :=
  scope.frame?.bind (·.method)

/-- Sets the method of the innermost frame. -/
def setMethod (scope : Scope) (method : Option String) : Scope :=
  scope.modifyFrame fun frame => { frame with method }

/-- Counts one more anonymous class in the innermost frame. -/
def countAnonymous (scope : Scope) : Scope :=
  scope.modifyFrame fun frame => { frame with anonymous := frame.anonymous + 1 }

/-- The path of the next anonymous class of the innermost frame. -/
def anonymousPath (scope : Scope) : String :=
  match scope.frame? with
  | some frame => frame.path ++ "$" ++ toString (frame.anonymous + 1)
  | none => "$1"

/-- Changes the blocks of the innermost frame, or those below all frames. -/
def modifyBlocks (scope : Scope) (change : List Block → List Block) : Scope :=
  match scope.frames with
  | [] => { scope with outer := change scope.outer }
  | frame :: frames =>
    { scope with frames := { frame with blocks := change frame.blocks } :: frames }

/-- Opens a block. -/
def pushBlock (scope : Scope) : Scope :=
  scope.modifyBlocks (.empty :: ·)

/-- Closes the innermost block of the innermost frame, if it has one. -/
def popBlock (scope : Scope) : Scope :=
  scope.modifyBlocks List.tail

/-- Declares a variable in the innermost block of the innermost frame. -/
def declare (scope : Scope) (name : String) (type : Option JavaType) : Scope :=
  scope.modifyBlocks (declareIn · name type)

/-- What a name stands for in the given blocks. -/
def inBlocks (name : String) (blocks : List Block) : Option Variable :=
  (blocks.findSome? (·.find? name)).map .declared

/-- What a name stands for in one frame: a variable of its blocks, a field of its class, or a field
that `inherited` finds. -/
def inFrame (name : String) (inherited : Frame → String → Option (String × Option JavaType))
    (frame : Frame) : Option Variable :=
  match inBlocks name frame.blocks with
  | some found => some found
  | none =>
    match frame.members.fields.find? name with
    | some type => some (.field frame.path type)
    | none => (inherited frame name).map fun (declaring, type) => .field declaring type

/-- What an unqualified name stands for. -/
def lookup (scope : Scope) (name : String)
    (inherited : Frame → String → Option (String × Option JavaType)) : Option Variable :=
  match scope.frames.findSome? (inFrame name inherited) with
  | some found => some found
  | none => inBlocks name scope.outer

end Scope

end SymbolIndex
