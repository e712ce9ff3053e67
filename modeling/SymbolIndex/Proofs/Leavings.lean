import SymbolIndex.Proofs.Balance
import SymbolIndex.Proofs.Script

/-!
# What a walk leaves behind

A walk takes back what it opens, but not all of what it does: a variable stays declared in the block that
was innermost, and a class stays named or counted in the frame around it. `leavings` reads off the tree
what can stay behind a node: the names that are bound outside of every block and class body below it, and
the classes that are entered outside of every other one. `walker_leaves` says that nothing else stays.

**The law** (`visit_keeps_siblings_apart`): in a class body that has been entered, what a member leaves for
the members behind it are its leavings. A method, a constructor, a member class and a block leave no
variable, so the open blocks behind them are those before them. A field or a constant of an enum leaves the
patterns of its value: the value is walked without a block of its own, and a first declaration opens one
that stays open until the body is left. A local class of any member stays named for the whole body.
-/

namespace SymbolIndex

namespace Scope

/-- What the path of a class that is entered depends on. -/
def standing (scope : Scope) : Option (String × Bool × Nat) :=
  scope.frame?.map fun frame => (frame.path, frame.method.isSome, frame.anonymous)

/-- The scope as a class finds it. In a member of the class around it a method is set. -/
def within (isLocal : Bool) (scope : Scope) : Scope :=
  if isLocal then scope.setMethod (some Walk.instanceInit) else scope

/-- Whether a method is set in the innermost frame, if there is one. -/
def inMember (scope : Scope) : Bool :=
  scope.frame?.all (·.method.isSome)

/-- Locals do not decide where a scope stands. -/
theorem standing_modifyBlocks (scope : Scope) (change : List Block → List Block) (isLocal : Bool) :
    ((scope.modifyBlocks change).within isLocal).standing = (scope.within isLocal).standing := by
  obtain ⟨frames, outer, finished⟩ := scope
  cases isLocal <;> cases frames <;> rfl

/-- Inside of a member every class is a local one. -/
theorem standing_inMember {scope : Scope} (inMember : scope.inMember = true) (isLocal : Bool)
    (method : Option String) :
    ((scope.setMethod method).within true).standing = (scope.within isLocal).standing := by
  obtain ⟨frames, outer, finished⟩ := scope
  cases frames with
  | nil => cases isLocal <;> rfl
  | cons frame frames =>
    have set : frame.method.isSome = true := inMember
    cases isLocal with
    | true => rfl
    | false =>
      show some (frame.path, true, frame.anonymous) = some (frame.path, frame.method.isSome, frame.anonymous)
      rw [set]

end Scope

theorem Frame.SameClass.trans {first second third : Frame} (same : first.SameClass second)
    (same' : second.SameClass third) : first.SameClass third :=
  ⟨same'.path.trans same.path, same'.method.trans same.method, same'.members.trans same.members⟩

/-- The path of a class that is declared in a frame, inside of a member or not. -/
def Frame.classPath (frame : Frame) (isLocal : Bool) (name : String) : String :=
  if isLocal || frame.method.isSome then frame.path ++ "$1" ++ name else frame.path ++ "$" ++ name

namespace Walk

open SymbolIndex.Tree (Node Cursor)

/-! ## Leavings -/

/-- What can stay in the scope behind a node. -/
inductive Leaving where
  /-- A variable in the innermost block. -/
  | bound (name : Node)
  /-- A class in the innermost frame. One inside of a member is a local class. -/
  | entered (isLocal : Bool) (naming : Naming)

namespace Leaving

/-- Classes outlast the block that they stand in. -/
def isClass : Leaving → Bool
  | .bound _ => false
  | .entered _ _ => true

/-- What is left of it behind a member. -/
def inMember : Leaving → Leaving
  | .bound name => .bound name
  | .entered _ naming => .entered true naming

end Leaving

/-- Something that a tree says at each of its places, for a visit and for an expression. -/
structure Reading (α : Type) where
  visit : Cursor → α
  denote : Cursor → Bool → α

/-- What a script leaves behind, with the leavings of what lies below. -/
def Script.leavings (below : Reading (List Leaving)) (cursor : Cursor) : Script → List Leaving
  | .skip => []
  | .seq first second => first.leavings below cursor ++ second.leavings below cursor
  | .visit => below.visit cursor
  | .denote recording => below.denote cursor recording
  | .bind name => [.bound name]
  | .under child inner => inner.leavings below (cursor.down child)
  | .block inner => (inner.leavings below cursor).filter Leaving.isClass
  | .member inner => (inner.leavings below cursor).map Leaving.inMember
  | .body naming _ => [.entered false naming]

/-- What a walk with the given number of levels left leaves behind. -/
def leavings (env : Env) : Nat → Reading (List Leaving)
  | 0 => { visit := fun _ => [], denote := fun _ _ => [] }
  | room + 1 =>
    { visit := fun cursor => (visitScript env cursor).leavings (leavings env room) cursor
      denote := fun cursor recording =>
        (denoteScript cursor recording).leavings (leavings env room) cursor }

/-- The names among leavings that are bound. -/
def boundIn (env : Env) (leavings : List Leaving) : List String :=
  leavings.filterMap fun
    | .bound name => some (env.text name)
    | .entered _ _ => none

/-- The names of the classes among leavings, with whether they are local. -/
def namedIn (env : Env) (leavings : List Leaving) : List (Bool × String) :=
  leavings.filterMap fun
    | .entered isLocal (.declared name) => some (isLocal, env.text name)
    | _ => none

/-! ## What leavings do to a scope -/

/-- The path of a class, or that of a class inside of it. -/
def Under (path other : String) : Prop :=
  other = path ∨ ∃ rest, other = path ++ "$" ++ rest

/-- The path of a class that is entered, inside of a member or not. -/
def Naming.pathIn (env : Env) (isLocal : Bool) (scope : Scope) (naming : Naming) : String :=
  naming.path env (scope.within isLocal)

/-- The scope behind a class, with the classes that have been left by then. -/
def Naming.left (env : Env) (path : String) (finished : Bindings SourceType) (naming : Naming)
    (scope : Scope) : Scope :=
  { naming.note env path scope with finished }

/-- The classes that have been left grow by the one at a path and those inside of it. -/
structure Grows (path : String) (before after : Bindings SourceType) : Prop where
  kept : ∀ other, (before.find? other).isSome → (after.find? other).isSome
  itself : (after.find? path).isSome
  new : ∀ other, (after.find? other).isSome → (before.find? other).isSome ∨ Under path other

/-- What becomes of a scope by leavings, one after another. A walk that is given up misses some. -/
inductive Leaves (env : Env) : List Leaving → Scope → Scope → Prop
  | nil {scope : Scope} : Leaves env [] scope scope
  | missed {leaving : Leaving} {leavings : List Leaving} {first last : Scope}
      (rest : Leaves env leavings first last) : Leaves env (leaving :: leavings) first last
  | bound {name : Node} {leavings : List Leaving} {first last : Scope} (type : Option JavaType)
      (rest : Leaves env leavings (first.declare (env.text name) type) last) :
      Leaves env (.bound name :: leavings) first last
  | entered {isLocal : Bool} {naming : Naming} {leavings : List Leaving} {first last : Scope}
      {finished : Bindings SourceType}
      (grows : Grows (naming.pathIn env isLocal first) first.finished finished)
      (rest : Leaves env leavings
        (naming.left env (naming.pathIn env isLocal first) finished first) last) :
      Leaves env (.entered isLocal naming :: leavings) first last

variable {env : Env}

/-- A path under one that is under a third is under the third. -/
theorem Under.trans {path middle other : String} (below : Under path middle)
    (below' : Under middle other) : Under path other := by
  obtain rfl | ⟨rest, rfl⟩ := below
  · exact below'
  · obtain rfl | ⟨rest', rfl⟩ := below'
    · exact .inr ⟨rest, rfl⟩
    · exact .inr ⟨rest ++ "$" ++ rest', by simp only [String.append_assoc]⟩

/-- The path of a class hangs on no more than how the innermost frame stands. -/
theorem Naming.path_congr {first second : Scope} (same : first.standing = second.standing)
    (naming : Naming) : naming.path env first = naming.path env second := by
  obtain ⟨frames, outer, finished⟩ := first
  obtain ⟨frames', outer', finished'⟩ := second
  cases frames with
  | nil =>
    cases frames' with
    | nil => cases naming <;> rfl
    | cons frame' frames' => cases same
  | cons frame frames =>
    cases frames' with
    | nil => cases same
    | cons frame' frames' =>
      simp only [Scope.standing, Scope.frame?, List.head?_cons, Option.map_some, Option.some.injEq,
        Prod.mk.injEq] at same
      obtain ⟨path, method, anonymous⟩ := same
      cases naming with
      | declared name =>
        simp only [Naming.path, declaredPath, Scope.frame?, List.head?_cons, path, method]
      | anonymous =>
        simp only [Naming.path, Scope.anonymousPath, Scope.frame?, List.head?_cons, path, anonymous]

/-- The path of a class is decided by where the scope stands that it is met in. -/
theorem Naming.pathIn_congr {first second : Scope} {isLocal isLocal' : Bool}
    (same : (first.within isLocal).standing = (second.within isLocal').standing) (naming : Naming) :
    naming.pathIn env isLocal first = naming.pathIn env isLocal' second :=
  naming.path_congr same

/-- The path of a class lies under that of the class around it. -/
theorem Naming.path_under {scope : Scope} {frame : Frame} {frames : List Frame}
    (inside : scope.frames = frame :: frames) (naming : Naming) :
    Under frame.path (naming.path env scope) := by
  have innermost : scope.frame? = some frame := by
    rw [Scope.frame?, inside]
    rfl
  cases naming with
  | declared name =>
    simp only [Naming.path, declaredPath, innermost]
    split
    · exact .inr ⟨"1" ++ env.text name, by rw [String.append_assoc, String.append_assoc]; rfl⟩
    · exact .inr ⟨env.text name, rfl⟩
  | anonymous =>
    simp only [Naming.path, Scope.anonymousPath, innermost]
    exact .inr ⟨_, rfl⟩

/-- A class that is met inside another has a path under that of the other. -/
theorem Naming.pathIn_under {scope : Scope} {frame : Frame} {frames : List Frame}
    (inside : scope.frames = frame :: frames) (isLocal : Bool) (naming : Naming) :
    Under frame.path (naming.pathIn env isLocal scope) := by
  unfold Naming.pathIn
  cases isLocal with
  | false => exact naming.path_under inside
  | true =>
    have inside' : (scope.within true).frames =
        { frame with method := some instanceInit } :: frames := by
      simp only [Scope.within, if_true, Scope.setMethod, Scope.modifyFrame, inside]
    exact naming.path_under inside'

/-- Naming or counting a class leaves the frame that of the class around it. -/
theorem Naming.mark_sameClass (path : String) (naming : Naming) (frame : Frame) :
    frame.SameClass (naming.mark env path frame) := by
  cases naming <;> exact ⟨rfl, rfl, rfl⟩

/-- A class stays behind the block that it was met in. -/
theorem Naming.left_popBlock (path : String) (finished : Bindings SourceType) (naming : Naming)
    (scope : Scope) :
    (naming.left env path finished scope).popBlock = naming.left env path finished scope.popBlock := by
  obtain ⟨frames, outer, before⟩ := scope
  cases naming <;> cases frames <;> rfl

/-- A class stays behind the method that it was met in. -/
theorem Naming.left_setMethod (path : String) (finished : Bindings SourceType) (naming : Naming)
    (scope : Scope) (method : Option String) :
    (naming.left env path finished scope).setMethod method =
      naming.left env path finished (scope.setMethod method) := by
  obtain ⟨frames, outer, before⟩ := scope
  cases naming <;> cases frames <;> rfl

namespace Leaves

variable {leavings others : List Leaving} {first middle last : Scope}

/-- Where nothing happens anything may have been left. -/
theorem idle (leavings : List Leaving) (scope : Scope) : Leaves env leavings scope scope := by
  induction leavings with
  | nil => exact .nil
  | cons leaving leavings ih => exact .missed ih

/-- **What two parts leave** is left by both together, with what the first part leaves in front. -/
theorem trans (leaves : Leaves env leavings first middle) (rest : Leaves env others middle last) :
    Leaves env (leavings ++ others) first last := by
  induction leaves with
  | nil => exact rest
  | missed _ ih => exact .missed (ih rest)
  | bound type _ ih => exact .bound type (ih rest)
  | entered grows _ ih => exact .entered grows (ih rest)

/-- A block that is closed takes its variables with it. -/
theorem closed (leaves : Leaves env leavings first last) (opened : first.innermostBlocks ≠ []) :
    Leaves env (leavings.filter Leaving.isClass) first.popBlock last.popBlock := by
  induction leaves with
  | nil => exact .nil
  | @missed leaving leavings first last _ ih =>
    cases leaving with
    | bound name => exact ih opened
    | entered isLocal naming => exact .missed (ih opened)
  | @bound name leavings first last type _ ih =>
    obtain ⟨frames, outer, finished⟩ := first
    cases frames with
    | nil =>
      cases outer with
      | nil => exact absurd rfl opened
      | cons block outer => exact ih (List.cons_ne_nil _ _)
    | cons frame frames =>
      obtain ⟨path, members, nested, blocks, method, anonymous⟩ := frame
      cases blocks with
      | nil => exact absurd rfl opened
      | cons block blocks => exact ih (List.cons_ne_nil _ _)
  | @entered isLocal naming leavings first last finished grows _ ih =>
    have samePath : naming.pathIn env isLocal first.popBlock = naming.pathIn env isLocal first :=
      naming.pathIn_congr (Scope.standing_modifyBlocks first List.tail isLocal)
    rw [Naming.left_popBlock, ← samePath] at ih
    refine .entered ?_ (ih ?_)
    · rw [samePath]
      obtain ⟨frames, outer, before⟩ := first
      cases frames <;> exact grows
    · obtain ⟨frames, outer, before⟩ := first
      cases naming <;> cases frames <;> exact opened

/-- A block takes its locals with it and leaves its classes. -/
theorem inBlock (leaves : Leaves env leavings first.pushBlock last) :
    Leaves env (leavings.filter Leaving.isClass) first last.popBlock := by
  obtain ⟨frames, outer, finished⟩ := first
  cases frames with
  | nil => exact leaves.closed (List.cons_ne_nil _ _)
  | cons frame frames => exact leaves.closed (List.cons_ne_nil _ _)

/-- Behind a member the classes inside of it stay as local ones. -/
theorem restored (leaves : Leaves env leavings first last) (inMember : first.inMember = true)
    (method : Option String) :
    Leaves env (leavings.map Leaving.inMember) (first.setMethod method) (last.setMethod method) := by
  induction leaves with
  | nil => exact .nil
  | missed _ ih => exact .missed (ih inMember)
  | @bound name leavings first last type _ ih =>
    refine .bound type ?_
    obtain ⟨frames, outer, finished⟩ := first
    cases frames with
    | nil => exact ih inMember
    | cons frame frames => exact ih inMember
  | @entered isLocal naming leavings first last finished grows _ ih =>
    have samePath : naming.pathIn env true (first.setMethod method) = naming.pathIn env isLocal first :=
      naming.pathIn_congr (Scope.standing_inMember inMember isLocal method)
    rw [Naming.left_setMethod, ← samePath] at ih
    refine .entered ?_ (ih ?_)
    · rw [samePath]
      obtain ⟨frames, outer, before⟩ := first
      cases frames <;> exact grows
    · obtain ⟨frames, outer, before⟩ := first
      cases naming <;> cases frames <;> exact inMember

theorem inMember {method : String} (leaves : Leaves env leavings (first.setMethod (some method)) last) :
    Leaves env (leavings.map Leaving.inMember) first (last.setMethod first.method?) := by
  obtain ⟨frames, outer, finished⟩ := first
  cases frames with
  | nil => exact leaves.restored rfl none
  | cons frame frames => exact leaves.restored rfl frame.method

/-- The frame around stays, with those around it, and what is left anew lies under its class. -/
theorem stays {frame : Frame} {frames : List Frame} (leaves : Leaves env leavings first last)
    (inside : first.frames = frame :: frames) :
    ∃ frame' : Frame, last.frames = frame' :: frames ∧ frame.SameClass frame' ∧
      last.outer = first.outer ∧ (∀ path, first.Finished path → last.Finished path) ∧
      ∀ path, last.Finished path → first.Finished path ∨ Under frame.path path := by
  induction leaves generalizing frame with
  | nil => exact ⟨frame, inside, ⟨rfl, rfl, rfl⟩, rfl, fun _ known => known, fun _ known => .inl known⟩
  | missed _ ih => exact ih inside
  | @bound name leavings first last type _ ih =>
    have inside' : (first.declare (env.text name) type).frames =
        { frame with blocks := declareIn frame.blocks (env.text name) type } :: frames := by
      simp only [Scope.declare, Scope.modifyBlocks, inside]
    obtain ⟨frame', same, sameClass, outer, kept, new⟩ := ih inside'
    have sameOuter : (first.declare (env.text name) type).outer = first.outer := by
      simp only [Scope.declare, Scope.modifyBlocks, inside]
    have sameFinished : (first.declare (env.text name) type).finished = first.finished := by
      simp only [Scope.declare, Scope.modifyBlocks, inside]
    unfold Scope.Finished at kept new ⊢
    rw [sameFinished] at kept new
    exact ⟨frame', same, ⟨sameClass.path, sameClass.method, sameClass.members⟩, outer.trans sameOuter,
      kept, new⟩
  | @entered isLocal naming leavings first last finished grows _ ih =>
    obtain ⟨frames', outer, before⟩ := first
    cases inside
    obtain ⟨frame', same, sameClass, sameOuter, kept, new⟩ := ih rfl
    have marked (path : String) : frame.SameClass (naming.mark env path frame) :=
      naming.mark_sameClass path frame
    have under : Under frame.path (naming.pathIn env isLocal ⟨frame :: frames, outer, before⟩) :=
      naming.pathIn_under rfl isLocal
    refine ⟨frame', same, (marked _).trans sameClass, sameOuter, ?_, ?_⟩
    · exact fun path known => kept path (grows.kept path known)
    · intro path known
      obtain earlier | below := new path known
      · exact (grows.new path earlier).imp_right under.trans
      · rw [(marked _).path] at below
        exact .inr below

/-- Of a class body that is left, the class stays in the scope around it. -/
theorem inBody {frame : Frame} {naming : Naming} (isPath : frame.path = naming.path env first)
    (leaves : Leaves env leavings (naming.opened env frame first) last) :
    Leaves env [.entered false naming] first last.popFrame := by
  obtain ⟨frame', same, sameClass, outer, kept, new⟩ := leaves.stays rfl
  have left : last.popFrame = naming.left env frame.path
      (last.finished.insert frame.path frame'.members) first := by
    obtain ⟨frames', outer', finished'⟩ := last
    cases same
    cases outer
    simp only [Scope.popFrame, Naming.left, sameClass.path]
  have before : (naming.opened env frame first).finished = first.finished := by
    obtain ⟨frames, outer, finished⟩ := first
    cases naming <;> cases frames <;> rfl
  have isPathIn : naming.pathIn env false first = frame.path := isPath.symm
  unfold Scope.Finished at kept new
  rw [before] at kept new
  rw [left, ← isPathIn]
  refine .entered ⟨?_, ?_, ?_⟩ .nil
  · intro other known
    rw [Bindings.find?_insert]
    split
    · rfl
    · exact kept other known
  · rw [Bindings.find?_insert, if_pos rfl]
    rfl
  · intro other known
    rw [Bindings.find?_insert] at known
    split at known
    · rename_i same
      exact .inr (.inl same.symm)
    · rw [isPathIn]
      exact new other known

end Leaves

/-! ## What walks leave behind -/

/-- A walker leaves nothing but what is read off the tree. -/
structure LeavesOnly (env : Env) (walker : Walker) (below : Reading (List Leaving)) : Prop where
  visit : ∀ cursor state, Leaves env (below.visit cursor) state.scope (walker.visit cursor state).scope
  denote : ∀ cursor recording state,
    Leaves env (below.denote cursor recording) state.scope (walker.denote cursor recording state).2.scope

/-- **A script leaves its leavings.** By induction on what it does: what is opened is closed again. -/
theorem Does.leaves {walker : Walker} {below : Reading (List Leaving)} {cursor : Cursor} {script : Script}
    {first last : State} (does : Does env walker cursor script first last)
    (only : LeavesOnly env walker below) :
    Leaves env (script.leavings below cursor) first.scope last.scope := by
  induction does with
  | skip => exact .nil
  | seq _ _ ih ih' => exact ih.trans ih'
  | visit => exact only.visit _ _
  | denote recording => exact only.denote _ recording _
  | bind type => exact .bound type .nil
  | under _ ih => exact ih
  | block _ ih => exact ih.inBlock
  | member _ ih => exact ih.inMember
  | body named _ _ ih => exact ih.inBody named
  | behind quiet _ ih => exact quiet.scope ▸ ih
  | followed _ quiet ih =>
    rw [quiet.scope]
    exact ih

/-- Giving up leaves the scope as it is. -/
theorem giveUpAt_scope (env : Env) (node : Node) (state : State) :
    (state.giveUpAt env node).scope = state.scope := by
  unfold State.giveUpAt
  split <;> rfl

/-- **A walk leaves its leavings**, by induction on the levels left. -/
theorem walker_leaves (env : Env) (room : Nat) : LeavesOnly env (walker env room) (leavings env room) := by
  induction room with
  | zero =>
    constructor
    case visit =>
      intro cursor state
      show Leaves env [] state.scope (state.giveUpAt env cursor.node).scope
      rw [giveUpAt_scope]
      exact .nil
    case denote =>
      intro cursor recording state
      show Leaves env [] state.scope (state.giveUpAt env cursor.node).scope
      rw [giveUpAt_scope]
      exact .nil
  | succ room ih =>
    constructor
    case visit =>
      intro cursor state
      simp only [walker, atLevel_eq]
      split
      · exact .idle _ _
      · exact (visitNode_does env (walker env room) cursor state).leaves ih
    case denote =>
      intro cursor recording state
      simp only [walker, atLevel_eq]
      split
      · exact .idle _ _
      · exact (denoteNode_does env (walker env room) cursor recording state).leaves ih

/-- A list of nodes leaves what each of them does. -/
theorem LeavesOnly.visitAll {walker : Walker} {below : Reading (List Leaving)}
    (only : LeavesOnly env walker below) (cursors : List Cursor) (state : State) :
    Leaves env (cursors.flatMap below.visit) state.scope (walker.visitAll cursors state).scope := by
  unfold Walker.visitAll
  induction cursors generalizing state with
  | nil => exact .nil
  | cons cursor cursors ih =>
    rw [List.flatMap_cons, List.foldl_cons]
    exact (only.visit cursor state).trans (ih _)

/-! ## Variables -/

/-- Variables are declared in the innermost of some blocks, one after another. -/
def declareAll (blocks : List Block) (added : List (String × Option JavaType)) : List Block :=
  added.foldl (fun blocks one => declareIn blocks one.1 one.2) blocks

/-- A local hides no other name. -/
theorem inBlocks_declareIn {name other : String} (differs : other ≠ name) (blocks : List Block)
    (type : Option JavaType) :
    Scope.inBlocks name (declareIn blocks other type) = Scope.inBlocks name blocks := by
  have same (block : Block) : (block.insert other type).find? name = block.find? name := by
    rw [Bindings.find?_insert, if_neg differs]
  unfold Scope.inBlocks
  cases blocks with
  | nil =>
    rw [declareIn, List.findSome?_cons, same]
    rfl
  | cons block below =>
    rw [declareIn, List.findSome?_cons, List.findSome?_cons, same]

/-- A name stands for what it stood for unless it is declared. -/
theorem inBlocks_declareAll {name : String} {added : List (String × Option JavaType)}
    (absent : name ∉ added.map Prod.fst) (blocks : List Block) :
    Scope.inBlocks name (declareAll blocks added) = Scope.inBlocks name blocks := by
  induction added generalizing blocks with
  | nil => rfl
  | cons one added ih =>
    rw [List.map_cons, List.mem_cons, not_or] at absent
    have rest := ih absent.2 (declareIn blocks one.1 one.2)
    exact rest.trans (inBlocks_declareIn (Ne.symm absent.1) blocks one.2)

/-- A local goes into the innermost block. -/
theorem innermostBlocks_declare (scope : Scope) (name : String) (type : Option JavaType) :
    (scope.declare name type).innermostBlocks = declareIn scope.innermostBlocks name type := by
  obtain ⟨frames, outer, finished⟩ := scope
  cases frames <;> rfl

/-- A class that is left declares no local. -/
theorem innermostBlocks_left (path : String) (finished : Bindings SourceType) (naming : Naming)
    (scope : Scope) : (naming.left env path finished scope).innermostBlocks = scope.innermostBlocks := by
  obtain ⟨frames, outer, before⟩ := scope
  cases frames with
  | nil => rfl
  | cons frame frames => cases naming <;> rfl

section Variables

variable {left : List Leaving} {first last : Scope}

/-- Of the added at most those of the leavings are declared. -/
theorem Leaves.blocks (leaves : Leaves env left first last) :
    ∃ added, (added.map Prod.fst).Sublist (boundIn env left) ∧
      last.innermostBlocks = declareAll first.innermostBlocks added := by
  induction leaves with
  | nil => exact ⟨[], List.Sublist.refl _, rfl⟩
  | @missed leaving left first last _ ih =>
    obtain ⟨added, listed, same⟩ := ih
    refine ⟨added, ?_, same⟩
    cases leaving with
    | bound name => exact listed.trans (List.sublist_cons_self _ _)
    | entered isLocal naming => exact listed
  | @bound name left first last type _ ih =>
    obtain ⟨added, listed, same⟩ := ih
    refine ⟨(env.text name, type) :: added, listed.cons_cons _, ?_⟩
    rw [same, innermostBlocks_declare]
    rfl
  | entered grows _ ih =>
    obtain ⟨added, listed, same⟩ := ih
    rw [innermostBlocks_left] at same
    exact ⟨added, listed, same⟩

/-- **A name that is not bound** stands for the same local behind what was left. -/
theorem Leaves.inBlocks (leaves : Leaves env left first last) {name : String}
    (unbound : name ∉ boundIn env left) :
    Scope.inBlocks name last.innermostBlocks = Scope.inBlocks name first.innermostBlocks := by
  obtain ⟨added, listed, same⟩ := leaves.blocks
  rw [same]
  exact inBlocks_declareAll (fun member => unbound (listed.subset member)) _

/-- Where no name is bound the locals are what they were. -/
theorem Leaves.blocks_eq (leaves : Leaves env left first last) (unbound : boundIn env left = []) :
    last.innermostBlocks = first.innermostBlocks := by
  obtain ⟨added, listed, same⟩ := leaves.blocks
  rw [unbound, List.sublist_nil, List.map_eq_nil_iff] at listed
  rw [same, listed]
  rfl

end Variables

/-! ## Named classes -/

theorem declaredPath_within {scope : Scope} {frame : Frame} {frames : List Frame}
    (inside : scope.frames = frame :: frames) (isLocal : Bool) (name : String) :
    declaredPath env (scope.within isLocal) name = frame.classPath isLocal name := by
  obtain ⟨_, outer, finished⟩ := scope
  cases inside
  cases isLocal <;> rfl

theorem classPath_mark (path : String) (naming : Naming) (frame : Frame) (isLocal : Bool)
    (name : String) : (naming.mark env path frame).classPath isLocal name = frame.classPath isLocal name := by
  cases naming <;> rfl

/-- A name in a frame changes only to a class of that name among the leavings. -/
theorem Leaves.nested {left : List Leaving} {first last : Scope} {frame frame' : Frame}
    {frames frames' : List Frame} (leaves : Leaves env left first last)
    (inside : first.frames = frame :: frames) (inside' : last.frames = frame' :: frames')
    (name : String) :
    frame'.nested.find? name = frame.nested.find? name ∨ ∃ isLocal, (isLocal, name) ∈ namedIn env left ∧
      frame'.nested.find? name = some (frame.classPath isLocal name) := by
  induction leaves generalizing frame with
  | nil =>
    rw [inside] at inside'
    cases inside'
    exact .inl rfl
  | @missed leaving left first last _ ih =>
    refine (ih inside inside').imp_right fun ⟨isLocal, member, same⟩ => ⟨isLocal, ?_, same⟩
    obtain ⟨leaving', listed, found⟩ := List.mem_filterMap.mp member
    exact List.mem_filterMap.mpr ⟨leaving', List.mem_cons_of_mem _ listed, found⟩
  | @bound bound left first last type _ ih =>
    have declared : (first.declare (env.text bound) type).frames =
        { frame with blocks := declareIn frame.blocks (env.text bound) type } :: frames := by
      simp only [Scope.declare, Scope.modifyBlocks, inside]
    have found := ih declared inside'
    exact found
  | @entered isLocal naming left first last finished grows _ ih =>
    obtain ⟨_, outer, before⟩ := first
    cases inside
    obtain same | ⟨isLocal', member, same⟩ := ih rfl inside'
    · cases naming with
      | anonymous => exact .inl same
      | declared node =>
        by_cases named : env.text node = name
        · refine .inr ⟨isLocal, ?_, ?_⟩
          · exact List.mem_cons.mpr (.inl (by rw [named]))
          · rw [same, Naming.mark, Bindings.find?_insert, if_pos named]
            exact congrArg some (named ▸ declaredPath_within rfl isLocal (env.text node))
        · rw [Naming.mark, Bindings.find?_insert, if_neg named] at same
          exact .inl same
    · rw [classPath_mark] at same
      refine .inr ⟨isLocal', ?_, same⟩
      obtain ⟨leaving', listed, found⟩ := List.mem_filterMap.mp member
      exact List.mem_filterMap.mpr ⟨leaving', List.mem_cons_of_mem _ listed, found⟩

/-- A name keeps the member class that it stands for, if only member classes are left under it. -/
theorem Leaves.nested_of_member {left : List Leaving} {first last : Scope} {frame frame' : Frame}
    {frames frames' : List Frame} (leaves : Leaves env left first last)
    (inside : first.frames = frame :: frames) (inside' : last.frames = frame' :: frames')
    (bare : frame.method = none) {name : String}
    (members : ∀ isLocal, (isLocal, name) ∈ namedIn env left →
      isLocal = false ∧ frame.nested.find? name = some (frame.path ++ "$" ++ name)) :
    frame'.nested.find? name = frame.nested.find? name := by
  obtain unchanged | ⟨isLocal, listed, changed⟩ := leaves.nested inside inside' name
  · exact unchanged
  · obtain ⟨rfl, isMember⟩ := members isLocal listed
    rw [changed, isMember, Frame.classPath, bare]
    rfl

/-! ## What a member leaves -/

/-- Two parts bind the names of both. -/
theorem boundIn_append (first second : List Leaving) :
    boundIn env (first ++ second) = boundIn env first ++ boundIn env second :=
  List.filterMap_append

theorem namedIn_append (first second : List Leaving) :
    namedIn env (first ++ second) = namedIn env first ++ namedIn env second :=
  List.filterMap_append

/-- A block leaves no variable. -/
theorem boundIn_isClass (left : List Leaving) : boundIn env (left.filter Leaving.isClass) = [] := by
  unfold boundIn
  rw [List.filterMap_eq_nil_iff]
  intro leaving member
  cases leaving with
  | bound name => cases (List.mem_filter.mp member).2
  | entered isLocal naming => rfl

/-- Leaving a member changes nothing about the names that are bound. -/
theorem boundIn_inMember (left : List Leaving) :
    boundIn env (left.map Leaving.inMember) = boundIn env left := by
  unfold boundIn
  rw [List.filterMap_map]
  congr 1
  funext leaving
  cases leaving <;> rfl

/-- A node whose variables all stand in blocks of their own: a class, a method or a constructor, a block,
or a static initialiser of one. -/
def Walled (node : Node) : Prop :=
  Construct.ofKind node.kind ∈ [.skipped, .type, .method, .compactConstructor, .block] ∨
    Construct.ofKind node.kind = .staticInitializer ∧
      ∀ child ∈ node.named, Construct.ofKind child.kind ∈ [.skipped, .block]

/-- The method script binds its names in a block. -/
theorem methodScript_unbound (names : List Node) (node : Node) (below : Reading (List Leaving))
    (cursor : Cursor) : boundIn env ((methodScript names node).leavings below cursor) = [] := by
  unfold methodScript
  cases node.child? "name" with
  | none => rfl
  | some name =>
    simp only [Script.leavings]
    rw [boundIn_inMember, boundIn_isClass]

theorem boundIn_visitEach (below : Reading (List Leaving)) (cursor : Cursor) {nodes : List Node}
    (unbound : ∀ node ∈ nodes, boundIn env (below.visit (cursor.down node)) = []) :
    boundIn env ((visitEach nodes).leavings below cursor) = [] := by
  unfold visitEach
  induction nodes with
  | nil => rfl
  | cons node nodes ih =>
    simp only [Script.each, Script.leavings]
    rw [boundIn_append, unbound node List.mem_cons_self, List.nil_append]
    exact ih fun other member => unbound other (List.mem_cons_of_mem _ member)

/-- A walled node leaves no variable. -/
theorem Walled.unbound {cursor : Cursor} (walled : Walled cursor.node) (room : Nat) :
    boundIn env ((leavings env room).visit cursor) = [] := by
  induction room generalizing cursor with
  | zero => rfl
  | succ room ih =>
    have isKind : Construct.ofKind cursor.kind = Construct.ofKind cursor.node.kind := rfl
    simp only [leavings, visitScript, isKind]
    obtain listed | ⟨isStatic, blocks⟩ := walled
    · simp only [List.mem_cons, List.not_mem_nil, or_false] at listed
      rcases listed with found | found | found | found | found <;> simp only [found]
      · rfl
      · cases cursor.node.child? "name" <;> rfl
      · exact methodScript_unbound ..
      · exact methodScript_unbound ..
      · split <;> simp only [Script.leavings, boundIn_inMember, boundIn_isClass]
    · simp only [isStatic, Script.leavings, boundIn_inMember]
      apply boundIn_visitEach
      intro child member
      refine ih (.inl ?_)
      have kinds := blocks child member
      simp only [List.mem_cons, List.not_mem_nil, or_false] at kinds
      rcases kinds with found | found <;> simp [Cursor.down, found]

/-- **What a member leaves for those behind it.** Take a class body that has been entered in any state, with
any nodes of it visited before. Behind a member the innermost frame is still that of the body, with the
same class, and all around it is as before. At most the names are declared in its blocks that the member
binds outside of blocks and classes; a walled member has none, so there the blocks are the same. A name of a
class stands for what it did, unless the member or one before it declares a class of that name that is no
member of the body. -/
theorem visit_keeps_siblings_apart (env : Env) (room : Nat) (declaration : Option Node) (path : String)
    (body : Cursor) (hint : Option String) (state : State) (before : List Cursor) (member : Cursor) :
    let entered := openBody env declaration path (some body.node) hint state
    let opened := fileComponents env (componentsOf env entered.scope declaration) entered
    let first := (walker env room).visitAll before opened
    let last := (walker env room).visit member first
    let earlier := before.flatMap (leavings env room).visit
    let left := (leavings env room).visit member
    ∃ frame frame' : Frame, first.scope.frames = frame :: state.scope.frames ∧
      last.scope.frames = frame' :: state.scope.frames ∧ frame.SameClass frame' ∧
      last.scope.outer = first.scope.outer ∧
      (∃ added, (added.map Prod.fst).Sublist (boundIn env left) ∧
        frame'.blocks = declareAll frame.blocks added) ∧
      (Walled member.node → frame'.blocks = frame.blocks) ∧
      ∀ name, (∀ isLocal, (isLocal, name) ∈ namedIn env (earlier ++ left) →
          isLocal = false ∧ name ∈ memberClasses env (bodyMembers body.node)) →
        frame'.nested.find? name = frame.nested.find? name := by
  intro entered opened first last earlier left
  obtain ⟨bodyFrame, isPath, bare, names, same⟩ :=
    openBody_bare env declaration path (some body.node) hint state
  have inside : opened.scope.frames = bodyFrame :: state.scope.frames := by
    have quiet : Quiet entered opened := Quiet.fileComponents _ entered
    have isOpened : entered = _ := same
    rw [quiet.scope, isOpened]
    rfl
  have walked : Leaves env earlier opened.scope first.scope := (walker_leaves env room).visitAll before opened
  obtain ⟨frame, inFrame, sameClass, -⟩ := walked.stays inside
  have visited : Leaves env left first.scope last.scope := (walker_leaves env room).visit member first
  obtain ⟨frame', inFrame', sameClass', outer, -⟩ := visited.stays inFrame
  have blocksOf {scope : Scope} {frame : Frame} (inside : scope.frames = frame :: state.scope.frames) :
      scope.innermostBlocks = frame.blocks := by
    rw [Scope.innermostBlocks, inside]
  refine ⟨frame, frame', inFrame, inFrame', sameClass', outer, ?_, ?_, ?_⟩
  · have blocks := visited.blocks
    rwa [blocksOf inFrame, blocksOf inFrame'] at blocks
  · intro walled
    have blocks := visited.blocks_eq (walled.unbound room)
    rwa [blocksOf inFrame, blocksOf inFrame'] at blocks
  · intro name members
    -- A member class has its name from the start, and visiting it gives it the same one.
    have isMember (isLocal : Bool) (listed : (isLocal, name) ∈ namedIn env (earlier ++ left)) :
        isLocal = false ∧ bodyFrame.nested.find? name = some (bodyFrame.path ++ "$" ++ name) := by
      obtain ⟨isFalse, isClass⟩ := members isLocal listed
      rw [isPath]
      exact ⟨isFalse, names name isClass⟩
    rw [namedIn_append] at isMember
    have unchanged : frame.nested.find? name = bodyFrame.nested.find? name :=
      walked.nested_of_member inside inFrame bare.method fun isLocal declared =>
        isMember isLocal (List.mem_append_left _ declared)
    refine visited.nested_of_member inFrame inFrame' (sameClass.method.trans bare.method)
      fun isLocal declared => ?_
    rw [unchanged, sameClass.path]
    exact isMember isLocal (List.mem_append_right _ declared)

/-- The field `B s;` at byte 10. -/
def plainField : Node :=
  .word "field_declaration" none 10 14 [
    .word "type_identifier" (some "type") 10 11 [],
    .word "variable_declarator" (some "declarator") 12 13 [
      .word "identifier" (some "name") 12 13 []],
    .token ";" 13 14]

/-- The field `boolean b = s instanceof C s;` behind it. -/
def patternField : Node :=
  .word "field_declaration" none 15 44 [
    .word "boolean_type" (some "type") 15 22 [],
    .word "variable_declarator" (some "declarator") 23 43 [
      .word "identifier" (some "name") 23 24 [],
      .token "=" 25 26,
      .word "instanceof_expression" (some "value") 27 43 [
        .word "identifier" (some "left") 27 28 [],
        .token "instanceof" 29 39,
        .word "type_identifier" (some "right") 40 41 [],
        .word "identifier" (some "name") 42 43 []]],
    .token ";" 43 44]

/-- The method `void m() { s.run(); }` behind both. -/
def runningMethod : Node :=
  .word "method_declaration" none 45 66 [
    .word "void_type" (some "type") 45 49 [],
    .word "identifier" (some "name") 50 51 [],
    .word "formal_parameters" (some "parameters") 51 53 [.token "(" 51 52, .token ")" 52 53],
    .word "block" (some "body") 54 66 [
      .token "\x7b" 54 55,
      .word "expression_statement" none 56 64 [
        .word "method_invocation" none 56 63 [
          .word "identifier" (some "object") 56 57 [],
          .token "." 57 58,
          .word "identifier" (some "name") 58 61 [],
          .word "argument_list" (some "arguments") 61 63 [.token "(" 61 62, .token ")" 62 63]],
        .token ";" 63 64],
      .token "\x7d" 65 66]]

def patternBody : Node :=
  .word "class_body" (some "body") 8 68
    [.token "\x7b" 8 9, plainField, patternField, runningMethod, .token "\x7d" 67 68]

def patternClass : Node :=
  .word "class_declaration" none 0 68
    [.token "class" 0 5, .word "identifier" (some "name") 6 7 [], patternBody]

def patternTree : Node :=
  .word "program" none 0 68 [patternClass]

/-- The root class and two classes that have a method `run`. -/
def runningClasses : Classpath :=
  ⟨[.ofDecls "map" [⟨"B", some rootClass, [], [], [⟨"run", .primitive .void⟩], true⟩,
    ⟨"C", some rootClass, [], [], [⟨"run", .primitive .void⟩], true⟩, ⟨rootClass, none, [], [], [], true⟩]]⟩

def patternEnv : Env :=
  Env.ofTree (.ofText "class A \x7b B s; boolean b = s instanceof C s; void m() \x7b s.run(); \x7d \x7d")
    patternTree runningClasses

/-- Behind a field whose value has a pattern, the name of the pattern stands for it in every later member:
in front of the field `s` is the field of type `B`, behind it the pattern of type `C`, and the call of the
method below is taken to `C`. -/
theorem pattern_stays_behind_field :
    let env := patternEnv
    let body := ((Cursor.root patternTree).down patternClass).down patternBody
    let entered := openBody env (some patternClass) "A" (some patternBody) none {}
    let first := (walker env Tree.maxNesting).visitAll [body.down plainField] entered
    let last := (walker env Tree.maxNesting).visit (body.down patternField) first
    first.scope.frames.map (·.blocks.length) = [0] ∧ last.scope.frames.map (·.blocks.length) = [1] ∧
      first.scope.lookup "s" (inheritedField env first.scope) = some (.field "A" (some (.reference "B"))) ∧
      last.scope.lookup "s" (inheritedField env last.scope) = some (.declared (some (.reference "C"))) ∧
      .reference "run" .method "C" "A" ⟨58, 61, 1, 59, 1, 62⟩ ∈ (walk env patternTree).records := by
  decide +kernel

end Walk

end SymbolIndex
