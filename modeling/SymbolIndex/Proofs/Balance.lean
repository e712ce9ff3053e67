import Mathlib.Data.List.Forall2
import SymbolIndex.Proofs.Run.Walker

/-!
# A walk leaves the scope as it found it

Whatever a walk opens below a node it closes again. `Balanced` says what is left of a visit in the scope:
the same frames, and the same blocks but for what was declared in the innermost one. A variable that is
declared where no block is open opens one, and it stays. The classes whose bodies have been left only
become more.

`Balanced` looks at all open blocks as one stack. The induction is on `Kept`, which says the same frame by
frame: only the innermost frame, or what is open below all frames, may change at all. Each pair of opening
and closing is one lemma (`Kept.inBlock`, `Kept.inMethod`, `Kept.inType`), and `Run.kept` puts them
together. That a walk has been given up is no exception: what was opened is closed all the same.
-/

namespace SymbolIndex

namespace Scope

/-- All open blocks, the innermost first. -/
def blocks (scope : Scope) : List Block :=
  scope.frames.flatMap (·.blocks) ++ scope.outer

/-- The open blocks of the innermost frame, or those outside of every frame. -/
def innermostBlocks (scope : Scope) : List Block :=
  match scope.frames with
  | [] => scope.outer
  | frame :: _ => frame.blocks

/-- How many blocks are open outside of each of the given frames. -/
def basesOf (outer : List Block) : List Frame → List Nat
  | [] => []
  | _ :: frames => (frames.flatMap (·.blocks) ++ outer).length :: basesOf outer frames

/-- How many blocks are open outside of each frame, the innermost first. -/
def bases (scope : Scope) : List Nat :=
  basesOf scope.outer scope.frames

/-- The path belongs to a class whose body has been left. -/
def Finished (scope : Scope) (path : String) : Prop :=
  (scope.finished.find? path).isSome

end Scope

/-- Two frames of one class, in the same method and with the same members. -/
structure Frame.SameClass (first second : Frame) : Prop where
  path : second.path = first.path
  method : second.method = first.method
  members : second.members = first.members

/-- What is left of a visit in the scope. -/
structure Scope.Balanced (before after : Scope) : Prop where
  frames : List.Forall₂ Frame.SameClass before.frames after.frames
  bases : after.bases = before.bases
  outerFrames : after.frames.tail = before.frames.tail
  /-- Only the last open block of the innermost frame changes; where there is none, one may be added. -/
  blocks : if before.innermostBlocks = [] then
      ∃ added, added.length ≤ 1 ∧ after.blocks = added ++ before.blocks
    else ∃ block, after.blocks = block :: before.blocks.tail
  finished : ∀ path, before.Finished path → after.Finished path

namespace Walk

open SymbolIndex.Tree (Node Cursor)

/-! ## What is kept -/

/-- Blocks of which at most the first has changed; where there was none, one may have been added. -/
def BlocksKept : List Block → List Block → Prop
  | [], after => after.length ≤ 1
  | _ :: below, after => ∃ block, after = block :: below

/-- What is kept of the scope: all frames but the innermost, its class, and its blocks but the first. -/
inductive Kept : Scope → Scope → Prop
  | outside {outer outer' : List Block} {finished finished' : Bindings SourceType}
      (blocks : BlocksKept outer outer')
      (grows : ∀ path, (finished.find? path).isSome → (finished'.find? path).isSome) :
      Kept ⟨[], outer, finished⟩ ⟨[], outer', finished'⟩
  | inside {frame frame' : Frame} {frames : List Frame} {outer : List Block}
      {finished finished' : Bindings SourceType} (same : frame.SameClass frame')
      (blocks : BlocksKept frame.blocks frame'.blocks)
      (grows : ∀ path, (finished.find? path).isSome → (finished'.find? path).isSome) :
      Kept ⟨frame :: frames, outer, finished⟩ ⟨frame' :: frames, outer, finished'⟩

theorem BlocksKept.refl (blocks : List Block) : BlocksKept blocks blocks := by
  cases blocks with
  | nil => exact Nat.zero_le 1
  | cons block below => exact ⟨block, rfl⟩

/-- Blocks that are kept twice are kept. -/
theorem BlocksKept.trans {first second third : List Block} (kept : BlocksKept first second)
    (kept' : BlocksKept second third) : BlocksKept first third := by
  cases first with
  | nil =>
    cases second with
    | nil => exact kept'
    | cons block below =>
      obtain ⟨block', rfl⟩ := kept'
      simpa [BlocksKept] using kept
  | cons block below =>
    obtain ⟨block', rfl⟩ := kept
    exact kept'

/-- A variable is declared in the first block, or in one that is opened for it. -/
theorem BlocksKept.declareIn (blocks : List Block) (name : String) (type : Option JavaType) :
    BlocksKept blocks (declareIn blocks name type) := by
  cases blocks with
  | nil => exact Nat.le_refl 1
  | cons block below => exact ⟨_, rfl⟩

/-- Behind a block that was opened and is closed, the blocks are as before. -/
theorem BlocksKept.tail {block : Block} {blocks after : List Block}
    (kept : BlocksKept (block :: blocks) after) : after.tail = blocks := by
  obtain ⟨block', rfl⟩ := kept
  rfl

/-- A class that is known as finished stays so when another one is added. -/
theorem finished_insert (finished : Bindings SourceType) (path : String) (type : SourceType)
    (other : String) (known : (finished.find? other).isSome) :
    ((finished.insert path type).find? other).isSome := by
  by_cases same : path = other
  · simp [Bindings.find?, Bindings.insert, same]
  · simp only [Bindings.find?, Option.isSome_map, List.find?_isSome] at known ⊢
    obtain ⟨entry, member, named⟩ := known
    refine ⟨entry, ?_, named⟩
    have kept : entry.1 ≠ path := fun isPath => same (isPath.symm.trans (eq_of_beq named))
    simp [Bindings.insert, member, kept]

namespace Kept

variable {before middle after : Scope}

theorem refl (scope : Scope) : Kept scope scope := by
  obtain ⟨frames, outer, finished⟩ := scope
  cases frames with
  | nil => exact .outside (.refl outer) fun _ known => known
  | cons frame frames => exact .inside ⟨rfl, rfl, rfl⟩ (.refl _) fun _ known => known

/-- What two steps keep is kept by both. -/
theorem trans (kept : Kept before middle) (kept' : Kept middle after) : Kept before after := by
  cases kept with
  | outside blocks grows =>
    cases kept' with
    | outside blocks' grows' =>
      exact .outside (blocks.trans blocks') fun path known => grows' path (grows path known)
  | inside same blocks grows =>
    cases kept' with
    | inside same' blocks' grows' =>
      refine .inside ?_ (blocks.trans blocks') fun path known => grows' path (grows path known)
      exact ⟨same'.path.trans same.path, same'.method.trans same.method,
        same'.members.trans same.members⟩

/-- Declaring a local adds to the innermost block, and leaves the frames as they are. -/
theorem declare (scope : Scope) (name : String) (type : Option JavaType) :
    Kept scope (scope.declare name type) := by
  obtain ⟨frames, outer, finished⟩ := scope
  cases frames with
  | nil => exact .outside (.declareIn outer name type) fun _ known => known
  | cons frame frames =>
    exact .inside ⟨rfl, rfl, rfl⟩ (.declareIn frame.blocks name type) fun _ known => known

/-- A change of the innermost frame that leaves its class and its blocks alone keeps the scope. -/
theorem modifyFrame (scope : Scope) {change : Frame → Frame}
    (same : ∀ frame, frame.SameClass (change frame) ∧ (change frame).blocks = frame.blocks) :
    Kept scope (scope.modifyFrame change) := by
  obtain ⟨frames, outer, finished⟩ := scope
  cases frames with
  | nil => exact refl _
  | cons frame frames =>
    refine .inside (same frame).1 ?_ fun _ known => known
    rw [(same frame).2]
    exact .refl _

/-- A block that is opened is closed again. -/
theorem inBlock (kept : Kept before.pushBlock after) : Kept before after.popBlock := by
  obtain ⟨frames, outer, finished⟩ := before
  cases frames with
  | nil =>
    cases kept with
    | outside blocks grows =>
      refine .outside ?_ grows
      rw [blocks.tail]
      exact .refl outer
  | cons frame frames =>
    cases kept with
    | inside same blocks grows =>
      refine .inside ⟨same.path, same.method, same.members⟩ ?_ grows
      rw [blocks.tail]
      exact .refl frame.blocks

/-- A method that is set is replaced by the one before it. -/
theorem inMethod {method : Option String} (kept : Kept (before.setMethod method) after) :
    Kept before (after.setMethod before.method?) := by
  obtain ⟨frames, outer, finished⟩ := before
  cases frames with
  | nil =>
    cases kept with
    | outside blocks grows => exact .outside blocks grows
  | cons frame frames =>
    cases kept with
    | inside same blocks grows => exact .inside ⟨same.path, rfl, same.members⟩ blocks grows

/-- A frame that is opened is closed again. -/
theorem inType {frame : Frame}
    (kept : Kept { before with frames := frame :: before.frames } after) :
    Kept before after.popFrame := by
  cases kept with
  | @inside _ frame' _ _ _ finished' same blocks grows =>
    have grown := fun path known =>
      finished_insert finished' frame'.path frame'.members path (grows path known)
    obtain ⟨frames, outer, finished⟩ := before
    cases frames with
    | nil => exact .outside (.refl outer) grown
    | cons frame frames => exact .inside ⟨rfl, rfl, rfl⟩ (.refl _) grown

end Kept

/-- **A run keeps the scope.** By induction on the run: what it opens, it closes. -/
theorem Run.kept {env : Env} {sited : Prop} {mode : Mode} {place : List Node} {marks : List Mark}
    {first last : State} (run : Run env sited mode place marks first last) :
    Kept first.scope last.scope := by
  induction run with
  | refl => exact .refl _
  | trans _ _ ih ih' => exact ih.trans ih'
  | descend _ _ _ ih => exact ih
  | declaration => exact .refl _
  | reference =>
    unfold State.fileReference
    split <;> exact .refl _
  | passed => exact .refl _
  | noted => exact .refl _
  | declare => exact .declare _ _ _
  | frame nested anonymous =>
    apply Kept.modifyFrame
    intro frame
    exact ⟨⟨rfl, rfl, rfl⟩, rfl⟩
  | inBlock _ ih => exact ih.inBlock
  | inMethod _ _ ih => exact ih.inMethod
  | inType _ _ _ ih => exact ih.inType
  | limit =>
    unfold State.giveUpAt
    split <;> exact .refl _
  | spent =>
    unfold State.giveUpAt
    split <;> exact .refl _
  | stopped => exact .refl _

/-! ## The stack of blocks -/

/-- The blocks of a frame on top of others. -/
theorem BlocksKept.stack {blocks blocks' : List Block} (kept : BlocksKept blocks blocks')
    (others : List Block) :
    if blocks = [] then ∃ added, added.length ≤ 1 ∧ blocks' ++ others = added ++ (blocks ++ others)
    else ∃ block, blocks' ++ others = block :: (blocks ++ others).tail := by
  cases blocks with
  | nil => exact ⟨blocks', kept, rfl⟩
  | cons block below =>
    obtain ⟨block', rfl⟩ := kept
    exact ⟨block', rfl⟩

/-- **What keeps the scope balances it**: the frames and blocks are those from before. -/
theorem Kept.balanced {before after : Scope} (kept : Kept before after) : before.Balanced after := by
  cases kept with
  | outside blocks grows =>
    refine ⟨.nil, rfl, rfl, ?_, grows⟩
    simpa [Scope.innermostBlocks, Scope.blocks] using blocks.stack []
  | @inside frame frame' frames outer finished finished' same blocks grows =>
    have others : List.Forall₂ Frame.SameClass frames frames :=
      List.forall₂_same.mpr fun _ _ => ⟨rfl, rfl, rfl⟩
    refine ⟨.cons same others, rfl, rfl, ?_, grows⟩
    have stacked := blocks.stack (frames.flatMap (·.blocks) ++ outer)
    simpa [Scope.innermostBlocks, Scope.blocks] using stacked

/-- **The scope is balanced across a walk.** Whatever node is visited or followed as an expression, with
any number of levels left, whether recording or not, and in whatever state, one in which the walk has been
given up included: the scope behind it is that before it, up to the innermost open block, what is known of
the classes named in the innermost body, and the classes that have been left. -/
theorem walker_balanced (env : Env) (room : Nat) (cursor : Cursor) (recording : Bool) (state : State) :
    state.scope.Balanced ((walker env room).visit cursor state).scope ∧
      state.scope.Balanced ((walker env room).denote cursor recording state).2.scope := by
  have runs := walker_runs env False room
  exact ⟨(runs.visit cursor state False.elim).kept.balanced,
    (runs.denote cursor recording state False.elim).kept.balanced⟩

end Walk

end SymbolIndex
