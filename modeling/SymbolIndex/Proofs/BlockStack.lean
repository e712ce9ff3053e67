import SymbolIndex.Proofs.Balance

/-!
# One stack of blocks

A scope keeps the open blocks of a class body with the body. `BlockStack` keeps all open blocks in one stack
and remembers for each body only how many of them were open when it was entered: its base. Closing a block
or declaring a variable then has to look where the base is, leaving a body cuts the stack down to it, and a
name is looked up in the slices between the bases.

**The law** (`Scope.after_lexical`): whatever is done to a scope, in any order and without any pairing, the
two stay the same (`Scope.stacked_after`). So the bases ascend and lie inside the stack, a body that is
entered and left leaves the stack as it was, and looking through the slices finds the first match from the
innermost body outwards.

Each operation is compared once (`Scope.stacked_step`). The three that change blocks agree because all of
them leave alone what lies below the base (`Scope.stacked_modifyBlocks`).
-/

namespace SymbolIndex

/-- What can be done to a scope. Between two of these the class of the innermost body can be given other
names and members (`edit`). -/
inductive ScopeStep where
  | pushFrame (path : String)
  | popFrame
  | pushBlock
  | popBlock
  | declare (name : String) (type : Option JavaType)
  | setMethod (method : Option String)
  | countAnonymous
  | edit (path : String) (members : SourceType) (nested : Bindings String)

/-- Steps that neither enter nor leave a class body. -/
def ScopeStep.Stays : ScopeStep → Prop
  | pushFrame _ | popFrame => False
  | _ => True

/-- Steps that leave every class body that they enter, and no other. -/
inductive ScopeStep.Paired : List ScopeStep → Prop
  | nil : Paired []
  | stay {step : ScopeStep} {steps : List ScopeStep} (stays : step.Stays) (rest : Paired steps) :
      Paired (step :: steps)
  | body (path : String) {inner steps : List ScopeStep} (inside : Paired inner) (rest : Paired steps) :
      Paired (.pushFrame path :: (inner ++ .popFrame :: steps))

namespace Scope

/-- One step. -/
def step (scope : Scope) : ScopeStep → Scope
  | .pushFrame path => scope.pushFrame path
  | .popFrame => scope.popFrame
  | .pushBlock => scope.pushBlock
  | .popBlock => scope.popBlock
  | .declare name type => scope.declare name type
  | .setMethod method => scope.setMethod method
  | .countAnonymous => scope.countAnonymous
  | .edit path members nested => scope.modifyFrame fun frame => { frame with path, members, nested }

/-- Steps one after another. -/
def after (scope : Scope) (steps : List ScopeStep) : Scope :=
  steps.foldl step scope

end Scope

/-! ## The stack -/

/-- A class body on the stack. -/
structure BlockStack.Level where
  path : String
  members : SourceType := {}
  nested : Bindings String := .empty
  /-- How many blocks were open when the body was entered. -/
  base : Nat
  method : Option String := none
  anonymous : Nat := 0

/-- A scope with its open blocks in one stack. -/
structure BlockStack where
  /-- The enclosing class bodies, the innermost first. -/
  levels : List BlockStack.Level := []
  /-- All open blocks, the outermost first. -/
  blocks : List Block := []
  finished : Bindings SourceType := .empty

namespace BlockStack

/-- How many blocks lie below the innermost body. -/
def base (stack : BlockStack) : Nat :=
  match stack.levels with
  | [] => 0
  | level :: _ => level.base

def modifyLevel (stack : BlockStack) (change : Level → Level) : BlockStack :=
  match stack.levels with
  | [] => stack
  | level :: levels => { stack with levels := change level :: levels }

def pushFrame (stack : BlockStack) (path : String) : BlockStack :=
  { stack with levels := { path, base := stack.blocks.length } :: stack.levels }

/-- Leaving a body cuts the stack down to its base. -/
def popFrame (stack : BlockStack) : BlockStack :=
  match stack.levels with
  | [] => stack
  | level :: levels =>
    { levels, blocks := stack.blocks.take level.base
      finished := stack.finished.insert level.path level.members }

def pushBlock (stack : BlockStack) : BlockStack :=
  { stack with blocks := stack.blocks ++ [.empty] }

/-- A block is only closed above the base. -/
def popBlock (stack : BlockStack) : BlockStack :=
  if stack.base < stack.blocks.length then { stack with blocks := stack.blocks.dropLast } else stack

/-- Declares a variable in the last block, which is opened when none lies above the base. -/
def declare (stack : BlockStack) (name : String) (type : Option JavaType) : BlockStack :=
  let opened := if stack.blocks.length ≤ stack.base then stack.pushBlock else stack
  match opened.blocks.getLast? with
  | some block => { opened with blocks := opened.blocks.dropLast ++ [block.insert name type] }
  | none => opened

/-- One step. -/
def step (stack : BlockStack) : ScopeStep → BlockStack
  | .pushFrame path => stack.pushFrame path
  | .popFrame => stack.popFrame
  | .pushBlock => stack.pushBlock
  | .popBlock => stack.popBlock
  | .declare name type => stack.declare name type
  | .setMethod method => stack.modifyLevel fun level => { level with method }
  | .countAnonymous => stack.modifyLevel fun level => { level with anonymous := level.anonymous + 1 }
  | .edit path members nested => stack.modifyLevel fun level => { level with path, members, nested }

/-- Steps one after another. -/
def after (stack : BlockStack) (steps : List ScopeStep) : BlockStack :=
  steps.foldl step stack

/-- The bases of the class bodies, the outermost first. -/
def bases (stack : BlockStack) : List Nat :=
  (stack.levels.map (·.base)).reverse

/-- The blocks from one place up to another, when both are places of the stack in this order. -/
def slice? (blocks : List Block) (lower upper : Nat) : Option (List Block) :=
  if lower ≤ upper ∧ upper ≤ blocks.length then some ((blocks.take upper).drop lower) else none

/-- How an inherited field is found: by what a class body shows of its class. -/
abbrev Inherited := String → SourceType → Bindings String → String → Option (String × Option JavaType)

/-- Looks a name up in the given bodies, whose blocks lie below `upper`. There is no answer when a slice
does not exist. -/
def search (blocks : List Block) (name : String) (inherited : Inherited) :
    List Level → Nat → Option (Option Variable)
  | [], upper => (slice? blocks 0 upper).map fun below => Scope.inBlocks name below.reverse
  | level :: levels, upper =>
    let base := min level.base upper
    (slice? blocks base upper).bind fun own =>
      match Scope.inBlocks name own.reverse with
      | some found => some (some found)
      | none =>
        match level.members.fields.find? name with
        | some type => some (some (.field level.path type))
        | none =>
          match inherited level.path level.members level.nested name with
          | some (declaring, type) => some (some (.field declaring type))
          | none => search blocks name inherited levels base

/-- What an unqualified name stands for. -/
def lookup? (stack : BlockStack) (name : String) (inherited : Inherited) : Option (Option Variable) :=
  search stack.blocks name inherited stack.levels stack.blocks.length

end BlockStack

/-! ## A scope as a stack -/

/-- The class bodies on the stack, each with the number of blocks below it. -/
def BlockStack.levelsOf (outer : List Block) : List Frame → List Level
  | [] => []
  | frame :: frames =>
    { path := frame.path, members := frame.members, nested := frame.nested
      base := (frames.flatMap (·.blocks) ++ outer).length
      method := frame.method, anonymous := frame.anonymous } :: levelsOf outer frames

namespace Scope

/-- The scope with its open blocks in one stack. -/
def stacked (scope : Scope) : BlockStack where
  levels := BlockStack.levelsOf scope.outer scope.frames
  blocks := scope.blocks.reverse
  finished := scope.finished

/-- The blocks outside of the innermost frame. -/
def blocksBelow (scope : Scope) : List Block :=
  match scope.frames with
  | [] => []
  | _ :: frames => frames.flatMap (·.blocks) ++ scope.outer

/-- The blocks of a scope are those of the innermost frame, then those of the frames around it. -/
theorem blocks_eq (scope : Scope) : scope.blocks = scope.innermostBlocks ++ scope.blocksBelow := by
  obtain ⟨frames, outer, finished⟩ := scope
  cases frames with
  | nil => simp [blocks, innermostBlocks, blocksBelow]
  | cons frame frames => simp [blocks, innermostBlocks, blocksBelow]

/-- On the stack the innermost block comes last. -/
theorem blocks_stacked (scope : Scope) :
    scope.stacked.blocks = scope.blocksBelow.reverse ++ scope.innermostBlocks.reverse := by
  rw [← List.reverse_append, ← blocks_eq]
  rfl

/-- The base of the innermost frame lies above the blocks of the frames around it. -/
theorem base_stacked (scope : Scope) : scope.stacked.base = scope.blocksBelow.length := by
  obtain ⟨frames, outer, finished⟩ := scope
  cases frames <;> rfl

/-- **Changing the innermost blocks leaves alone what lies below the base.** -/
theorem stacked_modifyBlocks (scope : Scope) (change : List Block → List Block) :
    (scope.modifyBlocks change).stacked =
      { scope.stacked with blocks := scope.blocksBelow.reverse ++ (change scope.innermostBlocks).reverse } := by
  obtain ⟨frames, outer, finished⟩ := scope
  cases frames with
  | nil => simp [modifyBlocks, stacked, blocks, innermostBlocks, blocksBelow, BlockStack.levelsOf]
  | cons frame frames => simp [modifyBlocks, stacked, blocks, innermostBlocks, blocksBelow, BlockStack.levelsOf]

/-- Below the base lie the blocks of the frames around. -/
theorem take_base (scope : Scope) :
    scope.stacked.blocks.take scope.stacked.base = scope.blocksBelow.reverse := by
  rw [blocks_stacked, base_stacked]
  exact List.take_left' List.length_reverse

/-- A frame is pushed with its base at the top of the stack. -/
theorem stacked_pushFrame (scope : Scope) (path : String) :
    (scope.pushFrame path).stacked = scope.stacked.pushFrame path := by
  have base : scope.stacked.blocks.length = (scope.frames.flatMap (·.blocks) ++ scope.outer).length :=
    List.length_reverse
  simp only [BlockStack.pushFrame, base]
  rfl

/-- A frame takes all blocks above its base with it. -/
theorem stacked_popFrame (scope : Scope) : scope.popFrame.stacked = scope.stacked.popFrame := by
  obtain ⟨frames, outer, finished⟩ := scope
  cases frames with
  | nil => rfl
  | cons frame frames =>
    have cut := take_base ⟨frame :: frames, outer, finished⟩
    exact congrArg (BlockStack.mk _ · _) cut.symm

/-- A block is popped from the top, but none below the base. -/
theorem stacked_popBlock (scope : Scope) : scope.popBlock.stacked = scope.stacked.popBlock := by
  have whole := blocks_stacked scope
  rw [popBlock, stacked_modifyBlocks, BlockStack.popBlock, base_stacked]
  cases own : scope.innermostBlocks with
  | nil =>
    rw [own] at whole
    rw [if_neg (by simp [whole])]
    exact congrArg (BlockStack.mk _ · _) whole.symm
  | cons block below =>
    rw [own] at whole
    rw [if_pos (by simp [whole]), whole]
    simp

/-- A local is declared in the block on top. -/
theorem stacked_declare (scope : Scope) (name : String) (type : Option JavaType) :
    (scope.declare name type).stacked = scope.stacked.declare name type := by
  have whole := blocks_stacked scope
  rw [declare, stacked_modifyBlocks, BlockStack.declare, base_stacked]
  cases own : scope.innermostBlocks with
  | nil =>
    rw [own] at whole
    rw [if_pos (by simp [whole])]
    simp [BlockStack.pushBlock, whole, declareIn]
  | cons block below =>
    rw [own] at whole
    rw [if_neg (by simp [whole])]
    simp [whole, declareIn]

/-- **A step** does the same to both. -/
theorem stacked_step (scope : Scope) (step : ScopeStep) :
    (scope.step step).stacked = scope.stacked.step step := by
  cases step with
  | pushFrame path => exact stacked_pushFrame scope path
  | popFrame => exact stacked_popFrame scope
  | pushBlock =>
    rw [Scope.step, pushBlock, stacked_modifyBlocks, List.reverse_cons, ← List.append_assoc, ← blocks_stacked]
    rfl
  | popBlock => exact stacked_popBlock scope
  | declare name type => exact stacked_declare scope name type
  | setMethod method =>
    obtain ⟨frames, outer, finished⟩ := scope
    cases frames <;> rfl
  | countAnonymous =>
    obtain ⟨frames, outer, finished⟩ := scope
    cases frames <;> rfl
  | edit path members nested =>
    obtain ⟨frames, outer, finished⟩ := scope
    cases frames <;> rfl

/-- **A run** does: the scope, with its blocks in one stack, is the stack after the same steps. -/
theorem stacked_after (scope : Scope) (steps : List ScopeStep) :
    (scope.after steps).stacked = scope.stacked.after steps := by
  induction steps generalizing scope with
  | nil => rfl
  | cons step steps ih =>
    rw [after, List.foldl_cons, ← after, ih, stacked_step]
    rfl

end Scope

/-! ## What follows for the stack -/

namespace BlockStack

/-- From the innermost body outwards there are fewer and fewer blocks below. -/
theorem bases_descend (outer : List Block) (frames : List Frame) :
    ((frames.flatMap (·.blocks) ++ outer).length :: (levelsOf outer frames).map (·.base)).Pairwise (· ≥ ·) := by
  induction frames with
  | nil => exact List.pairwise_singleton _ _
  | cons frame frames ih =>
    refine List.pairwise_cons.mpr ⟨fun base listed => ?_, ih⟩
    have inside : (frames.flatMap (·.blocks) ++ outer).length ≤
        ((frame :: frames).flatMap (·.blocks) ++ outer).length := by
      rw [List.flatMap_cons, List.append_assoc]
      exact (List.sublist_append_right frame.blocks _).length_le
    rcases List.mem_cons.mp listed with rfl | listed
    · exact inside
    · exact Nat.le_trans (List.rel_of_pairwise_cons ih listed) inside

end BlockStack

namespace Scope

theorem bases_ascend (scope : Scope) :
    (scope.stacked.bases ++ [scope.stacked.blocks.length]).Pairwise (· ≤ ·) := by
  have length : scope.stacked.blocks.length = (scope.frames.flatMap (·.blocks) ++ scope.outer).length :=
    List.length_reverse
  rw [BlockStack.bases, ← List.reverse_cons, List.pairwise_reverse, length]
  exact BlockStack.bases_descend scope.outer scope.frames

/-- The scope has one frame on top of the given ones. -/
def Above (frames : List Frame) (outer : List Block) (scope : Scope) : Prop :=
  scope.outer = outer ∧ ∃ frame, scope.frames = frame :: frames

/-- A step that stays inside the innermost frame leaves those around it alone. -/
theorem Above.step {frames : List Frame} {outer : List Block} {scope : Scope} (above : Above frames outer scope)
    {step : ScopeStep} (stays : step.Stays) : Above frames outer (scope.step step) := by
  obtain ⟨framed, outside, finished⟩ := scope
  obtain ⟨rfl, frame, rfl⟩ := above
  cases step with
  | pushFrame path => cases stays
  | popFrame => cases stays
  | pushBlock => exact ⟨rfl, _, rfl⟩
  | popBlock => exact ⟨rfl, _, rfl⟩
  | declare name type => exact ⟨rfl, _, rfl⟩
  | setMethod method => exact ⟨rfl, _, rfl⟩
  | countAnonymous => exact ⟨rfl, _, rfl⟩
  | edit path members nested => exact ⟨rfl, _, rfl⟩

/-- A body that is left leaves the frames and the blocks around it as they were. -/
theorem Above.popFrame {frames : List Frame} {outer : List Block} {scope : Scope}
    (above : Above frames outer scope) : scope.popFrame.frames = frames ∧ scope.popFrame.outer = outer := by
  obtain ⟨framed, outside, finished⟩ := scope
  obtain ⟨rfl, frame, rfl⟩ := above
  exact ⟨rfl, rfl⟩

theorem after_append (scope : Scope) (steps more : List ScopeStep) :
    scope.after (steps ++ more) = (scope.after steps).after more :=
  List.foldl_append

/-- **Inside a body, paired steps stay inside.** By induction on the pairing: a body that is entered on top
is left with what it was entered on. -/
theorem Above.after {steps : List ScopeStep} (paired : ScopeStep.Paired steps) {frames : List Frame} {outer : List Block}
    {scope : Scope} (above : Above frames outer scope) : Above frames outer (scope.after steps) := by
  induction paired generalizing frames outer scope with
  | nil => exact above
  | stay stays _ ih => exact ih (above.step stays)
  | @body path inner steps _ _ ihInside ihRest =>
    have entered : Above scope.frames scope.outer (scope.pushFrame path) := ⟨rfl, _, rfl⟩
    obtain ⟨sameFrames, sameOuter⟩ := (ihInside entered).popFrame
    have left : Above frames outer ((scope.pushFrame path).after inner).popFrame := by
      rw [Above, sameFrames, sameOuter]
      exact above
    have run : scope.after (.pushFrame path :: (inner ++ .popFrame :: steps)) =
        ((scope.pushFrame path).after inner).popFrame.after steps :=
      after_append (scope.pushFrame path) inner (.popFrame :: steps)
    rw [run]
    exact ihRest left

/-- **A body that is entered and left leaves all open blocks as they were.** -/
theorem blocks_after_body (scope : Scope) (path : String) {inner : List ScopeStep} (paired : ScopeStep.Paired inner) :
    (scope.after (.pushFrame path :: (inner ++ [.popFrame]))).blocks = scope.blocks := by
  have entered : Above scope.frames scope.outer (scope.pushFrame path) := ⟨rfl, _, rfl⟩
  obtain ⟨frames, outer⟩ := (entered.after paired).popFrame
  have run : scope.after (.pushFrame path :: (inner ++ [.popFrame])) =
      ((scope.pushFrame path).after inner).popFrame :=
    after_append (scope.pushFrame path) inner [.popFrame]
  rw [run, blocks, frames, outer]
  rfl

end Scope

/-! ## Looking names up -/

namespace BlockStack

/-- Between the blocks below and the blocks above lie the others. -/
theorem slice?_between (below own above : List Block) :
    slice? (below ++ (own ++ above)) below.length (below ++ own).length = some own := by
  have inside : (below ++ own).length ≤ (below ++ (own ++ above)).length := by
    rw [← List.append_assoc]
    exact (List.prefix_append _ above).length_le
  have lower : below.length ≤ (below ++ own).length := (List.prefix_append _ own).length_le
  rw [slice?, if_pos ⟨lower, inside⟩, ← List.append_assoc, List.take_left, List.drop_left]

variable (name : String) (inherited : Inherited)

/-- What is found through the fields that a class body shows. -/
def seenFrom (frame : Frame) : String → Option (String × Option JavaType) :=
  inherited frame.path frame.members frame.nested

/-- **The slices of the stack are the blocks of the bodies.** By induction on the bodies, the innermost
first: what lies above the blocks of the rest does not matter to the search in them. -/
theorem search_levelsOf (outer : List Block) (frames : List Frame) (above : List Block) :
    search ((frames.flatMap (·.blocks) ++ outer).reverse ++ above) name inherited (levelsOf outer frames)
        (frames.flatMap (·.blocks) ++ outer).reverse.length =
      some ((frames.findSome? (Scope.inFrame name (seenFrom inherited))).or (Scope.inBlocks name outer)) := by
  induction frames generalizing above with
  | nil =>
    have all := slice?_between [] outer.reverse above
    simp only [List.nil_append, List.length_nil] at all
    simp only [List.flatMap_nil, List.nil_append, levelsOf, search, all, Option.map_some, List.reverse_reverse]
    rfl
  | cons frame frames ih =>
    have parts : ((frame :: frames).flatMap (·.blocks) ++ outer).reverse =
        (frames.flatMap (·.blocks) ++ outer).reverse ++ frame.blocks.reverse := by
      rw [List.flatMap_cons, List.append_assoc, List.reverse_append]
    have rest := ih (frame.blocks.reverse ++ above)
    have own := slice?_between (frames.flatMap (·.blocks) ++ outer).reverse frame.blocks.reverse above
    have base : min (frames.flatMap (·.blocks) ++ outer).length
        ((frames.flatMap (·.blocks) ++ outer).reverse ++ frame.blocks.reverse).length =
        (frames.flatMap (·.blocks) ++ outer).reverse.length := by
      simp only [List.length_append, List.length_reverse]
      omega
    rw [parts, List.append_assoc]
    simp only [levelsOf, search, base, own, Option.bind_some, List.reverse_reverse, rest,
      List.findSome?_cons, Scope.inFrame, seenFrom]
    cases Scope.inBlocks name frame.blocks with
    | some found => rfl
    | none =>
      cases frame.members.fields.find? name with
      | some type => rfl
      | none =>
        cases inherited frame.path frame.members frame.nested name with
        | some found => rfl
        | none => rfl

end BlockStack

namespace Scope

variable (name : String) (inherited : Frame → String → Option (String × Option JavaType))

/-- What the name stands for in one block. -/
def inBlock (block : Block) : Option Variable :=
  (block.find? name).map .declared

/-- What the name stands for at each place of a body where it is looked for: its blocks, the innermost
first, its fields, and the fields that it inherits. -/
def candidatesIn (frame : Frame) : List (Option Variable) :=
  frame.blocks.map (inBlock name) ++
    [(frame.members.fields.find? name).map (.field frame.path),
      (inherited frame name).map fun found => .field found.1 found.2]

/-- What the name stands for at each place where it is looked for: body by body from the innermost
outwards, and last in the blocks outside of every body. -/
def candidates (scope : Scope) : List (Option Variable) :=
  scope.frames.flatMap (candidatesIn name inherited) ++ scope.outer.map (inBlock name)

/-- The innermost of the blocks that have a name answers. -/
theorem inBlocks_first (blocks : List Block) : inBlocks name blocks = (blocks.map (inBlock name)).findSome? id := by
  rw [inBlocks, List.map_findSome?, List.findSome?_map]
  rfl

/-- In a frame the locals come before the fields, and those before the inherited ones. -/
theorem inFrame_first (frame : Frame) :
    inFrame name inherited frame = (candidatesIn name inherited frame).findSome? id := by
  rw [candidatesIn, List.findSome?_append, ← inBlocks_first, inFrame]
  cases inBlocks name frame.blocks with
  | some found => rfl
  | none =>
    cases frame.members.fields.find? name with
    | some type => rfl
    | none =>
      cases inherited frame name with
      | some found => rfl
      | none => rfl

/-- A name is looked up frame by frame, and then in the blocks outside of all classes. -/
theorem lookup_eq_or (scope : Scope) : scope.lookup name inherited =
    (scope.frames.findSome? (inFrame name inherited)).or (inBlocks name scope.outer) := by
  rw [lookup]
  cases scope.frames.findSome? (inFrame name inherited) <;> rfl

/-- **A name stands for the first match**, in the order in which the places are listed. -/
theorem lookup_first (scope : Scope) :
    scope.lookup name inherited = (scope.candidates name inherited).findSome? id := by
  rw [lookup_eq_or, candidates, List.findSome?_append, ← inBlocks_first]
  congr 1
  induction scope.frames with
  | nil => rfl
  | cons frame frames ih =>
    rw [List.flatMap_cons, List.findSome?_append, ← ih, ← inFrame_first, List.findSome?_cons]
    cases inFrame name inherited frame <;> rfl

/-- Looking through the slices of the stack finds what the scope finds, and every slice exists. -/
theorem lookup?_stacked (scope : Scope) (inherited : BlockStack.Inherited) :
    scope.stacked.lookup? name inherited = some (scope.lookup name (BlockStack.seenFrom inherited)) := by
  have searched := BlockStack.search_levelsOf name inherited scope.outer scope.frames []
  rw [List.append_nil] at searched
  rw [lookup_eq_or]
  exact searched

/-! ## The law -/

/-- What holds of a scope, and of the stack of blocks that it stands for. -/
structure Lexical (scope : Scope) (stack : BlockStack) : Prop where
  /-- The stack is the scope with its blocks in one stack. -/
  same : stack = scope.stacked
  /-- From the outermost body inwards the bases ascend, and none lies above the last block. -/
  bases : (stack.bases ++ [stack.blocks.length]).Pairwise (· ≤ ·)
  /-- A body that is entered and left leaves the open blocks as they were, whatever is done in it. -/
  restored : ∀ path inner, ScopeStep.Paired inner →
    (scope.after (.pushFrame path :: (inner ++ [.popFrame]))).blocks = scope.blocks ∧
      (stack.after (.pushFrame path :: (inner ++ [.popFrame]))).blocks = stack.blocks
  /-- Every slice that a name is looked up in exists, and the slices find what the scope finds. -/
  sliced : ∀ name inherited,
    stack.lookup? name inherited = some (scope.lookup name (BlockStack.seenFrom inherited))
  /-- That is the first match from the innermost body outwards. -/
  first : ∀ name inherited, scope.lookup name inherited = (scope.candidates name inherited).findSome? id

/-- **Steps never cross a frame, and names are looked up in lexical order**, whatever steps were taken from
the empty scope on. -/
theorem after_lexical (steps : List ScopeStep) : Lexical (after {} steps) (BlockStack.after {} steps) := by
  have same : BlockStack.after {} steps = (after {} steps).stacked := (stacked_after {} steps).symm
  rw [same]
  constructor
  · rfl
  · exact bases_ascend _
  · intro path inner paired
    have kept := blocks_after_body (after {} steps) path paired
    rw [← stacked_after]
    exact ⟨kept, congrArg List.reverse kept⟩
  · exact fun name => lookup?_stacked name _
  · exact fun name inherited => lookup_first name inherited _

/-- What is done in a body where blocks are closed that were never opened and left open where they end. -/
def unevenBody : List ScopeStep :=
  [.popBlock, .declare "y" none, .popBlock, .popBlock, .pushFrame "A$1$1", .pushBlock, .declare "z" none,
    .popFrame, .pushBlock]

theorem after_lexical_unevenBody :
    ScopeStep.Paired unevenBody ∧
      (BlockStack.after {} [.pushFrame "A", .pushBlock, .declare "x" none]).bases = [0] ∧
      (BlockStack.after {} ([.pushFrame "A", .pushBlock, .declare "x" none] ++
        .pushFrame "A$1" :: (unevenBody ++ [.popFrame]))).blocks = [Bindings.empty.insert "x" none] := by
  have paired : ScopeStep.Paired unevenBody := by
    have inner : ScopeStep.Paired [.pushBlock, .declare "z" none] := .stay trivial (.stay trivial .nil)
    refine .stay trivial (.stay trivial (.stay trivial (.stay trivial ?_)))
    exact .body "A$1$1" inner (.stay trivial .nil)
  refine ⟨paired, rfl, ?_⟩
  rw [BlockStack.after, List.foldl_append]
  exact ((after_lexical [.pushFrame "A", .pushBlock, .declare "x" none]).restored "A$1" unevenBody paired).2

end Scope

end SymbolIndex
