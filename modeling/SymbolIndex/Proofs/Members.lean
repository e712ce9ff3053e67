import SymbolIndex.Proofs.Balance
import SymbolIndex.Proofs.Places

/-!
# The members that local variables and parameters belong to

A walk keeps the method around it in the innermost frame, where it is set and set back. What it says of a
local variable is meant of the tree: the variable belongs to the member around its token. `Sits` ties the
two together: in every mode it says which method the innermost frame has at a place. A step down keeps it
(`Sits.down`), and so does all that is done at a place, because a run leaves the frame as it found it
(`Run.kept`). The signatures that frames have are those of methods on record (`Grounded`).

`Run.explained` puts this together by induction on the run, and `walk_belongs` reads it off the table. The
tree has to be `Housed`, with a program at its root; comments may stand anywhere, and nothing is asked of
positions. Of a variable outside of all class bodies only that is said which concerns the records.
-/

namespace SymbolIndex

open SymbolIndex.Tree (Node Cursor)

namespace Walk

variable {env : Env} {root : Node}

/-! ## The frame at a place -/

/-- The method of the innermost frame, if there is a frame. -/
def member? (scope : Scope) : Option (Option String) :=
  scope.frame?.map (·.method)

/-- Entering a method sets the innermost member, if there is a class around. -/
theorem member?_setMethod (scope : Scope) (method : Option String) :
    member? (scope.setMethod method) = (member? scope).map fun _ => method := by
  obtain ⟨frames, outer, finished⟩ := scope
  cases frames <;> rfl

/-- Locals do not touch the innermost member. -/
theorem member?_modifyBlocks (scope : Scope) (change : List Block → List Block) :
    member? (scope.modifyBlocks change) = member? scope := by
  obtain ⟨frames, outer, finished⟩ := scope
  cases frames <;> rfl

/-- Behind what keeps the frames the innermost member is what it was. -/
theorem member?_of_kept {before after : Scope} (kept : Kept before after) :
    member? after = member? before := by
  cases kept with
  | outside => rfl
  | inside same => exact congrArg some same.method

/-- How the innermost frame belongs to a place, mode by mode. -/
def Sits (env : Env) (place : List Node) (scope : Scope) : Mode → Prop
  | .around => (∀ node ∈ place.head?, node.kind ∉ bodyKinds) ∧
      (InBody place → member? scope = some (around? env place))
  | .within method => InBody place → member? scope = some (some method)
  | .entered => member? scope = some none
  | .opened => around? env place = none ∧ member? scope = some none
  | .aside => True

/-- Only the method of the innermost frame matters. -/
theorem Sits.congr {place : List Node} {scope scope' : Scope} {mode : Mode}
    (sits : Sits env place scope mode) (same : member? scope' = member? scope) :
    Sits env place scope' mode := by
  cases mode <;> simp only [Sits, same] <;> exact sits

/-- A place in a class body is one in the body around it, unless the node itself is a body. -/
theorem InBody.of_cons {place : List Node} {child : Node} (inBody : InBody (child :: place))
    (outside : child.kind ∉ bodyKinds) : InBody place := by
  obtain ⟨node, member, isBody⟩ := inBody
  rcases List.mem_cons.mp member with rfl | above
  · exact absurd isBody outside
  · exact ⟨node, above, isBody⟩

/-- **A step down keeps the frame at its place.** One case for each way in which modes change. -/
theorem Sits.down {place : List Node} {child : Node} {scope : Scope} {mode mode' : Mode}
    (sits : Sits env place scope mode) (leads : Leads env place child mode mode') :
    Sits env (child :: place) scope mode' := by
  have first (outside : child.kind ∉ bodyKinds) :
      ∀ node ∈ (child :: place).head?, node.kind ∉ bodyKinds := by
    intro node same
    cases same
    exact outside
  cases leads with
  | around outside plain =>
    refine ⟨first outside, fun inBody => ?_⟩
    rw [around?, if_neg outside, plain, Option.none_or]
    exact sits.2 (inBody.of_cons outside)
  | within outside named =>
    refine ⟨first outside, fun inBody => ?_⟩
    rw [around?, if_neg outside, named, Option.some_or]
    exact sits (inBody.of_cons outside)
  | body isBody => exact ⟨if_pos isBody, sits⟩
  | member outside plain =>
    refine ⟨first outside, fun _ => ?_⟩
    rw [around?, if_neg outside, plain, Option.none_or, sits.1]
    exact sits.2
  | aside => exact trivial

/-! ## The methods on record -/

/-- A method that is recorded stays so when records are added. -/
theorem Recorded.mono {records records' : List Occurrence} {method owner : String}
    (recorded : Recorded records method owner)
    (grows : ∀ occurrence ∈ records, occurrence.kind = .method → occurrence ∈ records') :
    Recorded records' method owner := by
  rcases recorded with isClassInit | isInstanceInit | ⟨name, types, result, span, member⟩
  · exact .inl isClassInit
  · exact .inr (.inl isInstanceInit)
  · exact .inr (.inr ⟨name, types, result, span, grows _ member rfl⟩)

/-- A frame that has no method, that of an initialiser, or one on record for its class. -/
def FrameRecorded (records : List Occurrence) (frame : Frame) : Prop :=
  ∀ method ∈ frame.method, Recorded records method frame.name

/-- A scope in which every frame has a method of that sort. -/
def Grounded (scope : Scope) (records : List Occurrence) : Prop :=
  ∀ frame ∈ scope.frames, FrameRecorded records frame

namespace Grounded

variable {scope : Scope} {records : List Occurrence}

/-- What is grounded in records is grounded in more of them. -/
theorem mono {records' : List Occurrence} (grounded : Grounded scope records)
    (grows : ∀ occurrence ∈ records, occurrence ∈ records') : Grounded scope records' := by
  intro frame member method same
  exact (grounded frame member method same).mono fun occurrence isRecord _ => grows occurrence isRecord

/-- What is grounded stays so behind what keeps the frames. -/
theorem kept {scope' : Scope} (grounded : Grounded scope records) (kept : Kept scope scope') :
    Grounded scope' records := by
  cases kept with
  | outside => exact grounded
  | inside same =>
    obtain ⟨innermost, others⟩ := List.forall_mem_cons.mp grounded
    refine List.forall_mem_cons.mpr ⟨?_, others⟩
    rw [FrameRecorded, same.method, Frame.name, same.path]
    exact innermost

/-- A block changes no member, so it changes no ground either. -/
theorem pushBlock (grounded : Grounded scope records) : Grounded scope.pushBlock records := by
  obtain ⟨frames, outer, finished⟩ := scope
  cases frames with
  | nil => exact grounded
  | cons frame frames =>
    obtain ⟨innermost, others⟩ := List.forall_mem_cons.mp grounded
    exact List.forall_mem_cons.mpr ⟨innermost, others⟩

/-- **Entering a method** that has just been recorded grounds its body. -/
theorem setMethod {method : String} (grounded : Grounded scope records)
    (recorded : Recorded records method ((scope.frame?.map Frame.name).getD "")) :
    Grounded (scope.setMethod (some method)) records := by
  obtain ⟨frames, outer, finished⟩ := scope
  cases frames with
  | nil => exact grounded
  | cons frame frames =>
    refine List.forall_mem_cons.mpr ⟨?_, (List.forall_mem_cons.mp grounded).2⟩
    intro other isMethod
    cases isMethod
    exact recorded

/-- A class body opens without a member, so nothing has to be recorded for it. -/
theorem opened {frame : Frame} (grounded : Grounded scope records) (bare : frame.method = none) :
    Grounded { scope with frames := frame :: scope.frames } records := by
  refine List.forall_mem_cons.mpr ⟨?_, grounded⟩
  intro method isMethod
  rw [bare] at isMethod
  cases isMethod

/-- The method that a local variable is filed with. -/
theorem method {state : State} (grounded : Grounded state.scope state.records) :
    Recorded state.records state.method state.owner := by
  obtain ⟨⟨frames, outer, finished⟩, filings, notes, tooDeep⟩ := state
  cases frames with
  | nil => exact .inr (.inl rfl)
  | cons frame others =>
    cases isMethod : frame.method with
    | none => exact .inr (.inl (by simp [State.method, Scope.method?, Scope.frame?, isMethod]))
    | some method =>
      have recorded := grounded frame List.mem_cons_self method isMethod
      simpa [State.method, Scope.method?, Scope.frame?, isMethod, State.owner] using recorded

end Grounded

/-! ## What is filed belongs to its place -/

/-- What an occurrence says about the member around it holds of its token. A local variable in a class
body belongs to the member around the token, a parameter to its own method; and unless that is an
initialiser, the method is on record for the same class. -/
def Belongs (env : Env) (records : List Occurrence) (token : Node) (above : List Node) :
    Occurrence → Prop
  | .localVariable _ _ method owner _ =>
    (InBody above → method = methodAround env (token :: above)) ∧ Recorded records method owner
  | .parameter _ _ method owner _ => OwnMethod env above records method owner
  | _ => True

/-- What belongs to a recorded method belongs to it among more records. -/
theorem Belongs.mono {records records' : List Occurrence} {token : Node} {above : List Node}
    {occurrence : Occurrence} (belongs : Belongs env records token above occurrence)
    (grows : ∀ other ∈ records, other.kind = .method → other ∈ records') :
    Belongs env records' token above occurrence := by
  cases occurrence with
  | localVariable => exact ⟨belongs.1, belongs.2.mono grows⟩
  | parameter =>
    obtain ⟨node, outer, name, nearest, named, declares, types, result, member⟩ := belongs
    exact ⟨node, outer, name, nearest, named, declares, types, result, grows _ member rfl⟩
  | _ => exact trivial

/-- An occurrence that belongs to the place where it stands, and is listed there as a name of its kind. -/
def Explained (env : Env) (root : Node) (marks : List Mark) (records : List Occurrence)
    (occurrence : Occurrence) : Prop :=
  ∃ token above, StandsAt env root occurrence token above ∧
    Mark.name occurrence.kind token ∈ marks ∧ Belongs env records token above occurrence

/-- What is explained by marks and records is explained by more of them. -/
theorem Explained.mono {marks marks' : List Mark} {records records' : List Occurrence}
    {occurrence : Occurrence} (explained : Explained env root marks records occurrence)
    (passes : ∀ mark ∈ marks, mark ∈ marks') (grows : ∀ other ∈ records, other ∈ records') :
    Explained env root marks' records' occurrence := by
  obtain ⟨token, above, stands, listed, belongs⟩ := explained
  refine ⟨token, above, stands, passes _ listed, belongs.mono ?_⟩
  exact fun other isRecord _ => grows other isRecord

/-- Filing only adds records. -/
theorem Files.records {first last : State} (files : Files env root first last) :
    ∀ occurrence ∈ first.records, occurrence ∈ last.records := by
  obtain ⟨added, same, -⟩ := files
  intro occurrence member
  rw [State.records, same, List.map_append]
  exact List.mem_append_right _ member

/-- A declaration is filed where the frame belongs to the place. -/
theorem belongs_of_attributed (housed : Housed root) {name : Node} {above : List Node} {state : State}
    {mode : Mode} {occurrence : Occurrence} (place : Place root (name :: above))
    (sits : Sits env (name :: above) state.scope mode) (grounded : Grounded state.scope state.records)
    (attributed : Attributed env mode above state occurrence) :
    Belongs env state.records name above occurrence := by
  cases occurrence with
  | localVariable =>
    obtain ⟨rfl, rfl, rfl⟩ := attributed
    refine ⟨fun inBody => ?_, grounded.method⟩
    obtain ⟨node, member, isBody⟩ := inBody
    have frame := sits.2 ⟨node, List.mem_cons_of_mem _ member, isBody⟩
    obtain ⟨innermost, found, isMethod⟩ := Option.map_eq_some_iff.mp frame
    rw [methodAround_eq housed place (sits.1 name rfl), State.method, Scope.method?, found, ← isMethod]
    rfl
  | parameter => exact attributed
  | _ => exact trivial

/-- **What a run files belongs to its place.** By induction on the run. On the way down the frame stays at
its place; behind a part of the run it is the frame from before it. -/
theorem Run.explained {mode : Mode} {place : List Node} {marks : List Mark} {first last : State}
    (run : Run env True mode place marks first last) (housed : Housed root) (isPlace : Place root place)
    (sits : Sits env place first.scope mode) (grounded : Grounded first.scope first.records) :
    ∀ occurrence ∈ last.records,
      occurrence ∈ first.records ∨ Explained env root marks last.records occurrence := by
  induction run with
  | trans run rest ih ih' =>
    have kept := run.kept
    have earlier := (run.files isPlace).records
    have later := (rest.files isPlace).records
    intro occurrence member
    -- behind the first part the frames are as before, and the records have only become more
    have grounded' := (grounded.kept kept).mono earlier
    rcases ih' isPlace (sits.congr (member?_of_kept kept)) grounded' occurrence member with old | new
    · refine (ih isPlace sits grounded occurrence old).imp_right fun explained => ?_
      exact explained.mono (fun _ => List.mem_append_left _) later
    · exact .inr (new.mono (fun _ => List.mem_append_right _) fun _ isRecord => isRecord)
  | descend inside leads _ ih => exact ih (isPlace.down inside) (sits.down (leads trivial)) grounded
  | declaration occurrence _ named placed attributed =>
    intro other member
    rcases List.mem_cons.mp member with rfl | old
    · refine .inr ⟨_, _, ⟨isPlace, named, placed⟩, List.mem_cons_self, ?_⟩
      refine (belongs_of_attributed housed isPlace sits grounded (attributed trivial)).mono ?_
      exact fun _ isRecord _ => List.mem_cons_of_mem _ isRecord
    · exact .inl old
  | reference kind declaring _ =>
    unfold State.fileReference
    split
    · exact fun _ => .inl
    · intro other member
      rcases List.mem_cons.mp member with rfl | old
      · exact .inr ⟨_, _, ⟨isPlace, rfl, rfl⟩, List.mem_cons_self, trivial⟩
      · exact .inl old
  | inBlock _ ih => exact ih isPlace (sits.congr (member?_modifyBlocks _ _)) grounded.pushBlock
  | inMethod recorded _ ih =>
    refine ih isPlace (fun inBody => ?_) (grounded.setMethod recorded)
    exact (member?_setMethod _ _).trans (congrArg _ (sits.2 inBody))
  | inType _ bare _ ih => exact ih isPlace (congrArg some bare.1) (grounded.opened bare.1)
  | limit | spent =>
    unfold State.giveUpAt
    split <;> exact fun _ => .inl
  | _ => exact fun _ => .inl

end Walk

/-- **Local variables and parameters belong to the right members.** Of every tree in which everything
stands where the grammar has it, whatever the class path knows, each occurrence in the table of a walk that
is not given up stands at a token of its kind, and what it says about the member around it holds there:
a local variable in a class body has the method name of its place, and a parameter the signature and owner
of its own method. Whatever method is named, the table has it for the same class, unless it is an
initialiser. -/
theorem walk_belongs (env : Walk.Env) (root : Node) (housed : Walk.Housed root)
    (isProgram : root.kind = "program") (index : SourceIndex)
    (indexed : SourceIndex.ofWalk (Walk.walk env root) = .ok index) (kind : OccurrenceKind)
    (occurrence : Occurrence) (listed : occurrence ∈ index.table.list kind) :
    ∃ token above, Walk.StandsAt env root occurrence token above ∧
      Walk.Mark.name occurrence.kind token ∈ (Walk.outline Tree.maxNesting).visit root ∧
      Walk.Belongs env (index.table.list .method) token above occurrence := by
  obtain ⟨_, rfl⟩ := SourceIndex.ofWalk_eq_ok_iff.mp indexed
  have outside : root.kind ∉ Walk.bodyKinds := by
    rw [isProgram]
    decide
  have arrives : Walk.Arrives (Cursor.root root) :=
    ⟨housed, outside, fun _ absent => nomatch absent⟩
  have run := (Walk.walker_runs env True Tree.maxNesting).visit (Cursor.root root) {} fun _ => arrives
  have sits : Walk.Sits env [root] {} .around := by
    constructor
    · intro node same
      cases same
      exact outside
    · rintro ⟨node, member, isBody⟩
      rw [List.mem_singleton.mp member] at isBody
      exact absurd isBody outside
  have grounded : Walk.Grounded {} [] := fun _ absent => nomatch absent
  have filed := (Walk.State.mem_list.mp listed).2
  rcases run.explained housed .root sits grounded occurrence filed with old | explained
  · cases old
  · obtain ⟨token, above, stands, marked, belongs⟩ := explained
    refine ⟨token, above, stands, marked, belongs.mono fun other isRecord isMethod => ?_⟩
    exact Walk.State.mem_list.mpr ⟨isMethod, isRecord⟩

/-- The tree of `class A { static { int a; } void m(int p) { new B() { int h = k(y -> y); }; int z; } }`. -/
def nestedMembers : Node :=
  .word "program" none 0 86 [
    .word "class_declaration" none 0 86 [
      .word "identifier" (some "name") 6 7 [],
      .word "class_body" (some "body") 8 86 [
        .word "static_initializer" none 10 27 [
          .word "block" none 17 27 [
            .word "local_variable_declaration" none 19 25 [
              .word "integral_type" (some "type") 19 22 [],
              .word "variable_declarator" (some "declarator") 23 24 [
                .word "identifier" (some "name") 23 24 []]]]],
        .word "method_declaration" none 28 84 [
          .word "void_type" (some "type") 28 32 [],
          .word "identifier" (some "name") 33 34 [],
          .word "formal_parameters" (some "parameters") 34 41 [
            .word "formal_parameter" none 35 40 [
              .word "integral_type" (some "type") 35 38 [],
              .word "identifier" (some "name") 39 40 []]],
          .word "block" (some "body") 42 84 [
            .word "expression_statement" none 44 75 [
              .word "object_creation_expression" none 44 74 [
                .word "type_identifier" (some "type") 48 49 [],
                .word "argument_list" (some "arguments") 49 51 [],
                .word "class_body" none 52 74 [
                  .word "field_declaration" none 54 72 [
                    .word "integral_type" (some "type") 54 57 [],
                    .word "variable_declarator" (some "declarator") 58 71 [
                      .word "identifier" (some "name") 58 59 [],
                      .word "method_invocation" (some "value") 62 71 [
                        .word "identifier" (some "name") 62 63 [],
                        .word "argument_list" (some "arguments") 63 71 [
                          .word "lambda_expression" none 64 70 [
                            .word "identifier" (some "parameters") 64 65 [],
                            .word "identifier" (some "body") 69 70 []]]]]]]]],
            .word "local_variable_declaration" none 76 82 [
              .word "integral_type" (some "type") 76 79 [],
              .word "variable_declarator" (some "declarator") 80 81 [
                .word "identifier" (some "name") 80 81 []]]]]]]]

def nestedMembersEnv : Walk.Env :=
  .ofTree (.ofText "class A { static { int a; } void m(int p) { new B() { int h = k(y -> y); }; int z; } }")
    nestedMembers .empty

theorem walk_belongs_nestedMembers :
    ∃ index, SourceIndex.ofWalk (Walk.walk nestedMembersEnv nestedMembers) = .ok index ∧
      index.table.list .localVariable =
        [.localVariable "a" (some "int") "<clinit>" "A" ⟨23, 24, 1, 24, 1, 25⟩,
          .localVariable "y" none "<init>" "A$1" ⟨64, 65, 1, 65, 1, 66⟩,
          .localVariable "z" (some "int") "m(int)" "A" ⟨80, 81, 1, 81, 1, 82⟩] ∧
      ∀ kind, ∀ occurrence ∈ index.table.list kind, ∃ token above,
        Walk.StandsAt nestedMembersEnv nestedMembers occurrence token above ∧
        Walk.Mark.name occurrence.kind token ∈ (Walk.outline Tree.maxNesting).visit nestedMembers ∧
        Walk.Belongs nestedMembersEnv (index.table.list .method) token above occurrence := by
  have indexed := SourceIndex.ofWalk_eq_ok_iff.mpr
    ⟨show (Walk.walk nestedMembersEnv nestedMembers).tooDeep = none by decide +kernel, rfl⟩
  refine ⟨_, indexed, by decide +kernel, ?_⟩
  exact walk_belongs _ nestedMembers (by decide +kernel) rfl _ indexed

end SymbolIndex
