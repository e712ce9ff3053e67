import Mathlib.Data.List.Forall2
import SymbolIndex.Proofs.Comments.Reading

/-!
# Scopes that answer alike

Two walks over one source in different orders do not have equal scopes: the members of a class are
collected in another order, and classes have been left by one walk and not yet by the other. `Same` says
that this makes no difference to what is asked of a scope. Frames are compared by their lookups, and a
class that has been left by one walk only is no matter where the class path *answers for* it: it knows the
class, and finds every member there that the source declares, with the same type.

`Same` is an equivalence. Every question that a walk asks of a scope has the same answer in both
(`memberOf_same`, `lookup_same`, `typeOf_same` and those they rest on), and every change that a walk makes
keeps it.
-/

namespace SymbolIndex

/-- Two classes of the source with the same supertypes and the same members. -/
structure SourceType.Alike (first second : SourceType) : Prop where
  superClass : first.superClass = second.superClass
  interfaces : first.interfaces = second.interfaces
  fields : ∀ name, first.fields.find? name = second.fields.find? name
  methods : ∀ name, first.methods.find? name = second.methods.find? name

namespace SourceType.Alike

variable {first second third : SourceType}

theorem refl (type : SourceType) : type.Alike type := ⟨rfl, rfl, fun _ => rfl, fun _ => rfl⟩

theorem symm (alike : first.Alike second) : second.Alike first :=
  ⟨alike.superClass.symm, alike.interfaces.symm, fun name => (alike.fields name).symm,
    fun name => (alike.methods name).symm⟩

theorem trans (alike : first.Alike second) (alike' : second.Alike third) : first.Alike third :=
  ⟨alike.superClass.trans alike'.superClass, alike.interfaces.trans alike'.interfaces,
    fun name => (alike.fields name).trans (alike'.fields name),
    fun name => (alike.methods name).trans (alike'.methods name)⟩

/-- Alike classes have the same supertypes, in the same order. -/
theorem supertypesOf (alike : first.Alike second) : Walk.supertypesOf first = Walk.supertypesOf second := by
  simp only [Walk.supertypesOf, alike.superClass, alike.interfaces]

/-- A name stands for the same member in alike classes. -/
theorem membersOf (alike : first.Alike second) (kind : MemberKind) (name : String) :
    (Walk.membersOf first kind).find? name = (Walk.membersOf second kind).find? name := by
  cases kind with
  | field => exact alike.fields name
  | method => exact alike.methods name

end SourceType.Alike

/-- Two class bodies in which every name stands for the same. -/
structure Frame.Alike (first second : Frame) : Prop where
  path : first.path = second.path
  members : first.members.Alike second.members
  nested : ∀ name, first.nested.find? name = second.nested.find? name
  blocks : first.blocks = second.blocks
  method : first.method.isSome = second.method.isSome
  anonymous : first.anonymous = second.anonymous

namespace Frame.Alike

variable {first second third : Frame}

theorem refl (frame : Frame) : frame.Alike frame := ⟨rfl, .refl _, fun _ => rfl, rfl, rfl, rfl⟩

theorem symm (alike : first.Alike second) : second.Alike first :=
  ⟨alike.path.symm, alike.members.symm, fun name => (alike.nested name).symm, alike.blocks.symm,
    alike.method.symm, alike.anonymous.symm⟩

/-- Names stand for the same in the first and the third body when they do in both steps between. -/
theorem trans (alike : first.Alike second) (alike' : second.Alike third) : first.Alike third :=
  ⟨alike.path.trans alike'.path, alike.members.trans alike'.members,
    fun name => (alike.nested name).trans (alike'.nested name), alike.blocks.trans alike'.blocks,
    alike.method.trans alike'.method, alike.anonymous.trans alike'.anonymous⟩

end Frame.Alike

namespace Walk

open SymbolIndex.Tree (Node)

/-! ## Classes that the class path answers for -/

/-- The class path knows a class of the source, and has every member that the source declares. -/
structure AnswersFor (classpath : Classpath) (path : String) (type : SourceType) : Prop where
  known : classpath.knows path
  members : ∀ kind name memberType, (membersOf type kind).find? name = some memberType →
    classpath.findMember path name kind = .ok ⟨path, memberType⟩

/-- It is no matter whether a class has been left: the class path knows it, and answers for what has been
left. -/
structure Settled (classpath : Classpath) (path : String) (left : Option SourceType) : Prop where
  known : classpath.knows path
  answers : ∀ type ∈ left, AnswersFor classpath path type

/-- What has been left under a path is no matter, or the same. -/
def Interchangeable (classpath : Classpath) (path : String) (first second : Option SourceType) : Prop :=
  Option.Rel SourceType.Alike first second ∨
    Settled classpath path first ∧ Settled classpath path second

section Classes

variable {classpath : Classpath} {path : String} {first second third : Option SourceType}

/-- A class path that answers for a class answers for one with the same supertypes and members. -/
theorem AnswersFor.congr {type type' : SourceType} (answers : AnswersFor classpath path type)
    (alike : type.Alike type') : AnswersFor classpath path type' :=
  ⟨answers.known, fun kind name memberType found =>
    answers.members kind name memberType ((alike.membersOf kind name).trans found)⟩

/-- What is settled of a class of the source is settled of one like it. -/
theorem Settled.congr (settled : Settled classpath path first)
    (alike : Option.Rel SourceType.Alike first second) : Settled classpath path second := by
  refine ⟨settled.known, fun type found => ?_⟩
  cases alike with
  | none => cases found
  | some alike =>
    cases found
    exact (settled.answers _ rfl).congr alike

namespace Interchangeable

theorem refl (left : Option SourceType) : Interchangeable classpath path left left := by
  cases left with
  | none => exact .inl .none
  | some type => exact .inl (.some (.refl type))

theorem symm (same : Interchangeable classpath path first second) :
    Interchangeable classpath path second first := by
  rcases same with alike | ⟨settled, settled'⟩
  · cases alike with
    | none => exact .inl .none
    | some alike => exact .inl (.some alike.symm)
  · exact .inr ⟨settled', settled⟩

/-- Classes may be exchanged step by step: when the second may stand for either side, the first may stand
for the third. -/
theorem trans (same : Interchangeable classpath path first second)
    (same' : Interchangeable classpath path second third) : Interchangeable classpath path first third := by
  rcases same with alike | ⟨settled, settled'⟩
  · rcases same' with alike' | ⟨settled, settled'⟩
    · cases alike with
      | none =>
        cases alike'
        exact .inl .none
      | some alike =>
        cases alike' with
        | some alike' => exact .inl (.some (alike.trans alike'))
    · have back : Option.Rel SourceType.Alike second first := by
        cases alike with
        | none => exact .none
        | some alike => exact .some alike.symm
      exact .inr ⟨settled.congr back, settled'⟩
  · rcases same' with alike' | ⟨-, settled''⟩
    · exact .inr ⟨settled, settled'.congr alike'⟩
    · exact .inr ⟨settled, settled''⟩

end Interchangeable

end Classes

/-! ## Scopes -/

/-- Two scopes in which every name and every member stands for the same. -/
structure Same (classpath : Classpath) (first second : Scope) : Prop where
  frames : List.Forall₂ Frame.Alike first.frames second.frames
  outer : first.outer = second.outer
  finished : ∀ path,
    Interchangeable classpath path (first.finished.find? path) (second.finished.find? path)

namespace Same

variable {classpath : Classpath} {first second third : Scope}

theorem refl (scope : Scope) : Same classpath scope scope :=
  ⟨List.forall₂_same.mpr fun frame _ => .refl frame, rfl, fun _ => .refl _⟩

theorem symm (same : Same classpath first second) : Same classpath second first :=
  ⟨same.frames.flip.imp fun _ _ alike => alike.symm, same.outer.symm, fun path => (same.finished path).symm⟩

/-- What is known alike in two scopes, and in the second and a third, is known alike in the first and the
third. -/
theorem trans (same : Same classpath first second) (same' : Same classpath second third) :
    Same classpath first third where
  frames := by
    have compose : ∀ {frames frames' frames'' : List Frame}, List.Forall₂ Frame.Alike frames frames' →
        List.Forall₂ Frame.Alike frames' frames'' → List.Forall₂ Frame.Alike frames frames'' := by
      intro frames frames' frames'' alike
      induction alike generalizing frames'' with
      | nil => exact fun rest => rest
      | cons alike _ ih =>
        rintro (_ | ⟨alike', rest⟩)
        exact .cons (alike.trans alike') (ih rest)
    exact compose same.frames same'.frames
  outer := same.outer.trans same'.outer
  finished path := (same.finished path).trans (same'.finished path)

/-- Alike frames are found at the same place. -/
theorem find?_path {frames frames' : List Frame} (alike : List.Forall₂ Frame.Alike frames frames')
    (path : String) :
    Option.Rel Frame.Alike (frames.find? (·.path == path)) (frames'.find? (·.path == path)) := by
  induction alike with
  | nil => exact .none
  | @cons frame frame' _ _ here _ ih =>
    rw [List.find?_cons, List.find?_cons, here.path]
    cases frame'.path == path with
    | true => exact .some here
    | false => exact ih

/-- What is found in alike frames is the same. -/
theorem findSome?_frames {α : Type} {frames frames' : List Frame} {found found' : Frame → Option α}
    (alike : List.Forall₂ Frame.Alike frames frames')
    (each : ∀ frame frame', frame.Alike frame' → found frame = found' frame') :
    frames.findSome? found = frames'.findSome? found' := by
  induction alike with
  | nil => rfl
  | cons here _ ih => rw [List.findSome?_cons, List.findSome?_cons, each _ _ here, ih]

/-- **A path stands for the same class of the source**, or for one that the class path answers for all
the same. -/
theorem sourceType? (same : Same classpath first second) (path : String) :
    Interchangeable classpath path (first.sourceType? path) (second.sourceType? path) := by
  have frames := find?_path same.frames path
  unfold Scope.sourceType?
  generalize first.frames.find? (·.path == path) = frame at frames
  generalize second.frames.find? (·.path == path) = frame' at frames
  cases frames with
  | none => exact same.finished path
  | some alike => exact .inl (.some alike.members)

/-- The innermost classes are alike. -/
theorem frame? (same : Same classpath first second) :
    Option.Rel Frame.Alike first.frame? second.frame? := by
  have frames := same.frames
  unfold Scope.frame?
  generalize first.frames = left at frames
  generalize second.frames = right at frames
  cases frames with
  | nil => exact .none
  | cons alike _ => exact .some alike

/-- The innermost classes have the same path. -/
theorem path? (same : Same classpath first second) :
    first.frame?.map (·.path) = second.frame?.map (·.path) := by
  have frames := same.frame?
  generalize first.frame? = left at frames
  generalize second.frame? = right at frames
  cases frames with
  | none => rfl
  | some alike => exact congrArg some alike.path

/-! ### Changes -/

/-- A change of the innermost frame that keeps frames alike. -/
theorem modifyFrame {change change' : Frame → Frame} (same : Same classpath first second)
    (keeps : ∀ frame frame', frame.Alike frame' → (change frame).Alike (change' frame')) :
    Same classpath (first.modifyFrame change) (second.modifyFrame change') := by
  obtain ⟨frames, outer, finished⟩ := first
  obtain ⟨frames', outer', finished'⟩ := second
  obtain ⟨alike, sameOuter, sameFinished⟩ := same
  cases alike with
  | nil => exact ⟨.nil, sameOuter, sameFinished⟩
  | cons here rest => exact ⟨.cons (keeps _ _ here) rest, sameOuter, sameFinished⟩

/-- The locals change alike, since the blocks are the same. -/
theorem modifyBlocks (same : Same classpath first second) (change : List Block → List Block) :
    Same classpath (first.modifyBlocks change) (second.modifyBlocks change) := by
  obtain ⟨frames, outer, finished⟩ := first
  obtain ⟨frames', outer', finished'⟩ := second
  obtain ⟨alike, sameOuter, sameFinished⟩ := same
  cases alike with
  | nil => exact ⟨.nil, congrArg change sameOuter, sameFinished⟩
  | cons here rest =>
    exact ⟨.cons ⟨here.path, here.members, here.nested, congrArg change here.blocks, here.method,
      here.anonymous⟩ rest, sameOuter, sameFinished⟩

/-- Entering a class under the same path keeps what is known the same. -/
theorem pushFrame (same : Same classpath first second) (path : String) :
    Same classpath (first.pushFrame path) (second.pushFrame path) :=
  ⟨.cons (.refl _) same.frames, same.outer, same.finished⟩

/-- Leaving a class keeps what is known the same: the class that was walked is known behind it in both. -/
theorem popFrame (same : Same classpath first second) : Same classpath first.popFrame second.popFrame := by
  obtain ⟨frames, outer, finished⟩ := first
  obtain ⟨frames', outer', finished'⟩ := second
  obtain ⟨alike, sameOuter, sameFinished⟩ := same
  cases alike with
  | nil => exact ⟨.nil, sameOuter, sameFinished⟩
  | @cons frame frame' _ _ here rest =>
    refine ⟨rest, sameOuter, fun path => ?_⟩
    simp only [Scope.popFrame, Bindings.find?_insert, here.path]
    by_cases named : frame'.path = path
    · rw [if_pos named, if_pos named]
      exact .inl (.some here.members)
    · rw [if_neg named, if_neg named]
      exact sameFinished path

/-- Entering a method in both, or leaving one, keeps what is known the same, whatever its signature. -/
theorem setMethod (same : Same classpath first second) {method method' : Option String}
    (set : method.isSome = method'.isSome) :
    Same classpath (first.setMethod method) (second.setMethod method') :=
  same.modifyFrame fun _ _ alike =>
    ⟨alike.path, alike.members, alike.nested, alike.blocks, set, alike.anonymous⟩

/-- Counting an anonymous class keeps what is known the same. -/
theorem countAnonymous (same : Same classpath first second) :
    Same classpath first.countAnonymous second.countAnonymous :=
  same.modifyFrame fun _ _ alike =>
    ⟨alike.path, alike.members, alike.nested, alike.blocks, alike.method,
      congrArg (· + 1) alike.anonymous⟩

/-- A class is named in the innermost frame. -/
theorem nameClass (same : Same classpath first second) (name path : String) :
    Same classpath
      (first.modifyFrame fun frame => { frame with nested := frame.nested.insert name path })
      (second.modifyFrame fun frame => { frame with nested := frame.nested.insert name path }) := by
  refine same.modifyFrame fun frame frame' alike =>
    ⟨alike.path, alike.members, fun other => ?_, alike.blocks, alike.method, alike.anonymous⟩
  rw [Bindings.find?_insert, Bindings.find?_insert, alike.nested]

/-! ### Questions about the place -/

/-- One scope is in a method when the other is. -/
theorem method? (same : Same classpath first second) : first.method?.isSome = second.method?.isSome := by
  have frames := same.frame?
  unfold Scope.method?
  generalize first.frame? = left at frames
  generalize second.frame? = right at frames
  cases frames with
  | none => rfl
  | some alike => exact alike.method

/-- The next anonymous class gets the same path. -/
theorem anonymousPath (same : Same classpath first second) :
    first.anonymousPath = second.anonymousPath := by
  have frames := same.frame?
  unfold Scope.anonymousPath
  generalize first.frame? = left at frames
  generalize second.frame? = right at frames
  cases frames with
  | none => rfl
  | some alike => simp only [alike.path, alike.anonymous]

/-- `super` stands for the same class. -/
theorem superClass (same : Same classpath first second) : frameSuperClass first = frameSuperClass second := by
  have frames := same.frame?
  unfold frameSuperClass
  generalize first.frame? = left at frames
  generalize second.frame? = right at frames
  cases frames with
  | none => rfl
  | some alike => simp only [Option.bind_some, alike.members.superClass]

end Same

/-- For a class that is no matter, the class path decides. -/
theorem memberWithin_settled {env : Env} {scope : Scope} {path : String}
    (settled : Settled env.classpath path (scope.sourceType? path)) (name : String) (kind : MemberKind)
    (steps : Nat) :
    memberWithin env scope name kind (steps + 1) path = env.classpath.findMember path name kind := by
  rw [memberWithin]
  cases left : scope.sourceType? path with
  | none => rfl
  | some type =>
    have answers := settled.answers type left
    cases found : (membersOf type kind).find? name with
    | some memberType =>
      simp only [found]
      exact (answers.members kind name memberType found).symm
    | none => simp only [found, if_pos settled.known]

section Questions

variable {env : Env} {first second : Scope} (same : Same env.classpath first second)

include same

/-- A class that is declared gets the same path. -/
theorem declaredPath_same (name : String) : declaredPath env first name = declaredPath env second name := by
  have frames := same.frame?
  unfold declaredPath
  generalize first.frame? = left at frames
  generalize second.frame? = right at frames
  cases frames with
  | none => rfl
  | some alike => simp only [alike.path, alike.method]

/-! ### Types -/

/-- A type is known in one scope when it is in the other. -/
theorem knows_same (path : String) : env.knows first path = env.knows second path := by
  unfold Env.knows
  rcases same.sourceType? path with alike | ⟨settled, -⟩
  · generalize first.sourceType? path = left at alike
    generalize second.sourceType? path = right at alike
    cases alike <;> rfl
  · rw [settled.known, Bool.true_or, Bool.true_or]

/-- A dotted name is cut into package and classes at the same place. -/
theorem absoluteType_same (dotted : String) :
    absoluteType env first dotted = absoluteType env second dotted := by
  simp only [absoluteType, knows_same same]

theorem enclosingType_same (name : String) :
    enclosingType first.frames name = enclosingType second.frames name :=
  Same.findSome?_frames same.frames fun frame frame' alike => by rw [alike.path, alike.nested]

/-- A simple name stands for the same type. -/
theorem simpleType_same (name : String) : simpleType env first name = simpleType env second name := by
  simp only [simpleType, ambientType, enclosingType_same same, knows_same same, absoluteType_same same]

/-- **Names of types** stand for the same types. -/
theorem namedType_same (dotted : String) : namedType env first dotted = namedType env second dotted := by
  simp only [namedType, simpleType_same same, absoluteType_same same]

/-- **A node denotes the same type in both.** By induction on the node. -/
theorem typeOf_same (node : Node) : typeOf env first node = typeOf env second node := by
  induction node using Node.induct with
  | step node ih =>
    have below {found : Option Node} (inside : ∀ child ∈ found, child ∈ node.children) :
        found.bind (typeOf env first) = found.bind (typeOf env second) := by
      cases found with
      | none => rfl
      | some child => exact ih child (inside child rfl)
    rw [typeOf_eq, typeOf_eq env second]
    cases TypeForm.ofKind node.kind with
    | simple => simp only [simpleType_same same]
    | qualified => simp only [namedType_same same]
    | parameterized => exact below fun _ found => Node.mem_of_named (List.mem_of_find?_eq_some found)
    | array =>
      cases found : node.child? "element" with
      | none => rfl
      | some element =>
        simp only [Option.bind_some]
        rw [ih element (Node.mem_of_child? found)]
    | annotated =>
      exact below fun _ found => Node.mem_of_named (List.mem_filter.mp (List.mem_of_getLast? found)).1
    | _ => rfl

/-! ### Members -/

/-- **A member is declared by the same type in both.** By induction on the steps up the hierarchy; for a
class that the class path answers for, the class path decides. -/
theorem memberWithin_same (name : String) (kind : MemberKind) (steps : Nat) :
    memberWithin env first name kind steps = memberWithin env second name kind steps := by
  induction steps with
  | zero => rfl
  | succ steps ih =>
    funext path
    rcases same.sourceType? path with alike | ⟨settled, settled'⟩
    · rw [memberWithin, memberWithin, ih]
      generalize first.sourceType? path = left at alike
      generalize second.sourceType? path = right at alike
      cases alike with
      | none => rfl
      | some alike => simp only [alike.membersOf, alike.supertypesOf]
    · rw [memberWithin_settled settled, memberWithin_settled settled']

/-- **The search for a member** gives the same answer. -/
theorem memberOf_same (path name : String) (kind : MemberKind) :
    memberOf env first path name kind = memberOf env second path name kind := by
  rw [memberOf, memberOf, memberWithin_same same]

/-- A class inherits the same fields. -/
theorem inheritedField_same {frame frame' : Frame} (alike : frame.Alike frame') (name : String) :
    inheritedField env first frame name = inheritedField env second frame' name := by
  simp only [inheritedField, alike.path, alike.members.supertypesOf, memberOf_same same]

/-- A class inherits the same methods. -/
theorem inheritedMethod_same {frame frame' : Frame} (alike : frame.Alike frame') (name : String) :
    inheritedMethod env first frame name = inheritedMethod env second frame' name := by
  simp only [inheritedMethod, alike.path, alike.members.supertypesOf, memberOf_same same]

/-- **A name stands for the same variable or field in both.** -/
theorem lookup_same (name : String) :
    first.lookup name (inheritedField env first) = second.lookup name (inheritedField env second) := by
  have frames : first.frames.findSome? (Scope.inFrame name (inheritedField env first)) =
      second.frames.findSome? (Scope.inFrame name (inheritedField env second)) :=
    Same.findSome?_frames same.frames fun frame frame' alike => by
      simp only [Scope.inFrame, alike.blocks, alike.members.fields, alike.path,
        inheritedField_same same alike]
  simp only [Scope.lookup, frames, same.outer]

/-- A name that is imported statically stands for the same member. -/
theorem staticImport_same (name : String) (kind : MemberKind) :
    staticImport env first name kind = staticImport env second name kind := by
  simp only [staticImport, singleStaticImport, absoluteType_same same, memberOf_same same]

/-- A call without a receiver asks the same classes around it, one after the other. -/
theorem enclosingMethod_same (name : String) (candidate : Option Attribution) :
    enclosingMethod env first name candidate first.frames =
      enclosingMethod env second name candidate second.frames := by
  have frames : ∀ {frames frames' : List Frame}, List.Forall₂ Frame.Alike frames frames' →
      ∀ candidate, enclosingMethod env first name candidate frames =
        enclosingMethod env second name candidate frames' := by
    intro frames frames' alike
    induction alike with
    | nil => exact fun _ => rfl
    | cons here _ ih =>
      intro candidate
      simp only [enclosingMethod, here.members.methods, here.path, inheritedMethod_same same here, ih]
  exact frames same.frames candidate

/-- **A method that is called without a receiver is declared by the same type in both.** -/
theorem implicitMethod_same (name : String) :
    implicitMethod env first name = implicitMethod env second name := by
  simp only [implicitMethod, enclosingMethod_same same, staticImport_same same, same.path?]

end Questions

end Walk

end SymbolIndex
