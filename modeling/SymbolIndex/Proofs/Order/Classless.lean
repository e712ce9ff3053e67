import SymbolIndex.Proofs.Leavings
import SymbolIndex.Proofs.Nesting

/-!
# Nodes without classes

A walk enters class bodies where the tree has a class: a declaration of one, an object that is created with a
body, or a constant of an enum with one. `Classless` says of a node that there is none inside, and computes.
The scripts of such nodes enter no class body (`visitScript_bodiless`, `denoteScript_bodiless`), so no class
stays behind the node (`Classless.leavings`).
-/

namespace SymbolIndex.Walk

open SymbolIndex.Tree (Node Cursor)

/-- A node that brings a class with it. -/
def bringsClass (node : Node) : Bool :=
  declaresType node.kind || (creationBody? node).isSome ||
    node.kind == "enum_constant" && (node.child? "body").isSome

/-- A node with no class inside. -/
def Classless (node : Node) : Prop :=
  node.all (!bringsClass ·)

instance (node : Node) : Decidable (Classless node) :=
  inferInstanceAs (Decidable (_ = true))

/-! ## Scripts that enter no class body -/

/-- A script that enters no class body itself. -/
def Script.bodiless : Script → Bool
  | .seq first second => first.bodiless && second.bodiless
  | .under _ inner | .block inner | .member inner => inner.bodiless
  | .body _ _ => false
  | .skip | .visit | .denote _ | .bind _ => true

namespace Script

variable {α : Type}

/-- Scripts that enter no body enter none one after the other. -/
theorem bodiless_seq {first second : Script} (bodiless : first.bodiless) (bodiless' : second.bodiless) :
    (Script.seq first second).bodiless := by
  simp only [Script.bodiless, bodiless, bodiless', Bool.and_self]

/-- A list of such scripts enters none. -/
theorem bodiless_each {script : α → Script} (each : ∀ item, (script item).bodiless) (items : List α) :
    (Script.each script items).bodiless := by
  induction items with
  | nil => rfl
  | cons item items ih => exact bodiless_seq (each item) ih

theorem bodiless_optional {script : α → Script} (each : ∀ item, (script item).bodiless) (item : Option α) :
    (Script.optional script item).bodiless := by
  cases item with
  | none => rfl
  | some item => exact each item

/-- A script that is left out unless references are recorded enters none more. -/
theorem bodiless_recorded {script : Script} (bodiless : script.bodiless) (recording : Bool) :
    (Script.recorded recording script).bodiless := by
  cases recording with
  | false => rfl
  | true => exact bodiless

/-- Visiting nodes enters no body by itself; what the visits do is their own script's matter. -/
theorem bodiless_visitEach (nodes : List Node) : (visitEach nodes).bodiless :=
  bodiless_each (fun _ => rfl) nodes

theorem bodiless_visitOptional (node : Option Node) : (visitOptional node).bodiless :=
  bodiless_optional (fun _ => rfl) node

theorem bodiless_denoteOptional (recording : Bool) (node : Option Node) :
    (denoteOptional recording node).bodiless :=
  bodiless_optional (fun _ => rfl) node

theorem bodiless_bindEach (names : List Node) : (bindEach names).bodiless :=
  bodiless_each (fun _ => rfl) names

end Script

section Constructs

open Script

variable {env : Env} (node : Node)

/-- A field declaration walks its values. -/
theorem fieldScript_bodiless : (fieldScript node).bodiless := by
  unfold fieldScript
  split
  · rfl
  · exact bodiless_optional (fun _ => rfl) (node.child? "value")

/-- A method binds its parameters and walks its block, which is no class body. -/
theorem methodScript_bodiless (names : List Node) : (methodScript names node).bodiless := by
  unfold methodScript
  split
  · rfl
  · exact bodiless_seq (bodiless_bindEach names) (bodiless_visitOptional _)

/-- A variable is bound behind its value. -/
theorem variableScript_bodiless (type : Option Node) : (variableScript env type node).bodiless := by
  unfold variableScript
  split
  · rfl
  · refine bodiless_seq (bodiless_optional (fun value => ?_) _) rfl
    cases isInferred env type <;> rfl

theorem caughtScript_bodiless : (caughtScript node).bodiless := by
  unfold caughtScript
  split
  · exact bodiless_bindEach _
  · rfl

/-- A `try` walks its resources and its blocks. -/
theorem tryScript_bodiless : (tryScript env node).bodiless := by
  unfold tryScript
  split
  · refine bodiless_each (fun resource => ?_) node.named
    show (resourceScript env resource).bodiless
    unfold resourceScript
    split
    · exact variableScript_bodiless resource _
    · exact bodiless_visitEach _
  · rfl

theorem instanceofScript_bodiless : (instanceofScript node).bodiless := by
  unfold instanceofScript
  split
  · exact bodiless_visitEach _
  · exact bodiless_seq (bodiless_visitOptional _) rfl

theorem nameScript_bodiless (cursor : Cursor) : (nameScript cursor).bodiless := by
  unfold nameScript
  split
  · rfl
  · split <;> rfl

theorem accessScript_bodiless (recording : Bool) : (accessScript recording node).bodiless := by
  unfold accessScript
  split <;> rfl

/-- A call denotes its object and walks its arguments. -/
theorem callScript_bodiless (recording : Bool) : (callScript recording node).bodiless := by
  unfold callScript
  split
  · rfl
  · exact bodiless_seq (bodiless_denoteOptional _ _) (bodiless_recorded (bodiless_visitOptional _) recording)

theorem referenceScript_bodiless (recording : Bool) : (referenceScript recording node).bodiless := by
  unfold referenceScript
  split
  · rfl
  · split <;> rfl

theorem elementScript_bodiless (recording : Bool) : (elementScript recording node).bodiless := by
  unfold elementScript
  split
  · rfl
  · exact bodiless_seq rfl (bodiless_recorded (bodiless_visitOptional _) recording)

variable {node}

/-- A creation enters a body only when it has one. -/
theorem creationScript_bodiless (plain : creationBody? node = none) : (creationScript node).bodiless := by
  unfold creationScript
  rw [plain]
  exact bodiless_seq (bodiless_visitEach _) rfl

/-- An enum constant enters a body only when it has one. -/
theorem constantScript_bodiless (plain : node.child? "body" = none) : (constantScript node).bodiless := by
  unfold constantScript
  split
  · rfl
  · rw [plain]
    exact bodiless_seq (bodiless_optional (fun _ => rfl) _) rfl

/-- **A visit enters no class body** where the node brings no class. -/
theorem visitScript_bodiless {cursor : Cursor} (plain : bringsClass cursor.node = false) :
    (visitScript env cursor).bodiless := by
  simp only [bringsClass, Bool.or_eq_false_iff, Option.isSome_eq_false_iff, Option.isNone_iff_eq_none] at plain
  obtain ⟨⟨noType, noBody⟩, noConstant⟩ := plain
  unfold visitScript
  cases construct : Construct.ofKind cursor.kind with
  | skipped => rfl
  | type =>
    have kinds : ∀ entry ∈ Construct.kinds, entry.2 = .type → declaresType entry.1 = true := by decide
    have declares : declaresType cursor.node.kind = true :=
      kinds _ (Construct.mem_kinds construct (by decide)) rfl
    rw [noType] at declares
    cases declares
  | fields => exact bodiless_each fieldScript_bodiless _
  | method => exact methodScript_bodiless _ _
  | compactConstructor => exact methodScript_bodiless _ _
  | enumConstant =>
    have isKind : cursor.node.kind = "enum_constant" := Construct.kind_eq construct (by decide) (by decide)
    refine constantScript_bodiless (Option.isNone_iff_eq_none.mp ?_)
    rw [isKind] at noConstant
    exact Option.isSome_eq_false_iff.mp noConstant
  | staticInitializer => exact bodiless_visitEach cursor.node.named
  | block =>
    simp only
    split
    · exact bodiless_visitEach cursor.node.named
    · exact bodiless_visitEach cursor.node.named
  | blockLike => exact bodiless_visitEach cursor.node.named
  | locals =>
    refine bodiless_each (fun declarator => ?_) _
    exact variableScript_bodiless declarator (cursor.node.child? "type")
  | loop => exact bodiless_seq (variableScript_bodiless _ _) (bodiless_visitOptional _)
  | catchClause => exact bodiless_each caughtScript_bodiless cursor.node.named
  | resources => exact bodiless_each tryScript_bodiless cursor.node.named
  | instanceof => exact instanceofScript_bodiless _
  | pattern => exact bodiless_bindEach _
  | lambda => exact bodiless_seq (bodiless_bindEach _) (bodiless_visitOptional _)
  | creation => exact creationScript_bodiless noBody
  | access => rfl
  | name => exact nameScript_bodiless cursor
  | other => exact bodiless_visitEach _

/-- **What a node without a class denotes is found without entering a body.** -/
theorem denoteScript_bodiless {cursor : Cursor} (plain : bringsClass cursor.node = false) (recording : Bool) :
    (denoteScript cursor recording).bodiless := by
  simp only [bringsClass, Bool.or_eq_false_iff, Option.isSome_eq_false_iff, Option.isNone_iff_eq_none] at plain
  obtain ⟨⟨-, noBody⟩, -⟩ := plain
  unfold denoteScript
  cases ExprForm.ofKind cursor.kind with
  | name => rfl
  | this => rfl
  | super => rfl
  | text => rfl
  | classLiteral => rfl
  | field => exact accessScript_bodiless _ recording
  | call => exact callScript_bodiless _ recording
  | reference => exact referenceScript_bodiless _ recording
  | parenthesized => exact bodiless_denoteOptional recording _
  | element => exact elementScript_bodiless _ recording
  | cast => exact bodiless_recorded (bodiless_visitOptional _) recording
  | creation => exact bodiless_recorded (creationScript_bodiless noBody) recording
  | arrayCreation => exact bodiless_recorded (bodiless_visitEach _) recording
  | other => exact bodiless_recorded rfl recording

end Constructs

/-! ## What classless nodes leave -/

/-- A script that stays below a node stays at it or below. -/
theorem Script.Within.mono {itself : Prop} {node : Node} {script : Script} (within : script.Within itself node) :
    script.Within True node := by
  induction script with
  | skip | visit | denote | bind => trivial
  | seq _ _ ih ih' => exact ⟨ih within.1, ih' within.2⟩
  | under child inner => exact within
  | block _ ih | member _ ih | body _ _ ih => exact ih within

/-- A visit goes to a node's children, or to the node itself once more. -/
theorem visitScript_withinItself (env : Env) (cursor : Cursor) :
    (visitScript env cursor).Within True cursor.node := by
  by_cases isAccess : Construct.ofKind cursor.kind = .access
  · simp only [visitScript, isAccess]
    trivial
  · by_cases isName : Construct.ofKind cursor.kind = .name
    · simp only [visitScript, isName]
      unfold nameScript
      split
      · trivial
      · split <;> trivial
    · exact (visitScript_within isAccess isName).mono

/-- The search for what a node denotes goes to its children, or to the node itself once more. -/
theorem denoteScript_withinItself (cursor : Cursor) (recording : Bool) :
    (denoteScript cursor recording).Within True cursor.node := by
  by_cases isOther : ExprForm.ofKind cursor.kind = .other
  · simp only [denoteScript, isOther]
    cases recording <;> trivial
  · exact (denoteScript_within recording isOther).mono

/-- Leavings without classes. -/
def NoClasses (left : List Leaving) : Prop :=
  ∀ leaving ∈ left, leaving.isClass = false

/-- What two parts leave behind has no class when neither part leaves one. -/
theorem NoClasses.append {left left' : List Leaving} (none : NoClasses left) (none' : NoClasses left') :
    NoClasses (left ++ left') :=
  List.forall_mem_append.mpr ⟨none, none'⟩

/-- A script that enters no class body leaves no class, if nothing below does. -/
theorem Script.leavings_noClasses {below : Reading (List Leaving)} {script : Script} {cursor : Cursor}
    (bodiless : script.bodiless) (within : script.Within True cursor.node) (classless : Classless cursor.node)
    (visits : ∀ cursor, Classless cursor.node → NoClasses (below.visit cursor))
    (denotes : ∀ cursor recording, Classless cursor.node → NoClasses (below.denote cursor recording)) :
    NoClasses (script.leavings below cursor) := by
  induction script generalizing cursor with
  | skip => exact fun _ absent => nomatch absent
  | seq first second ih ih' =>
    rw [Script.bodiless, Bool.and_eq_true] at bodiless
    exact (ih bodiless.1 within.1 classless).append (ih' bodiless.2 within.2 classless)
  | visit => exact visits cursor classless
  | denote recording => exact denotes cursor recording classless
  | bind name =>
    intro leaving listed
    rw [List.mem_singleton.mp listed]
    rfl
  | under child inner ih =>
    exact ih bodiless within.2 ((Node.all_iff.mp classless).2 child within.1)
  | block inner ih =>
    intro leaving listed
    exact ih bodiless within classless leaving (List.mem_filter.mp listed).1
  | member inner ih =>
    intro leaving listed
    obtain ⟨before, inside, rfl⟩ := List.mem_map.mp listed
    have none := ih bodiless within classless before inside
    cases before with
    | bound name => rfl
    | entered isLocal naming => cases none
  | body naming inner => cases bodiless

/-- **No class stays behind a classless node**, by induction on the levels left. -/
theorem Classless.leavings (env : Env) (room : Nat) :
    (∀ cursor, Classless cursor.node → NoClasses ((Walk.leavings env room).visit cursor)) ∧
      ∀ cursor recording, Classless cursor.node →
        NoClasses ((Walk.leavings env room).denote cursor recording) := by
  induction room with
  | zero => exact ⟨fun _ _ _ absent => (nomatch absent), fun _ _ _ _ absent => (nomatch absent)⟩
  | succ room ih =>
    obtain ⟨visits, denotes⟩ := ih
    have plain {cursor : Cursor} (classless : Classless cursor.node) : bringsClass cursor.node = false := by
      simpa using (Node.all_iff.mp classless).1
    constructor
    · intro cursor classless
      exact Script.leavings_noClasses (visitScript_bodiless (plain classless))
        (visitScript_withinItself env cursor) classless visits denotes
    · intro cursor recording classless
      exact Script.leavings_noClasses (denoteScript_bodiless (plain classless) recording)
        (denoteScript_withinItself cursor recording) classless visits denotes

end SymbolIndex.Walk
