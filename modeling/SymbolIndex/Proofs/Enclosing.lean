import SymbolIndex.Proofs.Grammar

/-!
# The member around a place

A place in a tree is a node with the nodes above it, the innermost first. Code belongs to the member
around its place, and the innermost class body ends the search for one. `methodAround` says it in the
order of importance: a method or constructor if there is one, else the initialiser, else the code that
initialises objects. `around?` says it step by step on the way down, the nearest member first. The two
agree (`around?_eq`), because in a grammatical tree members stand in class bodies and nowhere else.

`Housed` is what is assumed of a tree for this, and no more: where bodies and members stand, and of
which kinds the lists and declarators are that hold names. Comments may stand anywhere.
-/

namespace SymbolIndex.Walk

open SymbolIndex.Tree (Node Cursor)

/-! ## Places -/

/-- The places of a tree. -/
inductive Place (root : Node) : List Node → Prop
  | root : Place root [root]
  | down {child node : Node} {above : List Node} (place : Place root (node :: above))
      (inside : child ∈ node.children) : Place root (child :: node :: above)

/-- What holds everywhere in a tree holds at and below each of its places. -/
theorem Place.all {root node : Node} {above : List Node} {holds : Node → Bool}
    (place : Place root (node :: above)) (all : root.all holds) : node.all holds := by
  generalize same : node :: above = nodes at place
  induction place generalizing node above with
  | root =>
    cases same
    exact all
  | down place inside ih =>
    cases same
    exact (Node.all_iff.mp (ih rfl)).2 _ inside

/-- The place of a cursor. -/
def placeOf (cursor : Cursor) : List Node :=
  cursor.node :: cursor.above

/-! ## Where members stand -/

/-- The kinds of nodes that declare a method or a constructor. -/
def methodKinds : List String :=
  ["method_declaration", "constructor_declaration", "compact_constructor_declaration"]

/-- The kinds of nodes that declare fields. -/
def fieldKinds : List String :=
  ["field_declaration", "constant_declaration"]

/-- The kinds of members that stand in class bodies only. A method may also stand by itself in a
file. -/
def memberOnlyKinds : List String :=
  methodKinds ++ fieldKinds ++ ["static_initializer", "enum_constant"]

/-- A node whose children stand where the grammar has them. -/
@[mk_iff]
structure Houses (node : Node) : Prop where
  /-- A class body belongs to what declares the class. -/
  owned : ∀ child ∈ node.children, child.kind ∈ bodyKinds →
    node.kind ∈ memberKinds ∧ child.plays "body" ∨
      node.kind = "object_creation_expression" ∧ child.kind = "class_body"
  bodies : node.kind ∈ memberKinds → ∀ child ∈ node.childrenIn "body", child.kind ∈ bodyKinds
  members : ∀ child ∈ node.children, child.kind ∈ memberOnlyKinds →
    node.kind ∈ bodyKinds ++ ["enum_body_declarations", "program"]
  /-- The members of an enum may follow its constants. -/
  enumMembers : ∀ child ∈ node.children, child.kind = "enum_body_declarations" →
    node.kind = "enum_body"
  topmost : ∀ child ∈ node.children, child.kind ≠ "program"
  declarators : ∀ child ∈ node.childrenIn "declarator", child.kind = "variable_declarator"
  parameters : ∀ child ∈ node.childrenIn "parameters",
    child.kind ∈ ["formal_parameters", "inferred_parameters", "identifier"]
  resources : node.kind = "resource_specification" →
    ∀ child ∈ node.named, child.kind ∈ ["resource", "line_comment", "block_comment"]

instance (node : Node) : Decidable (Houses node) :=
  decidable_of_iff' _ (houses_iff node)

/-- A tree in which everything stands where the grammar has it. -/
def Housed (root : Node) : Prop :=
  root.all fun node => decide (Houses node)

instance (root : Node) : Decidable (Housed root) :=
  inferInstanceAs (Decidable (_ = true))

namespace Housed

variable {root node child : Node} {above : List Node}

/-- In a housed tree the node itself has bodies and members only where its kind has them. -/
theorem here (housed : Housed node) : Houses node :=
  of_decide_eq_true (Node.all_iff.mp housed).1

/-- The children of a housed node are housed. -/
theorem below (housed : Housed node) (member : child ∈ node.children) : Housed child :=
  (Node.all_iff.mp housed).2 child member

/-- A housed tree is so at each of its places. -/
theorem atPlace (housed : Housed root) (place : Place root (node :: above)) : Housed node :=
  place.all housed

/-- Only what declares a class has a class body. -/
theorem outside (housed : Housed node) (member : child ∈ node.children)
    (notMember : node.kind ∉ memberKinds) (notCreation : node.kind ≠ "object_creation_expression") :
    child.kind ∉ bodyKinds := by
  intro isBody
  rcases housed.here.owned child member isBody with ⟨declares, _⟩ | ⟨creates, _⟩
  · exact notMember declares
  · exact notCreation creates

end Housed

/-! ## The member of a place -/

section Member

variable (env : Env)

/-- The signature that a node declares, if it is a method or a constructor. The components of a record
are the parameters of its compact constructors. -/
def declaredSignature? (node : Node) (above : List Node) : Option String :=
  if node.kind ∈ methodKinds then
    (node.child? "name").map fun name => signature (env.text name) <|
      if node.kind = "compact_constructor_declaration" then componentsOf env {} above.tail.head?
      else parameters env {} (node.child? "parameters")
  else none

/-- The method name of the initial value of a field. -/
def fieldInit (declaration : Node) : String :=
  if declaration.kind == "constant_declaration" || declaration.hasModifier "static" then classInit
  else instanceInit

/-- The method name of what stands in a child of a node, if the node is an initialiser: a static one,
a block directly in a class body, the value of a field, the arguments of an enum constant. -/
def initializer? (node : Node) (above : List Node) (child : Node) : Option String :=
  if node.kind = "static_initializer" then some classInit
  else if node.kind = "block" then
    if above.head?.map (·.kind) = some "class_body" then some instanceInit else none
  else if node.kind = "variable_declarator" ∧ child.plays "value" then
    (above.head?.filter (·.kind ∈ fieldKinds)).map fieldInit
  else if node.kind = "enum_constant" ∧ child.plays "arguments" then some classInit
  else none

/-- The signature of the nearest method or constructor among nodes, up to the innermost class body. -/
def signatureAround? : List Node → Option String
  | [] => none
  | node :: above =>
    if node.kind ∈ bodyKinds then none
    else (declaredSignature? env node above).or (signatureAround? above)

/-- The method name of the nearest initialiser around a place, up to the innermost class body. -/
def initializerAround? : List Node → Option String
  | child :: node :: above =>
    if node.kind ∈ bodyKinds then none
    else (initializer? node above child).or (initializerAround? (node :: above))
  | _ => none

/-- The method name of what stands at a place. -/
def methodAround (place : List Node) : String :=
  ((signatureAround? env place.tail).or (initializerAround? place)).getD instanceInit

/-- The method name that comes with the step down from a place to a child. -/
def memberName? (place : List Node) (child : Node) : Option String :=
  match place with
  | [] => none
  | node :: above => (declaredSignature? env node above).or (initializer? node above child)

/-- The method name of what stands at a place, the nearest member first. -/
def around? : List Node → Option String
  | [] => none
  | node :: above =>
    if node.kind ∈ bodyKinds then none else (memberName? env above node).or (around? above)

/-- Whether a place is a class body or lies in one. -/
def InBody (place : List Node) : Prop :=
  ∃ node ∈ place, node.kind ∈ bodyKinds

end Member

variable {env : Env}

/-- Only methods and constructors have signatures. -/
theorem declaredSignature?_eq_none {node : Node} (notMethod : node.kind ∉ methodKinds)
    (above : List Node) : declaredSignature? env node above = none :=
  if_neg notMethod

/-- The kinds of nodes that give a method name to what lies below. The declarator of a field does so,
too. -/
def namingKinds : List String :=
  methodKinds ++ ["static_initializer", "block", "enum_constant"]

/-- Below other nodes the method name is that of the place. -/
theorem memberName?_eq_none {node : Node} {above : List Node} (free : node.kind ∉ namingKinds)
    (apart : node.kind = "variable_declarator" → ∀ parent ∈ above.head?, parent.kind ∉ fieldKinds)
    (child : Node) : memberName? env (node :: above) child = none := by
  simp only [namingKinds, List.mem_append, List.mem_cons, List.not_mem_nil, or_false, not_or] at free
  obtain ⟨notMethod, notStatic, notBlock, notConstant⟩ := free
  have noField : node.kind = "variable_declarator" →
      above.head?.filter (·.kind ∈ fieldKinds) = none := by
    intro isDeclarator
    rw [Option.filter_eq_none_iff]
    simpa using apart isDeclarator
  rw [memberName?, declaredSignature?_eq_none notMethod, Option.none_or, initializer?,
    if_neg notStatic, if_neg notBlock]
  split
  · rename_i isValue
    rw [noField isValue.1]
    rfl
  · exact if_neg fun isConstant => notConstant isConstant.1

/-- No class body is a member. -/
theorem memberName?_body {node : Node} (isBody : node.kind ∈ bodyKinds) (above : List Node)
    (child : Node) : memberName? env (node :: above) child = none := by
  have kinds : ∀ kind ∈ bodyKinds, kind ∉ namingKinds ∧ kind ≠ "variable_declarator" := by decide
  obtain ⟨free, notDeclarator⟩ := kinds _ isBody
  exact memberName?_eq_none free (fun same => absurd same notDeclarator) child

section Agreement

variable {root : Node}

/-- No method stands between a member and the class body it stands in. -/
theorem signatureAround?_member (housed : Housed root) {member : Node} {above : List Node}
    (place : Place root (member :: above)) (isMember : member.kind ∈ memberOnlyKinds) :
    signatureAround? env above = none := by
  cases place with
  | root => rfl
  | @down _ node outer around inside =>
    have kinds := (housed.atPlace around).here.members member inside isMember
    rcases List.mem_append.mp kinds with isBody | other
    · exact if_pos isBody
    · simp only [List.mem_cons, List.not_mem_nil, or_false] at other
      have notBody : node.kind ∉ bodyKinds := by
        rcases other with same | same <;> rw [same] <;> decide
      have notMethod : node.kind ∉ methodKinds := by
        rcases other with same | same <;> rw [same] <;> decide
      rw [signatureAround?, if_neg notBody, declaredSignature?_eq_none notMethod, Option.none_or]
      cases around with
      | root => rfl
      | @down _ parent outermost around inside =>
        have houses := (housed.atPlace around).here
        rcases other with enumMembers | program
        · have isBody : parent.kind ∈ bodyKinds := by
            rw [houses.enumMembers node inside enumMembers]
            decide
          exact if_pos isBody
        · exact absurd program (houses.topmost node inside)

/-- No method stands around an initialiser in its class body. -/
theorem signatureAround?_initializer (housed : Housed root) {node child : Node} {above : List Node}
    (place : Place root (node :: above)) {method : String}
    (initializes : initializer? node above child = some method) :
    signatureAround? env above = none := by
  unfold initializer? at initializes
  split at initializes
  · rename_i isStatic
    exact signatureAround?_member housed place (by rw [isStatic]; decide)
  · split at initializes
    · split at initializes
      · rename_i inBody
        cases above with
        | nil => rfl
        | cons body outer =>
          have isClassBody : body.kind = "class_body" := Option.some.inj inBody
          have isBody : body.kind ∈ bodyKinds := by
            rw [isClassBody]
            decide
          exact if_pos isBody
      · cases initializes
    · split at initializes
      · cases above with
        | nil => rfl
        | cons field outer =>
          obtain ⟨_, found, _⟩ := Option.map_eq_some_iff.mp initializes
          have isField : field.kind ∈ fieldKinds := by
            obtain ⟨same, held⟩ := Option.filter_eq_some_iff.mp found
            cases same
            simpa using held
          have kinds : ∀ kind ∈ fieldKinds, kind ∈ memberOnlyKinds ∧ kind ∉ methodKinds := by decide
          obtain ⟨isMember, notMethod⟩ := kinds _ isField
          cases place with
          | down around inside =>
            rw [signatureAround?, declaredSignature?_eq_none notMethod, Option.none_or,
              signatureAround?_member housed around isMember, ite_self]
      · split at initializes
        · rename_i isConstant
          exact signatureAround?_member housed place (by rw [isConstant.1]; decide)
        · cases initializes

/-- **The nearest member is the member that matters.** By induction on the way up: members do not nest
within one class body, so a nearer initialiser hides no method. -/
theorem around?_eq (housed : Housed root) {node : Node} {above : List Node}
    (place : Place root (node :: above)) (outside : node.kind ∉ bodyKinds) :
    around? env (node :: above) =
      (signatureAround? env above).or (initializerAround? (node :: above)) := by
  induction above generalizing node with
  | nil => rw [around?, if_neg outside]; rfl
  | cons parent above ih =>
    cases place with
    | down around inside =>
      rw [around?, if_neg outside]
      by_cases isBody : parent.kind ∈ bodyKinds
      · rw [memberName?_body isBody, around?, if_pos isBody, signatureAround?, if_pos isBody,
          initializerAround?, if_pos isBody]
      · rw [ih around isBody, signatureAround?, if_neg isBody, initializerAround?, if_neg isBody,
          memberName?]
        cases initializes : initializer? parent above node with
        | none => simp only [Option.or_none, Option.none_or, Option.or_assoc]
        | some method =>
          rw [signatureAround?_initializer housed around initializes]
          simp only [Option.or_none, Option.none_or, Option.or_assoc]

theorem methodAround_eq (housed : Housed root) {node : Node} {above : List Node}
    (place : Place root (node :: above)) (outside : node.kind ∉ bodyKinds) :
    methodAround env (node :: above) = (around? env (node :: above)).getD instanceInit := by
  rw [around?_eq housed place outside]
  rfl

end Agreement

end SymbolIndex.Walk
