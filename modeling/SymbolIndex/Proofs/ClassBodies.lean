import SymbolIndex.Proofs.Declarations
import SymbolIndex.Proofs.Enclosing
import SymbolIndex.Proofs.Script

/-!
# The class bodies of a tree

Where class bodies stand, and which of them have no name, can be read off a tree (`readIn`): the bodies of
created objects and of the constants of enums are anonymous, all others are declared. What a script finds is
said just as briefly (`Script.finds`), with the tree below every node that the script goes on with.

`visitScript_finds` and `denoteScript_finds` compare the two, construct by construct. Of a tree that follows
the grammar a script finds all class bodies, in document order, and none of them twice: an expression that is
typed once more finds nothing, and the arguments of a created object are walked before its body, where they
stand. `Walkable` is what is assumed of the tree. It leaves out the places that no walk looks at: annotations,
string literals, what is in front of `.this`, and the declarator of a `spread_parameter`.
-/

namespace SymbolIndex.Walk

open SymbolIndex.Tree (Node Cursor)

variable {β : Type}

/-! ## Reading class bodies off a tree -/

/-- The kinds of nodes whose class body is that of an anonymous class. -/
def anonymousKinds : List String :=
  ["object_creation_expression", "enum_constant"]

/-- What is made of a class body: whether its class is anonymous, the body, and what is found inside. -/
abbrev AtBody (β : Type) :=
  Bool → Node → List β → List β

mutual

/-- What is found in a tree, where something is made of each class body. -/
def readIn (atBody : AtBody β) : Node → List β
  | ⟨label, _, children⟩ => readBelow atBody label.kind children

/-- What is found in children of a node of the given kind. -/
def readBelow (atBody : AtBody β) (kind : String) : List Node → List β
  | [] => []
  | child :: others =>
    (if child.kind ∈ bodyKinds then atBody (decide (kind ∈ anonymousKinds)) child (readIn atBody child)
      else readIn atBody child) ++ readBelow atBody kind others

end

/-- What is found in one child. -/
def readPart (atBody : AtBody β) (kind : String) (child : Node) : List β :=
  if child.kind ∈ bodyKinds then atBody (decide (kind ∈ anonymousKinds)) child (readIn atBody child)
  else readIn atBody child

/-- What is read below a node is read from its children, one after the other. -/
theorem readBelow_eq (atBody : AtBody β) (kind : String) (children : List Node) :
    readBelow atBody kind children = children.flatMap (readPart atBody kind) := by
  induction children with
  | nil => simp [readBelow]
  | cons child others ih => simp [readBelow, readPart, ih]

/-- What is read in a node is read from its children, one after the other. -/
theorem readIn_eq (atBody : AtBody β) (node : Node) :
    readIn atBody node = node.children.flatMap (readPart atBody node.kind) := by
  cases node
  rw [readIn, readBelow_eq]
  rfl

/-- A child that is no body is read through. -/
theorem readPart_outside {atBody : AtBody β} {kind : String} {child : Node}
    (outside : child.kind ∉ bodyKinds) : readPart atBody kind child = readIn atBody child :=
  if_neg outside

/-- A body is read at its place, with what is read inside of it. -/
theorem readPart_body {atBody : AtBody β} {kind : String} {child : Node}
    (isBody : child.kind ∈ bodyKinds) : readPart atBody kind child =
      atBody (decide (kind ∈ anonymousKinds)) child (readIn atBody child) :=
  if_pos isBody

/-- A body and those inside of it. -/
def andInside : AtBody Node :=
  fun _ body inside => body :: inside

/-- A body, if it is that of an anonymous class. Those inside belong to it. -/
def ifAnonymous : AtBody Node :=
  fun anonymous body _ => if anonymous then [body] else []

/-- The class bodies in a tree, each in front of those inside of it. -/
def classBodies (root : Node) : List Node :=
  readIn andInside root

/-- The bodies of the anonymous classes whose innermost class body is the given one, in document order. -/
def anonymousIn (body : Node) : List Node :=
  readIn ifAnonymous body

/-! ## Lists in order -/

/-- What satisfies one of two conditions, if all that satisfies the first comes first. -/
theorem filter_or_eq_append {α : Type} {list : List α} {first second : α → Bool}
    (apart : ∀ item ∈ list, first item → second item = false)
    (ordered : list.Pairwise fun item next => ¬(second item ∧ first next)) :
    list.filter (fun item => first item || second item) = list.filter first ++ list.filter second := by
  induction list with
  | nil => rfl
  | cons item items ih =>
    obtain ⟨front, ordered⟩ := List.pairwise_cons.mp ordered
    have later := ih (fun other member => apart other (.tail _ member)) ordered
    cases isFirst : first item with
    | true =>
      have notSecond := apart item List.mem_cons_self isFirst
      simp only [List.filter_cons, isFirst, notSecond, Bool.or_false, if_true, later, List.cons_append]
      rfl
    | false =>
      cases isSecond : second item with
      | false =>
        simp only [List.filter_cons, isFirst, isSecond, Bool.or_false, Bool.false_eq_true, if_false]
        exact later
      | true =>
        -- behind an item of the second kind there is none of the first
        have none : items.filter first = [] := List.filter_eq_nil_iff.mpr fun other member isFirst' =>
          front other member ⟨isSecond, isFirst'⟩
        rw [none, List.nil_append] at later
        simp only [List.filter_cons, isFirst, isSecond, none, later, Bool.or_true, if_true]
        rfl

/-- Nodes in some roles that come in the order of the roles. -/
theorem filter_roles {roles : List String} {nodes : List Node}
    (ordered : nodes.Pairwise fun child next =>
      ∀ roles ∈ roleOrder, ¬(child.plays roles.2 ∧ next.plays roles.1))
    (inOrder : roles.Pairwise fun first second => (first, second) ∈ roleOrder) :
    nodes.filter (fun child => roles.any (child.plays ·)) =
      roles.flatMap fun role => nodes.filter (·.plays role) := by
  induction roles with
  | nil => exact List.filter_eq_nil_iff.mpr fun _ _ => Bool.false_ne_true
  | cons role roles ih =>
    obtain ⟨front, inOrder⟩ := List.pairwise_cons.mp inOrder
    have differ : ∀ roles ∈ roleOrder, roles.1 ≠ roles.2 := by decide
    rw [List.flatMap_cons, ← ih inOrder, ← filter_or_eq_append]
    · rfl
    · intro child _ plays
      refine List.any_eq_false.mpr fun other listed plays' => ?_
      exact Node.ne_of_roles plays plays' (differ _ (front other listed)) rfl
    · refine ordered.imp fun before ⟨later, earlier⟩ => ?_
      obtain ⟨other, listed, plays⟩ := List.any_eq_true.mp later
      exact before _ (front other listed) ⟨plays, earlier⟩

theorem mem_openRoles {node : Node} {roles : List String} (isOpen : openRoles? node = some roles) :
    (node.kind, roles) ∈ openRoles := by
  unfold openRoles? at isOpen
  split at isOpen
  · cases isOpen
  · exact mem_of_lookup isOpen

/-! ## Trees in which all class bodies can be found -/

/-- A tree without class bodies. -/
def Bodyless (node : Node) : Prop :=
  node.all fun node => decide (node.kind ∉ bodyKinds)

instance (node : Node) : Decidable (Bodyless node) :=
  inferInstanceAs (Decidable (_ = true))

/-- Where there is no body nothing is read. -/
theorem readIn_bodyless {node : Node} (bodyless : Bodyless node) (atBody : AtBody β) :
    readIn atBody node = [] := by
  induction node using Node.induct with
  | step node ih =>
    rw [readIn_eq, List.flatMap_eq_nil_iff]
    intro child member
    have below : Bodyless child := (Node.all_iff.mp bodyless).2 child member
    rw [readPart_outside (of_decide_eq_true (Node.all_iff.mp below).1)]
    exact ih child member below

theorem readIn_leaf {node : Node} (leaf : node.children = []) (atBody : AtBody β) :
    readIn atBody node = [] := by
  rw [readIn_eq, leaf]
  rfl

def annotationKinds : List String :=
  ["annotation", "marker_annotation"]

/-- The kinds of nodes in the head of a file or a declaration. Only their annotations may hold class
bodies. -/
def headKinds : List String :=
  ["modifiers", "package_declaration", "import_declaration", "module_declaration", "module_body",
   "requires_module_directive", "exports_module_directive", "opens_module_directive",
   "uses_module_directive", "provides_module_directive", "requires_modifier", "scoped_identifier",
   "asterisk"]

/-- A node whose children come in the order that the rule of its kind has them in. -/
@[mk_iff]
structure Composed (node : Node) : Prop where
  ordered : node.children.Pairwise fun child next =>
    ∀ roles ∈ roleOrder, ¬(child.plays roles.2 ∧ next.plays roles.1)
  bodies : ∀ child ∈ node.children, child.kind ∈ bodyKinds → child.label.named = true
  bodied : declaresType node.kind → (node.child? "body").isSome
  heads : node.kind ∈ headKinds → ∀ child ∈ node.children,
    child.children = [] ∨ child.kind ∈ headKinds ∨ child.kind ∈ annotationKinds

/-- A node in which no class body stands in an annotation, in a string literal or in front of `.this`. -/
@[mk_iff]
structure Clear (node : Node) : Prop where
  apart : node.kind ∈ annotationKinds ∨ node.kind = "string_literal" → Bodyless node
  qualifier : node.kind = "field_access" → (node.child? "field").any (·.kind == "this") →
    ∀ object ∈ node.childrenIn "object", Bodyless object

/-- A node in which no class body stands in the declarator of a `spread_parameter`. The rule of a declarator
has a value there as anywhere else, although there is no such parameter in the language. -/
def ValueFree (node : Node) : Prop :=
  node.kind = "spread_parameter" →
    ∀ child ∈ node.children, child.kind = "variable_declarator" → Bodyless child

instance (node : Node) : Decidable (Composed node) :=
  decidable_of_iff' _ (composed_iff node)

instance (node : Node) : Decidable (Clear node) :=
  decidable_of_iff' _ (clear_iff node)

instance (node : Node) : Decidable (ValueFree node) :=
  inferInstanceAs (Decidable (_ → _))

/-- A tree that follows the grammar, in document order, without class bodies in the places that are left out
on purpose. -/
structure Regular (root : Node) : Prop where
  grammatical : Grammatical root
  housed : Housed root
  laid : Laid root
  composed : root.all fun node => decide (Composed node)
  clear : root.all fun node => decide (Clear node)

/-- Such a tree without class bodies in the declarator of a `spread_parameter`. -/
structure Walkable (root : Node) : Prop extends Regular root where
  valueFree : root.all fun node => decide (ValueFree node)

/-- The kinds of nodes that may have a class body. -/
def ownerKinds : List String :=
  memberKinds ++ ["object_creation_expression"]

namespace Walkable

variable {node child : Node} (walkable : Walkable node)

include walkable

/-- A tree that can be walked can be walked from each child. -/
theorem below (member : child ∈ node.children) : Walkable child where
  grammatical := walkable.grammatical.below member
  housed := walkable.housed.below member
  laid := walkable.laid.below member
  composed := (Node.all_iff.mp walkable.composed).2 child member
  clear := (Node.all_iff.mp walkable.clear).2 child member
  valueFree := (Node.all_iff.mp walkable.valueFree).2 child member

/-- A node that can be walked has its parts where the grammar has them. -/
theorem composedHere : Composed node :=
  of_decide_eq_true (Node.all_iff.mp walkable.composed).1

/-- A node that can be walked has bodies only where a walk enters them. -/
theorem clearHere : Clear node :=
  of_decide_eq_true (Node.all_iff.mp walkable.clear).1

/-- A node that can be walked has no class bodies behind the names of its parameters. -/
theorem valueFreeHere : ValueFree node :=
  of_decide_eq_true (Node.all_iff.mp walkable.valueFree).1

/-- Only what declares a class or creates an object has a class body. -/
theorem outside (member : child ∈ node.children) (notOwner : node.kind ∉ ownerKinds) :
    child.kind ∉ bodyKinds := by
  simp only [ownerKinds, List.mem_append, List.mem_singleton, not_or] at notOwner
  exact walkable.housed.outside member notOwner.1 notOwner.2

/-! ### Parts without class bodies -/

/-- The head of a class has no body inside. -/
theorem readIn_head (atBody : AtBody β) (isHead : node.kind ∈ headKinds) : readIn atBody node = [] := by
  induction node using Node.induct with
  | step node ih =>
    have kinds : ∀ kind ∈ headKinds, kind ∉ ownerKinds := by decide
    rw [readIn_eq, List.flatMap_eq_nil_iff]
    intro child member
    rw [readPart_outside (walkable.outside member (kinds _ isHead))]
    rcases walkable.composedHere.heads isHead child member with leaf | isHead' | isAnnotation
    · exact readIn_leaf leaf atBody
    · exact ih child member (walkable.below member) isHead'
    · exact readIn_bodyless ((walkable.below member).clearHere.apart (.inl isAnnotation)) atBody

/-- What is left aside has no body inside. -/
theorem readIn_aside (atBody : AtBody β) (isAside : node.kind ∈ asideKinds) : readIn atBody node = [] := by
  have kinds : ∀ kind ∈ asideKinds,
      kind ∈ headKinds ∨ kind ∈ annotationKinds ∨ kind = "string_literal" := by decide
  rcases kinds _ isAside with isHead | isApart
  · exact walkable.readIn_head atBody isHead
  · exact readIn_bodyless (walkable.clearHere.apart isApart) atBody

/-- What is omitted has no body inside either. -/
theorem readIn_omitted (atBody : AtBody β) (member : child ∈ node.children) (left : omitted node child) :
    readIn atBody child = [] := by
  simp only [omitted, aside, Bool.or_eq_true, Bool.and_eq_true, beq_iff_eq, List.contains_iff_mem] at left
  rcases left with (isAside | ⟨⟨isAccess, isObject⟩, isThis⟩) | ⟨isSpread, isDeclarator⟩
  · exact (walkable.below member).readIn_aside atBody isAside
  · refine readIn_bodyless (walkable.clearHere.qualifier isAccess isThis child ?_) atBody
    exact List.mem_filter.mpr ⟨member, isObject⟩
  · exact readIn_bodyless (walkable.valueFreeHere isSpread child member isDeclarator) atBody

/-- A node of a closed kind holds no class body. -/
theorem readIn_closed (atBody : AtBody β) (closed : node.kind ∈ closedKinds) : readIn atBody node = [] := by
  induction node using Node.induct with
  | step node ih =>
    have kinds : ∀ kind ∈ closedKinds, kind ∉ ownerKinds := by decide
    rw [readIn_eq, List.flatMap_eq_nil_iff]
    intro child member
    rw [readPart_outside (walkable.outside member (kinds _ closed))]
    rcases walkable.grammatical.here.closed closed child member with leaf | closed' | left
    · exact readIn_leaf leaf atBody
    · exact ih child member (walkable.below member) closed'
    · exact walkable.readIn_omitted atBody member left

/-- A plain part has no body inside. -/
theorem readIn_plain (atBody : AtBody β) (member : child ∈ node.children) (plain : Plain node child) :
    readIn atBody child = [] := by
  rcases plain with leaf | closed | left
  · exact readIn_leaf leaf atBody
  · exact (walkable.below member).readIn_closed atBody closed
  · exact walkable.readIn_omitted atBody member left

/-! ### Words and roles -/

/-- A child that is no word of the grammar holds no class body, and is none. -/
theorem readPart_token (atBody : AtBody β) (member : child ∈ node.children)
    (unnamed : child.label.named = false) : readPart atBody node.kind child = [] := by
  have outside : child.kind ∉ bodyKinds := fun isBody => by
    have named := walkable.composedHere.bodies child member isBody
    rw [unnamed] at named
    cases named
  rw [readPart_outside outside]
  exact readIn_leaf (walkable.grammatical.here.tokens child member unnamed) atBody

/-- What is found in a node that declares and creates nothing is found in its words, one after another. -/
theorem readIn_named (atBody : AtBody β) (notOwner : node.kind ∉ ownerKinds) :
    readIn atBody node = node.named.flatMap (readIn atBody) := by
  have words : node.named.flatMap (readPart atBody node.kind) =
      node.children.flatMap (readPart atBody node.kind) :=
    flatMap_filter_of_nil fun _ member unnamed => walkable.readPart_token atBody member unnamed
  rw [readIn_eq, ← words]
  refine List.flatMap_congr fun child member => ?_
  exact readPart_outside (walkable.outside (Node.mem_of_named member) notOwner)

/-! ### Roles -/

/-- A child that plays no open role holds no class body, and is none. -/
theorem readPart_silent (atBody : AtBody β) {roles : List String} (isOpen : openRoles? node = some roles)
    (member : child ∈ node.children) (silent : ∀ role ∈ roles, child.plays role = false) :
    readPart atBody node.kind child = [] := by
  have kinds : ∀ entry ∈ openRoles, entry.1 ≠ "object_creation_expression" ∧
      (entry.1 ∈ memberKinds → "body" ∈ entry.2) := by decide
  obtain ⟨notCreation, hasBody⟩ := kinds _ (mem_openRoles isOpen)
  have outside : child.kind ∉ bodyKinds := fun isBody => by
    rcases walkable.housed.here.owned child member isBody with ⟨declares, isRole⟩ | ⟨creates, _⟩
    · rw [silent "body" (hasBody declares)] at isRole
      cases isRole
    · exact notCreation creates
  rw [readPart_outside outside]
  have plain := walkable.grammatical.here.opened roles isOpen child member silent
  exact walkable.readIn_plain atBody member plain

/-- What is found in a node with open roles is found in the children in these roles, one after another. -/
theorem readIn_opened (atBody : AtBody β) {roles : List String} (isOpen : openRoles? node = some roles)
    (single : "declarator" ∉ roles) : readIn atBody node =
      roles.flatMap fun role => (node.child? role).toList.flatMap (readPart atBody node.kind) := by
  have kinds : ∀ entry ∈ openRoles, entry.2.Pairwise fun first second => (first, second) ∈ roleOrder := by
    decide
  have inOrder := kinds _ (mem_openRoles isOpen)
  calc readIn atBody node
      = node.children.flatMap (readPart atBody node.kind) := readIn_eq atBody node
    _ = (node.children.filter fun child => roles.any (child.plays ·)).flatMap
          (readPart atBody node.kind) := by
        refine (flatMap_filter_of_nil fun child member dropped => ?_).symm
        refine walkable.readPart_silent atBody isOpen member fun role listed => ?_
        exact Bool.eq_false_iff.mpr (List.any_eq_false.mp dropped role listed)
    _ = roles.flatMap fun role => (node.childrenIn role).flatMap (readPart atBody node.kind) := by
        rw [filter_roles walkable.composedHere.ordered inOrder, List.flatMap_assoc]
        rfl
    _ = roles.flatMap fun role => (node.child? role).toList.flatMap (readPart atBody node.kind) :=
        List.flatMap_congr fun role listed => by
          rw [childrenIn_eq walkable.grammatical isOpen single listed]

/-- What is found in a node of a kind without a class body is found in its open roles. -/
theorem readIn_roles (atBody : AtBody β) {kind : String} (isKind : node.kind = kind) (roles : List String)
    (isOpen : openRoles.lookup kind = some roles ∧ "declarator" ∉ roles ∧ kind ∉ ownerKinds)
    (isNamed : kind ∉ ["resource", "instanceof_expression"] ∨ (node.child? "name").isSome) :
    readIn atBody node = roles.flatMap fun role => (node.child? role).toList.flatMap (readIn atBody) := by
  subst isKind
  obtain ⟨isOpen, single, notOwner⟩ := isOpen
  rw [walkable.readIn_opened atBody (openRoles?_eq isNamed isOpen) single]
  refine List.flatMap_congr fun role _ => List.flatMap_congr fun child listed => ?_
  have member : child ∈ node.children := Node.mem_of_child? (Option.mem_toList.mp listed)
  exact readPart_outside (walkable.outside member notOwner)

/-- What is found in a declaration of variables is found in their values. -/
theorem readIn_declarators (atBody : AtBody β) (isOpen : openRoles? node = some ["declarator"])
    (notOwner : node.kind ∉ ownerKinds) : readIn atBody node =
      (node.childrenIn "declarator").flatMap fun declarator =>
        (declarator.child? "value").toList.flatMap (readIn atBody) := by
  have declarators : (node.childrenIn "declarator").flatMap (readPart atBody node.kind) =
      node.children.flatMap (readPart atBody node.kind) :=
    flatMap_filter_of_nil fun child member silent =>
      walkable.readPart_silent atBody isOpen member (by simpa using silent)
  rw [readIn_eq, ← declarators]
  refine List.flatMap_congr fun declarator listed => ?_
  have member : declarator ∈ node.children := (List.mem_filter.mp listed).1
  have isKind : declarator.kind = "variable_declarator" :=
    walkable.grammatical.here.declarators declarator listed
  rw [readPart_outside (walkable.outside member notOwner),
    (walkable.below member).readIn_roles atBody isKind ["value"] (by decide) (.inl (by decide)),
    List.flatMap_singleton]

/-! ### Creations -/

section Creation

variable (isKind : node.kind = "object_creation_expression")

include isKind

/-- A creation has no bodies but class bodies. -/
theorem creation_outside (member : child ∈ node.children) (notBody : child.kind ≠ "class_body") :
    child.kind ∉ bodyKinds := by
  intro isBody
  rcases walkable.housed.here.owned child member isBody with ⟨declares, _⟩ | ⟨_, isClassBody⟩
  · rw [isKind] at declares
    exact absurd declares (by decide)
  · exact notBody isClassBody

/-- A creation has one class body at most, and it is a word of the grammar. -/
theorem creationBodies_eq :
    node.children.filter (·.kind == "class_body") = (creationBody? node).toList := by
  obtain ⟨-, single⟩ := walkable.grammatical.here.creations isKind
  have named : node.children.filter (·.kind == "class_body") =
      node.named.filter (·.kind == "class_body") := by
    rw [Node.named, List.filter_filter]
    refine List.filter_congr fun child member => ?_
    cases isBody : child.kind == "class_body" with
    | false => rfl
    | true =>
      have word := walkable.composedHere.bodies child member (by rw [eq_of_beq isBody]; decide)
      rw [word]
      rfl
  rw [named] at single ⊢
  exact eq_toList_getLast? single

/-- What stands in front of the class body and is no part of the creation holds no class body. -/
theorem creationParts_eq_front (atBody : AtBody β) :
    (creationParts node).flatMap (readIn atBody) =
      (node.children.filter (!·.kind == "class_body")).flatMap (readPart atBody node.kind) := by
  obtain ⟨types, -⟩ := walkable.grammatical.here.creations isKind
  let part (child : Node) : List β := if child.kind == "class_body" then [] else readIn atBody child
  have partOf {child : Node} (notBody : ¬(child.kind == "class_body") = true) :
      part child = readIn atBody child := if_neg notBody
  calc (creationParts node).flatMap (readIn atBody)
      = (creationParts node).flatMap part := by
        refine List.flatMap_congr fun child member => ?_
        have kept := (List.mem_filter.mp member).2
        simp only [Bool.and_eq_true, bne_iff_ne] at kept
        exact (partOf (by simpa using kept.1.2)).symm
    _ = (node.children.eraseP (·.plays "type")).flatMap part := by
        refine flatMap_filter_of_nil fun child member dropped => ?_
        have member : child ∈ node.children := List.mem_of_mem_eraseP member
        simp only [Bool.and_eq_false_iff, bne_eq_false_iff_eq] at dropped
        by_cases isBody : (child.kind == "class_body") = true
        · exact if_pos isBody
        · rw [partOf isBody]
          rcases dropped with (isToken | isBody') | isArguments
          · exact readIn_leaf (walkable.grammatical.here.tokens child member isToken) atBody
          · exact absurd (beq_iff_eq.mpr isBody') isBody
          · exact (walkable.below member).readIn_closed atBody (by rw [isArguments]; decide)
    _ = node.children.flatMap part := by
        refine flatMap_eraseP_of_nil fun child member isType => ?_
        by_cases isBody : (child.kind == "class_body") = true
        · exact if_pos isBody
        · rw [partOf isBody]
          exact walkable.readIn_plain atBody member (types child (List.mem_filter.mpr ⟨member, isType⟩))
    _ = (node.children.filter (!·.kind == "class_body")).flatMap part :=
        (flatMap_filter_of_nil fun child _ isBody => if_pos (by simpa using isBody)).symm
    _ = (node.children.filter (!·.kind == "class_body")).flatMap (readPart atBody node.kind) := by
        refine List.flatMap_congr fun child listed => ?_
        obtain ⟨member, isPart⟩ := List.mem_filter.mp listed
        have notBody : child.kind ≠ "class_body" := by simpa using isPart
        rw [readPart_outside (walkable.creation_outside isKind member notBody),
          partOf (by simpa using notBody)]

/-- What is found in the creation of an object is found in its parts, and then in its class body. -/
theorem readIn_creation (atBody : AtBody β) :
    readIn atBody node = (creationParts node).flatMap (readIn atBody) ++
      (creationBody? node).toList.flatMap fun body => atBody true body (readIn atBody body) := by
  -- the class body comes last
  have split : node.children = node.children.filter (!·.kind == "class_body") ++
      node.children.filter (·.kind == "class_body") := by
    rw [← filter_or_eq_append]
    · exact (List.filter_eq_self.mpr fun child _ => by cases child.kind == "class_body" <;> rfl).symm
    · intro child _ isPart
      simpa using isPart
    · exact walkable.laid.here.1.2.2.1.imp fun before isBody => before.2 (eq_of_beq isBody.1)
  rw [readIn_eq]
  conv_lhs => rw [split]
  rw [List.flatMap_append, ← walkable.creationParts_eq_front isKind, walkable.creationBodies_eq isKind]
  refine congrArg _ (List.flatMap_congr fun body listed => ?_)
  obtain ⟨_, isBody⟩ := mem_of_creationBody? (Option.mem_toList.mp listed)
  rw [readPart_body (by rw [isBody]; decide), isKind]
  rfl

end Creation

end Walkable

/-! ## What a script finds -/

/-- Whether a class has no name. -/
def Naming.isAnonymous : Naming → Bool
  | .declared _ => false
  | .anonymous => true

/-- The node at which a script that is run at a given node starts. -/
def Script.home (node : Node) : Script → Node
  | .under child _ => child
  | _ => node

/-- What a script finds that is run at a node, where what is visited or recorded is found whole. -/
def Script.finds (atBody : AtBody β) (node : Node) : Script → List β
  | .skip | .bind _ => []
  | .seq first second => first.finds atBody node ++ second.finds atBody node
  | .visit => readIn atBody node
  | .denote recording => if recording then readIn atBody node else []
  | .under child inner => inner.finds atBody child
  | .block inner | .member inner => inner.finds atBody node
  | .body naming inner => atBody naming.isAnonymous (inner.home node) (inner.finds atBody node)

section Finding

variable {atBody : AtBody β} {node : Node} {α : Type}

/-- A list of scripts finds what each of them finds. -/
@[simp] theorem finds_each (script : α → Script) (items : List α) :
    (Script.each script items).finds atBody node =
      items.flatMap fun item => (script item).finds atBody node := by
  induction items with
  | nil => rfl
  | cons item items ih => rw [Script.each, Script.finds, ih, List.flatMap_cons]

@[simp] theorem finds_optional (script : α → Script) (item : Option α) :
    (Script.optional script item).finds atBody node =
      item.toList.flatMap fun item => (script item).finds atBody node := by
  cases item with
  | none => rfl
  | some item => rw [Script.optional, Option.toList_some, List.flatMap_singleton]

/-- A script that is left out unless references are recorded finds nothing then. -/
@[simp] theorem finds_recorded (recording : Bool) (script : Script) :
    (Script.recorded recording script).finds atBody node =
      if recording then script.finds atBody node else [] := by
  cases recording <;> rfl

/-- Visits of nodes find what is read in them. -/
@[simp] theorem finds_visitEach (nodes : List Node) :
    (visitEach nodes).finds atBody node = nodes.flatMap (readIn atBody) :=
  finds_each _ nodes

@[simp] theorem finds_visitOptional (child : Option Node) :
    (visitOptional child).finds atBody node = child.toList.flatMap (readIn atBody) :=
  finds_optional _ child

@[simp] theorem finds_denoteOptional (recording : Bool) (child : Option Node) :
    (denoteOptional recording child).finds atBody node =
      if recording then child.toList.flatMap (readIn atBody) else [] := by
  rw [denoteOptional, finds_optional]
  cases recording with
  | false => exact List.flatMap_eq_nil_iff.mpr fun _ _ => rfl
  | true => rfl

/-- Binding names finds nothing. -/
@[simp] theorem finds_bindEach (names : List Node) : (bindEach names).finds atBody node = [] := by
  rw [bindEach, finds_each]
  exact List.flatMap_eq_nil_iff.mpr fun _ _ => rfl

end Finding

section Constructs

variable {atBody : AtBody β} {node : Node} (walkable : Walkable node)

include walkable

/-- The members of a class are found in its body. -/
theorem bodyScript_finds (naming : Naming) (isBody : node.kind ∈ bodyKinds) (parent : Node) :
    (bodyScript naming (some node)).finds atBody parent =
      atBody naming.isAnonymous node (readIn atBody node) := by
  have kinds : ∀ kind ∈ bodyKinds, kind ∉ ownerKinds := by decide
  rw [walkable.readIn_named atBody (kinds _ isBody), ← finds_visitEach]
  rfl

/-! ### Declarations -/

/-- A class body in its role. -/
theorem body_finds (naming : Naming) (isMember : node.kind ∈ memberKinds)
    (named : naming.isAnonymous = decide (node.kind ∈ anonymousKinds)) {body : Node}
    (found : node.child? "body" = some body) :
    (bodyScript naming (some body)).finds atBody node = readPart atBody node.kind body := by
  have isBody : body.kind ∈ bodyKinds :=
    walkable.grammatical.here.bodies isMember body (Node.mem_childrenIn_of_child? found)
  rw [bodyScript_finds (walkable.below (Node.mem_of_child? found)) naming isBody, named,
    readPart_body isBody]

/-- A class finds its body, under its name. -/
theorem type_finds (isType : Construct.ofKind node.kind = .type) :
    (Script.optional (fun name => bodyScript (.declared name) (node.child? "body"))
      (node.child? "name")).finds atBody node = readIn atBody node := by
  have rules : ∀ entry ∈ Construct.kinds, entry.2 = .type →
      entry.1 ∉ ["resource", "instanceof_expression"] ∧ openRoles.lookup entry.1 = some ["body"] ∧
        filledRoles.lookup entry.1 = some ["name"] ∧ entry.1 ∈ memberKinds ∧
        entry.1 ∉ anonymousKinds ∧ declaresType entry.1 = true := by decide
  obtain ⟨isNamed, isOpen, isFilled, isMember, isDeclared, declares⟩ :=
    rules _ (Construct.mem_kinds isType (by decide)) rfl
  obtain ⟨name, isName⟩ := walkable.grammatical.hasName isFilled
  obtain ⟨body, isBody⟩ := Option.isSome_iff_exists.mp (walkable.composedHere.bodied declares)
  rw [walkable.readIn_opened atBody (openRoles?_eq (.inl isNamed) isOpen) (by decide), finds_optional, isName,
    isBody, Option.toList_some, List.flatMap_singleton, List.flatMap_singleton, isBody, Option.toList_some,
    List.flatMap_singleton]
  exact body_finds walkable (.declared name) isMember (decide_eq_false isDeclared).symm isBody

/-- The declarators of a declaration find what is read in their values. -/
theorem declarators_finds {script : Node → Script}
    (isKind : node.kind ∈ ["field_declaration", "constant_declaration", "local_variable_declaration"])
    (each : ∀ declarator, (declarator.child? "name").isSome → (script declarator).finds atBody node =
      (declarator.child? "value").toList.flatMap (readIn atBody)) :
    (Script.each script (node.childrenIn "declarator")).finds atBody node = readIn atBody node := by
  have rules : ∀ kind ∈ ["field_declaration", "constant_declaration", "local_variable_declaration"],
      kind ∉ ["resource", "instanceof_expression"] ∧ openRoles.lookup kind = some ["declarator"] ∧
        kind ∉ ownerKinds := by decide
  obtain ⟨isNamed, isOpen, notOwner⟩ := rules _ isKind
  rw [walkable.readIn_declarators atBody (openRoles?_eq (.inl isNamed) isOpen) notOwner, finds_each]
  refine List.flatMap_congr fun declarator listed => each declarator ?_
  have isDeclarator : declarator.kind = "variable_declarator" :=
    walkable.grammatical.here.declarators declarator listed
  obtain ⟨name, isName⟩ := (walkable.below (List.mem_filter.mp listed).1).grammatical.hasName
    (by rw [isDeclarator]; rfl)
  rw [isName]
  rfl

omit walkable in
theorem fieldScript_finds {declarator : Node} (isNamed : (declarator.child? "name").isSome) :
    (fieldScript declarator).finds atBody node =
      (declarator.child? "value").toList.flatMap (readIn atBody) := by
  obtain ⟨name, isName⟩ := Option.isSome_iff_exists.mp isNamed
  rw [fieldScript, isName, Script.finds, finds_optional]
  rfl

/-- A method finds what is read in its body. -/
theorem methodScript_finds (isMethod : node.kind ∈ methodKinds) (names : List Node) :
    (methodScript names node).finds atBody node = readIn atBody node := by
  have rules : ∀ kind ∈ methodKinds, openRoles.lookup kind = some ["body"] ∧
      filledRoles.lookup kind = some ["name"] ∧ kind ∉ ownerKinds := by decide
  obtain ⟨isOpen, isFilled, notOwner⟩ := rules _ isMethod
  obtain ⟨name, isName⟩ := walkable.grammatical.hasName isFilled
  rw [walkable.readIn_roles atBody rfl ["body"] ⟨isOpen, by decide, notOwner⟩ (.inr (by rw [isName]; rfl)),
    methodScript, isName]
  simp only [Script.finds, finds_bindEach, finds_visitOptional, List.nil_append, List.flatMap_singleton]

/-- An enum constant finds what is read in its arguments, and its body. -/
theorem constantScript_finds (isKind : node.kind = "enum_constant") :
    (constantScript node).finds atBody node = readIn atBody node := by
  obtain ⟨name, isName⟩ := walkable.grammatical.hasName (by rw [isKind]; rfl)
  have arguments : (node.child? "arguments").toList.flatMap (readPart atBody node.kind) =
      (node.child? "arguments").toList.flatMap (readIn atBody) := by
    refine List.flatMap_congr fun list listed => readPart_outside fun isBody => ?_
    have found := Option.mem_toList.mp listed
    rcases walkable.housed.here.owned list (Node.mem_of_child? found) isBody with ⟨_, isRole⟩ | ⟨creates, _⟩
    · exact Node.ne_of_roles (Node.plays_of_child? found) isRole (by decide) rfl
    · rw [isKind] at creates
      exact absurd creates (by decide)
  have body : (Script.optional (fun body => bodyScript .anonymous (some body)) (node.child? "body")).finds
      atBody node = (node.child? "body").toList.flatMap (readPart atBody node.kind) := by
    rw [finds_optional]
    refine List.flatMap_congr fun body listed => ?_
    exact body_finds walkable .anonymous (by rw [isKind]; decide) (by rw [isKind]; rfl)
      (Option.mem_toList.mp listed)
  rw [walkable.readIn_opened atBody (openRoles?_eq (.inr (by rw [isName]; rfl)) (by rw [isKind]; rfl))
    (by decide), constantScript, isName]
  simp only [Script.finds, List.flatMap_cons, List.flatMap_nil, List.append_nil, arguments, body]
  rw [finds_optional]
  rfl

/-! ### Statements -/

omit walkable in
/-- The value of a variable is found, and nothing is found when it is followed once more for its type. -/
theorem variableScript_finds {declarator : Node} (env : Env) (type : Option Node)
    (isNamed : (declarator.child? "name").isSome) : (variableScript env type declarator).finds atBody node =
      (declarator.child? "value").toList.flatMap (readIn atBody) := by
  obtain ⟨name, isName⟩ := Option.isSome_iff_exists.mp isNamed
  rw [variableScript, isName]
  simp only [Script.finds, finds_optional, List.append_nil]
  refine List.flatMap_congr fun value _ => ?_
  split
  · simp only [Script.finds, Bool.false_eq_true, if_false, List.append_nil]
  · rfl

/-- An enhanced `for` finds what is read in its value and its body. -/
theorem loop_finds (isKind : node.kind = "enhanced_for_statement") (env : Env) :
    (Script.block (.seq (variableScript env (node.child? "type") node)
      (visitOptional (node.child? "body")))).finds atBody node = readIn atBody node := by
  obtain ⟨name, isName⟩ := walkable.grammatical.hasName (by rw [isKind]; rfl)
  have isNamed : (node.child? "name").isSome := by rw [isName]; rfl
  rw [walkable.readIn_roles atBody isKind ["value", "body"] (by decide) (.inr isNamed)]
  simp only [Script.finds, variableScript_finds env _ isNamed, finds_visitOptional, List.flatMap_cons,
    List.flatMap_nil, List.append_nil]

/-- A part of a `catch` clause finds what is read in it. -/
theorem caughtScript_finds (parent : Node) :
    (caughtScript node).finds atBody parent = readIn atBody node := by
  unfold caughtScript
  split
  · next isCaught =>
    rw [finds_bindEach, walkable.readIn_closed atBody (by rw [eq_of_beq isCaught]; decide)]
  · rfl

/-- A resource finds what is read in its value. -/
theorem resourceScript_finds (isKind : node.kind = "resource") (env : Env) :
    (resourceScript env node).finds atBody node = readIn atBody node := by
  unfold resourceScript
  split
  · next isNamed =>
    rw [variableScript_finds env _ isNamed,
      walkable.readIn_roles atBody isKind ["value"] (by decide) (.inr isNamed), List.flatMap_singleton]
  · rw [finds_visitEach, walkable.readIn_named atBody (by rw [isKind]; decide)]

/-- A part of a `try` finds what is read in it. -/
theorem tryScript_finds (env : Env) (parent : Node) :
    (tryScript env node).finds atBody parent = readIn atBody node := by
  unfold tryScript
  split
  · next isList =>
    have isList : node.kind = "resource_specification" := eq_of_beq isList
    rw [Script.finds, finds_each, walkable.readIn_named atBody (by rw [isList]; decide)]
    refine List.flatMap_congr fun resource member => ?_
    exact resourceScript_finds (walkable.below (Node.mem_of_named member))
      (walkable.grammatical.here.resources isList resource member) env
  · rfl

/-- What is done with each word of a statement. -/
theorem words_finds {script : Node → Script} (notOwner : node.kind ∉ ownerKinds)
    (each : ∀ child, Walkable child → (script child).finds atBody node = readIn atBody child) :
    (Script.each script node.named).finds atBody node = readIn atBody node := by
  rw [walkable.readIn_named atBody notOwner, finds_each]
  exact List.flatMap_congr fun child member => each child (walkable.below (Node.mem_of_named member))

/-- An `instanceof` finds what is read in its value. -/
theorem instanceofScript_finds (isKind : node.kind = "instanceof_expression") :
    (instanceofScript node).finds atBody node = readIn atBody node := by
  unfold instanceofScript
  cases isName : node.child? "name" with
  | none =>
    simp only [finds_visitEach]
    rw [walkable.readIn_named atBody (by rw [isKind]; decide)]
  | some name =>
    rw [walkable.readIn_roles atBody isKind ["left"] (by decide) (.inr (by rw [isName]; rfl))]
    simp only [Script.finds, finds_visitOptional, List.append_nil, List.flatMap_singleton]

/-- A pattern finds nothing, for it has no body inside. -/
theorem pattern_finds (isPattern : Construct.ofKind node.kind = .pattern) :
    (bindEach (patternNames node)).finds atBody node = readIn atBody node := by
  have rules : ∀ entry ∈ Construct.kinds, entry.2 = .pattern →
      entry.1 ∉ ["resource", "instanceof_expression"] ∧ openRoles.lookup entry.1 = some [] := by decide
  obtain ⟨isNamed, isOpen⟩ := rules _ (Construct.mem_kinds isPattern (by decide)) rfl
  rw [finds_bindEach, walkable.readIn_opened atBody (openRoles?_eq (.inl isNamed) isOpen) (by decide)]
  rfl

/-! ### Expressions -/

/-- A lambda finds what is read in its body. -/
theorem lambda_finds (isKind : node.kind = "lambda_expression") :
    (Script.block (.seq (bindEach (lambdaNames node)) (visitOptional (node.child? "body")))).finds
      atBody node = readIn atBody node := by
  rw [walkable.readIn_roles atBody isKind ["body"] (by decide) (.inl (by decide))]
  simp only [Script.finds, finds_bindEach, finds_visitOptional, List.nil_append, List.flatMap_singleton]

/-- **A creation** finds what is read in its parts, and its own body. -/
theorem creationScript_finds (isKind : node.kind = "object_creation_expression") :
    (creationScript node).finds atBody node = readIn atBody node := by
  rw [walkable.readIn_creation isKind atBody, creationScript, Script.finds, finds_visitEach, finds_optional]
  refine congrArg _ (List.flatMap_congr fun body listed => ?_)
  obtain ⟨member, isBody⟩ := mem_of_creationBody? (Option.mem_toList.mp listed)
  exact bodyScript_finds (walkable.below member) .anonymous (by rw [isBody]; decide) node

/-- In front of `this` there is nothing to be found. -/
theorem accessScript_finds (isKind : node.kind = "field_access") (recording : Bool) :
    (accessScript recording node).finds atBody node = if recording then readIn atBody node else [] := by
  have isFilled : filledRoles.lookup node.kind = some ["object", "field"] := by rw [isKind]; rfl
  obtain ⟨object, isObject⟩ := walkable.grammatical.filled "object" isFilled (by decide)
  obtain ⟨field, isField⟩ := walkable.grammatical.filled "field" isFilled (by decide)
  rw [walkable.readIn_roles atBody isKind ["object"] (by decide) (.inl (by decide)),
    List.flatMap_singleton, accessScript, isObject, isField]
  simp only [Script.finds, List.flatMap_singleton, Option.toList_some]
  cases isThis : field.kind == "this" with
  | true =>
    have bodyless := walkable.clearHere.qualifier isKind (by rw [isField]; exact isThis) object
      (Node.mem_childrenIn_of_child? isObject)
    rw [readIn_bodyless bodyless, ite_self, ite_self]
  | false => rfl

/-- A call finds what is read in its object and its arguments. -/
theorem callScript_finds (isKind : node.kind = "method_invocation") (recording : Bool) :
    (callScript recording node).finds atBody node = if recording then readIn atBody node else [] := by
  obtain ⟨name, isName⟩ := walkable.grammatical.hasName (by rw [isKind]; rfl)
  rw [walkable.readIn_roles atBody isKind ["object", "arguments"] (by decide) (.inl (by decide)),
    callScript, isName]
  cases recording with
  | false => simp only [Script.finds, finds_denoteOptional, finds_recorded, Bool.false_eq_true, if_false,
      List.append_nil]
  | true => simp only [Script.finds, finds_denoteOptional, finds_recorded, finds_visitOptional, if_true,
      List.flatMap_cons, List.flatMap_nil, List.append_nil]

/-- Of a method reference or an expression in parentheses only the first word may hold a class body. -/
theorem readIn_headed (isHeaded : node.kind ∈ ["method_reference", "parenthesized_expression"]) :
    readIn atBody node = node.named.head?.toList.flatMap (readIn atBody) := by
  have kinds : ∀ kind ∈ ["method_reference", "parenthesized_expression"], kind ∉ ownerKinds := by decide
  have others := walkable.grammatical.here.headed isHeaded
  rw [walkable.readIn_named atBody (kinds _ isHeaded)]
  cases words : node.named with
  | nil => rfl
  | cons word rest =>
    rw [words] at others
    have nothing : rest.flatMap (readIn atBody) = [] := List.flatMap_eq_nil_iff.mpr fun child member =>
      walkable.readIn_plain atBody (Node.mem_of_named (words ▸ .tail _ member)) (others child member)
    rw [List.flatMap_cons, nothing, List.append_nil, List.head?_cons, Option.toList_some,
      List.flatMap_singleton]

/-- A method reference finds what is read in its left side. -/
theorem referenceScript_finds (isKind : node.kind = "method_reference") (recording : Bool) :
    (referenceScript recording node).finds atBody node = if recording then readIn atBody node else [] := by
  rw [readIn_headed walkable (by rw [isKind]; decide)]
  unfold referenceScript
  cases words : node.named with
  | nil => exact (ite_self _).symm
  | cons qualifier others =>
    simp only [List.head?_cons, Option.toList_some, List.flatMap_singleton]
    split
    · next isType =>
      have member : qualifier ∈ node.children := Node.mem_of_named (words ▸ List.mem_cons_self)
      have closed : qualifier.kind ∈ closedKinds := List.mem_append_left _ (List.contains_iff_mem.mp isType)
      rw [(walkable.below member).readIn_closed atBody closed, ite_self]
      rfl
    · rfl

/-- An element of an array finds what is read in the array and the index. -/
theorem elementScript_finds (isKind : node.kind = "array_access") (recording : Bool) :
    (elementScript recording node).finds atBody node = if recording then readIn atBody node else [] := by
  obtain ⟨array, isArray⟩ := walkable.grammatical.filled "array"
    (show filledRoles.lookup node.kind = some ["array"] by rw [isKind]; rfl) (by decide)
  rw [walkable.readIn_roles atBody isKind ["array", "index"] (by decide) (.inl (by decide)),
    elementScript, isArray]
  cases recording with
  | false => simp only [Script.finds, finds_recorded, Bool.false_eq_true, if_false, List.append_nil]
  | true => simp only [Script.finds, finds_recorded, finds_visitOptional, if_true, List.flatMap_cons,
      List.flatMap_nil, List.append_nil, isArray, Option.toList_some]

theorem cast_finds (isKind : node.kind = "cast_expression") (recording : Bool) :
    (Script.recorded recording (visitOptional (node.child? "value"))).finds atBody node =
      if recording then readIn atBody node else [] := by
  rw [walkable.readIn_roles atBody isKind ["value"] (by decide) (.inl (by decide)), finds_recorded,
    finds_visitOptional, List.flatMap_singleton]

/-! ### Nodes -/

/-- What a walk skips has no body inside. -/
theorem readIn_skipped (isSkipped : Construct.ofKind node.kind = .skipped) : readIn atBody node = [] := by
  have rules : ∀ entry ∈ Construct.kinds, entry.2 = .skipped →
      entry.1 ∈ ["line_comment", "block_comment"] ∨ entry.1 ∈ asideKinds := by decide
  rcases rules _ (Construct.mem_kinds isSkipped (by decide)) rfl with isComment | isAside
  · exact absurd isComment walkable.grammatical.here.commentFree
  · exact walkable.readIn_aside atBody isAside

/-- A node that is visited word by word. -/
theorem visitEach_finds {construct : Construct} (found : Construct.ofKind node.kind = construct)
    (isOther : construct = .staticInitializer ∨ construct = .block ∨ construct = .blockLike ∨
      construct = .other) : (visitEach node.named).finds atBody node = readIn atBody node := by
  have rules : ∀ kind ∈ ownerKinds, Construct.ofKind kind ≠ .staticInitializer ∧
      Construct.ofKind kind ≠ .block ∧ Construct.ofKind kind ≠ .blockLike ∧
        Construct.ofKind kind ≠ .other := by decide
  refine words_finds walkable (fun listed => ?_) fun _ _ => rfl
  · obtain ⟨first, second, third, last⟩ := rules _ listed
    rcases isOther with rfl | rfl | rfl | rfl
    · exact first found
    · exact second found
    · exact third found
    · exact last found

end Constructs

variable {env : Env} {cursor : Cursor} {atBody : AtBody β}

/-- **A visit finds what there is**: of a tree that can be walked, all class bodies, each of them once and in
document order. -/
theorem visitScript_finds (walkable : Walkable cursor.node) :
    (visitScript env cursor).finds atBody cursor.node = readIn atBody cursor.node := by
  unfold visitScript
  cases construct : Construct.ofKind cursor.kind with
  | skipped => exact (readIn_skipped walkable construct).symm
  | type => exact type_finds walkable construct
  | fields =>
    have rules : ∀ entry ∈ Construct.kinds, entry.2 = .fields →
        entry.1 ∈ ["field_declaration", "constant_declaration", "local_variable_declaration"] := by decide
    exact declarators_finds walkable (rules _ (Construct.mem_kinds construct (by decide)) rfl)
      fun _ => fieldScript_finds
  | method =>
    have rules : ∀ entry ∈ Construct.kinds, entry.2 = .method → entry.1 ∈ methodKinds := by decide
    exact methodScript_finds walkable (rules _ (Construct.mem_kinds construct (by decide)) rfl) _
  | compactConstructor =>
    have isKind : cursor.node.kind = "compact_constructor_declaration" :=
      Construct.kind_eq construct (by decide) (by decide)
    exact methodScript_finds walkable (by rw [isKind]; decide) _
  | enumConstant =>
    exact constantScript_finds walkable (Construct.kind_eq construct (by decide) (by decide))
  | staticInitializer => exact visitEach_finds walkable construct (by decide)
  | block =>
    have words : (visitEach cursor.node.named).finds atBody cursor.node = readIn atBody cursor.node :=
      visitEach_finds walkable construct (by decide)
    simp only
    split <;> exact words
  | blockLike => exact visitEach_finds walkable construct (by decide)
  | locals =>
    have isKind : cursor.node.kind = "local_variable_declaration" :=
      Construct.kind_eq construct (by decide) (by decide)
    exact declarators_finds walkable (by rw [isKind]; decide) fun _ => variableScript_finds env _
  | loop => exact loop_finds walkable (Construct.kind_eq construct (by decide) (by decide)) env
  | catchClause =>
    have isKind : cursor.node.kind = "catch_clause" := Construct.kind_eq construct (by decide) (by decide)
    exact words_finds walkable (by rw [isKind]; decide)
      fun _ walkable' => caughtScript_finds walkable' _
  | resources =>
    have isKind : cursor.node.kind = "try_with_resources_statement" :=
      Construct.kind_eq construct (by decide) (by decide)
    exact words_finds walkable (by rw [isKind]; decide)
      fun _ walkable' => tryScript_finds walkable' env _
  | instanceof =>
    exact instanceofScript_finds walkable (Construct.kind_eq construct (by decide) (by decide))
  | pattern => exact pattern_finds walkable construct
  | lambda => exact lambda_finds walkable (Construct.kind_eq construct (by decide) (by decide))
  | creation => exact creationScript_finds walkable (Construct.kind_eq construct (by decide) (by decide))
  | access => rfl
  | name =>
    have isKind : cursor.node.kind = "identifier" := Construct.kind_eq construct (by decide) (by decide)
    have nothing : readIn atBody cursor.node = [] := walkable.readIn_closed atBody (by rw [isKind]; decide)
    simp only [nameScript]
    split
    · exact nothing.symm
    · split
      · exact nothing.symm
      · rfl
  | other => exact visitEach_finds walkable construct (by decide)

/-- An expression that is followed shows what there is while it is recorded, and else nothing. -/
theorem denoteScript_finds (walkable : Walkable cursor.node) (recording : Bool) :
    (denoteScript cursor recording).finds atBody cursor.node =
      if recording then readIn atBody cursor.node else [] := by
  unfold denoteScript
  cases form : ExprForm.ofKind cursor.kind with
  | name | this | super | classLiteral =>
    have rules : ∀ entry ∈ ExprForm.kinds, entry.2 = .name ∨ entry.2 = .this ∨ entry.2 = .super ∨
        entry.2 = .classLiteral → entry.1 ∈ closedKinds := by decide
    have closed : cursor.node.kind ∈ closedKinds :=
      rules _ (ExprForm.mem_kinds form (by decide)) (by simp only [true_or, or_true])
    rw [walkable.readIn_closed atBody closed, ite_self]
    rfl
  | text =>
    have isKind : cursor.node.kind = "string_literal" := ExprForm.kind_eq form (by decide) (by decide)
    rw [walkable.readIn_aside atBody (by rw [isKind]; decide), ite_self]
    rfl
  | field => exact accessScript_finds walkable (ExprForm.kind_eq form (by decide) (by decide)) recording
  | call => exact callScript_finds walkable (ExprForm.kind_eq form (by decide) (by decide)) recording
  | reference =>
    exact referenceScript_finds walkable (ExprForm.kind_eq form (by decide) (by decide)) recording
  | parenthesized =>
    have isKind : cursor.node.kind = "parenthesized_expression" :=
      ExprForm.kind_eq form (by decide) (by decide)
    rw [readIn_headed walkable (by rw [isKind]; decide)]
    exact finds_denoteOptional recording _
  | element => exact elementScript_finds walkable (ExprForm.kind_eq form (by decide) (by decide)) recording
  | cast => exact cast_finds walkable (ExprForm.kind_eq form (by decide) (by decide)) recording
  | creation =>
    simp only [finds_recorded]
    rw [creationScript_finds walkable (ExprForm.kind_eq form (by decide) (by decide))]
  | arrayCreation =>
    have isKind : cursor.node.kind = "array_creation_expression" :=
      ExprForm.kind_eq form (by decide) (by decide)
    simp only [finds_recorded]
    rw [show (visitEach cursor.node.named).finds atBody cursor.node = readIn atBody cursor.node from
      words_finds walkable (by rw [isKind]; decide) fun _ _ => rfl]
  | other =>
    simp only [finds_recorded]
    rfl

/-! ## The order of anonymous classes -/

/-- What is found in a tree that is laid out lies inside of it, one behind another. -/
theorem anonymousIn_spread {node : Node} (laid : Laid node) :
    ((anonymousIn node).Pairwise fun body next => body.stop ≤ next.start) ∧
      ∀ body ∈ anonymousIn node, node.start ≤ body.start ∧ body.stop ≤ node.stop := by
  induction node using Node.induct with
  | step node ih =>
    have parts : ∀ child ∈ node.children,
        ((readPart ifAnonymous node.kind child).Pairwise fun body next => body.stop ≤ next.start) ∧
          ∀ body ∈ readPart ifAnonymous node.kind child,
            child.start ≤ body.start ∧ body.stop ≤ child.stop := by
      intro child member
      unfold readPart ifAnonymous
      split
      · split
        · refine ⟨List.pairwise_singleton _ _, fun body isChild => ?_⟩
          rw [List.mem_singleton.mp isChild]
          exact ⟨Nat.le_refl _, Nat.le_refl _⟩
        · exact ⟨List.Pairwise.nil, fun _ absent => nomatch absent⟩
      · exact ih child member (laid.below member)
    rw [anonymousIn, readIn_eq]
    constructor
    case left =>
      refine List.pairwise_flatMap.mpr ⟨fun child member => (parts child member).1, ?_⟩
      refine laid.ascend.imp_of_mem fun {child next} member member' before body isIn body' isIn' => ?_
      have behind := (parts child member).2 body isIn
      have front := (parts next member').2 body' isIn'
      omega
    case right =>
      intro body isIn
      obtain ⟨child, member, isIn⟩ := List.mem_flatMap.mp isIn
      have around := laid.inside member
      have inside := (parts child member).2 body isIn
      omega

/-- Class bodies of a tree that is laid out are laid out. -/
theorem laid_of_classBodies {node body : Node} (laid : Laid node) (listed : body ∈ classBodies node) :
    Laid body := by
  induction node using Node.induct with
  | step node ih =>
    rw [classBodies, readIn_eq] at listed
    obtain ⟨child, member, listed⟩ := List.mem_flatMap.mp listed
    have below := laid.below member
    unfold readPart at listed
    split at listed
    · rcases List.mem_cons.mp listed with rfl | inside
      · exact below
      · exact ih child member below inside
    · exact ih child member below listed

end SymbolIndex.Walk
