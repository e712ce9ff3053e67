import SymbolIndex.Proofs.Comments.Tree
import SymbolIndex.Walk.Walker

/-!
# What is read off a tree without its comments

Before it goes on to the nodes below, a walk reads much off a node itself: types and their texts, parameters,
the members of a class body, the names that a pattern or a `catch` binds, the package and the types of the
file. Each of these readings finds the same in the tree without its comments, as it asks for roles and kinds
that no comment has, or for the first or last child of a node that no comment starts or ends.

One reading needs more: the parameters of a lambda without types are all the words of their list, so
`declareLambdaParameters_uncommented` asks that there be no comment among them.
-/

namespace SymbolIndex.Walk

open SymbolIndex.Tree (Node Source Cursor Tidy Inner)

variable (env : Env) (scope : Scope)

/-- A node keeps its place, and so its text. -/
@[simp] theorem Env.text_uncommented (node : Node) : env.text node.uncommented = env.text node := by
  rw [Env.text, Env.text, Node.start_uncommented, Node.stop_uncommented]

/-! ## Types -/

/-- The type that a node denotes, by the types below it. -/
theorem typeOf_eq (node : Node) :
    typeOf env scope node =
      match TypeForm.ofKind node.kind with
      | .keyword => (Primitive.ofName? (env.text node)).map .primitive
      | .simple =>
        match Primitive.ofName? (env.text node) with
        | some kind => some (.primitive kind)
        | none => (simpleType env scope (env.text node)).map .reference
      | .qualified =>
        (namedType env scope (Tree.erase (Tree.typeText env.source node))).map .reference
      | .parameterized => (node.named.find? (namesType ·.kind)).bind (typeOf env scope)
      | .array => (node.child? "element").bind fun element =>
        (typeOf env scope element).map
          (·.arrayOf (Tree.dimensionsOf env.source (node.child? "dimensions")))
      | .annotated =>
        ((node.named.filter (Tree.isTypeKind ·.kind)).getLast?).bind (typeOf env scope)
      | .other => none := by
  rw [typeOf]
  cases TypeForm.ofKind node.kind with
  | parameterized => simp only; split <;> rename_i found <;> rw [found] <;> rfl
  | array => simp only; split <;> rename_i found <;> rw [found] <;> rfl
  | annotated => simp only; split <;> rename_i found <;> rw [found] <;> rfl
  | _ => rfl

/-- **Comments do not change what a type denotes.** By induction on the node. -/
theorem typeOf_uncommented {node : Node} (tidy : Tidy node) :
    typeOf env scope node.uncommented = typeOf env scope node := by
  induction node using Node.induct with
  | step node ih =>
    have below {found : Option Node} (inside : ∀ child ∈ found, child ∈ node.children) :
        (found.map Node.uncommented).bind (typeOf env scope) = found.bind (typeOf env scope) := by
      cases found with
      | none => rfl
      | some child => exact ih child (inside child rfl) (tidy.below (inside child rfl))
    rw [typeOf_eq, typeOf_eq env scope node, Node.kind_uncommented, Env.text_uncommented]
    cases form : TypeForm.ofKind node.kind with
    | qualified =>
      have below : node.kind ≠ "program" := by
        intro program
        rw [program] at form
        cases form
      simp only [Tree.typeText_uncommented env.source ⟨tidy, below⟩]
    | parameterized =>
      simp only
      rw [Node.find?_named_uncommented namesType (by decide)]
      exact below fun child found => Node.mem_of_named (List.mem_of_find?_eq_some found)
    | array =>
      simp only [tidy.child?_uncommented, Tree.dimensionsOf_uncommented]
      cases found : node.child? "element" with
      | none => rfl
      | some element =>
        simp only [Option.map_some, Option.bind_some]
        rw [ih element (Node.mem_of_child? found) (tidy.belowRole found)]
    | annotated =>
      simp only
      rw [Node.filter_named_uncommented Tree.isTypeKind (by decide), List.getLast?_map]
      exact below fun child found =>
        Node.mem_of_named (List.mem_filter.mp (List.mem_of_getLast? found)).1
    | _ => rfl

/-- A comment inside a type name does not change the class that it stands for. -/
theorem classOf_uncommented {node : Node} (tidy : Tidy node) :
    classOf env scope node.uncommented = classOf env scope node := by
  rw [classOf, classOf, typeOf_uncommented env scope tidy]

/-! ## Parameters -/

/-- The parameter with the name that the tree without comments has. -/
def Parameter.uncommented (parameter : Parameter) : Parameter :=
  { parameter with name := parameter.name.uncommented }

/-- The parameter that is read is the same, but for the comments of its name's node. -/
theorem formalParameter_uncommented {node : Node} (tidy : Tidy node) :
    formalParameter env scope node.uncommented =
      (formalParameter env scope node).map Parameter.uncommented := by
  unfold formalParameter
  simp only [tidy.child?_uncommented, Tree.dimensionsOf_uncommented]
  cases found : node.child? "type" with
  | none => rfl
  | some type =>
    have inner := tidy.inner (Node.mem_of_child? found)
    cases node.child? "name" with
    | none => rfl
    | some name =>
      simp [Parameter.uncommented, typeOf_uncommented env scope inner.tidy,
        Tree.typeText_uncommented env.source inner]

/-- A parameter with dots behind its type is read past the comments between its parts. -/
theorem spreadParameter_uncommented {node : Node} (tidy : Tidy node) :
    spreadParameter env scope node.uncommented =
      (spreadParameter env scope node).map Parameter.uncommented := by
  unfold spreadParameter
  rw [Node.find?_named_uncommented Tree.isTypeKind (by decide),
    Node.find?_named_uncommented (· == "variable_declarator") (by decide)]
  cases found : node.named.find? (Tree.isTypeKind ·.kind) with
  | none => rfl
  | some type =>
    have inner := tidy.inner (Node.mem_of_named (List.mem_of_find?_eq_some found))
    cases found' : node.named.find? (·.kind == "variable_declarator") with
    | none => rfl
    | some declarator =>
      have tidy' := tidy.belowNamed (List.mem_of_find?_eq_some found')
      simp only [Option.map_some, Option.bind_eq_bind, Option.bind_some, tidy'.child?_uncommented]
      cases declarator.child? "name" with
      | none => rfl
      | some name =>
        simp [Parameter.uncommented, typeOf_uncommented env scope inner.tidy,
          Tree.typeText_uncommented env.source inner]

theorem parameter?_uncommented {node : Node} (tidy : Tidy node) :
    parameter? env scope node.uncommented = (parameter? env scope node).map Parameter.uncommented := by
  unfold parameter?
  rw [Node.kind_uncommented]
  split
  · exact formalParameter_uncommented env scope tidy
  · split
    · exact spreadParameter_uncommented env scope tidy
    · rfl

/-- A comment between parameters is none itself. -/
theorem parameter?_of_comment {node : Node} (comment : node.isComment) :
    parameter? env scope node = none := by
  rcases Node.kind_of_comment comment with kind | kind <;> rw [parameter?, kind] <;> rfl

/-- A list of parameters is read as the same list with its comments gone. -/
theorem parameters_uncommented {list : Option Node} (tidy : ∀ node ∈ list, Tidy node) :
    parameters env scope (list.map Node.uncommented) =
      (parameters env scope list).map Parameter.uncommented := by
  cases list with
  | none => rfl
  | some list =>
    have tidy := tidy list rfl
    simp only [Option.map_some, parameters, Node.named_uncommented]
    exact Node.filterMap_uncommentedAll _
      (fun node inside => parameter?_uncommented env scope (tidy.belowNamed inside))
      (fun node _ comment => parameter?_of_comment env scope comment)

theorem parameters_child?_uncommented {node : Node} (tidy : Tidy node) (role : String) :
    parameters env scope ((node.child? role).map Node.uncommented) =
      (parameters env scope (node.child? role)).map Parameter.uncommented :=
  parameters_uncommented env scope fun _ => tidy.belowRole

/-- The components of a record are its parameters, read the same way. -/
theorem componentsOf_uncommented {declaration : Option Node} (tidy : ∀ node ∈ declaration, Tidy node) :
    componentsOf env scope (declaration.map Node.uncommented) =
      (componentsOf env scope declaration).map Parameter.uncommented := by
  cases declaration with
  | none => rfl
  | some declaration =>
    have tidy := tidy declaration rfl
    simp only [Option.map_some, componentsOf, Node.kind_uncommented, tidy.child?_uncommented]
    split
    · exact parameters_child?_uncommented env scope tidy "parameters"
    · rfl

/-- The types that make up a signature do not know of the nodes of the names. -/
theorem erased_uncommented (parameters : List Parameter) :
    (parameters.map Parameter.uncommented).map (·.erased) = parameters.map (·.erased) := by
  rw [List.map_map]
  rfl

/-- A method has the signature that it has without comments. -/
theorem signature_uncommented (name : String) (parameters : List Parameter) :
    signature name (parameters.map Parameter.uncommented) = signature name parameters := by
  rw [signature, signature, erased_uncommented]

/-! ## Class bodies -/

/-- The members of a body are those that are left when its comments are taken out. -/
theorem bodyMembers_uncommented {body : Node} (tidy : Tidy body) :
    bodyMembers body.uncommented = Node.uncommentedAll (bodyMembers body) := by
  rw [bodyMembers, bodyMembers, Node.named_uncommented]
  refine Node.flatMap_uncommentedAll (fun child inside kept => ?_) fun child inside comment => ?_
  · rw [Node.kind_uncommented]
    split
    · exact Node.named_uncommented child
    · simp [Node.uncommentedAll, kept]
  · split
    · rw [(tidy.belowNamed inside).named_of_comment comment, Node.uncommentedAll]
    · simp [Node.uncommentedAll, comment]

/-- What holds of the comments in a body holds in each of its members. -/
theorem mem_bodyMembers {body member : Node} (tidy : Tidy body) (inside : member ∈ bodyMembers body) :
    Tidy member := by
  obtain ⟨child, named, member⟩ := List.mem_flatMap.mp inside
  have below := tidy.belowNamed named
  split at member
  · exact below.belowNamed member
  · rwa [List.mem_singleton.mp member]

/-- A comment is no type, so it may stand where types are looked for. -/
theorem typeOf_of_comment {node : Node} (comment : node.isComment) : typeOf env scope node = none := by
  rcases Node.kind_of_comment comment with kind | kind <;> rw [typeOf_eq, kind] <;> rfl

theorem filterMap_classOf_uncommented {nodes : List Node} (tidy : ∀ node ∈ nodes, Tidy node) :
    (Node.uncommentedAll nodes).filterMap (classOf env scope) = nodes.filterMap (classOf env scope) := by
  rw [Node.filterMap_uncommentedAll id, List.map_id]
  · intro node inside
    rw [classOf_uncommented env scope (tidy node inside), Option.map_id, id]
  · intro node _ comment
    rw [classOf, typeOf_of_comment env scope comment]
    rfl

/-- A super class or a list of interfaces adds the same supertypes. -/
theorem addHeader_uncommented (type : SourceType) {child : Node} (tidy : Tidy child) :
    addHeader env scope type child.uncommented = addHeader env scope type child := by
  have superClass : (child.uncommented.named.find? (Tree.isTypeKind ·.kind)).bind (classOf env scope) =
      (child.named.find? (Tree.isTypeKind ·.kind)).bind (classOf env scope) := by
    rw [Node.find?_named_uncommented Tree.isTypeKind (by decide)]
    cases found : child.named.find? (Tree.isTypeKind ·.kind) with
    | none => rfl
    | some type => exact classOf_uncommented env scope (tidy.belowNamed (List.mem_of_find?_eq_some found))
  have interfaces : (child.uncommented.named.flatMap (·.named)).filterMap (classOf env scope) =
      (child.named.flatMap (·.named)).filterMap (classOf env scope) := by
    rw [Node.named_uncommented, Node.flatMap_uncommentedAll]
    · refine filterMap_classOf_uncommented env scope fun node inside => ?_
      obtain ⟨list, named, inside⟩ := List.mem_flatMap.mp inside
      exact (tidy.belowNamed named).belowNamed inside
    · intro node _ _
      exact Node.named_uncommented node
    · intro node inside comment
      rw [(tidy.belowNamed inside).named_of_comment comment, Node.uncommentedAll]
  simp only [addHeader, Node.kind_uncommented, superClass, interfaces]

/-- A declarator adds a field of the same name and type. -/
theorem addDeclarator_uncommented (base : Option JavaType) (type : SourceType) {declarator : Node}
    (tidy : Tidy declarator) :
    addDeclarator env base type declarator.uncommented = addDeclarator env base type declarator := by
  simp only [addDeclarator, tidy.child?_uncommented, Tree.dimensionsOf_uncommented]
  cases declarator.child? "name" with
  | none => rfl
  | some name => simp only [Option.map_some, Env.text_uncommented]

theorem bind_typeOf_uncommented {node : Node} (tidy : Tidy node) (role : String) :
    ((node.child? role).map Node.uncommented).bind (typeOf env scope) =
      (node.child? role).bind (typeOf env scope) := by
  cases found : node.child? role with
  | none => rfl
  | some type => exact typeOf_uncommented env scope (tidy.belowRole found)

/-- A member of a class adds what it adds without its comments. -/
theorem addMember_uncommented (path : String) (type : SourceType) {member : Node} (tidy : Tidy member) :
    addMember env scope path type member.uncommented = addMember env scope path type member := by
  have declarators (base : Option JavaType) :
      (member.uncommented.childrenIn "declarator").foldl (addDeclarator env base) type =
        (member.childrenIn "declarator").foldl (addDeclarator env base) type := by
    rw [Node.childrenIn_uncommented, Node.foldl_uncommentedAll]
    · intro declarator inside type
      exact addDeclarator_uncommented env base type (tidy.below (List.mem_filter.mp inside).1)
    · intro declarator inside comment
      exact absurd comment (tidy.not_comment (List.mem_filter.mp inside).1 (List.mem_filter.mp inside).2)
  simp only [addMember, Node.kind_uncommented, tidy.child?_uncommented, bind_typeOf_uncommented env scope tidy,
    declarators]
  cases member.child? "name" with
  | none => rfl
  | some name => simp only [Option.map_some, Env.text_uncommented]

/-- A comment between members adds nothing to the class. -/
theorem addMember_of_comment (path : String) (type : SourceType) {member : Node}
    (comment : member.isComment) : addMember env scope path type member = type := by
  rcases Node.kind_of_comment comment with kind | kind <;> simp [addMember, kind]

/-- A comment in the head of a class adds no supertype. -/
theorem addHeader_of_comment (type : SourceType) {child : Node} (comment : child.isComment) :
    addHeader env scope type child = type := by
  rcases Node.kind_of_comment comment with kind | kind <;> simp [addHeader, kind]

/-- A step that treats both readings of a parameter alike may be run over either list. -/
theorem foldl_map_uncommented {α : Type} {step : α → Parameter → α}
    (same : ∀ value parameter, step value (Parameter.uncommented parameter) = step value parameter)
    (parameters : List Parameter) (start : α) :
    (parameters.map Parameter.uncommented).foldl step start = parameters.foldl step start := by
  simp only [List.foldl_map, same]

theorem addDeclaration_uncommented (type : SourceType) {declaration : Node} (tidy : Tidy declaration) :
    addDeclaration env scope type declaration.uncommented = addDeclaration env scope type declaration := by
  have headed (start : SourceType) :
      declaration.uncommented.children.foldl (addHeader env scope) start =
        declaration.children.foldl (addHeader env scope) start := by
    rw [Node.children_uncommented]
    exact Node.foldl_uncommentedAll
      (fun child inside type => addHeader_uncommented env scope type (tidy.below inside))
      (fun child _ comment type => addHeader_of_comment env scope type comment) start
  simp only [addDeclaration, Node.kind_uncommented, headed, tidy.child?_uncommented,
    parameters_child?_uncommented env scope tidy]
  rw [foldl_map_uncommented]
  intro type component
  simp only [addComponent, Parameter.uncommented, Env.text_uncommented]

/-- **What is collected of a class does not depend on comments**: its supertypes, fields and methods are
the same. -/
theorem sourceType_uncommented (path : String) {declaration : Option Node} {members : List Node}
    (tidy : ∀ node ∈ declaration, Tidy node) (tidyMembers : ∀ node ∈ members, Tidy node)
    (hint : Option String) :
    sourceType env scope path (declaration.map Node.uncommented) (Node.uncommentedAll members) hint =
      sourceType env scope path declaration members hint := by
  have collected (start : SourceType) :
      (Node.uncommentedAll members).foldl (addMember env scope path) start =
        members.foldl (addMember env scope path) start :=
    Node.foldl_uncommentedAll
      (fun member inside type => addMember_uncommented env scope path type (tidyMembers member inside))
      (fun member _ comment type => addMember_of_comment env scope path type comment) start
  cases declaration with
  | none => simp only [sourceType, Option.map_none, collected]
  | some declaration =>
    simp only [sourceType, Option.map_some, collected,
      addDeclaration_uncommented env scope _ (tidy declaration rfl)]

/-- A member class comes to be known under the same path. -/
theorem nameMember_uncommented {member : Node} (tidy : Tidy member) :
    nameMember env scope member.uncommented = nameMember env scope member := by
  simp only [nameMember, tidy.child?_uncommented, Node.kind_uncommented]
  cases member.child? "name" with
  | none => rfl
  | some name => simp only [Option.map_some, Env.text_uncommented]

/-- A comment names no member class. -/
theorem nameMember_of_comment {member : Node} (tidy : Tidy member) (comment : member.isComment) :
    nameMember env scope member = scope := by
  simp only [nameMember, tidy.child?_of_comment comment]

/-- **A class body is opened the same.** -/
theorem openBody_uncommented (path : String) {declaration body : Option Node}
    (tidy : ∀ node ∈ declaration, Tidy node) (tidyBody : ∀ node ∈ body, Tidy node)
    (hint : Option String) (state : State) :
    openBody env (declaration.map Node.uncommented) path (body.map Node.uncommented) hint state =
      openBody env declaration path body hint state := by
  have members : ((body.map Node.uncommented).map bodyMembers).getD [] =
      Node.uncommentedAll ((body.map bodyMembers).getD []) := by
    cases body with
    | none => rfl
    | some body => exact bodyMembers_uncommented (tidyBody body rfl)
  have tidyMembers : ∀ member ∈ (body.map bodyMembers).getD [], Tidy member := by
    cases body with
    | none => simp
    | some body => exact fun member inside => mem_bodyMembers (tidyBody body rfl) inside
  have named (scope : Scope) :
      (Node.uncommentedAll ((body.map bodyMembers).getD [])).foldl (nameMember env) scope =
        ((body.map bodyMembers).getD []).foldl (nameMember env) scope :=
    Node.foldl_uncommentedAll
      (fun member inside scope => nameMember_uncommented env scope (tidyMembers member inside))
      (fun member inside comment scope =>
        nameMember_of_comment env scope (tidyMembers member inside) comment) scope
  simp only [openBody, members, named, sourceType_uncommented env _ path tidy tidyMembers]

/-! ## The head of a file -/

theorem declaredName?_uncommented (node : Node) :
    Imports.declaredName? node.uncommented = (Imports.declaredName? node).map Node.uncommented :=
  Node.find?_named_uncommented (fun kind => kind == "scoped_identifier" || kind == "identifier")
    (by decide) node

/-- An import or the package is read the same way. -/
theorem addNode_uncommented (source : Source) (imports : Imports) (node : Node) :
    Imports.addNode source imports node.uncommented = Imports.addNode source imports node := by
  unfold Imports.addNode
  rw [declaredName?_uncommented, Node.kind_uncommented, Node.children_uncommented,
    Node.any_uncommentedAll (· == "static") (by decide),
    Node.any_uncommentedAll (· == "asterisk") (by decide)]
  cases Imports.declaredName? node with
  | none => rfl
  | some name => simp only [Option.map_some, Node.start_uncommented, Node.stop_uncommented]

/-- **The imports and the types of a file are the same.** -/
theorem ofTree_uncommented (source : Source) {root : Node} (tidy : Tidy root) (classpath : Classpath) :
    Env.ofTree source root.uncommented classpath = Env.ofTree source root classpath := by
  have imports : Imports.ofTree source root.uncommented = Imports.ofTree source root := by
    rw [Imports.ofTree, Imports.ofTree, Node.named_uncommented]
    refine Node.foldl_uncommentedAll (fun node _ imports => addNode_uncommented source imports node)
      (fun node inside comment imports => ?_) _
    rw [Imports.addNode, Imports.declaredName?, (tidy.belowNamed inside).named_of_comment comment,
      List.find?_nil]
  have types : (root.uncommented.named.filter (declaresType ·.kind)).filterMap (·.child? "name") =
      ((root.named.filter (declaresType ·.kind)).filterMap (·.child? "name")).map Node.uncommented := by
    have below {node : Node} (inside : node ∈ root.named.filter (declaresType ·.kind)) : Tidy node :=
      tidy.belowNamed (List.mem_filter.mp inside).1
    rw [Node.named_uncommented, Node.filter_uncommentedAll fun node => by rw [Node.kind_uncommented]]
    exact Node.filterMap_uncommentedAll Node.uncommented
      (fun node inside => (below inside).child?_uncommented "name")
      (fun node inside comment => (below inside).child?_of_comment comment "name")
  simp only [Env.ofTree, imports, Env.topLevelTypes, types, List.map_map, Function.comp_def,
    Node.start_uncommented, Node.stop_uncommented]

/-! ## Steps without a walker -/

section Steps

/-- A span is that of the node itself, whatever lies below it. -/
@[simp] theorem ofNode_uncommented (source : Source) (node : Node) :
    Span.ofNode source node.uncommented = Span.ofNode source node := by
  simp only [Span.ofNode, Node.start_uncommented, Node.stop_uncommented]

/-- A local is filed under the same name, at the same place. -/
@[simp] theorem fileLocal_uncommented (name : Node) (typeName : Option String) (state : State) :
    state.fileLocal env name.uncommented typeName = state.fileLocal env name typeName := by
  simp only [State.fileLocal, Env.text_uncommented, ofNode_uncommented]

@[simp] theorem declare_uncommented (name : Node) (type : Option JavaType) (state : State) :
    state.declare env name.uncommented type = state.declare env name type := by
  simp only [State.declare, Env.text_uncommented]

@[simp] theorem note_uncommented (node : Node) (cause : Unresolved) (state : State) :
    state.note env node.uncommented cause = state.note env node cause := by
  simp only [State.note, Env.text_uncommented, Node.start_uncommented]

/-- A reference is filed under the same name, at the same place. -/
@[simp] theorem fileReference_uncommented (name : Node) (kind : MemberKind) (declaring : String)
    (state : State) :
    state.fileReference env name.uncommented kind declaring =
      state.fileReference env name kind declaring := by
  simp only [State.fileReference, Env.text_uncommented, ofNode_uncommented]

/-- The place at which a walk gives up does not depend on comments. -/
@[simp] theorem giveUpAt_uncommented (node : Node) (state : State) :
    state.giveUpAt env node.uncommented = state.giveUpAt env node := by
  simp only [State.giveUpAt, Node.start_uncommented]

theorem fileComponents_uncommented (components : List Parameter) (state : State) :
    fileComponents env (components.map Parameter.uncommented) state =
      fileComponents env components state := by
  refine foldl_map_uncommented (fun state component => ?_) components state
  simp only [Parameter.uncommented, Env.text_uncommented, ofNode_uncommented]

/-- The parameters of a method are declared alike. -/
theorem declareParameters_uncommented (method owner : String) (parameters : List Parameter)
    (state : State) :
    declareParameters env method owner (parameters.map Parameter.uncommented) state =
      declareParameters env method owner parameters state := by
  refine foldl_map_uncommented (fun state parameter => ?_) parameters state
  simp only [Parameter.uncommented, Env.text_uncommented, ofNode_uncommented, declare_uncommented]

/-- The components of a record are declared alike in its compact constructor. -/
theorem declareComponents_uncommented (components : List Parameter) (state : State) :
    declareComponents env (components.map Parameter.uncommented) state =
      declareComponents env components state :=
  foldl_map_uncommented (fun _ _ => declare_uncommented env _ _ _) components state

/-- The text of a type inside a declaration is written without its comments anyway. -/
theorem typeText?_uncommented {type : Option Node} (inner : ∀ node ∈ type, Inner node) :
    typeText? env (type.map Node.uncommented) = typeText? env type := by
  cases type with
  | none => rfl
  | some type => simp only [typeText?, Option.map_some, Tree.typeText_uncommented env.source (inner type rfl)]

theorem typeOf?_uncommented {type : Option Node} (inner : ∀ node ∈ type, Inner node) :
    typeOf? env scope (type.map Node.uncommented) = typeOf? env scope type := by
  cases type with
  | none => rfl
  | some type => exact typeOf_uncommented env scope (inner type rfl).tidy

@[simp] theorem isInferred_uncommented (type : Option Node) :
    isInferred env (type.map Node.uncommented) = isInferred env type := by
  cases type <;> simp [isInferred]

/-- The alternatives of a `catch` begin and end with a type: there is none, one, or more than one, with
comments or without. -/
theorem alternatives_shape {type : Node} (tidy : Tidy type) (isCatch : type.kind = "catch_type") :
    type.named = [] ∨ (∃ single, type.named = [single] ∧ ¬ single.isComment) ∨
      ∃ first middle last, type.named = first :: (middle ++ [last]) ∧
        ¬ first.isComment ∧ ¬ last.isComment := by
  have commented := tidy.here
  have below : type.kind ≠ "program" := by simp [isCatch]
  cases children : type.children with
  | nil => exact .inl (by rw [Node.named, children, List.filter_nil])
  | cons first rest =>
    have isFirst : first ∈ type.children.head? := by simp [children]
    have named := commented.heads (by simp [isCatch]) first isFirst
    have kept := commented.first below first isFirst
    cases ends : rest.getLast? with
    | none =>
      refine .inr (.inl ⟨first, ?_, kept⟩)
      simp [Node.named, children, List.getLast?_eq_none_iff.mp ends, named]
    | some last =>
      obtain ⟨middle, rfl⟩ := List.getLast?_eq_some_iff.mp ends
      have isLast : last ∈ type.children.getLast? := by
        rw [children, ← List.cons_append]
        exact List.getLast?_concat
      have namedLast := commented.ends (by simp [isCatch]) last isLast
      refine .inr (.inr ⟨first, middle.filter (·.label.named), last, ?_, kept,
        commented.last below last isLast⟩)
      simp [Node.named, children, named, namedLast]

/-- The type of a parameter that has a single one. -/
def singleType (alternatives : List Node) : Option JavaType :=
  match alternatives with
  | [single] => typeOf env scope single
  | _ => none

/-- Whether a catch clause names a single type is seen past the comments between its types. -/
theorem singleType_uncommented {type : Node} (tidy : Tidy type) (isCatch : type.kind = "catch_type") :
    singleType env scope type.uncommented.named = singleType env scope type.named := by
  rw [Node.named_uncommented]
  rcases alternatives_shape tidy isCatch with none | ⟨single, one, kept⟩ | ⟨first, middle, last, more, kept⟩
  · rw [none, Node.uncommentedAll]
  · have below : Tidy single := tidy.belowNamed (by simp [one])
    simp [one, Node.uncommentedAll, kept, singleType, typeOf_uncommented env scope below]
  · simp [more, Node.uncommentedAll, Node.uncommentedAll_append, kept, singleType]

/-- What a catch clause declares, with the name looked up once. -/
theorem declareCaught_eq (parameter : Node) (state : State) :
    declareCaught env parameter state =
      match parameter.child? "name" with
      | none => state
      | some name =>
        let type := parameter.named.find? (·.kind == "catch_type")
        (state.fileLocal env name (typeText? env type)).declare env name
          (singleType env state.scope ((type.map (·.named)).getD [])) :=
  rfl

/-- A catch clause declares the same local, of the same type. -/
theorem declareCaught_uncommented {parameter : Node} (tidy : Tidy parameter) (state : State) :
    declareCaught env parameter.uncommented state = declareCaught env parameter state := by
  rw [declareCaught_eq, declareCaught_eq, tidy.child?_uncommented,
    Node.find?_named_uncommented (· == "catch_type") (by decide)]
  cases found : parameter.named.find? (·.kind == "catch_type") with
  | none => cases parameter.child? "name" <;> simp
  | some type =>
    have isCatch := List.find?_some found
    have inner := tidy.inner (Node.mem_of_named (List.mem_of_find?_eq_some found))
    have single := singleType_uncommented env state.scope inner.tidy (by simpa using isCatch)
    have text := Tree.typeText_uncommented env.source inner
    cases parameter.child? "name" <;> simp [single, typeText?, text]

/-- A pattern binds the same local. -/
theorem visitPattern_uncommented {cursor : Cursor} (tidy : Tidy cursor.node)
    (isPattern : cursor.kind ∈ ["type_pattern", "record_pattern_component"]) (above : List Node)
    (state : State) :
    visitPattern env ⟨cursor.node.uncommented, above⟩ state = visitPattern env cursor state := by
  have below : cursor.kind ≠ "program" := fun program => by rw [program] at isPattern; simp at isPattern
  have last : cursor.node.uncommented.named.getLast? =
      cursor.node.named.getLast?.map Node.uncommented := by
    rw [Node.named_uncommented]
    refine Node.getLast?_uncommentedAll fun name ends => ?_
    rw [Node.getLast?_named (tidy.here.ends (List.mem_cons_of_mem _ isPattern))] at ends
    exact tidy.here.last below name ends
  have type := Node.find?_named_uncommented Tree.isTypeKind (by decide) cursor.node
  have inner : ∀ node ∈ cursor.node.named.find? (Tree.isTypeKind ·.kind), Inner node := fun node found =>
    tidy.inner (Node.mem_of_named (List.mem_of_find?_eq_some found))
  simp only [visitPattern, last, type, isInferred_uncommented]
  cases cursor.node.named.getLast? with
  | none => rfl
  | some name =>
    simp only [Option.map_some, Node.kind_uncommented]
    cases isInferred env (cursor.node.named.find? (Tree.isTypeKind ·.kind)) with
    | true => simp
    | false => simp [typeText?_uncommented env inner, typeOf?_uncommented env _ inner]

theorem declareUntyped_uncommented (state : State) (name : Node) :
    declareUntyped env state name.uncommented = declareUntyped env state name := by
  simp [declareUntyped]

/-- The parameters of a lambda are the same unless a comment stands among names without types. -/
theorem declareLambdaParameters_uncommented {list : Node} (tidy : Tidy list)
    (harmless : list.kind = "inferred_parameters" → ∀ child ∈ list.children, ¬ child.isComment)
    (state : State) :
    declareLambdaParameters env list.uncommented state = declareLambdaParameters env list state := by
  have listed := parameters_uncommented env state.scope (by simpa using tidy : ∀ node ∈ some list, Tidy node)
  simp only [declareLambdaParameters, Node.kind_uncommented, declareUntyped_uncommented]
  split
  · rfl
  · split
    · rename_i inferred
      rw [Node.named_uncommented]
      refine Node.foldl_uncommentedAll (fun name _ state => declareUntyped_uncommented env state name)
        (fun name inside comment => ?_) state
      exact absurd comment (harmless (by simpa using inferred) name (Node.mem_of_named inside))
    · rw [Option.map_some] at listed
      rw [listed]
      refine foldl_map_uncommented (fun state parameter => ?_) _ state
      simp [declareTyped, Parameter.uncommented]

/-! ## Parts of expressions -/

theorem createdDimensions_uncommented (node : Node) :
    createdDimensions env node.uncommented = createdDimensions env node := by
  unfold createdDimensions
  rw [Node.filter_named_uncommented (fun kind => kind == "dimensions_expr" || kind == "dimensions")
    (by decide)]
  simp only [List.foldl_map, Env.text_uncommented]

/-- The parts of a creation are those that are left when its comments are taken out. -/
theorem creationParts_uncommented {node : Node} (tidy : Tidy node) :
    creationParts node.uncommented = Node.uncommentedAll (creationParts node) := by
  rw [creationParts, creationParts, Node.children_uncommented,
    Node.eraseP_uncommentedAll (Node.plays_uncommented · "type") fun _ => tidy.plays_of_comment]
  exact Node.filter_uncommentedAll (fun node => by rw [Node.label_uncommented, Node.kind_uncommented]) _

/-- The body of an anonymous class is found past the comments. -/
theorem creationBody?_uncommented (node : Node) :
    creationBody? node.uncommented = (creationBody? node).map Node.uncommented := by
  rw [creationBody?, creationBody?, Node.filter_named_uncommented (· == "class_body") (by decide),
    List.getLast?_map]

/-- Whether a name is that of an element of an annotation is seen past the comments. -/
theorem isKeyOf_uncommented {parent : Node} (tidy : Tidy parent) (node : Node) :
    isKeyOf parent.uncommented node.uncommented = isKeyOf parent node := by
  simp only [isKeyOf, Node.kind_uncommented, tidy.child?_uncommented, Option.any_map,
    Node.samePlace, Node.start_uncommented, Node.stop_uncommented]

/-- A modifier is found past the comments in front of it. -/
theorem hasModifier_uncommented (node : Node) (modifier : String)
    (passes : Node.PassesComments (· == modifier)) :
    node.uncommented.hasModifier modifier = node.hasModifier modifier := by
  rw [Node.hasModifier, Node.hasModifier, Node.children_uncommented,
    Node.filter_kind_uncommentedAll (· == "modifiers") (by decide), List.any_map]
  simp only [Function.comp_def, Node.children_uncommented, Node.any_uncommentedAll (· == modifier) passes]

theorem denoteType_uncommented {type : Option Node} (inner : ∀ node ∈ type, Inner node) (state : State) :
    denoteType env (type.map Node.uncommented) state = denoteType env type state := by
  cases type with
  | none => rfl
  | some type =>
    simp only [Option.map_some, denoteType, typeOf_uncommented env state.scope (inner type rfl).tidy,
      Tree.typeText_uncommented env.source (inner type rfl)]

theorem denoteName_uncommented (node : Node) (recording : Bool) (state : State) :
    denoteName env node.uncommented recording state = denoteName env node recording state := by
  simp only [denoteName, noteReference, Env.text_uncommented, fileReference_uncommented]

/-- A member that is looked up on a type is found, and filed, at the same name. -/
theorem denoteMember_uncommented (path : String) (name : Node) (kind : MemberKind) (recording : Bool)
    (state : State) :
    denoteMember env path name.uncommented kind recording state =
      denoteMember env path name kind recording state := by
  simp only [denoteMember, noteReference, Env.text_uncommented, fileReference_uncommented]

/-- A field of what an expression stands for is looked up and filed alike. -/
theorem fieldOn_uncommented (object field : Node) (recording : Bool) (referent : Referent)
    (state : State) :
    fieldOn env object.uncommented field.uncommented recording referent state =
      fieldOn env object field recording referent state := by
  simp only [fieldOn, Env.text_uncommented, denoteMember_uncommented]

/-- A method that is called on an expression is looked up and filed alike. -/
theorem methodOn_uncommented (object name : Node) (recording : Bool) (referent : Referent)
    (state : State) :
    methodOn env object.uncommented name.uncommented recording referent state =
      methodOn env object name recording referent state := by
  simp only [methodOn, Env.text_uncommented, denoteMember_uncommented]

/-- A method that is referred to by its name is looked up and filed alike. -/
theorem referredMethod_uncommented (qualifier name : Node) (recording : Bool) (referent : Referent)
    (state : State) :
    referredMethod env qualifier.uncommented name.uncommented recording referent state =
      referredMethod env qualifier name recording referent state := by
  simp only [referredMethod, methodOn_uncommented]

end Steps

end SymbolIndex.Walk
