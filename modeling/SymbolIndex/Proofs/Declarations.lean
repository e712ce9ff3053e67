import Mathlib.Data.List.Flatten
import Mathlib.Data.List.Perm.Subperm
import SymbolIndex.Proofs.DocumentOrder
import SymbolIndex.Proofs.Grammar

/-!
# Declarations are neither lost nor invented

A walk chooses by hand, for each kind of node, which children it visits, which it reads as
expressions and which it passes over. Of a tree that follows the grammar nothing that declares a name
is passed over, up to the parts that are left out on purpose, and nothing is visited twice.

`Shows` says so of the marks of one node: what is required of it is among them, and what is among them
is declared by it, both with their numbers and up to order. `outline_faithful` shows it of the whole
outline, by induction on the levels that are left: each construct names some of its children and
passes the rest by, and the rest is `Plain`. `walk_declares` reads it off the table of a walk.
-/

namespace SymbolIndex.Walk

open SymbolIndex.Tree (Node)

/-! ## Lists up to order -/

/-- What part of a list gives is part of what the list gives. -/
theorem subperm_flatMap {α β : Type} {first second : List α} (part : first.Subperm second)
    (f : α → List β) : (first.flatMap f).Subperm (second.flatMap f) := by
  obtain ⟨middle, perm, sublist⟩ := part
  exact (perm.flatMap_right f).symm.subperm.trans (sublist.flatMap f).subperm

/-- A list gives part of what it gives when each item gives more. -/
theorem flatMap_subperm {α β : Type} {list : List α} {f g : α → List β}
    (each : ∀ item ∈ list, (f item).Subperm (g item)) :
    (list.flatMap f).Subperm (list.flatMap g) := by
  induction list with
  | nil => exact List.Subperm.refl _
  | cons item items ih =>
    rw [List.flatMap_cons, List.flatMap_cons]
    exact (each item List.mem_cons_self).append
      (ih fun other member => each other (.tail _ member))

/-- Items that give nothing may be dropped. -/
theorem flatMap_filter_of_nil {α β : Type} {list : List α} {keeps : α → Bool} {f : α → List β}
    (dropped : ∀ item ∈ list, keeps item = false → f item = []) :
    (list.filter keeps).flatMap f = list.flatMap f := by
  induction list with
  | nil => rfl
  | cons item items ih =>
    have later := ih fun other member => dropped other (.tail _ member)
    cases kept : keeps item with
    | true => rw [List.filter_cons_of_pos kept, List.flatMap_cons, List.flatMap_cons, later]
    | false =>
      rw [List.filter_cons_of_neg (by simp [kept]), List.flatMap_cons,
        dropped item List.mem_cons_self kept, List.nil_append, later]

/-- An item that gives nothing may be dropped. -/
theorem flatMap_eraseP_of_nil {α β : Type} {list : List α} {drops : α → Bool} {f : α → List β}
    (dropped : ∀ item ∈ list, drops item → f item = []) :
    (list.eraseP drops).flatMap f = list.flatMap f := by
  induction list with
  | nil => rfl
  | cons item items ih =>
    cases drop : drops item with
    | true =>
      rw [List.eraseP_cons_of_pos drop, List.flatMap_cons, dropped item List.mem_cons_self drop,
        List.nil_append]
    | false =>
      rw [List.eraseP_cons_of_neg (by simp [drop]), List.flatMap_cons, List.flatMap_cons,
        ih fun other member => dropped other (.tail _ member)]

/-- A list of at most one item is that of its first. -/
theorem eq_toList_head? {α : Type} {list : List α} (single : list.length ≤ 1) :
    list = list.head?.toList := by
  match list with
  | [] => rfl
  | [_] => rfl

theorem eq_toList_getLast? {α : Type} {list : List α} (single : list.length ≤ 1) :
    list = list.getLast?.toList := by
  match list with
  | [] => rfl
  | [_] => rfl

/-! ## Marks that show declarations -/

/-- Whether a declaration is filed at a mark. -/
def Mark.declares : Mark → Bool
  | .name kind _ => kind != .reference
  | .limit => false

/-- Whether marks, unless they meet the limit, show at least and at most the given declarations. -/
def Shows (least most marks : List Mark) : Prop :=
  Mark.limit ∉ marks →
    least.Subperm (marks.filter Mark.declares) ∧ (marks.filter Mark.declares).Subperm most

namespace Shows

variable {least most marks least' most' marks' : List Mark}

/-- No marks show nothing, whatever may be shown. -/
theorem nil : Shows [] most [] := fun _ => ⟨List.nil_subperm, List.nil_subperm⟩

/-- Giving up declares nothing. -/
theorem limit : Shows least most [.limit] := fun free => absurd List.mem_cons_self free

/-- References declare nothing. -/
theorem references (tokens : List Node) : Shows [] [] (names .reference tokens) := by
  intro _
  have nothing : (Walk.names .reference tokens).filter Mark.declares = [] := by
    refine List.filter_eq_nil_iff.mpr fun mark member => ?_
    obtain ⟨token, _, rfl⟩ := List.mem_map.mp member
    exact Bool.false_ne_true
  rw [nothing]
  exact ⟨.refl _, .refl _⟩

/-- Names that are declared show themselves. -/
theorem names {kind : OccurrenceKind} (declares : kind ≠ .reference) (tokens : List Node) :
    Shows (Walk.names kind tokens) (Walk.names kind tokens) (Walk.names kind tokens) := by
  intro _
  have all : (Walk.names kind tokens).filter Mark.declares = Walk.names kind tokens := by
    refine List.filter_eq_self.mpr fun mark member => ?_
    obtain ⟨token, _, rfl⟩ := List.mem_map.mp member
    exact bne_iff_ne.mpr declares
  rw [all]
  exact ⟨.refl _, .refl _⟩

/-- Two parts show what they show together. -/
theorem append (first : Shows least most marks) (second : Shows least' most' marks') :
    Shows (least ++ least') (most ++ most') (marks ++ marks') := by
  intro free
  rw [List.mem_append, not_or] at free
  rw [List.filter_append]
  exact ⟨(first free.1).1.append (second free.2).1, (first free.1).2.append (second free.2).2⟩

/-- **Bounds may be loosened**: what must be shown may be less, and what may be shown more. -/
theorem mono (shows : Shows least most marks) (lower : least'.Subperm least)
    (upper : most.Subperm most') : Shows least' most' marks :=
  fun free => ⟨lower.trans (shows free).1, (shows free).2.trans upper⟩

/-- Nodes show together what each of them shows. -/
theorem flatMap {nodes : List Node} {least most marks : Node → List Mark}
    (each : ∀ node ∈ nodes, Shows (least node) (most node) (marks node)) :
    Shows (nodes.flatMap least) (nodes.flatMap most) (nodes.flatMap marks) := by
  induction nodes with
  | nil => exact nil
  | cons node nodes ih =>
    rw [List.flatMap_cons, List.flatMap_cons, List.flatMap_cons]
    exact (each node List.mem_cons_self).append (ih fun other member => each other (.tail _ member))

/-- Nodes that are shown with names of their own. -/
theorem flatMap_names {nodes : List Node} {kind : OccurrenceKind} {tokens : Node → List Node}
    {least most marks : Node → List Mark}
    (each : ∀ node ∈ nodes, Shows (Walk.names kind (tokens node) ++ least node)
      (Walk.names kind (tokens node) ++ most node) (marks node)) :
    Shows (Walk.names kind (nodes.flatMap tokens) ++ nodes.flatMap least)
      (Walk.names kind (nodes.flatMap tokens) ++ nodes.flatMap most) (nodes.flatMap marks) := by
  have gathered : Walk.names kind (nodes.flatMap tokens) =
      nodes.flatMap fun node => Walk.names kind (tokens node) := List.map_flatMap ..
  rw [gathered]
  exact (flatMap each).mono (List.flatMap_append_perm _ _ _).subperm
    (List.flatMap_append_perm _ _ _).symm.subperm

end Shows

/-! ## Nodes without declarations -/

/-- Only the kinds that are listed declare anything themselves. -/
theorem declaredBy_eq_nil {node : Node} (silent : node.kind ∉ declarers.map (·.1)) :
    declaredBy node = [] := by
  unfold declaredBy
  cases listed : declarers.lookup node.kind with
  | none => rfl
  | some tokens => exact absurd (List.mem_map_of_mem (mem_of_lookup listed)) silent

/-- A node without children has nothing declared inside. -/
theorem declaredIn_leaf {node : Node} (leaf : node.children = []) (skips : Node → Node → Bool) :
    declaredIn skips node = [] := by
  have nothing : ∀ entry ∈ declarers, entry.2 node = [] := by
    simp [declarers, names, ownToken, declaratorTokens, parameterTokens, lambdaTokens, Node.named,
      Node.child?, Node.childrenIn, leaf]
  rw [declaredIn_eq, leaf, List.flatMap_nil, List.append_nil]
  unfold declaredBy
  cases listed : declarers.lookup node.kind with
  | none => rfl
  | some tokens => exact nothing _ (mem_of_lookup listed)

/-- A node of a closed kind holds no declarations, up to parts that are left out. -/
theorem declaredIn_closed {node : Node} (grammatical : Grammatical node)
    (closed : node.kind ∈ closedKinds) : declaredIn omitted node = [] := by
  induction node using Node.induct with
  | step node ih =>
    have silent : node.kind ∉ declarers.map (·.1) := by
      have apart : ∀ kind ∈ closedKinds, kind ∉ declarers.map (·.1) := by decide
      exact apart _ closed
    rw [declaredIn_eq, declaredBy_eq_nil silent, List.nil_append, List.flatMap_eq_nil_iff]
    intro child member
    unfold declaredPart
    split
    · rfl
    · next kept =>
      rcases grammatical.here.closed closed child member with leaf | closed' | left
      · exact declaredIn_leaf leaf omitted
      · exact ih child member (grammatical.below member) closed'
      · exact absurd left kept

/-- A plain part of a node declares nothing that must be shown. -/
theorem declaredPart_plain {parent child : Node} (grammatical : Grammatical child)
    (plain : Plain parent child) : declaredPart omitted parent child = [] := by
  unfold declaredPart
  split
  · rfl
  · next kept =>
    rcases plain with leaf | closed | left
    · exact declaredIn_leaf leaf omitted
    · exact declaredIn_closed grammatical closed
    · exact absurd left kept

/-- What a node asks of a child is required of the child. -/
theorem declaredPart_subperm (parent child : Node) :
    (declaredPart omitted parent child).Subperm (required child) := by
  unfold declaredPart
  split
  · exact List.nil_subperm
  · next kept =>
    have present : asideKinds.contains child.kind = false := by
      simp only [omitted, aside, Bool.or_eq_true, not_or] at kept
      exact Bool.eq_false_iff.mpr kept.1.1
    rw [required, present]
    exact .refl _

/-- A closed node, such as a type or an annotation, need not be looked into. -/
theorem required_closed {node : Node} (grammatical : Grammatical node)
    (closed : node.kind ∈ closedKinds) : required node = [] := by
  unfold required
  split
  · rfl
  · exact declaredIn_closed grammatical closed

/-- What is declared in a node is declared by it or in a child. -/
theorem declared_eq (node : Node) :
    declared node = declaredBy node ++ node.children.flatMap declared :=
  declaredIn_eq _ node

/-- What must be shown of a node is what it declares itself and what must be shown of its parts. -/
theorem required_subperm {node : Node} {least : List Mark}
    (lower : (node.children.flatMap (declaredPart omitted node)).Subperm least) :
    (required node).Subperm (declaredBy node ++ least) := by
  unfold required
  split
  · exact List.nil_subperm
  · rw [declaredIn_eq]
    exact (List.Subperm.refl _).append lower

/-- What is declared in the parts of a node is declared in it. -/
theorem subperm_declared {node : Node} {most : List Mark}
    (upper : most.Subperm (node.children.flatMap declared)) :
    (declaredBy node ++ most).Subperm (declared node) := by
  rw [declared_eq]
  exact (List.Subperm.refl _).append upper

/-- The children of a node that are no words of the grammar declare nothing. -/
theorem declaredPart_token {node child : Node} (grammatical : Grammatical node)
    (member : child ∈ node.children) (unnamed : child.label.named = false) :
    declaredPart omitted node child = [] :=
  declaredPart_plain (grammatical.below member)
    (.inl (grammatical.here.tokens child member unnamed))

/-- Words and signs declare nothing, so the named children show all that is required. -/
theorem required_named {node : Node} (grammatical : Grammatical node) :
    (required node).Subperm
      (declaredBy node ++ node.named.flatMap (declaredPart omitted node)) := by
  refine required_subperm ?_
  have same : node.named.flatMap (declaredPart omitted node) =
      node.children.flatMap (declaredPart omitted node) :=
    flatMap_filter_of_nil fun _ member unnamed => declaredPart_token grammatical member unnamed
  rw [same]

theorem named_declared (node : Node) :
    (declaredBy node ++ node.named.flatMap declared).Subperm (declared node) :=
  subperm_declared (subperm_flatMap List.filter_sublist.subperm declared)

/-- A node whose named children are followed shows what it must. -/
theorem Shows.ofNamed {node : Node} {marks : List Mark} (grammatical : Grammatical node)
    (shows : Shows (declaredBy node ++ node.named.flatMap (declaredPart omitted node))
      (declaredBy node ++ node.named.flatMap declared) marks) :
    Shows (required node) (declared node) marks := by
  exact shows.mono (required_named grammatical) (named_declared node)

/-! ## Children in roles -/

/-- What is declared in the child that plays a role. -/
def inRole (part : Node → List Mark) (node : Node) (role : String) : List Mark :=
  (node.child? role).toList.flatMap part

/-- A role that is played at most once is played by one child. -/
theorem childrenIn_eq_toList {node : Node} {role : String}
    (single : (node.childrenIn role).length ≤ 1) :
    node.childrenIn role = (node.child? role).toList := by
  have first : (node.childrenIn role).head? = node.child? role := List.head?_filter ..
  rw [← first]
  exact eq_toList_head? single

/-- Children that declare something play one of some roles. -/
theorem flatMap_subperm_roles {part : Node → List Mark} {roles : List String} (nodes : List Node)
    (others : ∀ child ∈ nodes, (∀ role ∈ roles, child.plays role = false) → part child = []) :
    (nodes.flatMap part).Subperm
      (roles.flatMap fun role => (nodes.filter (·.plays role)).flatMap part) := by
  induction roles generalizing nodes with
  | nil =>
    have nothing : nodes.flatMap part = [] := List.flatMap_eq_nil_iff.mpr fun child member =>
      others child member fun _ listed => nomatch listed
    rw [nothing]
    exact List.nil_subperm
  | cons role roles ih =>
    have split := (List.filter_append_perm (·.plays role) nodes).flatMap_right part
    rw [List.flatMap_append] at split
    refine split.symm.subperm.trans ((List.Subperm.refl _).append ?_)
    -- the children in other roles are among those that do not play this one
    refine (ih (nodes.filter fun child => !child.plays role) ?_).trans ?_
    · intro child member silent
      obtain ⟨member, differs⟩ := List.mem_filter.mp member
      refine others child member fun other listed => ?_
      rcases List.mem_cons.mp listed with rfl | later
      · exact (Bool.not_eq_true' _).mp differs
      · exact silent other later
    · refine flatMap_subperm fun other _ => subperm_flatMap (List.Sublist.subperm ?_) part
      exact List.filter_sublist.filter _

/-- Different roles are played by different children. -/
theorem roles_subperm {roles : List String} (nodes : List Node) (distinct : roles.Nodup) :
    (roles.flatMap fun role => nodes.filter (·.plays role)).Subperm nodes := by
  induction roles generalizing nodes with
  | nil => exact List.nil_subperm
  | cons role roles ih =>
    obtain ⟨fresh, distinct⟩ := List.nodup_cons.mp distinct
    have rest := ih (nodes.filter fun child => !child.plays role) distinct
    have same : (roles.flatMap fun other => nodes.filter (·.plays other)) =
        roles.flatMap fun other =>
          (nodes.filter fun child => !child.plays role).filter (·.plays other) := by
      refine List.flatMap_congr fun other listed => ?_
      rw [List.filter_filter]
      refine List.filter_congr fun child _ => ?_
      cases plays : child.plays other with
      | false => rfl
      | true =>
        have differ : other ≠ role := fun same => fresh (same ▸ listed)
        have silent : child.plays role = false :=
          Bool.eq_false_iff.mpr fun plays' => Node.ne_of_roles plays plays' differ rfl
        rw [silent]
        rfl
    rw [List.flatMap_cons, same]
    exact ((List.Subperm.refl _).append rest).trans
      (List.filter_append_perm (·.plays role) nodes).subperm

section Roles

variable {node : Node} {roles : List String}

/-- The children of a node that play no open role declare nothing. -/
theorem opened_subperm (grammatical : Grammatical node) (isOpen : openRoles? node = some roles) :
    (node.children.flatMap (declaredPart omitted node)).Subperm
      (roles.flatMap fun role => (node.childrenIn role).flatMap (declaredPart omitted node)) :=
  flatMap_subperm_roles node.children fun child member silent =>
    declaredPart_plain (grammatical.below member)
      (grammatical.here.opened roles isOpen child member silent)

variable (grammatical : Grammatical node) (isOpen : openRoles? node = some roles)
  (single : "declarator" ∉ roles)

include grammatical isOpen single

theorem childrenIn_eq {role : String} (listed : role ∈ roles) :
    node.childrenIn role = (node.child? role).toList :=
  childrenIn_eq_toList
    (grammatical.here.single roles isOpen role listed fun same => single (same ▸ listed))

/-- What is required of a node with open roles is required of the children in these roles. -/
theorem required_opened :
    (required node).Subperm
      (declaredBy node ++ roles.flatMap (inRole (declaredPart omitted node) node)) := by
  refine required_subperm ((opened_subperm grammatical isOpen).trans ?_)
  refine flatMap_subperm fun role listed => ?_
  rw [childrenIn_eq grammatical isOpen single listed]
  exact .refl _

/-- What is declared in different roles of a node is declared in it. -/
theorem opened_declared (distinct : roles.Nodup) :
    (declaredBy node ++ roles.flatMap (inRole declared node)).Subperm (declared node) := by
  refine subperm_declared ?_
  have listed := subperm_flatMap (roles_subperm node.children distinct) declared
  rw [List.flatMap_assoc] at listed
  refine List.Subperm.trans (flatMap_subperm fun role isRole => ?_) listed
  have same : node.children.filter (·.plays role) = (node.child? role).toList :=
    childrenIn_eq grammatical isOpen single isRole
  rw [same]
  exact .refl _

/-- What a node with open roles shows is what its children in these roles show. -/
theorem Shows.opened {marks : List Mark} (distinct : roles.Nodup)
    (shows : Shows (declaredBy node ++ roles.flatMap (inRole (declaredPart omitted node) node))
      (declaredBy node ++ roles.flatMap (inRole declared node)) marks) :
    Shows (required node) (declared node) marks :=
  shows.mono (required_opened grammatical isOpen single)
    (opened_declared grammatical isOpen single distinct)

end Roles

/-- A child in a role that is shown, in whatever way, is shown as part of its parent. -/
theorem Shows.inRole {node : Node} (grammatical : Grammatical node) (role : String)
    {marks : Node → List Mark}
    (each : ∀ child, node.child? role = some child → Grammatical child →
      Shows (required child) (declared child) (marks child)) :
    Shows (Walk.inRole (declaredPart omitted node) node role) (Walk.inRole declared node role)
      (((node.child? role).map marks).getD []) := by
  unfold Walk.inRole
  cases found : node.child? role with
  | none => exact .nil
  | some child =>
    simp only [Option.toList_some, List.flatMap_singleton, Option.map_some, Option.getD_some]
    exact (each child found (grammatical.below (Node.mem_of_child? found))).mono
      (declaredPart_subperm node child) (.refl _)

/-! ## One level -/

/-- An outline that shows the declarations of every node below. -/
structure Faithful (below : Outline) : Prop where
  visit : ∀ node, Grammatical node → Shows (required node) (declared node) (below.visit node)
  denote : ∀ node, Grammatical node → Shows (required node) (declared node) (below.denote node)

section Level

variable {below : Outline} {node : Node}

namespace Faithful

variable (faithful : Faithful below)

include faithful

/-- A child in a role that is visited shows what it must. -/
theorem visitRole (grammatical : Grammatical node) (role : String) :
    Shows (inRole (declaredPart omitted node) node role) (inRole declared node role)
      (below.visit? (node.child? role)) :=
  Shows.inRole grammatical role fun child _ => faithful.visit child

/-- A child in a role that is denoted shows what it must. -/
theorem denoteRole (grammatical : Grammatical node) (role : String) :
    Shows (inRole (declaredPart omitted node) node role) (inRole declared node role)
      (below.denote? (node.child? role)) :=
  Shows.inRole grammatical role fun child _ => faithful.denote child

/-- A node that declares nothing itself, and is visited child by child. -/
theorem visitChildren (grammatical : Grammatical node) (silent : declaredBy node = []) :
    Shows (required node) (declared node) (node.named.flatMap below.visit) := by
  refine Shows.ofNamed grammatical ?_
  rw [silent]
  refine Shows.flatMap fun child member => ?_
  exact (faithful.visit child (grammatical.below (Node.mem_of_named member))).mono
    (declaredPart_subperm node child) (.refl _)

/-- The members of a body. -/
theorem visitBody (grammatical : Grammatical node) (isMember : node.kind ∈ memberKinds) :
    Shows (inRole (declaredPart omitted node) node "body") (inRole declared node "body")
      (below.visitChildren? (node.child? "body")) := by
  refine Shows.inRole grammatical "body" fun body found grammatical' => ?_
  have isBody : body.kind ∈ bodyKinds := grammatical.here.bodies isMember body
    (List.mem_filter.mpr ⟨Node.mem_of_child? found, Node.plays_of_child? found⟩)
  have silent : ∀ kind ∈ bodyKinds, kind ∉ declarers.map (·.1) := by decide
  exact faithful.visitChildren grammatical' (declaredBy_eq_nil (silent _ isBody))

/-- A name with its value. -/
theorem valued {kind : OccurrenceKind} (declares : kind ≠ .reference)
    (grammatical : Grammatical node) {name : Node} (isName : node.child? "name" = some name) :
    Shows (names kind (ownToken node) ++ inRole (declaredPart omitted node) node "value")
      (names kind (ownToken node) ++ inRole declared node "value")
      (valuedMarks below kind node) := by
  have marks : valuedMarks below kind node =
      names kind (ownToken node) ++ below.visit? (node.child? "value") := by
    rw [valuedMarks, ownToken, isName]
    rfl
  rw [marks]
  exact (Shows.names declares _).append (faithful.visitRole grammatical "value")

end Faithful

/-- A role that the grammar fills. -/
theorem Grammatical.filled (grammatical : Grammatical node) (role : String) {roles : List String}
    (isFilled : filledRoles.lookup node.kind = some roles) (listed : role ∈ roles) :
    ∃ child, node.child? role = some child :=
  Option.isSome_iff_exists.mp (grammatical.here.filled roles isFilled role listed)

/-- A declaration has a name. -/
theorem Grammatical.hasName (grammatical : Grammatical node)
    (isFilled : filledRoles.lookup node.kind = some ["name"]) :
    ∃ name, node.child? "name" = some name :=
  grammatical.filled "name" isFilled (List.mem_singleton_self _)

/-- Some nodes are followed in a few of their roles only. -/
theorem openRoles?_eq {roles : List String}
    (isNamed : node.kind ∉ ["resource", "instanceof_expression"] ∨ (node.child? "name").isSome)
    (isOpen : openRoles.lookup node.kind = some roles) : openRoles? node = some roles := by
  unfold openRoles?
  rw [if_neg, isOpen]
  simpa [or_iff_not_imp_left, Option.isSome_iff_ne_none] using isNamed

/-! ### Declarations -/

/-- The name that is read of a parameter is the one that the tree gives it. -/
theorem parameterName?_eq (grammatical : Grammatical node) :
    parameterName? node = parameterToken? node := by
  unfold parameterName? parameterToken?
  split
  · next isFormal =>
    have isFormal : node.kind = "formal_parameter" := eq_of_beq isFormal
    obtain ⟨type, isType⟩ := grammatical.filled "type"
      (show filledRoles.lookup node.kind = some ["type", "name"] by rw [isFormal]; rfl) (by decide)
    rw [formalName?, isType]
    rfl
  · split
    · next isSpread =>
      have typed := grammatical.here.spread (eq_of_beq isSpread)
      have found : (node.named.find? (Tree.isTypeKind ·.kind)).isSome := by
        rw [List.find?_isSome]
        exact List.any_eq_true.mp typed
      obtain ⟨type, isType⟩ := Option.isSome_iff_exists.mp found
      rw [spreadName?, isType]
      rfl
    · rfl

/-- The names that are read of a list are those of its parameters. -/
theorem parameterNames_eq (list : Node) (grammatical : Grammatical list) :
    parameterNames (some list) = listTokens list :=
  List.filterMap_congr fun _ member =>
    parameterName?_eq (grammatical.below (Node.mem_of_named member))

theorem parameterNames_child (grammatical : Grammatical node) :
    parameterNames (node.child? "parameters") = parameterTokens node := by
  unfold parameterTokens
  cases found : node.child? "parameters" with
  | none => rfl
  | some list =>
    rw [parameterNames_eq list (grammatical.below (Node.mem_of_child? found))]
    simp

/-- The names that a lambda binds are those of its parameters, in any of their forms. -/
theorem lambdaNames_eq (grammatical : Grammatical node) : lambdaNames node = lambdaTokens node := by
  unfold lambdaNames lambdaTokens
  cases found : node.child? "parameters" with
  | none => rfl
  | some list =>
    simp only [Option.map_some, Option.getD_some, Option.toList_some, List.flatMap_singleton]
    rw [boundNames, boundTokens,
      parameterNames_eq list (grammatical.below (Node.mem_of_child? found))]

/-- **A class** shows its components and what its body declares. -/
theorem typeMarks_shows (faithful : Faithful below) (grammatical : Grammatical node)
    (isType : Construct.ofKind node.kind = .type) :
    Shows (required node) (declared node) (typeMarks below node) := by
  have rules : ∀ entry ∈ Construct.kinds, entry.2 = .type →
      entry.1 ∉ ["resource", "instanceof_expression"] ∧
        openRoles.lookup entry.1 = some ["body"] ∧ filledRoles.lookup entry.1 = some ["name"] ∧
        entry.1 ∈ memberKinds ∧ (entry.1 ∈ declarers.map (·.1) → entry.1 = "record_declaration") := by
    decide
  obtain ⟨isNamed, isOpen, isFilled, isMember, isDeclarer⟩ :=
    rules _ (Construct.mem_kinds isType (by decide)) rfl
  obtain ⟨name, isName⟩ := grammatical.hasName isFilled
  have own : names .field (componentNames node) = declaredBy node := by
    unfold componentNames
    split
    · next isRecord =>
      rw [parameterNames_child grammatical, declaredBy, eq_of_beq isRecord]
      rfl
    · next isOther =>
      exact (declaredBy_eq_nil fun listed => isOther (beq_iff_eq.mpr (isDeclarer listed))).symm
  have front := Shows.names (by decide : OccurrenceKind.field ≠ .reference) (componentNames node)
  have marks := front.append (faithful.visitBody grammatical isMember)
  rw [own] at marks
  refine Shows.opened grammatical (openRoles?_eq (.inl isNamed) isOpen) (by decide) (by decide) ?_
  rw [typeMarks, isName]
  simpa [own] using marks

/-- A declarator or a resource, with its name. -/
theorem valued_shows (faithful : Faithful below) (grammatical : Grammatical node)
    {kind : OccurrenceKind} (declares : kind ≠ .reference) {parent name : Node}
    (isName : node.child? "name" = some name) (isOpen : openRoles? node = some ["value"])
    (silent : declaredBy node = []) :
    Shows (names kind (ownToken node) ++ declaredPart omitted parent node)
      (names kind (ownToken node) ++ declared node) (valuedMarks below kind node) := by
  have lower := required_opened grammatical isOpen (by decide)
  have upper := opened_declared grammatical isOpen (by decide) (by decide)
  rw [silent, List.nil_append, List.flatMap_singleton] at lower upper
  exact (faithful.valued declares grammatical isName).mono
    ((List.Subperm.refl _).append ((declaredPart_subperm parent node).trans lower))
    ((List.Subperm.refl _).append upper)

/-- The declarators of a declaration. -/
theorem declarators_shows (faithful : Faithful below) (grammatical : Grammatical node)
    {kind : OccurrenceKind} (declares : kind ≠ .reference)
    (isOpen : openRoles? node = some ["declarator"])
    (own : declaredBy node = names kind (declaratorTokens node)) :
    Shows (required node) (declared node)
      ((node.childrenIn "declarator").flatMap (valuedMarks below kind)) := by
  have each : ∀ child ∈ node.childrenIn "declarator",
      Shows (names kind (ownToken child) ++ declaredPart omitted node child)
        (names kind (ownToken child) ++ declared child) (valuedMarks below kind child) := by
    intro child member
    have grammatical' := grammatical.below (List.mem_filter.mp member).1
    have isDeclarator := grammatical.here.declarators child member
    obtain ⟨name, isName⟩ := grammatical'.hasName (by rw [isDeclarator]; rfl)
    have isOpen' : openRoles? child = some ["value"] :=
      openRoles?_eq (.inr (by rw [isName]; rfl)) (by rw [isDeclarator]; rfl)
    exact valued_shows faithful grammatical' declares isName isOpen'
      (declaredBy_eq_nil (by rw [isDeclarator]; decide))
  have shows := Shows.flatMap_names each
  rw [← declaratorTokens, ← own] at shows
  refine shows.mono (required_subperm ?_)
    (subperm_declared (subperm_flatMap List.filter_sublist.subperm declared))
  simpa using opened_subperm grammatical isOpen

/-- A field declaration shows its declarators and what their values declare. -/
theorem fieldsMarks_shows (faithful : Faithful below) (grammatical : Grammatical node)
    (isFields : Construct.ofKind node.kind = .fields) :
    Shows (required node) (declared node)
      ((node.childrenIn "declarator").flatMap (valuedMarks below .field)) := by
  have rules : ∀ entry ∈ Construct.kinds, entry.2 = .fields →
      entry.1 = "field_declaration" ∨ entry.1 = "constant_declaration" := by decide
  have isKind : node.kind = "field_declaration" ∨ node.kind = "constant_declaration" :=
    rules _ (Construct.mem_kinds isFields (by decide)) rfl
  refine declarators_shows faithful grammatical (by decide) (openRoles?_eq (.inl ?_) ?_) ?_
  · rcases isKind with isKind | isKind <;> rw [isKind] <;> decide
  · rcases isKind with isKind | isKind <;> rw [isKind] <;> rfl
  · rcases isKind with isKind | isKind <;> rw [declaredBy, isKind] <;> rfl

/-- **A method** shows itself, its parameters and what its body declares. -/
theorem methodMarks_shows (faithful : Faithful below) (grammatical : Grammatical node)
    (isMethod : Construct.ofKind node.kind = .method) :
    Shows (required node) (declared node) (methodMarks below node) := by
  have rules : ∀ entry ∈ Construct.kinds, entry.2 = .method →
      entry.1 = "method_declaration" ∨ entry.1 = "constructor_declaration" := by decide
  have isKind : node.kind = "method_declaration" ∨ node.kind = "constructor_declaration" :=
    rules _ (Construct.mem_kinds isMethod (by decide)) rfl
  have own : declaredBy node =
      names .method (ownToken node) ++ names .parameter (parameterTokens node) := by
    rcases isKind with isKind | isKind <;> rw [declaredBy, isKind] <;> rfl
  obtain ⟨name, isName⟩ := grammatical.hasName
    (by rcases isKind with isKind | isKind <;> rw [isKind] <;> rfl)
  have isOpen : openRoles? node = some ["body"] :=
    openRoles?_eq (.inr (by rw [isName]; rfl))
      (by rcases isKind with isKind | isKind <;> rw [isKind] <;> rfl)
  have marks : methodMarks below node =
      declaredBy node ++ below.visit? (node.child? "body") := by
    rw [methodMarks, own, isName, ownToken, isName, parameterNames_child grammatical]
    rfl
  have front := (Shows.names (by decide : OccurrenceKind.method ≠ .reference) (ownToken node)).append
    (Shows.names (by decide : OccurrenceKind.parameter ≠ .reference) (parameterTokens node))
  rw [← own] at front
  refine Shows.opened grammatical isOpen (by decide) (by decide) ?_
  rw [marks, List.flatMap_singleton, List.flatMap_singleton]
  exact front.append (faithful.visitRole grammatical "body")

/-- A compact constructor shows itself and what its body declares. -/
theorem compactMarks_shows (faithful : Faithful below) (grammatical : Grammatical node)
    (isKind : node.kind = "compact_constructor_declaration") :
    Shows (required node) (declared node) (compactMarks below node) := by
  have own : declaredBy node = names .method (ownToken node) := by
    rw [declaredBy, isKind]
    rfl
  obtain ⟨name, isName⟩ := grammatical.hasName (by rw [isKind]; rfl)
  have marks : compactMarks below node =
      names .method (ownToken node) ++ below.visit? (node.child? "body") := by
    rw [compactMarks, ownToken, isName]
    rfl
  refine Shows.opened grammatical (openRoles?_eq (.inr (by rw [isName]; rfl)) (by rw [isKind]; rfl))
    (by decide) (by decide) ?_
  rw [marks, own, List.flatMap_singleton, List.flatMap_singleton]
  exact (Shows.names (by decide) _).append (faithful.visitRole grammatical "body")

/-- An enum constant shows itself and what its arguments and its body declare. -/
theorem constantMarks_shows (faithful : Faithful below) (grammatical : Grammatical node)
    (isKind : node.kind = "enum_constant") :
    Shows (required node) (declared node) (constantMarks below node) := by
  have own : declaredBy node = names .field (ownToken node) := by
    rw [declaredBy, isKind]
    rfl
  obtain ⟨name, isName⟩ := grammatical.hasName (by rw [isKind]; rfl)
  have marks : constantMarks below node = names .field (ownToken node) ++
      (below.visit? (node.child? "arguments") ++ below.visitChildren? (node.child? "body")) := by
    rw [constantMarks, ownToken, isName]
    rfl
  refine Shows.opened grammatical (openRoles?_eq (.inr (by rw [isName]; rfl)) (by rw [isKind]; rfl))
    (by decide) (by decide) ?_
  simp only [marks, own, List.flatMap_cons, List.flatMap_nil, List.append_nil]
  exact (Shows.names (by decide) _).append ((faithful.visitRole grammatical "arguments").append
    (faithful.visitBody grammatical (by rw [isKind]; decide)))

/-! ### Statements -/

/-- An enhanced `for` shows its variable and what its value and its body declare. -/
theorem loopMarks_shows (faithful : Faithful below) (grammatical : Grammatical node)
    (isKind : node.kind = "enhanced_for_statement") :
    Shows (required node) (declared node)
      (valuedMarks below .localVariable node ++ below.visit? (node.child? "body")) := by
  have own : declaredBy node = names .localVariable (ownToken node) := by
    rw [declaredBy, isKind]
    rfl
  obtain ⟨name, isName⟩ := grammatical.hasName (by rw [isKind]; rfl)
  refine Shows.opened grammatical (openRoles?_eq (.inr (by rw [isName]; rfl)) (by rw [isKind]; rfl))
    (by decide) (by decide) ?_
  simp only [own, List.flatMap_cons, List.flatMap_nil, List.append_nil, ← List.append_assoc]
  exact (faithful.valued (by decide) grammatical isName).append
    (faithful.visitRole grammatical "body")

/-- A `catch` clause shows the name of its parameter. -/
theorem catchMarks_shows (faithful : Faithful below) (grammatical : Grammatical node)
    (isKind : node.kind = "catch_clause") :
    Shows (required node) (declared node) (node.named.flatMap (caughtMarks below)) := by
  have own : declaredBy node = names .localVariable (node.named.flatMap caughtToken) := by
    rw [declaredBy, isKind]
    rfl
  refine Shows.ofNamed grammatical ?_
  rw [own]
  refine Shows.flatMap_names fun child member => ?_
  have grammatical' := grammatical.below (Node.mem_of_named member)
  unfold caughtMarks caughtToken
  split
  · next isCaught =>
    have closed : child.kind ∈ closedKinds := by
      rw [eq_of_beq isCaught]
      decide
    have nothing : declaredPart omitted node child = [] :=
      declaredPart_plain grammatical' (.inr (.inl closed))
    rw [nothing, List.append_nil]
    exact (Shows.names (by decide) _).mono (.refl _) (List.sublist_append_left ..).subperm
  · exact (faithful.visit child grammatical').mono (declaredPart_subperm node child) (.refl _)

/-- A resource shows its name, if it declares one. -/
theorem resourceMarks_shows (faithful : Faithful below) (grammatical : Grammatical node)
    (isKind : node.kind = "resource") (parent : Node) :
    Shows (names .localVariable (ownToken node) ++ declaredPart omitted parent node)
      (names .localVariable (ownToken node) ++ declared node) (resourceMarks below node) := by
  have silent : declaredBy node = [] := declaredBy_eq_nil (by rw [isKind]; decide)
  unfold resourceMarks
  cases isName : node.child? "name" with
  | none =>
    rw [ownToken, isName]
    exact (faithful.visitChildren grammatical silent).mono (declaredPart_subperm parent node)
      (.refl _)
  | some name =>
    exact valued_shows faithful grammatical (by decide) isName
      (openRoles?_eq (.inr (by rw [isName]; rfl)) (by rw [isKind]; rfl)) silent

/-- A part of a `try` shows the names of its resources, or is visited. -/
theorem tryMarks_shows (faithful : Faithful below) (grammatical : Grammatical node) (parent : Node) :
    Shows (names .localVariable (resourceTokens node) ++ declaredPart omitted parent node)
      (names .localVariable (resourceTokens node) ++ declared node) (tryMarks below node) := by
  unfold tryMarks resourceTokens
  split
  · next isList =>
    have isList : node.kind = "resource_specification" := eq_of_beq isList
    have silent : declaredBy node = [] := declaredBy_eq_nil (by rw [isList]; decide)
    have shows := Shows.flatMap_names fun child member =>
      resourceMarks_shows faithful (grammatical.below (Node.mem_of_named member))
        (grammatical.here.resources isList child member) node
    have lower := required_named grammatical
    have upper := named_declared node
    rw [silent, List.nil_append] at lower upper
    exact shows.mono
      ((List.Subperm.refl _).append ((declaredPart_subperm parent node).trans lower))
      ((List.Subperm.refl _).append upper)
  · exact (faithful.visit node grammatical).mono (declaredPart_subperm parent node) (.refl _)

/-- A `try` with resources shows their names and what its blocks declare. -/
theorem resourcesMarks_shows (faithful : Faithful below) (grammatical : Grammatical node)
    (isKind : node.kind = "try_with_resources_statement") :
    Shows (required node) (declared node) (node.named.flatMap (tryMarks below)) := by
  have own : declaredBy node = names .localVariable (node.named.flatMap resourceTokens) := by
    rw [declaredBy, isKind]
    rfl
  refine Shows.ofNamed grammatical ?_
  rw [own]
  exact Shows.flatMap_names fun child member =>
    tryMarks_shows faithful (grammatical.below (Node.mem_of_named member)) node

/-- An `instanceof` shows the name that it binds. -/
theorem instanceofMarks_shows (faithful : Faithful below) (grammatical : Grammatical node)
    (isKind : node.kind = "instanceof_expression") :
    Shows (required node) (declared node) (instanceofMarks below node) := by
  have own : declaredBy node = names .localVariable (ownToken node) := by
    rw [declaredBy, isKind]
    rfl
  unfold instanceofMarks
  cases isName : node.child? "name" with
  | none =>
    exact faithful.visitChildren grammatical (by rw [own, ownToken, isName]; rfl)
  | some name =>
    refine Shows.opened grammatical
      (openRoles?_eq (.inr (by rw [isName]; rfl)) (by rw [isKind]; rfl)) (by decide) (by decide) ?_
    rw [own, ownToken, isName, List.flatMap_singleton, List.flatMap_singleton]
    exact ((faithful.visitRole grammatical "left").append (Shows.names (by decide) [name])).mono
      List.perm_append_comm.subperm List.perm_append_comm.subperm

/-- A pattern has one name, at its end. -/
theorem patternNames_eq (grammatical : Grammatical node)
    (isPattern : node.kind ∈ ["type_pattern", "record_pattern_component"]) :
    patternNames node = node.named.filter (·.kind == "identifier") := by
  unfold patternNames
  have others := grammatical.here.patterns isPattern
  cases isLast : node.named.getLast? with
  | none => rw [List.getLast?_eq_none_iff.mp isLast]; rfl
  | some name =>
    have split : node.named = node.named.dropLast ++ [name] :=
      (List.dropLast_append_getLast? name isLast).symm
    have front : node.named.dropLast.filter (·.kind == "identifier") = [] :=
      List.filter_eq_nil_iff.mpr fun child member => by simpa using others child member
    rw [split, List.filter_append, front, List.nil_append]
    by_cases isName : name.kind = "identifier" <;> simp [isName]

/-- A pattern shows the name at its end. -/
theorem patternMarks_shows (grammatical : Grammatical node)
    (isPattern : Construct.ofKind node.kind = .pattern) :
    Shows (required node) (declared node) (names .localVariable (patternNames node)) := by
  have rules : ∀ entry ∈ Construct.kinds, entry.2 = .pattern →
      entry.1 = "type_pattern" ∨ entry.1 = "record_pattern_component" := by decide
  have isKind : node.kind = "type_pattern" ∨ node.kind = "record_pattern_component" :=
    rules _ (Construct.mem_kinds isPattern (by decide)) rfl
  have own : declaredBy node = names .localVariable (patternNames node) := by
    rw [patternNames_eq grammatical (by simpa using isKind)]
    rcases isKind with isKind | isKind <;> rw [declaredBy, isKind] <;> rfl
  have isOpen : openRoles? node = some [] := by
    refine openRoles?_eq (.inl ?_) ?_ <;> rcases isKind with isKind | isKind <;> rw [isKind] <;> decide
  refine Shows.opened grammatical isOpen (by decide) (by decide) ?_
  rw [own, List.flatMap_nil, List.flatMap_nil, List.append_nil]
  exact Shows.names (by decide) _

/-! ### Expressions -/

/-- A lambda shows its parameters and what its body declares. -/
theorem lambdaMarks_shows (faithful : Faithful below) (grammatical : Grammatical node)
    (isKind : node.kind = "lambda_expression") :
    Shows (required node) (declared node)
      (names .localVariable (lambdaNames node) ++ below.visit? (node.child? "body")) := by
  have own : declaredBy node = names .localVariable (lambdaNames node) := by
    rw [lambdaNames_eq grammatical, declaredBy, isKind]
    rfl
  refine Shows.opened grammatical (openRoles?_eq (.inl (by rw [isKind]; decide)) (by rw [isKind]; rfl))
    (by decide) (by decide) ?_
  rw [own, List.flatMap_singleton, List.flatMap_singleton]
  exact (Shows.names (by decide) _).append (faithful.visitRole grammatical "body")

/-- The parts of a creation are no bodies. -/
theorem creationParts_eq (node : Node) :
    creationParts node = ((node.children.eraseP (·.plays "type")).filter
      (!·.kind == "class_body")).filter
        fun child => child.label.named && child.kind != "type_arguments" := by
  rw [creationParts, List.filter_filter]
  refine List.filter_congr fun child _ => ?_
  rw [bne]
  ac_rfl

theorem mem_of_creationBody? {body : Node} (found : creationBody? node = some body) :
    body ∈ node.children ∧ body.kind = "class_body" := by
  obtain ⟨isNamed, isBody⟩ := List.mem_filter.mp (List.mem_of_getLast? found)
  exact ⟨Node.mem_of_named isNamed, eq_of_beq isBody⟩

/-- The parts of a creation and its body are different children. -/
theorem creation_subperm (node : Node) :
    (creationParts node ++ (creationBody? node).toList).Subperm node.children := by
  have parts : (creationParts node).Sublist (node.children.filter (!·.kind == "class_body")) := by
    rw [creationParts_eq]
    exact List.filter_sublist.trans (List.eraseP_sublist.filter _)
  have body : (creationBody? node).toList.Sublist
      (node.children.filter (·.kind == "class_body")) := by
    cases found : creationBody? node with
    | none => exact List.nil_sublist _
    | some body =>
      obtain ⟨member, isBody⟩ := mem_of_creationBody? found
      exact List.singleton_sublist.mpr (List.mem_filter.mpr ⟨member, beq_iff_eq.mpr isBody⟩)
  exact (parts.subperm.append body.subperm).trans
    (List.perm_append_comm.trans (List.filter_append_perm _ _)).subperm

/-- What is declared in a creation apart from bodies is declared in its parts. -/
theorem creationParts_flatMap (grammatical : Grammatical node) :
    (creationParts node).flatMap (declaredPart omitted node) =
      ((node.children.eraseP (·.plays "type")).filter (!·.kind == "class_body")).flatMap
        (declaredPart omitted node) := by
  rw [creationParts_eq]
  refine flatMap_filter_of_nil fun child member dropped => ?_
  have member : child ∈ node.children := List.eraseP_sublist.subset (List.mem_filter.mp member).1
  rcases Bool.and_eq_false_iff.mp dropped with isToken | isArguments
  · exact declaredPart_token grammatical member isToken
  · refine declaredPart_plain (grammatical.below member) (.inr (.inl ?_))
    have isArguments : child.kind = "type_arguments" := by simpa using isArguments
    rw [isArguments]
    decide

/-- A creation has one body at most. -/
theorem creationBody_flatMap (grammatical : Grammatical node)
    (single : (node.children.filter (·.kind == "class_body")).length ≤ 1) :
    (creationBody? node).toList.flatMap (declaredPart omitted node) =
      (node.children.filter (·.kind == "class_body")).flatMap (declaredPart omitted node) := by
  have swapped : (node.children.filter (·.kind == "class_body")).filter (·.label.named) =
      node.named.filter (·.kind == "class_body") := List.filter_comm ..
  have last : node.named.filter (·.kind == "class_body") = (creationBody? node).toList := by
    refine eq_toList_getLast? (Nat.le_trans ?_ single)
    rw [← swapped]
    exact List.length_filter_le ..
  rw [← last, ← swapped]
  exact flatMap_filter_of_nil fun _ member isToken =>
    declaredPart_token grammatical (List.mem_filter.mp member).1 isToken

/-- What is declared in a creation is declared in its parts or its body. -/
theorem creation_lower (grammatical : Grammatical node)
    (isKind : node.kind = "object_creation_expression") :
    (node.children.flatMap (declaredPart omitted node)).Subperm
      ((creationParts node).flatMap (declaredPart omitted node)
        ++ (creationBody? node).toList.flatMap (declaredPart omitted node)) := by
  obtain ⟨types, single⟩ := grammatical.here.creations isKind
  have erased : (node.children.eraseP (·.plays "type")).flatMap (declaredPart omitted node) =
      node.children.flatMap (declaredPart omitted node) :=
    flatMap_eraseP_of_nil fun child member isType =>
      declaredPart_plain (grammatical.below member)
        (types child (List.mem_filter.mpr ⟨member, isType⟩))
  have split := (List.filter_append_perm (·.kind == "class_body")
    (node.children.eraseP (·.plays "type"))).flatMap_right (declaredPart omitted node)
  rw [List.flatMap_append, ← creationParts_flatMap grammatical, erased] at split
  refine split.symm.subperm.trans (List.perm_append_comm.subperm.trans ?_)
  rw [creationBody_flatMap grammatical single]
  exact (List.Subperm.refl _).append
    (subperm_flatMap (List.eraseP_sublist.filter _).subperm _)

/-- A creation shows what its parts and its body declare. -/
theorem creationMarks_shows (faithful : Faithful below) (grammatical : Grammatical node)
    (isKind : node.kind = "object_creation_expression") :
    Shows (required node) (declared node) (creationMarks below node) := by
  have silent : declaredBy node = [] := declaredBy_eq_nil (by rw [isKind]; decide)
  have lower := required_subperm (creation_lower grammatical isKind)
  have upper := subperm_declared (subperm_flatMap (creation_subperm node) declared)
  rw [silent, List.nil_append] at lower upper
  rw [List.flatMap_append] at upper
  refine Shows.mono (Shows.append (Shows.flatMap fun child member => ?_) ?_) lower upper
  · have member : child ∈ node.children :=
      (creation_subperm node).subset (List.mem_append_left _ member)
    exact (faithful.visit child (grammatical.below member)).mono (declaredPart_subperm node child)
      (.refl _)
  · cases found : creationBody? node with
    | none => exact .nil
    | some body =>
      obtain ⟨member, isBody⟩ := mem_of_creationBody? found
      have silent' : declaredBy body = [] := declaredBy_eq_nil (by rw [isBody]; decide)
      simp only [Outline.visitChildren?, Option.toList_some, List.flatMap_singleton,
        Option.map_some, Option.getD_some]
      exact (faithful.visitChildren (grammatical.below member) silent').mono
        (declaredPart_subperm node body) (.refl _)

/-- A field access shows what its object declares. -/
theorem fieldMarks_shows (faithful : Faithful below) (grammatical : Grammatical node)
    (isKind : node.kind = "field_access") :
    Shows (required node) (declared node) (fieldMarks below node) := by
  have silent : declaredBy node = [] := declaredBy_eq_nil (by rw [isKind]; decide)
  have isFilled : filledRoles.lookup node.kind = some ["object", "field"] := by
    rw [isKind]
    rfl
  have isOpen : openRoles? node = some ["object"] :=
    openRoles?_eq (.inl (by rw [isKind]; decide)) (by rw [isKind]; rfl)
  obtain ⟨object, isObject⟩ := grammatical.filled "object" isFilled (by decide)
  obtain ⟨field, isField⟩ := grammatical.filled "field" isFilled (by decide)
  have lower := required_opened grammatical isOpen (by decide)
  have upper := opened_declared grammatical isOpen (by decide) (by decide)
  rw [silent, List.nil_append, List.flatMap_singleton] at lower upper
  unfold fieldMarks
  rw [isObject, isField]
  simp only
  split
  · next isThis =>
    -- what stands in front of `this` is left out
    have left : omitted node object := by
      simp [omitted, aside, isKind, isField, Node.plays_of_child? isObject, eq_of_beq isThis]
    have nothing : inRole (declaredPart omitted node) node "object" = [] := by
      rw [inRole, isObject, Option.toList_some, List.flatMap_singleton, declaredPart, if_pos left]
    rw [nothing] at lower
    exact Shows.nil.mono lower (.refl _)
  · have front := faithful.denoteRole grammatical "object"
    rw [isObject] at front
    have shows := front.append (Shows.references [field])
    rw [List.append_nil, List.append_nil] at shows
    exact shows.mono lower upper

/-- A call shows what its object and its arguments declare. -/
theorem callMarks_shows (faithful : Faithful below) (grammatical : Grammatical node)
    (isKind : node.kind = "method_invocation") :
    Shows (required node) (declared node) (callMarks below node) := by
  have silent : declaredBy node = [] := declaredBy_eq_nil (by rw [isKind]; decide)
  obtain ⟨name, isName⟩ := grammatical.hasName (by rw [isKind]; rfl)
  have shows := ((faithful.denoteRole grammatical "object").append (Shows.references [name])).append
    (faithful.visitRole grammatical "arguments")
  refine Shows.opened grammatical (openRoles?_eq (.inr (by rw [isName]; rfl)) (by rw [isKind]; rfl))
    (by decide) (by decide) ?_
  rw [callMarks, isName, silent]
  simpa [names] using shows

/-- A node of which only the first word holds declarations. -/
theorem Shows.headed {marks : List Mark} (grammatical : Grammatical node)
    (isHeaded : node.kind ∈ ["method_reference", "parenthesized_expression"])
    (shows : Shows (node.named.head?.toList.flatMap (declaredPart omitted node))
      (node.named.head?.toList.flatMap declared) marks) :
    Shows (required node) (declared node) marks := by
  have silent : declaredBy node = [] := by
    have apart : ∀ kind ∈ ["method_reference", "parenthesized_expression"],
        kind ∉ declarers.map (·.1) := by decide
    exact declaredBy_eq_nil (apart _ isHeaded)
  refine Shows.ofNamed grammatical ?_
  rw [silent]
  have others := grammatical.here.headed isHeaded
  cases words : node.named with
  | nil =>
    rw [words] at shows
    exact shows
  | cons word rest =>
    rw [words] at shows others
    have nothing : rest.flatMap (declaredPart omitted node) = [] :=
      List.flatMap_eq_nil_iff.mpr fun child member =>
        declaredPart_plain (grammatical.below (Node.mem_of_named (words ▸ .tail _ member)))
          (others child member)
    simp only [List.head?_cons, Option.toList_some, List.flatMap_singleton] at shows
    rw [List.flatMap_cons, List.flatMap_cons, nothing, List.append_nil]
    exact shows.mono (.refl _) (List.sublist_append_left ..).subperm

/-- A method reference shows what its left side declares. -/
theorem referenceMarks_shows (faithful : Faithful below) (grammatical : Grammatical node)
    (isKind : node.kind = "method_reference") :
    Shows (required node) (declared node) (referenceMarks below node) := by
  refine Shows.headed grammatical (by rw [isKind]; decide) ?_
  unfold referenceMarks
  cases words : node.named with
  | nil => exact .nil
  | cons qualifier others =>
    have grammatical' : Grammatical qualifier :=
      grammatical.below (Node.mem_of_named (words ▸ List.mem_cons_self))
    have front : Shows (declaredPart omitted node qualifier) (declared qualifier)
        (qualifierMarks below qualifier) := by
      unfold qualifierMarks
      split
      · next isType =>
        have closed : qualifier.kind ∈ closedKinds :=
          List.mem_append_left _ (List.contains_iff_mem.mp isType)
        rw [declaredPart_plain grammatical' (.inr (.inl closed))]
        exact .nil
      · exact (faithful.denote qualifier grammatical').mono (declaredPart_subperm node qualifier)
          (.refl _)
    simpa using front.append (Shows.references others.getLast?.toList)

theorem parenthesizedMarks_shows (faithful : Faithful below) (grammatical : Grammatical node)
    (isKind : node.kind = "parenthesized_expression") :
    Shows (required node) (declared node) (below.denote? node.named.head?) := by
  refine Shows.headed grammatical (by rw [isKind]; decide) ?_
  cases words : node.named with
  | nil => exact .nil
  | cons word others =>
    have grammatical' : Grammatical word :=
      grammatical.below (Node.mem_of_named (words ▸ List.mem_cons_self))
    simpa [Outline.denote?] using
      (faithful.denote word grammatical').mono (declaredPart_subperm node word) (.refl _)

/-- An element of an array shows what the array and the index declare. -/
theorem elementMarks_shows (faithful : Faithful below) (grammatical : Grammatical node)
    (isKind : node.kind = "array_access") :
    Shows (required node) (declared node) (elementMarks below node) := by
  have silent : declaredBy node = [] := declaredBy_eq_nil (by rw [isKind]; decide)
  obtain ⟨array, isArray⟩ := grammatical.filled "array"
    (show filledRoles.lookup node.kind = some ["array"] by rw [isKind]; rfl) (by decide)
  have front := faithful.denoteRole grammatical "array"
  rw [isArray] at front
  have shows := front.append (faithful.visitRole grammatical "index")
  refine Shows.opened grammatical (openRoles?_eq (.inl (by rw [isKind]; decide)) (by rw [isKind]; rfl))
    (by decide) (by decide) ?_
  rw [elementMarks, isArray, silent]
  simpa [Outline.denote?] using shows

/-- A cast shows what its value declares; the type declares nothing. -/
theorem castMarks_shows (faithful : Faithful below) (grammatical : Grammatical node)
    (isKind : node.kind = "cast_expression") :
    Shows (required node) (declared node) (below.visit? (node.child? "value")) := by
  have silent : declaredBy node = [] := declaredBy_eq_nil (by rw [isKind]; decide)
  refine Shows.opened grammatical (openRoles?_eq (.inl (by rw [isKind]; decide)) (by rw [isKind]; rfl))
    (by decide) (by decide) ?_
  rw [silent]
  simpa using faithful.visitRole grammatical "value"

/-! ### Nodes -/

/-- A closed node may show nothing. -/
theorem closed_shows (grammatical : Grammatical node) (closed : node.kind ∈ closedKinds) :
    Shows (required node) (declared node) [] := by
  rw [required_closed grammatical closed]
  exact .nil

/-- What is left aside declares nothing that must be shown. -/
theorem aside_shows (isAside : node.kind ∈ asideKinds) :
    Shows (required node) (declared node) [] := by
  rw [required, if_pos (List.contains_iff_mem.mpr isAside)]
  exact .nil

/-- A name shows no declaration. -/
theorem name_shows (grammatical : Grammatical node) (isName : node.kind = "identifier") :
    Shows (required node) (declared node) [.name .reference node] := by
  rw [required_closed grammatical (by rw [isName]; decide)]
  exact (Shows.references [node]).mono (.refl _) List.nil_subperm

/-- **What a node denotes** shows what is declared inside, whatever construct it is. -/
theorem denotedNode_shows (faithful : Faithful below) (grammatical : Grammatical node) :
    Shows (required node) (declared node) (denotedNode below node) := by
  unfold denotedNode
  cases form : ExprForm.ofKind node.kind with
  | name => exact name_shows grammatical (ExprForm.kind_eq form (by decide) (by decide))
  | this =>
    have isKind : node.kind = "this" := ExprForm.kind_eq form (by decide) (by decide)
    exact closed_shows grammatical (by rw [isKind]; decide)
  | super =>
    have isKind : node.kind = "super" := ExprForm.kind_eq form (by decide) (by decide)
    exact closed_shows grammatical (by rw [isKind]; decide)
  | field => exact fieldMarks_shows faithful grammatical (ExprForm.kind_eq form (by decide) (by decide))
  | call => exact callMarks_shows faithful grammatical (ExprForm.kind_eq form (by decide) (by decide))
  | reference =>
    exact referenceMarks_shows faithful grammatical (ExprForm.kind_eq form (by decide) (by decide))
  | parenthesized =>
    exact parenthesizedMarks_shows faithful grammatical
      (ExprForm.kind_eq form (by decide) (by decide))
  | element =>
    exact elementMarks_shows faithful grammatical (ExprForm.kind_eq form (by decide) (by decide))
  | cast => exact castMarks_shows faithful grammatical (ExprForm.kind_eq form (by decide) (by decide))
  | creation =>
    exact creationMarks_shows faithful grammatical (ExprForm.kind_eq form (by decide) (by decide))
  | arrayCreation =>
    have isKind : node.kind = "array_creation_expression" :=
      ExprForm.kind_eq form (by decide) (by decide)
    exact faithful.visitChildren grammatical (declaredBy_eq_nil (by rw [isKind]; decide))
  | text =>
    have isKind : node.kind = "string_literal" := ExprForm.kind_eq form (by decide) (by decide)
    exact aside_shows (by rw [isKind]; decide)
  | classLiteral =>
    have isKind : node.kind = "class_literal" := ExprForm.kind_eq form (by decide) (by decide)
    exact closed_shows grammatical (by rw [isKind]; decide)
  | other => exact faithful.visit node grammatical

/-- What a walk passes over entirely stands aside: there are no comments. -/
theorem skipped_shows (grammatical : Grammatical node)
    (isSkipped : Construct.ofKind node.kind = .skipped) :
    Shows (required node) (declared node) [] := by
  have rules : ∀ entry ∈ Construct.kinds, entry.2 = .skipped →
      entry.1 ∈ ["line_comment", "block_comment"] ∨ entry.1 ∈ asideKinds := by decide
  rcases rules _ (Construct.mem_kinds isSkipped (by decide)) rfl with isComment | isAside
  · exact absurd isComment grammatical.here.commentFree
  · exact aside_shows isAside

/-- A node that is visited child by child declares nothing itself. -/
theorem declaredBy_other {construct : Construct} (found : Construct.ofKind node.kind = construct)
    (isOther : construct = .staticInitializer ∨ construct = .block ∨ construct = .blockLike ∨
      construct = .other) : declaredBy node = [] := by
  have rules : ∀ kind ∈ declarers.map (·.1), Construct.ofKind kind ≠ .staticInitializer ∧
      Construct.ofKind kind ≠ .block ∧ Construct.ofKind kind ≠ .blockLike ∧
      Construct.ofKind kind ≠ .other := by decide
  refine declaredBy_eq_nil fun listed => ?_
  obtain ⟨first, second, third, last⟩ := rules _ listed
  rcases isOther with rfl | rfl | rfl | rfl
  · exact first found
  · exact second found
  · exact third found
  · exact last found

/-- **A visited node shows what is declared inside**, whatever construct it is. -/
theorem visitedNode_shows (faithful : Faithful below) (grammatical : Grammatical node) :
    Shows (required node) (declared node) (visitedNode below node) := by
  unfold visitedNode
  cases construct : Construct.ofKind node.kind with
  | skipped => exact skipped_shows grammatical construct
  | type => exact typeMarks_shows faithful grammatical construct
  | fields => exact fieldsMarks_shows faithful grammatical construct
  | method => exact methodMarks_shows faithful grammatical construct
  | compactConstructor =>
    exact compactMarks_shows faithful grammatical
      (Construct.kind_eq construct (by decide) (by decide))
  | enumConstant =>
    exact constantMarks_shows faithful grammatical
      (Construct.kind_eq construct (by decide) (by decide))
  | staticInitializer =>
    exact faithful.visitChildren grammatical (declaredBy_other construct (by decide))
  | block => exact faithful.visitChildren grammatical (declaredBy_other construct (by decide))
  | blockLike => exact faithful.visitChildren grammatical (declaredBy_other construct (by decide))
  | locals =>
    have isKind : node.kind = "local_variable_declaration" :=
      Construct.kind_eq construct (by decide) (by decide)
    exact declarators_shows faithful grammatical (by decide)
      (openRoles?_eq (.inl (by rw [isKind]; decide)) (by rw [isKind]; rfl))
      (by rw [declaredBy, isKind]; rfl)
  | loop =>
    exact loopMarks_shows faithful grammatical (Construct.kind_eq construct (by decide) (by decide))
  | catchClause =>
    exact catchMarks_shows faithful grammatical (Construct.kind_eq construct (by decide) (by decide))
  | resources =>
    exact resourcesMarks_shows faithful grammatical
      (Construct.kind_eq construct (by decide) (by decide))
  | instanceof =>
    exact instanceofMarks_shows faithful grammatical
      (Construct.kind_eq construct (by decide) (by decide))
  | pattern => exact patternMarks_shows grammatical construct
  | lambda =>
    exact lambdaMarks_shows faithful grammatical
      (Construct.kind_eq construct (by decide) (by decide))
  | creation =>
    exact creationMarks_shows faithful grammatical
      (Construct.kind_eq construct (by decide) (by decide))
  | access => exact faithful.denote node grammatical
  | name => exact name_shows grammatical (Construct.kind_eq construct (by decide) (by decide))
  | other => exact faithful.visitChildren grammatical (declaredBy_other construct (by decide))

end Level

/-- **The outline of a grammatical tree shows what the tree declares**, with any number of levels
left, as long as they suffice. -/
theorem outline_faithful (room : Nat) : Faithful (outline room) := by
  induction room with
  | zero => exact ⟨fun _ _ => .limit, fun _ _ => .limit⟩
  | succ room ih =>
    exact ⟨fun _ grammatical => visitedNode_shows ih grammatical,
      fun _ grammatical => denotedNode_shows ih grammatical⟩

/-! ## The declarations of a walk -/

/-- The labels that declare are those of the marks that do. -/
theorem labels_filter (source : Tree.Source) (marks : List Mark) :
    (labels source marks).filter Label.declares = labels source (marks.filter Mark.declares) := by
  unfold labels
  rw [List.filter_filterMap, List.filterMap_filter]
  refine List.filterMap_congr fun mark _ => ?_
  cases mark with
  | limit => rfl
  | name kind token => exact Option.filter_some ..

/-- Part of the marks have part of the labels. -/
theorem labels_subperm (source : Tree.Source) {first second : List Mark}
    (part : first.Subperm second) : (labels source first).Subperm (labels source second) := by
  obtain ⟨middle, perm, sublist⟩ := part
  exact ⟨labels source middle, perm.filterMap _, sublist.filterMap _⟩

/-- A walk that is not given up files what is required, and files as declarations only what is
declared. -/
theorem walk_faithful {env : Env} {root : Node} (grammatical : Grammatical root)
    (alive : (walk env root).tooDeep = none) :
    (labels env.source (required root)).Subperm ((walk env root).labels.filter Label.declares) ∧
      ((walk env root).labels.filter Label.declares).Subperm
        (labels env.source (declared root)) := by
  obtain ⟨free, filed⟩ := walk_declarations alive
  obtain ⟨lower, upper⟩ := (outline_faithful Tree.maxNesting).visit root grammatical free
  rw [filed, labels_filter]
  exact ⟨labels_subperm env.source lower, labels_subperm env.source upper⟩

end SymbolIndex.Walk

namespace SymbolIndex

open SymbolIndex.Tree (Node)

/-- The kinds and spans of the declarations in a table. -/
def Table.declarations (table : Table) : List Walk.Label :=
  ((OccurrenceKind.all.flatMap table.list).filter (·.isDeclaration)).map Walk.labelOf

/-- The table holds the declarations among the filings, each as often as it was filed. -/
theorem Walk.State.declarations_perm (state : Walk.State) :
    state.table.declarations.Perm (state.labels.filter Walk.Label.declares) := by
  have filed := ((Table.all_ofEntries_perm (state.filings.reverse.map Walk.Filing.entry)).filter
    (·.isDeclaration)).map Walk.labelOf
  have same : (((state.filings.reverse.map Walk.Filing.entry).map (·.2)).filter
      (·.isDeclaration)).map Walk.labelOf = state.labels.filter Walk.Label.declares := by
    rw [Walk.State.labels, List.map_map, List.filter_map, List.filter_map, List.map_map]
    rfl
  rw [same] at filed
  exact filed

/-- In a list without repetitions of `f`, one item has a given value. -/
theorem filter_eq_singleton {α β : Type} [DecidableEq β] {list : List α} {f : α → β} {item : α}
    (distinct : (list.map f).Nodup) (member : item ∈ list) :
    list.filter (fun other => f other = f item) = [item] := by
  induction list with
  | nil => cases member
  | cons first others ih =>
    rw [List.map_cons, List.nodup_cons] at distinct
    obtain ⟨fresh, distinct⟩ := distinct
    rcases List.mem_cons.mp member with rfl | later
    · have nothing : others.filter (fun other => f other = f item) = [] :=
        List.filter_eq_nil_iff.mpr fun other member' => by
          simpa using fun same : f other = f item => fresh (same ▸ List.mem_map_of_mem member')
      rw [List.filter_cons_of_pos (by simp), nothing]
    · have differ : f first ≠ f item := fun same => fresh (same ▸ List.mem_map_of_mem later)
      rw [List.filter_cons_of_neg (by simpa using differ), ih distinct later]

/-- **Declarations are neither lost nor invented.** Of every grammatical tree, whatever the class
path knows, a walk that is not given up files each name that it may not miss, and files as
declarations only names that the tree declares, neither more often than they are declared. Where the
tree is laid out as well, exactly one occurrence stands at each such name, and it is of its kind. -/
theorem walk_declares (env : Walk.Env) (root : Node) (grammatical : Walk.Grammatical root)
    (index : SourceIndex) (indexed : SourceIndex.ofWalk (Walk.walk env root) = .ok index) :
    (Walk.labels env.source (Walk.required root)).Subperm index.table.declarations ∧
      index.table.declarations.Subperm (Walk.labels env.source (Walk.declared root)) ∧
      (Walk.Laid root → ∀ label ∈ Walk.labels env.source (Walk.required root),
        ∃ occurrence, (OccurrenceKind.all.flatMap index.table.list).filter (·.span = label.2) =
          [occurrence] ∧ occurrence.kind = label.1) := by
  obtain ⟨alive, rfl⟩ := SourceIndex.ofWalk_eq_ok_iff.mp indexed
  obtain ⟨lower, upper⟩ := Walk.walk_faithful grammatical alive
  have filed := (Walk.walk env root).declarations_perm
  refine ⟨lower.trans filed.symm.subperm, filed.subperm.trans upper, fun laid label isRequired => ?_⟩
  have listed := (lower.trans filed.symm.subperm).subset isRequired
  obtain ⟨occurrence, member, rfl⟩ := List.mem_map.mp listed
  have ascends := Walk.State.table_ascends (Walk.walk_labelsAscend env laid)
  exact ⟨occurrence, filter_eq_singleton ascends.all (List.mem_filter.mp member).1, rfl⟩

/-- The tree of `class A { int f = g(x -> x).h; void m(int p) { } }`. -/
def lambdaInReceiver : Node :=
  .word "program" none 0 50 [
    .word "class_declaration" none 0 50 [
      .word "identifier" (some "name") 6 7 [],
      .word "class_body" (some "body") 8 50 [
        .word "field_declaration" none 10 30 [
          .word "integral_type" (some "type") 10 13 [],
          .word "variable_declarator" (some "declarator") 14 29 [
            .word "identifier" (some "name") 14 15 [],
            .word "field_access" (some "value") 18 29 [
              .word "method_invocation" (some "object") 18 27 [
                .word "identifier" (some "name") 18 19 [],
                .word "argument_list" (some "arguments") 19 27 [
                  .word "lambda_expression" none 20 26 [
                    .word "identifier" (some "parameters") 20 21 [],
                    .word "identifier" (some "body") 25 26 []]]],
              .word "identifier" (some "field") 28 29 []]]],
        .word "method_declaration" none 31 48 [
          .word "void_type" (some "type") 31 35 [],
          .word "identifier" (some "name") 36 37 [],
          .word "formal_parameters" (some "parameters") 37 44 [
            .word "formal_parameter" none 38 43 [
              .word "integral_type" (some "type") 38 41 [],
              .word "identifier" (some "name") 42 43 []]],
          .word "block" (some "body") 45 48 []]]]]

def lambdaInReceiverEnv : Walk.Env :=
  .ofTree (.ofText "class A { int f = g(x -> x).h; void m(int p) { } }") lambdaInReceiver .empty

theorem walk_declares_lambdaInReceiver :
    ∃ index, SourceIndex.ofWalk (Walk.walk lambdaInReceiverEnv lambdaInReceiver) = .ok index ∧
      index.table.keys .localVariable = ["x"] ∧ (Walk.required lambdaInReceiver).length = 4 ∧
      ∀ label ∈ Walk.labels lambdaInReceiverEnv.source (Walk.required lambdaInReceiver),
        ∃ occurrence, (OccurrenceKind.all.flatMap index.table.list).filter (·.span = label.2) =
          [occurrence] ∧ occurrence.kind = label.1 := by
  have indexed := SourceIndex.ofWalk_eq_ok_iff.mpr
    ⟨show (Walk.walk lambdaInReceiverEnv lambdaInReceiver).tooDeep = none by decide +kernel, rfl⟩
  exact ⟨_, indexed, by decide +kernel, by decide +kernel,
    (walk_declares _ lambdaInReceiver (by decide +kernel) _ indexed).2.2 (by decide +kernel)⟩

/-- The tree of `class A { void m(T... a = x -> x) { } }`. -/
def spreadWithValue : Node :=
  .word "program" none 0 39 [
    .word "class_declaration" none 0 39 [
      .token "class" 0 5,
      .word "identifier" (some "name") 6 7 [],
      .word "class_body" (some "body") 8 39 [
        .token "\x7b" 8 9,
        .word "method_declaration" none 10 37 [
          .word "void_type" (some "type") 10 14 [],
          .word "identifier" (some "name") 15 16 [],
          .word "formal_parameters" (some "parameters") 16 33 [
            .token "(" 16 17,
            .word "spread_parameter" none 17 32 [
              .word "type_identifier" none 17 18 [],
              .token "..." 18 21,
              .word "variable_declarator" none 22 32 [
                .word "identifier" (some "name") 22 23 [],
                .token "=" 24 25,
                .word "lambda_expression" (some "value") 26 32 [
                  .word "identifier" (some "parameters") 26 27 [],
                  .token "->" 28 30,
                  .word "identifier" (some "body") 31 32 []]]],
            .token ")" 32 33],
          .word "block" (some "body") 34 37 [
            .token "\x7b" 34 35,
            .token "\x7d" 36 37]],
        .token "\x7d" 38 39]]]

def spreadWithValueEnv : Walk.Env :=
  .ofTree (.ofText "class A { void m(T... a = x -> x) { } }") spreadWithValue .empty

/-- Of the declarator of a spread parameter only the name is looked at: the parameter of a lambda
behind it is not filed. -/
theorem lambda_behind_spread_missed :
    Walk.Grammatical spreadWithValue ∧ Walk.Laid spreadWithValue ∧
      ∃ index, SourceIndex.ofWalk (Walk.walk spreadWithValueEnv spreadWithValue) = .ok index ∧
        ∃ label ∈ Walk.labels spreadWithValueEnv.source (Walk.declaredIn Walk.aside spreadWithValue),
          label.1 = .localVariable ∧
            ∀ occurrence ∈ OccurrenceKind.all.flatMap index.table.list,
              occurrence.span ≠ label.2 := by
  have indexed := SourceIndex.ofWalk_eq_ok_iff.mpr
    ⟨show (Walk.walk spreadWithValueEnv spreadWithValue).tooDeep = none by decide +kernel, rfl⟩
  exact ⟨by decide +kernel, by decide +kernel, _, indexed, by decide +kernel⟩

end SymbolIndex
