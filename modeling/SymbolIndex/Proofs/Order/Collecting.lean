import Mathlib.Data.List.Pairwise
import SymbolIndex.Proofs.Order.Moving
import SymbolIndex.Walk.Declaration

/-!
# What is collected of a class body

A class body is entered with its members collected, before any of them is walked. `additions` lists what one
member adds to its class, and `addMember_eq` says that this is all that it does. So for two bodies whose members
add the same the classes collected are alike, and for members that change places it is enough that they do not
add the same name with different types (`Compatible`): of two methods the first counts, of two fields the last.
-/

namespace SymbolIndex.Walk

open SymbolIndex.Tree (Node Source Carried)

/-! ## What a member adds -/

/-- A name that a member adds to its class, with its type. -/
structure Addition where
  kind : MemberKind
  name : String
  type : Option JavaType

/-- What a member of the class at `path` adds to it. -/
def additions (env : Env) (scope : Scope) (path : String) (member : Node) : List Addition :=
  if member.kind == "field_declaration" || member.kind == "constant_declaration" then
    let base := (member.child? "type").bind (typeOf env scope)
    (member.childrenIn "declarator").filterMap fun declarator =>
      (declarator.child? "name").map fun name =>
        let dimensions := Tree.dimensionsOf env.source (declarator.child? "dimensions")
        ⟨.field, env.text name, base.map (·.arrayOf dimensions)⟩
  else if member.kind == "enum_constant" then
    ((member.child? "name").map fun name => ⟨.field, env.text name, some (.reference path)⟩).toList
  else if member.kind == "method_declaration" then
    ((member.child? "name").map fun name =>
      ⟨.method, env.text name, (member.child? "type").bind (typeOf env scope)⟩).toList
  else []

/-- Adds a name. Of fields with one name the last counts, of methods the first. -/
def Addition.onto (type : SourceType) (addition : Addition) : SourceType :=
  match addition.kind with
  | .field => { type with fields := type.fields.insert addition.name addition.type }
  | .method => { type with methods := type.methods.insertNew addition.name addition.type }

/-- **A member adds its additions**, one after another. -/
theorem addMember_eq (env : Env) (scope : Scope) (path : String) (type : SourceType) (member : Node) :
    addMember env scope path type member = (additions env scope path member).foldl Addition.onto type := by
  unfold addMember additions
  split
  · simp only [List.foldl_filterMap]
    congr 1
    funext type declarator
    unfold addDeclarator
    cases declarator.child? "name" <;> rfl
  · split
    · cases member.child? "name" <;> rfl
    · split
      · cases member.child? "name" <;> rfl
      · rfl

/-- Two additions that may be made in either order. -/
def Addition.Compatible (first second : Addition) : Prop :=
  first.kind = second.kind → first.name = second.name → first.type = second.type

/-- Whether two additions may be exchanged does not depend on which comes first. -/
theorem Addition.Compatible.symm {first second : Addition} (compatible : first.Compatible second) :
    second.Compatible first :=
  fun kind name => (compatible kind.symm name.symm).symm

/-- A name that is bound already keeps what it stands for. -/
theorem find?_insertNew {α : Type} (bindings : Bindings α) (name other : String) (value : α) :
    (bindings.insertNew name value).find? other =
      if name = other then some ((bindings.find? name).getD value) else bindings.find? other := by
  unfold Bindings.insertNew
  cases found : bindings.find? name with
  | none =>
    rw [Bindings.find?_insert]
    rfl
  | some known =>
    by_cases same : name = other
    · rw [if_pos same, ← same, found]
      rfl
    · rw [if_neg same]

/-- An addition to alike classes leaves them alike. -/
theorem Addition.onto_alike {type type' : SourceType} (alike : type.Alike type') (addition : Addition) :
    (onto type addition).Alike (onto type' addition) := by
  obtain ⟨kind, name, added⟩ := addition
  cases kind with
  | field =>
    refine ⟨alike.superClass, alike.interfaces, fun other => ?_, alike.methods⟩
    simp only [onto, Bindings.find?_insert, alike.fields]
  | method =>
    refine ⟨alike.superClass, alike.interfaces, alike.fields, fun other => ?_⟩
    simp only [onto, find?_insertNew, alike.methods]

/-- **Compatible additions commute**: of two members of one name and kind the first counts, so they must
have one type. -/
theorem Addition.onto_comm {first second : Addition} (compatible : first.Compatible second)
    (type : SourceType) :
    (onto (onto type first) second).Alike (onto (onto type second) first) := by
  obtain ⟨kind, name, added⟩ := first
  obtain ⟨kind', name', added'⟩ := second
  simp only [Compatible] at compatible
  cases kind with
  | field =>
    cases kind' with
    | field =>
      refine ⟨rfl, rfl, fun other => ?_, fun _ => rfl⟩
      simp only [onto, Bindings.find?_insert]
      split
      · split
        · rename_i same same'
          rw [compatible rfl (same'.trans same.symm)]
        · rfl
      · rfl
    | method => exact .refl _
  | method =>
    cases kind' with
    | field => exact .refl _
    | method =>
      refine ⟨rfl, rfl, fun _ => rfl, fun other => ?_⟩
      simp only [onto, find?_insertNew]
      by_cases named : name = other
      · by_cases named' : name' = other
        · subst named named'
          simp only [if_true, Option.getD_some, compatible rfl rfl]
        · simp only [named, named', if_true, if_false]
      · by_cases named' : name' = other
        · simp only [named, named', if_true, if_false]
        · simp only [named, named', if_false]

/-- A list of additions leaves alike classes alike. -/
theorem foldl_onto_alike {type type' : SourceType} (alike : type.Alike type') (added : List Addition) :
    (added.foldl Addition.onto type).Alike (added.foldl Addition.onto type') := by
  induction added generalizing type type' with
  | nil => exact alike
  | cons addition added ih => exact ih (Addition.onto_alike alike addition)

/-- Additions of which each goes with all of the others may be made in either order. -/
theorem foldl_onto_comm {first second : List Addition}
    (compatible : ∀ addition ∈ first, ∀ addition' ∈ second, addition.Compatible addition')
    (type : SourceType) :
    (second.foldl Addition.onto (first.foldl Addition.onto type)).Alike
      (first.foldl Addition.onto (second.foldl Addition.onto type)) := by
  have past {addition : Addition} {others : List Addition}
      (compatible : ∀ other ∈ others, other.Compatible addition) (type : SourceType) :
      (Addition.onto (others.foldl Addition.onto type) addition).Alike
        (others.foldl Addition.onto (Addition.onto type addition)) := by
    induction others generalizing type with
    | nil => exact .refl _
    | cons other others ih =>
      obtain ⟨here, rest⟩ := List.forall_mem_cons.mp compatible
      exact (ih rest _).trans (foldl_onto_alike (Addition.onto_comm here type) others)
  induction second generalizing type with
  | nil => exact .refl _
  | cons addition second ih =>
    have here : ∀ other ∈ first, other.Compatible addition :=
      fun other member => compatible other member addition List.mem_cons_self
    have rest : ∀ other ∈ first, ∀ addition' ∈ second, other.Compatible addition' :=
      fun other member addition' later => compatible other member addition' (List.mem_cons_of_mem _ later)
    exact (foldl_onto_alike (past here type) second).trans (ih rest _)

/-- Two members of a class that may be collected in either order: they add no name with different types. -/
def Compatible (env : Env) (first second : Node) : Prop :=
  ∀ scope path, ∀ addition ∈ additions env scope path first, ∀ addition' ∈ additions env scope path second,
    addition.Compatible addition'

/-- Whether two members may be exchanged does not depend on which comes first. -/
theorem Compatible.symm {env : Env} {first second : Node} (compatible : Compatible env first second) :
    Compatible env second first :=
  fun scope path addition listed addition' listed' =>
    (compatible scope path addition' listed' addition listed).symm

instance (env : Env) : Std.Symm (Compatible env) :=
  ⟨fun _ _ => Compatible.symm⟩

/-! ## Orders of collecting -/

/-- A fold over items that may be taken in either order. -/
theorem foldl_perm {α β : Type} {related : β → β → Prop} {step : β → α → β}
    (refl : ∀ state, related state state)
    (trans : ∀ {first second third}, related first second → related second third → related first third)
    (keeps : ∀ first second item, related first second → related (step first item) (step second item))
    {items items' : List α} (perm : items.Perm items')
    (comm : ∀ item ∈ items, ∀ item' ∈ items, ∀ state,
      related (step (step state item) item') (step (step state item') item)) (state : β) :
    related (items.foldl step state) (items'.foldl step state) := by
  have keepsAll (items : List α) (first second : β) (same : related first second) :
      related (items.foldl step first) (items.foldl step second) := by
    induction items generalizing first second with
    | nil => exact same
    | cons item items ih => exact ih _ _ (keeps first second item same)
  induction perm generalizing state with
  | nil => exact refl state
  | cons item _ ih =>
    exact ih (fun first member second member' =>
      comm first (List.mem_cons_of_mem _ member) second (List.mem_cons_of_mem _ member')) _
  | swap item item' items => exact keepsAll items _ _ (comm item' (by simp) item (by simp) state)
  | trans perm _ ih ih' =>
    refine trans (ih comm state) (ih' ?_ state)
    exact fun first member second member' =>
      comm first (perm.mem_iff.mpr member) second (perm.mem_iff.mpr member')

/-- A member adds the same to alike classes. -/
theorem addMember_alike {env : Env} {scope : Scope} {path : String} {type type' : SourceType}
    (alike : type.Alike type') (member : Node) :
    (addMember env scope path type member).Alike (addMember env scope path type' member) := by
  rw [addMember_eq, addMember_eq]
  exact foldl_onto_alike alike _

/-- **Members that are compatible are collected alike in any order.** -/
theorem addMembers_perm {env : Env} {members members' : List Node} (perm : members.Perm members')
    (compatible : members.Pairwise (Compatible env)) (scope : Scope) (path : String) (type : SourceType) :
    (members.foldl (addMember env scope path) type).Alike
      (members'.foldl (addMember env scope path) type) := by
  refine foldl_perm SourceType.Alike.refl SourceType.Alike.trans
    (fun _ _ member alike => addMember_alike alike member) perm (fun first listed second listed' type => ?_) type
  by_cases same : first = second
  · rw [same]
    exact .refl _
  · have both := compatible.forall listed listed' same
    simp only [addMember_eq]
    exact foldl_onto_comm (both scope path) type

/-- What naming a member does to the innermost frame. -/
theorem nameMember_eq (env : Env) (scope : Scope) (member : Node) :
    nameMember env scope member = scope.modifyFrame fun frame =>
      { frame with
        nested := (if declaresType member.kind then (member.child? "name").map env.text else none).elim
          frame.nested fun name => frame.nested.insert name (frame.path ++ "$" ++ name) } := by
  obtain ⟨frames, outer, finished⟩ := scope
  unfold nameMember
  cases member.child? "name" with
  | none => cases frames <;> cases declaresType member.kind <;> rfl
  | some name => cases frames <;> cases declaresType member.kind <;> rfl

/-- Making a member class known keeps what is known the same. -/
theorem nameMember_same {classpath : Classpath} {env : Env} {first second : Scope}
    (same : Same classpath first second) (member : Node) :
    Same classpath (nameMember env first member) (nameMember env second member) := by
  rw [nameMember_eq, nameMember_eq]
  refine same.modifyFrame fun frame frame' alike =>
    ⟨alike.path, alike.members, fun name => ?_, alike.blocks, alike.method, alike.anonymous⟩
  cases if declaresType member.kind then (member.child? "name").map env.text else none with
  | none => exact alike.nested name
  | some other => simp only [Option.elim_some, Bindings.find?_insert, alike.nested, alike.path]

/-- **Member classes may be made known in either order**: one of the same name gets the same path. -/
theorem nameMember_comm {classpath : Classpath} (env : Env) (scope : Scope) (member member' : Node) :
    Same classpath (nameMember env (nameMember env scope member) member')
      (nameMember env (nameMember env scope member') member) := by
  simp only [nameMember_eq]
  obtain ⟨frames, outer, finished⟩ := scope
  cases frames with
  | nil => exact .refl _
  | cons frame frames =>
    have around : List.Forall₂ Frame.Alike frames frames := List.forall₂_same.mpr fun frame _ => .refl frame
    refine ⟨.cons ⟨rfl, .refl _, fun name => ?_, rfl, rfl, rfl⟩ around, rfl, fun _ => .refl _⟩
    generalize (if declaresType member.kind then (member.child? "name").map env.text else none) = first
    generalize (if declaresType member'.kind then (member'.child? "name").map env.text else none) = second
    cases first with
    | none => rfl
    | some first =>
      cases second with
      | none => rfl
      | some second =>
        simp only [Option.elim_some, Bindings.find?_insert]
        by_cases named : first = name
        · by_cases named' : second = name
          · subst named named'
            rfl
          · rw [if_neg named', if_pos named, if_pos named]
        · rw [if_neg named, if_neg named]

/-- Any order of the members of a body makes the same classes known. -/
theorem nameMembers_perm {classpath : Classpath} {env : Env} {members members' : List Node}
    (perm : members.Perm members') (scope : Scope) :
    Same classpath (members.foldl (nameMember env) scope) (members'.foldl (nameMember env) scope) :=
  foldl_perm Same.refl Same.trans (fun _ _ member same => nameMember_same same member) perm
    (fun member _ member' _ scope => nameMember_comm env scope member member') scope

/-! ## Bodies that are collected alike -/

/-- Members of two bodies that name and add the same. -/
structure Gathered (env : Env) (source : Source) (members members' : List Node) : Prop where
  names : ∀ first second, Same env.classpath first second →
    Same env.classpath (members.foldl (nameMember env) first)
      (members'.foldl (nameMember (env.on source)) second)
  adds : ∀ first second path type type', Same env.classpath first second → type.Alike type' →
    (members.foldl (addMember env first path) type).Alike
      (members'.foldl (addMember (env.on source) second path) type')

/-- Two members that name and add the same. -/
structure Counterparts (env : Env) (source : Source) (member member' : Node) : Prop where
  names : ∀ first second, Same env.classpath first second →
    Same env.classpath (nameMember env first member) (nameMember (env.on source) second member')
  adds : ∀ first second path, Same env.classpath first second →
    additions (env.on source) second path member' = additions env first path member

section Gathering

variable {env : Env} {source : Source} {distance : Int}

/-- Members that pair up in order add the same. -/
theorem Gathered.ofCounterparts {members members' : List Node}
    (pairs : List.Forall₂ (Counterparts env source) members members') : Gathered env source members members' := by
  induction pairs with
  | nil => exact ⟨fun _ _ same => same, fun _ _ _ _ _ _ alike => alike⟩
  | cons here _ ih =>
    refine ⟨fun first second same => ih.names _ _ (here.names first second same), ?_⟩
    intro first second path type type' same alike
    refine ih.adds first second path _ _ same ?_
    rw [addMember_eq, addMember_eq, here.adds first second path same]
    exact foldl_onto_alike alike _

/-- Two lists of members may be gathered one after the other. -/
theorem Gathered.append {members members' others others' : List Node}
    (gathered : Gathered env source members members') (rest : Gathered env source others others') :
    Gathered env source (members ++ others) (members' ++ others') := by
  constructor
  · intro first second same
    rw [List.foldl_append, List.foldl_append]
    exact rest.names _ _ (gathered.names first second same)
  · intro first second path type type' same alike
    rw [List.foldl_append, List.foldl_append]
    exact rest.adds first second path _ _ same (gathered.adds first second path type type' same alike)

/-- Compatible members may change places. -/
theorem Gathered.perm {members members' members'' : List Node} (gathered : Gathered env source members members')
    (perm : members'.Perm members'') (compatible : members'.Pairwise (Compatible (env.on source))) :
    Gathered env source members members'' := by
  constructor
  · intro first second same
    exact (gathered.names first second same).trans (nameMembers_perm perm second)
  · intro first second path type type' same alike
    exact (gathered.adds first second path type type' same alike).trans
      (addMembers_perm perm compatible second path type')

/-- Members that are collected like others of which this is known. -/
theorem Gathered.zigzag {members members' others others' : List Node}
    (gathered : Gathered env source members members') (between : Gathered env source others members')
    (rest : Gathered env source others others') : Gathered env source members others' := by
  constructor
  · intro first second same
    exact (gathered.names first second same).trans
      ((between.names first second same).symm.trans (rest.names first second same))
  · intro first second path type type' same alike
    exact (gathered.adds first second path type type' same alike).trans
      ((between.adds first second path type type' same alike).symm.trans
        (rest.adds first second path type type' same alike))

/-! ### Moved members -/

/-- A moved member adds the same to its class, in a scope that knows the same. -/
theorem additions_moved {member : Node} {first second : Scope} (same : Same env.classpath first second)
    (carried : Carried env.source source distance member) (path : String) :
    additions (env.on source) second path (member.moved distance) = additions env first path member := by
  have base := typeOf?_beside same (carried.role "type")
  have named {α : Type} {node : Node} (carried : Carried env.source source distance node)
      (make : String → α) :
      ((node.moved distance).child? "name").map (fun name => make ((env.on source).text name)) =
        (node.child? "name").map fun name => make (env.text name) := by
    rw [Node.child?_moved]
    cases found : node.child? "name" with
    | none => rfl
    | some name => simp only [Option.map_some, text_moved (carried.belowRole found)]
  unfold additions
  simp only [Node.kind_moved]
  split
  · rw [Node.child?_moved, base, Node.childrenIn_moved, List.filterMap_map]
    apply List.filterMap_congr
    intro declarator inside
    have below := carried.below (List.mem_filter.mp inside).1
    have dimensions : Tree.dimensionsOf (env.on source).source
        ((declarator.moved distance).child? "dimensions") =
          Tree.dimensionsOf env.source (declarator.child? "dimensions") := by
      rw [Node.child?_moved]
      exact Tree.dimensionsOf_moved (below.role "dimensions")
    simp only [Function.comp_apply, dimensions]
    exact named below fun name => (⟨.field, name, _⟩ : Addition)
  · split
    · rw [named carried fun name => (⟨.field, name, some (.reference path)⟩ : Addition)]
    · split
      · rw [Node.child?_moved _ _ "type", base, named carried fun name => (⟨.method, name, _⟩ : Addition)]
      · rfl

/-- A class whose name is moved is named alike. -/
theorem nameMember_beside {first second : Scope} (same : Same env.classpath first second)
    {member member' : Node} (kind : member'.kind = member.kind)
    (name : ∃ distance, (∀ node ∈ member.child? "name", Carried env.source source distance node) ∧
      member'.child? "name" = (member.child? "name").map (Node.moved distance)) :
    Same env.classpath (nameMember env first member) (nameMember (env.on source) second member') := by
  obtain ⟨distance, carried, isName⟩ := name
  have named : nameMember (env.on source) second member' = nameMember env second member := by
    unfold nameMember
    rw [isName, kind]
    cases found : member.child? "name" with
    | none => rfl
    | some name => simp only [Option.map_some, text_moved (carried name found)]
  rw [named]
  exact nameMember_same same member

/-- A member and the one that it has been moved to add the same. -/
theorem Counterparts.moved {member : Node} (carried : Carried env.source source distance member) :
    Counterparts env source member (member.moved distance) where
  names _ _ same := nameMember_beside same (Node.kind_moved distance member)
    ⟨distance, carried.role "name", Node.child?_moved distance member "name"⟩
  adds _ _ path same := additions_moved same carried path

end Gathering

/-! ## Heads of declarations -/

/-- A node around both places: of the same kind, and a record with the same components. -/
structure Around (env : Env) (source : Source) (node node' : Node) : Prop where
  kind : node'.kind = node.kind
  components : node.kind = "record_declaration" → ∃ distance,
    (∀ list ∈ node.child? "parameters", Carried env.source source distance list) ∧
      node'.child? "parameters" = (node.child? "parameters").map (Node.moved distance)

/-- Two declarations of classes with the same supertypes and record components. -/
structure Heads (env : Env) (source : Source) (declaration declaration' : Node) : Prop extends
    Around env source declaration declaration' where
  headers : ∀ first second type, Same env.classpath first second →
    declaration'.children.foldl (addHeader (env.on source) second) type =
      declaration.children.foldl (addHeader env first) type

/-- Two parameters, the second with its name moved. -/
structure ParameterTwins (env : Env) (source : Source) (distance : Int) (parameter parameter' : Parameter) :
    Prop where
  carried : Carried env.source source distance parameter.name
  moved : parameter' = parameter.moved distance

section Heads

variable {env : Env} {source : Source} {distance : Int} {first second : Scope}

/-- A moved node is as good as the node itself for what lies below. -/
theorem Around.moved {node : Node} (carried : Carried env.source source distance node) :
    Around env source node (node.moved distance) :=
  ⟨Node.kind_moved distance node, fun _ =>
    ⟨distance, carried.role "parameters", Node.child?_moved distance node "parameters"⟩⟩

/-- The parameters of a moved list pair up with those of the list. -/
theorem parameters_twins (same : Same env.classpath first second) {list : Option Node}
    (carried : ∀ node ∈ list, Carried env.source source distance node) :
    List.Forall₂ (ParameterTwins env source distance) (parameters env first list)
      (parameters (env.on source) second (list.map (Node.moved distance))) := by
  rw [parameters_beside same carried, List.forall₂_map_right_iff, List.forall₂_same]
  exact fun parameter listed => ⟨carried_parameters carried parameter listed, rfl⟩

/-- The components of a record pair up, all moved by one distance. -/
theorem componentsOf_twins (same : Same env.classpath first second) {declaration declaration' : Option Node}
    (around : Option.Rel (Around env source) declaration declaration') :
    ∃ distance, List.Forall₂ (ParameterTwins env source distance) (componentsOf env first declaration)
      (componentsOf (env.on source) second declaration') := by
  cases around with
  | none => exact ⟨0, .nil⟩
  | @some declaration declaration' around =>
    simp only [componentsOf, around.kind]
    by_cases isRecord : declaration.kind = "record_declaration"
    · obtain ⟨distance, carried, moved⟩ := around.components isRecord
      simp only [beq_iff_eq, if_pos isRecord, moved]
      exact ⟨distance, parameters_twins same carried⟩
    · simp only [beq_iff_eq, if_neg isRecord]
      exact ⟨0, .nil⟩

/-- A moved head of a class adds the same supertypes. -/
theorem addHeader_moved (same : Same env.classpath first second) {child : Node}
    (carried : Carried env.source source distance child) (type : SourceType) :
    addHeader (env.on source) second type (child.moved distance) = addHeader env first type child := by
  have superClass : ((child.named.find? (Tree.isTypeKind ·.kind)).map (Node.moved distance)).bind
      (classOf (env.on source) second) =
        (child.named.find? (Tree.isTypeKind ·.kind)).bind (classOf env first) :=
    classOf?_beside same fun node found => carried.belowNamed (List.mem_of_find?_eq_some found)
  have interfaces : ((child.moved distance).named.flatMap (·.named)).filterMap
      (classOf (env.on source) second) = (child.named.flatMap (·.named)).filterMap (classOf env first) := by
    simp only [Node.named_moved, List.flatMap_map, ← List.map_flatMap, List.filterMap_map]
    apply List.filterMap_congr
    intro node inside
    obtain ⟨list, named, inside⟩ := List.mem_flatMap.mp inside
    exact classOf_beside same ((carried.belowNamed named).belowNamed inside)
  have found : (child.moved distance).named.find? (Tree.isTypeKind ·.kind) =
      (child.named.find? (Tree.isTypeKind ·.kind)).map (Node.moved distance) := by
    rw [Node.named_moved, Node.find?_moved distance fun node => by rw [Node.kind_moved]]
  simp only [addHeader, Node.kind_moved, interfaces, found, superClass]

/-- A moved declaration has the same head. -/
theorem Heads.moved {declaration : Node} (carried : Carried env.source source distance declaration) :
    Heads env source declaration (declaration.moved distance) where
  toAround := .moved carried
  headers first second type same := by
    rw [Node.children_moved, List.foldl_map]
    refine List.foldl_ext _ _ type fun type child inside => ?_
    exact addHeader_moved same (carried.below inside) type

/-- Declarations with the same head add the same to a class. -/
theorem addDeclaration_beside (same : Same env.classpath first second) {declaration declaration' : Node}
    (heads : Heads env source declaration declaration') (type : SourceType) :
    addDeclaration (env.on source) second type declaration' = addDeclaration env first type declaration := by
  simp only [addDeclaration, heads.kind, heads.headers first second _ same]
  by_cases isRecord : declaration.kind = "record_declaration"
  · obtain ⟨distance, carried, moved⟩ := heads.components isRecord
    simp only [beq_iff_eq, if_pos isRecord, moved, parameters_beside same carried, List.foldl_map]
    refine List.foldl_ext _ _ _ fun type component listed => ?_
    simp only [addComponent, Parameter.moved, text_moved (carried_parameters carried component listed)]
  · simp only [beq_iff_eq, if_neg isRecord]

/-! ## Entering a body -/

/-- **The class that is collected** is alike when the heads are the same and the members gather to the
same. -/
theorem sourceType_alike (same : Same env.classpath first second) {declaration declaration' : Option Node}
    (heads : Option.Rel (Heads env source) declaration declaration') {members members' : List Node}
    (gathered : Gathered env source members members') (path : String) (hint : Option String) :
    (sourceType env first path declaration members hint).Alike
      (sourceType (env.on source) second path declaration' members' hint) := by
  refine gathered.adds first second path _ _ same ?_
  cases heads with
  | none => exact .refl _
  | some heads =>
    simp only [addDeclaration_beside same heads]
    exact .refl _

/-- The members of a body that may be there. -/
def bodyMembers? (body : Option Node) : List Node :=
  (body.map bodyMembers).getD []

/-- **Bodies that are collected alike are entered alike.** -/
theorem openBody_same {state state' : State} (same : Same env.classpath state.scope state'.scope)
    {declaration declaration' body body' : Option Node}
    (heads : Option.Rel (Heads env source) declaration declaration')
    (gathered : Gathered env source (bodyMembers? body) (bodyMembers? body')) (path : String)
    (hint : Option String) :
    Same env.classpath (openBody env declaration path body hint state).scope
      (openBody (env.on source) declaration' path body' hint state').scope := by
  have named := gathered.names _ _ (same.pushFrame path)
  have alike := sourceType_alike named heads gathered path hint
  exact named.modifyFrame fun frame frame' frames =>
    ⟨frames.path, alike, frames.nested, frames.blocks, frames.method, frames.anonymous⟩

/-- The members of a moved body are those of the body, moved. -/
theorem bodyMembers_moved (body : Node) :
    bodyMembers (body.moved distance) = (bodyMembers body).map (Node.moved distance) := by
  rw [bodyMembers, bodyMembers, Node.named_moved, List.flatMap_map, List.map_flatMap]
  congr 1
  funext child
  rw [Node.kind_moved]
  split
  · exact Node.named_moved distance child
  · rfl

/-- A moved body adds the same members. -/
theorem Gathered.moved {body : Option Node}
    (carried : ∀ node ∈ body, Carried env.source source distance node) :
    Gathered env source (bodyMembers? body) (bodyMembers? (body.map (Node.moved distance))) := by
  apply Gathered.ofCounterparts
  cases body with
  | none => exact .nil
  | some body =>
    simp only [bodyMembers?, Option.map_some, Option.getD_some, bodyMembers_moved]
    rw [List.forall₂_map_right_iff, List.forall₂_same]
    intro member listed
    obtain ⟨child, named, inside⟩ := List.mem_flatMap.mp listed
    have below := (carried body rfl).belowNamed named
    split at inside
    · exact .moved (below.belowNamed inside)
    · exact List.mem_singleton.mp inside ▸ .moved below

end Heads

end SymbolIndex.Walk
