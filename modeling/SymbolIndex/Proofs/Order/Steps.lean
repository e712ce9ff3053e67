import Mathlib.Algebra.Group.Prod
import Mathlib.Algebra.Order.Group.Multiset
import SymbolIndex.Proofs.Order.Collecting
import SymbolIndex.Proofs.Script
import SymbolIndex.SourceIndex

/-!
# Walks over moved nodes, step by step

Two walks go over one node, the second where the node has been moved to, in scopes that answer alike. They are
compared by what they find: `tally` counts the references, apart from their places, and the notes. `Abreast`
says of two steps that they keep the walks level and add the same to the tallies, and `Concur` says this of two
questions, which also have the same answer. `Twins` are the places of a node and of the moved node, and
`Companions` are two walkers that go on alike with twins.

This module has the steps of declarations, and `Order.Walk` has the others and the walks.
-/

namespace SymbolIndex.Walk

open SymbolIndex.Tree (Node Source Cursor Carried)

/-! ## What a walk finds -/

/-- A reference without its place: the member and its kind, the type that declares it and the owner. -/
abbrev Mention := String × MemberKind × String × String

/-- What an occurrence mentions, if it is a reference. -/
def mention? : Occurrence → Option Mention
  | .reference name kind declaring owner _ => some (name, kind, declaring, owner)
  | _ => none

/-- The references and the number of notes so far. -/
def tally (state : State) : Multiset Mention × ℕ :=
  (↑(state.filings.filterMap fun filing => mention? filing.occurrence), state.notes.length)

/-- A declaration is not counted. -/
theorem tally_file (state : State) (key : String) {occurrence : Occurrence}
    (declares : mention? occurrence = none) : tally (state.file key occurrence) = tally state := by
  simp only [tally, State.file, List.filterMap_cons, declares]

/-- A reference is counted, as often as it is filed. -/
theorem tally_reference (state : State) (key name : String) (kind : MemberKind) (declaring owner : String)
    (span : Span) :
    tally (state.file key (.reference name kind declaring owner span)) =
      ({(name, kind, declaring, owner)}, 0) + tally state := by
  simp only [tally, State.file, List.filterMap_cons, mention?, Prod.mk_add_mk, Multiset.singleton_add,
    Multiset.cons_coe, Nat.zero_add]

/-- A note is counted, whatever it says. -/
theorem tally_note (env : Env) (node : Node) (cause : Unresolved) (state : State) :
    tally (state.note env node cause) = (0, 1) + tally state := by
  simp only [tally, State.note, List.length_cons, Prod.mk_add_mk, zero_add, Nat.add_comm]

/-! ## Steps that are abreast -/

/-- Two walks in scopes that answer alike, both given up or neither. -/
structure Level (classpath : Classpath) (first second : State) : Prop where
  scope : Same classpath first.scope second.scope
  given : first.tooDeep.isSome = second.tooDeep.isSome

/-- Two walks that have come to level states and have found the same on the way. -/
structure Arrive (classpath : Classpath) (first second last last' : State) : Prop where
  level : Level classpath last last'
  gains : tally last + tally second = tally last' + tally first

/-- Two steps that keep walks level and find the same. -/
def Abreast (classpath : Classpath) (step step' : State → State) : Prop :=
  ∀ first second, Level classpath first second → Arrive classpath first second (step first) (step' second)

/-- Two questions that are answered alike and find the same. -/
def Concur (classpath : Classpath) {α : Type} (ask ask' : State → α × State) : Prop :=
  ∀ first second, Level classpath first second →
    (ask first).1 = (ask' second).1 ∧ Arrive classpath first second (ask first).2 (ask' second).2

variable {classpath : Classpath}

/-- Walks are level in either order. -/
theorem Level.symm {first second : State} (level : Level classpath first second) :
    Level classpath second first :=
  ⟨level.scope.symm, level.given.symm⟩

/-- Walks that are level with a third are level with one another. -/
theorem Level.trans {first second third : State} (level : Level classpath first second)
    (level' : Level classpath second third) : Level classpath first third :=
  ⟨level.scope.trans level'.scope, level.given.trans level'.given⟩

/-- What level walks file has the same owner. -/
theorem Level.owner {first second : State} (level : Level classpath first second) :
    first.owner = second.owner := by
  have owner (scope : Scope) : (scope.frame?.map Frame.name).getD "" =
      ((scope.frame?.map (·.path)).map (Text.lastPiece (· == '/'))).getD "" := by
    rw [Option.map_map]
    rfl
  rw [State.owner, State.owner, owner, owner, level.scope.path?]

/-- Walks that do nothing arrive. -/
theorem Arrive.refl {first second : State} (level : Level classpath first second) :
    Arrive classpath first second first second :=
  ⟨level, add_comm _ _⟩

/-- Walks that arrive and go on to arrive have found the same on the whole way. -/
theorem Arrive.trans {first second middle middle' last last' : State}
    (arrive : Arrive classpath first second middle middle')
    (rest : Arrive classpath middle middle' last last') : Arrive classpath first second last last' := by
  refine ⟨rest.level, ?_⟩
  apply add_right_cancel (b := tally middle + tally middle')
  calc tally last + tally second + (tally middle + tally middle')
      = (tally last + tally middle') + (tally middle + tally second) := by ac_rfl
    _ = (tally last' + tally middle) + (tally middle' + tally first) := by rw [arrive.gains, rest.gains]
    _ = tally last' + tally first + (tally middle + tally middle') := by ac_rfl

namespace Abreast

variable {step step' next next' : State → State}

/-- Doing nothing is abreast of doing nothing. -/
theorem idle : Abreast classpath id id :=
  fun _ _ level => .refl level

/-- Steps that neither find anything nor give up. -/
theorem still (scope : ∀ first second, Level classpath first second →
      Same classpath (step first).scope (step' second).scope)
    (given : ∀ state, (step state).tooDeep = state.tooDeep)
    (given' : ∀ state, (step' state).tooDeep = state.tooDeep)
    (finds : ∀ state, tally (step state) = tally state)
    (finds' : ∀ state, tally (step' state) = tally state) : Abreast classpath step step' := by
  intro first second level
  refine ⟨⟨scope first second level, ?_⟩, ?_⟩
  · rw [given, given']
    exact level.given
  · rw [finds, finds', add_comm]

/-- A change of the scope alone finds nothing, so it need only keep what is known the same. -/
theorem withScope {change change' : Scope → Scope}
    (keeps : ∀ first second, Same classpath first second → Same classpath (change first) (change' second)) :
    Abreast classpath (State.withScope · change) (State.withScope · change') :=
  still (fun _ _ level => keeps _ _ level.scope) (fun _ => rfl) (fun _ => rfl) (fun _ => rfl) fun _ => rfl

/-- A declaration is filed. What it says is no matter. -/
theorem file (key key' : State → String) (occurrence occurrence' : State → Occurrence)
    (declares : ∀ state, mention? (occurrence state) = none)
    (declares' : ∀ state, mention? (occurrence' state) = none) :
    Abreast classpath (fun state => state.file (key state) (occurrence state))
      (fun state => state.file (key' state) (occurrence' state)) :=
  still (fun _ _ level => level.scope) (fun _ => rfl) (fun _ => rfl)
    (fun state => tally_file state _ (declares state)) fun state => tally_file state _ (declares' state)

/-- **Steps follow one another**: what both find is what they find in the first and in the second. -/
theorem trans (first : Abreast classpath step step') (second : Abreast classpath next next') :
    Abreast classpath (fun state => next (step state)) (fun state => next' (step' state)) := by
  intro s t level
  have here := first s t level
  exact here.trans (second _ _ here.level)

/-- Steps that take related values from the states. -/
theorem reading {α β : Type} (related : α → β → Prop) {step : α → State → State} {step' : β → State → State}
    (value : State → α) (value' : State → β)
    (values : ∀ first second, Level classpath first second → related (value first) (value' second))
    (each : ∀ value value', related value value' → Abreast classpath (step value) (step' value')) :
    Abreast classpath (fun state => step (value state) state) (fun state => step' (value' state) state) :=
  fun first second level => each _ _ (values first second level) first second level

/-- Steps that take the same value from both states. -/
theorem taking {α : Type} {step step' : α → State → State} (value value' : State → α)
    (values : ∀ first second, Level classpath first second → value first = value' second)
    (each : ∀ value, Abreast classpath (step value) (step' value)) :
    Abreast classpath (fun state => step (value state) state) (fun state => step' (value' state) state) :=
  reading Eq value value' values fun value _ same => same ▸ each value

/-- A block around two steps keeps them abreast. -/
theorem inBlock (abreast : Abreast classpath step step') :
    Abreast classpath (inBlock step) (inBlock step') :=
  (withScope fun _ _ same => same.modifyBlocks _).trans
    (abreast.trans (withScope fun _ _ same => same.modifyBlocks _))

/-- What the method is called is no matter. -/
theorem inMethod (abreast : Abreast classpath step step') (method method' : String) :
    Abreast classpath (inMethod method step) (inMethod method' step') := by
  have entered : Abreast classpath (State.withScope · (·.setMethod (some method)))
      (State.withScope · (·.setMethod (some method'))) :=
    withScope fun _ _ same => same.setMethod rfl
  intro first second level
  have left : Abreast classpath (State.withScope · (·.setMethod first.scope.method?))
      (State.withScope · (·.setMethod second.scope.method?)) :=
    withScope fun _ _ same => same.setMethod level.scope.method?
  exact (entered.trans (abreast.trans left)) first second level

/-- One after another, with related items. -/
theorem foldl {α β : Type} {related : α → β → Prop} {step : State → α → State} {step' : State → β → State}
    {items : List α} {items' : List β} (pairs : List.Forall₂ related items items')
    (each : ∀ item item', related item item' → Abreast classpath (step · item) (step' · item')) :
    Abreast classpath (items.foldl step) (items'.foldl step') := by
  induction pairs with
  | nil => exact idle
  | cons here _ ih => exact (each _ _ here).trans ih

/-- What is answered behind a step. -/
theorem denoting {α : Type} {denoted denoted' : State → α} (abreast : Abreast classpath step step')
    (same : ∀ first second, Level classpath first second → denoted first = denoted' second) :
    Concur classpath (fun state => (denoted (step state), step state))
      (fun state => (denoted' (step' state), step' state)) := by
  intro first second level
  have arrive := abreast first second level
  exact ⟨same _ _ arrive.level, arrive⟩

end Abreast

namespace Concur

variable {α β : Type} {ask ask' : State → α × State}

/-- An answer that changes nothing. -/
theorem answer {answer answer' : State → α}
    (same : ∀ first second, Level classpath first second → answer first = answer' second) :
    Concur classpath (fun state => (answer state, state)) (fun state => (answer' state, state)) :=
  Abreast.idle.denoting same

/-- A question behind another one, by its answer. -/
theorem next {next next' : α → State → β × State} (concur : Concur classpath ask ask')
    (each : ∀ answer, Concur classpath (next answer) (next' answer)) :
    Concur classpath (fun state => next (ask state).1 (ask state).2)
      (fun state => next' (ask' state).1 (ask' state).2) := by
  intro first second level
  obtain ⟨same, arrive⟩ := concur first second level
  obtain ⟨same', arrive'⟩ := each (ask first).1 _ _ arrive.level
  simp only [← same]
  exact ⟨same', arrive.trans arrive'⟩

/-- The one answer and the two states behind it. -/
theorem split (concur : Concur classpath ask ask') {first second : State}
    (level : Level classpath first second) :
    ∃ answer last last', ask first = (answer, last) ∧ ask' second = (answer, last') ∧
      Arrive classpath first second last last' := by
  obtain ⟨same, arrive⟩ := concur first second level
  exact ⟨(ask first).1, (ask first).2, (ask' second).2, rfl, by rw [same], arrive⟩

/-- The states behind two questions are abreast, whatever the answers are used for. -/
theorem abreast (concur : Concur classpath ask ask') :
    Abreast classpath (fun state => (ask state).2) (fun state => (ask' state).2) :=
  fun first second level => (concur first second level).2

end Concur

/-! ## Places of moved nodes -/

section Places

variable {env : Env} {source : Source} {distance : Int}

/-- The places of a node and of the moved node. -/
structure Twins (env : Env) (source : Source) (distance : Int) (cursor cursor' : Cursor) : Prop where
  node : cursor'.node = cursor.node.moved distance
  carried : Carried env.source source distance cursor.node
  above : List.Forall₂ (Around env source) cursor.above cursor'.above
  key : cursor'.parent?.map (isKeyOf · cursor'.node) = cursor.parent?.map (isKeyOf · cursor.node)

/-- A moved name is that of an element of an annotation when the name is. -/
theorem isKeyOf_moved {node child : Node} (carried : Carried env.source source distance node)
    (inside : child ∈ node.children) :
    isKeyOf (node.moved distance) (child.moved distance) = isKeyOf node child := by
  simp only [isKeyOf, Node.kind_moved, Node.child?_moved]
  cases found : node.child? "key" with
  | none => rfl
  | some key =>
    simp only [Option.map_some, Option.any_some,
      Tree.samePlace_moved (carried.belowRole found) (carried.below inside)]

namespace Twins

variable {cursor cursor' : Cursor}

/-- Twins are of one kind. -/
theorem kind (twins : Twins env source distance cursor cursor') : cursor'.kind = cursor.kind := by
  rw [Cursor.kind, twins.node, Node.kind_moved, Cursor.kind]

/-- Twins have one text, each in its own source. -/
theorem text (twins : Twins env source distance cursor cursor') :
    (env.on source).text cursor'.node = env.text cursor.node := by
  rw [twins.node]
  exact text_moved twins.carried

/-- The nodes around twins are of one kind. -/
theorem parentKind (twins : Twins env source distance cursor cursor') :
    cursor'.parent?.map (·.kind) = cursor.parent?.map (·.kind) := by
  have above := twins.above
  unfold Cursor.parent?
  generalize cursor.above = nodes at above
  generalize cursor'.above = nodes' at above
  cases above with
  | nil => rfl
  | cons around _ => exact congrArg some around.kind

/-- What a record offers to its compact constructor is there for both twins. -/
theorem grandparent? (twins : Twins env source distance cursor cursor') :
    Option.Rel (Around env source) cursor.grandparent? cursor'.grandparent? := by
  have above := twins.above
  unfold Cursor.grandparent?
  generalize cursor.above = nodes at above
  generalize cursor'.above = nodes' at above
  cases above with
  | nil => exact .none
  | cons _ above =>
    cases above with
    | nil => exact .none
    | cons around _ => exact .some around

/-- The children of twins are twins. -/
theorem down (twins : Twins env source distance cursor cursor') {child : Node}
    (inside : child ∈ cursor.node.children) :
    Twins env source distance (cursor.down child) (cursor'.down (child.moved distance)) where
  node := rfl
  carried := twins.carried.below inside
  above := .cons (twins.node ▸ Around.moved twins.carried) twins.above
  key := by
    show some (isKeyOf cursor'.node (child.moved distance)) = some (isKeyOf cursor.node child)
    rw [twins.node, isKeyOf_moved twins.carried inside]

/-- Nodes below, and the same where they have been moved to. -/
theorem all (twins : Twins env source distance cursor cursor') {nodes : List Node}
    (inside : ∀ node ∈ nodes, node ∈ cursor.node.children) :
    List.Forall₂ (Twins env source distance) (nodes.map cursor.down)
      ((nodes.map (Node.moved distance)).map cursor'.down) := by
  rw [List.map_map, List.forall₂_map_left_iff, List.forall₂_map_right_iff, List.forall₂_same]
  exact fun node member => twins.down (inside node member)

/-- The named children of twins pair up. -/
theorem named (twins : Twins env source distance cursor cursor') :
    List.Forall₂ (Twins env source distance) cursor.named cursor'.named := by
  rw [Cursor.named, Cursor.named, twins.node, Node.named_moved]
  exact twins.all fun _ => Node.mem_of_named

/-- The children of twins in a role pair up. -/
theorem childrenIn (twins : Twins env source distance cursor cursor') (role : String) :
    List.Forall₂ (Twins env source distance) (cursor.childrenIn role) (cursor'.childrenIn role) := by
  rw [Cursor.childrenIn, Cursor.childrenIn, twins.node, Node.childrenIn_moved]
  exact twins.all fun _ member => (List.mem_filter.mp member).1

/-- The first children of twins in a role are twins, or both are missing. -/
theorem child? (twins : Twins env source distance cursor cursor') (role : String) :
    Option.Rel (Twins env source distance) (cursor.child? role) (cursor'.child? role) := by
  rw [Cursor.child?, Cursor.child?, twins.node, Node.child?_moved]
  cases found : cursor.node.child? role with
  | none => exact .none
  | some child => exact .some (twins.down (Node.mem_of_child? found))

end Twins

end Places

/-! ## Walkers -/

/-- The type of a value, when an expression stands for one. -/
def typeOfValue? : Outcome → Option JavaType
  | .ok (.value type) => some type
  | _ => none

/-- Two walkers that go on alike with twins. -/
structure Companions (env : Env) (source : Source) (walker walker' : Walker) : Prop where
  visit : ∀ distance cursor cursor', Twins env source distance cursor cursor' →
    Abreast env.classpath (walker.visit cursor) (walker'.visit cursor')
  denote : ∀ distance cursor cursor' recording, Twins env source distance cursor cursor' →
    Concur env.classpath (walker.denote cursor recording) (walker'.denote cursor' recording)

namespace Companions

variable {env : Env} {source : Source} {distance : Int} {walker walker' : Walker} {cursor cursor' : Cursor}
  {cursor? cursor?' : Option Cursor} (walkers : Companions env source walker walker')

include walkers

/-- Lists of twins are visited abreast, one node after the other. -/
theorem visitAll {cursors cursors' : List Cursor}
    (twins : List.Forall₂ (Twins env source distance) cursors cursors') :
    Abreast env.classpath (walker.visitAll cursors) (walker'.visitAll cursors') :=
  Abreast.foldl twins fun cursor cursor' => walkers.visit distance cursor cursor'

/-- The children of twins are visited abreast. -/
theorem visitChildren (twins : Twins env source distance cursor cursor') :
    Abreast env.classpath (walker.visitChildren cursor) (walker'.visitChildren cursor') :=
  walkers.visitAll twins.named

theorem visitChildren? (twins : Option.Rel (Twins env source distance) cursor? cursor?') :
    Abreast env.classpath (walker.visitChildren? cursor?) (walker'.visitChildren? cursor?') := by
  cases twins with
  | none => exact Abreast.idle
  | some twins => exact walkers.visitChildren twins

theorem visit? (twins : Option.Rel (Twins env source distance) cursor? cursor?') :
    Abreast env.classpath (walker.visit? cursor?) (walker'.visit? cursor?') := by
  cases twins with
  | none => exact Abreast.idle
  | some twins => exact walkers.visit distance _ _ twins

/-- A part is visited abreast inside a method, whatever the method is called in either walk. -/
theorem visitWithin (method method' : String) (twins : Option.Rel (Twins env source distance) cursor? cursor?') :
    Abreast env.classpath (walker.visitWithin method cursor?) (walker'.visitWithin method' cursor?') := by
  cases twins with
  | none => exact Abreast.idle
  | some twins => exact (walkers.visit distance _ _ twins).inMethod method method'

/-- A part is visited for its references in both walks, or in neither. -/
theorem visitRecording (recording : Bool) (twins : Option.Rel (Twins env source distance) cursor? cursor?') :
    Abreast env.classpath (visitRecording walker recording cursor?)
      (visitRecording walker' recording cursor?') := by
  cases recording with
  | false => exact Abreast.idle
  | true => exact walkers.visit? twins

/-- The types of twin values are the same. -/
theorem valueType? (twins : Option.Rel (Twins env source distance) cursor? cursor?') :
    Concur env.classpath (walker.valueType? cursor?) (walker'.valueType? cursor?') := by
  cases twins with
  | none => exact Concur.answer fun _ _ _ => rfl
  | @some cursor cursor' twins =>
    have typed (walker : Walker) (cursor : Cursor) : walker.valueType cursor = fun state =>
        (typeOfValue? (walker.denote cursor false state).1, (walker.denote cursor false state).2) := by
      funext state
      unfold Walker.valueType typeOfValue?
      split <;> simp_all
    have answered (outcome : Outcome) : Concur env.classpath
        (fun state => (typeOfValue? outcome, state)) (fun state => (typeOfValue? outcome, state)) :=
      Concur.answer fun _ _ _ => rfl
    show Concur env.classpath (walker.valueType cursor) (walker'.valueType cursor')
    rw [typed, typed]
    exact (walkers.denote distance cursor cursor' false twins).next answered

end Companions

/-! ## Filing and declaring -/

section Filing

variable {env : Env} {source : Source} {distance : Int} {name : Node}

/-- A local is declared with the same name and type. -/
theorem declare_abreast (carried : Carried env.source source distance name) (type : Option JavaType) :
    Abreast env.classpath (State.declare env name type)
      (State.declare (env.on source) (name.moved distance) type) := by
  have declared : Abreast env.classpath (State.withScope · (·.declare (env.text name) type))
      (State.withScope · (·.declare (env.text name) type)) :=
    Abreast.withScope fun _ _ same => same.modifyBlocks _
  have moved : State.declare (env.on source) (name.moved distance) type = State.declare env name type := by
    funext state
    rw [State.declare, State.declare, text_moved carried]
  rw [moved]
  exact declared

/-- Filing a local finds nothing, since only references and notes are counted. -/
theorem fileLocal_abreast {env env' : Env} (name name' : Node) (typeName typeName' : Option String) :
    Abreast classpath (State.fileLocal env name typeName) (State.fileLocal env' name' typeName') :=
  Abreast.file _ _ _ _ (fun _ => rfl) fun _ => rfl

/-- Noting a failure counts one in both walks. -/
theorem note_abreast {env env' : Env} (node node' : Node) (cause cause' : Unresolved) :
    Abreast classpath (State.note env node cause) (State.note env' node' cause') := by
  intro first second level
  refine ⟨⟨level.scope, level.given⟩, ?_⟩
  rw [tally_note, tally_note]
  ac_rfl

/-- **A reference is filed** by both walks or by neither, with the same member, type and owner. -/
theorem fileReference_abreast (carried : Carried env.source source distance name) (kind : MemberKind)
    (declaring : String) :
    Abreast env.classpath (State.fileReference env name kind declaring)
      (State.fileReference (env.on source) (name.moved distance) kind declaring) := by
  have filed (state : State) : State.fileReference env name kind declaring state =
      if state.scope.frame?.map (·.path) = some declaring then state
      else state.file (env.text name) (.reference (env.text name) kind declaring state.owner
        (Span.ofNode env.source name)) := rfl
  have filed' (state : State) : State.fileReference (env.on source) (name.moved distance) kind declaring state =
      if state.scope.frame?.map (·.path) = some declaring then state
      else state.file (env.text name) (.reference (env.text name) kind declaring state.owner
        (Span.ofNode source (name.moved distance))) := by
    rw [State.fileReference, text_moved carried]
    rfl
  intro first second level
  rw [filed, filed', level.scope.path?]
  split
  · exact .refl level
  · refine ⟨⟨level.scope, level.given⟩, ?_⟩
    rw [tally_reference, tally_reference, level.owner]
    ac_rfl

/-- A reference is filed in both walks only while they are recording. -/
theorem noteReference_abreast (carried : Carried env.source source distance name) (recording : Bool)
    (kind : MemberKind) (declaring : String) :
    Abreast env.classpath (noteReference env recording name kind declaring)
      (noteReference (env.on source) recording (name.moved distance) kind declaring) := by
  cases recording with
  | false => exact Abreast.idle
  | true => exact fileReference_abreast carried kind declaring

end Filing

/-! ## Declarations -/

section Declarations

variable {env : Env} {source : Source} {distance : Int} {walker walker' : Walker} {cursor cursor' : Cursor}

/-- The components of a record are declarations, so they are not counted. -/
theorem tally_fileComponents (env : Env) (components : List Parameter) (state : State) :
    tally (fileComponents env components state) = tally state := by
  induction components generalizing state with
  | nil => rfl
  | cons component components ih => exact (ih _).trans (tally_file state _ rfl)

/-- A body is entered, and the components of a record are filed. -/
def opening (env : Env) (declaration : Option Node) (path : String) (body : Option Node)
    (hint : Option String) (state : State) : State :=
  let opened := openBody env declaration path body hint state
  fileComponents env (componentsOf env opened.scope declaration) opened

/-- Filing the components of a record does not touch the scope. -/
theorem opening_scope (env : Env) (declaration : Option Node) (path : String) (body : Option Node)
    (hint : Option String) (state : State) :
    (opening env declaration path body hint state).scope =
      (openBody env declaration path body hint state).scope :=
  (Quiet.fileComponents _ _).scope

/-- **A class body is entered** abreast when the heads are the same and the members gather to the same. -/
theorem opening_abreast {declaration declaration' body body' : Option Node}
    (heads : Option.Rel (Heads env source) declaration declaration')
    (gathered : Gathered env source (bodyMembers? body) (bodyMembers? body')) (path : String)
    (hint : Option String) :
    Abreast env.classpath (opening env declaration path body hint)
      (opening (env.on source) declaration' path body' hint) := by
  refine Abreast.still (fun first second level => ?_) (fun _ => (Quiet.fileComponents _ _).tooDeep)
    (fun _ => (Quiet.fileComponents _ _).tooDeep) (fun _ => tally_fileComponents _ _ _)
    fun _ => tally_fileComponents _ _ _
  rw [opening_scope, opening_scope]
  exact openBody_same level.scope heads gathered path hint

/-- A class body is left abreast. -/
theorem leaving_abreast : Abreast classpath (State.withScope · Scope.popFrame)
    (State.withScope · Scope.popFrame) :=
  Abreast.withScope fun _ _ same => same.popFrame

/-- A class is entered, walked and left abreast. -/
theorem enterType_abreast (walkers : Companions env source walker walker')
    {declaration declaration' : Option Node} (heads : Option.Rel (Heads env source) declaration declaration')
    {body body' : Option Cursor} (twins : Option.Rel (Twins env source distance) body body') (path : String)
    (hint : Option String) :
    Abreast env.classpath (enterType env walker declaration path body hint)
      (enterType (env.on source) walker' declaration' path body' hint) := by
  have gathered : Gathered env source (bodyMembers? (body.map (·.node)))
      (bodyMembers? (body'.map (·.node))) := by
    cases twins with
    | none => exact Gathered.ofCounterparts .nil
    | @some body body' twins =>
      simp only [Option.map_some, twins.node]
      exact Gathered.moved (by simpa using twins.carried : ∀ node ∈ some body.node, _)
  exact (opening_abreast heads gathered path hint).trans
    ((walkers.visitChildren? twins).trans leaving_abreast)

/-- An anonymous class is entered under the same number. -/
theorem enterAnonymous_abreast (walkers : Companions env source walker walker') {body body' : Cursor}
    (twins : Twins env source distance body body') (hint : Option String) :
    Abreast env.classpath (enterAnonymous env walker body hint)
      (enterAnonymous (env.on source) walker' body' hint) := by
  have counted : Abreast env.classpath (State.withScope · Scope.countAnonymous)
      (State.withScope · Scope.countAnonymous) :=
    Abreast.withScope fun _ _ same => same.countAnonymous
  exact Abreast.taking (·.scope.anonymousPath) (·.scope.anonymousPath)
    (fun _ _ level => level.scope.anonymousPath) fun path =>
      counted.trans (enterType_abreast walkers .none (.some twins) path hint)

/-- A class is named in the frame around it. -/
theorem naming_abreast (name path : String) :
    Abreast classpath
      (State.withScope · (·.modifyFrame fun frame => { frame with nested := frame.nested.insert name path }))
      (State.withScope · (·.modifyFrame fun frame => { frame with nested := frame.nested.insert name path })) :=
  Abreast.withScope fun _ _ same => same.nameClass name path

/-- A class declaration is named and entered abreast. -/
theorem visitType_abreast (walkers : Companions env source walker walker')
    (twins : Twins env source distance cursor cursor') :
    Abreast env.classpath (visitType env walker cursor) (visitType (env.on source) walker' cursor') := by
  unfold visitType
  simp only [twins.node, Node.child?_moved]
  cases found : cursor.node.child? "name" with
  | none => exact Abreast.idle
  | some name =>
    simp only [Option.map_some, text_moved (twins.carried.belowRole found)]
    have heads : Option.Rel (Heads env source) (some cursor.node) (some (cursor.node.moved distance)) :=
      .some (.moved twins.carried)
    exact Abreast.taking (declaredPath env ·.scope (env.text name))
      (declaredPath (env.on source) ·.scope (env.text name))
      (fun _ _ level => declaredPath_same level.scope (env.text name)) fun path =>
        (naming_abreast (env.text name) path).trans
          (enterType_abreast walkers heads (twins.child? "body") path none)

/-- A declarator files its field and walks its value. -/
theorem visitField_abreast (walkers : Companions env source walker walker')
    (twins : Twins env source distance cursor cursor') (baseText baseText' method method' : String) :
    Abreast env.classpath (visitField env walker baseText method · cursor)
      (visitField (env.on source) walker' baseText' method' · cursor') := by
  unfold visitField
  simp only [twins.node, Node.child?_moved]
  cases cursor.node.child? "name" with
  | none => exact Abreast.idle
  | some name =>
    exact (Abreast.file _ _ _ _ (fun _ => rfl) fun _ => rfl).trans
      (walkers.visitWithin method method' (twins.child? "value"))

/-- A field declaration does so for each of its declarators. -/
theorem visitFields_abreast (walkers : Companions env source walker walker')
    (twins : Twins env source distance cursor cursor') :
    Abreast env.classpath (visitFields env walker cursor) (visitFields (env.on source) walker' cursor') :=
  Abreast.foldl (twins.childrenIn "declarator") fun _ _ twins => visitField_abreast walkers twins _ _ _ _

/-- An enum constant walks its arguments and enters its body. -/
theorem visitEnumConstant_abreast (walkers : Companions env source walker walker')
    (twins : Twins env source distance cursor cursor') :
    Abreast env.classpath (visitEnumConstant env walker cursor)
      (visitEnumConstant (env.on source) walker' cursor') := by
  unfold visitEnumConstant
  simp only [twins.node, Node.child?_moved]
  cases cursor.node.child? "name" with
  | none => exact Abreast.idle
  | some name =>
    simp only [Option.map_some]
    have body := twins.child? "body"
    have arguments := walkers.visitWithin classInit classInit (twins.child? "arguments")
    generalize cursor.child? "body" = body? at body
    generalize cursor'.child? "body" = body?' at body
    cases body with
    | none => exact (Abreast.file _ _ _ _ (fun _ => rfl) fun _ => rfl).trans arguments
    | some twins =>
      let outer (state : State) : String := (state.scope.frame?.map (·.path)).getD ""
      have filed (path : String) : Abreast env.classpath
          (fun state => state.file (env.text name) (.field (env.text name) (simpleNameOf path) state.owner
            (Span.ofNode env.source name)))
          (fun state => state.file ((env.on source).text (name.moved distance))
            (.field ((env.on source).text (name.moved distance)) (simpleNameOf path) state.owner
              (Span.ofNode (env.on source).source (name.moved distance)))) :=
        Abreast.file _ _ _ _ (fun _ => rfl) fun _ => rfl
      have values (first second : State) (level : Level env.classpath first second) :
          outer first = outer second := congrArg (Option.getD · "") level.scope.path?
      exact Abreast.taking outer outer values fun path =>
        (filed path).trans (arguments.trans (enterAnonymous_abreast walkers twins (some path)))

/-- The parameters of a method are declared with the same names and types. -/
theorem declareParameters_abreast {parameters parameters' : List Parameter}
    (twins : List.Forall₂ (ParameterTwins env source distance) parameters parameters')
    (method method' owner owner' : String) :
    Abreast env.classpath (declareParameters env method owner parameters)
      (declareParameters (env.on source) method' owner' parameters') := by
  refine Abreast.foldl twins fun parameter parameter' twins => ?_
  obtain ⟨carried, rfl⟩ := twins
  exact (Abreast.file _ _ _ _ (fun _ => rfl) fun _ => rfl).trans (declare_abreast carried parameter.type)

/-- A method binds its parameters and walks its body. -/
theorem visitMethod_abreast (walkers : Companions env source walker walker')
    (twins : Twins env source distance cursor cursor') :
    Abreast env.classpath (visitMethod env walker cursor) (visitMethod (env.on source) walker' cursor') := by
  unfold visitMethod
  simp only [twins.node, Node.child?_moved]
  cases cursor.node.child? "name" with
  | none => exact Abreast.idle
  | some name =>
    simp only [Option.map_some]
    have body := walkers.visit? (twins.child? "body")
    let method (head : List Parameter × String) : String := signature (env.text name) head.1
    let method' (head : List Parameter × String) : String :=
      signature ((env.on source).text (name.moved distance)) head.1
    have filed (head head' : List Parameter × String) := @Abreast.file env.classpath
      (fun _ => env.text name) (fun _ => (env.on source).text (name.moved distance))
      (fun _ => .method (env.text name) (method head) (head.1.map (·.erased))
        (if cursor.kind == "constructor_declaration" then none
        else typeText? env (cursor.node.child? "type")) head.2 (Span.ofNode env.source name))
      (fun _ => .method ((env.on source).text (name.moved distance)) (method' head') (head'.1.map (·.erased))
        (if cursor'.kind == "constructor_declaration" then none
        else typeText? (env.on source) ((cursor.node.child? "type").map (Node.moved distance))) head'.2
        (Span.ofNode (env.on source).source (name.moved distance))) (fun _ => rfl) fun _ => rfl
    have walked (head head' : List Parameter × String)
        (twins : List.Forall₂ (ParameterTwins env source distance) head.1 head'.1) :=
      (filed head head').trans
        (((declareParameters_abreast twins (method head) (method' head') head.2 head'.2).trans
          body).inBlock.inMethod (method head) (method' head'))
    exact Abreast.reading _
      (fun state => (parameters env state.scope (cursor.node.child? "parameters"), state.owner))
      (fun state => (parameters (env.on source) state.scope
        ((cursor.node.child? "parameters").map (Node.moved distance)), state.owner))
      (fun _ _ level => parameters_twins level.scope (twins.carried.role "parameters")) walked

/-- The components of a record are declared with the same names and types. -/
theorem declareComponents_abreast {components components' : List Parameter}
    (twins : List.Forall₂ (ParameterTwins env source distance) components components') :
    Abreast env.classpath (declareComponents env components) (declareComponents (env.on source) components') := by
  refine Abreast.foldl twins fun component component' twins => ?_
  obtain ⟨carried, rfl⟩ := twins
  exact declare_abreast carried component.type

/-- A compact constructor declares the components of its record, which may have been moved by another
distance. -/
theorem visitCompactConstructor_abreast (walkers : Companions env source walker walker')
    (twins : Twins env source distance cursor cursor') :
    Abreast env.classpath (visitCompactConstructor env walker cursor)
      (visitCompactConstructor (env.on source) walker' cursor') := by
  unfold visitCompactConstructor
  simp only [twins.node, Node.child?_moved]
  cases cursor.node.child? "name" with
  | none => exact Abreast.idle
  | some name =>
    simp only [Option.map_some]
    have body := walkers.visit? (twins.child? "body")
    let method (components : List Parameter) : String := signature (env.text name) components
    let method' (components : List Parameter) : String :=
      signature ((env.on source).text (name.moved distance)) components
    have filed (components components' : List Parameter) := @Abreast.file env.classpath
      (fun _ => env.text name) (fun _ => (env.on source).text (name.moved distance))
      (fun state => .method (env.text name) (method components) (components.map (·.erased)) none state.owner
        (Span.ofNode env.source name))
      (fun state => .method ((env.on source).text (name.moved distance)) (method' components')
        (components'.map (·.erased)) none state.owner (Span.ofNode (env.on source).source (name.moved distance)))
      (fun _ => rfl) fun _ => rfl
    have walked (components components' : List Parameter)
        (twins : ∃ distance, List.Forall₂ (ParameterTwins env source distance) components components') :=
      (filed components components').trans
        (((declareComponents_abreast twins.choose_spec).trans body).inBlock.inMethod (method components)
          (method' components'))
    exact Abreast.reading _ (fun state => componentsOf env state.scope cursor.grandparent?)
      (fun state => componentsOf (env.on source) state.scope cursor'.grandparent?)
      (fun _ _ level => componentsOf_twins level.scope twins.grandparent?) walked

end Declarations

end SymbolIndex.Walk
