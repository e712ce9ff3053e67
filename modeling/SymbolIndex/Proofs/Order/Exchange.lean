import SymbolIndex.Proofs.ClassPaths
import SymbolIndex.Proofs.Order.Walk
import SymbolIndex.Proofs.Visibility

/-!
# Members that change places

Two steps may be exchanged where each of them leaves the walk level with where it was: then both find the same
in either order (`swap_arrive`, `Holding.exchange`). Of the members of a class body this holds of those that
leave nothing behind in the scope. A member class does leave something: its name, which the body has
had from the start (`Homed`), and its members. Where the class path answers for every class that is entered
(`Vouched`), it is no matter whether these are known from the source, so a member class may change places as
well (`level_of_type`).
-/

namespace SymbolIndex.Tree

theorem Label.moved_zero (label : Label) : label.moved 0 = label := by
  simp [Label.moved]

/-- A node that is moved by nothing is itself. -/
theorem Node.moved_zero (node : Node) : node.moved 0 = node := by
  induction node using Node.induct with
  | step node ih =>
    obtain ⟨label, broken, children⟩ := node
    rw [moved, movedAll_eq, Label.moved_zero]
    congr 1
    exact (List.map_congr_left ih).trans (List.map_id _)

/-- Every node is carried to its own place. -/
theorem Carried.zero (source : Source) (node : Node) : Carried source source 0 node := by
  induction node using Node.induct with
  | step node ih =>
    refine Node.all_iff.mpr ⟨?_, ih⟩
    rw [Node.moved_zero]
    simp

end SymbolIndex.Tree

namespace SymbolIndex.Walk

open SymbolIndex.Tree (Node Source Cursor Carried)

/-! ## Steps in another order -/

/-- Two lists of which the second comes from the first by exchanging neighbours that may be exchanged. -/
inductive Exchanged {α : Type} (free : α → α → Prop) : List α → List α → Prop
  | nil : Exchanged free [] []
  | kept {items items' : List α} (item : α) (rest : Exchanged free items items') :
      Exchanged free (item :: items) (item :: items')
  | swap {first second : α} (items : List α) (exchange : free first second) :
      Exchanged free (first :: second :: items) (second :: first :: items)
  | trans {items items' items'' : List α} (exchanged : Exchanged free items items')
      (rest : Exchanged free items' items'') : Exchanged free items items''

namespace Exchanged

variable {α : Type} {free : α → α → Prop} {items items' : List α}

theorem refl (items : List α) : Exchanged free items items := by
  induction items with
  | nil => exact .nil
  | cons item items ih => exact .kept item ih

/-- Exchanging neighbours permutes a list. -/
theorem perm (exchanged : Exchanged free items items') : items.Perm items' := by
  induction exchanged with
  | nil => exact .nil
  | kept item _ ih => exact .cons item ih
  | swap items _ => exact .swap _ _ _
  | trans _ _ ih ih' => exact ih.trans ih'

/-- What is kept of two such lists differs by exchanges too. -/
theorem filter (exchanged : Exchanged free items items') (keeps : α → Bool) :
    Exchanged free (items.filter keeps) (items'.filter keeps) := by
  induction exchanged with
  | nil => exact .nil
  | kept item _ ih =>
    rw [List.filter_cons, List.filter_cons]
    split
    · exact .kept item ih
    · exact ih
  | @swap first second items exchange =>
    simp only [List.filter_cons]
    cases keeps first with
    | false => exact .refl _
    | true =>
      cases keeps second with
      | false => exact .refl _
      | true => exact .swap _ exchange
  | trans _ _ ih ih' => exact ih.trans ih'

end Exchanged

section Steps

variable {classpath : Classpath} {first second last last' last'' : State} {α : Type}
  {step step' : State → α → State} {mobile : α → Prop} {free : α → α → Prop} {items items' : List α}

theorem Level.refl (state : State) : Level classpath state state :=
  ⟨.refl _, rfl⟩

/-- Another walk from the second state arrives with both. -/
theorem Arrive.along (arrive : Arrive classpath first second last last')
    (rest : Arrive classpath second second last' last'') : Arrive classpath first second last last'' := by
  refine ⟨arrive.level.trans rest.level, ?_⟩
  rw [arrive.gains, add_right_cancel rest.gains]

/-- Steps of which those that may change places leave the walk level with where it was. -/
def Holding (classpath : Classpath) (step : State → α → State) (mobile : α → Prop) : List α → State → Prop
  | [], _ => True
  | item :: items, state => (mobile item → Level classpath state (step state item)) ∧
      Holding classpath step mobile items (step state item)

/-- The steps of another walk hold as well. -/
theorem Holding.beside (holding : Holding classpath step mobile items first)
    (each : ∀ item ∈ items, Abreast classpath (step · item) (step' · item))
    (level : Level classpath first second) : Holding classpath step' mobile items second := by
  induction items generalizing first second with
  | nil => trivial
  | cons item items ih =>
    obtain ⟨here, rest⟩ := List.forall_mem_cons.mp each
    have arrive := here first second level
    refine ⟨fun isMobile => ?_, ih holding.2 rest arrive.level⟩
    exact level.symm.trans ((holding.1 isMobile).trans arrive.level)

/-- Two steps that leave the walk level may be exchanged. Each is taken in states that are level with the one
in front of both, so it finds the same. -/
theorem swap_arrive {item item' : α} (abreast : ∀ item, Abreast classpath (step · item) (step · item))
    (here : Level classpath first (step first item))
    (next : Level classpath (step first item) (step (step first item) item'))
    (level : Level classpath first second) :
    Level classpath first (step first item') ∧
      Level classpath (step first item') (step (step first item') item) ∧
      Arrive classpath first second (step (step first item) item') (step (step second item') item) := by
  have crossed := abreast item' (step first item) second (here.symm.trans level)
  have ahead : Level classpath first (step second item') := here.trans (next.trans crossed.level)
  have crossed' := abreast item first (step second item') ahead
  have alone := abreast item' first second level
  have alone' := abreast item first (step first item') (ahead.trans alone.level.symm)
  refine ⟨ahead.trans alone.level.symm, ?_, ?_, ?_⟩
  · exact (ahead.trans alone.level.symm).symm.trans (here.trans alone'.level)
  · exact next.symm.trans crossed'.level
  · apply add_right_cancel (b := tally (step first item) + tally (step second item'))
    calc tally (step (step first item) item') + tally second +
          (tally (step first item) + tally (step second item'))
        = (tally (step second item') + tally (step first item)) +
          (tally (step (step second item') item) + tally first) := by rw [crossed.gains, crossed'.gains]
      _ = tally (step (step second item') item) + tally first +
          (tally (step first item) + tally (step second item')) := by ac_rfl

/-- **Steps that hold may be exchanged.** By induction on the exchanges: behind them the steps hold and the
walk finds the same. -/
theorem Holding.exchange (exchanged : Exchanged free items items')
    (holding : Holding classpath step mobile items first)
    (abreast : ∀ item, Abreast classpath (step · item) (step · item))
    (both : ∀ item item', free item item' → mobile item ∧ mobile item')
    (level : Level classpath first second) :
    Holding classpath step mobile items' first ∧
      Arrive classpath first second (items.foldl step first) (items'.foldl step second) := by
  induction exchanged generalizing first second with
  | nil => exact ⟨trivial, .refl level⟩
  | kept item _ ih =>
    have arrive := abreast item first second level
    obtain ⟨holds, rest⟩ := ih holding.2 arrive.level
    exact ⟨⟨holding.1, holds⟩, arrive.trans rest⟩
  | @swap item item' items exchange =>
    obtain ⟨isMobile, isMobile'⟩ := both item item' exchange
    obtain ⟨here, next, rest⟩ := holding
    obtain ⟨here', next', arrive⟩ := swap_arrive abreast (here isMobile) (next isMobile') level
    have around := (swap_arrive abreast (here isMobile) (next isMobile') (.refl first)).2.2.level
    have same : List.Forall₂ (· = ·) items items := List.forall₂_same.mpr fun _ _ => rfl
    refine ⟨⟨fun _ => here', fun _ => next', rest.beside (fun item _ => abreast item) around⟩, ?_⟩
    exact arrive.trans (Abreast.foldl same (fun item _ same => same ▸ abreast item) _ _ arrive.level)
  | trans _ _ ih ih' =>
    obtain ⟨holds, arrive⟩ := ih holding level
    have beside := holds.beside (fun item _ => abreast item) level
    exact ⟨(ih' holds (.refl first)).1, arrive.along (ih' beside (.refl second)).2⟩

end Steps

section Places

variable {env : Env} {room : Nat} {cursor : Cursor}

/-- A visit of one place is abreast of itself. -/
theorem visit_abreast_self (env : Env) (room : Nat) (cursor : Cursor) :
    Abreast env.classpath ((walker env room).visit cursor) ((walker env room).visit cursor) := by
  have around (node : Node) : Around env env.source node node := by
    have moved : Around env env.source node (node.moved 0) := .moved (Carried.zero env.source node)
    rwa [Node.moved_zero] at moved
  have twins : Twins env env.source 0 cursor cursor :=
    ⟨(Node.moved_zero cursor.node).symm, .zero _ _, List.forall₂_same.mpr fun node _ => around node, rfl⟩
  exact (walker_companions env env.source room).visit 0 cursor cursor twins

/-! ## Classes that the class path answers for -/

/-- The class path answers for every class that has been left. -/
def AnswersForAll (classpath : Classpath) (scope : Scope) : Prop :=
  ∀ path type, scope.finished.find? path = some type → AnswersFor classpath path type

/-- Where the class path answers for the classes, it is no matter which of them have been left. -/
theorem AnswersForAll.same {classpath : Classpath} {first last : Scope} (answers : AnswersForAll classpath first)
    (answers' : AnswersForAll classpath last) (frames : List.Forall₂ Frame.Alike first.frames last.frames)
    (outer : first.outer = last.outer) : Same classpath first last := by
  have settled {scope : Scope} (answers : AnswersForAll classpath scope) (path : String) (known : classpath.knows path) :
      Settled classpath path (scope.finished.find? path) :=
    ⟨known, fun type found => answers path type found⟩
  refine ⟨frames, outer, fun path => ?_⟩
  cases found : first.finished.find? path with
  | some type =>
    have known := (answers path type found).known
    exact .inr ⟨found ▸ settled answers path known, settled answers' path known⟩
  | none =>
    cases found' : last.finished.find? path with
    | none => exact .refl _
    | some type =>
      have known := (answers' path type found').known
      exact .inr ⟨found ▸ settled answers path known, found' ▸ settled answers' path known⟩

/-- A class that has been left was left before or is one of the bodies. -/
theorem Enters.left {script : Script} {first last : State} {bodies : List Body}
    (enters : Enters env room cursor script first last bodies) {path : String} {type : SourceType}
    (found : last.scope.finished.find? path = some type) :
    first.scope.finished.find? path = some type ∨ (path, type) ∈ bodies := by
  have find?_congr {scope scope' : Scope} (same : scope.finished = scope'.finished) :
      scope.finished.find? path = scope'.finished.find? path := congrArg (·.find? path) same
  induction enters with
  | skip => exact .inl found
  | seq _ _ ih ih' =>
    rcases ih' found with earlier | entered
    · exact (ih earlier).imp_right (List.mem_append_left _)
    · exact .inr (List.mem_append_right _ entered)
  | visit _ _ ih | denote _ _ ih | under _ ih => exact ih found
  | unvisited halted =>
    rw [scope_of_unvisited halted] at found
    exact .inl found
  | undenoted halted =>
    rw [scope_of_undenoted halted] at found
    exact .inl found
  | bind => exact .inl ((find?_congr (finished_modifyBlocks _ _)).symm.trans found)
  | block _ ih =>
    have before := ih ((find?_congr (finished_modifyBlocks _ _)).symm.trans found)
    exact before.imp_left ((find?_congr (finished_modifyBlocks _ _)).symm.trans ·)
  | member _ ih =>
    have before := ih ((find?_congr (finished_modifyFrame _ _)).symm.trans found)
    exact before.imp_left ((find?_congr (finished_modifyFrame _ _)).symm.trans ·)
  | @body room cursor naming script first last bodies frame _ _ inner ih =>
    have leaves : Leaves env _ (naming.opened env frame first.scope) last.scope :=
      inner.does.leaves (walker_leaves env room)
    obtain ⟨frame', inside, same, -⟩ := leaves.stays rfl
    have found' : last.scope.popFrame.finished.find? path = some type := found
    rw [finished_popFrame inside same, Bindings.find?_insert] at found'
    split at found'
    · rename_i isPath
      cases found'
      exact .inr (List.mem_cons.mpr (.inl (by rw [isPath])))
    · have unchanged : (naming.opened env frame first.scope).finished = first.scope.finished :=
        finished_modifyFrame _ _
      exact (ih found').imp ((find?_congr unchanged).symm.trans ·) (List.mem_cons_of_mem _)
  | behind quiet _ ih =>
    rw [quiet.scope] at ih
    exact ih found
  | followed _ quiet ih =>
    rw [quiet.scope] at found
    exact ih found

/-- The class path answers for the classes that have been left and for those that a script enters. -/
structure Vouched (env : Env) (room : Nat) (cursor : Cursor) (script : Script) (first last : State) :
    Prop where
  left : AnswersForAll env.classpath first.scope
  entered : ∀ bodies, Enters env room cursor script first last bodies →
    ∀ body ∈ bodies, AnswersFor env.classpath body.1 body.2

namespace Vouched

variable {script : Script} {first last : State}

/-- **Behind a script that is vouched for**, the class path answers for every class that has been left. -/
theorem after (vouched : Vouched env room cursor script first last)
    (does : Does env (walker env room) cursor script first last) : AnswersForAll env.classpath last.scope := by
  obtain ⟨bodies, enters⟩ := does.enters (walker_enters env room)
  intro path type found
  rcases enters.left found with earlier | entered
  · exact vouched.left path type earlier
  · exact vouched.entered bodies enters _ entered

/-- The visit of a node, and those behind it. -/
theorem visitEach {node : Node} {nodes : List Node}
    (vouched : Vouched env room cursor (visitEach (node :: nodes)) first
      ((walker env room).visitAll ((node :: nodes).map cursor.down) first)) :
    let next := (walker env room).visit (cursor.down node) first
    Vouched env room (cursor.down node) .visit first next ∧
      Vouched env room cursor (Walk.visitEach nodes) next
        ((walker env room).visitAll (nodes.map cursor.down) next) := by
  intro next
  have does : Does env (walker env room) cursor (Walk.visitEach nodes) next
      ((walker env room).visitAll (nodes.map cursor.down) next) := Does.visitAll nodes next
  obtain ⟨others, rest⟩ := does.enters (walker_enters env room)
  have here : Vouched env room (cursor.down node) .visit first next := by
    refine ⟨vouched.left, fun bodies enters body listed => ?_⟩
    exact vouched.entered _ (.seq (.under enters) rest) body (List.mem_append_left _ listed)
  refine ⟨here, here.after .visit, fun bodies rest body listed => ?_⟩
  obtain ⟨_, enters⟩ := (walker_enters env room).visit (cursor.down node) first
  exact vouched.entered _ (.seq (.under enters) rest) body (List.mem_append_right _ listed)

/-- What is done at a node that is visited. -/
theorem visit {state : State} (vouched : Vouched env (room + 1) cursor .visit state
      ((walker env (room + 1)).visit cursor state)) (alive : state.tooDeep = none) :
    Vouched env room cursor (visitScript env cursor) state
      ((walker env (room + 1)).visit cursor state) :=
  ⟨vouched.left, fun bodies inner => vouched.entered bodies (.visit alive inner)⟩

end Vouched

/-! ## Names of member classes -/

/-- The classes of the body that is walked have their names in it. -/
def Homed (classes : List String) (scope : Scope) : Prop :=
  ∃ frame frames, scope.frames = frame :: frames ∧ frame.method = none ∧
    ∀ name ∈ classes, frame.nested.find? name = some (frame.path ++ "$" ++ name)

/-- A member that names no class but those of the body. -/
def NamesOnly (env : Env) (classes : List String) (member : Node) : Prop :=
  ∀ room above isLocal name, (isLocal, name) ∈ namedIn env ((leavings env room).visit ⟨member, above⟩) →
    isLocal = false ∧ name ∈ classes

/-- A member that names no class but those of the body leaves them at home. -/
theorem Homed.visit {classes : List String} {state : State} (homed : Homed classes state.scope)
    (names : NamesOnly env classes cursor.node) :
    Homed classes ((walker env room).visit cursor state).scope := by
  obtain ⟨frame, frames, inside, bare, named⟩ := homed
  have leaves := (walker_leaves env room).visit cursor state
  obtain ⟨frame', inside', same, -⟩ := leaves.stays inside
  refine ⟨frame', frames, inside', same.method.trans bare, fun name listed => ?_⟩
  have unchanged := leaves.nested_of_member inside inside' bare fun isLocal left =>
    ⟨(names room cursor.above isLocal name left).1, named name listed⟩
  rw [same.path, unchanged]
  exact named name listed

theorem ofKind_eq_type {kind : String} (declares : declaresType kind = true) :
    Construct.ofKind kind = .type := by
  have listed : kind ∈ ["class_declaration", "interface_declaration", "enum_declaration",
      "record_declaration", "annotation_type_declaration"] := List.contains_iff_mem.mp declares
  simp only [List.mem_cons, List.not_mem_nil, or_false] at listed
  rcases listed with rfl | rfl | rfl | rfl | rfl <;> rfl

/-- A class leaves itself behind, if it has a name. -/
theorem leavings_of_type (declares : declaresType cursor.node.kind = true) :
    (leavings env (room + 1)).visit cursor =
      ((cursor.node.child? "name").map fun name => .entered false (.declared name)).toList := by
  have isKind : Construct.ofKind cursor.kind = .type := ofKind_eq_type declares
  simp only [leavings, visitScript, isKind]
  cases cursor.node.child? "name" <;> rfl

/-- A class names itself. -/
theorem namesOnly_of_type {classes : List String} {member : Node}
    (declares : declaresType member.kind = true)
    (listed : ∀ name ∈ memberClass? env member, name ∈ classes) : NamesOnly env classes member := by
  intro room above isLocal name left
  cases room with
  | zero => cases left
  | succ room =>
    have isClass : memberClass? env member = (member.child? "name").map env.text := if_pos declares
    rw [leavings_of_type declares] at left
    cases found : member.child? "name" with
    | none =>
      simp only [found] at left
      cases left
    | some node =>
      simp only [found, Option.map_some, Option.toList_some] at left
      obtain ⟨rfl, rfl⟩ : isLocal = false ∧ name = env.text node := by simpa [namedIn] using left
      exact ⟨rfl, listed _ (by rw [isClass, found]; rfl)⟩

/-! ## Members that leave the walk level -/

/-- A member that leaves nothing behind in the scope. -/
def Inert (env : Env) (member : Node) : Prop :=
  ∀ room above, (leavings env room).visit ⟨member, above⟩ = []

/-- Where nothing is left behind the scope is what it was. -/
theorem Leaves.eq_of_nil {first last : Scope} (leaves : Leaves env [] first last) : last = first := by
  cases leaves
  rfl

/-- A member that leaves nothing behind leaves the walk level with where it was. -/
theorem level_of_inert {state : State} (inert : Inert env cursor.node)
    (alive : ((walker env room).visit cursor state).tooDeep = none) :
    Level env.classpath state ((walker env room).visit cursor state) := by
  have alive' : state.tooDeep = none := alive_of_visit alive
  have leaves := (walker_leaves env room).visit cursor state
  rw [inert room cursor.above] at leaves
  refine ⟨?_, by rw [alive, alive']⟩
  rw [leaves.eq_of_nil]
  exact .refl _

/-- Behind a declared class the frames are alike, if the class had its name before. -/
theorem Leaves.alike_of_declared {classes : List String} {name : Node} {first last : Scope}
    (leaves : Leaves env [.entered false (.declared name)] first last) (homed : Homed classes first)
    (listed : env.text name ∈ classes) :
    List.Forall₂ Frame.Alike first.frames last.frames ∧ first.outer = last.outer := by
  have refl (frames : List Frame) : List.Forall₂ Frame.Alike frames frames :=
    List.forall₂_same.mpr fun frame _ => .refl frame
  obtain ⟨_, outer, finished⟩ := first
  obtain ⟨frame, frames, rfl, bare, named⟩ := homed
  cases leaves with
  | missed rest =>
    cases rest
    exact ⟨refl _, rfl⟩
  | @entered _ _ _ _ _ after _ rest =>
    cases rest
    have path : (Naming.declared name).pathIn env false ⟨frame :: frames, outer, finished⟩ =
        frame.path ++ "$" ++ env.text name := by
      have isPath : declaredPath env ⟨frame :: frames, outer, finished⟩ (env.text name) =
          frame.classPath false (env.text name) := declaredPath_within rfl false (env.text name)
      rw [Frame.classPath, bare] at isPath
      exact isPath
    rw [path]
    refine ⟨.cons ⟨rfl, .refl _, fun other => ?_, rfl, rfl, rfl⟩ (refl frames), rfl⟩
    rw [Naming.mark, Bindings.find?_insert]
    split
    · rename_i same
      rw [← same, named _ listed]
    · rfl

/-- **A member class leaves the walk level** where the class path answers for all classes: its name is the
one that it has in the body anyway. -/
theorem level_of_type {classes : List String} {state : State}
    (declares : declaresType cursor.node.kind = true)
    (listed : ∀ name ∈ memberClass? env cursor.node, name ∈ classes) (homed : Homed classes state.scope)
    (vouched : Vouched env room cursor .visit state ((walker env room).visit cursor state))
    (alive : ((walker env room).visit cursor state).tooDeep = none) :
    Level env.classpath state ((walker env room).visit cursor state) := by
  have alive' : state.tooDeep = none := alive_of_visit alive
  have leaves := (walker_leaves env room).visit cursor state
  refine ⟨?_, by rw [alive, alive']⟩
  cases room with
  | zero =>
    rw [leaves.eq_of_nil]
    exact .refl _
  | succ room =>
    rw [leavings_of_type declares] at leaves
    have isClass : memberClass? env cursor.node = (cursor.node.child? "name").map env.text := if_pos declares
    cases found : cursor.node.child? "name" with
    | none =>
      simp only [found, Option.map_none, Option.toList_none] at leaves
      rw [leaves.eq_of_nil]
      exact .refl _
    | some name =>
      simp only [found, Option.map_some, Option.toList_some] at leaves
      have isListed : env.text name ∈ classes := listed _ (by rw [isClass, found]; rfl)
      obtain ⟨frames, outer⟩ := leaves.alike_of_declared homed isListed
      exact vouched.left.same (vouched.after .visit) frames outer

end Places

end SymbolIndex.Walk
