import SymbolIndex.Proofs.ClassBodies
import SymbolIndex.Proofs.ClassPaths
import SymbolIndex.Proofs.Order.Classless

/-!
# Anonymous classes are numbered in document order

An anonymous class has the path of the class around it, a dollar and a number. The number comes from a
counter in the frame of the class around, which is advanced wherever a body without a name is entered: for a
constant of an enum, and for an object that is created in an expression, visited or followed. `Tracks` lists
the class bodies that a walk enters, each with its node, its path and the anonymous classes directly inside.

**The law** (`anonymous_numbered`): a walk that is not given up enters the class bodies of a tree in document
order, each of them once, and the anonymous classes of a body with the path `P` are entered under the paths
`P$1`, `P$2` and so on, in the order in which they stand. What is entered is compared with what the tree has
(`Tracks.covers`), the numbers with the counter (`Tracks.counted`); the two know nothing of each other.

The declarator of a `spread_parameter` may have a value, for all the grammar says, and no walk comes to it: an
anonymous class in there is never entered, and has no number (`class_behind_spread_missed`).
-/

namespace SymbolIndex.Walk

open SymbolIndex.Tree (Node Cursor)

/-! ## The class bodies that a walk enters -/

/-- A class body that is entered: its node, its path, and the anonymous classes that are entered directly
inside, each with its body and path, in this order. -/
structure Entry where
  body : Node
  path : String
  inside : List (Node × String)

/-- The body and the path of a class. -/
def Entry.place (entry : Entry) : Node × String :=
  (entry.body, entry.path)

/-- The class bodies that a script enters, in the order in which it does, behind the anonymous ones among them
that are in no other of them. -/
inductive Tracks (env : Env) :
    Nat → Cursor → Script → State → State → List (Node × String) → List Entry → Prop
  | skip {room : Nat} {cursor : Cursor} {state : State} : Tracks env room cursor .skip state state [] []
  | seq {room : Nat} {cursor : Cursor} {script script' : Script} {first middle last : State}
      {own own' : List (Node × String)} {entries entries' : List Entry}
      (tracks : Tracks env room cursor script first middle own entries)
      (rest : Tracks env room cursor script' middle last own' entries') :
      Tracks env room cursor (.seq script script') first last (own ++ own') (entries ++ entries')
  | visit {room : Nat} {cursor : Cursor} {state : State} {own : List (Node × String)} {entries : List Entry}
      (alive : state.tooDeep = none)
      (inner : Tracks env room cursor (visitScript env cursor) state
        ((walker env (room + 1)).visit cursor state) own entries) :
      Tracks env (room + 1) cursor .visit state ((walker env (room + 1)).visit cursor state) own entries
  | denote {room : Nat} {cursor : Cursor} {recording : Bool} {state : State} {own : List (Node × String)}
      {entries : List Entry} (alive : state.tooDeep = none)
      (inner : Tracks env room cursor (denoteScript cursor recording) state
        ((walker env (room + 1)).denote cursor recording state).2 own entries) :
      Tracks env (room + 1) cursor (.denote recording) state
        ((walker env (room + 1)).denote cursor recording state).2 own entries
  | unvisited {room : Nat} {cursor : Cursor} {state : State} (halted : room = 0 ∨ state.tooDeep ≠ none) :
      Tracks env room cursor .visit state ((walker env room).visit cursor state) [] []
  | undenoted {room : Nat} {cursor : Cursor} {recording : Bool} {state : State}
      (halted : room = 0 ∨ state.tooDeep ≠ none) :
      Tracks env room cursor (.denote recording) state
        ((walker env room).denote cursor recording state).2 [] []
  | bind {room : Nat} {cursor : Cursor} {state : State} {name : Node} (type : Option JavaType) :
      Tracks env room cursor (.bind name) state (state.declare env name type) [] []
  | under {room : Nat} {cursor : Cursor} {child : Node} {script : Script} {first last : State}
      {own : List (Node × String)} {entries : List Entry}
      (inner : Tracks env room (cursor.down child) script first last own entries) :
      Tracks env room cursor (.under child script) first last own entries
  | block {room : Nat} {cursor : Cursor} {script : Script} {first last : State}
      {own : List (Node × String)} {entries : List Entry}
      (inner : Tracks env room cursor script (first.withScope Scope.pushBlock) last own entries) :
      Tracks env room cursor (.block script) first (last.withScope Scope.popBlock) own entries
  | member {room : Nat} {cursor : Cursor} {script : Script} {first last : State}
      {own : List (Node × String)} {entries : List Entry} {method : String}
      (inner : Tracks env room cursor script (first.withScope (·.setMethod (some method))) last own entries) :
      Tracks env room cursor (.member script) first
        (last.withScope (·.setMethod first.scope.method?)) own entries
  | body {room : Nat} {cursor : Cursor} {naming : Naming} {script : Script} {first last : State}
      {own : List (Node × String)} {entries : List Entry} {frame : Frame}
      (named : frame.path = naming.path env first.scope) (bare : frame.Bare)
      (inner : Tracks env room cursor script (first.withScope (naming.opened env frame)) last own entries) :
      Tracks env room cursor (.body naming script) first (last.withScope Scope.popFrame)
        (if naming.isAnonymous then [(script.home cursor.node, frame.path)] else [])
        (⟨script.home cursor.node, frame.path, own⟩ :: entries)
  | behind {room : Nat} {cursor : Cursor} {script : Script} {first middle last : State}
      {own : List (Node × String)} {entries : List Entry} (quiet : Quiet first middle)
      (tracks : Tracks env room cursor script middle last own entries) :
      Tracks env room cursor script first last own entries
  | followed {room : Nat} {cursor : Cursor} {script : Script} {first middle last : State}
      {own : List (Node × String)} {entries : List Entry}
      (tracks : Tracks env room cursor script first middle own entries) (quiet : Quiet middle last) :
      Tracks env room cursor script first last own entries

variable {env : Env} {room : Nat} {cursor : Cursor} {script : Script} {first last : State}
  {own : List (Node × String)} {entries : List Entry}

/-- Whatever bodies a script enters can be tracked. -/
theorem Enters.tracks {bodies : List Body} (enters : Enters env room cursor script first last bodies) :
    ∃ own entries, Tracks env room cursor script first last own entries := by
  induction enters with
  | skip => exact ⟨_, _, .skip⟩
  | seq _ _ ih ih' =>
    obtain ⟨_, _, tracks⟩ := ih
    obtain ⟨_, _, rest⟩ := ih'
    exact ⟨_, _, .seq tracks rest⟩
  | visit alive _ ih =>
    obtain ⟨_, _, inner⟩ := ih
    exact ⟨_, _, .visit alive inner⟩
  | denote alive _ ih =>
    obtain ⟨_, _, inner⟩ := ih
    exact ⟨_, _, .denote alive inner⟩
  | unvisited halted => exact ⟨_, _, .unvisited halted⟩
  | undenoted halted => exact ⟨_, _, .undenoted halted⟩
  | bind type => exact ⟨_, _, .bind type⟩
  | under _ ih =>
    obtain ⟨_, _, inner⟩ := ih
    exact ⟨_, _, .under inner⟩
  | block _ ih =>
    obtain ⟨_, _, inner⟩ := ih
    exact ⟨_, _, .block inner⟩
  | member _ ih =>
    obtain ⟨_, _, inner⟩ := ih
    exact ⟨_, _, .member inner⟩
  | body named bare _ ih =>
    obtain ⟨_, _, inner⟩ := ih
    exact ⟨_, _, .body named bare inner⟩
  | behind quiet _ ih =>
    obtain ⟨_, _, tracks⟩ := ih
    exact ⟨_, _, .behind quiet tracks⟩
  | followed _ quiet ih =>
    obtain ⟨_, _, tracks⟩ := ih
    exact ⟨_, _, .followed tracks quiet⟩

namespace Tracks

/-- What tracks bodies is what the script does. -/
theorem does (tracks : Tracks env room cursor script first last own entries) :
    Does env (walker env room) cursor script first last := by
  induction tracks with
  | skip => exact .skip
  | seq _ _ ih ih' => exact .seq ih ih'
  | visit | unvisited => exact .visit
  | denote | undenoted => exact .denote _
  | bind type => exact .bind type
  | under _ ih => exact .under ih
  | block _ ih => exact .block ih
  | member _ ih => exact .member ih
  | body named bare _ ih => exact .body named bare ih
  | behind quiet _ ih => exact .behind quiet ih
  | followed _ quiet ih => exact .followed ih quiet

/-- What tracks bodies leaves what the script leaves. -/
theorem leaves (tracks : Tracks env room cursor script first last own entries) :
    Leaves env (script.leavings (leavings env room) cursor) first.scope last.scope :=
  tracks.does.leaves (walker_leaves env room)

/-- The anonymous classes that are listed are among the classes that are entered. -/
theorem listed (tracks : Tracks env room cursor script first last own entries) :
    own ⊆ entries.map Entry.place ∧ ∀ entry ∈ entries, entry.inside ⊆ entries.map Entry.place := by
  induction tracks with
  | skip | unvisited | undenoted | bind => exact ⟨List.nil_subset _, fun _ absent => nomatch absent⟩
  | seq _ _ ih ih' =>
    rw [List.map_append]
    refine ⟨List.append_subset.mpr ⟨?_, ?_⟩, fun entry member => ?_⟩
    · exact List.Subset.trans ih.1 (List.subset_append_left _ _)
    · exact List.Subset.trans ih'.1 (List.subset_append_right _ _)
    · rcases List.mem_append.mp member with member | member
      · exact List.Subset.trans (ih.2 entry member) (List.subset_append_left _ _)
      · exact List.Subset.trans (ih'.2 entry member) (List.subset_append_right _ _)
  | visit _ _ ih | denote _ _ ih | under _ ih | block _ ih | member _ ih | behind _ _ ih | followed _ _ ih =>
    exact ih
  | @body _ cursor naming script _ _ _ _ frame _ _ _ ih =>
    rw [List.map_cons]
    constructor
    · cases naming with
      | declared name => exact List.nil_subset _
      | anonymous => exact List.cons_subset.mpr ⟨List.mem_cons_self, List.nil_subset _⟩
    · intro entry member
      rcases List.mem_cons.mp member with rfl | member
      · exact List.subset_cons_of_subset _ ih.1
      · exact List.subset_cons_of_subset _ (ih.2 entry member)

end Tracks

/-! ## Numbers -/

/-- The paths of a number of anonymous classes of one class, behind some that it had before. -/
def numbered (path : String) (before count : Nat) : List String :=
  (List.range' (before + 1) count).map fun n => path ++ "$" ++ toString n

/-- Numbers that go on behind others are those of both together. -/
theorem numbered_append (path : String) (before count count' : Nat) :
    numbered path before count ++ numbered path (before + count) count' =
      numbered path before (count + count') := by
  rw [numbered, numbered, numbered, ← List.map_append, Nat.add_right_comm, List.range'_append_1]

/-- In a class body the anonymous classes that are entered are counted, and have the next numbers. -/
structure Counted (own : List (Node × String)) (first last : Scope) : Prop where
  count : first.place.isSome → last.count = first.count + own.length
  paths : ∀ outer isLocal, first.place = some (outer, isLocal) →
    own.map Prod.snd = numbered outer first.count own.length

namespace Counted

variable {own own' : List (Node × String)} {first middle last : Scope}

/-- Where the count stays the same no body is counted. -/
theorem none (same : last.count = first.count) : Counted [] first last :=
  ⟨fun _ => same, fun _ _ _ => rfl⟩

/-- **Bodies are counted on**: what comes second takes the numbers behind the first. -/
theorem append (counted : Counted own first middle) (placed : middle.place = first.place)
    (counted' : Counted own' middle last) : Counted (own ++ own') first last := by
  constructor
  case count =>
    intro isPlace
    rw [counted'.count (placed ▸ isPlace), counted.count isPlace, List.length_append, Nat.add_assoc]
  case paths =>
    intro outer isLocal isPlace
    have isSome : first.place.isSome := by rw [isPlace]; rfl
    rw [List.map_append, counted.paths outer isLocal isPlace,
      counted'.paths outer isLocal (placed.trans isPlace), counted.count isSome, numbered_append,
      List.length_append]

/-- Scopes of the same class. -/
theorem congr {first' last' : Scope} (counted : Counted own first last)
    (placed : first'.place.map Prod.fst = first.place.map Prod.fst) (same : first'.count = first.count)
    (same' : last'.count = last.count) : Counted own first' last' := by
  constructor
  case count =>
    intro isPlace
    rw [same, same']
    refine counted.count ?_
    rwa [← Option.isSome_map (f := Prod.fst), placed, Option.isSome_map] at isPlace
  case paths =>
    intro outer isLocal isPlace
    rw [isPlace] at placed
    obtain ⟨⟨_, isLocal'⟩, isPlace', rfl⟩ := Option.map_eq_some_iff.mp placed.symm
    rw [same]
    exact counted.paths _ isLocal' isPlace'

end Counted

theorem place_setMethod_path (scope : Scope) (method : Option String) :
    (scope.setMethod method).place.map Prod.fst = scope.place.map Prod.fst := by
  obtain ⟨frames, outer, finished⟩ := scope
  cases frames <;> rfl

/-- A class is counted when it is entered, and has the next number. -/
theorem Counted.entered {naming : Naming} {frame : Frame} {scope : Scope} (home : Node)
    (named : frame.path = naming.path env scope) :
    Counted (if naming.isAnonymous then [(home, frame.path)] else []) scope
      (naming.note env frame.path scope) := by
  obtain ⟨frames, outer, finished⟩ := scope
  cases naming with
  | declared name => exact .none (by cases frames <;> rfl)
  | anonymous =>
    cases frames with
    | nil => exact ⟨fun isPlace => (nomatch isPlace), fun _ _ isPlace => (nomatch isPlace)⟩
    | cons around frames =>
      refine ⟨fun _ => rfl, fun path isLocal isPlace => ?_⟩
      cases isPlace
      show [frame.path] = _
      rw [named]
      rfl

/-- Behind a class body the class around is as it was when the body was entered. -/
theorem count_popFrame {left : List Leaving} {naming : Naming} {frame : Frame} {first last : Scope}
    (leaves : Leaves env left (naming.opened env frame first) last) :
    last.popFrame.count = (naming.note env frame.path first).count := by
  obtain ⟨frame', same, -⟩ := leaves.stays rfl
  obtain ⟨_, outer, finished⟩ := last
  cases same
  rfl

/-- The anonymous classes directly in a class body are numbered from one. -/
def Entry.Numbered (entry : Entry) : Prop :=
  entry.inside.map Prod.snd = numbered entry.path 0 entry.inside.length

/-- **Anonymous classes are counted**, by induction on what is entered: with the next numbers in the class
body around, and from one in the bodies that are entered. -/
theorem Tracks.counted (tracks : Tracks env room cursor script first last own entries) :
    Counted own first.scope last.scope ∧ ∀ entry ∈ entries, entry.Numbered := by
  induction tracks with
  | skip => exact ⟨.none rfl, fun _ absent => nomatch absent⟩
  | seq tracks _ ih ih' =>
    exact ⟨ih.1.append tracks.leaves.place.1 ih'.1, List.forall_mem_append.mpr ⟨ih.2, ih'.2⟩⟩
  | visit _ _ ih | denote _ _ ih | under _ ih => exact ih
  | unvisited halted => exact ⟨.none (by rw [scope_of_unvisited halted]), fun _ absent => nomatch absent⟩
  | undenoted halted => exact ⟨.none (by rw [scope_of_undenoted halted]), fun _ absent => nomatch absent⟩
  | bind =>
    exact ⟨.none (Scope.count_congr (Scope.standing_modifyBlocks _ _ false)), fun _ absent => nomatch absent⟩
  | block _ ih =>
    refine ⟨ih.1.congr ?_ ?_ ?_, ih.2⟩
    · exact congrArg _ (Scope.place_congr (Scope.standing_modifyBlocks _ _ false)).symm
    · exact (Scope.count_congr (Scope.standing_modifyBlocks _ _ false)).symm
    · exact Scope.count_congr (Scope.standing_modifyBlocks _ _ false)
  | member _ ih =>
    exact ⟨ih.1.congr (place_setMethod_path _ _).symm (count_setMethod _ _).symm (count_setMethod _ _), ih.2⟩
  | @body _ cursor naming script first _ own _ frame named bare inner ih =>
    obtain ⟨counted, numbered⟩ := ih
    refine ⟨(Counted.entered (script.home cursor.node) named).congr rfl rfl (count_popFrame inner.leaves), ?_⟩
    refine List.forall_mem_cons.mpr ⟨?_, numbered⟩
    have fresh : (naming.opened env frame first.scope).count = 0 := bare.anonymous
    have paths := counted.paths frame.path false (place_opened naming bare first.scope)
    rw [show (first.withScope (naming.opened env frame)).scope.count = 0 from fresh] at paths
    exact paths
  | behind quiet _ ih =>
    rw [quiet.scope] at ih
    exact ih
  | followed _ quiet ih =>
    rw [quiet.scope]
    exact ih

/-- A node that is not visited means that the walk has been given up. -/
theorem not_alive_of_unvisited {state : State} (halted : room = 0 ∨ state.tooDeep ≠ none)
    (alive : ((walker env room).visit cursor state).tooDeep = none) : False := by
  cases room with
  | zero => exact giveUpAt_tooDeep env cursor.node state alive
  | succ room =>
    have given := halted.resolve_left (Nat.succ_ne_zero room)
    obtain ⟨place, isSome⟩ := Option.ne_none_iff_exists'.mp given
    simp only [walker, isSome] at alive
    exact given (isSome ▸ alive)

/-- A node that is not denoted means that the walk has been given up, too. -/
theorem not_alive_of_undenoted {state : State} {recording : Bool}
    (halted : room = 0 ∨ state.tooDeep ≠ none)
    (alive : ((walker env room).denote cursor recording state).2.tooDeep = none) : False := by
  cases room with
  | zero => exact giveUpAt_tooDeep env cursor.node state alive
  | succ room =>
    have given := halted.resolve_left (Nat.succ_ne_zero room)
    obtain ⟨place, isSome⟩ := Option.ne_none_iff_exists'.mp given
    simp only [walker, isSome] at alive
    exact given (isSome ▸ alive)

/-! ## Bodies -/

/-- A script in which the body of every class that is entered is visited word by word. -/
def Script.Bodied : Script → Prop
  | .skip | .visit | .denote _ | .bind _ => True
  | .seq first second => first.Bodied ∧ second.Bodied
  | .under _ inner | .block inner | .member inner => inner.Bodied
  | .body _ inner => ∃ body, body.kind ∈ bodyKinds ∧ inner = .under body (visitEach body.named)

/-- A script without bodies has none missing. -/
theorem Script.bodied_of_bodiless (bodiless : script.bodiless) : script.Bodied := by
  induction script with
  | skip | visit | denote | bind => trivial
  | seq first second ih ih' =>
    rw [Script.bodiless, Bool.and_eq_true] at bodiless
    exact ⟨ih bodiless.1, ih' bodiless.2⟩
  | under _ _ ih | block _ ih | member _ ih => exact ih bodiless
  | body => cases bodiless

section Constructs

variable {node : Node}

/-- The body of a creation is there when the creation enters one. -/
theorem creationScript_bodied : (creationScript node).Bodied := by
  refine ⟨Script.bodied_of_bodiless (Script.bodiless_visitEach _), ?_⟩
  cases found : creationBody? node with
  | none => trivial
  | some body => exact ⟨body, by rw [(mem_of_creationBody? found).2]; decide, rfl⟩

variable (walkable : Walkable node)

include walkable

/-- A class comes with what declares it, or with the creation of an object. -/
theorem kind_of_bringsClass (brings : bringsClass node = true) :
    node.kind ∈ ownerKinds := by
  simp only [bringsClass, Bool.or_eq_true, Bool.and_eq_true, beq_iff_eq] at brings
  rcases brings with (declares | created) | constant
  · have kinds : ∀ kind ∈ ["class_declaration", "interface_declaration", "enum_declaration",
        "record_declaration", "annotation_type_declaration"], kind ∈ memberKinds := by decide
    exact List.mem_append_left _ (kinds _ (List.contains_iff_mem.mp declares))
  · obtain ⟨body, isBody⟩ := Option.isSome_iff_exists.mp created
    obtain ⟨member, isKind⟩ := mem_of_creationBody? isBody
    rcases walkable.housed.here.owned body member (by rw [isKind]; decide) with ⟨declares, _⟩ | ⟨creates, _⟩
    · exact List.mem_append_left _ declares
    · exact List.mem_append_right _ (List.mem_singleton.mpr creates)
  · rw [constant.1]
    decide

theorem constantScript_bodied (isMember : node.kind ∈ memberKinds) : (constantScript node).Bodied := by
  unfold constantScript
  split
  · trivial
  · refine ⟨Script.bodied_of_bodiless (Script.bodiless_optional (fun _ => rfl) _), ?_⟩
    cases found : node.child? "body" with
    | none => trivial
    | some body =>
      exact ⟨body, walkable.grammatical.here.bodies isMember body (Node.mem_childrenIn_of_child? found), rfl⟩

/-- A class declaration has a body. -/
theorem type_bodied (declares : declaresType node.kind = true) (isMember : node.kind ∈ memberKinds) :
    (Script.optional (fun name => bodyScript (.declared name) (node.child? "body"))
      (node.child? "name")).Bodied := by
  obtain ⟨body, found⟩ := Option.isSome_iff_exists.mp (walkable.composedHere.bodied declares)
  rw [found]
  cases node.child? "name" with
  | none => trivial
  | some name =>
    exact ⟨body, walkable.grammatical.here.bodies isMember body (Node.mem_childrenIn_of_child? found), rfl⟩

end Constructs

/-- **In a tree that can be walked** a visit enters no class without a body. -/
theorem visitScript_bodied (walkable : Walkable cursor.node) : (visitScript env cursor).Bodied := by
  cases brings : bringsClass cursor.node with
  | false => exact Script.bodied_of_bodiless (visitScript_bodiless brings)
  | true =>
    have rules : ∀ kind ∈ ownerKinds,
        Construct.ofKind kind = .creation ∨ Construct.ofKind kind = .type ∧ declaresType kind = true ∧
          kind ∈ memberKinds ∨ Construct.ofKind kind = .enumConstant ∧ kind ∈ memberKinds := by decide
    unfold visitScript
    rcases rules _ (kind_of_bringsClass walkable brings) with
      creates | ⟨isType, declares, isMember⟩ | ⟨isConstant, isMember⟩
    · rw [show Construct.ofKind cursor.kind = .creation from creates]
      exact creationScript_bodied
    · rw [show Construct.ofKind cursor.kind = .type from isType]
      exact type_bodied walkable declares isMember
    · rw [show Construct.ofKind cursor.kind = .enumConstant from isConstant]
      exact constantScript_bodied walkable isMember

/-- In a tree that can be walked, what a node denotes is found without entering a class that has
no body. -/
theorem denoteScript_bodied (walkable : Walkable cursor.node) (recording : Bool) :
    (denoteScript cursor recording).Bodied := by
  cases brings : bringsClass cursor.node with
  | false => exact Script.bodied_of_bodiless (denoteScript_bodiless brings recording)
  | true =>
    have rules : ∀ kind ∈ ownerKinds,
        ExprForm.ofKind kind = .creation ∨ ExprForm.ofKind kind = .other := by decide
    unfold denoteScript
    rcases rules _ (kind_of_bringsClass walkable brings) with creates | isOther
    · rw [show ExprForm.ofKind cursor.kind = .creation from creates]
      cases recording with
      | false => trivial
      | true => exact creationScript_bodied
    · rw [show ExprForm.ofKind cursor.kind = .other from isOther]
      cases recording <;> trivial

/-! ## What is entered is what is there -/

namespace Tracks

/-- A walk that is not given up was not given up before. -/
theorem alive (tracks : Tracks env room cursor script first last own entries)
    (alive : last.tooDeep = none) : first.tooDeep = none := by
  induction tracks with
  | skip | bind => exact alive
  | seq _ _ ih ih' => exact ih (ih' alive)
  | visit alive' | denote alive' => exact alive'
  | unvisited halted => exact (not_alive_of_unvisited halted alive).elim
  | undenoted halted => exact (not_alive_of_undenoted halted alive).elim
  | under _ ih | block _ ih | member _ ih => exact ih alive
  | body _ _ _ ih => exact ih alive
  | behind quiet _ ih => exact quiet.tooDeep ▸ ih alive
  | followed _ quiet ih => exact ih (quiet.tooDeep ▸ alive)

/-- **The bodies that are entered are those of the tree**, by induction on what is entered: a script enters
what it finds, and below every node it finds what there is. -/
theorem covers (tracks : Tracks env room cursor script first last own entries)
    (walkable : Walkable cursor.node) (within : script.Within True cursor.node) (bodied : script.Bodied)
    (alive : last.tooDeep = none) :
    own.map Prod.fst = script.finds ifAnonymous cursor.node ∧
      entries.map Entry.body = script.finds andInside cursor.node ∧
      ∀ entry ∈ entries, entry.inside.map Prod.fst = anonymousIn entry.body := by
  induction tracks with
  | skip | bind => exact ⟨rfl, rfl, fun _ absent => nomatch absent⟩
  | unvisited halted => exact (not_alive_of_unvisited halted alive).elim
  | undenoted halted => exact (not_alive_of_undenoted halted alive).elim
  | seq _ rest ih ih' =>
    obtain ⟨own, bodies, inside⟩ := ih walkable within.1 bodied.1 (rest.alive alive)
    obtain ⟨own', bodies', inside'⟩ := ih' walkable within.2 bodied.2 alive
    rw [List.map_append, List.map_append, own, own', bodies, bodies']
    exact ⟨rfl, rfl, List.forall_mem_append.mpr ⟨inside, inside'⟩⟩
  | @visit room cursor _ _ _ _ inner ih =>
    obtain ⟨own, bodies, inside⟩ := ih walkable (visitScript_withinItself env cursor)
      (visitScript_bodied walkable) alive
    rw [own, bodies, visitScript_finds walkable, visitScript_finds walkable]
    exact ⟨rfl, rfl, inside⟩
  | @denote room cursor recording _ _ _ _ inner ih =>
    obtain ⟨own, bodies, inside⟩ := ih walkable (denoteScript_withinItself cursor recording)
      (denoteScript_bodied walkable recording) alive
    rw [own, bodies, denoteScript_finds walkable, denoteScript_finds walkable]
    exact ⟨rfl, rfl, inside⟩
  | under _ ih => exact ih (walkable.below within.1) within.2 bodied alive
  | block _ ih | member _ ih => exact ih walkable within bodied alive
  | @body _ cursor naming _ _ _ own _ _ _ _ inner ih =>
    obtain ⟨body, isBody, rfl⟩ := bodied
    have plain : (Script.under body (visitEach body.named)).Bodied :=
      Script.bodied_of_bodiless (Script.bodiless_visitEach body.named)
    obtain ⟨isOwn, bodies, inside⟩ := ih walkable within plain alive
    have kinds : ∀ kind ∈ bodyKinds, kind ∉ ownerKinds := by decide
    have ofBody : own.map Prod.fst = anonymousIn body := by
      rw [isOwn, anonymousIn, (walkable.below within.1).readIn_named ifAnonymous (kinds _ isBody)]
      exact finds_visitEach body.named
    refine ⟨?_, ?_, List.forall_mem_cons.mpr ⟨ofBody, inside⟩⟩
    · cases naming <;> rfl
    · rw [List.map_cons, bodies]
      rfl
  | behind _ _ ih => exact ih walkable within bodied alive
  | followed _ quiet ih => exact ih walkable within bodied (quiet.tooDeep ▸ alive)

end Tracks

/-! ## Classes that have been left -/

/-- A class that is known as finished stays so. -/
theorem Leaves.keeps {left : List Leaving} {first last : Scope} (leaves : Leaves env left first last)
    {path : String} (known : first.Finished path) : last.Finished path := by
  induction leaves with
  | nil => exact known
  | missed _ ih => exact ih known
  | bound type _ ih =>
    refine ih ?_
    rw [Scope.Finished, Scope.declare, finished_modifyBlocks]
    exact known
  | entered grows _ ih => exact ih (grows.kept path known)

/-- Every class that is entered has been left in the end, and is known by its path. -/
theorem Tracks.finished (tracks : Tracks env room cursor script first last own entries) :
    ∀ entry ∈ entries, last.scope.Finished entry.path := by
  induction tracks with
  | skip | unvisited | undenoted | bind => exact fun _ absent => nomatch absent
  | seq _ rest ih ih' =>
    exact List.forall_mem_append.mpr ⟨fun entry member => rest.leaves.keeps (ih entry member), ih'⟩
  | visit _ _ ih | denote _ _ ih | under _ ih | behind _ _ ih => exact ih
  | @block _ _ _ _ last _ _ _ ih =>
    have same : last.scope.popBlock.finished = last.scope.finished := finished_modifyBlocks _ _
    intro entry member
    show (last.scope.popBlock.finished.find? entry.path).isSome
    rw [same]
    exact ih entry member
  | @member _ _ _ first last _ _ _ _ ih =>
    have same : (last.scope.setMethod first.scope.method?).finished = last.scope.finished :=
      finished_modifyFrame _ _
    intro entry member
    show ((last.scope.setMethod first.scope.method?).finished.find? entry.path).isSome
    rw [same]
    exact ih entry member
  | @body _ _ naming _ first last _ _ frame _ _ inner ih =>
    obtain ⟨frame', inside, same, -⟩ := inner.leaves.stays rfl
    have finished : last.scope.popFrame.finished = last.scope.finished.insert frame.path frame'.members := by
      rw [← same.path, Scope.popFrame, inside]
    have known (path : String) (isKnown : frame.path = path ∨ last.scope.Finished path) :
        last.scope.popFrame.Finished path := by
      rw [Scope.Finished, finished, Bindings.find?_insert]
      split
      · rfl
      · next differs => exact isKnown.resolve_left differs
    exact List.forall_mem_cons.mpr ⟨known _ (.inl rfl), fun entry member => known _ (.inr (ih entry member))⟩
  | followed _ quiet ih =>
    rw [quiet.scope]
    exact ih

/-! ## Whole walks -/

/-- **Anonymous classes are numbered in document order.** Of every tree that can be walked, whatever the class
path knows, a walk that is not given up enters the class bodies in document order. The anonymous classes whose
innermost class body is entered under a path are entered under this path, a dollar and the numbers from one,
in the order in which they stand. -/
theorem anonymous_numbered (env : Env) (root : Node) (walkable : Walkable root)
    (alive : (walk env root).tooDeep = none) :
    (∃ own entries, Tracks env Tree.maxNesting (.root root) .visit {} (walk env root) own entries) ∧
      ∀ own entries, Tracks env Tree.maxNesting (.root root) .visit {} (walk env root) own entries →
        entries.map Entry.body = classBodies root ∧
          ∀ entry ∈ entries, entry.inside.map Prod.fst = anonymousIn entry.body ∧
            entry.inside.map Prod.snd = numbered entry.path 0 entry.inside.length ∧
            entry.inside ⊆ entries.map Entry.place ∧
            (anonymousIn entry.body).Pairwise fun body next => body.stop ≤ next.start := by
  constructor
  case left =>
    obtain ⟨bodies, enters⟩ := (walker_enters env Tree.maxNesting).visit (.root root) {}
    exact enters.tracks
  case right =>
    intro own entries tracks
    obtain ⟨-, bodies, inside⟩ := tracks.covers walkable trivial trivial alive
    refine ⟨bodies, fun entry member => ?_⟩
    have isBody : entry.body ∈ classBodies root := by
      rw [show classBodies root = entries.map Entry.body from bodies.symm]
      exact List.mem_map_of_mem member
    exact ⟨inside entry member, tracks.counted.2 entry member, tracks.listed.2 entry member,
      (anonymousIn_spread (laid_of_classBodies walkable.laid isBody)).1⟩

/-- The tree of an enum with anonymous classes: one in the arguments of a constant, one behind it, and one
with another inside. -/
def constantsTree : Node :=
  .word "program" none 0 55 [
    .word "enum_declaration" none 0 55 [
      .token "enum" 0 4,
      .word "identifier" (some "name") 5 6 [],
      .word "enum_body" (some "body") 7 55 [
        .token "\x7b" 7 8,
        .word "enum_constant" none 9 27 [
          .word "identifier" (some "name") 9 10 [],
          .word "argument_list" (some "arguments") 10 23 [
            .token "(" 10 11,
            .word "object_creation_expression" none 11 22 [
              .token "new" 11 14,
              .word "type_identifier" (some "type") 15 16 [],
              .word "argument_list" (some "arguments") 16 18 [
                .token "(" 16 17,
                .token ")" 17 18],
              .word "class_body" none 19 22 [
                .token "\x7b" 19 20,
                .token "\x7d" 21 22]],
            .token ")" 22 23],
          .word "class_body" (some "body") 24 27 [
            .token "\x7b" 24 25,
            .token "\x7d" 26 27]],
        .token "," 27 28,
        .word "enum_constant" none 29 53 [
          .word "identifier" (some "name") 29 30 [],
          .word "class_body" (some "body") 31 53 [
            .token "\x7b" 31 32,
            .word "field_declaration" none 33 51 [
              .word "type_identifier" (some "type") 33 34 [],
              .word "variable_declarator" (some "declarator") 35 50 [
                .word "identifier" (some "name") 35 36 [],
                .token "=" 37 38,
                .word "object_creation_expression" (some "value") 39 50 [
                  .token "new" 39 42,
                  .word "type_identifier" (some "type") 43 44 [],
                  .word "argument_list" (some "arguments") 44 46 [
                    .token "(" 44 45,
                    .token ")" 45 46],
                  .word "class_body" none 47 50 [
                    .token "\x7b" 47 48,
                    .token "\x7d" 49 50]]],
              .token ";" 50 51],
            .token "\x7d" 52 53]],
        .token "\x7d" 54 55]]]

def constantsEnv : Env :=
  .ofTree (.ofText "enum E \x7b P(new T() \x7b \x7d) \x7b \x7d, Q \x7b T t = new T() \x7b \x7d; \x7d \x7d")
    constantsTree .empty

/-- The three anonymous classes directly in the enum have the numbers from one to three, although the second
constant has one of its own inside. -/
theorem anonymous_numbered_constants :
    ∃ own entries, Tracks constantsEnv Tree.maxNesting (.root constantsTree) .visit {}
        (walk constantsEnv constantsTree) own entries ∧
      entries.map (·.body.start) = [7, 19, 24, 31, 47] ∧
      ∃ entry ∈ entries, entry.body.start = 7 ∧
        entry.inside.map (·.1.start) = [19, 24, 31] ∧
        entry.inside.map Prod.snd = [entry.path ++ "$1", entry.path ++ "$2", entry.path ++ "$3"] := by
  have walkable : Walkable constantsTree :=
    ⟨⟨by decide +kernel, by decide +kernel, by decide +kernel, by decide +kernel, by decide +kernel⟩,
      by decide +kernel⟩
  obtain ⟨⟨own, entries, tracks⟩, law⟩ :=
    anonymous_numbered constantsEnv constantsTree walkable (by decide +kernel)
  obtain ⟨bodies, each⟩ := law own entries tracks
  obtain ⟨body, isBody, isFirst, anonymous⟩ : ∃ body ∈ classBodies constantsTree, body.start = 7 ∧
      (anonymousIn body).map (·.start) = [19, 24, 31] := by decide +kernel
  rw [← bodies] at isBody
  obtain ⟨entry, member, rfl⟩ := List.mem_map.mp isBody
  obtain ⟨inside, paths, -⟩ := each entry member
  have starts : entry.inside.map (·.1.start) = [19, 24, 31] := by
    rw [← anonymous, ← inside, List.map_map]
    rfl
  have isLength : entry.inside.length = 3 := by simpa using congrArg List.length starts
  refine ⟨own, entries, tracks, ?_, entry, member, isFirst, starts, ?_⟩
  · have all : (classBodies constantsTree).map (·.start) = [7, 19, 24, 31, 47] := by decide +kernel
    rw [← all, ← bodies, List.map_map]
    rfl
  · rw [paths, isLength]
    simp only [numbered, String.append_assoc]
    rfl

/-- The tree of `class A { void m(T... a = new X() { int f; }) { } }`. -/
def spreadClass : Node :=
  .word "program" none 0 51 [
    .word "class_declaration" none 0 51 [
      .token "class" 0 5,
      .word "identifier" (some "name") 6 7 [],
      .word "class_body" (some "body") 8 51 [
        .token "\x7b" 8 9,
        .word "method_declaration" none 10 49 [
          .word "void_type" (some "type") 10 14 [],
          .word "identifier" (some "name") 15 16 [],
          .word "formal_parameters" (some "parameters") 16 45 [
            .token "(" 16 17,
            .word "spread_parameter" none 17 44 [
              .word "type_identifier" none 17 18 [],
              .token "..." 18 21,
              .word "variable_declarator" none 22 44 [
                .word "identifier" (some "name") 22 23 [],
                .token "=" 24 25,
                .word "object_creation_expression" (some "value") 26 44 [
                  .token "new" 26 29,
                  .word "type_identifier" (some "type") 30 31 [],
                  .word "argument_list" (some "arguments") 31 33 [
                    .token "(" 31 32,
                    .token ")" 32 33],
                  .word "class_body" none 34 44 [
                    .token "\x7b" 34 35,
                    .word "field_declaration" none 36 42 [
                      .word "integral_type" (some "type") 36 39 [
                        .token "int" 36 39],
                      .word "variable_declarator" (some "declarator") 40 41 [
                        .word "identifier" (some "name") 40 41 []],
                      .token ";" 41 42],
                    .token "\x7d" 43 44]]]],
            .token ")" 44 45],
          .word "block" (some "body") 46 49 [
            .token "\x7b" 46 47,
            .token "\x7d" 48 49]],
        .token "\x7d" 50 51]]]

def spreadClassEnv : Env :=
  .ofTree (.ofText "class A \x7b void m(T... a = new X() \x7b int f; \x7d) \x7b \x7d \x7d") spreadClass .empty

theorem finished_spreadClass {path : String}
    (known : (walk spreadClassEnv spreadClass).scope.Finished path) : path = "A" := by
  have all : (walk spreadClassEnv spreadClass).scope.finished.entries.map Prod.fst = ["A"] := by
    decide +kernel
  obtain ⟨members, found⟩ := Option.isSome_iff_exists.mp known
  obtain ⟨entry, found, -⟩ := Option.map_eq_some_iff.mp found
  have listed : entry.1 ∈ ["A"] := all ▸ List.mem_map_of_mem (List.mem_of_find?_eq_some found)
  have isPath := List.find?_some (p := fun entry : String × SourceType => entry.1 == path) found
  rw [← eq_of_beq isPath]
  exact List.mem_singleton.mp listed

/-- An anonymous class in the declarator of a `spread_parameter` is never entered, so that the first anonymous
class of the class around has no number. -/
theorem class_behind_spread_missed :
    Regular spreadClass ∧ (walk spreadClassEnv spreadClass).tooDeep = none ∧
      ∃ body ∈ classBodies spreadClass, (anonymousIn body).length = 1 ∧
        ∀ own entries, Tracks spreadClassEnv Tree.maxNesting (.root spreadClass) .visit {}
            (walk spreadClassEnv spreadClass) own entries →
          ∀ entry ∈ entries, entry.inside = [] := by
  obtain ⟨body, listed, single⟩ :
      ∃ body ∈ classBodies spreadClass, (anonymousIn body).length = 1 := by decide +kernel
  have regular : Regular spreadClass :=
    ⟨by decide +kernel, by decide +kernel, by decide +kernel, by decide +kernel, by decide +kernel⟩
  refine ⟨regular, by decide +kernel, body, listed, single, fun own entries tracks entry member => ?_⟩
  cases inside : entry.inside with
  | nil => rfl
  | cons place others =>
    -- its path would be known, but only that of the class around is
    obtain ⟨other, isEntry, rfl⟩ := List.mem_map.mp
      (tracks.listed.2 entry member (inside ▸ List.mem_cons_self))
    have known := tracks.finished other isEntry
    have numbers : entry.inside.map Prod.snd = numbered entry.path 0 entry.inside.length :=
      tracks.counted.2 entry member
    have isFirst : other.path = entry.path ++ "$1" := by
      rw [inside] at numbers
      exact (List.cons.inj numbers).1.trans (String.append_assoc ..)
    have around : entry.path = "A" := finished_spreadClass (tracks.finished entry member)
    have isA := finished_spreadClass known
    rw [isFirst, around] at isA
    exact absurd isA (by decide)

end SymbolIndex.Walk
