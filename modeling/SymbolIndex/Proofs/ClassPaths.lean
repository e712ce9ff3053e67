import Mathlib.Data.List.Nodup
import SymbolIndex.Proofs.Leavings

/-!
# Every class body has a path of its own

A class body is entered under a path: that of the class around it, a dollar, and what tells it from the
others there. `Enters` lists the bodies of a walk in the order in which they are entered, each with its path
and the members that are collected for it.

**The law** (`class_paths_differ`): no path is entered twice, and in the end each path has the members of its
own body, if in no class body two member classes or two local classes have one name, and outside of all class
bodies no two classes do and at most one is anonymous. Names hold no dollar and do not start with a digit.

That local classes of one class body need names of their own is more than the language asks for: two methods
may each have a local class `L`. They are told apart by a number there, but here every local class has the
number one, and both bodies are entered under one path (`local_classes_share_path`).
-/

namespace SymbolIndex

namespace Scope

/-- The path of the class around a place, and whether the place lies in a member of it. -/
def place (scope : Scope) : Option (String × Bool) :=
  scope.standing.map fun standing => (standing.1, standing.2.1)

/-- How many anonymous classes the class around a place has had so far. -/
def count (scope : Scope) : Nat :=
  (scope.standing.map (·.2.2)).getD 0

/-- The place of a scope is decided by where it stands. -/
theorem place_congr {scope scope' : Scope} (same : scope.standing = scope'.standing) :
    scope.place = scope'.place := by
  rw [place, same, place]

/-- The count of anonymous classes is decided by where a scope stands, too. -/
theorem count_congr {scope scope' : Scope} (same : scope.standing = scope'.standing) :
    scope.count = scope'.count := by
  rw [count, same, count]

end Scope

namespace Walk

open SymbolIndex.Tree (Node Cursor)

/-! ## The bodies that a walk enters -/

/-- A class body that is entered: the path, and the members that are collected for it. -/
abbrev Body := String × SourceType

/-- The class bodies that a script enters, in the order in which it does, with a number of levels left for
what lies below. A walk that has been given up enters none. -/
inductive Enters (env : Env) : Nat → Cursor → Script → State → State → List Body → Prop
  | skip {room : Nat} {cursor : Cursor} {state : State} : Enters env room cursor .skip state state []
  | seq {room : Nat} {cursor : Cursor} {script script' : Script} {first middle last : State}
      {bodies bodies' : List Body} (enters : Enters env room cursor script first middle bodies)
      (rest : Enters env room cursor script' middle last bodies') :
      Enters env room cursor (.seq script script') first last (bodies ++ bodies')
  | visit {room : Nat} {cursor : Cursor} {state : State} {bodies : List Body}
      (alive : state.tooDeep = none)
      (inner : Enters env room cursor (visitScript env cursor) state
        ((walker env (room + 1)).visit cursor state) bodies) :
      Enters env (room + 1) cursor .visit state ((walker env (room + 1)).visit cursor state) bodies
  | denote {room : Nat} {cursor : Cursor} {recording : Bool} {state : State} {bodies : List Body}
      (alive : state.tooDeep = none)
      (inner : Enters env room cursor (denoteScript cursor recording) state
        ((walker env (room + 1)).denote cursor recording state).2 bodies) :
      Enters env (room + 1) cursor (.denote recording) state
        ((walker env (room + 1)).denote cursor recording state).2 bodies
  | unvisited {room : Nat} {cursor : Cursor} {state : State}
      (halted : room = 0 ∨ state.tooDeep ≠ none) :
      Enters env room cursor .visit state ((walker env room).visit cursor state) []
  | undenoted {room : Nat} {cursor : Cursor} {recording : Bool} {state : State}
      (halted : room = 0 ∨ state.tooDeep ≠ none) :
      Enters env room cursor (.denote recording) state
        ((walker env room).denote cursor recording state).2 []
  | bind {room : Nat} {cursor : Cursor} {state : State} {name : Node} (type : Option JavaType) :
      Enters env room cursor (.bind name) state (state.declare env name type) []
  | under {room : Nat} {cursor : Cursor} {child : Node} {script : Script} {first last : State}
      {bodies : List Body} (inner : Enters env room (cursor.down child) script first last bodies) :
      Enters env room cursor (.under child script) first last bodies
  | block {room : Nat} {cursor : Cursor} {script : Script} {first last : State} {bodies : List Body}
      (inner : Enters env room cursor script (first.withScope Scope.pushBlock) last bodies) :
      Enters env room cursor (.block script) first (last.withScope Scope.popBlock) bodies
  | member {room : Nat} {cursor : Cursor} {script : Script} {first last : State} {bodies : List Body}
      {method : String}
      (inner : Enters env room cursor script (first.withScope (·.setMethod (some method))) last bodies) :
      Enters env room cursor (.member script) first
        (last.withScope (·.setMethod first.scope.method?)) bodies
  | body {room : Nat} {cursor : Cursor} {naming : Naming} {script : Script} {first last : State}
      {bodies : List Body} {frame : Frame} (named : frame.path = naming.path env first.scope)
      (bare : frame.Bare)
      (inner : Enters env room cursor script (first.withScope (naming.opened env frame)) last bodies) :
      Enters env room cursor (.body naming script) first (last.withScope Scope.popFrame)
        ((frame.path, frame.members) :: bodies)
  | behind {room : Nat} {cursor : Cursor} {script : Script} {first middle last : State}
      {bodies : List Body} (quiet : Quiet first middle)
      (enters : Enters env room cursor script middle last bodies) :
      Enters env room cursor script first last bodies
  | followed {room : Nat} {cursor : Cursor} {script : Script} {first middle last : State}
      {bodies : List Body} (enters : Enters env room cursor script first middle bodies)
      (quiet : Quiet middle last) : Enters env room cursor script first last bodies

variable {env : Env}

section Bodies

variable {room : Nat} {cursor : Cursor} {script : Script} {first last : State}

/-- What enters bodies is done by the script. -/
theorem Enters.does {bodies : List Body} (enters : Enters env room cursor script first last bodies) :
    Does env (walker env room) cursor script first last := by
  induction enters with
  | skip => exact .skip
  | seq _ _ ih ih' => exact .seq ih ih'
  | visit | unvisited => exact .visit
  | denote | undenoted => exact .denote _
  | bind type => exact .bind type
  | under _ ih => exact .under ih
  | block _ ih => exact .block ih
  | member _ ih => exact .member ih
  | body named bare _ ih => exact .body named bare ih
  | behind quiet _ ih => exact .behind quiet ih
  | followed _ quiet ih => exact .followed ih quiet

/-- At every place the walker with the given number of levels left enters some bodies. -/
structure EntersSome (env : Env) (room : Nat) : Prop where
  visit : ∀ cursor state,
    ∃ bodies, Enters env room cursor .visit state ((walker env room).visit cursor state) bodies
  denote : ∀ cursor recording state, ∃ bodies, Enters env room cursor (.denote recording) state
    ((walker env room).denote cursor recording state).2 bodies

/-- **What a script does enters bodies**, when the walkers below enter some. -/
theorem Does.enters (does : Does env (walker env room) cursor script first last)
    (some : EntersSome env room) : ∃ bodies, Enters env room cursor script first last bodies := by
  induction does with
  | skip => exact ⟨_, .skip⟩
  | seq _ _ ih ih' =>
    obtain ⟨_, enters⟩ := ih
    obtain ⟨_, rest⟩ := ih'
    exact ⟨_, .seq enters rest⟩
  | visit => exact some.visit _ _
  | denote recording => exact some.denote _ recording _
  | bind type => exact ⟨_, .bind type⟩
  | under _ ih => exact ih.imp fun _ => .under
  | block _ ih => exact ih.imp fun _ => .block
  | member _ ih => exact ih.imp fun _ => .member
  | body named bare _ ih =>
    obtain ⟨_, inner⟩ := ih
    exact ⟨_, .body named bare inner⟩
  | behind quiet _ ih => exact ih.imp fun _ => .behind quiet
  | followed _ quiet ih => exact ih.imp fun _ enters => .followed enters quiet

/-- **Every walk has its list of bodies**, by induction on the levels left. -/
theorem walker_enters (env : Env) (room : Nat) : EntersSome env room := by
  induction room with
  | zero => exact ⟨fun _ _ => ⟨_, .unvisited (.inl rfl)⟩, fun _ _ _ => ⟨_, .undenoted (.inl rfl)⟩⟩
  | succ room ih =>
    constructor
    case visit =>
      intro cursor state
      by_cases alive : state.tooDeep = none
      · have visited : (walker env (room + 1)).visit cursor state =
            visitNode env (walker env room) cursor state := by
          simp only [walker, alive, atLevel_eq]
        obtain ⟨bodies, enters⟩ := (visitNode_does env (walker env room) cursor state).enters ih
        exact ⟨bodies, .visit alive (visited ▸ enters)⟩
      · exact ⟨_, .unvisited (.inr alive)⟩
    case denote =>
      intro cursor recording state
      by_cases alive : state.tooDeep = none
      · have denoted : (walker env (room + 1)).denote cursor recording state =
            denoteNode env (walker env room) cursor recording state := by
          simp only [walker, alive, atLevel_eq]
        obtain ⟨bodies, enters⟩ := (denoteNode_does env (walker env room) cursor recording state).enters ih
        exact ⟨bodies, .denote alive (denoted ▸ enters)⟩
      · exact ⟨_, .undenoted (.inr alive)⟩

end Bodies

/-! ## Paths that are apart -/

/-- What stands behind the last dollar of a path that has the given one in front. -/
theorem Under.behind {outer segment other : String} (under : Under (outer ++ "$" ++ segment) other) :
    ∃ rest, other = outer ++ "$" ++ rest ∧ Under segment rest := by
  obtain rfl | ⟨rest, rfl⟩ := under
  · exact ⟨segment, rfl, .inl rfl⟩
  · exact ⟨segment ++ "$" ++ rest, by simp only [String.append_assoc], .inr ⟨rest, rfl⟩⟩

/-- The part of a path in front of its first dollar. -/
def firstPart (path : String) : List Char :=
  path.toList.takeWhile (· != '$')

/-- Paths under one that has no dollar share their first part with it. -/
theorem Under.firstPart {path other : String} (flat : '$' ∉ path.toList) (under : Under path other) :
    firstPart other = path.toList := by
  have plain : ∀ c ∈ path.toList, (c != '$') = true := by
    intro c member
    exact bne_iff_ne.mpr fun same => flat (same ▸ member)
  have whole (rest : List Char) : (path.toList ++ rest).takeWhile (· != '$') =
      path.toList ++ rest.takeWhile (· != '$') := List.takeWhile_append_of_pos plain
  unfold Walk.firstPart
  obtain rfl | ⟨rest, rfl⟩ := under
  · simpa using whole []
  · rw [String.toList_append, String.toList_append, List.append_assoc, whole]
    exact List.append_nil _

/-- Two classes of one class that have a class in common under them are the same. -/
theorem Under.segment_eq {outer segment segment' other : String} (flat : '$' ∉ segment.toList)
    (flat' : '$' ∉ segment'.toList) (under : Under (outer ++ "$" ++ segment) other)
    (under' : Under (outer ++ "$" ++ segment') other) : segment = segment' := by
  obtain ⟨rest, rfl, below⟩ := under.behind
  obtain ⟨rest', same, below'⟩ := under'.behind
  have sameRest : rest = rest' := by
    apply String.toList_inj.mp
    have lists := congrArg String.toList same
    simp only [String.toList_append] at lists
    exact List.append_cancel_left lists
  rw [← sameRest] at below'
  exact String.toList_inj.mp ((below.firstPart flat).symm.trans (below'.firstPart flat'))

/-- Two paths without dollars that have a class in common under them are the same. -/
theorem Under.flat_eq {path path' other : String} (flat : '$' ∉ path.toList)
    (flat' : '$' ∉ path'.toList) (under : Under path other) (under' : Under path' other) :
    path = path' :=
  String.toList_inj.mp ((under.firstPart flat).symm.trans (under'.firstPart flat'))

/-! ## Names -/

/-- A name that is not empty, does not start with a digit and holds no dollar. -/
def properName (name : String) : Bool :=
  name.toList.head?.any (!·.isDigit) && !name.toList.contains '$'

/-- What stands behind the last dollar of a declared class. -/
def segmentOf (isLocal : Bool) (name : String) : String :=
  if isLocal then "1" ++ name else name

/-- A proper name gives a segment without a dollar. -/
theorem dollar_not_mem_segmentOf {name : String} (proper : properName name = true) (isLocal : Bool) :
    '$' ∉ (segmentOf isLocal name).toList := by
  have flat : '$' ∉ name.toList := by
    simp only [properName, Bool.and_eq_true, Bool.not_eq_true', List.contains_eq_mem,
      decide_eq_false_iff_not] at proper
    exact proper.2
  cases isLocal with
  | false => exact flat
  | true =>
    rw [segmentOf, if_pos rfl, String.toList_append, List.mem_append, not_or]
    exact ⟨by decide, flat⟩

/-- A proper name starts with something that is no digit. -/
theorem exists_head_of_proper {name : String} (proper : properName name = true) :
    ∃ c rest, name.toList = c :: rest ∧ c.isDigit = false := by
  unfold properName at proper
  cases chars : name.toList with
  | nil => rw [chars] at proper; cases proper
  | cons c rest =>
    rw [chars] at proper
    simp only [List.head?_cons, Option.any_some, Bool.and_eq_true, Bool.not_eq_true'] at proper
    exact ⟨c, rest, rfl, proper.1⟩

/-- Member and local classes have different segments. -/
theorem segmentOf_inj {name name' : String} {isLocal isLocal' : Bool} (proper : properName name = true)
    (proper' : properName name' = true) (same : segmentOf isLocal name = segmentOf isLocal' name') :
    isLocal = isLocal' ∧ name = name' := by
  have startsApart {name name' : String} (proper' : properName name' = true)
      (same : "1" ++ name = name') : False := by
    obtain ⟨c, rest, chars, notDigit⟩ := exists_head_of_proper proper'
    have lists := congrArg String.toList same
    rw [String.toList_append, chars] at lists
    cases lists
    cases notDigit
  cases isLocal with
  | false =>
    cases isLocal' with
    | false => exact ⟨rfl, same⟩
    | true => exact (startsApart proper same.symm).elim
  | true =>
    cases isLocal' with
    | false => exact (startsApart proper' same).elim
    | true =>
      have lists := congrArg String.toList same
      simp only [segmentOf, if_true, String.toList_append] at lists
      exact ⟨rfl, String.toList_inj.mp (List.append_cancel_left lists)⟩

theorem isDigit_of_mem_toString {n : Nat} {c : Char} (member : c ∈ (toString n).toList) :
    c.isDigit = true := by
  have isRepr : (toString n).toList = Nat.toDigits 10 n := Nat.toList_repr
  rw [isRepr] at member
  exact Nat.isDigit_of_mem_toDigits (by omega) (by omega) member

/-- A number is written without a dollar. -/
theorem dollar_not_mem_toString (n : Nat) : '$' ∉ (toString n).toList := by
  intro member
  cases isDigit_of_mem_toString member

/-- Numbers are told apart by how they are written. -/
theorem eq_of_toString_eq {n n' : Nat} (same : toString n = toString n') : n = n' := by
  have digits : Nat.toDigits 10 n = Nat.toDigits 10 n' := by
    rw [← Nat.toList_repr, ← Nat.toList_repr]
    exact congrArg String.toList same
  calc n = Nat.ofDigitChars 10 (Nat.toDigits 10 n) 0 := Nat.ofDigitChars_ten_toDigits.symm
    _ = Nat.ofDigitChars 10 (Nat.toDigits 10 n') 0 := by rw [digits]
    _ = n' := Nat.ofDigitChars_ten_toDigits

/-- The number of an anonymous class is no segment of a declared one. -/
theorem segmentOf_ne_toString {name : String} (proper : properName name = true) (isLocal : Bool) (n : Nat) :
    segmentOf isLocal name ≠ toString n := by
  intro same
  obtain ⟨c, rest, chars, notDigit⟩ := exists_head_of_proper proper
  have inName : c ∈ name.toList := by
    rw [chars]
    exact List.mem_cons_self
  have inSegment : c ∈ (segmentOf isLocal name).toList := by
    cases isLocal with
    | false => exact inName
    | true =>
      rw [segmentOf, if_pos rfl, String.toList_append]
      exact List.mem_append_right _ inName
  rw [same] at inSegment
  rw [isDigit_of_mem_toString inSegment] at notDigit
  cases notDigit

/-- The path of a class that is declared at a place. -/
def pathAt (env : Env) (place : Option (String × Bool)) (name : String) : String :=
  match place with
  | some (outer, isLocal) => outer ++ "$" ++ segmentOf isLocal name
  | none => env.imports.inPackage name

/-- A declared class has the path that its place and its name give it. -/
theorem declaredPath_eq (scope : Scope) (name : String) :
    declaredPath env scope name = pathAt env scope.place name := by
  obtain ⟨frames, outer, finished⟩ := scope
  cases frames with
  | nil => rfl
  | cons frame frames =>
    cases set : frame.method.isSome with
    | false =>
      simp only [declaredPath, Scope.frame?, List.head?_cons, set, Scope.place, Scope.standing,
        Option.map_some, pathAt, segmentOf]
      rfl
    | true =>
      simp only [declaredPath, Scope.frame?, List.head?_cons, set, Scope.place, Scope.standing,
        Option.map_some, pathAt, segmentOf, if_true]
      rw [String.append_assoc, String.append_assoc]
      rfl

/-! ## Classes that are apart -/

/-- The paths that a class may be entered under at a place, where the anonymous ones have numbers behind
`low` and up to `high`. -/
def Naming.MayBe (env : Env) (place : Option (String × Bool)) (low high : Nat) (naming : Naming)
    (path : String) : Prop :=
  match naming with
  | .declared name => path = pathAt env place (env.text name)
  | .anonymous =>
    match place with
    | some (outer, _) => ∃ n, low < n ∧ n ≤ high ∧ path = outer ++ "$" ++ toString n
    | none => path = "$1"

/-- What may stand behind the last dollar of such a path, for a class inside of another one. -/
def Naming.Segment (env : Env) (isLocal : Bool) (low high : Nat) (naming : Naming) (segment : String) : Prop :=
  match naming with
  | .declared name => segment = segmentOf isLocal (env.text name)
  | .anonymous => ∃ n, low < n ∧ n ≤ high ∧ segment = toString n

/-- Inside a class, the path of another one is that of the first, a dollar and a segment. -/
theorem Naming.MayBe.segment {outer path : String} {isLocal : Bool} {low high : Nat} {naming : Naming}
    (may : naming.MayBe env (some (outer, isLocal)) low high path) :
    ∃ segment, path = outer ++ "$" ++ segment ∧ naming.Segment env isLocal low high segment := by
  cases naming with
  | declared name => exact ⟨_, may, rfl⟩
  | anonymous =>
    obtain ⟨n, behind, upTo, isPath⟩ := may
    exact ⟨_, isPath, n, behind, upTo, rfl⟩

/-- The paths of the declared classes among leavings. -/
def declaredPaths (env : Env) (scope : Scope) (left : List Leaving) : List String :=
  (namedIn env left).map fun entry => pathAt env (scope.within entry.1).place entry.2

def Leaving.isAnonymous : Leaving → Bool
  | .entered _ .anonymous => true
  | _ => false

/-- The classes among leavings have paths of their own. Outside of all class bodies the anonymous ones have
no numbers. -/
structure Apart (env : Env) (scope : Scope) (left : List Leaving) : Prop where
  proper : ∀ entry ∈ namedIn env left, properName entry.2 = true
  paths : (declaredPaths env scope left).Nodup
  single : scope.place = none → left.countP Leaving.isAnonymous ≤ 1

/-- A place in a method is local; one in a class body is local if it was before. -/
theorem place_within (scope : Scope) (isLocal : Bool) :
    (scope.within isLocal).place = scope.place.map fun place => (place.1, isLocal || place.2) := by
  obtain ⟨frames, outer, finished⟩ := scope
  cases isLocal <;> cases frames <;> rfl

/-- Two parts declare the paths of both. -/
theorem declaredPaths_append (scope : Scope) (left right : List Leaving) :
    declaredPaths env scope (left ++ right) =
      declaredPaths env scope left ++ declaredPaths env scope right := by
  simp only [declaredPaths, namedIn_append, List.map_append]

theorem mem_namedIn {left : List Leaving} {isLocal : Bool} {name : Node}
    (member : .entered isLocal (.declared name) ∈ left) : (isLocal, env.text name) ∈ namedIn env left :=
  List.mem_filterMap.mpr ⟨_, member, rfl⟩

namespace Apart

variable {scope : Scope} {left right : List Leaving}

/-- What sets two parts apart sets the first one apart. -/
theorem first (apart : Apart env scope (left ++ right)) : Apart env scope left where
  proper entry member := apart.proper entry (namedIn_append left right ▸ List.mem_append_left _ member)
  paths := (declaredPaths_append scope left right ▸ apart.paths).of_append_left
  single outside := by
    have counted := apart.single outside
    rw [List.countP_append] at counted
    omega

/-- What sets two parts apart sets the second one apart. -/
theorem second (apart : Apart env scope (left ++ right)) : Apart env scope right where
  proper entry member := apart.proper entry (namedIn_append left right ▸ List.mem_append_right _ member)
  paths := (declaredPaths_append scope left right ▸ apart.paths).of_append_right
  single outside := by
    have counted := apart.single outside
    rw [List.countP_append] at counted
    omega

/-- Being apart depends on the place alone. -/
theorem congr {scope' : Scope} (apart : Apart env scope left) (same : scope'.place = scope.place) :
    Apart env scope' left where
  proper := apart.proper
  paths := by
    have paths := apart.paths
    simp only [declaredPaths, place_within, same] at paths ⊢
    exact paths
  single outside := apart.single (same ▸ outside)

end Apart

/-- A class that is left behind has its path among those declared. -/
theorem mem_declaredPaths {scope : Scope} {left : List Leaving} {isLocal : Bool} {name : Node}
    (member : .entered isLocal (.declared name) ∈ left) :
    pathAt env (scope.within isLocal).place (env.text name) ∈ declaredPaths env scope left :=
  List.mem_map.mpr ⟨_, mem_namedIn member, rfl⟩

/-- A proper name in a package without a dollar has none either. -/
theorem dollar_not_mem_inPackage {name : String} (package : '$' ∉ env.imports.package.toList)
    (proper : properName name = true) : '$' ∉ (env.imports.inPackage name).toList := by
  have flat : '$' ∉ name.toList := dollar_not_mem_segmentOf proper false
  unfold Imports.inPackage
  split
  · exact flat
  · simp only [String.toList_append, List.mem_append, not_or]
    exact ⟨⟨package, by decide⟩, flat⟩

/-- A class of the package and an anonymous one outside of all classes have no class in common under them. -/
theorem inPackage_apart {name other : String} (package : '$' ∉ env.imports.package.toList)
    (proper : properName name = true) (under : Under (env.imports.inPackage name) other)
    (under' : Under "$1" other) : False := by
  obtain ⟨c, rest, chars, -⟩ := exists_head_of_proper proper
  have isFirst := under.firstPart (dollar_not_mem_inPackage package proper)
  obtain ⟨behind, rfl, -⟩ : ∃ behind, other = "" ++ "$" ++ behind ∧ Under "1" behind := Under.behind under'
  have isEmpty : (env.imports.inPackage name).toList = [] := by
    rw [← isFirst, firstPart, String.toList_append]
    rfl
  unfold Imports.inPackage at isEmpty
  split at isEmpty
  · rw [chars] at isEmpty
    cases isEmpty
  · simp only [String.toList_append, List.append_eq_nil_iff, chars] at isEmpty
    cases isEmpty.2

namespace Apart

variable {scope : Scope} {left right : List Leaving} {isLocal isLocal' : Bool} {low middle high : Nat}

/-- The classes that are set apart have proper names. -/
theorem isProper {name : Node} (apart : Apart env scope left)
    (member : .entered isLocal (.declared name) ∈ left) : properName (env.text name) = true :=
  apart.proper (isLocal, env.text name) (mem_namedIn member)

/-- A declared class has another path than the declared ones behind it. -/
theorem path_ne {name name' : Node} (apart : Apart env scope (left ++ right))
    (member : .entered isLocal (.declared name) ∈ left)
    (member' : .entered isLocal' (.declared name') ∈ right) :
    pathAt env (scope.within isLocal).place (env.text name) ≠
      pathAt env (scope.within isLocal').place (env.text name') := by
  have paths := apart.paths
  rw [declaredPaths_append, List.nodup_append] at paths
  exact paths.2.2 _ (mem_declaredPaths member) _ (mem_declaredPaths member')

/-- The segments of classes that are set apart have no dollar. -/
theorem dollar_not_mem {naming : Naming} {inside : Bool} {segment : String} (apart : Apart env scope left)
    (member : .entered isLocal naming ∈ left) (isSegment : naming.Segment env inside low high segment) :
    '$' ∉ segment.toList := by
  cases naming with
  | declared name =>
    cases isSegment
    exact dollar_not_mem_segmentOf (apart.isProper member) inside
  | anonymous =>
    obtain ⟨n, -, -, rfl⟩ := isSegment
    exact dollar_not_mem_toString n

/-- Inside of a class, what tells a class from the others is no segment of one behind it: a name differs from
the other names and starts with no digit, and the numbers grow. -/
theorem segment_ne {naming naming' : Naming} {outer segment segment' : String} {inside : Bool}
    (apart : Apart env scope (left ++ right)) (isPlace : scope.place = some (outer, inside))
    (member : .entered isLocal naming ∈ left) (member' : .entered isLocal' naming' ∈ right)
    (isSegment : naming.Segment env (isLocal || inside) low middle segment)
    (isSegment' : naming'.Segment env (isLocal' || inside) middle high segment') : segment ≠ segment' := by
  cases naming with
  | declared name =>
    cases isSegment
    cases naming' with
    | declared name' =>
      cases isSegment'
      intro same
      have differ := apart.path_ne member member'
      rw [place_within, place_within, isPlace] at differ
      exact differ (congrArg (outer ++ "$" ++ ·) same)
    | anonymous =>
      obtain ⟨n, -, -, rfl⟩ := isSegment'
      exact segmentOf_ne_toString (apart.first.isProper member) _ n
  | anonymous =>
    obtain ⟨n, -, upTo, rfl⟩ := isSegment
    cases naming' with
    | declared name' =>
      cases isSegment'
      exact (segmentOf_ne_toString (apart.second.isProper member') _ n).symm
    | anonymous =>
      obtain ⟨n', behind, -, rfl⟩ := isSegment'
      intro same
      have sameNumber := eq_of_toString_eq same
      omega

/-- At most one class outside of all class bodies is anonymous. -/
theorem not_both_anonymous (apart : Apart env scope (left ++ right)) (outside : scope.place = none)
    (member : .entered isLocal .anonymous ∈ left) (member' : .entered isLocal' .anonymous ∈ right) : False := by
  have counted := apart.single outside
  rw [List.countP_append] at counted
  have one : 0 < left.countP Leaving.isAnonymous := List.countP_pos_iff.mpr ⟨_, member, rfl⟩
  have two : 0 < right.countP Leaving.isAnonymous := List.countP_pos_iff.mpr ⟨_, member', rfl⟩
  omega

/-- Outside of all class bodies, two classes have no class in common under them. -/
theorem disjoint_outside {naming naming' : Naming} {path path' other : String}
    (apart : Apart env scope (left ++ right)) (package : '$' ∉ env.imports.package.toList)
    (outside : scope.place = none)
    (member : .entered isLocal naming ∈ left) (member' : .entered isLocal' naming' ∈ right)
    (may : naming.MayBe env none low middle path) (may' : naming'.MayBe env none middle high path')
    (under : Under path other) (under' : Under path' other) : False := by
  cases naming with
  | declared name =>
    cases may
    have isProper := apart.first.isProper member
    cases naming' with
    | declared name' =>
      cases may'
      have differ := apart.path_ne member member'
      rw [place_within, place_within, outside] at differ
      exact differ (Under.flat_eq (dollar_not_mem_inPackage package isProper)
        (dollar_not_mem_inPackage package (apart.second.isProper member')) under under')
    | anonymous =>
      cases may'
      exact inPackage_apart package isProper under under'
  | anonymous =>
    cases may
    cases naming' with
    | declared name' =>
      cases may'
      exact inPackage_apart package (apart.second.isProper member') under' under
    | anonymous => exact apart.not_both_anonymous outside member member'

/-- **Two classes that are apart have no class in common under them.** -/
theorem disjoint {naming naming' : Naming} {path path' other : String}
    (apart : Apart env scope (left ++ right)) (package : '$' ∉ env.imports.package.toList)
    (member : .entered isLocal naming ∈ left) (member' : .entered isLocal' naming' ∈ right)
    (may : naming.MayBe env (scope.within isLocal).place low middle path)
    (may' : naming'.MayBe env (scope.within isLocal').place middle high path')
    (under : Under path other) (under' : Under path' other) : False := by
  rw [place_within] at may may'
  cases isPlace : scope.place with
  | some place =>
    obtain ⟨outer, inside⟩ := place
    rw [isPlace] at may may'
    obtain ⟨segment, rfl, isSegment⟩ := may.segment
    obtain ⟨segment', rfl, isSegment'⟩ := may'.segment
    have same := Under.segment_eq (apart.first.dollar_not_mem member isSegment)
      (apart.second.dollar_not_mem member' isSegment') under under'
    exact apart.segment_ne isPlace member member' isSegment isSegment' same
  | none =>
    rw [isPlace] at may may'
    exact apart.disjoint_outside package isPlace member member' may may' under under'

end Apart

/-! ## No path twice -/

section Places

variable {left : List Leaving} {first last : Scope}

/-- Leaving a class comes back to the place of the class around it. -/
theorem place_left (path : String) (finished : Bindings SourceType) (naming : Naming) (scope : Scope) :
    (naming.left env path finished scope).place = scope.place := by
  obtain ⟨frames, outer, before⟩ := scope
  cases naming <;> cases frames <;> rfl

/-- Leaving a class does not count back. -/
theorem count_left (path : String) (finished : Bindings SourceType) (naming : Naming) (scope : Scope) :
    scope.count ≤ (naming.left env path finished scope).count := by
  obtain ⟨frames, outer, before⟩ := scope
  cases frames with
  | nil => exact Nat.zero_le _
  | cons frame frames =>
    cases naming with
    | declared name => exact Nat.le_refl _
    | anonymous => exact Nat.le_succ _

/-- The class around stays the same, and its count only grows. -/
theorem Leaves.place (leaves : Leaves env left first last) :
    last.place = first.place ∧ first.count ≤ last.count := by
  induction leaves with
  | nil => exact ⟨rfl, Nat.le_refl _⟩
  | missed _ ih => exact ih
  | @bound name _ first _ type _ ih =>
    have same : (first.declare (env.text name) type).standing = first.standing :=
      Scope.standing_modifyBlocks _ _ false
    rwa [Scope.place_congr same, Scope.count_congr same] at ih
  | entered _ _ ih =>
    rw [place_left] at ih
    exact ⟨ih.1, Nat.le_trans (count_left _ _ _ _) ih.2⟩

end Places

/-- The paths that are entered for leavings: no two are the same, and each lies under a path that one of the
leavings may have. -/
structure Entered (env : Env) (left : List Leaving) (first last : Scope) (paths : List String) : Prop where
  nodup : paths.Nodup
  under : ∀ other ∈ paths, ∃ isLocal naming path, .entered isLocal naming ∈ left ∧
    naming.MayBe env (first.within isLocal).place first.count last.count path ∧ Under path other

/-- A path that may be taken in a range of numbers may be taken in a wider one. -/
theorem Naming.MayBe.mono {place : Option (String × Bool)} {low low' high high' : Nat} {naming : Naming}
    {path : String} (may : naming.MayBe env place low high path) (lower : low' ≤ low)
    (higher : high ≤ high') : naming.MayBe env place low' high' path := by
  cases naming with
  | declared name => exact may
  | anonymous =>
    cases place with
    | none => exact may
    | some place =>
      obtain ⟨n, behind, upTo, isPath⟩ := may
      exact ⟨n, by omega, by omega, isPath⟩

namespace Entered

variable {left right : List Leaving} {first middle last : Scope} {paths paths' : List String}

/-- Nothing is entered. -/
theorem none (left : List Leaving) (first last : Scope) : Entered env left first last [] :=
  ⟨List.nodup_nil, fun _ absent => nomatch absent⟩

/-- What is entered for one part after another. -/
theorem append (package : '$' ∉ env.imports.package.toList) (apart : Apart env first (left ++ right))
    (entered : Entered env left first middle paths) (leaves : Leaves env left first middle)
    (entered' : Entered env right middle last paths') (leaves' : Leaves env right middle last) :
    Entered env (left ++ right) first last (paths ++ paths') := by
  have placed (isLocal : Bool) : (middle.within isLocal).place = (first.within isLocal).place := by
    rw [place_within, place_within, leaves.place.1]
  constructor
  case nodup =>
    refine entered.nodup.append entered'.nodup fun other listed listed' => ?_
    obtain ⟨isLocal, naming, path, member, may, under⟩ := entered.under other listed
    obtain ⟨isLocal', naming', path', member', may', under'⟩ := entered'.under other listed'
    rw [placed] at may'
    exact apart.disjoint package member member' may may' under under'
  case under =>
    intro other listed
    rcases List.mem_append.mp listed with listed | listed
    · obtain ⟨isLocal, naming, path, member, may, under⟩ := entered.under other listed
      exact ⟨isLocal, naming, path, List.mem_append_left _ member,
        may.mono (Nat.le_refl _) leaves'.place.2, under⟩
    · obtain ⟨isLocal, naming, path, member, may, under⟩ := entered'.under other listed
      rw [placed] at may
      exact ⟨isLocal, naming, path, List.mem_append_right _ member,
        may.mono leaves.place.2 (Nat.le_refl _), under⟩

/-- What is entered for leavings of which those at another scope are made. -/
theorem transfer {scope scope' : Scope} (entered : Entered env left first last paths)
    (carried : ∀ isLocal naming, .entered isLocal naming ∈ left → ∃ isLocal',
      .entered isLocal' naming ∈ right ∧ (scope.within isLocal').place = (first.within isLocal).place)
    (low : scope.count = first.count) (high : scope'.count = last.count) :
    Entered env right scope scope' paths := by
  refine ⟨entered.nodup, fun other listed => ?_⟩
  obtain ⟨isLocal, naming, path, member, may, under⟩ := entered.under other listed
  obtain ⟨isLocal', member', placed⟩ := carried isLocal naming member
  refine ⟨isLocal', naming, path, member', ?_, under⟩
  rw [placed, low, high]
  exact may

end Entered

theorem namedIn_isClass (left : List Leaving) :
    namedIn env (left.filter Leaving.isClass) = namedIn env left := by
  unfold namedIn
  rw [List.filterMap_filter]
  congr 1
  funext leaving
  cases leaving <;> rfl

theorem namedIn_inMember (left : List Leaving) :
    namedIn env (left.map Leaving.inMember) = (namedIn env left).map fun entry => (true, entry.2) := by
  unfold namedIn
  rw [List.filterMap_map, List.map_filterMap]
  congr 1
  funext leaving
  cases leaving with
  | bound name => rfl
  | entered isLocal naming => cases naming <;> rfl

/-- Inside of a member every class is a local one. -/
theorem place_setMethod (scope : Scope) (method : String) (isLocal : Bool) :
    ((scope.setMethod (some method)).within isLocal).place = (scope.within true).place := by
  obtain ⟨frames, outer, finished⟩ := scope
  cases isLocal <;> cases frames <;> rfl

/-- Entering a method keeps the count of anonymous classes. -/
theorem count_setMethod (scope : Scope) (method : Option String) :
    (scope.setMethod method).count = scope.count := by
  obtain ⟨frames, outer, finished⟩ := scope
  cases frames <;> rfl

/-- Only classes leave a block, so what is set apart behind it is set apart inside. -/
theorem Apart.inBlock {scope : Scope} {left : List Leaving}
    (apart : Apart env scope (left.filter Leaving.isClass)) : Apart env scope.pushBlock left := by
  refine Apart.congr ⟨?_, ?_, ?_⟩ (Scope.place_congr (Scope.standing_modifyBlocks _ _ false))
  · rw [← namedIn_isClass]
    exact apart.proper
  · have paths := apart.paths
    rwa [declaredPaths, namedIn_isClass] at paths
  · intro outside
    have counted := apart.single outside
    rw [List.countP_filter] at counted
    refine le_of_eq_of_le (List.countP_congr fun leaving _ => ?_) counted
    cases leaving with
    | bound name => simp [Leaving.isAnonymous, Leaving.isClass]
    | entered isLocal naming => simp [Leaving.isClass]

/-- Classes that are local behind a member are apart inside it. -/
theorem Apart.inMember {scope : Scope} {left : List Leaving} (method : String)
    (apart : Apart env scope (left.map Leaving.inMember)) :
    Apart env (scope.setMethod (some method)) left := by
  constructor
  case proper =>
    intro entry member
    refine apart.proper (true, entry.2) ?_
    rw [namedIn_inMember]
    exact List.mem_map_of_mem member
  case paths =>
    have paths := apart.paths
    rw [declaredPaths, namedIn_inMember, List.map_map] at paths
    simp only [declaredPaths, place_setMethod]
    exact paths
  case single =>
    intro outside
    have placed := place_setMethod scope method false
    rw [show ((scope.setMethod (some method)).within false).place = none from outside, place_within] at placed
    have counted := apart.single (Option.map_eq_none_iff.mp placed.symm)
    rw [List.countP_map] at counted
    refine le_of_eq_of_le (List.countP_congr fun leaving _ => ?_) counted
    cases leaving with
    | bound name => rfl
    | entered isLocal naming => cases naming <;> rfl

/-! ## Names in class bodies -/

/-- The classes that stand in one class body have proper names, and no two member classes and no two local
classes have the same one. -/
def namedApart (env : Env) (left : List Leaving) : Bool :=
  (namedIn env left).all (properName ·.2) && decide (namedIn env left).Nodup

/-- Whether the classes in each class body that a script enters are named apart. -/
def Script.bodiesNamed (env : Env) (left : Reading (List Leaving)) (below : Reading Bool)
    (cursor : Cursor) : Script → Bool
  | .skip | .bind _ => true
  | .seq first second => first.bodiesNamed env left below cursor && second.bodiesNamed env left below cursor
  | .visit => below.visit cursor
  | .denote recording => below.denote cursor recording
  | .under child inner => inner.bodiesNamed env left below (cursor.down child)
  | .block inner | .member inner => inner.bodiesNamed env left below cursor
  | .body _ inner => namedApart env (inner.leavings left cursor) && inner.bodiesNamed env left below cursor

/-- Whether the classes in each class body that a walk enters are named apart. -/
def bodiesNamed (env : Env) : Nat → Reading Bool
  | 0 => { visit := fun _ => true, denote := fun _ _ => true }
  | room + 1 =>
    { visit := fun cursor => (visitScript env cursor).bodiesNamed env (leavings env room)
        (bodiesNamed env room) cursor
      denote := fun cursor recording => (denoteScript cursor recording).bodiesNamed env (leavings env room)
        (bodiesNamed env room) cursor }

/-- In a class body that has just been entered, classes that are named apart are apart. -/
theorem apart_of_namedApart {scope : Scope} {path : String} {left : List Leaving}
    (placed : scope.place = some (path, false)) (named : namedApart env left = true) :
    Apart env scope left := by
  simp only [namedApart, Bool.and_eq_true, List.all_eq_true, decide_eq_true_eq] at named
  refine ⟨named.1, ?_, fun outside => by rw [placed] at outside; cases outside⟩
  refine List.Nodup.map_on (fun entry member entry' member' same => ?_) named.2
  simp only [place_within, placed, Option.map_some, Bool.or_false, pathAt] at same
  have lists := congrArg String.toList same
  simp only [String.toList_append] at lists
  have segments := String.toList_inj.mp (List.append_cancel_left lists)
  exact Prod.ext_iff.mpr (segmentOf_inj (named.1 entry member) (named.1 entry' member') segments)

/-- Inside a class body the place is that of the class. -/
theorem place_opened (naming : Naming) {frame : Frame} (bare : frame.Bare) (scope : Scope) :
    (naming.opened env frame scope).place = some (frame.path, false) := by
  show some (frame.path, frame.method.isSome) = _
  rw [bare.method]
  rfl

/-- A class is entered under a path that it may have. -/
theorem Naming.mayBe_path (naming : Naming) (scope : Scope) (path : String) :
    naming.MayBe env scope.place scope.count (naming.note env path scope).count (naming.path env scope) := by
  cases naming with
  | declared name => exact declaredPath_eq scope (env.text name)
  | anonymous =>
    obtain ⟨frames, outer, finished⟩ := scope
    cases frames with
    | nil => rfl
    | cons frame frames => exact ⟨frame.anonymous + 1, Nat.lt_succ_self _, Nat.le_refl _, rfl⟩

/-- A class body is entered once, and what is entered in it has longer paths. -/
theorem Entered.inBody {naming : Naming} {frame : Frame} {left : List Leaving} {first last : Scope}
    {paths : List String} (named : frame.path = naming.path env first) (bare : frame.Bare)
    (leaves : Leaves env left (naming.opened env frame first) last)
    (entered : Entered env left (naming.opened env frame first) last paths) :
    Entered env [.entered false naming] first last.popFrame (frame.path :: paths) := by
  have longer (other : String) (listed : other ∈ paths) : ∃ rest, other = frame.path ++ "$" ++ rest := by
    obtain ⟨isLocal, _, path, -, may, under⟩ := entered.under other listed
    rw [place_within, place_opened naming bare] at may
    obtain ⟨segment, rfl, -⟩ := may.segment
    obtain ⟨rest, isOther, -⟩ := under.behind
    exact ⟨rest, isOther⟩
  have may : naming.MayBe env (first.within false).place first.count last.popFrame.count frame.path := by
    obtain ⟨frame', same, -⟩ := leaves.stays rfl
    have counted : last.popFrame.count = (naming.note env frame.path first).count := by
      obtain ⟨_, outer, finished⟩ := last
      cases same
      rfl
    rw [counted, named]
    exact naming.mayBe_path first _
  constructor
  case nodup =>
    refine List.nodup_cons.mpr ⟨fun listed => ?_, entered.nodup⟩
    obtain ⟨rest, same⟩ := longer _ listed
    have lengths := congrArg String.length same
    simp only [String.length_append] at lengths
    have one : "$".length = 1 := rfl
    omega
  case under =>
    intro other listed
    refine ⟨false, naming, frame.path, List.mem_singleton.mpr rfl, may, ?_⟩
    rcases List.mem_cons.mp listed with rfl | listed
    · exact .inl rfl
    · exact .inr (longer other listed)

/-- **The bodies that a script enters have different paths.** By induction on what it enters. -/
theorem Enters.entered {room : Nat} {cursor : Cursor} {script : Script} {first last : State}
    {bodies : List Body} (enters : Enters env room cursor script first last bodies)
    (package : '$' ∉ env.imports.package.toList)
    (apart : Apart env first.scope (script.leavings (leavings env room) cursor))
    (named : script.bodiesNamed env (leavings env room) (bodiesNamed env room) cursor = true) :
    Entered env (script.leavings (leavings env room) cursor) first.scope last.scope
      (bodies.map Prod.fst) := by
  have leavesOf {room : Nat} {cursor : Cursor} {script : Script} {first last : State} {bodies : List Body}
      (enters : Enters env room cursor script first last bodies) :
      Leaves env (script.leavings (leavings env room) cursor) first.scope last.scope :=
    enters.does.leaves (walker_leaves env room)
  induction enters with
  | skip | unvisited | undenoted | bind => exact .none _ _ _
  | seq enters rest ih ih' =>
    rw [Script.bodiesNamed, Bool.and_eq_true] at named
    have leaves := leavesOf enters
    rw [List.map_append]
    exact .append package apart (ih apart.first named.1) leaves
      (ih' (apart.second.congr leaves.place.1) named.2) (leavesOf rest)
  | visit _ _ ih => exact ih apart named
  | denote _ _ ih => exact ih apart named
  | under _ ih => exact ih apart named
  | @block _ _ _ first last _ _ ih =>
    refine (ih apart.inBlock named).transfer (fun isLocal naming member => ⟨isLocal, ?_, ?_⟩) ?_ ?_
    · exact List.mem_filter.mpr ⟨member, rfl⟩
    · rw [place_within, place_within]
      exact congrArg _ (Scope.place_congr (Scope.standing_modifyBlocks _ _ false)).symm
    · exact (Scope.count_congr (Scope.standing_modifyBlocks _ _ false)).symm
    · exact Scope.count_congr (Scope.standing_modifyBlocks _ _ false)
  | @member _ _ _ first last _ method _ ih =>
    refine (ih (apart.inMember method) named).transfer (fun isLocal naming member => ⟨true, ?_, ?_⟩) ?_ ?_
    · exact List.mem_map.mpr ⟨_, member, rfl⟩
    · exact (place_setMethod first.scope method isLocal).symm
    · exact (count_setMethod first.scope _).symm
    · exact count_setMethod last.scope _
  | @body _ _ naming _ first _ _ frame isPath bare inner ih =>
    rw [Script.bodiesNamed, Bool.and_eq_true] at named
    have apart' : Apart env (naming.opened env frame first.scope) _ :=
      apart_of_namedApart (place_opened naming bare first.scope) named.1
    exact .inBody isPath bare (leavesOf inner) (ih apart' named.2)
  | behind quiet _ ih =>
    rw [quiet.scope] at ih
    exact ih apart named
  | followed _ quiet ih =>
    rw [quiet.scope]
    exact ih apart named

/-! ## Members that stay -/

theorem finished_modifyBlocks (scope : Scope) (change : List Block → List Block) :
    (scope.modifyBlocks change).finished = scope.finished := by
  obtain ⟨frames, outer, finished⟩ := scope
  cases frames <;> rfl

theorem finished_modifyFrame (scope : Scope) (change : Frame → Frame) :
    (scope.modifyFrame change).finished = scope.finished := by
  obtain ⟨frames, outer, finished⟩ := scope
  cases frames <;> rfl

/-- Once a body has been left, its members are known under its path. -/
theorem finished_popFrame {frame frame' : Frame} {frames : List Frame} {scope : Scope}
    (inside : scope.frames = frame' :: frames) (same : frame.SameClass frame') :
    scope.popFrame.finished = scope.finished.insert frame.path frame.members := by
  rw [← same.path, ← same.members, Scope.popFrame, inside]

/-- The members that are known behind some bodies: for other paths those from before, and for the paths of
the bodies theirs, if no path occurs twice. -/
structure Collects (bodies : List Body) (first last : Scope) : Prop where
  others : ∀ path ∉ bodies.map Prod.fst, last.finished.find? path = first.finished.find? path
  members : (bodies.map Prod.fst).Nodup → ∀ body ∈ bodies, last.finished.find? body.1 = some body.2

namespace Collects

variable {bodies bodies' : List Body} {first middle last : Scope}

/-- Nothing is collected where the finished classes stay the same. -/
theorem none (same : last.finished = first.finished) : Collects [] first last :=
  ⟨fun path _ => by rw [same], fun _ _ absent => nomatch absent⟩

/-- Collecting depends on the finished classes alone. -/
theorem congr {first' last' : Scope} (collects : Collects bodies first last)
    (same : first'.finished = first.finished) (same' : last'.finished = last.finished) :
    Collects bodies first' last' := by
  constructor
  · intro path other
    rw [same, same']
    exact collects.others path other
  · intro nodup body listed
    rw [same']
    exact collects.members nodup body listed

/-- **Bodies that are collected** in two parts are collected together; a path that occurs once stands for
its own body. -/
theorem append (collects : Collects bodies first middle) (collects' : Collects bodies' middle last) :
    Collects (bodies ++ bodies') first last := by
  constructor
  case others =>
    intro path other
    rw [List.map_append, List.mem_append, not_or] at other
    exact (collects'.others path other.2).trans (collects.others path other.1)
  case members =>
    intro nodup body listed
    rw [List.map_append, List.nodup_append] at nodup
    obtain ⟨nodup, nodup', differ⟩ := nodup
    rcases List.mem_append.mp listed with listed | listed
    · -- The bodies behind have other paths.
      have isPath : body.1 ∈ bodies.map Prod.fst := List.mem_map_of_mem listed
      have other : body.1 ∉ bodies'.map Prod.fst := fun isPath' => differ _ isPath _ isPath' rfl
      rw [collects'.others _ other]
      exact collects.members nodup body listed
    · exact collects'.members nodup' body listed

/-- The members of a class are known once its body has been left. -/
theorem inBody {frame frame' : Frame} {frames : List Frame} (collects : Collects bodies first last)
    (inside : last.frames = frame' :: frames) (same : frame.SameClass frame') :
    Collects ((frame.path, frame.members) :: bodies) first last.popFrame := by
  have finished := finished_popFrame inside same
  constructor
  case others =>
    intro path other
    rw [List.map_cons, List.mem_cons, not_or] at other
    rw [finished, Bindings.find?_insert, if_neg (Ne.symm other.1)]
    exact collects.others path other.2
  case members =>
    intro nodup body listed
    rw [List.map_cons, List.nodup_cons] at nodup
    rw [finished, Bindings.find?_insert]
    rcases List.mem_cons.mp listed with rfl | listed
    · exact if_pos rfl
    · have differs : frame.path ≠ body.1 := by
        intro isPath
        have absent : frame.path ∉ bodies.map Prod.fst := nodup.1
        rw [isPath] at absent
        exact absent (List.mem_map_of_mem listed)
      rw [if_neg differs]
      exact collects.members nodup.2 body listed

end Collects

theorem scope_of_unvisited {room : Nat} {cursor : Cursor} {state : State}
    (halted : room = 0 ∨ state.tooDeep ≠ none) :
    ((walker env room).visit cursor state).scope = state.scope := by
  cases room with
  | zero => exact giveUpAt_scope _ _ _
  | succ room =>
    obtain ⟨place, isSome⟩ := Option.ne_none_iff_exists'.mp (halted.resolve_left (Nat.succ_ne_zero room))
    simp only [walker, isSome]

theorem scope_of_undenoted {room : Nat} {cursor : Cursor} {recording : Bool} {state : State}
    (halted : room = 0 ∨ state.tooDeep ≠ none) :
    ((walker env room).denote cursor recording state).2.scope = state.scope := by
  cases room with
  | zero => exact giveUpAt_scope _ _ _
  | succ room =>
    obtain ⟨place, isSome⟩ := Option.ne_none_iff_exists'.mp (halted.resolve_left (Nat.succ_ne_zero room))
    simp only [walker, isSome]

/-- **A script collects the members of the bodies that it enters.** By induction on what it enters. -/
theorem Enters.collects {room : Nat} {cursor : Cursor} {script : Script} {first last : State}
    {bodies : List Body} (enters : Enters env room cursor script first last bodies) :
    Collects bodies first.scope last.scope := by
  induction enters with
  | skip => exact .none rfl
  | seq _ _ ih ih' => exact ih.append ih'
  | visit _ _ ih | denote _ _ ih | under _ ih => exact ih
  | unvisited halted => exact .none (congrArg Scope.finished (scope_of_unvisited halted))
  | undenoted halted => exact .none (congrArg Scope.finished (scope_of_undenoted halted))
  | bind => exact .none (finished_modifyBlocks _ _)
  | block _ ih => exact ih.congr (finished_modifyBlocks _ _).symm (finished_modifyBlocks _ _)
  | member _ ih => exact ih.congr (finished_modifyFrame _ _).symm (finished_modifyFrame _ _)
  | @body room cursor naming script first last _ frame _ _ inner ih =>
    have leaves : Leaves env _ (naming.opened env frame first.scope) last.scope :=
      inner.does.leaves (walker_leaves env room)
    obtain ⟨frame', inside, same, -⟩ := leaves.stays rfl
    exact (ih.inBody inside same).congr (finished_modifyFrame _ _).symm rfl
  | behind quiet _ ih => exact ih.congr (congrArg Scope.finished quiet.scope.symm) rfl
  | followed _ quiet ih => exact ih.congr rfl (congrArg Scope.finished quiet.scope)

/-! ## Whole walks -/

/-- The classes outside of all class bodies have proper names, no two of them the same one, and at most one
of them is anonymous. -/
def outermostApart (env : Env) (left : List Leaving) : Bool :=
  (namedIn env left).all (properName ·.2) && decide ((namedIn env left).map (·.2)).Nodup &&
    decide (left.countP Leaving.isAnonymous ≤ 1)

/-- Names in one package are told apart by their paths. -/
theorem inPackage_inj {imports : Imports} {name name' : String}
    (same : imports.inPackage name = imports.inPackage name') : name = name' := by
  unfold Imports.inPackage at same
  split at same
  · exact same
  · have lists := congrArg String.toList same
    simp only [String.toList_append] at lists
    exact String.toList_inj.mp (List.append_cancel_left lists)

/-- At the top of a file, the check on names sets the classes apart. -/
theorem apart_of_outermostApart {scope : Scope} {left : List Leaving} (outside : scope.place = none)
    (named : outermostApart env left = true) : Apart env scope left := by
  simp only [outermostApart, Bool.and_eq_true, List.all_eq_true, decide_eq_true_eq] at named
  obtain ⟨⟨proper, names⟩, single⟩ := named
  refine ⟨proper, ?_, fun _ => single⟩
  have isPath : declaredPaths env scope left =
      ((namedIn env left).map (·.2)).map env.imports.inPackage := by
    rw [declaredPaths, List.map_map]
    apply List.map_congr_left
    intro entry _
    rw [place_within, outside]
    rfl
  rw [isPath]
  exact names.map fun _ _ => inPackage_inj

/-- **Every class body has a path of its own**, and at the end of a walk the members that are known for a
path are those of the one body with that path. -/
theorem class_paths_differ (env : Env) (root : Node) (package : '$' ∉ env.imports.package.toList)
    (outermost : outermostApart env ((leavings env Tree.maxNesting).visit (.root root)) = true)
    (named : (bodiesNamed env Tree.maxNesting).visit (.root root) = true) :
    (∃ bodies, Enters env Tree.maxNesting (.root root) .visit {} (walk env root) bodies) ∧
      ∀ bodies, Enters env Tree.maxNesting (.root root) .visit {} (walk env root) bodies →
        (bodies.map Prod.fst).Nodup ∧
          ∀ body ∈ bodies, (walk env root).scope.finished.find? body.1 = some body.2 := by
  refine ⟨(walker_enters env Tree.maxNesting).visit (.root root) {}, fun bodies enters => ?_⟩
  have entered := enters.entered package (apart_of_outermostApart rfl outermost) named
  exact ⟨entered.nodup, enters.collects.members entered.nodup⟩

/-- The method `void m() { class L { int f; } }`, or one with other names of one letter. -/
def methodWithClass (start : Nat) : Node :=
  .word "method_declaration" none start (start + 31) [
    .word "void_type" (some "type") start (start + 4) [],
    .word "identifier" (some "name") (start + 5) (start + 6) [],
    .word "formal_parameters" (some "parameters") (start + 6) (start + 8)
      [.token "(" (start + 6) (start + 7), .token ")" (start + 7) (start + 8)],
    .word "block" (some "body") (start + 9) (start + 31) [
      .token "\x7b" (start + 9) (start + 10),
      .word "class_declaration" none (start + 11) (start + 29) [
        .token "class" (start + 11) (start + 16),
        .word "identifier" (some "name") (start + 17) (start + 18) [],
        .word "class_body" (some "body") (start + 19) (start + 29) [
          .token "\x7b" (start + 19) (start + 20),
          .word "field_declaration" none (start + 21) (start + 27) [
            .word "integral_type" (some "type") (start + 21) (start + 24)
              [.token "int" (start + 21) (start + 24)],
            .word "variable_declarator" (some "declarator") (start + 25) (start + 26)
              [.word "identifier" (some "name") (start + 25) (start + 26) []],
            .token ";" (start + 26) (start + 27)],
          .token "\x7d" (start + 28) (start + 29)]],
      .token "\x7d" (start + 30) (start + 31)]]

/-- A class with two methods that each have a local class. -/
def twoLocalsTree : Node :=
  .word "program" none 0 75 [
    .word "class_declaration" none 0 75 [
      .token "class" 0 5,
      .word "identifier" (some "name") 6 7 [],
      .word "class_body" (some "body") 8 75
        [.token "\x7b" 8 9, methodWithClass 10, methodWithClass 42, .token "\x7d" 74 75]]]

/-- Its text, with the names of the local classes. -/
def twoLocalsEnv (name name' : String) : Env :=
  let text := "class A \x7b void m() \x7b class " ++ name ++ " \x7b int f; \x7d \x7d void n() \x7b class " ++ name' ++
    " \x7b int g; \x7d \x7d \x7d"
  Env.ofTree (.ofText text) twoLocalsTree ⟨[.ofDecls "map" [⟨rootClass, none, [], [], [], true⟩]]⟩

/-- Local classes `L` and `M` are entered under different paths. -/
theorem class_paths_differ_locals :
    let env := twoLocalsEnv "L" "M"
    ∃ bodies, Enters env Tree.maxNesting (.root twoLocalsTree) .visit {} (walk env twoLocalsTree) bodies ∧
      (bodies.map Prod.fst).Nodup := by
  intro env
  obtain ⟨⟨bodies, enters⟩, differ⟩ := class_paths_differ env twoLocalsTree (by decide +kernel)
    (by decide +kernel) (by decide +kernel)
  exact ⟨bodies, enters, (differ bodies enters).1⟩

/-- Two local classes of one name in different methods share a path: the fields of both are filed under it,
and of the members only those of the second are kept. -/
theorem local_classes_share_path :
    let env := twoLocalsEnv "L" "L"
    let last := walk env twoLocalsTree
    last.tooDeep = none ∧
      .field "f" "int" "A$1L" ⟨35, 36, 1, 36, 1, 37⟩ ∈ last.records ∧
      .field "g" "int" "A$1L" ⟨67, 68, 1, 68, 1, 69⟩ ∈ last.records ∧
      (last.scope.finished.find? "A$1L").map (fun members => members.fields.entries.map Prod.fst) =
        some ["g"] := by
  decide +kernel

end Walk

end SymbolIndex
