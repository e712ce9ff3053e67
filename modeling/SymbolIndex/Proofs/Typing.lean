import SymbolIndex.Proofs.Nesting

/-!
# Typing without recording

The initial value of a `var` local is walked like any other expression, and then it is followed a second
time for its type. The second time must leave no trace, or every reference in it would be filed twice and
every class in it numbered twice. The same functions serve both times, with a flag for the recording.

`Spares` is what a step may do that is to leave no trace: it may find that the walk is nested too deep,
if that was not known before, and nothing else. Each of the functions that follow an expression is shown to
keep to it as long as the walker below does (`denoteNode_spares`), and so the walker does, by induction on
the levels left.

**The law** (`typing_leaves_no_trace`): to type an expression without recording spares the state, wherever
the walk is and whatever it has done so far, and gives back every level that it takes.

The law says nothing of the outcome. Where the walk is given up on the way the outcome is an error, and
then the place that is noted is the one thing that a walk keeps of it.
-/

namespace SymbolIndex.Walk

open SymbolIndex.Tree (Node Cursor)

/-! ## Steps without a trace -/

/-- The state is as it was, but for the place where the walk was given up if it was not before. -/
structure Spares (first last : State) : Prop where
  scope : last.scope = first.scope
  filings : last.filings = first.filings
  notes : last.notes = first.notes
  tooDeep : first.tooDeep ≠ none → last.tooDeep = first.tooDeep

namespace Spares

variable {first middle last : State}

theorem refl (state : State) : Spares state state :=
  ⟨rfl, rfl, rfl, fun _ => rfl⟩

theorem of_eq (same : last = first) : Spares first last :=
  same ▸ refl first

theorem trans (early : Spares first middle) (late : Spares middle last) : Spares first last where
  scope := late.scope.trans early.scope
  filings := late.filings.trans early.filings
  notes := late.notes.trans early.notes
  tooDeep given := by
    have kept := early.tooDeep given
    rw [late.tooDeep (kept ▸ given), kept]

/-- Giving up marks the place, and leaves the rest alone. -/
theorem giveUpAt (env : Env) (node : Node) (state : State) : Spares state (state.giveUpAt env node) := by
  unfold State.giveUpAt
  cases given : state.tooDeep with
  | some position => exact refl state
  | none => exact ⟨rfl, rfl, rfl, fun found => absurd given found⟩

/-- **Nothing else can differ**: the fields of a state are these four. -/
theorem eq_with (spares : Spares first last) : last = { first with tooDeep := last.tooDeep } := by
  obtain ⟨sameScope, sameFilings, sameNotes, -⟩ := spares
  cases last
  cases sameScope
  cases sameFilings
  cases sameNotes
  rfl

end Spares

/-- A walker that types without a trace. -/
def Walker.Spares (walker : Walker) : Prop :=
  ∀ cursor state, Walk.Spares state (walker.denote cursor false state).2

/-! ## Names and members -/

section Members

variable (env : Env) (state : State)

/-- A name that is looked up without recording leaves the state as it is. -/
theorem denoteName_unrecorded (node : Node) : (denoteName env node false state).2 = state := by
  unfold denoteName
  simp only
  split
  · rfl
  · rfl
  · split
    · rfl
    · split <;> rfl

/-- A member that is looked up on a type leaves the state as it is, too. -/
theorem denoteMember_unrecorded (path : String) (name : Node) (kind : MemberKind) :
    (denoteMember env path name kind false state).2 = state := by
  unfold denoteMember
  split <;> rfl

/-- A field of what an object stands for is only looked up. -/
theorem fieldOn_unrecorded (object field : Node) (referent : Referent) :
    (fieldOn env object field false referent state).2 = state := by
  unfold fieldOn
  cases referent with
  | name dotted => simp only; split <;> rfl
  | type path =>
    simp only
    split
    · rfl
    · exact denoteMember_unrecorded env state path field .field
  | value type =>
    cases type with
    | reference path => exact denoteMember_unrecorded env state path field .field
    | array element => simp only; split <;> rfl
    | primitive kind => rfl
  | unknown => rfl

/-- A method that is called on an object is only looked up. -/
theorem methodOn_unrecorded (object name : Node) (referent : Referent) :
    (methodOn env object name false referent state).2 = state := by
  unfold methodOn
  cases referent with
  | type path => exact denoteMember_unrecorded env state path name .method
  | value type =>
    cases type with
    | reference path => exact denoteMember_unrecorded env state path name .method
    | array element => rfl
    | primitive kind => rfl
  | name dotted => rfl
  | unknown => rfl

theorem referredMethod_unrecorded (qualifier name : Node) (referent : Referent) :
    (referredMethod env qualifier name false referent state).2 = state := by
  unfold referredMethod
  split
  · rfl
  · rename_i referent _
    have same := methodOn_unrecorded env state qualifier name referent
    split
    · rename_i found
      rw [found] at same
      exact same
    · rename_i found
      rw [found] at same
      exact same

end Members

/-! ## Expressions -/

section Expressions

variable {env : Env} {walker : Walker} (below : walker.Spares)

include below

/-- A field access spares the state when its object does. -/
theorem denoteField_spares (cursor : Cursor) (state : State) :
    Spares state (denoteField env walker cursor false state).2 := by
  unfold denoteField
  split
  · rename_i object field _ _
    have inner := below object state
    split
    · exact inner
    · split
      · rename_i found
        rw [found] at inner
        exact inner.trans (.of_eq (fieldOn_unrecorded ..))
      · rename_i found
        rw [found] at inner
        exact inner
  · exact .refl state

/-- What is called is found behind the object, if there is one. -/
theorem denoteCallee_spares (object : Option Cursor) (name : Node) (state : State) :
    Spares state (denoteCallee env walker object name false state).2 := by
  cases object with
  | none =>
    simp only [denoteCallee]
    split <;> exact .refl state
  | some object =>
    have inner := below object state
    simp only [denoteCallee]
    split
    · rename_i found
      rw [found] at inner
      exact inner.trans (.of_eq (methodOn_unrecorded ..))
    · rename_i found
      rw [found] at inner
      exact inner

/-- A call leaves its arguments out when nothing is recorded. -/
theorem denoteCall_spares (cursor : Cursor) (state : State) :
    Spares state (denoteCall env walker cursor false state).2 := by
  unfold denoteCall
  split
  · exact .refl state
  · exact denoteCallee_spares below (cursor.child? "object") _ state

/-- The left side of a method reference is read as a type, or denoted. -/
theorem denoteQualifier_spares (env : Env) (qualifier : Cursor) (state : State) :
    Spares state (denoteQualifier env walker qualifier false state).2 := by
  unfold denoteQualifier
  split
  · split <;> exact .refl state
  · exact below qualifier state

/-- A method reference spares the state when its left side does. -/
theorem denoteReference_spares (cursor : Cursor) (state : State) :
    Spares state (denoteReference env walker cursor false state).2 := by
  unfold denoteReference
  cases cursor.named with
  | nil => exact .refl state
  | cons qualifier others =>
    have inner := denoteQualifier_spares below env qualifier state
    simp only
    split
    · rename_i found
      rw [found] at inner
      exact inner
    · rename_i found
      rw [found] at inner
      split
      · split
        · exact inner
        · exact inner.trans (.of_eq (referredMethod_unrecorded ..))
      · exact inner

/-- An element of an array leaves its index out. -/
theorem denoteElement_spares (cursor : Cursor) (state : State) :
    Spares state (denoteElement env walker cursor false state).2 := by
  cases hasArray : cursor.child? "array" with
  | none =>
    simp only [denoteElement, hasArray]
    exact .refl state
  | some array =>
    rw [denoteElement_snd env walker cursor array false state hasArray]
    exact below array state

/-- **One expression**, of whatever kind: without recording it visits nothing, and goes on with what
stands in front of its members only. -/
theorem denoteNode_spares (cursor : Cursor) (state : State) :
    Spares state (denoteNode env walker cursor false state).2 := by
  unfold denoteNode
  cases ExprForm.ofKind cursor.kind with
  | name => exact .of_eq (denoteName_unrecorded env state cursor.node)
  | this => simp only; split <;> exact .refl state
  | super => exact .refl state
  | field => exact denoteField_spares below cursor state
  | call => exact denoteCall_spares below cursor state
  | reference => exact denoteReference_spares below cursor state
  | parenthesized =>
    simp only
    split
    · exact below _ state
    · exact .refl state
  | element => exact denoteElement_spares below cursor state
  | cast => exact .refl state
  | creation => exact .refl state
  | arrayCreation => exact .refl state
  | text => exact .refl state
  | classLiteral => exact .refl state
  | other => exact .refl state

end Expressions

/-! ## The walk -/

/-- **Typing spares the state**, by induction on the levels left: a search without recording takes its
step with a walker that spares it. -/
theorem walker_spares (env : Env) (room : Nat) : (walker env room).Spares := by
  induction room with
  | zero => exact fun cursor state => .giveUpAt env cursor.node state
  | succ room below =>
    intro cursor state
    simp only [walker, atLevel_eq]
    split
    · exact .refl state
    · exact denoteNode_spares below cursor state

/-- To type an expression with so many levels taken gives all of them back, also where there are none
left to take. -/
theorem typing_counts (env : Env) (depth : Nat) (cursor : Cursor) (state : State) :
    ∃ readings, Counts env cursor (.denote false) ⟨state, depth⟩ readings
      ⟨((walker env (Tree.maxNesting - depth)).denote cursor false state).2, depth⟩ := by
  by_cases within : depth ≤ Tree.maxNesting
  · exact (walker_counts env (Nat.sub_add_cancel within)).denote cursor false state
  · have full : (Tree.maxNesting : Int) ≤ depth := by omega
    rw [Nat.sub_eq_zero_of_le (by omega)]
    exact counts_refused rfl full state

/-- **Typing leaves no trace.** At every node, in every state and with however many levels taken, to follow
an expression without recording leaves the scope, the filings and the notes as they were, and the place of
the given up walk too unless it was empty; so does asking for the type of a value, which is nothing else.
Counted, it is a run that ends with as many levels taken as it began with. -/
theorem typing_leaves_no_trace (env : Env) (depth : Nat) (cursor : Cursor) (state : State) :
    let below := walker env (Tree.maxNesting - depth)
    let typed := (below.denote cursor false state).2
    typed = { state with tooDeep := typed.tooDeep } ∧
      (state.tooDeep ≠ none → typed = state) ∧
      (below.valueType cursor state).2 = typed ∧
      (∃ readings, Counts env cursor (.denote false) ⟨state, depth⟩ readings ⟨typed, depth⟩) := by
  intro below typed
  have spares : Spares state typed := walker_spares env (Tree.maxNesting - depth) cursor state
  refine ⟨spares.eq_with, fun given => ?_, below.valueType_snd cursor state,
    typing_counts env depth cursor state⟩
  rw [spares.eq_with, spares.tooDeep given]

end SymbolIndex.Walk
