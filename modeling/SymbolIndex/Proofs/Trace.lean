import SymbolIndex.Proofs.Run.Walker

/-!
# A walk as a sequence of steps

For much of what is said of a walk neither its places nor its nesting matter. `Step` lists what a walk does
to its state one thing at a time: it files a declaration or a reference, makes a note, changes blocks or
the head of a frame, opens and closes frames, and may give up. Each step comes with the marks of the outline
that it passes, and a `Trace` is a sequence of steps. Every run is a trace (`Run.trace`).

What holds of a whole walk is then proved for the single step: that declarations are filed as the outline
lists them (`Trace.filed`), or that what is filed has an origin in the scope of its moment.
-/

namespace SymbolIndex.Walk

open SymbolIndex.Tree (Node Cursor)

/-! ## Steps and traces -/

/-- One step of a walk, with the marks that it passes. -/
inductive Step (env : Env) : List Mark → State → State → Prop
  /-- A declaration is filed under its name. -/
  | declaration {state : State} (name : Node) (occurrence : Occurrence)
      (declares : occurrence.isDeclaration = true)
      (placed : occurrence.span = Span.ofNode env.source name) :
      Step env [.name occurrence.kind name] state (state.file (env.text name) occurrence)
  /-- A reference is filed, unless it is one to the innermost class. -/
  | reference {state : State} (name : Node) (kind : MemberKind) (declaring : String)
      (origin : Origin env state.scope (env.text name) kind declaring) :
      Step env [.name .reference name] state (state.fileReference env name kind declaring)
  /-- A name is passed over that refers to nothing known. -/
  | passed {state : State} (name : Node) : Step env [.name .reference name] state state
  | noted {state : State} (node : Node) (cause : Unresolved) :
      Step env [] state (state.note env node cause)
  | blocks {state : State} (change : List Block → List Block) :
      Step env [] state (state.withScope (·.modifyBlocks change))
  /-- The innermost frame changes, but not its class. -/
  | frame {state : State} (change : Frame → Frame)
      (same : ∀ frame, (change frame).path = frame.path ∧ (change frame).members = frame.members) :
      Step env [] state (state.withScope (·.modifyFrame change))
  /-- A class is entered. Its path is longer than that of the class around it. -/
  | opened {state : State} (frame : Frame)
      (longer : ∀ outer ∈ state.scope.frame?, outer.path.length < frame.path.length) :
      Step env [] state (state.withScope fun scope => { scope with frames := frame :: scope.frames })
  | closed {state : State} : Step env [] state (state.withScope Scope.popFrame)
  /-- The walk is given up where the outline shows the limit. -/
  | limit {state : State} (node : Node) : Step env [.limit] state (state.giveUpAt env node)
  /-- The walk is given up while an expression is only typed. -/
  | spent {state : State} (node : Node) : Step env [] state (state.giveUpAt env node)
  /-- Once given up, the walk does nothing more. -/
  | stopped {state : State} (marks : List Mark) (given : state.tooDeep.isSome) :
      Step env marks state state

/-- A sequence of steps, with the marks that it passes. -/
inductive Trace (env : Env) : List Mark → State → State → Prop
  | refl {state : State} : Trace env [] state state
  | step {marks passed : List Mark} {first middle last : State} (run : Trace env marks first middle)
      (next : Step env passed middle last) : Trace env (marks ++ passed) first last

variable {env : Env}

/-- A single step is a trace. -/
theorem Step.trace {marks : List Mark} {first last : State} (step : Step env marks first last) :
    Trace env marks first last :=
  .step .refl step

namespace Trace

variable {marks passed : List Mark} {first middle last : State}

/-- Traces follow one another. -/
theorem trans (run : Trace env marks first middle) (rest : Trace env passed middle last) :
    Trace env (marks ++ passed) first last := by
  induction rest with
  | refl => rw [List.append_nil]; exact run
  | step _ next ih => rw [← List.append_assoc]; exact .step (ih run) next

/-- A run behind one that passes nothing. -/
theorem behind (quiet : Trace env [] first middle) (run : Trace env marks middle last) :
    Trace env marks first last :=
  quiet.trans run

/-- A run in front of a step that passes nothing. -/
theorem followed (run : Trace env marks first middle) (quiet : Step env [] middle last) :
    Trace env marks first last := by
  have whole := run.trans quiet.trace
  rwa [List.append_nil] at whole

/-- **The induction over a run.** What every step keeps, a run keeps. -/
theorem keeps {invariant : State → Prop}
    (step : ∀ {marks first last}, Step env marks first last → invariant first → invariant last)
    (run : Trace env marks first last) (before : invariant first) : invariant last := by
  induction run with
  | refl => exact before
  | step _ next ih => exact step next (ih before)

theorem setMethod {method : Option String} {state : State} :
    Step env [] state (state.withScope (·.setMethod method)) :=
  .frame _ fun _ => ⟨rfl, rfl⟩

end Trace

/-- **A run is a trace.** What a run does at its places and takes back again are steps, one after
another. -/
theorem Run.trace {sited : Prop} {mode : Mode} {place : List Node} {marks : List Mark}
    {first last : State} (run : Run env sited mode place marks first last) :
    Trace env marks first last := by
  induction run with
  | refl => exact .refl
  | trans _ _ ih ih' => exact ih.trans ih'
  | descend _ _ _ ih => exact ih
  | declaration occurrence declares _ placed _ =>
    exact (Step.declaration _ occurrence declares placed).trace
  | reference kind declaring origin => exact (Step.reference _ kind declaring origin).trace
  | passed name => exact (Step.passed name).trace
  | noted node cause => exact (Step.noted node cause).trace
  | declare name type => exact (Step.blocks _).trace
  | frame nested anonymous =>
    refine Step.trace (.frame _ ?_)
    exact fun _ => ⟨rfl, rfl⟩
  | inBlock _ ih => exact ((Step.blocks _).trace.behind ih).followed (.blocks _)
  | inMethod _ _ ih => exact (Trace.setMethod.trace.behind ih).followed Trace.setMethod
  | inType longer _ _ ih => exact ((Step.opened _ longer).trace.behind ih).followed .closed
  | limit node => exact (Step.limit node).trace
  | spent node => exact (Step.spent node).trace
  | stopped marks given => exact (Step.stopped marks given).trace

/-- **The trace of a walk** passes the marks of the whole outline, from nothing filed on. -/
theorem walk_trace (env : Env) (root : Node) :
    Trace env ((outline Tree.maxNesting).visit root) {} (walk env root) :=
  ((walker_runs env False Tree.maxNesting).visit (Cursor.root root) {} False.elim).trace

/-! ## What is filed on a run -/

/-- What is said of an occurrence by its place: its kind and the span of its name. -/
abbrev Label := OccurrenceKind × Span

/-- Whether a label belongs to a declaration. -/
def Label.declares (label : Label) : Bool :=
  label.1 != .reference

/-- The label of what is filed at a mark. -/
def Mark.label? (source : Tree.Source) : Mark → Option Label
  | .name kind token => some (kind, Span.ofNode source token)
  | .limit => none

/-- The labels of what is filed at marks. -/
def labels (source : Tree.Source) (marks : List Mark) : List Label :=
  marks.filterMap (Mark.label? source)

theorem labels_append (source : Tree.Source) (first second : List Mark) :
    labels source (first ++ second) = labels source first ++ labels source second :=
  List.filterMap_append

/-- The label of an occurrence. -/
def labelOf (occurrence : Occurrence) : Label :=
  (occurrence.kind, occurrence.span)

/-- The labels of what was filed, in the order of filing. -/
def State.labels (state : State) : List Label :=
  state.filings.reverse.map fun filing => labelOf filing.occurrence

/-- What is filed is labelled behind what was filed before. -/
theorem State.labels_file (state : State) (key : String) (occurrence : Occurrence) :
    (state.file key occurrence).labels = state.labels ++ [labelOf occurrence] := by
  simp only [State.labels, State.file, List.reverse_cons, List.map_append, List.map_cons,
    List.map_nil]

/-- What a run has filed: a part of what its marks call for, and all declarations among them if the
walk was not given up. -/
structure Filed (env : Env) (marks : List Mark) (first last : State) (added : List Label) : Prop where
  appended : last.labels = first.labels ++ added
  listed : added.Sublist (labels env.source marks)
  declared : last.tooDeep = none →
    added.filter Label.declares = (labels env.source marks).filter Label.declares

theorem giveUpAt_tooDeep (env : Env) (node : Node) (state : State) :
    (state.giveUpAt env node).tooDeep ≠ none := by
  unfold State.giveUpAt
  split
  · rename_i given
    rw [given]
    exact Option.some_ne_none _
  · exact Option.some_ne_none _

/-- Giving up files nothing. -/
theorem giveUpAt_filings (env : Env) (node : Node) (state : State) :
    (state.giveUpAt env node).filings = state.filings := by
  unfold State.giveUpAt
  split <;> rfl

/-- A reference is filed, or passed as one to the innermost class. -/
theorem fileReference_filed (env : Env) (name : Node) (kind : MemberKind) (declaring : String)
    (state : State) :
    (state.fileReference env name kind declaring).labels = state.labels ∨
      (state.fileReference env name kind declaring).labels =
        state.labels ++ [(.reference, Span.ofNode env.source name)] := by
  unfold State.fileReference
  split
  · exact .inl rfl
  · exact .inr (State.labels_file ..)

/-- A run that files nothing and passes no name. -/
theorem Filed.none {first last : State} {marks : List Mark} (same : last.labels = first.labels)
    (nameless : labels env.source marks = []) : Filed env marks first last [] where
  appended := by rw [same, List.append_nil]
  listed := List.nil_sublist _
  declared _ := by rw [nameless]

/-- What one step files. -/
theorem Step.filed {marks : List Mark} {first last : State} (step : Step env marks first last) :
    ∃ added, Filed env marks first last added := by
  cases step with
  | declaration name occurrence declares placed =>
    have same : labelOf occurrence = (occurrence.kind, Span.ofNode env.source name) := by
      rw [labelOf, placed]
    refine ⟨_, State.labels_file .., ?_, fun _ => ?_⟩
    · rw [same]; exact List.Sublist.refl _
    · rw [same]; rfl
  | reference name kind declaring origin =>
    obtain same | added := fileReference_filed env name kind declaring first
    · exact ⟨[], by rw [same, List.append_nil], List.nil_sublist _, fun _ => rfl⟩
    · exact ⟨_, added, List.Sublist.refl _, fun _ => rfl⟩
  | passed name => exact ⟨[], by rw [List.append_nil], List.nil_sublist _, fun _ => rfl⟩
  | noted node cause => exact ⟨[], .none rfl rfl⟩
  | blocks change => exact ⟨[], .none rfl rfl⟩
  | frame change same => exact ⟨[], .none rfl rfl⟩
  | opened frame longer => exact ⟨[], .none rfl rfl⟩
  | closed => exact ⟨[], .none rfl rfl⟩
  | limit node => exact ⟨[], .none (by rw [State.labels, giveUpAt_filings]; rfl) rfl⟩
  | spent node => exact ⟨[], .none (by rw [State.labels, giveUpAt_filings]; rfl) rfl⟩
  | stopped marks given =>
    refine ⟨[], by rw [List.append_nil], List.nil_sublist _, fun alive => ?_⟩
    rw [alive] at given
    cases given

/-- A walk that has been given up stays so. -/
theorem Step.alive {marks : List Mark} {first last : State} (step : Step env marks first last)
    (alive : last.tooDeep = none) : first.tooDeep = none ∧ Mark.limit ∉ marks := by
  cases step with
  | limit node => exact absurd alive (giveUpAt_tooDeep env node first)
  | spent node => exact absurd alive (giveUpAt_tooDeep env node first)
  | stopped marks given => rw [alive] at given; cases given
  | reference name kind declaring origin =>
    refine ⟨?_, by simp⟩
    unfold State.fileReference at alive
    split at alive <;> exact alive
  | _ => exact ⟨alive, by simp⟩

/-- A run that is not given up passes no limit, and was not given up before. -/
theorem Trace.alive {marks : List Mark} {first last : State} (run : Trace env marks first last)
    (alive : last.tooDeep = none) : first.tooDeep = none ∧ Mark.limit ∉ marks := by
  induction run with
  | refl => exact ⟨alive, List.not_mem_nil⟩
  | step run next ih =>
    have here := next.alive alive
    have before := ih here.1
    refine ⟨before.1, fun member => ?_⟩
    rcases List.mem_append.mp member with earlier | now
    · exact before.2 earlier
    · exact here.2 now

/-- **What a run files.** Declarations are filed just as the marks list them, references in the same
order but not all of them. -/
theorem Trace.filed {marks : List Mark} {first last : State} (run : Trace env marks first last) :
    ∃ added, Filed env marks first last added := by
  induction run with
  | refl => exact ⟨[], .none rfl rfl⟩
  | @step marks passed first middle last run next ih =>
    obtain ⟨before, earlier⟩ := ih
    obtain ⟨now, filed⟩ := next.filed
    refine ⟨before ++ now, ?_, ?_, fun alive => ?_⟩
    · rw [filed.appended, earlier.appended, List.append_assoc]
    · rw [labels_append]
      exact earlier.listed.append filed.listed
    · rw [labels_append, List.filter_append, List.filter_append, filed.declared alive,
        earlier.declared (next.alive alive).1]

/-- What a walk files is part of its outline. -/
theorem walk_labels_sublist (env : Env) (root : Node) :
    (walk env root).labels.Sublist
      (labels env.source ((outline Tree.maxNesting).visit root)) := by
  obtain ⟨added, filed⟩ := (walk_trace env root).filed
  have same : (walk env root).labels = added := filed.appended
  rw [same]
  exact filed.listed

/-- A walk that is not given up meets no limit and files every declaration of its outline. -/
theorem walk_declarations {env : Env} {root : Node} (alive : (walk env root).tooDeep = none) :
    Mark.limit ∉ (outline Tree.maxNesting).visit root ∧
      (walk env root).labels.filter Label.declares =
        (labels env.source ((outline Tree.maxNesting).visit root)).filter Label.declares := by
  obtain ⟨added, filed⟩ := (walk_trace env root).filed
  have same : (walk env root).labels = added := filed.appended
  rw [same]
  exact ⟨((walk_trace env root).alive alive).2, filed.declared alive⟩

end SymbolIndex.Walk
