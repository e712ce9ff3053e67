import Mathlib.Data.List.Count
import SymbolIndex.Workspace

/-!
# Many callers on one workspace

A workspace is shared: any number of callers open classes at a time, and classes are taken away
meanwhile. A call to open a class takes four steps: it looks whether the name is open, it gets the
class path, it indexes the source, and it keeps the index unless the name was opened in between. Only the
steps are atomic. `Session` is a workspace with the calls on it, `Event` what can happen next; whoever
chooses the events chooses the interleaving.

**The law** (`one_index_per_name`): after any events, every class stands under its own name, a name
was opened as often as it was taken away and once more if it is open now, and no event but a removal
touches an entry. It rests on what one step can do (`Call.step_cases`).

What a step sees of the machine is given anew for each step, so that nothing is said of an archive
that stays the same. `Call.steps_eq_openClass` ties the steps to the call as a whole: `Workspace.openClass`
is a call that nobody interrupts.
-/

namespace SymbolIndex

/-- Indexing a class does not rename it. -/
theorem ClassIndex.indexWith_className (index : ClassIndex) (classpath : Classpath) :
    (index.indexWith classpath).2.className = index.className := by
  unfold ClassIndex.indexWith
  split <;> rfl

namespace Workspace

/-! ## Looking up a class -/

/-- A workspace contains the names under which it has a class. -/
theorem contains_eq (workspace : Workspace) (key : String) :
    workspace.classes.contains key = (workspace.class? key).isSome :=
  Std.TreeMap.contains_eq_isSome_getElem?

/-- What is open under a name depends on the classes alone. -/
theorem class?_of_classes {workspace later : Workspace} (same : later.classes = workspace.classes)
    (key : String) : later.class? key = workspace.class? key := by
  rw [class?, same, class?]

/-- A class that is kept stands under its name, in place of any other. -/
theorem class?_insert (workspace : Workspace) (className key : String) (index : ClassIndex) :
    class? { workspace with classes := workspace.classes.insert className index } key =
      if className = key then some index else workspace.class? key := by
  simp only [class?, Std.TreeMap.getElem?_insert, Std.LawfulEqCmp.compare_eq_iff_eq]

/-- A class that is taken away leaves its name free, and the others alone. -/
theorem class?_removeClass (workspace : Workspace) (className key : String) :
    (workspace.removeClass className).2.class? key =
      if className = key then none else workspace.class? key := by
  simp only [removeClass, class?, Std.TreeMap.getElem?_erase, Std.LawfulEqCmp.compare_eq_iff_eq]

/-- Behind closing nothing is open. -/
@[simp] theorem class?_close (workspace : Workspace) (key : String) :
    workspace.close.class? key = none := by
  simp [close, class?]

/-- The number of indexes that a name has: one or none. -/
def copies (workspace : Workspace) (key : String) : Nat :=
  if (workspace.class? key).isSome then 1 else 0

/-- A name is listed as often as there are classes under it. -/
theorem count_classNames (workspace : Workspace) (key : String) :
    workspace.classNames.count key = workspace.copies key := by
  have distinct : workspace.classNames.Nodup := Std.TreeMap.nodup_keys
  rw [distinct.count]
  simp only [copies, ← contains_eq, classNames, Std.TreeMap.mem_keys, Std.TreeMap.contains_iff_mem]

theorem copies_of_classes {workspace later : Workspace} (same : later.classes = workspace.classes)
    (key : String) : later.copies key = workspace.copies key := by
  rw [copies, class?_of_classes same, copies]

/-- A new name has one index more than before. -/
theorem copies_insert {workspace : Workspace} {className : String}
    (absent : workspace.class? className = none) (index : ClassIndex) (key : String) :
    copies { workspace with classes := workspace.classes.insert className index } key =
      workspace.copies key + if className = key then 1 else 0 := by
  by_cases same : className = key
  · subst same
    simp [copies, class?_insert, absent]
  · simp [copies, class?_insert, same]

/-- What a removal takes away and what it leaves make up what there was. -/
theorem copies_removeClass (workspace : Workspace) (className key : String) :
    ((workspace.removeClass className).1.toList.map fun _ => className).count key +
      (workspace.removeClass className).2.copies key = workspace.copies key := by
  have taken : (workspace.removeClass className).1 = workspace.class? className := rfl
  rw [copies, class?_removeClass, taken]
  by_cases same : className = key
  · subst same
    cases found : workspace.class? className <;> simp [copies, found]
  · cases workspace.class? className <;> simp [copies, same]

/-- A new class is indexed by its one attempt. -/
theorem parseWith_newClass (workspace : Workspace) (className : String) (unit : SourceUnit)
    (classpath : Classpath) :
    (workspace.newClass className unit).parseWith classpath =
      (.ok ((workspace.newClass className unit).indexWith classpath).1,
        ((workspace.newClass className unit).indexWith classpath).2) :=
  rfl

/-- An archive that was read is not read again. -/
theorem sharedClasspath_read {machine : Machine} {workspace : Workspace} {loaded : Loaded}
    {classpath : Classpath} (read : workspace.classpath = some classpath) :
    workspace.sharedClasspath machine loaded = (.ok classpath, workspace, loaded) := by
  simp only [sharedClasspath, read]

/-- Reading the archive leaves the classes alone. -/
theorem sharedClasspath_classes (machine : Machine) (workspace : Workspace) (loaded : Loaded) :
    (workspace.sharedClasspath machine loaded).2.1.classes = workspace.classes := by
  unfold sharedClasspath
  split
  · rfl
  · split <;> rfl

theorem openEach_cons (machine : Machine) (input : String × SourceUnit)
    (rest : List (String × SourceUnit)) (workspace : Workspace) (loaded : Loaded) :
    workspace.openEach machine (input :: rest) loaded =
      let opened := workspace.openClass machine input.1 input.2 loaded
      let others := opened.2.1.openEach machine rest opened.2.2
      ((input.1, opened.1) :: others.1, others.2) :=
  rfl

end Workspace

/-! ## A call in steps -/

/-- What a step sees of the machine, and the installations that were loaded before it. -/
structure Surroundings where
  machine : Machine
  loaded : Loaded

/-- How far a call to open a class has come. -/
inductive Stage where
  | called
  /-- The name was not open when the call looked. -/
  | unopened
  | ready (classpath : Classpath)
  /-- The source has been read; nothing is kept yet. -/
  | indexed (attempt : Attempt) (index : ClassIndex)
  | returned (result : Except IndexError Attempt)

/-- Whether a call has returned, and not with an error. -/
@[simp] def Stage.isOk : Stage → Bool
  | .returned (.ok _) => true
  | .returned (.error _) => false
  | .called | .unopened | .ready _ | .indexed _ _ => false

/-- A call to open a class. -/
structure Call where
  className : String
  unit : SourceUnit
  stage : Stage := .called

namespace Call

/-- What the next step of a call leads to. A call that has returned stays as it is. -/
def next (around : Surroundings) (call : Call) (workspace : Workspace) : Stage × Workspace :=
  match call.stage with
  | .called =>
    if workspace.classes.contains call.className then
      (.returned (.error (.alreadyParsed call.className)), workspace)
    else (.unopened, workspace)
  | .unopened =>
    match workspace.sharedClasspath around.machine around.loaded with
    | (.error error, workspace, _) => (.returned (.error error), workspace)
    | (.ok classpath, workspace, _) => (.ready classpath, workspace)
  | .ready classpath =>
    match (workspace.newClass call.className call.unit).parseWith classpath with
    | (.error error, _) => (.returned (.error error), workspace)
    | (.ok attempt, index) => (.indexed attempt index, workspace)
  | .indexed attempt index =>
    -- The name may have been opened since the call looked.
    if workspace.classes.contains call.className then
      (.returned (.error (.alreadyParsed call.className)), workspace)
    else
      (.returned (.ok attempt),
        { workspace with classes := workspace.classes.insert call.className index })
  | .returned result => (.returned result, workspace)

/-- One step of a call. -/
def step (around : Surroundings) (call : Call) (workspace : Workspace) : Call × Workspace :=
  let (stage, workspace) := call.next around workspace
  ({ call with stage }, workspace)

/-- A call that has returned takes no more steps. -/
theorem step_returned {call : Call} {result : Except IndexError Attempt}
    (settled : call.stage = .returned result) (around : Surroundings) (workspace : Workspace) :
    call.step around workspace = (call, workspace) := by
  obtain ⟨className, unit, stage⟩ := call
  cases settled
  rfl

/-- Some steps of a call on end. -/
def steps (around : Surroundings) : Nat → Call → Workspace → Call × Workspace
  | 0, call, workspace => (call, workspace)
  | count + 1, call, workspace =>
    steps around count (call.step around workspace).1 (call.step around workspace).2

/-- Whether the call has opened a name. -/
def opened (key : String) (call : Call) : Bool :=
  call.className = key && call.stage.isOk

theorem className_of_opened {key : String} (call : Call) (opened : call.opened key) :
    call.className = key := by
  simp only [Call.opened, Bool.and_eq_true, decide_eq_true_eq] at opened
  exact opened.1

/-- Whether what a call is about to keep is a class of its own name. -/
def Named (call : Call) : Prop :=
  ∀ attempt index, call.stage = .indexed attempt index → index.className = call.className

/-- **What a step can do.** It keeps the classes and opens nothing new, or it keeps the index of a name
that is not open and returns. -/
theorem step_cases (around : Surroundings) (call : Call) (workspace : Workspace) :
    ((call.step around workspace).2.classes = workspace.classes ∧
      ∀ key, (call.step around workspace).1.opened key = call.opened key) ∨
    ∃ attempt index, call.stage = .indexed attempt index ∧
      workspace.class? call.className = none ∧
      call.step around workspace =
        ({ call with stage := .returned (.ok attempt) },
          { workspace with classes := workspace.classes.insert call.className index }) := by
  obtain ⟨className, unit, stage⟩ := call
  cases stage with
  | called =>
    refine .inl ?_
    simp only [step, next]
    split <;> exact ⟨rfl, fun _ => rfl⟩
  | unopened =>
    refine .inl ?_
    have same := Workspace.sharedClasspath_classes around.machine workspace around.loaded
    simp only [step, next]
    split <;> rename_i shared <;> rw [shared] at same <;> exact ⟨same, fun _ => rfl⟩
  | ready classpath =>
    refine .inl ?_
    simp only [step, next]
    split <;> exact ⟨rfl, fun _ => rfl⟩
  | indexed attempt index =>
    simp only [step, next]
    split
    · exact .inl ⟨rfl, fun _ => rfl⟩
    · rename_i absent
      rw [Workspace.contains_eq, Option.not_isSome_iff_eq_none] at absent
      exact .inr ⟨attempt, index, rfl, absent, rfl⟩
  | returned result => exact .inl ⟨rfl, fun _ => rfl⟩

/-- **A step keeps a call named**: what it is about to keep has the call's own name. -/
theorem named_step (around : Surroundings) (call : Call) (workspace : Workspace) :
    (call.step around workspace).1.Named := by
  obtain ⟨className, unit, stage⟩ := call
  intro attempt index reached
  -- Only the third step leads to an index, and it is that of a new class.
  cases stage with
  | ready classpath =>
    simp only [step, next, Workspace.parseWith_newClass] at reached
    cases reached
    exact ClassIndex.indexWith_className _ classpath
  | called | unopened | indexed =>
    simp only [step, next] at reached
    split at reached <;> cases reached
  | returned => cases reached

/-- **A call that nobody interrupts.** Its four steps on end are `Workspace.openClass`. -/
theorem steps_eq_openClass (machine : Machine) (className : String) (unit : SourceUnit)
    (workspace : Workspace) (loaded : Loaded) :
    steps ⟨machine, loaded⟩ 4 { className, unit } workspace =
      ({ className, unit, stage := .returned (workspace.openClass machine className unit loaded).1 },
        (workspace.openClass machine className unit loaded).2.1) := by
  unfold Workspace.openClass
  by_cases present : workspace.classes.contains className = true
  · simp [steps, step, next, present]
  · have same := Workspace.sharedClasspath_classes machine workspace loaded
    rcases read : workspace.sharedClasspath machine loaded with ⟨error | classpath, shared, loadedThen⟩
    · simp [steps, step, next, present, read]
    · rw [read] at same
      simp only at same
      simp [steps, step, next, present, read, Workspace.parseWith_newClass, Workspace.keepClass, same]

end Call

/-! ## A workspace with its callers -/

/-- A workspace, the calls that were made on it, and what was taken away. -/
structure Session where
  workspace : Workspace
  calls : List Call := []
  /-- The names of the entries that were taken away, once for each time. -/
  taken : List String := []

/-- What can happen next. -/
inductive Event where
  | call (className : String) (unit : SourceUnit)
  /-- A call takes its next step. -/
  | advance (caller : Nat) (around : Surroundings)
  | remove (className : String)
  | close

namespace Session

/-- The session after an event. -/
def after (session : Session) : Event → Session
  | .call className unit => { session with calls := session.calls ++ [{ className, unit }] }
  | .advance caller around =>
    match session.calls[caller]? with
    | none => session
    | some call =>
      let (call, workspace) := call.step around session.workspace
      { session with workspace, calls := session.calls.set caller call }
  | .remove className =>
    let (entry, workspace) := session.workspace.removeClass className
    { session with workspace, taken := (entry.toList.map fun _ => className) ++ session.taken }
  | .close =>
    { session with
      workspace := session.workspace.close
      taken := session.workspace.classNames ++ session.taken }

/-- The session after a list of events. -/
def run (events : List Event) (session : Session) : Session :=
  events.foldl after session

/-- The number of calls that opened a name. -/
def opened (session : Session) (key : String) : Nat :=
  session.calls.countP (Call.opened key)

/-- An event for a call that is there takes the next step of the call. -/
theorem after_advance {session : Session} {caller : Nat} {call : Call} (around : Surroundings)
    (found : session.calls[caller]? = some call) :
    session.after (.advance caller around) =
      { session with
        workspace := (call.step around session.workspace).2
        calls := session.calls.set caller (call.step around session.workspace).1 } := by
  simp only [after, found]

/-- An invariant of every event is one of every run. -/
theorem run_induction {motive : Session → Prop}
    (step : ∀ session event, motive session → motive (session.after event))
    (events : List Event) (session : Session) (start : motive session) : motive (session.run events) := by
  induction events generalizing session with
  | nil => exact start
  | cons event events ih => exact ih _ (step session event start)

/-- A list around one of its places, before and after a change there. -/
theorem split_set {α : Type} {list : List α} {place : Nat} {old : α} (found : list[place]? = some old)
    (new : α) : ∃ before behind, list = before ++ old :: behind ∧
      list.set place new = before ++ new :: behind := by
  obtain ⟨inside, rfl⟩ := List.getElem?_eq_some_iff.mp found
  obtain ⟨before, behind, list_eq, -, set_eq⟩ := List.exists_of_set inside
  exact ⟨before, behind, list_eq, set_eq⟩

/-! ## Opened and taken away -/

/-- Since the start, a name was opened as often as it was taken away, but for the index that it had or
has. -/
def Balanced (start : Workspace) (session : Session) : Prop :=
  ∀ key, session.opened key + start.copies key = session.taken.count key + session.workspace.copies key

/-- **Every event keeps the balance.** A step that keeps a class counts it as opened, one that takes a
class away counts it as taken; no other event changes either side. -/
theorem Balanced.after {start : Workspace} {session : Session} (balanced : Balanced start session)
    (event : Event) : Balanced start (session.after event) := by
  intro key
  have before := balanced key
  cases event with
  | call className unit =>
    have uncounted : [({ className, unit } : Call)].countP (Call.opened key) = 0 := by
      simp [Call.opened]
    simpa only [Session.after, opened, List.countP_append, uncounted, Nat.add_zero] using before
  | advance caller around =>
    cases found : session.calls[caller]? with
    | none => simpa only [Session.after, found] using before
    | some call =>
      obtain ⟨front, behind, calls_eq, set_eq⟩ :=
        split_set found (call.step around session.workspace).1
      rw [after_advance around found]
      simp only [opened, set_eq]
      simp only [opened, calls_eq, List.countP_append, List.countP_cons] at before ⊢
      obtain ⟨same, none_new⟩ | ⟨attempt, index, reached, absent, stepped⟩ :=
        call.step_cases around session.workspace
      · rw [none_new, Workspace.copies_of_classes same]
        omega
      · -- The call had opened nothing before, and has opened its name now.
        have unopened : call.opened key = false := by simp [Call.opened, reached]
        have opens : Call.opened key { call with stage := .returned (.ok attempt) } =
            decide (call.className = key) := by
          simp [Call.opened]
        simp only [unopened, stepped, opens, Workspace.copies_insert absent, decide_eq_true_eq,
          Bool.false_eq_true, if_false] at before ⊢
        omega
  | remove className =>
    have parts := session.workspace.copies_removeClass className key
    simp only [Session.after, opened, List.count_append] at before ⊢
    omega
  | close =>
    have emptied : session.workspace.close.copies key = 0 := by simp [Workspace.copies]
    simp only [Session.after, opened, List.count_append, Workspace.count_classNames, emptied] at before ⊢
    omega

/-! ## Classes under their own names -/

/-- Every class stands under its own name, and so will those about to be kept. -/
structure WellNamed (session : Session) : Prop where
  kept : ∀ key index, session.workspace.class? key = some index → index.className = key
  pending : ∀ call ∈ session.calls, call.Named

/-- **Every event keeps the names.** A new call is named by its class, a step keeps it so, and what is
taken away leaves the others in place. -/
theorem WellNamed.after {session : Session} (named : WellNamed session) (event : Event) :
    WellNamed (session.after event) := by
  cases event with
  | call className unit =>
    refine ⟨named.kept, fun call member => ?_⟩
    obtain old | new := List.mem_append.mp member
    · exact named.pending call old
    · rw [List.mem_singleton.mp new]
      intro attempt index reached
      cases reached
  | advance caller around =>
    cases found : session.calls[caller]? with
    | none => simpa only [Session.after, found] using named
    | some call =>
      rw [after_advance around found]
      refine ⟨fun key index present => ?_, fun other member => ?_⟩
      · obtain ⟨same, -⟩ | ⟨attempt, fresh, reached, absent, stepped⟩ :=
          call.step_cases around session.workspace
        · rw [Workspace.class?_of_classes same] at present
          exact named.kept key index present
        · rw [stepped, Workspace.class?_insert] at present
          split at present
          · rename_i same
            cases present
            rw [← same]
            exact named.pending call (List.mem_of_getElem? found) attempt index reached
          · exact named.kept key index present
      · obtain old | new := List.mem_or_eq_of_mem_set member
        · exact named.pending other old
        · rw [new]
          exact call.named_step around session.workspace
  | remove className =>
    refine ⟨fun key index present => ?_, named.pending⟩
    rw [Session.after, Workspace.class?_removeClass] at present
    split at present
    · cases present
    · exact named.kept key index present
  | close =>
    refine ⟨fun key index present => ?_, named.pending⟩
    rw [Session.after, Workspace.class?_close] at present
    cases present

/-! ## Entries stay -/

/-- An entry stays as it is, or it is gone because its name was removed or the workspace closed. -/
theorem class?_after {session : Session} {key : String} {index : ClassIndex}
    (present : session.workspace.class? key = some index) (event : Event) :
    (session.after event).workspace.class? key = some index ∨
      ((session.after event).workspace.class? key = none ∧ (event = .remove key ∨ event = .close)) := by
  cases event with
  | call className unit => exact .inl present
  | advance caller around =>
    refine .inl ?_
    cases found : session.calls[caller]? with
    | none => simpa only [Session.after, found] using present
    | some call =>
      rw [after_advance around found]
      obtain ⟨same, -⟩ | ⟨attempt, fresh, -, absent, stepped⟩ :=
        call.step_cases around session.workspace
      · rw [Workspace.class?_of_classes same]
        exact present
      · have other : call.className ≠ key := by
          rintro rfl
          rw [present] at absent
          cases absent
        rw [stepped, Workspace.class?_insert, if_neg other]
        exact present
  | remove className =>
    simp only [Session.after, Workspace.class?_removeClass]
    by_cases same : className = key
    · exact .inr ⟨if_pos same, .inl (by rw [same])⟩
    · exact .inl (by rw [if_neg same, present])
  | close => exact .inr ⟨Workspace.class?_close _ key, .inr rfl⟩

/-- A class that is open stays so until it is removed or everything is closed. -/
theorem class?_run {session : Session} {key : String} {index : ClassIndex}
    (present : session.workspace.class? key = some index) (events : List Event) :
    (session.run events).workspace.class? key = some index ∨
      .remove key ∈ events ∨ .close ∈ events := by
  induction events generalizing session with
  | nil => exact .inl present
  | cons event events ih =>
    obtain stays | ⟨-, taken⟩ := class?_after present event
    · obtain stays | taken := ih stays
      · exact .inl stays
      · exact .inr (taken.imp (List.mem_cons_of_mem _) (List.mem_cons_of_mem _))
    · refine .inr (taken.imp ?_ ?_) <;> rintro rfl <;> exact List.mem_cons_self

/-- A step by which no class is opened leaves the classes alone. -/
theorem classes_after_advance {session : Session} {caller : Nat} {around : Surroundings} {call : Call}
    (stepped : (session.after (.advance caller around)).calls[caller]? = some call)
    (closed : ∀ attempt, call.stage ≠ .returned (.ok attempt)) :
    (session.after (.advance caller around)).workspace.classes = session.workspace.classes := by
  cases found : session.calls[caller]? with
  | none => simp only [Session.after, found]
  | some earlier =>
    have inside : caller < session.calls.length := (List.getElem?_eq_some_iff.mp found).1
    rw [after_advance around found] at stepped ⊢
    simp only [List.getElem?_set_self inside, Option.some.injEq] at stepped
    obtain ⟨same, -⟩ | ⟨attempt, index, -, -, opened⟩ := earlier.step_cases around session.workspace
    · exact same
    · rw [opened] at stepped
      rw [← stepped] at closed
      exact absurd rfl (closed attempt)

/-! ## The law -/

/-- What holds of a session, whatever has happened in it. -/
structure Consistent (session : Session) : Prop where
  /-- Every class stands under its own name. -/
  named : ∀ key index, session.workspace.class? key = some index → index.className = key
  /-- A name was opened as often as it was taken away, and once more if it is open. -/
  balanced : ∀ key, session.opened key =
    session.taken.count key + if (session.workspace.class? key).isSome then 1 else 0

/-- What can come of a session. -/
structure Orderly (session : Session) : Prop where
  /-- An event leaves an entry as it is, or takes it away by removing its name or by closing. -/
  touched : ∀ key index, session.workspace.class? key = some index → ∀ event,
    (session.after event).workspace.class? key = some index ∨
      ((session.after event).workspace.class? key = none ∧ (event = .remove key ∨ event = .close))
  /-- So an entry stays as it is while its name is not removed and the workspace not closed. -/
  stays : ∀ key index, session.workspace.class? key = some index → ∀ events : List Event,
    (session.run events).workspace.class? key = some index ∨ .remove key ∈ events ∨ .close ∈ events
  /-- A step by which a call does not return the index of a class leaves the classes alone. -/
  refused : ∀ caller around call, (session.after (.advance caller around)).calls[caller]? = some call →
    (∀ attempt, call.stage ≠ .returned (.ok attempt)) →
    (session.after (.advance caller around)).workspace.classes = session.workspace.classes

/-- **One index for a name.** Whatever calls are made on a new workspace, however their steps are
interleaved, and whatever is removed meanwhile: the session is consistent, and only a removal touches an
entry. -/
theorem one_index_per_name (name file : String) (settings : Settings) (events : List Event) :
    (run events { workspace := { name, file, settings } }).Consistent ∧
      (run events { workspace := { name, file, settings } }).Orderly := by
  let start : Workspace := { name, file, settings }
  have vacant : ∀ key, start.class? key = none := fun key => by simp [start, Workspace.class?]
  have named : WellNamed (run events { workspace := start }) := by
    refine run_induction (fun _ event named => named.after event) events _ ⟨fun key index present => ?_, ?_⟩
    · rw [vacant] at present
      cases present
    · exact fun _ member => nomatch member
  have balanced : Balanced start (run events { workspace := start }) :=
    run_induction (fun _ event balanced => balanced.after event) events _ fun _ => rfl
  refine ⟨⟨named.kept, fun key => ?_⟩, ?_⟩
  · have counted := balanced key
    rw [Workspace.copies, vacant] at counted
    exact counted
  · exact ⟨fun _ _ => class?_after, fun _ _ => class?_run, fun _ _ _ => classes_after_advance⟩

end Session

end SymbolIndex
