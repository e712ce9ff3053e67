import Mathlib.Data.List.Nodup
import SymbolIndex.Proofs.Callers

/-!
# Callers that only open classes

A workspace whose archive has been read, with callers that do nothing but open classes: it gains
classes and loses none, and every call indexes its source against the one class path. `Filling` is what
holds of such a session at any time, `Filling.advance` that every step keeps it, and the rest is what it
comes to when every call has returned: which names are open, which calls opened them, and that with
distinct names nothing is left to the order of the steps.
-/

namespace SymbolIndex

/-- What a call was given. -/
def Call.input (call : Call) : String × SourceUnit :=
  (call.className, call.unit)

/-- What a class comes to when it is indexed. -/
def Workspace.indexOf (workspace : Workspace) (classpath : Classpath) (input : String × SourceUnit) :
    Attempt × ClassIndex :=
  (workspace.newClass input.1 input.2).indexWith classpath

/-- The names are decided by what is open. -/
theorem Workspace.classNames_congr {left right : Workspace}
    (same : ∀ key, (left.class? key).isSome ↔ (right.class? key).isSome) :
    left.classNames = right.classNames := by
  have members : ∀ key, key ∈ left.classNames ↔ key ∈ right.classNames := by
    intro key
    simp only [classNames, Std.TreeMap.mem_keys, ← Std.TreeMap.contains_iff_mem, contains_eq, same key]
  have perm := (List.perm_ext_iff_of_nodup Std.TreeMap.nodup_keys Std.TreeMap.nodup_keys).mpr members
  refine perm.eq_of_pairwise (fun first second _ _ less greater => ?_) Std.TreeMap.ordered_keys
    Std.TreeMap.ordered_keys
  rw [Std.OrientedCmp.gt_of_lt less] at greater
  cases greater

/-- What a call can have in hand on a workspace that has only gained classes since the start. -/
def Call.Sound (start : Workspace) (classpath : Classpath) (now : Workspace) (call : Call) : Prop :=
  match call.stage with
  | .called | .unopened => True
  | .ready found => found = classpath
  | .indexed attempt index => start.indexOf classpath call.input = (attempt, index)
  | .returned (.ok attempt) => (start.indexOf classpath call.input).1 = attempt
  | .returned (.error error) =>
    error = .alreadyParsed call.className ∧ (now.class? call.className).isSome

/-- What holds while classes are opened and nothing is taken away. -/
structure Filling (start : Workspace) (classpath : Classpath) (inputs : List (String × SourceUnit))
    (session : Session) : Prop where
  /-- The archive had been read. -/
  readable : start.classpath = some classpath
  inputs : session.calls.map Call.input = inputs
  /-- Nothing but the classes has changed. -/
  fixed : { session.workspace with classes := start.classes } = start
  untaken : session.taken = []
  balanced : session.Balanced start
  stays : ∀ key index, start.class? key = some index → session.workspace.class? key = some index
  sound : ∀ call ∈ session.calls, call.Sound start classpath session.workspace
  /-- A class was there from the start, or a call has put it there. -/
  entries : ∀ key index, session.workspace.class? key = some index → start.class? key = some index ∨
    ∃ call ∈ session.calls, call.opened key ∧ (start.indexOf classpath call.input).2 = index

/-! ## A step -/

namespace Call

variable {start now later : Workspace} {classpath : Classpath} {call : Call}

@[simp] theorem input_step (around : Surroundings) (call : Call) (workspace : Workspace) :
    (call.step around workspace).1.input = call.input :=
  rfl

/-- More classes do no harm. -/
theorem Sound.mono (sound : call.Sound start classpath now)
    (grows : ∀ key index, now.class? key = some index → later.class? key = some index) :
    call.Sound start classpath later := by
  unfold Sound at sound ⊢
  split at sound <;> try exact sound
  obtain ⟨index, found⟩ := Option.isSome_iff_exists.mp sound.2
  exact ⟨sound.1, Option.isSome_iff_exists.mpr ⟨index, grows _ _ found⟩⟩

theorem Sound.step (sound : call.Sound start classpath now) (readable : start.classpath = some classpath)
    (fixed : { now with classes := start.classes } = start) (around : Surroundings) :
    (call.step around now).1.Sound start classpath (call.step around now).2 ∧
      { (call.step around now).2 with classes := start.classes } = start := by
  obtain ⟨className, unit, stage⟩ := call
  cases stage with
  | called =>
    simp only [Call.step, next]
    split
    · rename_i present
      rw [Workspace.contains_eq] at present
      exact ⟨⟨rfl, present⟩, fixed⟩
    · exact ⟨trivial, fixed⟩
  | unopened =>
    have read : now.sharedClasspath around.machine around.loaded = (.ok classpath, now, around.loaded) :=
      Workspace.sharedClasspath_read (by rw [← readable, ← fixed])
    simp only [Call.step, next, read]
    exact ⟨rfl, fixed⟩
  | ready found =>
    have same : now.newClass className unit = start.newClass className unit := by rw [← fixed]; rfl
    simp only [Call.step, next, Workspace.parseWith_newClass, same]
    cases sound
    exact ⟨rfl, fixed⟩
  | indexed attempt index =>
    simp only [Call.step, next]
    split
    · rename_i present
      rw [Workspace.contains_eq] at present
      exact ⟨⟨rfl, present⟩, fixed⟩
    · exact ⟨congrArg Prod.fst sound, fixed⟩
  | returned result => exact ⟨sound, fixed⟩

end Call

namespace Filling

variable {start : Workspace} {classpath : Classpath} {inputs : List (String × SourceUnit)}
  {session : Session}

/-- Calls that have not been answered yet, on a workspace whose archive was read. -/
theorem ofInputs (readable : start.classpath = some classpath) :
    Filling start classpath inputs
      { workspace := start, calls := inputs.map fun (className, unit) => { className, unit } } where
  readable
  inputs := by simp [Call.input, Function.comp_def]
  fixed := rfl
  untaken := rfl
  balanced := by
    intro key
    have none_opened : (inputs.map fun (className, unit) => ({ className, unit } : Call)).countP
        (Call.opened key) = 0 := by
      simp [List.countP_eq_zero, Call.opened]
    simp [Session.opened, none_opened]
  stays := fun _ _ found => found
  sound := by
    intro call member
    obtain ⟨input, -, rfl⟩ := List.mem_map.mp member
    trivial
  entries := fun _ _ found => .inl found

/-- What held of some call still does when one of them changes, if the change keeps it. -/
theorem exists_mem_change {front behind : List Call} {old new : Call} {P : Call → Prop}
    (holds : ∃ call ∈ front ++ old :: behind, P call) (keeps : P old → P new) :
    ∃ call ∈ front ++ new :: behind, P call := by
  simp only [List.mem_append, List.mem_cons, or_and_right, exists_or, exists_eq_left] at holds ⊢
  exact holds.imp_right (Or.imp_left keeps)

/-- A class that is there behind a step was there from the start, or one of the calls, the one that took the
step included, has put it there. -/
theorem entries_step (filling : Filling start classpath inputs session) {front behind : List Call} {call : Call}
    (calls_eq : session.calls = front ++ call :: behind) (around : Surroundings) {key : String}
    {index : ClassIndex} (present : (call.step around session.workspace).2.class? key = some index) :
    start.class? key = some index ∨
      ∃ other ∈ front ++ (call.step around session.workspace).1 :: behind,
        other.opened key ∧ (start.indexOf classpath other.input).2 = index := by
  have earlier (there : session.workspace.class? key = some index) :
      start.class? key = some index ∨
        ∃ other ∈ front ++ call :: behind,
          other.opened key ∧ (start.indexOf classpath other.input).2 = index := by
    rw [← calls_eq]
    exact filling.entries key index there
  obtain ⟨same, none_new⟩ | ⟨attempt, fresh, reached, absent, stepped⟩ :=
    call.step_cases around session.workspace
  · rw [Workspace.class?_of_classes same] at present
    refine (earlier present).imp_right fun put => exists_mem_change put ?_
    rintro ⟨opened, index_eq⟩
    exact ⟨by rw [none_new, opened], index_eq⟩
  · simp only [stepped] at present ⊢
    rw [Workspace.class?_insert] at present
    split at present
    · -- The step has just put it there.
      rename_i same
      cases present
      have indexed := filling.sound call (calls_eq ▸ List.mem_append_right _ List.mem_cons_self)
      simp only [Call.Sound, reached] at indexed
      refine .inr ⟨_, List.mem_append_right _ List.mem_cons_self, ?_, congrArg Prod.snd indexed⟩
      simpa [Call.opened] using same
    · refine (earlier present).imp_right fun put => exists_mem_change put ?_
      simp [Call.opened, reached]

/-- **A step keeps what holds.** -/
theorem advance (filling : Filling start classpath inputs session) (caller : Nat)
    (around : Surroundings) :
    Filling start classpath inputs (session.after (.advance caller around)) := by
  have balanced := filling.balanced.after (.advance caller around)
  have grows : ∀ key index, session.workspace.class? key = some index →
      (session.after (.advance caller around)).workspace.class? key = some index := by
    intro key index present
    obtain same | ⟨-, taken⟩ := Session.class?_after present (.advance caller around)
    · exact same
    · simp at taken
  cases found : session.calls[caller]? with
  | none => simpa only [Session.after, found] using filling
  | some call =>
    have member : call ∈ session.calls := List.mem_of_getElem? found
    obtain ⟨sound, fixed⟩ := (filling.sound call member).step filling.readable filling.fixed around
    obtain ⟨front, behind, calls_eq, set_eq⟩ :=
      Session.split_set found (call.step around session.workspace).1
    rw [Session.after_advance around found, set_eq] at balanced grows ⊢
    constructor
    case readable => exact filling.readable
    case inputs =>
      rw [← filling.inputs, calls_eq]
      simp only [List.map_append, List.map_cons, Call.input_step]
    case fixed => exact fixed
    case untaken => exact filling.untaken
    case balanced => exact balanced
    case stays => exact fun key index there => grows key index (filling.stays key index there)
    case sound =>
      have others := filling.sound
      simp only [calls_eq, List.forall_mem_append, List.forall_mem_cons] at others ⊢
      exact ⟨fun other among => (others.1 other among).mono grows, sound,
        fun other among => (others.2.2 other among).mono grows⟩
    case entries => exact fun key index present => filling.entries_step calls_eq around present

/-! ## When every call has returned -/

/-- A name that was open cannot be opened. -/
theorem opened_eq_zero (filling : Filling start classpath inputs session) {key : String}
    (present : (start.class? key).isSome) : session.opened key = 0 := by
  have balanced := filling.balanced key
  have most : session.workspace.copies key ≤ 1 := by
    unfold Workspace.copies
    split <;> omega
  simp only [filling.untaken, List.count_nil, Workspace.copies, if_pos present] at balanced most
  omega

/-- A name is open once every call for it has returned. -/
theorem isSome_of_mem (filling : Filling start classpath inputs session)
    (returned : ∀ call ∈ session.calls, ∃ result, call.stage = .returned result) {key : String}
    (wanted : key ∈ inputs.map Prod.fst) : (session.workspace.class? key).isSome := by
  rw [← filling.inputs, List.map_map] at wanted
  obtain ⟨call, member, rfl⟩ := List.mem_map.mp wanted
  obtain ⟨result, settled⟩ := returned call member
  cases result with
  | error error =>
    have sound := filling.sound call member
    simp only [Call.Sound, settled] at sound
    exact sound.2
  | ok attempt =>
    -- The call counts among those that opened the name, so the name is open.
    have counted : 0 < session.opened call.className :=
      List.countP_pos_iff.mpr ⟨call, member, by simp [Call.opened, settled]⟩
    have balanced := filling.balanced call.className
    by_contra absent
    simp only [filling.untaken, List.count_nil, Workspace.copies, Call.input, Function.comp_apply]
      at balanced absent
    rw [if_neg absent] at balanced
    omega

/-- Of the calls for a name that was not open, one has opened it. -/
theorem opened_eq_one (filling : Filling start classpath inputs session)
    (returned : ∀ call ∈ session.calls, ∃ result, call.stage = .returned result) {key : String}
    (wanted : key ∈ inputs.map Prod.fst) (absent : start.class? key = none) :
    session.opened key = 1 := by
  have balanced := filling.balanced key
  have present := filling.isSome_of_mem returned wanted
  simpa [filling.untaken, Workspace.copies, present, absent] using balanced

/-- The open names are those that were open and those that were asked for. -/
theorem isSome_iff (filling : Filling start classpath inputs session)
    (returned : ∀ call ∈ session.calls, ∃ result, call.stage = .returned result) (key : String) :
    (session.workspace.class? key).isSome ↔
      (start.class? key).isSome ∨ key ∈ inputs.map Prod.fst := by
  constructor
  · intro present
    obtain ⟨index, found⟩ := Option.isSome_iff_exists.mp present
    obtain there | ⟨call, member, opened, -⟩ := filling.entries key index found
    · exact .inl (Option.isSome_iff_exists.mpr ⟨index, there⟩)
    · refine .inr ?_
      rw [← filling.inputs, List.map_map]
      exact List.mem_map.mpr ⟨call, member, call.className_of_opened opened⟩
  · rintro (there | wanted)
    · obtain ⟨index, found⟩ := Option.isSome_iff_exists.mp there
      exact Option.isSome_iff_exists.mpr ⟨index, filling.stays key index found⟩
    · exact filling.isSome_of_mem returned wanted

/-! ## Distinct names -/

theorem input_mem (filling : Filling start classpath inputs session) {call : Call}
    (member : call ∈ session.calls) : call.input ∈ inputs := by
  rw [← filling.inputs]
  exact List.mem_map_of_mem member

/-- With distinct names, what a session has put under a name is what every other one puts there. -/
theorem class?_eq_some {other : Session} (filling : Filling start classpath inputs session)
    (second : Filling start classpath inputs other) (distinct : (inputs.map Prod.fst).Nodup)
    (returned : ∀ call ∈ other.calls, ∃ result, call.stage = .returned result) {key : String}
    {index : ClassIndex} (found : session.workspace.class? key = some index) :
    other.workspace.class? key = some index := by
  obtain there | ⟨call, member, opened, rfl⟩ := filling.entries key index found
  · exact second.stays key index there
  · have wanted : key ∈ inputs.map Prod.fst :=
      List.mem_map.mpr ⟨call.input, filling.input_mem member, call.className_of_opened opened⟩
    obtain ⟨index, present⟩ := Option.isSome_iff_exists.mp (second.isSome_of_mem returned wanted)
    obtain there | ⟨twin, member_twin, opened_twin, rfl⟩ := second.entries key index present
    · rw [filling.stays key index there] at found
      rw [present, found]
    · have same : twin.input = call.input :=
        List.inj_on_of_nodup_map distinct (second.input_mem member_twin) (filling.input_mem member)
          ((twin.className_of_opened opened_twin).trans (call.className_of_opened opened).symm)
      rw [present, same]

/-- With distinct names, none of them open before, every call has opened its class. -/
theorem returned_ok (filling : Filling start classpath inputs session)
    (returned : ∀ call ∈ session.calls, ∃ result, call.stage = .returned result)
    (distinct : (inputs.map Prod.fst).Nodup) (unopened : ∀ input ∈ inputs, start.class? input.1 = none)
    {call : Call} (member : call ∈ session.calls) :
    call.stage = .returned (.ok (start.indexOf classpath call.input).1) := by
  have asked := filling.input_mem member
  have one := filling.opened_eq_one returned (List.mem_map_of_mem asked) (unopened _ asked)
  -- Some call has opened the name; it is this one.
  obtain ⟨twin, member_twin, opened⟩ := List.countP_pos_iff.mp (Nat.lt_of_lt_of_eq Nat.one_pos one.symm)
  have same : twin = call := by
    have names : (session.calls.map Call.className).Nodup := by
      rw [← filling.inputs, List.map_map] at distinct
      exact distinct
    exact List.inj_on_of_nodup_map names member_twin member (twin.className_of_opened opened)
  subst same
  have sound := filling.sound twin member
  obtain ⟨result, settled⟩ := returned twin member
  cases result with
  | error error => simp [Call.opened, settled] at opened
  | ok attempt =>
    simp only [Call.Sound, settled] at sound
    rw [settled, sound]

end Filling

end SymbolIndex
