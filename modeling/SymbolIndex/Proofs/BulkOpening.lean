import SymbolIndex.Command.Run
import SymbolIndex.Proofs.Schedules

/-!
# Opening classes in bulk

`Opens` is what opening many classes at a time can come to, by any schedule of their jobs. **The law**
(`opens_as_in_sequence`): every input has its result, in the order of the inputs; of several inputs with
one name exactly one is kept; with distinct names the results and the workspace are those of opening the
classes one after another. An archive that cannot be read gives one error and leaves the workspace as it
was.

The law needs permits that can be counted: with more than `Command.maxWorkers` of them nothing is opened
(`too_many_workers`).
-/

namespace SymbolIndex

namespace Bulk

section Ends

variable {workspace : Workspace} {classpath : Classpath} {inputs : List (String × SourceUnit)}
  {bulk other : Bulk} {results : List (String × Except IndexError Attempt)}

/-- The results are what the calls have returned, in their order. -/
theorem Ends.stages (ends : bulk.Ends results) :
    bulk.session.calls.map (fun call => (call.className, call.stage)) =
      results.map fun entry => (entry.1, Stage.returned entry.2) := by
  obtain ⟨workspace, jobs⟩ := bulk
  simp only [Ends, session, List.map_map] at ends ⊢
  induction jobs generalizing results with
  | nil =>
    obtain rfl : results = [] := by simpa using ends.symm
    rfl
  | cons job jobs ih =>
    cases results with
    | nil => simp at ends
    | cons entry results =>
      simp only [List.map_cons, List.cons.injEq] at ends ⊢
      refine ⟨?_, ih ends.2⟩
      have settled := ends.1
      unfold Job.result? at settled
      split at settled
      · rename_i stage
        cases settled
        simp only [Function.comp_apply, stage]
      · cases settled

theorem Ends.returned (ends : bulk.Ends results) :
    ∀ call ∈ bulk.session.calls, ∃ result, call.stage = .returned result := by
  intro call member
  have listed := List.mem_map_of_mem (f := fun call => (call.className, call.stage)) member
  rw [ends.stages] at listed
  obtain ⟨entry, -, same⟩ := List.mem_map.mp listed
  exact ⟨entry.2, (congrArg Prod.snd same).symm⟩

theorem Ends.names (ends : bulk.Ends results) (filling : Filling workspace classpath inputs bulk.session) :
    results.map Prod.fst = inputs.map Prod.fst := by
  have names := congrArg (List.map Prod.fst) ends.stages
  rw [List.map_map, List.map_map] at names
  rw [← filling.inputs, List.map_map]
  exact names.symm

/-- A result is an index, or the name was open already. -/
theorem Ends.refused (ends : bulk.Ends results) (filling : Filling workspace classpath inputs bulk.session)
    {entry : String × Except IndexError Attempt} (member : entry ∈ results)
    (bad : entry.2.isOk = false) : entry.2 = .error (.alreadyParsed entry.1) := by
  have listed := List.mem_map_of_mem (f := fun entry => (entry.1, Stage.returned entry.2)) member
  rw [← ends.stages] at listed
  obtain ⟨call, called, same⟩ := List.mem_map.mp listed
  obtain ⟨name, result⟩ := entry
  cases result with
  | ok attempt => cases bad
  | error error =>
    have sound := filling.sound call called
    simp only [Prod.mk.injEq] at same
    simp only [Call.Sound, same] at sound
    rw [sound.1]

/-- Every result is that of its own input: an index, for a name that was not open, or a refusal. -/
theorem Ends.own (ends : bulk.Ends results) (filling : Filling workspace classpath inputs bulk.session) :
    List.Forall₂ (fun input entry =>
      (workspace.class? input.1 = none ∧ entry.2 = .ok (workspace.indexOf classpath input).1) ∨
        entry.2 = .error (.alreadyParsed input.1)) inputs results := by
  have equal : List.Forall₂ (· = ·)
      (bulk.session.calls.map fun call => (call.className, call.stage))
      (results.map fun entry => (entry.1, Stage.returned entry.2)) := by
    rw [ends.stages, List.forall₂_eq_eq_eq]
  rw [List.forall₂_map_left_iff, List.forall₂_map_right_iff] at equal
  have paired : List.Forall₂ (fun call entry => call ∈ bulk.session.calls ∧
      (call.className, call.stage) = (entry.1, Stage.returned entry.2)) bulk.session.calls results :=
    (List.forall₂_and_left _ _).mpr ⟨fun _ member => member, equal⟩
  rw [← filling.inputs, List.forall₂_map_left_iff]
  refine paired.imp ?_
  rintro call ⟨name, result⟩ ⟨member, same⟩
  obtain ⟨rfl, settled⟩ := Prod.mk.inj same
  have sound := filling.sound call member
  cases result with
  | error error =>
    simp only [Call.Sound, settled] at sound
    exact .inr (congrArg Except.error sound.1)
  | ok attempt =>
    simp only [Call.Sound, settled] at sound
    refine .inl ⟨?_, congrArg Except.ok sound.symm⟩
    -- A name that was open is opened by no call, and this one has opened it.
    by_contra present
    have none_opened := filling.opened_eq_zero (Option.isSome_iff_ne_none.mpr present)
    have counted := List.countP_eq_zero.mp none_opened call member
    simp [Call.opened, settled, Call.input] at counted

/-- The results that open a name are as many as the calls that opened it. -/
theorem Ends.countP (ends : bulk.Ends results) (key : String) :
    results.countP (fun entry => entry.1 = key && entry.2.isOk) = bulk.session.opened key := by
  have resulted : (fun entry : String × Except IndexError Attempt => entry.1 = key && entry.2.isOk) =
      (fun state : String × Stage => state.1 = key && state.2.isOk) ∘
        fun entry => (entry.1, Stage.returned entry.2) := by
    funext ⟨name, result⟩
    cases result <;> rfl
  rw [resulted, ← List.countP_map, ← ends.stages, List.countP_map]
  rfl

/-- A name that was not open is opened by one of the results, and the others for it are refused. -/
theorem Ends.once (ends : bulk.Ends results) (filling : Filling workspace classpath inputs bulk.session)
    {key : String} (wanted : key ∈ inputs.map Prod.fst) (absent : workspace.class? key = none) :
    ∃ before attempt behind, results = before ++ (key, .ok attempt) :: behind ∧
      ∀ entry ∈ before ++ behind, entry.1 = key → entry.2 = .error (.alreadyParsed key) := by
  have one := (ends.countP key).trans (filling.opened_eq_one ends.returned wanted absent)
  have some_opens := Nat.lt_of_lt_of_eq Nat.one_pos one.symm
  obtain ⟨⟨name, result⟩, member, opens⟩ := List.countP_pos_iff.mp some_opens
  obtain ⟨before, behind, rfl⟩ := List.append_of_mem member
  obtain ⟨rfl, good⟩ : name = key ∧ result.isOk = true := by simpa using opens
  cases result with
  | error error => cases good
  | ok attempt =>
    refine ⟨before, attempt, behind, rfl, fun entry among named => ?_⟩
    rw [List.countP_append, List.countP_cons, if_pos opens] at one
    have bad : entry.2.isOk = false := by
      have none_else : (before ++ behind).countP (fun entry => entry.1 = name && entry.2.isOk) = 0 := by
        rw [List.countP_append]
        omega
      simpa [named] using List.countP_eq_zero.mp none_else entry among
    rw [← named]
    refine ends.refused filling ?_ bad
    simp only [List.mem_append, List.mem_cons] at among ⊢
    exact among.imp_right .inr

/-- A name that was open is refused. -/
theorem Ends.refused_open (ends : bulk.Ends results)
    (filling : Filling workspace classpath inputs bulk.session)
    {entry : String × Except IndexError Attempt} (member : entry ∈ results)
    (present : (workspace.class? entry.1).isSome) : entry.2 = .error (.alreadyParsed entry.1) := by
  have none_opened := (ends.countP entry.1).trans (filling.opened_eq_zero present)
  have bad := List.countP_eq_zero.mp none_opened entry member
  exact ends.refused filling member (by simpa using bad)

/-- With distinct names, none of them open before, every input has its index for a result. -/
theorem Ends.eq_map (ends : bulk.Ends results) (filling : Filling workspace classpath inputs bulk.session)
    (distinct : (inputs.map Prod.fst).Nodup)
    (unopened : ∀ input ∈ inputs, workspace.class? input.1 = none) :
    results = inputs.map fun input => (input.1, .ok (workspace.indexOf classpath input).1) := by
  have stages : results.map (fun entry => (entry.1, Stage.returned entry.2)) =
      (inputs.map fun input => (input.1, Except.ok (workspace.indexOf classpath input).1)).map
        fun entry => (entry.1, Stage.returned entry.2) := by
    rw [← ends.stages, ← filling.inputs, List.map_map, List.map_map]
    refine List.map_congr_left fun call member => ?_
    rw [filling.returned_ok ends.returned distinct unopened member]
    rfl
  refine List.map_injective_iff.mpr ?_ stages
  rintro ⟨name, result⟩ ⟨otherName, otherResult⟩ same
  cases same
  rfl

/-- The order of the steps does not decide which names are open. -/
theorem Ends.classNames_eq {others : List (String × Except IndexError Attempt)}
    (ends : bulk.Ends results) (filling : Filling workspace classpath inputs bulk.session)
    (second : other.Ends others) (fillingSecond : Filling workspace classpath inputs other.session) :
    bulk.workspace.classNames = other.workspace.classNames :=
  Workspace.classNames_congr fun key =>
    (filling.isSome_iff ends.returned key).trans (fillingSecond.isSome_iff second.returned key).symm

/-- With distinct names, the order of the steps does not decide what stands under them. -/
theorem Ends.class?_eq {others : List (String × Except IndexError Attempt)}
    (ends : bulk.Ends results) (filling : Filling workspace classpath inputs bulk.session)
    (second : other.Ends others) (fillingSecond : Filling workspace classpath inputs other.session)
    (distinct : (inputs.map Prod.fst).Nodup) (key : String) :
    bulk.workspace.class? key = other.workspace.class? key :=
  Option.ext fun _ => ⟨filling.class?_eq_some fillingSecond distinct second.returned,
    fillingSecond.class?_eq_some filling distinct ends.returned⟩

end Ends

end Bulk

/-! ## One after another -/

namespace Workspace

section Shared

variable {machine : Machine} {workspace shared : Workspace} {loaded later : Loaded} {classpath : Classpath}

theorem classes_of_read {result : Except IndexError Classpath}
    (read : workspace.sharedClasspath machine loaded = (result, shared, later)) :
    shared.classes = workspace.classes := by
  simpa only [read] using sharedClasspath_classes machine workspace loaded

/-- Once the archive was read, its class path is kept. -/
theorem classpath_of_read (read : workspace.sharedClasspath machine loaded = (.ok classpath, shared, later)) :
    shared.classpath = some classpath := by
  unfold sharedClasspath at read
  split at read
  · rename_i known
    cases read
    exact known
  · split at read
    · cases read
      rfl
    · cases read

/-- An archive that cannot be read leaves the workspace as it was. -/
theorem eq_of_unread {error : IndexError}
    (read : workspace.sharedClasspath machine loaded = (.error error, shared, later)) :
    shared = workspace := by
  unfold sharedClasspath at read
  split at read
  · cases read
  · split at read <;> cases read
    rfl

/-- A class is opened alike before and after the archive was read. -/
theorem openClass_shared (read : workspace.sharedClasspath machine loaded = (.ok classpath, shared, later))
    {className : String} (absent : workspace.classes.contains className = false) (unit : SourceUnit) :
    workspace.openClass machine className unit loaded = shared.openClass machine className unit later := by
  have same := classes_of_read read
  have again : shared.sharedClasspath machine later = (.ok classpath, shared, later) :=
    sharedClasspath_read (classpath_of_read read)
  simp only [openClass, same, absent, read, again, Bool.false_eq_true, if_false]

/-- What a class gives that is opened first of all. -/
theorem openClass_first (read : workspace.sharedClasspath machine loaded = (.ok classpath, shared, later))
    {input : String × SourceUnit} (absent : workspace.class? input.1 = none) :
    (workspace.openClass machine input.1 input.2 loaded).1 = .ok (shared.indexOf classpath input).1 := by
  have closed : workspace.classes.contains input.1 = false := by rw [contains_eq, absent]; rfl
  simp only [openClass, closed, read, keepClass, parseWith_newClass, indexOf, Bool.false_eq_true, if_false]

/-- Opening one after another comes to the same whether the archive was read before or not. -/
theorem openEach_shared (read : workspace.sharedClasspath machine loaded = (.ok classpath, shared, later))
    (inputs : List (String × SourceUnit)) :
    (workspace.openEach machine inputs loaded).1 = (shared.openEach machine inputs later).1 ∧
      (workspace.openEach machine inputs loaded).2.1.classes =
        (shared.openEach machine inputs later).2.1.classes := by
  have same := classes_of_read read
  induction inputs with
  | nil => exact ⟨rfl, same.symm⟩
  | cons input inputs ih =>
    cases present : workspace.classes.contains input.1 with
    | true =>
      -- Nothing happens: the archive is still unread on one side.
      have refused : ∀ (other : Workspace) (loaded : Loaded), other.classes = workspace.classes →
          other.openClass machine input.1 input.2 loaded =
            (.error (.alreadyParsed input.1), other, loaded) := by
        intro other loaded same
        rw [openClass, same, if_pos present]
      simp only [openEach_cons, refused workspace loaded rfl, refused shared later same, ih, and_self]
    | false =>
      simp only [openEach_cons, openClass_shared read present, and_self]

end Shared

/-- The number of permits: as many as the settings say, and one at the least. -/
def permits (workspace : Workspace) : Nat :=
  max workspace.settings.workers 1

theorem permits_pos (workspace : Workspace) : 0 < workspace.permits :=
  Nat.lt_of_lt_of_le Nat.one_pos (Nat.le_max_right _ _)

end Workspace

/-! ## In bulk -/

/-- **What opening classes in bulk can come to.** An archive that cannot be read gives its error. Else
there are permits as the settings say, if they can be counted, and the jobs follow some schedule to its
end. -/
inductive Opens (machine : Machine) (workspace : Workspace) (loaded : Loaded)
    (inputs : List (String × SourceUnit)) :
    Except IndexError (List (String × Except IndexError Attempt)) → Workspace → Prop where
  | unreadable {error shared later}
      (read : workspace.sharedClasspath machine loaded = (.error error, shared, later)) :
      Opens machine workspace loaded inputs (.error error) shared
  | ended {classpath shared later schedule bulk results}
      (read : workspace.sharedClasspath machine loaded = (.ok classpath, shared, later))
      (countable : workspace.settings.workers ≤ Command.maxWorkers)
      (followed : (Bulk.start shared inputs).follow workspace.permits schedule = some bulk)
      (ends : bulk.Ends results) :
      Opens machine workspace loaded inputs (.ok results) bulk.workspace

/-- How results and workspace compare with those of opening one after another. -/
structure AsInSequence (machine : Machine) (workspace : Workspace) (loaded : Loaded)
    (inputs : List (String × SourceUnit)) (results : List (String × Except IndexError Attempt))
    (final : Workspace) : Prop where
  /-- There is a result for each input, in the order of the inputs. -/
  inOrder : results.map Prod.fst = inputs.map Prod.fst
  /-- Each of them is what opening that input first of all would give, or the name was taken. -/
  own : List.Forall₂ (fun input entry => entry.2 = (workspace.openClass machine input.1 input.2 loaded).1 ∨
    entry.2 = .error (.alreadyParsed input.1)) inputs results
  /-- With distinct names, none of them open before, there is no difference. -/
  same : (inputs.map Prod.fst).Nodup → (∀ input ∈ inputs, workspace.class? input.1 = none) →
    results = (workspace.openEach machine inputs loaded).1 ∧
      ∀ key, final.class? key = (workspace.openEach machine inputs loaded).2.1.class? key
  /-- A name that was not open is opened by one result, and the others for it are refused. -/
  once : ∀ key ∈ inputs.map Prod.fst, workspace.class? key = none →
    ∃ before attempt behind, results = before ++ (key, .ok attempt) :: behind ∧
      ∀ entry ∈ before ++ behind, entry.1 = key → entry.2 = .error (.alreadyParsed key)
  /-- A name that was open is refused. -/
  refused : ∀ entry ∈ results, (workspace.class? entry.1).isSome →
    entry.2 = .error (.alreadyParsed entry.1)
  /-- The same names are open in the end. -/
  openNames : final.classNames = (workspace.openEach machine inputs loaded).2.1.classNames

/-- Whatever moves have been made, there were not too many, no more permits are held than there are, and
the jobs are over or one of them can move. -/
def Bulk.Completes (limit : Nat) (first : Bulk) : Prop :=
  ∀ schedule bulk, first.follow limit schedule = some bulk →
    schedule.length ≤ 6 * first.jobs.length ∧ bulk.inUse ≤ limit ∧
      ((∃ results, bulk.Ends results) ∨ ∃ place, ∀ around, (bulk.move limit place around).isSome)

theorem Bulk.completes_start (workspace shared : Workspace) (inputs : List (String × SourceUnit)) :
    (start shared inputs).Completes workspace.permits := by
  intro schedule bulk followed
  have handed : bulk.Handed :=
    follow_induction (motive := Handed) (fun _ _ _ _ moved handed => handed.move moved) followed
      (handed_start shared inputs)
  have bound := length_le_allLeft followed
  rw [start, Job.allLeft_ofInput] at bound
  refine ⟨?_, ?_, ends_or_moves handed workspace.permits_pos⟩
  · simp only [start, List.length_map]
    omega
  · refine inUse_le followed ?_
    rw [inUse_start]
    exact Nat.zero_le _

section Law

variable {machine : Machine} {workspace : Workspace} {loaded : Loaded}
  {inputs : List (String × SourceUnit)}

/-- Opening one after another is one of the ways. -/
theorem opens_openClasses (machine : Machine) (loaded : Loaded) (inputs : List (String × SourceUnit))
    (countable : workspace.settings.workers ≤ Command.maxWorkers) :
    Opens machine workspace loaded inputs (workspace.openClasses machine inputs loaded).1
      (workspace.openClasses machine inputs loaded).2.1 := by
  rcases read : workspace.sharedClasspath machine loaded with ⟨error | classpath, shared, later⟩
  · simp only [Workspace.openClasses, read]
    exact .unreadable read
  · simp only [Workspace.openClasses, read]
    obtain ⟨schedule, bulk, followed, ends, final⟩ :=
      Bulk.follow_openEach workspace.permits_pos machine inputs shared later
    rw [← final]
    exact .ended read countable followed ends

/-- However the jobs end, they end as in sequence. -/
theorem Bulk.Ends.asInSequence {classpath : Classpath} {shared : Workspace} {later : Loaded}
    {schedule : List (Nat × Surroundings)} {bulk : Bulk}
    {results : List (String × Except IndexError Attempt)} (ends : bulk.Ends results)
    (read : workspace.sharedClasspath machine loaded = (.ok classpath, shared, later))
    (followed : (start shared inputs).follow workspace.permits schedule = some bulk) :
    AsInSequence machine workspace loaded inputs results bulk.workspace := by
  have lookup : ∀ key, workspace.class? key = shared.class? key := fun key =>
    Workspace.class?_of_classes (Workspace.classes_of_read read).symm key
  have begins := filling_start inputs (Workspace.classpath_of_read read)
  have filling := filling_follow begins followed
  -- The jobs run one after another are the other ending to compare with.
  obtain ⟨schedule, other, alone, second, final⟩ :=
    follow_openEach workspace.permits_pos machine inputs shared later
  have fillingSecond := filling_follow begins alone
  obtain ⟨sameResults, sameClasses⟩ := Workspace.openEach_shared read inputs
  refine ⟨ends.names filling, ?_, fun distinct unopened => ⟨?_, fun key => ?_⟩,
    fun key wanted absent => ?_, fun entry member present => ?_, ?_⟩
  · refine (ends.own filling).imp fun input entry own => own.imp_left fun ⟨absent, kept⟩ => ?_
    rw [kept, Workspace.openClass_first read (by rw [lookup, absent])]
  · have unopened : ∀ input ∈ inputs, shared.class? input.1 = none := fun input member => by
      rw [← lookup, unopened input member]
    rw [sameResults, ends.eq_map filling distinct unopened]
    exact (second.eq_map fillingSecond distinct unopened).symm
  · rw [Workspace.class?_of_classes sameClasses, ← final]
    exact ends.class?_eq filling second fillingSecond distinct key
  · exact ends.once filling wanted (by rw [← lookup, absent])
  · exact ends.refused_open filling member (by rwa [← lookup])
  · have sameNames : (workspace.openEach machine inputs loaded).2.1.classNames =
        (shared.openEach machine inputs later).2.1.classNames := congrArg Std.TreeMap.keys sameClasses
    rw [sameNames, ← final]
    exact ends.classNames_eq filling second fillingSecond

/-- **In bulk as in sequence.** With permits that can be counted, the jobs come to an end by every
schedule, and however they do, it is as if the classes were opened one after another, but for which of
several inputs with one name is kept. An archive that cannot be read gives one error and changes
nothing. -/
theorem opens_as_in_sequence (machine : Machine) (workspace : Workspace) (loaded : Loaded)
    (inputs : List (String × SourceUnit)) (countable : workspace.settings.workers ≤ Command.maxWorkers) :
    Opens machine workspace loaded inputs (workspace.openClasses machine inputs loaded).1
        (workspace.openClasses machine inputs loaded).2.1 ∧
      (∀ error, (workspace.sharedClasspath machine loaded).1 = .error error →
        ∀ result final, Opens machine workspace loaded inputs result final →
          result = .error error ∧ final = workspace) ∧
      ∀ classpath, (workspace.sharedClasspath machine loaded).1 = .ok classpath →
        (Bulk.start (workspace.sharedClasspath machine loaded).2.1 inputs).Completes workspace.permits ∧
          ∀ result final, Opens machine workspace loaded inputs result final →
            ∃ results, result = .ok results ∧
              AsInSequence machine workspace loaded inputs results final := by
  refine ⟨opens_openClasses machine loaded inputs countable, ?_, ?_⟩
  · intro error unreadable result final opens
    cases opens with
    | unreadable read =>
      rw [read] at unreadable
      cases unreadable
      exact ⟨rfl, Workspace.eq_of_unread read⟩
    | ended read =>
      rw [read] at unreadable
      cases unreadable
  · intro classpath readable
    refine ⟨Bulk.completes_start workspace _ inputs, fun result final opens => ?_⟩
    cases opens with
    | unreadable read =>
      rw [read] at readable
      cases readable
    | ended read _ followed ends => exact ⟨_, rfl, ends.asInSequence read followed⟩

end Law

/-- A directory without classes, and a source beside it. -/
def smallMachine : Machine where
  files :=
    { entries := [(["lib"], .directory),
        (["src", "A.java"], .file (.source "" Command.blankTree) false)]
      directory := [] }

theorem opens_as_in_sequence_twice :
    ({} : Settings).workers ≤ Command.maxWorkers ∧
      ∃ results final,
        let workspace := Workspace.ofFile "lib" {}
        let unit := Command.unitOf "" none
        Opens smallMachine workspace [] [("A", unit), ("A", unit)] (.ok results) final ∧
          AsInSequence smallMachine workspace [] [("A", unit), ("A", unit)] results final := by
  refine ⟨by decide, ?_⟩
  obtain ⟨opens, -, readable⟩ := opens_as_in_sequence smallMachine (Workspace.ofFile "lib" {}) []
    [("A", Command.unitOf "" none), ("A", Command.unitOf "" none)] (by decide)
  have read : ((Workspace.ofFile "lib" {}).sharedClasspath smallMachine []).1.isOk := by decide +kernel
  cases known : ((Workspace.ofFile "lib" {}).sharedClasspath smallMachine []).1 with
  | error error =>
    rw [known] at read
    cases read
  | ok classpath =>
    obtain ⟨results, ended, asInSequence⟩ := (readable classpath known).2 _ _ opens
    rw [ended] at opens
    exact ⟨results, _, opens, asInSequence⟩

/-! ## Too many workers -/

/-- With more workers than can be counted, opening in bulk comes to nothing. -/
theorem too_many_workers {machine : Machine} {workspace : Workspace} {loaded : Loaded}
    (uncountable : Command.maxWorkers < workspace.settings.workers)
    (readable : (workspace.sharedClasspath machine loaded).1.isOk) (inputs : List (String × SourceUnit))
    (result : Except IndexError (List (String × Except IndexError Attempt))) (final : Workspace) :
    ¬ Opens machine workspace loaded inputs result final := by
  intro opens
  cases opens with
  | unreadable read =>
    rw [read] at readable
    cases readable
  | ended _ countable => omega

/-- So `inspect` breaks off. -/
theorem inspect_too_many_workers {machine : Machine} {settings : Settings} {archive sources : String}
    {decompiler : Option String} (uncountable : Command.maxWorkers < settings.workers)
    (readable : ((Workspace.ofFile archive settings).sharedClasspath machine []).1.isOk)
    (collected : (Command.collectSources machine.files sources decompiler).isOk) (format : Command.Format) :
    Command.inspect machine settings archive sources decompiler format = .error .tooManyWorkers := by
  cases units : Command.collectSources machine.files sources decompiler with
  | error failure =>
    rw [units] at collected
    cases collected
  | ok units =>
    rcases read : (Workspace.ofFile archive settings).sharedClasspath machine [] with
      ⟨error | classpath, shared, later⟩
    · rw [read] at readable
      cases readable
    · simp only [Command.inspect, units, Workspace.openClasses, read, if_pos uncountable]

theorem inspect_breaks_off :
    let settings : Settings := { workers := Command.maxWorkers + 1 }
    let workspace := Workspace.ofFile "lib" settings
    (workspace.sharedClasspath smallMachine []).1.isOk ∧
      (∀ inputs result final, ¬ Opens smallMachine workspace [] inputs result final) ∧
      Command.inspect smallMachine settings "lib" "src" none .text = .error .tooManyWorkers ∧
      (Command.inspect smallMachine {} "lib" "src" none .text).isOk := by
  intro settings workspace
  have readable : (workspace.sharedClasspath smallMachine []).1.isOk := by decide +kernel
  have uncountable : Command.maxWorkers < settings.workers := Nat.lt_succ_self _
  refine ⟨readable, too_many_workers uncountable readable, ?_, by decide +kernel⟩
  exact inspect_too_many_workers uncountable readable (by decide +kernel) .text

end SymbolIndex
