import SymbolIndex.Proofs.Filling

/-!
# Jobs and their schedules

Many classes are opened at a time, by one job each. A job waits for one of a fixed number of permits,
opens its class step by step (`Call.step`), and gives the permit back when its call has returned. A
schedule says which job moves next; a job that waits can move while a permit is free.

Whatever the schedule, jobs do to the workspace what callers do (`session_move`), no more of them run at
a time than there are permits (`inUse_le`), a schedule comes to an end (`length_le_allLeft`) and none
of them gets stuck before (`ends_or_moves`). To run the jobs one after another is one of the schedules
(`follow_openEach`).
-/

namespace SymbolIndex

/-- The most steps that a call has left. -/
def Stage.stepsLeft : Stage → Nat
  | .called => 4
  | .unopened => 3
  | .ready _ => 2
  | .indexed _ _ => 1
  | .returned _ => 0

/-- A step brings a call closer to its end. -/
theorem Call.stepsLeft_step (call : Call) (going : ∀ result, call.stage ≠ .returned result)
    (around : Surroundings) (workspace : Workspace) :
    (call.step around workspace).1.stage.stepsLeft < call.stage.stepsLeft := by
  obtain ⟨className, unit, stage⟩ := call
  cases stage with
  | called | unopened | ready | indexed =>
    simp only [Call.step, Call.next]
    split <;> simp [Stage.stepsLeft]
  | returned result => exact absurd rfl (going result)

/-- Where a job stands with its permit. -/
inductive Permit where
  | awaited
  | held
  | returned
  deriving DecidableEq

/-- The most that a job has left to do about its permit. -/
def Permit.stepsLeft : Permit → Nat
  | .awaited => 2
  | .held => 1
  | .returned => 0

/-- A job that opens one class. -/
structure Job where
  call : Call
  permit : Permit := .awaited

namespace Job

/-- The job of an input. -/
def ofInput (input : String × SourceUnit) : Job :=
  { call := { className := input.1, unit := input.2 } }

/-- The result of a job that is over. -/
def result? (job : Job) : Option (String × Except IndexError Attempt) :=
  match job.permit, job.call.stage with
  | .returned, .returned result => some (job.call.className, result)
  | _, _ => none

/-- The most moves that a job has left. -/
def movesLeft (job : Job) : Nat :=
  job.permit.stepsLeft + job.call.stage.stepsLeft

/-- The most moves that some jobs have left. -/
def allLeft : List Job → Nat
  | [] => 0
  | job :: jobs => job.movesLeft + allLeft jobs

/-- The moves left to two lists of jobs add up. -/
theorem allLeft_append (front behind : List Job) :
    allLeft (front ++ behind) = allLeft front + allLeft behind := by
  induction front with
  | nil => simp [allLeft]
  | cons job front ih => simp only [List.cons_append, allLeft, ih, Nat.add_assoc]

/-- Every job starts with six moves at most. -/
theorem allLeft_ofInput (inputs : List (String × SourceUnit)) :
    allLeft (inputs.map ofInput) = 6 * inputs.length := by
  induction inputs with
  | nil => rfl
  | cons input inputs ih =>
    have six : (ofInput input).movesLeft = 6 := rfl
    rw [List.map_cons, allLeft, ih, six, List.length_cons]
    omega

end Job

/-- A workspace with the jobs that open its classes. -/
structure Bulk where
  workspace : Workspace
  jobs : List Job

namespace Bulk

/-- The jobs of some inputs, none of which has moved. -/
def start (workspace : Workspace) (inputs : List (String × SourceUnit)) : Bulk where
  workspace
  jobs := inputs.map Job.ofInput

/-- The number of permits that are held. -/
def inUse (bulk : Bulk) : Nat :=
  bulk.jobs.countP (·.permit = .held)

/-- The next move of a job, if it can move. -/
def move (limit place : Nat) (around : Surroundings) (bulk : Bulk) : Option Bulk :=
  match bulk.jobs[place]? with
  | none => none
  | some job =>
    match job.permit, job.call.stage with
    | .awaited, _ =>
      if bulk.inUse < limit then
        some { bulk with jobs := bulk.jobs.set place { job with permit := .held } }
      else none
    | .held, .returned _ =>
      some { bulk with jobs := bulk.jobs.set place { job with permit := .returned } }
    | .held, _ =>
      let (call, workspace) := job.call.step around bulk.workspace
      some { workspace, jobs := bulk.jobs.set place { job with call } }
    | .returned, _ => none

/-- The moves of a schedule, one after another. -/
def follow (limit : Nat) : List (Nat × Surroundings) → Bulk → Option Bulk
  | [], bulk => some bulk
  | (place, around) :: schedule, bulk => (bulk.move limit place around).bind (follow limit schedule)

/-- The jobs seen as callers. -/
def session (bulk : Bulk) : Session where
  workspace := bulk.workspace
  calls := bulk.jobs.map Job.call

/-- Every job is over, with these results. -/
def Ends (bulk : Bulk) (results : List (String × Except IndexError Attempt)) : Prop :=
  bulk.jobs.map Job.result? = results.map some

/-! ## A move -/

section Move

variable {limit place : Nat} {around : Surroundings} {bulk later : Bulk}

/-- **What a move can do.** It takes a permit, or steps on, or gives the permit back. -/
theorem move_cases (moved : bulk.move limit place around = some later) :
    ∃ job, bulk.jobs[place]? = some job ∧
      ((job.permit = .awaited ∧ bulk.inUse < limit ∧
          later = { bulk with jobs := bulk.jobs.set place { job with permit := .held } }) ∨
        (job.permit = .held ∧ (∀ result, job.call.stage ≠ .returned result) ∧
          later = {
            workspace := (job.call.step around bulk.workspace).2
            jobs := bulk.jobs.set place
              { job with call := (job.call.step around bulk.workspace).1 } }) ∨
        (job.permit = .held ∧ (∃ result, job.call.stage = .returned result) ∧
          later = { bulk with jobs := bulk.jobs.set place { job with permit := .returned } })) := by
  unfold move at moved
  split at moved
  · cases moved
  · rename_i job found
    refine ⟨job, found, ?_⟩
    split at moved
    · rename_i waits
      split at moved
      · rename_i free
        cases moved
        exact .inl ⟨waits, free, rfl⟩
      · cases moved
    · rename_i result holds settled
      cases moved
      exact .inr (.inr ⟨holds, ⟨result, settled⟩, rfl⟩)
    · rename_i holds going
      cases moved
      exact .inr (.inl ⟨holds, going, rfl⟩)
    · cases moved

/-- Seen as callers, jobs move by steps of their calls or not at all. -/
theorem session_move (moved : bulk.move limit place around = some later) :
    later.session = bulk.session ∨ later.session = bulk.session.after (.advance place around) := by
  obtain ⟨job, found, kind⟩ := move_cases moved
  have same : ∀ permit, (bulk.jobs.set place { job with permit }).map Job.call = bulk.jobs.map Job.call := by
    intro permit
    obtain ⟨front, behind, jobs_eq, set_eq⟩ := Session.split_set found { job with permit }
    rw [set_eq, jobs_eq, List.map_append, List.map_append, List.map_cons, List.map_cons]
  obtain ⟨-, -, rfl⟩ | ⟨-, -, rfl⟩ | ⟨-, -, rfl⟩ := kind
  · left
    simp only [session, same]
  · right
    have called : bulk.session.calls[place]? = some job.call := by
      rw [session, List.getElem?_map, found, Option.map_some]
    rw [Session.after_advance around called]
    simp only [session, List.map_set]
  · left
    simp only [session, same]

/-- Every move brings the jobs closer to their end. -/
theorem allLeft_move (moved : bulk.move limit place around = some later) :
    Job.allLeft later.jobs < Job.allLeft bulk.jobs := by
  obtain ⟨job, found, kind⟩ := move_cases moved
  have change : ∀ new : Job, new.movesLeft < job.movesLeft →
      Job.allLeft (bulk.jobs.set place new) < Job.allLeft bulk.jobs := by
    intro new less
    obtain ⟨front, behind, jobs_eq, set_eq⟩ := Session.split_set found new
    rw [set_eq, jobs_eq]
    simp only [Job.allLeft_append, Job.allLeft]
    omega
  obtain ⟨waits, -, rfl⟩ | ⟨-, going, rfl⟩ | ⟨holds, -, rfl⟩ := kind
  · exact change _ (by simp [Job.movesLeft, waits, Permit.stepsLeft])
  · exact change _ (Nat.add_lt_add_left (job.call.stepsLeft_step going around bulk.workspace) _)
  · exact change _ (by simp [Job.movesLeft, holds, Permit.stepsLeft])

/-- A permit is given back by a call that has returned. -/
def Handed (bulk : Bulk) : Prop :=
  ∀ job ∈ bulk.jobs, job.permit = .returned → ∃ result, job.call.stage = .returned result

/-- A move keeps this: a permit is given back only by a call that has returned. -/
theorem Handed.move (handed : bulk.Handed) (moved : bulk.move limit place around = some later) :
    later.Handed := by
  obtain ⟨job, found, kind⟩ := move_cases moved
  have change : ∀ (workspace : Workspace) (new : Job),
      (new.permit = .returned → ∃ result, new.call.stage = .returned result) →
      Handed { workspace, jobs := bulk.jobs.set place new } := by
    intro workspace new fine other member
    obtain old | rfl := List.mem_or_eq_of_mem_set member
    · exact handed other old
    · exact fine
  obtain ⟨-, -, rfl⟩ | ⟨holds, -, rfl⟩ | ⟨-, settled, rfl⟩ := kind
  · exact change _ _ (by simp)
  · exact change _ _ (by simp [holds])
  · exact change _ _ fun _ => settled

/-- Where every job is settled all of them have results. -/
theorem exists_results {jobs : List Job} (settled : ∀ job ∈ jobs, ∃ entry, job.result? = some entry) :
    ∃ results : List (String × Except IndexError Attempt), jobs.map Job.result? = results.map some := by
  induction jobs with
  | nil => exact ⟨[], rfl⟩
  | cons job jobs ih =>
    obtain ⟨entry, ended⟩ := settled job List.mem_cons_self
    obtain ⟨results, rest⟩ := ih fun other member => settled other (List.mem_cons_of_mem _ member)
    exact ⟨entry :: results, by rw [List.map_cons, ended, rest, List.map_cons]⟩

/-- **No job is stuck.** As long as there is a permit at all, some job can move, or all of them are
over. -/
theorem ends_or_moves (handed : bulk.Handed) (some_permit : 0 < limit) :
    (∃ results, bulk.Ends results) ∨
      ∃ place, ∀ around, (bulk.move limit place around).isSome := by
  by_cases holding : ∃ job ∈ bulk.jobs, job.permit = .held
  · obtain ⟨job, member, holds⟩ := holding
    obtain ⟨place, found⟩ := List.mem_iff_getElem?.mp member
    refine .inr ⟨place, fun around => ?_⟩
    simp only [move, found, holds]
    cases job.call.stage <;> rfl
  by_cases waiting : ∃ job ∈ bulk.jobs, job.permit = .awaited
  · obtain ⟨job, member, waits⟩ := waiting
    obtain ⟨place, found⟩ := List.mem_iff_getElem?.mp member
    have free : bulk.inUse = 0 := by
      simp only [inUse, List.countP_eq_zero, decide_eq_true_eq]
      exact fun other among holds => holding ⟨other, among, holds⟩
    refine .inr ⟨place, fun around => ?_⟩
    simp only [move, found, waits, free, if_pos some_permit, Option.isSome_some]
  · left
    have settled : ∀ job ∈ bulk.jobs, ∃ entry, job.result? = some entry := by
      intro job member
      have permit : job.permit = .returned := by
        cases kind : job.permit with
        | awaited => exact absurd ⟨job, member, kind⟩ waiting
        | held => exact absurd ⟨job, member, kind⟩ holding
        | returned => rfl
      obtain ⟨result, returned⟩ := handed job member permit
      exact ⟨(job.call.className, result), by simp only [Job.result?, permit, returned]⟩
    exact exists_results settled

end Move

/-! ## A schedule -/

section Schedule

variable {limit : Nat} {schedule : List (Nat × Surroundings)} {bulk final : Bulk}

/-- An invariant of every move is one of every schedule. -/
theorem follow_induction {motive : Bulk → Prop}
    (step : ∀ bulk place around later, bulk.move limit place around = some later → motive bulk →
      motive later)
    (followed : bulk.follow limit schedule = some final) (start : motive bulk) : motive final := by
  induction schedule generalizing bulk with
  | nil =>
    cases followed
    exact start
  | cons turn schedule ih =>
    obtain ⟨later, moved, rest⟩ := Option.bind_eq_some_iff.mp followed
    exact ih rest (step bulk turn.1 turn.2 later moved start)

/-- A schedule has no more moves than are left. -/
theorem length_le_allLeft (followed : bulk.follow limit schedule = some final) :
    schedule.length + Job.allLeft final.jobs ≤ Job.allLeft bulk.jobs := by
  induction schedule generalizing bulk with
  | nil =>
    cases followed
    simp
  | cons turn schedule ih =>
    obtain ⟨later, moved, rest⟩ := Option.bind_eq_some_iff.mp followed
    have rest_bound := ih rest
    have less := allLeft_move moved
    rw [List.length_cons]
    omega

/-- Two schedules are followed one after the other. -/
theorem follow_append (limit : Nat) (first second : List (Nat × Surroundings)) (bulk : Bulk) :
    bulk.follow limit (first ++ second) = (bulk.follow limit first).bind (follow limit second) := by
  induction first generalizing bulk with
  | nil => rfl
  | cons turn first ih =>
    simp only [List.cons_append, follow, Option.bind_assoc]
    congr 1
    funext later
    exact ih later

/-- No more jobs run at a time than there are permits. -/
theorem inUse_le (followed : bulk.follow limit schedule = some final) (start : bulk.inUse ≤ limit) :
    final.inUse ≤ limit := by
  refine follow_induction (motive := fun bulk => bulk.inUse ≤ limit) ?_ followed start
  intro bulk place around later moved within
  obtain ⟨job, found, kind⟩ := move_cases moved
  have change : ∀ (workspace : Workspace) (new : Job),
      bulk.inUse + (if new.permit = .held then 1 else 0) =
        inUse { workspace, jobs := bulk.jobs.set place new } + if job.permit = .held then 1 else 0 := by
    intro workspace new
    obtain ⟨front, behind, jobs_eq, set_eq⟩ := Session.split_set found new
    simp only [inUse, set_eq]
    simp only [jobs_eq, List.countP_append, List.countP_cons, decide_eq_true_eq]
    omega
  obtain ⟨waits, free, rfl⟩ | ⟨holds, -, rfl⟩ | ⟨holds, -, rfl⟩ := kind
  · have counted := change bulk.workspace { job with permit := .held }
    simp only [waits, reduceCtorEq, if_true, if_false] at counted
    omega
  · have counted := change (job.call.step around bulk.workspace).2
      { job with call := (job.call.step around bulk.workspace).1 }
    simp only at counted
    omega
  · have counted := change bulk.workspace { job with permit := .returned }
    simp only [holds, reduceCtorEq, if_true, if_false] at counted
    omega

theorem inUse_start (workspace : Workspace) (inputs : List (String × SourceUnit)) :
    (start workspace inputs).inUse = 0 := by
  simp [inUse, start, Job.ofInput, List.countP_eq_zero]

/-- At the start no permit has been given back. -/
theorem handed_start (workspace : Workspace) (inputs : List (String × SourceUnit)) :
    (start workspace inputs).Handed := by
  intro job member returned
  obtain ⟨input, -, rfl⟩ := List.mem_map.mp member
  cases returned

/-- At the start nothing has been opened yet. -/
theorem filling_start {workspace : Workspace} {classpath : Classpath}
    (inputs : List (String × SourceUnit)) (readable : workspace.classpath = some classpath) :
    Filling workspace classpath inputs (start workspace inputs).session := by
  simpa [session, start, Job.ofInput, Function.comp_def] using Filling.ofInputs readable

/-- **Following a schedule only opens classes**, since every move is a step of a call or changes permits
only. -/
theorem filling_follow {workspace : Workspace} {classpath : Classpath}
    {inputs : List (String × SourceUnit)} (filling : Filling workspace classpath inputs bulk.session)
    (followed : bulk.follow limit schedule = some final) :
    Filling workspace classpath inputs final.session := by
  refine follow_induction (motive := fun bulk => Filling workspace classpath inputs bulk.session)
    (fun bulk place around later moved filling => ?_) followed filling
  obtain same | stepped := session_move moved
  · rwa [same]
  · rw [stepped]
    exact filling.advance place around

end Schedule

/-! ## One after another -/

/-- A job that waits takes a permit when one is free. -/
theorem move_take {limit : Nat} {workspace : Workspace} {call : Call} {front behind : List Job}
    (around : Surroundings) (free : inUse ⟨workspace, front ++ ⟨call, .awaited⟩ :: behind⟩ < limit) :
    move limit front.length around ⟨workspace, front ++ ⟨call, .awaited⟩ :: behind⟩ =
      some ⟨workspace, front ++ ⟨call, .held⟩ :: behind⟩ := by
  simp [move, free]

/-- A job with a permit takes the next step of its call. -/
theorem move_step {call : Call} (going : ∀ result, call.stage ≠ .returned result) (limit : Nat)
    (around : Surroundings) (workspace : Workspace) (front behind : List Job) :
    move limit front.length around ⟨workspace, front ++ ⟨call, .held⟩ :: behind⟩ =
      some ⟨(call.step around workspace).2,
        front ++ ⟨(call.step around workspace).1, .held⟩ :: behind⟩ := by
  cases stage : call.stage with
  | returned result => exact absurd stage (going result)
  | called | unopened | ready | indexed => simp [move, stage]

/-- A job that holds a permit can be brought to its end, with the others standing still. -/
theorem follow_alone (limit : Nat) (around : Surroundings) (front behind : List Job) (count : Nat)
    (call : Call) (workspace : Workspace) {result : Except IndexError Attempt}
    (settled : (call.steps around count workspace).1.stage = .returned result) :
    ∃ schedule, follow limit schedule ⟨workspace, front ++ ⟨call, .held⟩ :: behind⟩ =
      some ⟨(call.steps around count workspace).2,
        front ++ ⟨(call.steps around count workspace).1, .returned⟩ :: behind⟩ := by
  induction count generalizing call workspace with
  | zero =>
    have settled : call.stage = .returned result := settled
    exact ⟨[(front.length, around)], by simp [follow, move, settled, Call.steps]⟩
  | succ count ih =>
    rw [Call.steps] at settled ⊢
    obtain ⟨schedule, followed⟩ := ih _ _ settled
    by_cases early : ∃ result, call.stage = .returned result
    · -- The call is over before its steps are used up: they do nothing.
      obtain ⟨result, early⟩ := early
      rw [Call.step_returned early around workspace] at followed ⊢
      exact ⟨schedule, followed⟩
    · refine ⟨(front.length, around) :: schedule, ?_⟩
      rw [follow, move_step (not_exists.mp early), Option.bind_some, followed]

/-- Behind jobs that are over, each job can be brought to its end before the next one moves. -/
theorem follow_behind {limit : Nat} (some_permit : 0 < limit) (machine : Machine)
    (inputs : List (String × SourceUnit)) (front : List Job)
    (settled : ∀ job ∈ front, job.permit = .returned) (workspace : Workspace) (loaded : Loaded) :
    ∃ schedule rest,
      follow limit schedule ⟨workspace, front ++ inputs.map Job.ofInput⟩ =
          some ⟨(workspace.openEach machine inputs loaded).2.1, front ++ rest⟩ ∧
        rest.map Job.result? = (workspace.openEach machine inputs loaded).1.map some := by
  induction inputs generalizing front workspace loaded with
  | nil => exact ⟨[], [], rfl, rfl⟩
  | cons input inputs ih =>
    let around : Surroundings := ⟨machine, loaded⟩
    let call : Call := { className := input.1, unit := input.2 }
    have alone := Call.steps_eq_openClass machine input.1 input.2 workspace loaded
    obtain ⟨first, finished⟩ := follow_alone limit around front (inputs.map Job.ofInput) 4 call workspace
      (congrArg (·.1.stage) alone)
    rw [alone] at finished
    have free : inUse ⟨workspace, front ++ (input :: inputs).map Job.ofInput⟩ = 0 := by
      simp only [inUse, List.countP_eq_zero, decide_eq_true_eq, List.mem_append, List.mem_map]
      rintro job (old | ⟨input, -, rfl⟩) holds
      · rw [settled job old] at holds
        cases holds
      · cases holds
    have taken : move limit front.length around ⟨workspace, front ++ (input :: inputs).map Job.ofInput⟩ =
        some ⟨workspace, front ++ ⟨call, .held⟩ :: inputs.map Job.ofInput⟩ :=
      move_take around (Nat.lt_of_le_of_lt (Nat.le_of_eq free) some_permit)
    let ended : Job :=
      ⟨{ call with stage := .returned (workspace.openClass machine input.1 input.2 loaded).1 }, .returned⟩
    obtain ⟨second, rest, followed, results⟩ := ih (front ++ [ended])
      (by simpa [or_imp, forall_and, ended] using settled)
      (workspace.openClass machine input.1 input.2 loaded).2.1
      (workspace.openClass machine input.1 input.2 loaded).2.2
    refine ⟨(front.length, around) :: first ++ second, ended :: rest, ?_, ?_⟩
    · rw [List.append_assoc, List.append_assoc, List.singleton_append, List.singleton_append] at followed
      rw [follow_append, follow, taken, Option.bind_some, finished, Option.bind_some, followed]
      rfl
    · rw [Workspace.openEach_cons, List.map_cons, List.map_cons, results]
      rfl

/-- **One after another is a schedule**, whatever the number of permits. -/
theorem follow_openEach {limit : Nat} (some_permit : 0 < limit) (machine : Machine)
    (inputs : List (String × SourceUnit)) (workspace : Workspace) (loaded : Loaded) :
    ∃ schedule bulk, (start workspace inputs).follow limit schedule = some bulk ∧
      bulk.Ends (workspace.openEach machine inputs loaded).1 ∧
      bulk.workspace = (workspace.openEach machine inputs loaded).2.1 := by
  obtain ⟨schedule, jobs, followed, results⟩ :=
    follow_behind some_permit machine inputs [] (fun _ member => nomatch member) workspace loaded
  exact ⟨schedule, _, followed, results, rfl⟩

end Bulk

end SymbolIndex
