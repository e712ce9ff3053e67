import SymbolIndex.ClassIndex

/-!
# The one attempt to index a class

A class can be asked to be indexed in two ways, against the archive it came from or against a class path
that is at hand, and any number of times. `Request` is one such call, and `after` what any sequence of them
makes of a class.

**The law** (`settled_by_first`): the first request decides. Whether it fails on the archive, on the syntax
of the source, on its nesting, or not at all, every later one is refused and changes nothing. There is an
index if and only if the first request gave one, and then every question is answered from it; without one
every answer is empty. It rests on what a single request can do (`answer_untouched`, `answer_touched`).

What a request sees of the machine comes with the request, so nothing is said of files that stay the same
between two of them. The library images that were read along the way are kept beside the class.
-/

namespace SymbolIndex.ClassIndex

/-! ## Requests -/

/-- A call to index a class. -/
inductive Request where
  /-- Against the library and the archive that the class came from. -/
  | parse (machine : Machine) (settings : ResolutionSettings)
  /-- Against a class path that is at hand. -/
  | parseWith (classpath : Classpath)

namespace Request

/-- The class path that a request uses for a class of the archive at `path`, and the library images that
are loaded when it has been built. -/
def classpath (path : String) (loaded : Loaded) : Request → Except ArchiveError Classpath × Loaded
  | .parse machine settings => Classpath.ofArchive machine settings path loaded
  | .parseWith classpath => (.ok classpath, loaded)

/-- What a class answers to a request. -/
def answer (index : ClassIndex) (loaded : Loaded) :
    Request → Except IndexError Attempt × ClassIndex × Loaded
  | .parse machine settings => index.parse machine settings loaded
  | .parseWith classpath =>
    let (reply, index) := index.parseWith classpath
    (reply, index, loaded)

end Request

/-- A class and the loaded library images after requests. -/
def after (index : ClassIndex) (loaded : Loaded) (requests : List Request) : ClassIndex × Loaded :=
  requests.foldl (fun state request => (request.answer state.1 state.2).2) (index, loaded)

/-! ## A single request -/

variable {index : ClassIndex} {loaded : Loaded}

/-- The first request is decided by its class path and by the source. -/
theorem answer_untouched (untouched : index.progress = .untouched) (request : Request) :
    request.answer index loaded =
      match request.classpath index.path loaded with
      | (.ok classpath, loaded) =>
        (.ok (index.indexWith classpath).1, (index.indexWith classpath).2, loaded)
      | (.error error, loaded) =>
        (.error (.archive error), { index with progress := .attempted }, loaded) := by
  cases request with
  | parse machine settings =>
    cases built : Classpath.ofArchive machine settings index.path loaded with
    | mk result images =>
      cases result <;> simp only [Request.answer, Request.classpath, parse, untouched, built]
  | parseWith classpath => simp only [Request.answer, Request.classpath, parseWith, untouched]

/-- Once there was a request, another one is refused and changes nothing. -/
theorem answer_touched (touched : index.progress ≠ .untouched) (request : Request) :
    request.answer index loaded = (.error (.alreadyParsed index.className), index, loaded) := by
  cases stands : index.progress with
  | untouched => exact absurd stands touched
  | attempted | indexed =>
    cases request with
    | parse machine settings => simp only [Request.answer, parse, stands]
    | parseWith classpath => simp only [Request.answer, parseWith, stands]

/-- What is fixed about a class when it is made. -/
structure SameClass (first second : ClassIndex) : Prop where
  className : second.className = first.className
  unit : second.unit = first.unit
  parent : second.parent = first.parent
  path : second.path = first.path

/-- How a class stands after its first request, with the reply to it. -/
inductive Decided (index : ClassIndex) (loaded : Loaded) (request : Request) :
    Except IndexError Attempt → ClassIndex → Prop
  /-- The archive cannot be read. -/
  | unread (error : ArchiveError) (fails : (request.classpath index.path loaded).1 = .error error) :
      Decided index loaded request (.error (.archive error)) { index with progress := .attempted }
  /-- The source cannot be indexed. -/
  | failed (classpath : Classpath) (error : Tree.SourceError)
      (read : (request.classpath index.path loaded).1 = .ok classpath)
      (fails : SourceIndex.build index.unit.source index.unit.tree classpath = .error error) :
      Decided index loaded request (.ok (.failed error)) { index with progress := .attempted }
  /-- The source has been indexed. -/
  | indexed (classpath : Classpath) (found : SourceIndex)
      (read : (request.classpath index.path loaded).1 = .ok classpath)
      (builds : SourceIndex.build index.unit.source index.unit.tree classpath = .ok found) :
      Decided index loaded request (.ok (.indexed found.summary))
        { index with progress := .indexed found }

/-- **What the first request can do.** -/
theorem decided_of_untouched (untouched : index.progress = .untouched) (request : Request) :
    Decided index loaded request (request.answer index loaded).1
      (request.answer index loaded).2.1 := by
  rw [answer_untouched untouched]
  cases read : request.classpath index.path loaded with
  | mk result images =>
    cases result with
    | error error => exact .unread error (by rw [read])
    | ok classpath =>
      simp only [indexWith]
      cases builds : SourceIndex.build index.unit.source index.unit.tree classpath with
      | error error => exact .failed classpath error (by rw [read]) builds
      | ok found => exact .indexed classpath found (by rw [read]) builds

section Decided

variable {request : Request} {reply : Except IndexError Attempt} {later : ClassIndex}

/-- A decision does not touch the class itself: its name, its source, or where it lies. -/
theorem Decided.sameClass (decided : Decided index loaded request reply later) :
    index.SameClass later := by
  cases decided <;> exact ⟨rfl, rfl, rfl, rfl⟩

/-- Behind a decision the class has been tried. -/
theorem Decided.touched (decided : Decided index loaded request reply later) :
    later.progress ≠ .untouched := by
  cases decided <;> exact fun absurd => nomatch absurd

/-- The request that decides is not turned away. -/
theorem Decided.accepted (decided : Decided index loaded request reply later) (className : String) :
    reply ≠ .error (.alreadyParsed className) := by
  cases decided <;> exact fun absurd => nomatch absurd

/-- The class is indexed just when the reply says so. -/
theorem Decided.isIndexed_iff (decided : Decided index loaded request reply later) :
    later.isIndexed = true ↔ ∃ summary, reply = .ok (.indexed summary) := by
  cases decided with
  | unread | failed => simp [isIndexed]
  | indexed classpath found => simp [isIndexed]

end Decided

/-! ## Any number of requests -/

/-- Behind the first request none changes anything. -/
theorem after_touched (touched : index.progress ≠ .untouched) (requests : List Request) :
    after index loaded requests = (index, loaded) := by
  induction requests with
  | nil => rfl
  | cons request requests ih =>
    have refused : request.answer index loaded = (.error (.alreadyParsed index.className), index, loaded) :=
      answer_touched touched request
    rw [after, List.foldl_cons, refused]
    exact ih

/-- The first request decides for good. -/
theorem after_cons (untouched : index.progress = .untouched) (first : Request)
    (requests : List Request) :
    after index loaded (first :: requests) = (first.answer index loaded).2 :=
  after_touched (decided_of_untouched untouched first).touched requests

/-- A class of which every answer is empty. -/
structure Blank (index : ClassIndex) : Prop where
  find : ∀ kind key, index.table.find kind key = []
  keys : ∀ kind, index.table.keys kind = []
  atCaret : ∀ line column, index.table.atCaret line column = []
  declaringType? : ∀ member, index.table.declaringType? member = none
  summary : index.summary = {}

/-- **A class that has not been indexed answers nothing**: its table is empty, whether it was never tried
or could not be indexed. -/
theorem blank_of_not_isIndexed (without : index.isIndexed = false) : index.Blank := by
  have noTable : index.table = .empty := by
    unfold table
    unfold isIndexed at without
    split
    · rename_i found indexed
      rw [indexed] at without
      cases without
    · rfl
  have noSummary : index.summary = Table.empty.summary 0 := by
    unfold summary
    unfold isIndexed at without
    split
    · rename_i found indexed
      rw [indexed] at without
      cases without
    · rfl
  have noShelf : ∀ kind, Table.empty.shelf kind = ∅ := fun kind => by cases kind <;> rfl
  have noneFound : ∀ kind key, Table.empty.find kind key = [] := by
    intro kind key
    rw [Table.find, noShelf]
    rfl
  have noneListed : ∀ kind, Table.empty.list kind = [] := by
    intro kind
    rw [Table.list, noShelf]
    rfl
  constructor
  case find => rw [noTable]; exact noneFound
  case keys => intro kind; rw [noTable, Table.keys, noShelf]; rfl
  case atCaret =>
    intro line column
    rw [noTable, Table.atCaret, List.flatMap_eq_nil_iff.mpr fun kind _ => noneListed kind]
    rfl
  case declaringType? => intro member; rw [noTable, Table.declaringType?, noneFound]; rfl
  case summary => rw [noSummary]; rfl

/-- How a class stands that was made new and then had the given requests. -/
structure Settled (fresh : ClassIndex) (loaded : Loaded) (requests : List Request)
    (index : ClassIndex) (images : Loaded) : Prop where
  sameClass : fresh.SameClass index
  /-- A first request gets another answer, and each later one is refused and changes nothing. -/
  next : ∀ request : Request,
    if requests = [] then
      (request.answer index images).1 ≠ .error (.alreadyParsed fresh.className)
    else request.answer index images = (.error (.alreadyParsed fresh.className), index, images)
  /-- There is an index if and only if the first request gave one. -/
  isIndexed_iff : index.isIndexed = true ↔
    ∃ first ∈ requests.head?, ∃ summary, (first.answer fresh loaded).1 = .ok (.indexed summary)
  /-- Every answer is from the index that the first request gave, with the counts it returned. -/
  indexed : ∀ first ∈ requests.head?, ∀ summary,
    (first.answer fresh loaded).1 = .ok (.indexed summary) →
      ∃ classpath found, (first.classpath fresh.path loaded).1 = .ok classpath ∧
        SourceIndex.build fresh.unit.source fresh.unit.tree classpath = .ok found ∧
        index.table = found.table ∧ index.summary = summary
  blank : index.isIndexed = false → index.Blank

/-- **The first request decides.** Of every class that is made new, after any requests to index it, of both
ways, with whatever settings, archives and class paths: how it stands is settled by the first of them. -/
theorem settled_by_first (className : String) (unit : SourceUnit) (parent path : String)
    (loaded : Loaded) (requests : List Request) :
    let fresh : ClassIndex := { className, unit, parent, path }
    Settled fresh loaded requests (fresh.after loaded requests).1 (fresh.after loaded requests).2 := by
  intro fresh
  cases requests with
  | nil =>
    refine ⟨⟨rfl, rfl, rfl, rfl⟩, fun request => ?_, ?_, (fun first absent => nomatch absent),
      fun without => blank_of_not_isIndexed without⟩
    · rw [if_pos rfl]
      exact (decided_of_untouched rfl request).accepted className
    · constructor
      · exact fun absurd => nomatch absurd
      · rintro ⟨first, absent, -⟩
        exact nomatch absent
  | cons first requests =>
    have untouched : fresh.progress = .untouched := rfl
    have decided : Decided fresh loaded first (first.answer fresh loaded).1 (first.answer fresh loaded).2.1 :=
      decided_of_untouched untouched first
    rw [after_cons untouched]
    refine ⟨decided.sameClass, fun request => ?_, ?_, ?_, fun without => blank_of_not_isIndexed without⟩
    · rw [if_neg (List.cons_ne_nil _ _), answer_touched decided.touched, decided.sameClass.className]
    · rw [decided.isIndexed_iff]
      simp
    · rintro other same summary gave
      cases same
      generalize first.answer fresh loaded = answered at decided gave ⊢
      obtain ⟨reply, later, images⟩ := answered
      cases decided with
      | unread | failed => cases gave
      | indexed classpath found read builds =>
        cases gave
        exact ⟨classpath, found, read, builds, rfl, rfl⟩

end SymbolIndex.ClassIndex
