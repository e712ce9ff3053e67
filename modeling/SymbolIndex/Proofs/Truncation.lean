import SymbolIndex.Proofs.ClassFiles

/-!
# Class files that are cut off

A class file is read from its front to its last attribute, and nothing is looked at twice. **The law**
(`parse_cut`): whatever bytes are read as a class, there is a number of them that the reading needs. Bytes
that stop before that are reported as cut off, and with no other cause, wherever the cut falls; what stands
behind it never matters.

`Needs` says this of one reader and the bytes that it takes, and `Sequential` says that a reader which reads
anything at all needs some of what it was given. One reader behind another is sequential again
(`Sequential.bind`): a cut falls in what the first needs, or in what the second needs behind it.
Nothing is said of bytes that are no class file, where the first fault from the front is reported.
-/

namespace SymbolIndex.ClassFile

variable {α β : Type}

/-- The reader takes just these bytes off the front, for the value, and finds the end in whatever stops
before they do. -/
structure Needs (reader : Reader α) (used : List UInt8) (value : α) : Prop where
  reads : Reads reader used value
  short : ∀ part, part <+: used → part ≠ used → reader part = .error .unexpectedEnd

/-- Whatever the reader reads, it needs some bytes from the front for it. -/
def Sequential (reader : Reader α) : Prop :=
  ∀ bytes value rest, reader bytes = .ok (value, rest) →
    ∃ used, bytes = used ++ rest ∧ Needs reader used value

/-- A reader behind another fails as the first does. -/
theorem bind_error {first : Reader α} {next : α → Reader β} {bytes : List UInt8} {error : Error}
    (fails : first bytes = .error error) : (first >>= next) bytes = .error error := by
  change (first bytes >>= fun read => next read.1 read.2) = _
  rw [fails]
  rfl

/-- Behind a reader that has succeeded the next one reads what is left. -/
theorem bind_ok {first : Reader α} {next : α → Reader β} {bytes rest : List UInt8} {value : α}
    (reads : first bytes = .ok (value, rest)) : (first >>= next) bytes = next value rest := by
  change (first bytes >>= fun read => next read.1 read.2) = _
  rw [reads]
  rfl

namespace Sequential

/-- What is read without a byte needs none. -/
theorem lift (result : Except Error α) : Sequential (liftM result : Reader α) := by
  intro bytes value rest read
  cases result with
  | error error => cases read
  | ok found =>
    cases read
    refine ⟨[], rfl, Reads.lift rfl, ?_⟩
    intro part isPrefix proper
    exact absurd (List.prefix_nil.mp isPrefix) proper

theorem pure (value : α) : Sequential (Pure.pure value) :=
  lift (.ok value)

/-- A failure is the same on every prefix. -/
theorem fail (error : Error) : Sequential (throw error : Reader α) := by
  intro bytes value rest read
  cases read

/-- **One reader behind another**: a cut falls in what the first needs, or behind it in what the second
needs. -/
theorem bind {first : Reader α} {next : α → Reader β} (sequential : Sequential first)
    (sequentialNext : ∀ value, Sequential (next value)) : Sequential (first >>= next) := by
  intro bytes result rest read
  cases start : first bytes with
  | error error =>
    rw [bind_error start] at read
    cases read
  | ok found =>
    obtain ⟨value, middle⟩ := found
    rw [bind_ok start] at read
    obtain ⟨used, rfl, needs⟩ := sequential bytes value middle start
    obtain ⟨more, rfl, needsNext⟩ := sequentialNext value middle result rest read
    refine ⟨used ++ more, (List.append_assoc _ _ _).symm, needs.reads.bind needsNext.reads, ?_⟩
    intro part isPrefix proper
    by_cases late : used <+: part
    · obtain ⟨behind, rfl⟩ := late
      rw [bind_ok (needs.reads behind)]
      apply needsNext.short behind ((List.prefix_append_right_inj used).mp isPrefix)
      rintro rfl
      exact proper rfl
    · have early := (List.prefix_or_prefix_of_prefix isPrefix (List.prefix_append used more)).resolve_right late
      apply bind_error (needs.short part early ?_)
      rintro rfl
      exact late (List.prefix_refl part)

/-- A reader that takes a fixed number of bytes. -/
theorem fixed {reader : Reader α} (count : Nat)
    (reads : ∀ used, used.length = count → ∃ value, Reads reader used value)
    (short : ∀ bytes, bytes.length < count → reader bytes = .error .unexpectedEnd) :
    Sequential reader := by
  intro bytes value rest read
  have long : count ≤ bytes.length := by
    by_contra less
    rw [short bytes (by omega)] at read
    cases read
  have taken : (bytes.take count).length = count := List.length_take_of_le long
  obtain ⟨found, whole⟩ := reads (bytes.take count) taken
  have same := whole (bytes.drop count)
  rw [List.take_append_drop, read] at same
  cases same
  refine ⟨bytes.take count, (List.take_append_drop count bytes).symm, whole, ?_⟩
  intro part isPrefix proper
  apply short
  have less := isPrefix.length_le
  have differs : part.length ≠ (bytes.take count).length := fun same => proper (isPrefix.eq_of_length same)
  omega

/-- A byte is there, or the end is met. -/
theorem u1 : Sequential Reader.u1 := by
  apply fixed 1
  · intro used one
    obtain ⟨a, rfl⟩ := List.length_eq_one_iff.mp one
    exact ⟨a.toNat, fun _ => rfl⟩
  · intro bytes less
    obtain rfl : bytes = [] := List.length_eq_zero_iff.mp (by omega)
    rfl

/-- Two bytes are there, or the end is met among them. -/
theorem u2 : Sequential Reader.u2 := by
  apply fixed 2
  · intro used two
    obtain ⟨a, b, rfl⟩ := List.length_eq_two.mp two
    exact ⟨a.toNat * 256 + b.toNat, fun _ => rfl⟩
  · intro bytes less
    rcases bytes with _ | ⟨a, _ | ⟨b, rest⟩⟩
    · rfl
    · rfl
    · simp only [List.length_cons] at less
      omega

theorem u4 : Sequential Reader.u4 := by
  apply fixed 4
  · intro used four
    rcases used with _ | ⟨a, _ | ⟨b, _ | ⟨c, _ | ⟨d, _ | ⟨e, rest⟩⟩⟩⟩⟩ <;> simp at four
    exact ⟨_, fun _ => rfl⟩
  · intro bytes less
    rcases bytes with _ | ⟨a, _ | ⟨b, _ | ⟨c, _ | ⟨d, rest⟩⟩⟩⟩
    · rfl
    · rfl
    · rfl
    · rfl
    · simp only [List.length_cons] at less
      omega

/-- Bytes that are passed over must be there all the same. -/
theorem skip (count : Nat) : Sequential (Reader.skip count) := by
  apply fixed count
  · rintro used rfl
    exact ⟨(), Reads.skip used⟩
  · intro bytes less
    induction count generalizing bytes with
    | zero => simp at less
    | succ count ih =>
      cases bytes with
      | nil => rfl
      | cons byte bytes => exact ih bytes (by simpa using less)

/-- Bytes that are kept must be there. -/
theorem slice (count : Nat) : Sequential (Reader.slice count) := by
  apply fixed count
  · rintro used rfl
    exact ⟨used, Reads.slice used⟩
  · intro bytes less
    have ends (taken : List UInt8) : Reader.takeOnto taken count bytes = .error .unexpectedEnd := by
      induction count generalizing bytes taken with
      | zero => simp at less
      | succ count ih =>
        cases bytes with
        | nil => rfl
        | cons byte bytes => exact ih bytes (by simpa using less) (byte :: taken)
    rw [Reader.slice, ends]

/-- Items one by one, each with what it needs. -/
theorem collect {item : Reader (Option α)} (sequential : Sequential item) (count : Nat) :
    Sequential (Reader.collect item count) := by
  have next (found : List α) (count : Nat) : Reader.collectOnto item found (count + 1) =
      item >>= fun value => Reader.collectOnto item (value.toList ++ found) count := by
    funext bytes
    cases read : item bytes with
    | error error =>
      rw [bind_error read]
      simp only [Reader.collectOnto, read]
    | ok value =>
      obtain ⟨value, rest⟩ := value
      rw [bind_ok read]
      simp only [Reader.collectOnto, read]
      cases value <;> rfl
  have onto (found : List α) : Sequential (Reader.collectOnto item found count) := by
    induction count generalizing found with
    | zero => exact pure found
    | succ count ih =>
      rw [next]
      exact sequential.bind fun value => ih _
  have turned : Reader.collect item count =
      Reader.collectOnto item [] count >>= fun found => Pure.pure found.reverse := by
    funext bytes
    cases read : Reader.collectOnto item [] count bytes with
    | error error => rw [bind_error read, Reader.collect, read]
    | ok found => rw [bind_ok read, Reader.collect, read]; rfl
  rw [turned]
  exact (onto []).bind fun found => pure _

end Sequential

/-! ## The parts of a class file -/

/-- A constant is read from the front, by the number in its first byte. -/
theorem readConstant_sequential : Sequential readConstant := by
  have passed (count : Nat) (constants : List Constant) :
      Sequential (Reader.skip count >>= fun _ => pure constants) :=
    (Sequential.skip count).bind fun _ => Sequential.pure constants
  refine Sequential.u1.bind fun tag => ?_
  split
  · refine Sequential.u2.bind fun length => ?_
    exact (Sequential.slice length).bind fun bytes => Sequential.pure _
  split
  · exact Sequential.u2.bind fun index => Sequential.pure _
  split
  · exact passed 4 _
  split
  · exact passed 8 _
  split
  · exact passed 2 _
  split
  · exact passed 3 _
  · exact Sequential.fail _

/-- The constants one by one, until their places are taken. -/
theorem readPlaces_sequential (pool : Pool) (places : Nat) : Sequential (readPlaces pool places) := by
  induction places using Nat.strong_induction_on generalizing pool with
  | _ places ih =>
    cases places with
    | zero =>
      have none : readPlaces pool 0 = pure pool := by
        funext bytes
        rw [readPlaces]
        rfl
      rw [none]
      exact Sequential.pure pool
    | succ places =>
      have next : readPlaces pool (places + 1) = readConstant >>= fun constants =>
          readPlaces (pool ++ constants) (places + 1 - max constants.length 1) := by
        funext bytes
        rw [readPlaces]
        cases read : readConstant bytes with
        | error error => simp only [bind_error read, read]
        | ok found => simp only [bind_ok read, read]
      rw [next]
      exact readConstant_sequential.bind fun constants => ih _ (by omega) _

/-- The pool is read from the front, constant by constant. -/
theorem readPool_sequential : Sequential readPool :=
  Sequential.u2.bind fun count => readPlaces_sequential _ (count - 1)

/-- Attributes are passed over one by one, by the lengths they give. -/
theorem skipAttributes_sequential : Sequential skipAttributes := by
  have one : Sequential readAttribute := by
    refine Sequential.u2.bind fun name => Sequential.u4.bind fun length => ?_
    exact (Sequential.skip length).bind fun _ => Sequential.pure none
  exact Sequential.u2.bind fun count => (one.collect count).bind fun _ => Sequential.pure ()

section Members

variable (pool : Pool)

/-- A field or a method is read from the front, whatever its indices lead to. -/
theorem readNamed_sequential : Sequential (readNamed pool) := by
  refine Sequential.u2.bind fun flags => Sequential.u2.bind fun name => Sequential.u2.bind fun descriptor => ?_
  refine skipAttributes_sequential.bind fun _ => ?_
  exact (Sequential.lift _).bind fun _ => (Sequential.lift _).bind fun _ => Sequential.pure _

theorem readField_sequential : Sequential (readField pool) :=
  (readNamed_sequential pool).bind fun _ => (Sequential.lift _).bind fun _ => Sequential.pure _

/-- A method that is not kept is read all the same. -/
theorem readMethod_sequential : Sequential (readMethod pool) := by
  refine (readNamed_sequential pool).bind fun named => ?_
  obtain ⟨name, descriptor⟩ := named
  dsimp only
  split
  · exact Sequential.pure none
  · exact (Sequential.lift _).bind fun _ => Sequential.pure _

theorem readInterface_sequential : Sequential (readInterface pool) :=
  Sequential.u2.bind fun _ => (Sequential.lift _).bind fun _ => Sequential.pure _

end Members

/-- **A class file is read from front to back.** -/
theorem readClass_sequential : Sequential readClass := by
  refine Sequential.u4.bind fun head => ?_
  split
  · exact Sequential.fail _
  refine (Sequential.skip 4).bind fun _ => ?_
  refine readPool_sequential.bind fun pool => ?_
  refine Sequential.u2.bind fun flags => Sequential.u2.bind fun thisIndex => Sequential.u2.bind fun superIndex => ?_
  refine (Sequential.lift _).bind fun path => (Sequential.lift _).bind fun superClass => ?_
  refine Sequential.u2.bind fun count => ((readInterface_sequential pool).collect count).bind fun interfaces => ?_
  refine Sequential.u2.bind fun count => ((readField_sequential pool).collect count).bind fun fields => ?_
  refine Sequential.u2.bind fun count => ((readMethod_sequential pool).collect count).bind fun methods => ?_
  exact skipAttributes_sequential.bind fun _ => Sequential.pure _

/-- **A cut is always noticed, and what stands behind is never looked at.** What is read as a class needs
some number of bytes: whatever stops before them is reported as cut off, and whatever starts with them is
read as the same class. -/
theorem parse_cut {bytes : List UInt8} {declaration : TypeDecl} (parsed : parse bytes = .ok declaration) :
    ∃ length ≤ bytes.length,
      (∀ part, part <+: bytes → part.length < length → parse part = .error .unexpectedEnd) ∧
      ∀ other : List UInt8, other.take length = bytes.take length → parse other = .ok declaration := by
  cases read : readClass bytes with
  | error error =>
    rw [parse, read] at parsed
    cases parsed
  | ok found =>
    obtain ⟨value, rest⟩ := found
    rw [parse, read] at parsed
    cases parsed
    obtain ⟨used, rfl, needs⟩ := readClass_sequential bytes declaration rest read
    refine ⟨used.length, by simp, ?_, ?_⟩
    · intro part isPrefix less
      have early := List.prefix_of_prefix_length_le isPrefix (List.prefix_append used rest) less.le
      rw [parse, needs.short part early fun same => by simp [same] at less]
    · intro other agrees
      rw [List.take_left] at agrees
      rw [parse, ← List.take_append_drop used.length other, agrees, needs.reads]

/-- A class file with a byte too many. -/
theorem parse_cut_trailingByte :
    parse (counterFile.bytes ++ [0]) = .ok counterDecl ∧
      ∃ length ≤ (counterFile.bytes ++ [0]).length,
        (∀ part, part <+: counterFile.bytes ++ [0] → part.length < length →
          parse part = .error .unexpectedEnd) ∧
        ∀ other : List UInt8, other.take length = (counterFile.bytes ++ [0]).take length →
          parse other = .ok counterDecl := by
  have parsed : parse (counterFile.bytes ++ [0]) = .ok counterDecl := by
    rw [parse, readClass_reads counterFile_declares]
  exact ⟨parsed, parse_cut parsed⟩

end SymbolIndex.ClassFile
