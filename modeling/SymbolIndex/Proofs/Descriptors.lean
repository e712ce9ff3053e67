import Mathlib.Data.List.TakeWhile
import SymbolIndex.Descriptor

/-!
# Reading back what descriptors spell

A descriptor is read by its first character: `[` for one more dimension, a letter for a primitive, `L` for a
class whose path goes up to the next `;`. So the spelling of a field type is read off the front of any text
(`readType_spell`), and from it the spelling of parameters up to their parenthesis and of a whole method.
Nothing else is read: what a reader has taken off a text is the spelling of what it gives
(`readType_sound`).

`IsFieldType` is what can be spelled: at most 255 dimensions over a primitive other than `void` or over a
class whose path holds no `;`. `fieldType_ofType` and `methodType_ofMethod` say that such types come back,
`fieldType_eq_ok_iff` and `methodType_eq_ok_iff` that no other text is accepted.
-/

namespace SymbolIndex

namespace JavaType

/-- How many dimensions an array type has. -/
def dimensions : JavaType → Nat
  | .array element => element.dimensions + 1
  | _ => 0

/-- What stands below all dimensions. -/
def core : JavaType → JavaType
  | .array element => element.core
  | type => type

/-- A type is its core under its dimensions. -/
@[simp] theorem arrayOf_core (type : JavaType) : type.core.arrayOf type.dimensions = type := by
  induction type with
  | primitive kind => rfl
  | reference path => rfl
  | array element ih => rw [dimensions, core, arrayOf, ih]

@[simp] theorem dimensions_arrayOf (type : JavaType) (dimensions : Nat) :
    (type.arrayOf dimensions).dimensions = dimensions + type.dimensions := by
  induction dimensions with
  | zero => rw [arrayOf, Nat.zero_add]
  | succ dimensions ih => rw [arrayOf, JavaType.dimensions, ih, Nat.succ_add]

@[simp] theorem core_arrayOf (type : JavaType) (dimensions : Nat) :
    (type.arrayOf dimensions).core = type.core := by
  induction dimensions with
  | zero => rfl
  | succ dimensions ih => rw [arrayOf, core, ih]

end JavaType

namespace Descriptor

/-- The types below all dimensions of a field type. -/
def IsElement : JavaType → Prop
  | .primitive kind => kind ≠ .void
  | .reference path => ';' ∉ path.toList
  | .array _ => False

instance : DecidablePred IsElement := fun type =>
  match type with
  | .primitive kind => inferInstanceAs (Decidable (kind ≠ .void))
  | .reference path => inferInstanceAs (Decidable (';' ∉ path.toList))
  | .array _ => isFalse id

/-- The types that a field may have. -/
structure IsFieldType (type : JavaType) : Prop where
  dimensions : type.dimensions ≤ maxDimensions
  element : IsElement type.core

instance (type : JavaType) : Decidable (IsFieldType type) :=
  decidable_of_iff (type.dimensions ≤ maxDimensions ∧ IsElement type.core)
    ⟨fun parts => ⟨parts.1, parts.2⟩, fun field => ⟨field.dimensions, field.element⟩⟩

/-- What a method may return: nothing, or what a field may hold. -/
def IsReturnType (type : JavaType) : Prop :=
  type = .primitive .void ∨ IsFieldType type

instance (type : JavaType) : Decidable (IsReturnType type) :=
  inferInstanceAs (Decidable (_ ∨ _))

/-! ## Elements -/

/-- An element has no dimensions of its own. -/
theorem IsElement.flat {type : JavaType} (element : IsElement type) :
    type.dimensions = 0 ∧ type.core = type := by
  cases type with
  | array inner => exact element.elim
  | _ => exact ⟨rfl, rfl⟩

theorem primitiveOf?_letter {kind : Primitive} (field : kind ≠ .void) :
    primitiveOf? (letter kind) = some kind := by
  cases kind <;> trivial

/-- A letter that stands for a primitive is the letter of it, and the primitive is not `void`. -/
theorem letter_of_primitiveOf? {c : Char} {kind : Primitive} (found : primitiveOf? c = some kind) :
    kind ≠ .void ∧ c = letter kind := by
  unfold primitiveOf? at found
  split at found <;> cases found <;> exact ⟨by decide, rfl⟩

/-- An element is read off the front of any text. -/
theorem readElement_spell {type : JavaType} (element : IsElement type) (rest : List Char) :
    readElement (spell type ++ rest) = .ok (type, rest) := by
  cases type with
  | primitive kind =>
    rw [spell, List.singleton_append, readElement, primitiveOf?_letter element]
    cases kind <;> simp [letter]
  | reference path =>
    -- the path is what stands before the first `;`
    have before : ∀ c ∈ path.toList, decide (c ≠ ';') = true := by
      intro c inside
      exact decide_eq_true fun same => element (same ▸ inside)
    simp only [spell, List.cons_append, List.append_assoc, readElement]
    rw [List.dropWhile_append_of_pos before, List.takeWhile_append_of_pos before]
    simp
  | array element => exact element.elim

/-- A text with a `;` is what stands before the first one, the `;`, and what is left. -/
theorem eq_takeWhile_append {chars behind : List Char} {stop : Char}
    (dropped : chars.dropWhile (· ≠ ';') = stop :: behind) :
    chars = chars.takeWhile (· ≠ ';') ++ ';' :: behind := by
  have isStop : stop = ';' := by
    have first := List.head?_dropWhile_not (· ≠ ';') chars
    rw [dropped] at first
    simpa using first
  rw [← isStop, ← dropped, isStop, List.takeWhile_append_dropWhile]

/-- What is read as an element starts with its spelling. -/
theorem readElement_sound {chars rest : List Char} {type : JavaType}
    (read : readElement chars = .ok (type, rest)) :
    IsElement type ∧ chars = spell type ++ rest := by
  unfold readElement at read
  split at read
  · cases read
  · rename_i body
    split at read
    · cases read
    · rename_i stop after dropped
      cases read
      refine ⟨?_, ?_⟩
      · intro inside
        rw [String.toList_ofList] at inside
        simpa using List.mem_takeWhile_imp inside
      · rw [spell, String.toList_ofList, List.cons_append, List.append_assoc, List.singleton_append,
          ← eq_takeWhile_append dropped]
  · split at read
    · rename_i kind found
      cases read
      obtain ⟨field, same⟩ := letter_of_primitiveOf? found
      exact ⟨field, by rw [same, spell, List.singleton_append]⟩
    · cases read

/-- An element starts with no bracket and with no parenthesis, and with no `V`. -/
theorem spell_element {type : JavaType} (element : IsElement type) :
    ∃ c chars, spell type = c :: chars ∧ c ≠ '[' ∧ c ≠ ')' ∧ c ≠ 'V' := by
  cases type with
  | primitive kind => exact ⟨_, _, rfl, by cases kind <;> trivial⟩
  | reference path => exact ⟨_, _, rfl, by decide⟩
  | array element => exact element.elim

/-! ## Field types -/

/-- A type is spelled as its dimensions and its core. -/
theorem spell_eq (type : JavaType) :
    spell type = List.replicate type.dimensions '[' ++ spell type.core := by
  induction type with
  | primitive kind => rfl
  | reference path => rfl
  | array element ih =>
    rw [spell, ih, JavaType.dimensions, JavaType.core, List.replicate_succ, List.cons_append]

/-- **A field type is read off the front of any text.** -/
theorem readType_spell {type : JavaType} (field : IsFieldType type) (rest : List Char) :
    readType (spell type ++ rest) = .ok (type, rest) := by
  obtain ⟨c, chars, starts, noBracket, -, -⟩ := spell_element field.element
  have brackets : ∀ c ∈ List.replicate type.dimensions '[', decide (c = '[') = true := by
    intro c inside
    exact decide_eq_true (List.eq_of_mem_replicate inside)
  have counted : ((spell type ++ rest).takeWhile (· = '[')).length = type.dimensions := by
    rw [spell_eq, List.append_assoc, List.takeWhile_append_of_pos brackets, starts]
    simp [noBracket]
  have body : (spell type ++ rest).dropWhile (· = '[') = spell type.core ++ rest := by
    rw [spell_eq, List.append_assoc, List.dropWhile_append_of_pos brackets, starts]
    simp [noBracket]
  simp only [readType, counted, body]
  split
  · simp_all
  · rw [if_neg (Nat.not_lt.mpr field.dimensions), readElement_spell field.element]
    exact congrArg (fun type => Except.ok (type, rest)) type.arrayOf_core

/-- **What is read as a field type is one, and the text starts with its spelling.** -/
theorem readType_sound {chars rest : List Char} {type : JavaType}
    (read : readType chars = .ok (type, rest)) :
    IsFieldType type ∧ chars = spell type ++ rest := by
  simp only [readType] at read
  split at read
  · cases read
  · split at read
    · cases read
    · rename_i fits
      cases found : readElement (chars.dropWhile (· = '[')) with
      | error fault => rw [found] at read; cases read
      | ok pair =>
        rw [found] at read
        cases read
        obtain ⟨element, body⟩ := readElement_sound found
        obtain ⟨flat, whole⟩ := element.flat
        have brackets : chars.takeWhile (· = '[') =
            List.replicate (chars.takeWhile (· = '[')).length '[' := by
          refine List.eq_replicate_iff.mpr ⟨rfl, fun c inside => ?_⟩
          simpa using List.mem_takeWhile_imp inside
        refine ⟨⟨?_, ?_⟩, ?_⟩
        · rw [JavaType.dimensions_arrayOf, flat]
          exact Nat.not_lt.mp fits
        · rw [JavaType.core_arrayOf, whole]
          exact element
        · rw [spell_eq, JavaType.dimensions_arrayOf, JavaType.core_arrayOf, flat, whole,
            Nat.add_zero, ← brackets, List.append_assoc, ← body, List.takeWhile_append_dropWhile]

/-- A field type starts with no parenthesis and with no `V`. -/
theorem spell_field {type : JavaType} (field : IsFieldType type) :
    ∃ c chars, spell type = c :: chars ∧ c ≠ ')' ∧ c ≠ 'V' := by
  cases type with
  | array element => exact ⟨_, _, rfl, by decide⟩
  | _ =>
    obtain ⟨c, chars, starts, -, others⟩ := spell_element field.element
    exact ⟨c, chars, starts, others⟩

/-! ## Methods -/

/-- Parameters are read up to their parenthesis. -/
theorem readParameters_spell {types : List JavaType} (fields : ∀ type ∈ types, IsFieldType type)
    (rest : List Char) :
    readParameters (types.flatMap spell ++ ')' :: rest) = .ok (types, rest) := by
  induction types with
  | nil => rw [List.flatMap_nil, List.nil_append, readParameters]
  | cons type types ih =>
    obtain ⟨first, others⟩ := List.forall_mem_cons.mp fields
    obtain ⟨c, chars, starts, noEnd, -⟩ := spell_field first
    rw [List.flatMap_cons, List.append_assoc, readParameters]
    · split
      · rename_i fault read
        rw [readType_spell first] at read
        cases read
      · rename_i read
        rw [readType_spell first] at read
        cases read
        rw [ih others]
    all_goals simp [starts, noEnd]

/-- What is read as parameters is spelled up to a parenthesis. -/
theorem readParameters_sound {chars rest : List Char} {types : List JavaType}
    (read : readParameters chars = .ok (types, rest)) :
    (∀ type ∈ types, IsFieldType type) ∧ chars = types.flatMap spell ++ ')' :: rest := by
  fun_induction readParameters chars generalizing types rest with
  | case1 => cases read
  | case2 behind =>
    cases read
    exact ⟨fun _ member => absurd member List.not_mem_nil, rfl⟩
  | case3 => cases read
  | case4 => cases read
  | case5 chars _ _ first behind readFirst others _ readOthers ih =>
    cases read
    obtain ⟨field, front⟩ := readType_sound readFirst
    obtain ⟨fields, back⟩ := ih readOthers
    refine ⟨List.forall_mem_cons.mpr ⟨field, fields⟩, ?_⟩
    rw [List.flatMap_cons, List.append_assoc, ← back, front]

/-- What a method returns is read off the front of any text. -/
theorem readReturn_spell {type : JavaType} (result : IsReturnType type) (rest : List Char) :
    readReturn (spell type ++ rest) = .ok (type, rest) := by
  obtain rfl | field := result
  · rfl
  · obtain ⟨c, chars, starts, -, noVoid⟩ := spell_field field
    rw [← readType_spell field rest, starts, List.cons_append, readReturn]
    simpa using noVoid

/-- What is read as the return of a method is one, and the text starts with its spelling. -/
theorem readReturn_sound {chars rest : List Char} {type : JavaType}
    (read : readReturn chars = .ok (type, rest)) :
    IsReturnType type ∧ chars = spell type ++ rest := by
  unfold readReturn at read
  split at read
  · cases read
    exact ⟨.inl rfl, rfl⟩
  · obtain ⟨field, front⟩ := readType_sound read
    exact ⟨.inr field, front⟩

/-- What is read as a method is spelled with its parameters and its return. -/
theorem readMethod_sound {chars rest : List Char} {parameters : List JavaType} {result : JavaType}
    (read : readMethod chars = .ok ((parameters, result), rest)) :
    (∀ type ∈ parameters, IsFieldType type) ∧ IsReturnType result ∧
      chars = '(' :: (parameters.flatMap spell ++ ')' :: spell result) ++ rest := by
  unfold readMethod at read
  split at read
  · rename_i chars
    cases readFirst : readParameters chars with
    | error fault => rw [readFirst] at read; cases read
    | ok first =>
      obtain ⟨types, middle⟩ := first
      simp only [readFirst, bind, Except.bind] at read
      cases readLast : readReturn middle with
      | error fault => rw [readLast] at read; cases read
      | ok last =>
        rw [readLast] at read
        cases read
        obtain ⟨fields, front⟩ := readParameters_sound readFirst
        obtain ⟨returns, back⟩ := readReturn_sound readLast
        refine ⟨fields, returns, ?_⟩
        rw [front, back]
        simp
  · cases read

/-! ## Whole descriptors -/

/-- A descriptor is accepted when nothing is left behind what was read. -/
theorem finished_eq_ok_iff {α : Type} {read : Except Fault (α × List Char)} {value : α}
    {inText : Fault → Error} :
    (read >>= finished).mapError inText = .ok value ↔ read = .ok (value, []) := by
  constructor
  · intro done
    match read, done with
    | .ok (_, []), done => cases done; rfl
  · rintro rfl
    rfl

/-- **The descriptor of a field type spells it.** -/
theorem fieldType_ofType {type : JavaType} (field : IsFieldType type) :
    fieldType (ofType type) = .ok type := by
  have read := readType_spell field []
  rw [List.append_nil] at read
  rw [fieldType, ofType, String.toList_ofList, read]
  rfl

/-- **A text is read as a field type when it is the descriptor of one.** -/
theorem fieldType_eq_ok_iff {text : String} {type : JavaType} :
    fieldType text = .ok type ↔ IsFieldType type ∧ text = ofType type := by
  constructor
  · intro read
    obtain ⟨field, front⟩ := readType_sound (finished_eq_ok_iff.mp read)
    refine ⟨field, ?_⟩
    rw [ofType, ← List.append_nil (spell type), ← front, String.ofList_toList]
  · rintro ⟨field, rfl⟩
    exact fieldType_ofType field

/-- **The descriptor of a method spells its parameters and what it returns.** -/
theorem methodType_ofMethod {parameters : List JavaType} {result : JavaType}
    (fields : ∀ type ∈ parameters, IsFieldType type) (returns : IsReturnType result) :
    methodType (ofMethod parameters result) = .ok (parameters, result) := by
  have read := readReturn_spell returns []
  rw [List.append_nil] at read
  rw [methodType, ofMethod, String.toList_ofList, readMethod, readParameters_spell fields]
  simp only [bind, Except.bind, read]
  rfl

/-- **A text is read as a method when it is the descriptor of one.** -/
theorem methodType_eq_ok_iff {text : String} {parameters : List JavaType} {result : JavaType} :
    methodType text = .ok (parameters, result) ↔
      (∀ type ∈ parameters, IsFieldType type) ∧ IsReturnType result ∧
        text = ofMethod parameters result := by
  constructor
  · intro read
    obtain ⟨fields, returns, whole⟩ := readMethod_sound (finished_eq_ok_iff.mp read)
    refine ⟨fields, returns, ?_⟩
    rw [ofMethod, ← List.append_nil ('(' :: _), ← whole, String.ofList_toList]
  · rintro ⟨fields, returns, rfl⟩
    exact methodType_ofMethod fields returns

end Descriptor

end SymbolIndex
