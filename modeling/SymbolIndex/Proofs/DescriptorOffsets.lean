import Mathlib.Data.List.TakeWhile
import SymbolIndex.Proofs.Descriptors
import SymbolIndex.Proofs.Positions

/-!
# Descriptors by offsets

A descriptor can also be read by the offsets of its bytes: the byte at an offset says what follows, the path
of a class is a slice of the text, and an offset is moved on byte by byte. Such a reader has one more way to
fail, a slice that would cut a character (`Halt.cut`); `fieldTypeAt?` and `methodTypeAt?` then have no answer.

They always have one, and it is that of the reader by characters (`fieldTypeAt?_eq`, `methodTypeAt?_eq`). The
reason is that the first byte of a character tells it from every ASCII character (`utf8EncodeChar_cons`), so
that the offset only moves over whole characters. Offsets are given by what stands behind them
(`offsetBefore`), and one lemma for each reader says that it keeps to such offsets.

`reads_exactly` is the law of both readers: they accept the descriptors of field types and of methods, and no
other text.
-/

namespace SymbolIndex.Descriptor

open SymbolIndex.Tree (Source)

/-! ## Reading by offsets -/

/-- Why reading by offsets stops: a fault of the text, or a slice that would cut a character. -/
inductive Halt where
  | fault (fault : Fault)
  | cut
  deriving DecidableEq, Repr

/-- The bytes of a text from an offset on. -/
def bytesFrom (text : String) (offset : Nat) : List UInt8 :=
  text.toUTF8.data.toList.drop offset

/-- The byte at an offset. -/
def byteAt (text : String) (offset : Nat) : Except Halt UInt8 :=
  match bytesFrom text offset with
  | byte :: _ => .ok byte
  | [] => .error (.fault .malformed)

/-- The part of a text between two offsets, both of which must fall on characters. -/
def sliceAt (text : String) (start stop : Nat) : Except Halt String :=
  if (Source.ofText text).Fits start stop then .ok ((Source.ofText text).slice start stop)
  else .error .cut

/-- The offset at which a character stands first. -/
def offsetOf? (text : String) (c : Char) : Option Nat :=
  if c ∈ text.toList then some (String.ofList (text.toList.takeWhile (· ≠ c))).utf8ByteSize
  else none

/-- Reads the path of a class at an offset, and returns the offset behind the `;` that ends it. -/
def readPathAt (text : String) (offset : Nat) : Except Halt (JavaType × Nat) := do
  let rest ← sliceAt text offset text.utf8ByteSize
  match offsetOf? rest ';' with
  | none => .error (.fault .malformed)
  | some stop =>
    let path ← sliceAt rest 0 stop
    return (.reference path, offset + stop + 1)

/-- Reads a class or a primitive at an offset, and returns the offset behind it. -/
def readElementAt (text : String) (offset : Nat) : Except Halt (JavaType × Nat) := do
  let tag ← byteAt text offset
  if tag = 'L'.toUInt8 then readPathAt text (offset + 1)
  else
    match primitiveOf? (Char.ofUInt8 tag) with
    | some kind => return (.primitive kind, offset + 1)
    | none => .error (.fault .malformed)

/-- Reads a field type at an offset, and returns the offset behind it. -/
def readTypeAt (text : String) (offset : Nat) : Except Halt (JavaType × Nat) := do
  let dimensions := ((bytesFrom text offset).takeWhile (· = '['.toUInt8)).length
  let _ ← byteAt text (offset + dimensions)
  if maxDimensions < dimensions then .error (.fault .tooManyDimensions)
  else
    let (element, next) ← readElementAt text (offset + dimensions)
    return (element.arrayOf dimensions, next)

/-- A step that was followed by another one has succeeded. -/
theorem bind_eq_ok_iff {α β : Type} {first : Except Halt α} {next : α → Except Halt β} {value : β} :
    first >>= next = .ok value ↔ ∃ found, first = .ok found ∧ next found = .ok value := by
  cases first <;> simp [bind, Except.bind]

theorem readPathAt_lt {text : String} {offset next : Nat} {type : JavaType}
    (read : readPathAt text offset = .ok (type, next)) : offset < next := by
  obtain ⟨rest, -, read⟩ := bind_eq_ok_iff.mp read
  split at read
  · cases read
  · obtain ⟨path, -, read⟩ := bind_eq_ok_iff.mp read
    cases read
    omega

theorem readElementAt_lt {text : String} {offset next : Nat} {type : JavaType}
    (read : readElementAt text offset = .ok (type, next)) : offset < next := by
  obtain ⟨tag, -, read⟩ := bind_eq_ok_iff.mp read
  split at read
  · exact Nat.lt_of_succ_lt (readPathAt_lt read)
  · split at read <;> cases read
    exact Nat.lt_succ_self offset

theorem readTypeAt_lt {text : String} {offset next : Nat} {type : JavaType}
    (read : readTypeAt text offset = .ok (type, next)) : offset < next := by
  obtain ⟨_, -, read⟩ := bind_eq_ok_iff.mp read
  split at read
  · cases read
  · obtain ⟨found, readElement, read⟩ := bind_eq_ok_iff.mp read
    cases read
    exact Nat.lt_of_le_of_lt (Nat.le_add_right _ _) (readElementAt_lt readElement)

theorem lt_size_of_byteAt {text : String} {offset : Nat} {byte : UInt8}
    (found : byteAt text offset = .ok byte) : offset < text.utf8ByteSize := by
  rw [byteAt, bytesFrom] at found
  split at found
  · rename_i dropped
    have size := congrArg List.length dropped
    rw [List.length_drop, List.length_cons] at size
    have same : text.toUTF8.data.toList.length = text.utf8ByteSize := String.size_toByteArray
    omega
  · cases found

/-- Reads field types from an offset up to the closing parenthesis, and returns the offset behind it. -/
def readParametersAt (text : String) (offset : Nat) : Except Halt (List JavaType × Nat) :=
  match _byte : byteAt text offset with
  | .error halt => .error halt
  | .ok byte =>
    if byte = ')'.toUInt8 then .ok ([], offset + 1)
    else
      match _read : readTypeAt text offset with
      | .error halt => .error halt
      | .ok (type, next) =>
        match readParametersAt text next with
        | .error halt => .error halt
        | .ok (types, next) => .ok (type :: types, next)
termination_by text.utf8ByteSize - offset
decreasing_by
  have onward := readTypeAt_lt _read
  have inside := lt_size_of_byteAt _byte
  omega

/-- Reads what a method returns at an offset. -/
def readReturnAt (text : String) (offset : Nat) : Except Halt (JavaType × Nat) := do
  let byte ← byteAt text offset
  if byte = 'V'.toUInt8 then return (.primitive .void, offset + 1) else readTypeAt text offset

/-- Nothing may be left behind the offset that was reached. -/
def finishedAt {α : Type} (text : String) : α × Nat → Except Halt α
  | (value, next) => if text.utf8ByteSize ≤ next then .ok value else .error (.fault .malformed)

/-- Reads the parameters and the return type of a method. -/
def readMethodAt (text : String) : Except Halt ((List JavaType × JavaType) × Nat) := do
  let byte ← byteAt text 0
  if byte = '('.toUInt8 then
    let (parameters, next) ← readParametersAt text 1
    let (result, next) ← readReturnAt text next
    return ((parameters, result), next)
  else .error (.fault .malformed)

/-- The answer of a reader by offsets; there is none when a slice would cut a character. -/
def answer? {α : Type} (text : String) : Except Halt α → Option (Except Error α)
  | .ok value => some (.ok value)
  | .error (.fault fault) => some (.error (fault.inText text))
  | .error .cut => none

/-- The type that a field descriptor spells, read by offsets. -/
def fieldTypeAt? (text : String) : Option (Except Error JavaType) :=
  answer? text (readTypeAt text 0 >>= finishedAt text)

/-- The types that a method descriptor spells, read by offsets. -/
def methodTypeAt? (text : String) : Option (Except Error (List JavaType × JavaType)) :=
  answer? text (readMethodAt text >>= finishedAt text)

/-! ## Offsets that fall on characters -/

/-- The offset in front of the last characters of a text. -/
def offsetBefore (text : String) (rest : List Char) : Nat :=
  text.utf8ByteSize - (String.ofList rest).utf8ByteSize

/-- What was read off the characters of a text, with the offset in front of the rest. -/
def located {α : Type} (text : String) : Except Fault (α × List Char) → Except Halt (α × Nat)
  | .ok (value, rest) => .ok (value, offsetBefore text rest)
  | .error fault => .error (.fault fault)

variable {text : String} {before rest : List Char}

theorem offsetBefore_eq (split : text.toList = before ++ rest) :
    offsetBefore text rest = (String.ofList before).utf8ByteSize := by
  rw [offsetBefore, ← String.ofList_toList (s := text), split, String.ofList_append,
    String.utf8ByteSize_append, Nat.add_sub_cancel]

theorem offsetBefore_start (text : String) : offsetBefore text text.toList = 0 := by
  rw [offsetBefore, String.ofList_toList, Nat.sub_self]

/-- Reading over some characters moves the offset on by their bytes. -/
theorem offsetBefore_append (split : text.toList = before ++ rest) {front behind : List Char}
    (parts : rest = front ++ behind) :
    offsetBefore text behind = offsetBefore text rest + (String.ofList front).utf8ByteSize := by
  have moved : text.toList = (before ++ front) ++ behind := by
    rw [split, parts, List.append_assoc]
  rw [offsetBefore_eq split, offsetBefore_eq moved, String.ofList_append, String.utf8ByteSize_append]

/-- An ASCII character takes one byte. -/
theorem offsetBefore_cons {c : Char} (split : text.toList = before ++ c :: rest)
    (short : c.utf8Size = 1) : offsetBefore text rest = offsetBefore text (c :: rest) + 1 := by
  rw [offsetBefore_append split (show c :: rest = [c] ++ rest from rfl), ← String.singleton_eq_ofList,
    String.utf8ByteSize_singleton, short]

/-- From the offset in front of some characters on stand the bytes of these characters. -/
theorem bytesFrom_offsetBefore (split : text.toList = before ++ rest) :
    bytesFrom text (offsetBefore text rest) = rest.flatMap String.utf8EncodeChar := by
  have size : (String.ofList before).utf8ByteSize = (before.flatMap String.utf8EncodeChar).length := by
    have bytes := Text.toUTF8_eq_flatMap (String.ofList before)
    rw [String.toList_ofList] at bytes
    rw [← bytes]
    exact String.size_toByteArray.symm
  rw [bytesFrom, Text.toUTF8_eq_flatMap, split, List.flatMap_append, offsetBefore_eq split, size,
    List.drop_left]

/-- Beyond ASCII there is no letter of a primitive. -/
theorem primitiveOf?_long {c : Char} (long : 128 ≤ c.val.toNat) : primitiveOf? c = none := by
  unfold primitiveOf?
  split
  case h_9 => rfl
  all_goals exact absurd long (by decide)

/-- The first byte of a character tells it from every other ASCII character. -/
theorem utf8EncodeChar_cons (c : Char) :
    ∃ byte bytes, String.utf8EncodeChar c = byte :: bytes ∧
      primitiveOf? (Char.ofUInt8 byte) = primitiveOf? c ∧
      ∀ d : Char, d.val.toNat < 128 → (byte = d.toUInt8 ↔ c = d) := by
  have same (d : Char) (short : d.val.toNat < 128) : (d.toUInt8).toNat = d.val.toNat := by
    rw [Char.toUInt8, UInt32.toNat_toUInt8]
    omega
  have widened (byte : UInt8) : (Char.ofUInt8 byte).val.toNat = byte.toNat := rfl
  by_cases short : c.val.toNat ≤ 127
  · have value : (UInt8.ofNat c.val.toNat).toNat = c.val.toNat := by
      rw [UInt8.toNat_ofNat']
      omega
    refine ⟨_, [], by rw [String.utf8EncodeChar, if_pos short], ?_, fun d isShort => ?_⟩
    · rw [show Char.ofUInt8 (UInt8.ofNat c.val.toNat) = c from
        Char.ext (UInt32.toNat_inj.mp ((widened _).trans value))]
    · rw [← UInt8.toNat_inj, value, same d isShort, UInt32.toNat_inj, Char.ext_iff]
  · obtain ⟨lead, bytes, encoded, encodes⟩ := Text.encodes_utf8EncodeChar (c := c) (by omega)
    have long := encodes.long
    refine ⟨lead, bytes, encoded, ?_, fun d isShort => ⟨fun equal => ?_, fun equal => ?_⟩⟩
    · rw [primitiveOf?_long (by rw [widened]; exact long), primitiveOf?_long (by omega)]
    · rw [equal, same d isShort] at long
      omega
    · rw [equal] at short
      omega

/-- Bytes hold as many brackets in front as the characters that they stand for. -/
theorem takeWhile_bracket (chars : List Char) :
    ((chars.flatMap String.utf8EncodeChar).takeWhile (· = '['.toUInt8)).length =
      (chars.takeWhile (· = '[')).length := by
  induction chars with
  | nil => rfl
  | cons c chars ih =>
    by_cases bracket : c = '['
    · subst bracket
      rw [List.takeWhile_cons_of_pos (by decide), List.length_cons, ← ih, List.flatMap_cons]
      rfl
    · obtain ⟨byte, bytes, encoded, -, tells⟩ := utf8EncodeChar_cons c
      have other : byte ≠ '['.toUInt8 := mt (tells '[' (by decide)).mp bracket
      rw [List.flatMap_cons, encoded, List.cons_append, List.takeWhile_cons_of_neg (by simpa using other),
        List.takeWhile_cons_of_neg (by simpa using bracket)]
      rfl

/-- The byte at the offset in front of a character. -/
theorem byteAt_offsetBefore {c : Char} (split : text.toList = before ++ c :: rest) :
    ∃ byte, byteAt text (offsetBefore text (c :: rest)) = .ok byte ∧
      primitiveOf? (Char.ofUInt8 byte) = primitiveOf? c ∧
      ∀ d : Char, d.val.toNat < 128 → (byte = d.toUInt8 ↔ c = d) := by
  obtain ⟨byte, bytes, encoded, tells⟩ := utf8EncodeChar_cons c
  refine ⟨byte, ?_, tells⟩
  rw [byteAt, bytesFrom_offsetBefore split, List.flatMap_cons, encoded, List.cons_append]

theorem byteAt_end (split : text.toList = before ++ []) :
    byteAt text (offsetBefore text []) = .error (.fault .malformed) := by
  rw [byteAt, bytesFrom_offsetBefore split, List.flatMap_nil]

/-- A slice between the offsets of two cuts is what stands between them. -/
theorem sliceAt_eq {front inside behind : String} (parts : text = front ++ inside ++ behind) :
    sliceAt text front.utf8ByteSize (front ++ inside).utf8ByteSize = .ok inside := by
  have cut : (Source.ofText text).Split front inside behind _ _ := ⟨parts, rfl, rfl⟩
  have fits : (Source.ofText text).Fits front.utf8ByteSize (front ++ inside).utf8ByteSize := by
    refine ⟨?_, ?_, ?_⟩
    · rw [String.utf8ByteSize_append]
      exact Nat.le_add_right _ _
    · exact String.Pos.Raw.isValid_iff_exists_append.mpr
        ⟨front, inside ++ behind, parts.trans String.append_assoc, rfl⟩
    · exact String.Pos.Raw.isValid_iff_exists_append.mpr ⟨front ++ inside, behind, parts, rfl⟩
  rw [sliceAt, if_pos fits, cut.slice]

/-! ## The two readers agree -/

/-- The path of a class is read by offsets as it is read by characters. -/
theorem readPathAt_eq (split : text.toList = before ++ 'L' :: rest) :
    readPathAt text (offsetBefore text rest) = located text (readElement ('L' :: rest)) := by
  have behindTag : text.toList = (before ++ ['L']) ++ rest := by
    rw [split, List.append_assoc, List.singleton_append]
  have parts : text = String.ofList (before ++ ['L']) ++ String.ofList rest := by
    rw [← String.ofList_append, ← behindTag, String.ofList_toList]
  -- behind the tag the offset falls on a character, since the tag is one byte
  have tail : sliceAt text (offsetBefore text rest) text.utf8ByteSize = .ok (String.ofList rest) := by
    have sliced := sliceAt_eq (parts.trans String.append_empty.symm)
    rwa [← parts, ← offsetBefore_eq behindTag] at sliced
  simp only [readPathAt, tail, bind, Except.bind, offsetOf?, String.toList_ofList, readElement]
  cases dropped : rest.dropWhile (· ≠ ';') with
  | nil =>
    have endless : ';' ∉ rest := by
      intro inside
      simpa using List.dropWhile_eq_nil_iff.mp dropped ';' inside
    rw [if_neg endless]
    rfl
  | cons stop behind =>
    have pieces := eq_takeWhile_append dropped
    have ends : ';' ∈ rest := by
      rw [pieces]
      exact List.mem_append_right _ List.mem_cons_self
    have path : sliceAt (String.ofList rest) 0
        (String.ofList (rest.takeWhile (· ≠ ';'))).utf8ByteSize =
          .ok (String.ofList (rest.takeWhile (· ≠ ';'))) := by
      have whole : String.ofList rest =
          "" ++ String.ofList (rest.takeWhile (· ≠ ';')) ++ String.ofList (';' :: behind) := by
        rw [String.empty_append, ← String.ofList_append, ← pieces]
      have sliced := sliceAt_eq whole
      rwa [String.empty_append] at sliced
    have next : offsetBefore text behind =
        offsetBefore text rest + (String.ofList (rest.takeWhile (· ≠ ';'))).utf8ByteSize + 1 := by
      have read : rest = (rest.takeWhile (· ≠ ';') ++ [';']) ++ behind := by
        rw [List.append_assoc, List.singleton_append, ← pieces]
      rw [offsetBefore_append behindTag read, String.ofList_append, String.utf8ByteSize_append,
        ← Nat.add_assoc]
      rfl
    simp only [if_pos ends, path, located, next]
    rfl

/-- An element is read by offsets as it is read by characters. -/
theorem readElementAt_eq (split : text.toList = before ++ rest) :
    readElementAt text (offsetBefore text rest) = located text (readElement rest) := by
  cases rest with
  | nil =>
    rw [readElementAt, byteAt_end split]
    rfl
  | cons c rest =>
    obtain ⟨byte, found, sameKind, tells⟩ := byteAt_offsetBefore split
    simp only [readElementAt, found, bind, Except.bind, sameKind, tells 'L' (by decide)]
    by_cases reference : c = 'L'
    · subst reference
      rw [if_pos rfl, ← readPathAt_eq split, offsetBefore_cons split rfl]
    · rw [if_neg reference, readElement]
      · cases kind : primitiveOf? c with
        | none => rfl
        | some found =>
          have short : c.utf8Size = 1 := by
            rw [(letter_of_primitiveOf? kind).2]
            cases found <;> rfl
          simp only [located, offsetBefore_cons split short]
          rfl
      · simpa using reference

/-- The brackets in front of a type, counted by bytes. -/
theorem brackets_eq (split : text.toList = before ++ rest) :
    ((bytesFrom text (offsetBefore text rest)).takeWhile (· = '['.toUInt8)).length =
      (rest.takeWhile (· = '[')).length := by
  rw [bytesFrom_offsetBefore split, takeWhile_bracket]

/-- The offset behind the brackets in front of a type. -/
theorem offsetBefore_brackets (split : text.toList = before ++ rest) :
    offsetBefore text (rest.dropWhile (· = '[')) =
      offsetBefore text rest + (rest.takeWhile (· = '[')).length := by
  have narrow : ∀ chars : List Char, (∀ c ∈ chars, c = '[') →
      (String.ofList chars).utf8ByteSize = chars.length := by
    intro chars brackets
    induction chars with
    | nil => rfl
    | cons c chars ih =>
      obtain ⟨rfl, others⟩ := List.forall_mem_cons.mp brackets
      rw [← List.singleton_append, String.ofList_append, String.utf8ByteSize_append, ih others,
        List.length_append]
      rfl
  rw [offsetBefore_append split (List.takeWhile_append_dropWhile (p := (· = '['))).symm, narrow]
  intro c inside
  simpa using List.mem_takeWhile_imp inside

/-- **A field type is read by offsets as it is read by characters.** -/
theorem readTypeAt_eq (split : text.toList = before ++ rest) :
    readTypeAt text (offsetBefore text rest) = located text (readType rest) := by
  have behind : text.toList = (before ++ rest.takeWhile (· = '[')) ++ rest.dropWhile (· = '[') := by
    rw [List.append_assoc, List.takeWhile_append_dropWhile, split]
  simp only [readTypeAt, readType, brackets_eq split, ← offsetBefore_brackets split]
  cases body : rest.dropWhile (· = '[') with
  | nil =>
    rw [body] at behind
    rw [byteAt_end behind]
    rfl
  | cons c chars =>
    rw [body] at behind
    obtain ⟨byte, found, -⟩ := byteAt_offsetBefore behind
    simp only [found, bind, Except.bind, readElementAt_eq behind]
    split
    · rfl
    · cases readElement (c :: chars) <;> rfl

/-- The reading of parameters as a sequence of steps. -/
theorem readParametersAt_step (text : String) (offset : Nat) :
    readParametersAt text offset = (do
      let byte ← byteAt text offset
      if byte = ')'.toUInt8 then return ([], offset + 1)
      else
        let (type, next) ← readTypeAt text offset
        let (types, next) ← readParametersAt text next
        return (type :: types, next)) := by
  conv => lhs; rw [readParametersAt]
  cases byteAt text offset with
  | error halt => rfl
  | ok byte =>
    by_cases closing : byte = ')'.toUInt8
    · simp only [if_pos closing, bind, Except.bind]
      rfl
    · simp only [if_neg closing, bind, Except.bind]
      cases readTypeAt text offset with
      | error halt => rfl
      | ok found =>
        simp only
        cases readParametersAt text found.2 <;> rfl

/-- Where no parenthesis closes the parameters, one more of them is read. -/
theorem readParametersAt_next (split : text.toList = before ++ rest) (notEmpty : rest ≠ [])
    (unclosed : ∀ behind, rest ≠ ')' :: behind) :
    readParametersAt text (offsetBefore text rest) = (do
      let (type, next) ← located text (readType rest)
      let (types, next) ← readParametersAt text next
      return (type :: types, next)) := by
  obtain ⟨c, chars, rfl⟩ := List.exists_cons_of_ne_nil notEmpty
  obtain ⟨byte, found, -, tells⟩ := byteAt_offsetBefore split
  have other : byte ≠ ')'.toUInt8 := by
    intro closing
    rw [(tells ')' (by decide)).mp closing] at unclosed
    exact unclosed chars rfl
  rw [readParametersAt_step, found, readTypeAt_eq split]
  simp only [bind, Except.bind, if_neg other]

/-- Parameters are read by offsets as they are read by characters. By induction on their reading. -/
theorem readParametersAt_eq (split : text.toList = before ++ rest) :
    readParametersAt text (offsetBefore text rest) = located text (readParameters rest) := by
  fun_induction readParameters rest generalizing before with
  | case1 =>
    rw [readParametersAt_step, byteAt_end split]
    rfl
  | case2 behind =>
    obtain ⟨byte, found, -, tells⟩ := byteAt_offsetBefore split
    have closing : byte = ')'.toUInt8 := (tells ')' (by decide)).mpr rfl
    rw [readParametersAt_step, found]
    simp only [bind, Except.bind, if_pos closing, located, offsetBefore_cons split rfl]
    rfl
  | case3 chars notEmpty unclosed fault readFirst =>
    rw [readParametersAt_next split notEmpty unclosed, readFirst]
    rfl
  | case4 chars notEmpty unclosed type behind readFirst fault readOthers ih =>
    have next : text.toList = (before ++ spell type) ++ behind := by
      rw [split, (readType_sound readFirst).2, List.append_assoc]
    rw [readParametersAt_next split notEmpty unclosed, readFirst]
    simp only [located, bind, Except.bind, ih next, readOthers]
  | case5 chars notEmpty unclosed type behind readFirst types last readOthers ih =>
    have next : text.toList = (before ++ spell type) ++ behind := by
      rw [split, (readType_sound readFirst).2, List.append_assoc]
    rw [readParametersAt_next split notEmpty unclosed, readFirst]
    simp only [located, bind, Except.bind, ih next, readOthers]
    rfl

/-- What a method returns is read by offsets as it is read by characters. -/
theorem readReturnAt_eq (split : text.toList = before ++ rest) :
    readReturnAt text (offsetBefore text rest) = located text (readReturn rest) := by
  cases rest with
  | nil =>
    rw [readReturnAt, byteAt_end split]
    rfl
  | cons c rest =>
    obtain ⟨byte, found, -, tells⟩ := byteAt_offsetBefore split
    simp only [readReturnAt, found, bind, Except.bind, tells 'V' (by decide)]
    by_cases void : c = 'V'
    · subst void
      simp only [if_pos, readReturn, located, offsetBefore_cons split rfl]
      rfl
    · rw [if_neg void, readTypeAt_eq split, readReturn]
      simpa using void

/-- A method is read by offsets as it is read by characters. -/
theorem readMethodAt_eq (text : String) : readMethodAt text = located text (readMethod text.toList) := by
  have start := offsetBefore_start text
  cases chars : text.toList with
  | nil =>
    have atEnd := byteAt_end (show text.toList = [] ++ [] from chars)
    rw [← chars, start] at atEnd
    rw [readMethodAt, atEnd]
    rfl
  | cons c rest =>
    have split : text.toList = [] ++ c :: rest := chars
    obtain ⟨byte, found, -, tells⟩ := byteAt_offsetBefore split
    rw [← chars, start] at found
    simp only [readMethodAt, found, bind, Except.bind, tells '(' (by decide)]
    by_cases opened : c = '('
    · subst opened
      have one : offsetBefore text rest = 1 := by
        rw [offsetBefore_cons split rfl, ← chars, start]
      have behind : text.toList = ['('] ++ rest := chars
      rw [if_pos rfl, ← one, readParametersAt_eq behind, readMethod]
      cases readFirst : readParameters rest with
      | error fault => rfl
      | ok found =>
        obtain ⟨types, last⟩ := found
        have next : text.toList = ('(' :: types.flatMap spell ++ [')']) ++ last := by
          rw [behind, (readParameters_sound readFirst).2]
          simp
        simp only [located, readReturnAt_eq next, bind, Except.bind]
        cases readReturn last <;> rfl
    · rw [if_neg opened, readMethod]
      · rfl
      · simpa using opened

/-- What is left at an offset is left of the characters. -/
theorem finishedAt_eq {α : Type} {read : Except Fault (α × List Char)}
    (suffixed : ∀ value behind, read = .ok (value, behind) → ∃ front, text.toList = front ++ behind) :
    answer? text (located text read >>= finishedAt text) =
      some ((read >>= finished).mapError (Fault.inText text)) := by
  cases read with
  | error fault => rfl
  | ok found =>
    obtain ⟨value, behind⟩ := found
    obtain ⟨front, split⟩ := suffixed value behind rfl
    simp only [located, bind, Except.bind, finishedAt]
    cases behind with
    | nil =>
      rw [if_pos (by rw [offsetBefore]; exact Nat.le_refl _)]
      rfl
    | cons c behind =>
      obtain ⟨byte, found, -⟩ := byteAt_offsetBefore split
      rw [if_neg (Nat.not_le.mpr (lt_size_of_byteAt found))]
      rfl

/-- **Reading a field descriptor by offsets cuts no character, and gives the same answer.** -/
theorem fieldTypeAt?_eq (text : String) : fieldTypeAt? text = some (fieldType text) := by
  have read := readTypeAt_eq (show text.toList = [] ++ text.toList from rfl)
  rw [offsetBefore_start] at read
  rw [fieldTypeAt?, read, fieldType]
  exact finishedAt_eq fun type behind read => ⟨_, (readType_sound read).2⟩

/-- **Reading a method descriptor by offsets cuts no character, and gives the same answer.** -/
theorem methodTypeAt?_eq (text : String) : methodTypeAt? text = some (methodType text) := by
  rw [methodTypeAt?, readMethodAt_eq, methodType]
  exact finishedAt_eq fun types behind read => ⟨_, (readMethod_sound read).2.2⟩

/-! ## What is accepted -/

/-- Where each value comes from one condition, an error is left to the texts that meet none. -/
theorem exists_error_iff {α : Type} {read : Except Error α} {Accepts : α → Prop}
    (accepts : ∀ value, read = .ok value ↔ Accepts value) :
    (∃ error, read = .error error) ↔ ¬∃ value, Accepts value := by
  cases read with
  | error error =>
    refine iff_of_true ⟨error, rfl⟩ ?_
    rintro ⟨value, accepted⟩
    cases (accepts value).mpr accepted
  | ok value =>
    refine iff_of_false ?_ (not_not.mpr ⟨value, (accepts value).mp rfl⟩)
    rintro ⟨error, failed⟩
    cases failed

/-- **Reading undoes writing, and accepts nothing else.** A text is read as a field type when it is the
descriptor of that type, and as a method when it is the descriptor of it; every other text is refused with an
error. Reading by offsets takes no slice that would cut a character, and gives the same answers. -/
theorem reads_exactly (text : String) :
    (∀ type, fieldType text = .ok type ↔ IsFieldType type ∧ text = ofType type) ∧
    (∀ parameters result, methodType text = .ok (parameters, result) ↔
      (∀ type ∈ parameters, IsFieldType type) ∧ IsReturnType result ∧
        text = ofMethod parameters result) ∧
    ((∃ error, fieldType text = .error error) ↔ ¬∃ type, IsFieldType type ∧ text = ofType type) ∧
    ((∃ error, methodType text = .error error) ↔
      ¬∃ method : List JavaType × JavaType, (∀ type ∈ method.1, IsFieldType type) ∧
        IsReturnType method.2 ∧ text = ofMethod method.1 method.2) ∧
    fieldTypeAt? text = some (fieldType text) ∧ methodTypeAt? text = some (methodType text) := by
  refine ⟨fun _ => fieldType_eq_ok_iff, fun _ _ => methodType_eq_ok_iff, ?_, ?_, fieldTypeAt?_eq text,
    methodTypeAt?_eq text⟩
  · exact exists_error_iff fun _ => fieldType_eq_ok_iff
  · exact exists_error_iff fun _ => methodType_eq_ok_iff

end SymbolIndex.Descriptor
