import SymbolIndex.JavaType

/-!
# Descriptors

The compact spelling of types inside class files: a letter for a primitive, `L` path `;` for a
class, `[` for each array dimension, and for a method its parameters between parentheses followed
by what it returns. `fieldType` and `methodType` read a descriptor, `ofType` and `ofMethod` write
one. A type has at most 255 dimensions.
-/

namespace SymbolIndex.Descriptor

/-- The most array dimensions a type may have. -/
def maxDimensions : Nat := 255

/-- Why a text is no descriptor. Both causes carry the whole text. -/
inductive Error where
  | malformed (descriptor : String)
  | tooManyDimensions (descriptor : String)
  deriving DecidableEq, Repr

/-- The wording of an error. -/
def Error.message : Error → String
  | .malformed descriptor => "malformed descriptor: " ++ descriptor
  | .tooManyDimensions descriptor =>
    "descriptor `" ++ descriptor ++ "` has more than 255 array dimensions"

/-- What is wrong at the place where reading stopped. -/
inductive Fault where
  | malformed
  | tooManyDimensions
  deriving DecidableEq, Repr

/-- The error of a fault found in the given text. -/
def Fault.inText (descriptor : String) : Fault → Error
  | .malformed => .malformed descriptor
  | .tooManyDimensions => .tooManyDimensions descriptor

/-- The primitive that a letter stands for; `void` has no letter here, since it is no field type. -/
def primitiveOf? : Char → Option Primitive
  | 'B' => some .byte
  | 'C' => some .char
  | 'D' => some .double
  | 'F' => some .float
  | 'I' => some .int
  | 'J' => some .long
  | 'S' => some .short
  | 'Z' => some .boolean
  | _ => none

/-- Reads a class or a primitive, and returns what is left. -/
def readElement : List Char → Except Fault (JavaType × List Char)
  | [] => .error .malformed
  | 'L' :: rest =>
    match rest.dropWhile (· ≠ ';') with
    | [] => .error .malformed
    | _ :: after => .ok (.reference (String.ofList (rest.takeWhile (· ≠ ';'))), after)
  | letter :: rest =>
    match primitiveOf? letter with
    | some kind => .ok (.primitive kind, rest)
    | none => .error .malformed

/-- Reads a field type, and returns what is left. -/
def readType (chars : List Char) : Except Fault (JavaType × List Char) :=
  let dimensions := (chars.takeWhile (· = '[')).length
  match chars.dropWhile (· = '[') with
  | [] => .error .malformed
  | body =>
    if maxDimensions < dimensions then .error .tooManyDimensions
    else do
      let (element, rest) ← readElement body
      return (element.arrayOf dimensions, rest)

/-- An element takes at least one character. -/
theorem readElement_length_lt {chars rest : List Char} {type : JavaType}
    (read : readElement chars = .ok (type, rest)) : rest.length < chars.length := by
  unfold readElement at read
  split at read
  · cases read
  · split at read
    · cases read
    · rename_i body _ _ _ dropped
      cases read
      have bound := (List.dropWhile_sublist (l := body) (· ≠ ';')).length_le
      rw [dropped] at bound
      simp only [List.length_cons] at bound ⊢
      omega
  · split at read
    · cases read
      exact Nat.lt_succ_self _
    · cases read

/-- A type takes at least one character, so a list of types ends. -/
theorem readType_length_lt {chars rest : List Char} {type : JavaType}
    (read : readType chars = .ok (type, rest)) : rest.length < chars.length := by
  simp only [readType] at read
  split at read
  · cases read
  · split at read
    · cases read
    · cases element : readElement (chars.dropWhile (· = '[')) with
      | error fault => rw [element] at read; cases read
      | ok found =>
        rw [element] at read
        cases read
        have shorter := readElement_length_lt element
        have bound := (List.dropWhile_sublist (l := chars) (· = '[')).length_le
        omega

/-- Reads field types up to the closing parenthesis, which is dropped. -/
def readParameters (chars : List Char) : Except Fault (List JavaType × List Char) :=
  match chars with
  | [] => .error .malformed
  | ')' :: rest => .ok ([], rest)
  | chars =>
    match _read : readType chars with
    | .error fault => .error fault
    | .ok (type, rest) =>
      match readParameters rest with
      | .error fault => .error fault
      | .ok (types, rest) => .ok (type :: types, rest)
termination_by chars.length
decreasing_by exact readType_length_lt _read

/-- Reads what a method returns: `V` for nothing, or a field type. -/
def readReturn : List Char → Except Fault (JavaType × List Char)
  | 'V' :: rest => .ok (.primitive .void, rest)
  | chars => readType chars

/-- Nothing may be left behind a descriptor. -/
def finished {α : Type} : α × List Char → Except Fault α
  | (value, []) => .ok value
  | (_, _ :: _) => .error .malformed

/-- The type a field descriptor spells. -/
def fieldType (descriptor : String) : Except Error JavaType :=
  (readType descriptor.toList >>= finished).mapError (Fault.inText descriptor)

/-- Reads the parameters and the return type of a method. -/
def readMethod : List Char → Except Fault ((List JavaType × JavaType) × List Char)
  | '(' :: chars => do
    let (parameters, rest) ← readParameters chars
    let (result, rest) ← readReturn rest
    return ((parameters, result), rest)
  | _ => .error .malformed

/-- The parameter types and the return type a method descriptor spells. -/
def methodType (descriptor : String) : Except Error (List JavaType × JavaType) :=
  (readMethod descriptor.toList >>= finished).mapError (Fault.inText descriptor)

/-- The letter of a primitive. -/
def letter : Primitive → Char
  | .boolean => 'Z'
  | .byte => 'B'
  | .char => 'C'
  | .short => 'S'
  | .int => 'I'
  | .long => 'J'
  | .float => 'F'
  | .double => 'D'
  | .void => 'V'

/-- The characters that spell a type. -/
def spell : JavaType → List Char
  | .primitive kind => [letter kind]
  | .reference path => 'L' :: (path.toList ++ [';'])
  | .array element => '[' :: spell element

/-- The descriptor of a type. -/
def ofType (type : JavaType) : String :=
  String.ofList (spell type)

/-- The descriptor of a method with the given parameters and return type. -/
def ofMethod (parameters : List JavaType) (result : JavaType) : String :=
  String.ofList ('(' :: (parameters.flatMap spell ++ ')' :: spell result))

end SymbolIndex.Descriptor
