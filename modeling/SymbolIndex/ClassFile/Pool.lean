import SymbolIndex.ClassFile.Reader
import SymbolIndex.Text.Lossy

/-!
# The constant pool

The numbered constants at the head of a class file. Only texts and class names are kept; any other
constant holds its place, and a long or double constant takes two places.
-/

namespace SymbolIndex.ClassFile

/-- What stands at one place of the pool. -/
inductive Constant where
  | text (value : String)
  | classRef (nameIndex : Nat)
  | other
  | unusable
  deriving DecidableEq, Repr

/-- The constants by index. Place 0 is never usable. -/
abbrev Pool := Array Constant

/-- The places that one constant takes, from its tag on. -/
def readConstant : Reader (List Constant) := do
  let tag ← Reader.u1
  if tag = 1 then
    let length ← Reader.u2
    let bytes ← Reader.slice length
    return [.text (Text.ofBytesLossy bytes)]
  else if tag = 7 then
    return [.classRef (← Reader.u2)]
  else if tag ∈ [3, 4, 9, 10, 11, 12, 17, 18] then
    Reader.skip 4
    return [.other]
  else if tag ∈ [5, 6] then
    Reader.skip 8
    return [.other, .unusable]
  else if tag ∈ [8, 16, 19, 20] then
    Reader.skip 2
    return [.other]
  else if tag = 15 then
    Reader.skip 3
    return [.other]
  else
    throw (.unsupportedConstant tag)

/-- Reads constants onto `pool` until `places` more places are taken; the last constant may take
one place too many. -/
def readPlaces (pool : Pool) : Nat → Reader Pool
  | 0 => fun bytes => .ok (pool, bytes)
  | places + 1 => fun bytes =>
    match readConstant bytes with
    | .error error => .error error
    | .ok (constants, rest) =>
      readPlaces (pool ++ constants) (places + 1 - max constants.length 1) rest
termination_by places => places
decreasing_by omega

/-- The pool, from its count on. The count includes place 0. -/
def readPool : Reader Pool := do
  let count ← Reader.u2
  readPlaces #[.unusable] (count - 1)

namespace Pool

/-- The text at a place. -/
def textAt (pool : Pool) (index : Nat) : Except Error String :=
  match pool[index]? with
  | some (.text value) => .ok value
  | _ => .error (.badConstantIndex index)

/-- The name of the class at a place. -/
def classAt (pool : Pool) (index : Nat) : Except Error String :=
  match pool[index]? with
  | some (.classRef nameIndex) => pool.textAt nameIndex
  | _ => .error (.badConstantIndex index)

end Pool

end SymbolIndex.ClassFile
