import SymbolIndex.Descriptor

/-!
# Reading class files byte by byte

A reader takes bytes off the front of what is left of a class file and stops with a cause when
there are too few. Numbers are big-endian.
-/

namespace SymbolIndex.ClassFile

/-- Why bytes are no class file that can be read. -/
inductive Error where
  | unexpectedEnd
  | badMagic
  | unsupportedConstant (tag : Nat)
  | badConstantIndex (index : Nat)
  | descriptor (error : Descriptor.Error)
  deriving DecidableEq, Repr

/-- The wording of an error. -/
def Error.message : Error → String
  | .unexpectedEnd => "unexpected end of class file"
  | .badMagic => "invalid class file magic header"
  | .unsupportedConstant tag => "unsupported constant pool tag " ++ toString tag
  | .badConstantIndex index => "invalid constant pool index " ++ toString index
  | .descriptor error => error.message

/-- Takes a value off the front of the bytes. -/
abbrev Reader (α : Type) := StateT (List UInt8) (Except Error) α

namespace Reader

/-- Moves `count` bytes from the front of `bytes` onto `taken`, newest first. -/
def takeOnto (taken : List UInt8) : Nat → List UInt8 → Except Error (List UInt8 × List UInt8)
  | 0, bytes => .ok (taken, bytes)
  | _ + 1, [] => .error .unexpectedEnd
  | count + 1, byte :: bytes => takeOnto (byte :: taken) count bytes

/-- The next `count` bytes. -/
def slice (count : Nat) : Reader (List UInt8) := fun bytes =>
  match takeOnto [] count bytes with
  | .ok (taken, rest) => .ok (taken.reverse, rest)
  | .error error => .error error

/-- Passes over `count` bytes. -/
def skip : Nat → Reader Unit
  | 0 => fun bytes => .ok ((), bytes)
  | count + 1 => fun bytes =>
    match bytes with
    | [] => .error .unexpectedEnd
    | _ :: rest => skip count rest

/-- A one-byte number. -/
def u1 : Reader Nat
  | a :: rest => .ok (a.toNat, rest)
  | _ => .error .unexpectedEnd

/-- A two-byte number. -/
def u2 : Reader Nat
  | a :: b :: rest => .ok (a.toNat * 256 + b.toNat, rest)
  | _ => .error .unexpectedEnd

/-- A four-byte number. -/
def u4 : Reader Nat
  | a :: b :: c :: d :: rest =>
    .ok (((a.toNat * 256 + b.toNat) * 256 + c.toNat) * 256 + d.toNat, rest)
  | _ => .error .unexpectedEnd

/-- Reads `count` items onto `found`, newest first; an item may turn out to be none. -/
def collectOnto {α : Type} (item : Reader (Option α)) (found : List α) : Nat → Reader (List α)
  | 0 => fun bytes => .ok (found, bytes)
  | count + 1 => fun bytes =>
    match item bytes with
    | .error error => .error error
    | .ok (none, rest) => collectOnto item found count rest
    | .ok (some value, rest) => collectOnto item (value :: found) count rest

/-- The values among the next `count` items, in their order. -/
def collect {α : Type} (item : Reader (Option α)) (count : Nat) : Reader (List α) := fun bytes =>
  match collectOnto item [] count bytes with
  | .ok (found, rest) => .ok (found.reverse, rest)
  | .error error => .error error

end Reader

end SymbolIndex.ClassFile
