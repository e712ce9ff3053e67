/-!
# Java types

The types that members and expressions have: the primitives with `void` beside them, classes by
their internal path (`java/lang/String`, `pkg/Outer$Inner`), and arrays.
-/

namespace SymbolIndex

/-- The primitive types, and `void` for a method that returns nothing. -/
inductive Primitive where
  | boolean | byte | char | short | int | long | float | double | void
  deriving DecidableEq, Repr

namespace Primitive

/-- Every primitive. -/
def all : List Primitive :=
  [.boolean, .byte, .char, .short, .int, .long, .float, .double, .void]

/-- The keyword of a primitive. -/
def name : Primitive → String
  | .boolean => "boolean"
  | .byte => "byte"
  | .char => "char"
  | .short => "short"
  | .int => "int"
  | .long => "long"
  | .float => "float"
  | .double => "double"
  | .void => "void"

/-- The primitive with the given keyword. -/
def ofName? (text : String) : Option Primitive :=
  all.find? (·.name == text)

end Primitive

/-- A Java type whose classes are known by their internal paths. -/
inductive JavaType where
  | primitive (kind : Primitive)
  | reference (path : String)
  | array (element : JavaType)
  deriving DecidableEq, Repr

namespace JavaType

/-- The path of a class type. -/
def classPath? : JavaType → Option String
  | .reference path => some path
  | _ => none

/-- What an array holds. -/
def element? : JavaType → Option JavaType
  | .array element => some element
  | _ => none

/-- The array of the given number of dimensions over a type. -/
def arrayOf (type : JavaType) : Nat → JavaType
  | 0 => type
  | dimensions + 1 => .array (type.arrayOf dimensions)

/-- The text of a type: `int`, `java/lang/String`, `pkg/Other[][]`. -/
def text : JavaType → String
  | .primitive kind => kind.name
  | .reference path => path
  | .array element => element.text ++ "[]"

end JavaType

end SymbolIndex
