import SymbolIndex.Json.Basic

/-!
# Reading values out of JSON

A record is read from an object by the names of its fields, or from an array by their order. Names
that a record does not have are passed over.
-/

namespace SymbolIndex.Json

/-- A truth value. -/
def asBool? : Json → Option Bool
  | .bool value => some value
  | _ => none

/-- A text. -/
def asString? : Json → Option String
  | .string value => some value
  | _ => none

/-- A natural number of at most the given number of bits. -/
def asNat? (bits : Nat) : Json → Option Nat
  | .int value =>
    if 0 ≤ value ∧ value.toNat < Nat.pow 2 bits then some value.toNat else none
  | _ => none

/-- A list. -/
def asArray? : Json → Option (List Json)
  | .array items => some items
  | _ => none

/-- A list of texts. -/
def asStrings? (value : Json) : Option (List String) :=
  value.asArray?.bind fun items => items.mapM asString?

/-- A value that may be null. -/
def asOption? {α : Type} (read : Json → Option α) : Json → Option (Option α)
  | .null => some none
  | value => (read value).map some

/-- The fields of a record with the given names, those that are missing as none. An array gives
them in order; it is refused when `fits` refuses its length. -/
def record? (names : List String) (fits : Nat → Bool) : Json → Option (List (Option Json))
  | .object entries => some (names.map fun name => get? name (.object entries))
  | .array items =>
    if fits items.length then
      some ((items.map some ++ List.replicate names.length none).take names.length)
    else none
  | _ => none

end SymbolIndex.Json
