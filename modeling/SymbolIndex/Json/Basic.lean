/-!
# JSON values

The values that settings and records are read from and reports are written in. An object keeps
its entries in the order they were given. Two printers are provided: `compact` on one line, and
`pretty` with two blanks per level.
-/

namespace SymbolIndex

/-- A JSON value. A number is an integer, or digits of which the last `places` stand behind the
decimal point. -/
inductive Json where
  | null
  | bool (value : Bool)
  | int (value : Int)
  | decimal (digits : Int) (places : Nat)
  | string (value : String)
  | array (items : List Json)
  | object (entries : List (String × Json))
  deriving Inhabited

namespace Json

/-- A natural number. -/
def nat (value : Nat) : Json := .int value

/-- A text, or null when there is none. -/
def text? : Option String → Json
  | none => .null
  | some value => .string value

/-- A list of texts. -/
def texts (values : List String) : Json :=
  .array (values.map .string)

/-- The entry of an object under `key`; an array or a plain value has none. -/
def get? (key : String) : Json → Option Json
  | .object entries => (entries.find? (·.1 == key)).map (·.2)
  | _ => none

/-- The object with the entries of `more` behind its own; any other value is kept. -/
def extend (more : List (String × Json)) : Json → Json
  | .object entries => .object (entries ++ more)
  | value => value

/-- The text of a number with `places` digits behind the point. -/
def decimalText (digits : Int) (places : Nat) : String :=
  let scale := Nat.pow 10 places
  let behind := Nat.toDigits 10 (digits.natAbs % scale)
  (if digits < 0 then "-" else "") ++ toString (digits.natAbs / scale) ++ "."
    ++ String.ofList (List.replicate (places - behind.length) '0' ++ behind)

/-- A hexadecimal digit below sixteen. -/
def hexDigit (value : Nat) : Char :=
  (Nat.toDigits 16 value).headD '0'

/-- One character inside a JSON string. -/
def escapeChar (c : Char) : List Char :=
  if c = '"' then ['\\', '"']
  else if c = '\\' then ['\\', '\\']
  else if c = '\n' then ['\\', 'n']
  else if c = '\r' then ['\\', 'r']
  else if c = '\t' then ['\\', 't']
  else if c = '\x08' then ['\\', 'b']
  else if c = '\x0c' then ['\\', 'f']
  else if c.toNat < 0x20 then
    ['\\', 'u', '0', '0', hexDigit (c.toNat / 16), hexDigit (c.toNat % 16)]
  else [c]

/-- A JSON string literal. -/
def quote (value : String) : String :=
  String.ofList ('"' :: (value.toList.flatMap escapeChar ++ ['"']))

mutual

/-- The value on one line, without blanks. -/
def compact : Json → String
  | .null => "null"
  | .bool value => if value then "true" else "false"
  | .int value => toString value
  | .decimal digits places => decimalText digits places
  | .string value => quote value
  | .array items => "[" ++ String.intercalate "," (compactItems items) ++ "]"
  | .object entries => "\x7b" ++ String.intercalate "," (compactEntries entries) ++ "\x7d"

/-- The items of an array, each on one line. -/
def compactItems : List Json → List String
  | [] => []
  | item :: items => compact item :: compactItems items

/-- The entries of an object, each on one line. -/
def compactEntries : List (String × Json) → List String
  | [] => []
  | (key, value) :: entries => (quote key ++ ":" ++ compact value) :: compactEntries entries

end

/-- A line break and the blanks of a nesting level. -/
def newline (level : Nat) : String :=
  String.ofList ('\n' :: List.replicate (2 * level) ' ')

mutual

/-- The value with every item and every entry on a line of its own; `level` is the level of the
line the value starts on. -/
def prettyAt (level : Nat) : Json → String
  | .array [] => "[]"
  | .array items =>
    "[" ++ String.intercalate "," (prettyItems (level + 1) items) ++ newline level ++ "]"
  | .object [] => "\x7b\x7d"
  | .object entries =>
    "\x7b" ++ String.intercalate "," (prettyEntries (level + 1) entries) ++ newline level ++ "\x7d"
  | .null => "null"
  | .bool value => if value then "true" else "false"
  | .int value => toString value
  | .decimal digits places => decimalText digits places
  | .string value => quote value

/-- The items of an array, each behind its line break. -/
def prettyItems (level : Nat) : List Json → List String
  | [] => []
  | item :: items => (newline level ++ prettyAt level item) :: prettyItems level items

/-- The entries of an object, each behind its line break. -/
def prettyEntries (level : Nat) : List (String × Json) → List String
  | [] => []
  | (key, value) :: entries =>
    (newline level ++ quote key ++ ": " ++ prettyAt level value) :: prettyEntries level entries

end

/-- The value over several lines, two blanks per level. -/
def pretty (value : Json) : String :=
  prettyAt 0 value

end Json

end SymbolIndex
