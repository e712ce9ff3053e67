import SymbolIndex.Json.Basic
import SymbolIndex.Toml.Table

/-!
# Reading TOML

A document is read line by line: headers start tables, keys with values fill them. Lists and
inline tables nest less than `maxDepth` deep, and a key has fewer than `maxDepth` parts. Every
loop takes at least one character per round, so the number of characters bounds the rounds.
-/

namespace SymbolIndex.Toml

/-- The limit for the nesting of values and for the parts of a key. -/
def maxDepth : Nat := 80

/-- The parts of a key, with dots between them, for at most the given number of rounds. -/
def keyParts : Nat → Parser (List String)
  | 0 => failure
  | rounds + 1 => do
    Lex.spaces
    let part ← Lex.keyPart
    Lex.spaces
    match ← get with
    | '.' :: rest =>
      set rest
      let parts ← keyParts rounds
      return part :: parts
    | _ => return [part]

/-- A key. -/
def key : Parser (List String) :=
  keyParts (maxDepth - 1)

/-- The items of an array up to the closing bracket, which may follow a comma. -/
def arrayItems (item : Parser Value) : Nat → Parser (List Value)
  | 0 => failure
  | rounds + 1 => do
    Lex.between
    match ← get with
    | ']' :: rest =>
      set rest
      return []
    | _ =>
      let value ← item
      Lex.between
      match ← get with
      | ',' :: rest =>
        set rest
        let values ← arrayItems item rounds
        return value :: values
      | ']' :: rest =>
        set rest
        return [value]
      | _ => failure

/-- A key, an equals sign and a value. -/
def keyValue (item : Parser Value) : Parser (List String × Value) := do
  let keys ← key
  Lex.char '='
  Lex.spaces
  let value ← item
  return (keys, value)

/-- The pairs of an inline table up to the closing brace, which must not follow a comma. -/
def inlinePairs (item : Parser Value) : Nat → Parser (List (List String × Value))
  | 0 => failure
  | rounds + 1 => do
    let pair ← keyValue item
    Lex.spaces
    match ← get with
    | ',' :: rest =>
      set rest
      let pairs ← inlinePairs item rounds
      return pair :: pairs
    | '\x7d' :: rest =>
      set rest
      return [pair]
    | _ => failure

/-- The inline table with the given pairs. -/
def inlineTable (pairs : List (List String × Value)) : Option Table :=
  pairs.foldlM
    (fun table (keys, value) => do
      let key ← keys.getLast?
      let parents := keys.dropLast
      Table.changeInlineAt (Table.define (!parents.isEmpty) key value) parents table)
    .empty

/-- A value, with a number of nesting levels left. -/
def value : Nat → Parser Value
  | 0 => fun chars => (Lex.scalar chars).map fun (scalar, rest) => (.scalar scalar, rest)
  | depth + 1 => do
    match ← get with
    | '[' :: rest =>
      set rest
      let items ← arrayItems (value depth) (rest.length + 1)
      return .array items
    | '\x7b' :: rest =>
      set rest
      Lex.spaces
      match ← get with
      | '\x7d' :: rest =>
        set rest
        return .inline .empty
      | rest =>
        let pairs ← inlinePairs (value depth) (rest.length + 1)
        let table ← inlineTable pairs
        return .inline table
    | _ =>
      let scalar ← Lex.scalar
      return .scalar scalar

/-- A header behind its opening bracket: of a table, or of an element of an array of tables. -/
def header (document : Document) : Parser Document := do
  match ← get with
  | '[' :: rest =>
    set rest
    let path ← key
    Lex.char ']'
    Lex.char ']'
    Lex.lineEnd
    document.openElement path
  | _ =>
    let path ← key
    Lex.char ']'
    Lex.lineEnd
    document.openTable path

/-- One line, or several when a value spans them. -/
def line (document : Document) : Parser Document := do
  Lex.spaces
  match ← get with
  | '[' :: rest =>
    set rest
    header document
  | '#' :: _ =>
    Lex.lineEnd
    return document
  | '\n' :: _ =>
    Lex.lineEnd
    return document
  | '\r' :: _ =>
    Lex.lineEnd
    return document
  | [] => return document
  | _ =>
    let (keys, value) ← keyValue (value (maxDepth - 1))
    Lex.lineEnd
    document.add keys value

/-- The lines of a document, for at most the given number of rounds. -/
def lines (document : Document) : Nat → List Char → Option Document
  | _, [] => some document
  | 0, _ :: _ => none
  | rounds + 1, chars =>
    match line document chars with
    | some (document, rest) => lines document rounds rest
    | none => none

/-- A byte order mark may stand in front of a document. -/
def dropMark : List Char → List Char
  | '\uFEFF' :: rest => rest
  | chars => chars

/-- The table that a document writes. -/
def parse (text : String) : Option Table := do
  let chars := dropMark text.toList
  let document ← lines {} (chars.length + 1) chars
  document.close

namespace Scalar

/-- A scalar in JSON. A date is an object with a key of its own. -/
def toJson : Scalar → Json
  | .string value => .string value
  | .integer value => .int value
  | .float => .decimal 0 1
  | .boolean value => .bool value
  | .datetime => .object [("$datetime", .null)]

end Scalar

mutual

/-- A value in JSON. -/
def Value.toJson : Value → Json
  | .scalar value => value.toJson
  | .array items => .array (valuesToJson items)
  | .inline table => table.toJson

/-- Values in JSON. -/
def valuesToJson : List Value → List Json
  | [] => []
  | value :: values => value.toJson :: valuesToJson values

/-- An item in JSON: an array of tables is an array. -/
def Item.toJson : Item → Json
  | .value value => value.toJson
  | .table table => table.toJson
  | .tables last earlier => .array ((last.toJson :: tablesToJson earlier).reverse)

/-- Tables in JSON. -/
def tablesToJson : List Table → List Json
  | [] => []
  | table :: tables => table.toJson :: tablesToJson tables

/-- A table in JSON. -/
def Table.toJson : Table → Json
  | .mk _ _ entries => .object (entriesToJson entries)

/-- Entries in JSON. -/
def entriesToJson : List (String × Item) → List (String × Json)
  | [] => []
  | (key, item) :: entries => (key, item.toJson) :: entriesToJson entries

end

end SymbolIndex.Toml
