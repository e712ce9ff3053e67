/-!
# Source texts

A source is a text that is addressed by byte offsets of its UTF-8 form. `slice` gives the text
between two offsets, and `position` the row and the column of an offset, both counted from zero;
a column counts bytes. The positions of all offsets are tabulated once, in `positions`.
-/

namespace SymbolIndex.Tree

/-- A row and a column, counted from zero. -/
structure Position where
  row : Nat
  column : Nat
  deriving DecidableEq, Repr

namespace Position

/-- The start of a text. -/
def origin : Position := ⟨0, 0⟩

/-- The position behind one more byte: a line feed starts a row. -/
def advance (position : Position) (byte : UInt8) : Position :=
  if byte = 10 then ⟨position.row + 1, 0⟩ else ⟨position.row, position.column + 1⟩

/-- The position behind a list of bytes. -/
def behind (bytes : List UInt8) : Position :=
  bytes.foldl advance origin

end Position

/-- The positions in front of every byte and behind the last one. -/
def tabulate (bytes : ByteArray) : Array Position :=
  (bytes.foldl
    (fun (table, position) byte =>
      let next := Position.advance position byte
      (table.push next, next))
    (#[Position.origin], Position.origin)).1

/-- A text with its bytes and the positions of their offsets. -/
structure Source where
  text : String
  bytes : ByteArray
  positions : Array Position
  bytes_eq : bytes = text.toUTF8
  positions_eq : positions = tabulate bytes

namespace Source

/-- The source of a text. -/
def ofText (text : String) : Source where
  text
  bytes := text.toUTF8
  positions := tabulate text.toUTF8
  bytes_eq := rfl
  positions_eq := rfl

/-- The text between two offsets; nothing when they do not fall on characters of the source. -/
def slice (source : Source) (start stop : Nat) : String :=
  if stop ≤ source.bytes.size then
    (String.fromUTF8? (source.bytes.extract start stop)).getD ""
  else ""

/-- The position of an offset. Behind the end it is the position of the end. -/
def position (source : Source) (offset : Nat) : Position :=
  match source.positions[offset]? with
  | some position => position
  | none => source.positions.back?.getD Position.origin

end Source

end SymbolIndex.Tree
