/-!
# Blanks

The characters that separate words: the Unicode property White_Space, which is larger than the
ASCII blanks (it holds the no-break space, the ideographic space and the line separators).
-/

namespace SymbolIndex.Text

/-- White_Space, as ranges of code points. -/
def blankRanges : List (Nat × Nat) :=
  [(0x09, 0x0D), (0x20, 0x20), (0x85, 0x85), (0xA0, 0xA0), (0x1680, 0x1680),
   (0x2000, 0x200A), (0x2028, 0x2029), (0x202F, 0x202F), (0x205F, 0x205F), (0x3000, 0x3000)]

/-- Whether the character is white space. -/
def isBlank (c : Char) : Bool :=
  blankRanges.any fun (low, high) => low ≤ c.toNat && c.toNat ≤ high

/-- The text without the blanks at its two ends. -/
def trim (text : String) : String :=
  String.ofList ((text.toList.dropWhile isBlank).reverse.dropWhile isBlank).reverse

/-- The text without any blank. -/
def squeeze (text : String) : String :=
  String.ofList (text.toList.filter fun c => !isBlank c)

/-- The text up to its first line break. -/
def firstLine (text : String) : String :=
  String.ofList (text.toList.takeWhile (· ≠ '\n'))

end SymbolIndex.Text
