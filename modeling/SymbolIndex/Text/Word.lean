import SymbolIndex.Text.Alphabetic
import SymbolIndex.Text.Numeric

/-!
# Word characters

Two tokens of a type run together when they are written side by side and both ends are word
characters: letters and numbers of any script, the underscore and the dollar.
-/

namespace SymbolIndex.Text

/-- Whether the character can stand inside a word. -/
def isWord (c : Char) : Bool :=
  c.isAlphanum || c == '_' || c == '$' || alphabetic.contains c || numeric.contains c

end SymbolIndex.Text
