/-!
# Pieces of a text

Names are written with separators: dots between the identifiers of a source name, slashes and
dollars in a binary path. This module cuts a text at a separator, at every place, at the first
or at the last one, and swaps one separator for another. Every function is a fold over the
characters, so no cut can fall inside one.
-/

namespace SymbolIndex.Text

/-- The texts between the occurrences of `sep`: one more than there are separators. -/
def pieces (sep : Char) (text : String) : List String :=
  (text.toList.splitOn sep).map String.ofList

/-- Texts without the separator are the pieces of what is written with it between them. -/
theorem pieces_intercalate {sep : Char} {texts : List String} (clean : ∀ text ∈ texts, sep ∉ text.toList)
    (nonempty : texts ≠ []) : pieces sep (String.intercalate (String.singleton sep) texts) = texts := by
  have cut : ([sep].intercalate (texts.map String.toList)).splitOn sep = texts.map String.toList := by
    apply List.splitOn_intercalate
    · intro letters member
      obtain ⟨text, listed, rfl⟩ := List.mem_map.mp member
      exact clean text listed
    · simpa using nonempty
  rw [pieces, String.toList_intercalate, String.toList_singleton, cut, List.map_map]
  simp

/-- The text after the last separator, or the whole text when there is none. -/
def lastPiece (isSep : Char → Bool) (text : String) : String :=
  String.ofList (text.toList.reverse.takeWhile fun c => !isSep c).reverse

/-- The last piece of a text is at its end. -/
theorem lastPiece_suffix (isSep : Char → Bool) (text : String) :
    (lastPiece isSep text).toList <:+ text.toList := by
  rw [lastPiece, String.toList_ofList, ← List.reverse_prefix, List.reverse_reverse]
  exact List.takeWhile_prefix _

/-- The texts around the first `sep`. -/
def cutFirst (sep : Char) (text : String) : Option (String × String) :=
  match text.toList.span (· ≠ sep) with
  | (before, _ :: after) => some (String.ofList before, String.ofList after)
  | (_, []) => none

/-- The texts around the last `sep`. -/
def cutLast (sep : Char) (text : String) : Option (String × String) :=
  match text.toList.reverse.span (· ≠ sep) with
  | (after, _ :: before) => some (String.ofList before.reverse, String.ofList after.reverse)
  | (_, []) => none

/-- The text with every `old` written as `new`. -/
def swap (old new : Char) (text : String) : String :=
  String.ofList (text.toList.map fun c => if c = old then new else c)

/-- How often `c` occurs in the text. -/
def occurrences (c : Char) (text : String) : Nat :=
  text.toList.count c

end SymbolIndex.Text
