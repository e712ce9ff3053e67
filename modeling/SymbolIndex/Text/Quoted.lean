import SymbolIndex.Text.Extender
import SymbolIndex.Text.Unprintable

/-!
# Quoted texts

A text inside a message stands between double quotes, and what a reader could not see or would
misread is escaped: the double quote itself, the backslash, the usual control letters, marks that
would attach to the character before them, and every character without a visible shape.
-/

namespace SymbolIndex.Text

/-- A code point in hexadecimal, in the form `\u` with the digits in braces. -/
def codePointEscape (c : Char) : List Char :=
  '\\' :: 'u' :: '\x7b' :: (Nat.toDigits 16 c.toNat ++ ['\x7d'])

/-- One character of a quoted text. The single quote needs no escape between double quotes. -/
def escapeChar (c : Char) : List Char :=
  if c = '\x00' then ['\\', '0']
  else if c = '\t' then ['\\', 't']
  else if c = '\r' then ['\\', 'r']
  else if c = '\n' then ['\\', 'n']
  else if c = '\\' || c = '"' then ['\\', c]
  else if extender.contains c || unprintable.contains c then codePointEscape c
  else [c]

/-- The text between double quotes. -/
def quoted (text : String) : String :=
  String.ofList ('"' :: (text.toList.flatMap escapeChar ++ ['"']))

/-- A quoted list of texts, between brackets. -/
def quotedList (texts : List String) : String :=
  "[" ++ String.intercalate ", " (texts.map quoted) ++ "]"

end SymbolIndex.Text
