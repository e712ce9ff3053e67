/-!
# The smallest parts of TOML

Parsers take what they read off the front of the remaining characters and fail when it is not
there. This module reads blanks, comments, the four kinds of strings, and the words that numbers,
dates and times are written in.
-/

namespace SymbolIndex.Toml

/-- Takes a value off the front of the characters. -/
abbrev Parser (α : Type) := StateT (List Char) Option α

/-- A value that is neither a list nor a table. Of a number that is not an integer, and of a date
or a time, only the form is kept. -/
inductive Scalar where
  | string (value : String)
  | integer (value : Int)
  | float
  | boolean (value : Bool)
  | datetime
  deriving DecidableEq, Repr

namespace Lex

/-- A blank inside a line. -/
def isSpace (c : Char) : Bool :=
  c == ' ' || c == '\t'

/-- A character that text may hold as it stands: anything but controls, the tab apart. -/
def isPlain (c : Char) : Bool :=
  c == '\t' || (0x20 ≤ c.toNat && c.toNat ≠ 0x7F)

/-- Passes over blanks. -/
def spaces : Parser Unit := fun chars => some ((), chars.dropWhile isSpace)

/-- The characters as long as they satisfy a test. -/
def takeWhile (test : Char → Bool) : Parser (List Char) := fun chars =>
  some (chars.takeWhile test, chars.dropWhile test)

/-- A given character. -/
def char (expected : Char) : Parser Unit
  | c :: rest => if c = expected then some ((), rest) else none
  | [] => none

/-- A line break. -/
def lineBreak : Parser Unit
  | '\n' :: rest => some ((), rest)
  | '\r' :: '\n' :: rest => some ((), rest)
  | _ => none

/-- The end of a line: blanks, perhaps a comment, and a line break or the end of the text. -/
def lineEnd : Parser Unit := fun chars =>
  let rest := chars.dropWhile isSpace
  let rest :=
    match rest with
    | '#' :: comment => comment.dropWhile isPlain
    | rest => rest
  match rest with
  | [] => some ((), [])
  | rest => lineBreak rest

/-- Passes over blanks, line breaks and whole comments. -/
def layout (inComment : Bool) : List Char → Option (List Char)
  | [] => if inComment then none else some []
  | '\n' :: rest => layout false rest
  | '\r' :: '\n' :: rest => layout false rest
  | c :: rest =>
    if inComment then if isPlain c then layout true rest else none
    else if c = '#' then layout true rest
    else if isSpace c then layout false rest
    else if c = '\r' then none
    else some (c :: rest)

/-- Passes over what may stand between the items of an array. -/
def between : Parser Unit := fun chars =>
  (layout false chars).map ((), ·)

/-- The value of a hexadecimal digit. -/
def hexValue? (c : Char) : Option Nat :=
  if '0' ≤ c ∧ c ≤ '9' then some (c.toNat - '0'.toNat)
  else if 'a' ≤ c ∧ c ≤ 'f' then some (c.toNat - 'a'.toNat + 10)
  else if 'A' ≤ c ∧ c ≤ 'F' then some (c.toNat - 'A'.toNat + 10)
  else none

/-- The character with the code point that hexadecimal digits write. -/
def codePoint? (digits : List Char) : Option Char := do
  let values ← digits.mapM hexValue?
  let code := values.foldl (fun code value => code * 16 + value) 0
  if code.isValidChar then some (Char.ofNat code) else none

/-- The character that a letter behind a backslash stands for. -/
def escaped? : Char → Option Char
  | 'b' => some '\x08'
  | 't' => some '\t'
  | 'n' => some '\n'
  | 'f' => some '\x0c'
  | 'r' => some '\r'
  | '"' => some '"'
  | '\\' => some '\\'
  | _ => none

/-- The text of a string between double quotes, behind the opening one; `read` is what was read so
far, newest first. -/
def basicBody (read : List Char) : List Char → Option (List Char × List Char)
  | '"' :: rest => some (read.reverse, rest)
  | '\\' :: 'u' :: a :: b :: c :: d :: rest =>
    match codePoint? [a, b, c, d] with
    | some char => basicBody (char :: read) rest
    | none => none
  | '\\' :: 'U' :: a :: b :: c :: d :: e :: f :: g :: h :: rest =>
    match codePoint? [a, b, c, d, e, f, g, h] with
    | some char => basicBody (char :: read) rest
    | none => none
  | '\\' :: letter :: rest =>
    match escaped? letter with
    | some char => basicBody (char :: read) rest
    | none => none
  | c :: rest => if c ≠ '\\' ∧ isPlain c then basicBody (c :: read) rest else none
  | [] => none

/-- Whether only blanks stand before the next line break. -/
def endsLine (chars : List Char) : Bool :=
  (lineBreak (chars.dropWhile isSpace)).isSome

/-- The text of a string between triple double quotes, behind the opening ones. A backslash at the
end of a line drops everything up to the next visible character; `dropping` tells that this is
going on. One or two quotes may stand in front of the closing ones. -/
def longBasicBody (dropping : Bool) (read : List Char) :
    List Char → Option (List Char × List Char)
  | '"' :: '"' :: '"' :: '"' :: '"' :: rest => some (('"' :: '"' :: read).reverse, rest)
  | '"' :: '"' :: '"' :: '"' :: rest => some (('"' :: read).reverse, rest)
  | '"' :: '"' :: '"' :: rest => some (read.reverse, rest)
  | '\r' :: '\n' :: rest =>
    if dropping then longBasicBody true read rest else longBasicBody false ('\n' :: read) rest
  | '\n' :: rest =>
    if dropping then longBasicBody true read rest else longBasicBody false ('\n' :: read) rest
  | '\\' :: 'u' :: a :: b :: c :: d :: rest =>
    match codePoint? [a, b, c, d] with
    | some char => longBasicBody false (char :: read) rest
    | none => none
  | '\\' :: 'U' :: a :: b :: c :: d :: e :: f :: g :: h :: rest =>
    match codePoint? [a, b, c, d, e, f, g, h] with
    | some char => longBasicBody false (char :: read) rest
    | none => none
  | '\\' :: letter :: rest =>
    if endsLine (letter :: rest) then
      match letter, rest with
      | '\r', _ :: rest => longBasicBody true read rest
      | _, rest => longBasicBody true read rest
    else
      match escaped? letter with
      | some char => longBasicBody false (char :: read) rest
      | none => none
  | c :: rest =>
    if dropping ∧ isSpace c then longBasicBody true read rest
    else if c ≠ '\\' ∧ isPlain c then longBasicBody false (c :: read) rest
    else none
  | [] => none

/-- The quote of a literal string. -/
def tick : Char := '\x27'

/-- The text of a literal string, behind the opening quote. -/
def literalBody (read : List Char) : List Char → Option (List Char × List Char)
  | c :: rest =>
    if c = tick then some (read.reverse, rest)
    else if isPlain c then literalBody (c :: read) rest
    else none
  | [] => none

/-- The text of a literal string between triple quotes, behind the opening ones. -/
def longLiteralBody (read : List Char) : List Char → Option (List Char × List Char)
  | '\x27' :: '\x27' :: '\x27' :: '\x27' :: '\x27' :: rest =>
    some ((tick :: tick :: read).reverse, rest)
  | '\x27' :: '\x27' :: '\x27' :: '\x27' :: rest => some ((tick :: read).reverse, rest)
  | '\x27' :: '\x27' :: '\x27' :: rest => some (read.reverse, rest)
  | '\r' :: '\n' :: rest => longLiteralBody ('\n' :: read) rest
  | c :: rest => if c = '\n' ∨ isPlain c then longLiteralBody (c :: read) rest else none
  | [] => none

/-- A line break directly behind the opening quotes of a long string is no part of it. -/
def dropFirstBreak (chars : List Char) : List Char :=
  match lineBreak chars with
  | some (_, rest) => rest
  | none => chars

/-- A string on one line, as a key may be written. -/
def shortString : Parser String
  | '"' :: rest => (basicBody [] rest).map fun (text, rest) => (String.ofList text, rest)
  | '\x27' :: rest => (literalBody [] rest).map fun (text, rest) => (String.ofList text, rest)
  | _ => none

/-- A string of any kind. -/
def string : Parser String
  | '"' :: '"' :: '"' :: rest =>
    (longBasicBody false [] (dropFirstBreak rest)).map fun (text, rest) =>
      (String.ofList text, rest)
  | '\x27' :: '\x27' :: '\x27' :: rest =>
    (longLiteralBody [] (dropFirstBreak rest)).map fun (text, rest) => (String.ofList text, rest)
  | chars => shortString chars

/-! ## Numbers, dates and times -/

/-- The digits of a number without the underscores, each of which stands between two digits. -/
def digits? (isDigit : Char → Bool) : List Char → Option (List Char)
  | [] => none
  | [c] => if isDigit c then some [c] else none
  | c :: '_' :: rest => if isDigit c then (digits? isDigit rest).map (c :: ·) else none
  | c :: rest => if isDigit c then (digits? isDigit rest).map (c :: ·) else none

/-- A number of digits in the given base. -/
def number (base : Nat) (digits : List Char) : Nat :=
  digits.foldl (fun value c => value * base + (hexValue? c).getD 0) 0

/-- An integer of 64 bits. -/
def bounded? (value : Int) : Option Int :=
  let limit : Int := Nat.pow 2 63
  if -limit ≤ value ∧ value < limit then some value else none

/-- The digits of a decimal integer, which has no zeros in front. -/
def decimalDigits? (word : List Char) : Option (List Char) :=
  match digits? Char.isDigit word with
  | some ['0'] => some ['0']
  | some ('0' :: _) => none
  | found => found

/-- The sign of a word, and the rest of it. -/
def signed : List Char → Int × List Char
  | '+' :: rest => (1, rest)
  | '-' :: rest => (-1, rest)
  | word => (1, word)

/-- An integer: decimal with a sign, or hexadecimal, octal or binary without one. -/
def integer? (word : List Char) : Option Int :=
  match word with
  | '0' :: 'x' :: rest => do
    bounded? (number 16 (← digits? (fun c => (hexValue? c).isSome) rest))
  | '0' :: 'o' :: rest => do bounded? (number 8 (← digits? (fun c => '0' ≤ c ∧ c ≤ '7') rest))
  | '0' :: 'b' :: rest => do bounded? (number 2 (← digits? (fun c => c == '0' || c == '1') rest))
  | word =>
    let (sign, rest) := signed word
    (decimalDigits? rest).bind fun digits => bounded? (sign * number 10 digits)

/-- Cuts a word in front of the first character that satisfies a test. -/
def cutAt (test : Char → Bool) (word : List Char) : List Char × List Char :=
  (word.takeWhile fun c => !test c, word.dropWhile fun c => !test c)

/-- The exponent of a float, with its letter; a float may do without. -/
def exponent? : List Char → Option Int
  | [] => some 0
  | _ :: rest =>
    let (sign, digits) := signed rest
    (digits? Char.isDigit digits).map fun digits => sign * number 10 digits

/-- The digits behind the point of a float, with the point; a float may do without. -/
def fraction? : List Char → Option (List Char)
  | [] => some []
  | _ :: rest => digits? Char.isDigit rest

/-- Whether `digits` times ten to the power `exponent` is below the numbers that a float of 64 bits
rounds to infinity. -/
def isFinite (digits : List Char) (exponent : Int) : Bool :=
  let value := number 10 digits
  let limit := Nat.pow 2 1024 - Nat.pow 2 970
  if value = 0 then true
  else if exponent ≤ 0 then
    let places := min exponent.natAbs (digits.length + 400)
    value < limit * Nat.pow 10 places
  else if 400 < exponent then false
  else value * Nat.pow 10 exponent.toNat < limit

/-- Whether a word writes a float: it has a fraction or an exponent, or is infinity or no number.
One that is too large for a float is refused. -/
def isFloat (word : List Char) : Bool :=
  let (sign, rest) := signed word
  if rest = "inf".toList || rest = "nan".toList then true
  else
    let (mantissa, exponent) := cutAt (fun c => c == 'e' || c == 'E') rest
    let (whole, fraction) := cutAt (· == '.') mantissa
    match decimalDigits? whole, fraction? fraction, exponent? exponent with
    | some digits, some behind, some power =>
      (!fraction.isEmpty || !exponent.isEmpty)
        && (sign < 0 || isFinite (digits ++ behind) (power - behind.length))
    | _, _, _ => false

/-- A number of exactly the given count of digits. -/
def fixed? (count : Nat) (word : List Char) : Option (Nat × List Char) :=
  let digits := word.take count
  if digits.length = count ∧ digits.all Char.isDigit then
    some (number 10 digits, word.drop count)
  else none

/-- The number of days of a month. -/
def daysIn (year month : Nat) : Nat :=
  if month = 2 then
    if year % 4 = 0 ∧ (year % 100 ≠ 0 ∨ year % 400 = 0) then 29 else 28
  else if month ∈ [4, 6, 9, 11] then 30
  else 31

/-- A calendar date, and what is behind it. -/
def date? (word : List Char) : Option (List Char) := do
  let (year, rest) ← fixed? 4 word
  let ('-' :: rest) := rest | none
  let (month, rest) ← fixed? 2 rest
  let ('-' :: rest) := rest | none
  let (day, rest) ← fixed? 2 rest
  if 1 ≤ month ∧ month ≤ 12 ∧ 1 ≤ day ∧ day ≤ daysIn year month then some rest else none

/-- A time of day, and what is behind it. A second may be a leap second. -/
def time? (word : List Char) : Option (List Char) := do
  let (hour, rest) ← fixed? 2 word
  let (':' :: rest) := rest | none
  let (minute, rest) ← fixed? 2 rest
  let (':' :: rest) := rest | none
  let (second, rest) ← fixed? 2 rest
  if 23 < hour ∨ 59 < minute ∨ 60 < second then none
  else
    match rest with
    | '.' :: behind =>
      if behind.head?.any Char.isDigit then some (behind.dropWhile Char.isDigit) else none
    | rest => some rest

/-- Whether a word is empty or an offset from universal time. -/
def isOffset : List Char → Bool
  | [] => true
  | ['Z'] => true
  | ['z'] => true
  | sign :: rest =>
    (sign == '+' || sign == '-') &&
      match fixed? 2 rest with
      | some (hour, ':' :: rest) =>
        match fixed? 2 rest with
        | some (minute, []) => hour ≤ 23 && minute ≤ 59
        | _ => false
      | _ => false

/-- Whether a word writes a date, a time, or both, where both are joined by a letter. -/
def isDatetime (word : List Char) : Bool :=
  match date? word with
  | some [] => true
  | some (delimiter :: rest) =>
    (delimiter == 'T' || delimiter == 't' || delimiter == ' ') && (time? rest).any isOffset
  | none => time? word == some []

/-- The characters that numbers, dates, times and truth values are written with. -/
def isWordChar (c : Char) : Bool :=
  c.isAlphanum || c == '+' || c == '-' || c == '_' || c == '.' || c == ':'

/-- Reads a word as a value. -/
def scalarOf? (word : List Char) : Option Scalar :=
  if word = "true".toList then some (.boolean true)
  else if word = "false".toList then some (.boolean false)
  else if isDatetime word then some .datetime
  else if isFloat word then some .float
  else (integer? word).map .integer

/-- A word. A date goes on behind one blank when a time stands there. -/
def word : Parser (List Char) := fun chars =>
  let first := chars.takeWhile isWordChar
  match date? first, chars.dropWhile isWordChar with
  | some [], ' ' :: rest =>
    if rest.head?.any Char.isDigit then
      some (first ++ ' ' :: rest.takeWhile isWordChar, rest.dropWhile isWordChar)
    else some (first, ' ' :: rest)
  | _, rest => some (first, rest)

/-- A value that is neither a list nor a table. -/
def scalar : Parser Scalar := fun chars =>
  match chars with
  | [] => none
  | c :: _ =>
    if c = '"' ∨ c = tick then (string chars).map fun (text, rest) => (.string text, rest)
    else do
      let (word, rest) ← word chars
      let value ← scalarOf? word
      return (value, rest)

/-- A part of a key: a string on one line, or letters, digits, underscores and hyphens. -/
def keyPart : Parser String := fun chars =>
  match shortString chars with
  | some found => some found
  | none =>
    let bare := chars.takeWhile fun c => c.isAlphanum || c == '_' || c == '-'
    if bare.isEmpty then none else some (String.ofList bare, chars.drop bare.length)

end Lex

end SymbolIndex.Toml
