/-!
# Reading bytes as text

Bytes are read as UTF-8. Where they are not UTF-8, the longest run of bytes that could still have
begun a character is read as one replacement character, and reading goes on behind it, so every
byte string has a text.
-/

namespace SymbolIndex.Text

/-- What stands for bytes that are no character. -/
def replacement : Char := '\uFFFD'

/-- The ranges of the bytes that must follow the lead byte of a longer character, in order; none
when the byte leads no longer character. -/
def continuations (lead : Nat) : List (Nat × Nat) :=
  if 0xC2 ≤ lead ∧ lead ≤ 0xDF then [(0x80, 0xBF)]
  else if lead = 0xE0 then [(0xA0, 0xBF), (0x80, 0xBF)]
  else if lead = 0xED then [(0x80, 0x9F), (0x80, 0xBF)]
  else if 0xE1 ≤ lead ∧ lead ≤ 0xEF then [(0x80, 0xBF), (0x80, 0xBF)]
  else if lead = 0xF0 then [(0x90, 0xBF), (0x80, 0xBF), (0x80, 0xBF)]
  else if 0xF1 ≤ lead ∧ lead ≤ 0xF3 then [(0x80, 0xBF), (0x80, 0xBF), (0x80, 0xBF)]
  else if lead = 0xF4 then [(0x80, 0x8F), (0x80, 0xBF), (0x80, 0xBF)]
  else []

/-- The payload bits of a lead byte with `count` bytes to follow. -/
def leadBits (lead count : Nat) : Nat :=
  lead % Nat.pow 2 (6 - count)

/-- Reads the owed bytes: the code point when all of them are there, and what is left behind the
last byte that fitted. -/
def readOwed : List (Nat × Nat) → Nat → List UInt8 → Option Nat × List UInt8
  | [], code, bytes => (some code, bytes)
  | _ :: _, _, [] => (none, [])
  | (low, high) :: owed, code, byte :: bytes =>
    if low ≤ byte.toNat ∧ byte.toNat ≤ high then
      readOwed owed (code * 64 + byte.toNat % 64) bytes
    else (none, byte :: bytes)

/-- Reading the owed bytes leaves no more than there were. -/
theorem readOwed_length_le (owed : List (Nat × Nat)) (code : Nat) (bytes : List UInt8) :
    (readOwed owed code bytes).2.length ≤ bytes.length := by
  fun_induction readOwed owed code bytes with
  | case1 => exact Nat.le_refl _
  | case2 => exact Nat.le_refl _
  | case3 _ _ _ _ _ _ _ ih => exact Nat.le_trans ih (Nat.le_succ _)
  | case4 => exact Nat.le_refl _

/-- One character behind the lead byte, and the bytes after it. -/
def readChar (lead : UInt8) (bytes : List UInt8) : Char × List UInt8 :=
  if lead.toNat < 0x80 then (Char.ofNat lead.toNat, bytes)
  else
    match continuations lead.toNat with
    | [] => (replacement, bytes)
    | owed =>
      match readOwed owed (leadBits lead.toNat owed.length) bytes with
      | (some code, rest) => (Char.ofNat code, rest)
      | (none, rest) => (replacement, rest)

/-- Reading a character leaves no more bytes than stood behind its first one. -/
theorem readChar_length_le (lead : UInt8) (bytes : List UInt8) :
    (readChar lead bytes).2.length ≤ bytes.length := by
  unfold readChar
  split
  · exact Nat.le_refl _
  · split
    · exact Nat.le_refl _
    · have := readOwed_length_le (continuations lead.toNat)
        (leadBits lead.toNat (continuations lead.toNat).length) bytes
      split <;> simp_all

/-- The characters that the bytes spell. -/
def readChars : List UInt8 → List Char
  | [] => []
  | lead :: bytes => (readChar lead bytes).1 :: readChars (readChar lead bytes).2
termination_by bytes => bytes.length
decreasing_by
  have := readChar_length_le lead bytes
  simp only [List.length_cons]
  omega

/-- The text of a byte string, with a replacement character wherever it is not UTF-8. -/
def ofBytesLossy (bytes : List UInt8) : String :=
  String.ofList (readChars bytes)

end SymbolIndex.Text
