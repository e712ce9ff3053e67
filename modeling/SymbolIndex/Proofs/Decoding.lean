import Mathlib.Data.List.Forall2
import Std.Data.TreeMap
import SymbolIndex.Text.Lossy

/-!
# Reading back the bytes of a text

Reading bytes as text gives up nothing where the bytes are a text: what `ofBytesLossy` makes of the UTF-8
bytes of a text is that text (`ofBytesLossy_toUTF8`), and no replacement character comes in.

A character is read off its bytes alone (`readChars_character`). Its lead byte tells how many bytes follow
and in which ranges they lie; these ranges keep out the longer spellings of shorter characters and the
surrogates, so that every code point of a character passes them (`encodes_utf8EncodeChar`).

Nothing is lost of the order of texts either: that of their characters is that of their bytes (`toUTF8_lt`).
-/

namespace SymbolIndex.Text

/-- The byte lies in the range. -/
def InRange (range : Nat × Nat) (byte : UInt8) : Prop :=
  range.1 ≤ byte.toNat ∧ byte.toNat ≤ range.2

/-- The code point with the payload of one more byte behind it. -/
def withPayload (code : Nat) (byte : UInt8) : Nat :=
  code * 64 + byte.toNat % 64

/-- A lead byte and the bytes behind it, as they stand for a code point. -/
structure Encodes (lead : UInt8) (bytes : List UInt8) (code : Nat) : Prop where
  long : 0x80 ≤ lead.toNat
  some : bytes ≠ []
  fit : List.Forall₂ InRange (continuations lead.toNat) bytes
  payload : bytes.foldl withPayload (leadBits lead.toNat bytes.length) = code

/-- Bytes that fit what is owed are all read, each for its payload. -/
theorem readOwed_append {owed : List (Nat × Nat)} {bytes : List UInt8}
    (fit : List.Forall₂ InRange owed bytes) (code : Nat) (rest : List UInt8) :
    readOwed owed code (bytes ++ rest) = (some (bytes.foldl withPayload code), rest) := by
  induction fit generalizing code with
  | nil => rfl
  | cons inRange _ ih =>
    unfold InRange at inRange
    rw [List.cons_append, readOwed.eq_3, if_pos inRange, ih, List.foldl_cons, withPayload]

/-- A lead byte with the bytes that it asks for is read as one character. -/
theorem Encodes.readChar_append {lead : UInt8} {bytes : List UInt8} {code : Nat}
    (encodes : Encodes lead bytes code) (rest : List UInt8) :
    readChar lead (bytes ++ rest) = (Char.ofNat code, rest) := by
  have owes : continuations lead.toNat ≠ [] := by
    intro none
    have fit := encodes.fit
    rw [none] at fit
    exact encodes.some (List.forall₂_nil_left_iff.mp fit)
  rw [readChar, if_neg (Nat.not_lt.mpr encodes.long)]
  split
  · contradiction
  · rw [readOwed_append encodes.fit, encodes.fit.length_eq, encodes.payload]

/-- The bytes of a character beyond ASCII. One case for each number of bytes. -/
theorem encodes_utf8EncodeChar {c : Char} (long : 0x80 ≤ c.val.toNat) :
    ∃ lead bytes, String.utf8EncodeChar c = lead :: bytes ∧ Encodes lead bytes c.val.toNat := by
  have valid : c.val.toNat < 0xD800 ∨ 0xDFFF < c.val.toNat ∧ c.val.toNat < 0x110000 := c.valid
  fun_cases String.utf8EncodeChar c
  · omega
  all_goals
    refine ⟨_, _, rfl, ?long, by simp, ?fit, ?payload⟩
    case long =>
      simp only [UInt8.toNat_ofNat']
      omega
    case fit =>
      simp only [UInt8.toNat_ofNat', continuations]
      split_ifs <;> simp [InRange] <;> omega
    case payload =>
      simp only [List.foldl_cons, List.foldl_nil, List.length_cons, List.length_nil, withPayload,
        leadBits, UInt8.toNat_ofNat', Nat.pow_eq]
      omega

/-- **The bytes of a character are read as that character.** -/
theorem readChars_character (c : Char) (rest : List UInt8) :
    readChars (String.utf8EncodeChar c ++ rest) = c :: readChars rest := by
  have code : Char.ofNat c.val.toNat = c := Char.ofNat_toNat c
  by_cases short : c.val.toNat ≤ 127
  · have encoded : String.utf8EncodeChar c = [UInt8.ofNat c.val.toNat] := by
      rw [String.utf8EncodeChar, if_pos short]
    have same : (UInt8.ofNat c.val.toNat).toNat = c.val.toNat := by
      rw [UInt8.toNat_ofNat']
      omega
    rw [encoded, List.singleton_append, readChars, readChar, same, if_pos (by omega), code]
  · obtain ⟨lead, bytes, encoded, encodes⟩ := encodes_utf8EncodeChar (c := c) (by omega)
    rw [encoded, List.cons_append, readChars, encodes.readChar_append, code]

/-- The bytes of a text are those of its characters. -/
theorem toUTF8_eq_flatMap (text : String) :
    text.toUTF8.data.toList = text.toList.flatMap String.utf8EncodeChar := by
  rw [String.toUTF8, ← String.ofList_toList (s := text), String.toByteArray_ofList, List.utf8Encode]
  simp

/-- **The bytes of a text are read as that text.** -/
theorem ofBytesLossy_toUTF8 (text : String) : ofBytesLossy text.toUTF8.data.toList = text := by
  have read (chars : List Char) : readChars (chars.flatMap String.utf8EncodeChar) = chars := by
    induction chars with
    | nil => rw [List.flatMap_nil, readChars]
    | cons c chars ih => rw [List.flatMap_cons, readChars_character, ih]
  rw [ofBytesLossy, toUTF8_eq_flatMap, read, String.ofList_toList]

/-! ## The order of texts -/

/-- Of two characters the lower one has the lower bytes, whatever stands behind them. One case for each pair of
lengths: a longer character has the higher lead byte. -/
theorem utf8EncodeChar_lt {c d : Char} (less : c < d) (rest rest' : List UInt8) :
    String.utf8EncodeChar c ++ rest < String.utf8EncodeChar d ++ rest' := by
  have codes : c.val.toNat < d.val.toNat := less
  have valid : d.val.toNat < 0xD800 ∨ 0xDFFF < d.val.toNat ∧ d.val.toNat < 0x110000 := d.valid
  fun_cases String.utf8EncodeChar c <;> fun_cases String.utf8EncodeChar d <;>
    simp (disch := omega) only [List.cons_append, List.nil_append, List.cons_lt_cons_iff,
      ← UInt8.toNat_inj, UInt8.lt_iff_toNat_lt, UInt8.toNat_ofNat', Nat.mod_eq_of_lt] <;> omega

/-- Of two lists of characters the lower one has the lower bytes. -/
theorem flatMap_utf8EncodeChar_lt {first second : List Char} (less : first < second) :
    first.flatMap String.utf8EncodeChar < second.flatMap String.utf8EncodeChar := by
  induction less with
  | @nil c chars =>
    rw [List.flatMap_cons]
    fun_cases String.utf8EncodeChar c <;> exact List.nil_lt_cons _ _
  | @cons c chars chars' _ ih =>
    rw [List.flatMap_cons, List.flatMap_cons]
    exact List.append_left_lt ih
  | rel less => exact utf8EncodeChar_lt less _ _

/-- **The order of texts is that of their bytes.** -/
theorem toUTF8_lt {first second : String} (less : first < second) :
    first.toUTF8.data.toList < second.toUTF8.data.toList := by
  rw [toUTF8_eq_flatMap, toUTF8_eq_flatMap]
  exact flatMap_utf8EncodeChar_lt less

/-- A map that is kept by texts lists them in the order of their bytes. -/
theorem keys_ascend {α : Type} (map : Std.TreeMap String α) :
    map.keys.Pairwise fun first second =>
      first.toUTF8.data.toList < second.toUTF8.data.toList := by
  refine Std.TreeMap.ordered_keys.imp fun {first second} ordered => ?_
  exact toUTF8_lt (compareOfLessAndEq_eq_lt.mp ordered)

end SymbolIndex.Text
