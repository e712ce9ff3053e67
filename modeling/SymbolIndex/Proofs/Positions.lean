import Mathlib.Data.List.Induction
import SymbolIndex.Proofs.Decoding
import SymbolIndex.Text.Pieces
import SymbolIndex.Tree.Source

/-!
# Rows and columns of a text

A source is addressed by bytes, but it is a text: rows end at line feeds, and a name is a part of the text.
Where offsets fall on characters, the bytes of a source say the same as its text. `Source.Fits` is what is
asked of two offsets, and `Fits.split` cuts the text at them. A slice is then the part between the cuts
(`Split.slice`), and the position of a cut is read off the text before it (`position_append`): its row is
the number of line feeds, its column the number of bytes behind the last one.

The reason is that the bytes of a character other than the line feed hold no line feed
(`lineFeed_not_mem`), so that positions may be counted character by character (`advance_character`).
-/

namespace SymbolIndex

open SymbolIndex.Tree (Position Source)

/-! ## Line feeds -/

namespace Text

/-- How many bytes stand behind the last line feed. -/
def lastColumn (text : String) : Nat :=
  (lastPiece (· == '\n') text).utf8ByteSize

/-- One more character moves the last column on by its bytes, or back to the start. -/
theorem lastColumn_concat (chars : List Char) (c : Char) :
    lastColumn (String.ofList (chars ++ [c])) =
      if c = '\n' then 0 else lastColumn (String.ofList chars) + c.utf8Size := by
  unfold lastColumn lastPiece
  by_cases feed : c = '\n' <;> simp [feed, String.ofList_append]

theorem occurrences_concat (chars : List Char) (c : Char) :
    occurrences '\n' (String.ofList (chars ++ [c])) =
      occurrences '\n' (String.ofList chars) + if c = '\n' then 1 else 0 := by
  simp [occurrences, List.count_append, List.count_singleton]

end Text

/-- A line feed is no part of any other character. -/
theorem lineFeed_not_mem {c : Char} (other : c ≠ '\n') : 10 ∉ String.utf8EncodeChar c := by
  have code : c.val.toNat ≠ 10 := by
    intro same
    exact other (Char.ext (UInt32.toNat_inj.mp same))
  -- the bytes of longer characters are 128 at least
  fun_cases String.utf8EncodeChar c <;>
    simp only [List.mem_cons, List.not_mem_nil, or_false, not_or, ← UInt8.toNat_inj,
      UInt8.toNat_ofNat, UInt8.toNat_ofNat'] <;> omega

namespace Tree

/-! ## The table of positions -/

/-- Folding over an array of bytes is folding over the list of them. -/
theorem foldl_bytes {α : Type} (step : α → UInt8 → α) (start : α) (bytes : ByteArray) :
    bytes.foldl step start = bytes.data.toList.foldl step start := by
  have loop (count index : Nat) (value : α) (rest : count + index = bytes.size) :
      ByteArray.foldlM.loop (m := Id) step bytes bytes.size (Nat.le_refl _) count index value =
        (bytes.data.toList.drop index).foldl step value := by
    induction count generalizing index value with
    | zero =>
      have atEnd : bytes.data.toList.length ≤ index := by simp; omega
      rw [List.drop_of_length_le atEnd, ByteArray.foldlM.loop]
      split <;> rfl
    | succ count ih =>
      have inside : index < bytes.size := by omega
      rw [ByteArray.foldlM.loop, dif_pos inside, List.drop_eq_getElem_cons (by simpa using inside),
        List.foldl_cons]
      exact ih (index + 1) _ (by omega)
  rw [ByteArray.foldl, ByteArray.foldlM, dif_pos (Nat.le_refl _)]
  exact loop (bytes.size - 0) 0 start (by omega)

theorem foldl_tabulate (bytes : List UInt8) (table : Array Position) (position : Position) :
    (bytes.foldl (fun (table, position) byte =>
        let next := Position.advance position byte
        (table.push next, next)) (table, position)).1.toList =
      table.toList ++ (bytes.scanl Position.advance position).tail := by
  induction bytes generalizing table position with
  | nil => simp
  | cons byte bytes ih =>
    rw [List.foldl_cons, ih, List.scanl_cons, List.tail_cons, Array.toList_push]
    cases bytes <;> simp

/-- The table lists the positions behind the first bytes. -/
theorem getElem?_tabulate (bytes : ByteArray) {offset : Nat} (inside : offset ≤ bytes.size) :
    (tabulate bytes)[offset]? = some (Position.behind (bytes.data.toList.take offset)) := by
  have listed : (tabulate bytes).toList = bytes.data.toList.scanl Position.advance .origin := by
    unfold tabulate
    rw [foldl_bytes, foldl_tabulate]
    cases bytes.data.toList <;> simp
  rw [← Array.getElem?_toList, listed, List.getElem?_scanl, if_pos (by simpa using inside)]
  rfl

namespace Position

/-- Bytes without a line feed stay in their row. -/
theorem foldl_advance {bytes : List UInt8} (unbroken : 10 ∉ bytes) (position : Position) :
    bytes.foldl advance position = ⟨position.row, position.column + bytes.length⟩ := by
  induction bytes generalizing position with
  | nil => rfl
  | cons byte bytes ih =>
    obtain ⟨other, unbroken⟩ := not_or.mp (mt List.mem_cons.mpr unbroken)
    rw [List.foldl_cons, ih unbroken, advance, if_neg (Ne.symm other), List.length_cons]
    simp only [mk.injEq, true_and]
    omega

/-- One more character: a line feed starts a row, any other is as wide as its bytes. -/
theorem advance_character (position : Position) (c : Char) :
    (String.utf8EncodeChar c).foldl advance position =
      if c = '\n' then ⟨position.row + 1, 0⟩ else ⟨position.row, position.column + c.utf8Size⟩ := by
  by_cases feed : c = '\n'
  · rw [feed, if_pos rfl]
    rfl
  · rw [if_neg feed, foldl_advance (lineFeed_not_mem feed), String.length_utf8EncodeChar]

/-- **The position behind a text.** By induction on its characters, the last one apart. -/
theorem behind_text (text : String) :
    behind text.toUTF8.data.toList = ⟨Text.occurrences '\n' text, Text.lastColumn text⟩ := by
  rw [Text.toUTF8_eq_flatMap, behind]
  rw [← String.ofList_toList (s := text)]
  generalize text.toList = chars
  rw [String.toList_ofList]
  induction chars using List.reverseRecOn with
  | nil => rfl
  | append_singleton chars c ih =>
    rw [List.flatMap_append, List.foldl_append, ih, List.flatMap_singleton, advance_character,
      Text.lastColumn_concat, Text.occurrences_concat]
    by_cases feed : c = '\n' <;> simp [feed]

end Position

/-! ## Sources cut into parts -/

namespace Source

/-- Two offsets of a source, in order, that fall on characters. -/
def Fits (source : Source) (start stop : Nat) : Prop :=
  start ≤ stop ∧ String.Pos.Raw.IsValid source.text ⟨start⟩ ∧
    String.Pos.Raw.IsValid source.text ⟨stop⟩

instance (source : Source) (start stop : Nat) : Decidable (source.Fits start stop) :=
  inferInstanceAs (Decidable (_ ∧ _ ∧ _))

/-- A source whose text consists of three parts. -/
structure Split (source : Source) (before inside behind : String) (start stop : Nat) : Prop where
  text : source.text = before ++ inside ++ behind
  start : start = before.utf8ByteSize
  stop : stop = (before ++ inside).utf8ByteSize

variable {source : Source} {before inside behind : String} {start stop : Nat}

/-- A source can be cut where offsets fit. -/
theorem Fits.split (fits : source.Fits start stop) :
    ∃ before inside behind, source.Split before inside behind start stop := by
  obtain ⟨ordered, atStart, atStop⟩ := fits
  obtain ⟨upTo, behind, text, isStop⟩ := String.Pos.Raw.isValid_iff_exists_append.mp atStop
  have inFront : String.Pos.Raw.IsValid upTo ⟨start⟩ := by
    rw [text, String.Pos.Raw.isValid_append] at atStart
    rcases atStart with valid | ⟨reached, _⟩
    · exact valid
    · have same : (⟨start⟩ : String.Pos.Raw) = upTo.rawEndPos := by
        rw [← isStop] at reached ⊢
        rw [Nat.le_antisymm ordered reached]
      rw [same]
      exact String.Pos.Raw.isValid_rawEndPos
  obtain ⟨before, inside, same, isStart⟩ := String.Pos.Raw.isValid_iff_exists_append.mp inFront
  subst same
  exact ⟨before, inside, behind, text, congrArg String.Pos.Raw.byteIdx isStart,
    congrArg String.Pos.Raw.byteIdx isStop⟩

/-- The position behind a first part of the text is read off that part. -/
theorem position_append {rest : String} (text : source.text = before ++ rest) :
    source.position before.utf8ByteSize = ⟨Text.occurrences '\n' before, Text.lastColumn before⟩ := by
  have bytes : source.bytes.data.toList = before.toUTF8.data.toList ++ rest.toUTF8.data.toList := by
    simp [source.bytes_eq, text, String.toUTF8, String.toByteArray_append]
  have size : before.utf8ByteSize = before.toUTF8.data.toList.length := String.size_toByteArray.symm
  have inside : before.utf8ByteSize ≤ source.bytes.size := by
    rw [source.bytes_eq, text, String.toUTF8, String.size_toByteArray, String.utf8ByteSize_append]
    exact Nat.le_add_right _ _
  rw [position, source.positions_eq, getElem?_tabulate _ inside, bytes, size, List.take_left]
  exact Position.behind_text before

namespace Split

/-- A slice is the part between its offsets. -/
theorem slice (split : source.Split before inside behind start stop) :
    source.slice start stop = inside := by
  have bytes : source.bytes = before.toUTF8 ++ (inside.toUTF8 ++ behind.toUTF8) := by
    rw [source.bytes_eq, split.text, String.append_assoc]
    simp only [String.toUTF8, String.toByteArray_append]
  have part : source.bytes.extract start stop = inside.toUTF8 := by
    have between := ByteArray.extract_append_size_add (a := before.toUTF8)
      (b := inside.toUTF8 ++ behind.toUTF8) (i := 0) (j := inside.toUTF8.size)
    rw [ByteArray.extract_append_eq_left rfl] at between
    rw [bytes, split.start, split.stop, String.utf8ByteSize_append]
    exact between
  have within : stop ≤ source.bytes.size := by
    rw [split.stop, source.bytes_eq, split.text, String.toUTF8, String.size_toByteArray]
    simp [String.utf8ByteSize_append]
  rw [Source.slice, if_pos within, part, String.fromUTF8?, String.toUTF8_eq_toByteArray,
    dif_pos inside.isValidUTF8]
  rfl

/-- The position of the first offset. -/
theorem position_start (split : source.Split before inside behind start stop) :
    source.position start = ⟨Text.occurrences '\n' before, Text.lastColumn before⟩ := by
  rw [split.start]
  exact position_append (split.text.trans String.append_assoc)

/-- The position of the second offset. -/
theorem position_stop (split : source.Split before inside behind start stop) :
    source.position stop =
      ⟨Text.occurrences '\n' (before ++ inside), Text.lastColumn (before ++ inside)⟩ := by
  rw [split.stop]
  exact position_append split.text

end Split

end Source

end Tree

end SymbolIndex
