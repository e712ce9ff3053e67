import SymbolIndex.Proofs.Positions
import SymbolIndex.Proofs.Run.Walker
import SymbolIndex.SourceIndex

/-!
# Occurrences and their places

Whatever is filed is filed at a token of the tree: under the text of the token, with that text as its name
and with the span of the token (`Run.files`, by induction on the run). So an occurrence can be found again
at its place. `walk_findable` says what this means for a table: an occurrence under a name has that name,
the source reads so at its span, lines and columns are those of the text before it, and it is listed for
just the carets that stand on it.

Nothing is assumed of the tree but that its nodes cover parts of the source. A caret between the bytes of a
character counts as standing on it.
-/

namespace SymbolIndex

open SymbolIndex.Tree (Node Source Cursor)

/-! ## What is filed at tokens -/

namespace Walk

variable {env : Env} {root : Node}

/-- An occurrence stands at a token of a tree: it has its text as a name, and its span. -/
structure StandsAt (env : Env) (root : Node) (occurrence : Occurrence) (token : Node)
    (above : List Node) : Prop where
  place : Place root (token :: above)
  named : occurrence.key = env.text token
  placed : occurrence.span = Span.ofNode env.source token

/-- What is filed at a token, under the text of it. -/
def FiledAtToken (env : Env) (root : Node) (filing : Filing) : Prop :=
  ∃ token above, StandsAt env root filing.occurrence token above ∧ filing.key = env.text token

/-- A run files at tokens, onto what has been filed. -/
def Files (env : Env) (root : Node) (first last : State) : Prop :=
  ∃ added, last.filings = added ++ first.filings ∧ ∀ filing ∈ added, FiledAtToken env root filing

theorem Files.none {first last : State} (same : last.filings = first.filings) :
    Files env root first last :=
  ⟨[], same, fun _ member => absurd member List.not_mem_nil⟩

theorem Files.one {first last : State} {filing : Filing}
    (same : last.filings = filing :: first.filings) (filed : FiledAtToken env root filing) :
    Files env root first last := by
  refine ⟨[filing], same, ?_⟩
  intro other member
  rw [List.mem_singleton.mp member]
  exact filed

theorem Files.trans {first middle last : State} (earlier : Files env root first middle)
    (later : Files env root middle last) : Files env root first last := by
  obtain ⟨before, same, filed⟩ := earlier
  obtain ⟨behind, same', filed'⟩ := later
  refine ⟨behind ++ before, by rw [same', same, List.append_assoc], ?_⟩
  intro filing member
  rcases List.mem_append.mp member with isLater | isEarlier
  · exact filed' filing isLater
  · exact filed filing isEarlier

/-- **A run files at tokens.** By induction on the run: on the way down it stays at places of the tree. -/
theorem Run.files {sited : Prop} {mode : Mode} {place : List Node} {marks : List Mark}
    {first last : State} (run : Run env sited mode place marks first last)
    (isPlace : Place root place) : Files env root first last := by
  induction run with
  | refl => exact .none rfl
  | trans _ _ ih ih' => exact (ih isPlace).trans (ih' isPlace)
  | descend inside _ _ ih => exact ih (isPlace.down inside)
  | declaration occurrence _ named placed _ => exact .one rfl ⟨_, _, ⟨isPlace, named, placed⟩, rfl⟩
  | reference kind declaring _ =>
    unfold State.fileReference
    split
    · exact .none rfl
    · exact .one rfl ⟨_, _, ⟨isPlace, rfl, rfl⟩, rfl⟩
  | limit | spent =>
    unfold State.giveUpAt
    split <;> exact .none rfl
  | inBlock _ ih | inMethod _ _ ih | inType _ _ _ ih => exact ih isPlace
  | _ => exact .none rfl

/-- Everything that a walk has filed is filed at a token. -/
theorem walk_filedAtToken (env : Env) (root : Node) :
    ∀ filing ∈ (walk env root).filings, FiledAtToken env root filing := by
  have run := (walker_runs env False Tree.maxNesting).visit (Cursor.root root) {} False.elim
  obtain ⟨added, same, filed⟩ := run.files .root
  rw [walk, same, List.append_nil]
  exact filed

end Walk

/-! ## Spans -/

namespace Span

/-- A span that covers a part of a text behind another: its offsets, lines and columns. -/
structure Covers (span : Span) (before inside : String) : Prop where
  startByte : span.startByte = before.utf8ByteSize
  endByte : span.endByte = (before ++ inside).utf8ByteSize
  line : span.line = Text.occurrences '\n' before + 1
  column : span.column = Text.lastColumn before + 1
  endLine : span.endLine = Text.occurrences '\n' (before ++ inside) + 1
  endColumn : span.endColumn = Text.lastColumn (before ++ inside) + 1

/-- The span of a node covers the part of the source between its offsets. -/
theorem covers_ofNode {source : Source} {node : Node} {before inside behind : String}
    (split : source.Split before inside behind node.start node.stop) :
    (ofNode source node).Covers before inside := by
  unfold ofNode
  rw [split.position_start, split.position_stop]
  exact ⟨split.start, split.stop, rfl, rfl, rfl, rfl⟩

/-- A caret stands on a span within one line when its column is one of the span. -/
theorem contains_iff {span : Span} {before inside : String} (covers : span.Covers before inside)
    (unbroken : '\n' ∉ inside.toList) (line column : Nat) :
    span.contains line column ↔
      line = span.line ∧ span.column ≤ column ∧ column < span.endColumn := by
  have sameLine : span.endLine = span.line := by
    rw [covers.endLine, covers.line, Text.occurrences, Text.occurrences, String.toList_append,
      List.count_append, List.count_eq_zero_of_not_mem unbroken, Nat.add_zero]
  simp [contains, notBehind, sameLine]
  omega

end Span

/-! ## Tables -/

/-- An occurrence that can be found again at its place. -/
structure Occurrence.Findable (source : Source) (table : Table) (key : String)
    (occurrence : Occurrence) : Prop where
  named : occurrence.key = key
  /-- The source has the name where the span says. -/
  text : ∃ before behind, source.text = before ++ key ++ behind ∧ occurrence.span.Covers before key
  inside : occurrence.span.startByte ≤ occurrence.span.endByte ∧
    occurrence.span.endByte ≤ source.text.utf8ByteSize
  /-- It is listed for the carets that stand on it, and no others. -/
  caret : '\n' ∉ key.toList → ∀ line column, occurrence ∈ table.atCaret line column ↔
    line = occurrence.span.line ∧ occurrence.span.column ≤ column ∧
      column < occurrence.span.endColumn

namespace Walk.State

variable {state : Walk.State} {occurrence : Occurrence}

/-- Under a name of a kind stands what has been filed under it. -/
theorem mem_find {kind : OccurrenceKind} {key : String} :
    occurrence ∈ state.table.find kind key ↔ occurrence.kind = kind ∧
      ∃ filing ∈ state.filings, filing.key = key ∧ filing.occurrence = occurrence := by
  rw [table, Table.find_ofEntries]
  simp only [Table.entriesOf, Filing.entry, List.mem_map, List.mem_filter, List.mem_reverse,
    decide_eq_true_eq]
  constructor
  · rintro ⟨_, ⟨⟨⟨filing, member, rfl⟩, isKind⟩, named⟩, rfl⟩
    exact ⟨isKind, filing, member, named, rfl⟩
  · rintro ⟨isKind, filing, member, named, rfl⟩
    exact ⟨_, ⟨⟨⟨filing, member, rfl⟩, isKind⟩, named⟩, rfl⟩

/-- Of a kind everything is listed that has been filed and is of it. -/
theorem mem_list {kind : OccurrenceKind} :
    occurrence ∈ state.table.list kind ↔ occurrence.kind = kind ∧ occurrence ∈ state.records := by
  rw [table, (Table.list_ofEntries_perm _ kind).mem_iff]
  simp only [Table.entriesOf, Filing.entry, records, List.mem_map, List.mem_filter, List.mem_reverse,
    decide_eq_true_eq]
  constructor
  · rintro ⟨_, ⟨⟨filing, member, rfl⟩, isKind⟩, rfl⟩
    exact ⟨isKind, filing, member, rfl⟩
  · rintro ⟨isKind, filing, member, rfl⟩
    exact ⟨_, ⟨⟨filing, member, rfl⟩, isKind⟩, rfl⟩

/-- For a caret everything is listed that has been filed and that the caret stands on. -/
theorem mem_atCaret {line column : Nat} :
    occurrence ∈ state.table.atCaret line column ↔
      occurrence ∈ state.records ∧ occurrence.span.contains line column := by
  rw [Table.atCaret, List.mem_filter, table, (Table.all_ofEntries_perm _).mem_iff]
  simp [Filing.entry, records]

end Walk.State

/-- **Every occurrence can be found again at its place.** For every source and tree whose nodes cover parts
of the source, whatever the class path knows: what a walk that is not given up files under a name has that
name, stands in the source where its span says, and is listed for just the carets that stand on it. -/
theorem walk_findable (env : Walk.Env) (root : Node)
    (fits : root.all fun node => env.source.Fits node.start node.stop) (index : SourceIndex)
    (indexed : SourceIndex.ofWalk (Walk.walk env root) = .ok index) (kind : OccurrenceKind)
    (key : String) (occurrence : Occurrence) (filed : occurrence ∈ index.table.find kind key) :
    occurrence.Findable env.source index.table key := by
  obtain ⟨_, rfl⟩ := SourceIndex.ofWalk_eq_ok_iff.mp indexed
  obtain ⟨_, filing, member, rfl, rfl⟩ := Walk.State.mem_find.mp filed
  obtain ⟨token, above, stands, filedUnder⟩ := Walk.walk_filedAtToken env root filing member
  have fitting : env.source.Fits token.start token.stop :=
    of_decide_eq_true (Node.all_iff.mp (stands.place.all fits)).1
  obtain ⟨before, inside, behind, split⟩ := fitting.split
  have reads : filing.key = inside := filedUnder.trans split.slice
  have covers : filing.occurrence.span.Covers before filing.key := by
    rw [stands.placed, reads]
    exact Span.covers_ofNode split
  refine ⟨stands.named.trans filedUnder.symm, ⟨before, behind, ?_, covers⟩, ?_, ?_⟩
  · rw [reads]
    exact split.text
  · rw [covers.startByte, covers.endByte, split.text, reads]
    simp [String.utf8ByteSize_append]
  · intro unbroken line column
    rw [Walk.State.mem_atCaret, Span.contains_iff covers unbroken]
    exact and_iff_right (List.mem_map_of_mem member)

/-- The tree of a class `A` with a field `é` in its second line. -/
def fieldInSecondLine : Node :=
  .word "program" none 0 21 [
    .word "class_declaration" none 0 21 [
      .word "identifier" (some "name") 6 7 [],
      .word "class_body" (some "body") 8 21 [
        .word "field_declaration" none 12 19 [
          .word "integral_type" (some "type") 12 15 [],
          .word "variable_declarator" (some "declarator") 16 18 [
            .word "identifier" (some "name") 16 18 []]]]]]

def fieldInSecondLineEnv : Walk.Env :=
  .ofTree (.ofText "class A \x7b\n  int é;\n\x7d") fieldInSecondLine .empty

theorem walk_findable_secondLine :
    ∃ index, SourceIndex.ofWalk (Walk.walk fieldInSecondLineEnv fieldInSecondLine) = .ok index ∧
      ∃ occurrence ∈ index.table.find .field "é", occurrence.span = ⟨16, 18, 2, 7, 2, 9⟩ ∧
        occurrence.Findable fieldInSecondLineEnv.source index.table "é" := by
  have indexed := SourceIndex.ofWalk_eq_ok_iff.mpr
    ⟨show (Walk.walk fieldInSecondLineEnv fieldInSecondLine).tooDeep = none by decide +kernel, rfl⟩
  have filed : Occurrence.field "é" "int" "A" ⟨16, 18, 2, 7, 2, 9⟩ ∈
      (Walk.walk fieldInSecondLineEnv fieldInSecondLine).table.find .field "é" := by decide +kernel
  exact ⟨_, indexed, _, filed, rfl, walk_findable _ fieldInSecondLine (by decide +kernel) _ indexed
    .field "é" _ filed⟩

end SymbolIndex
