import SymbolIndex.Proofs.Nodes
import SymbolIndex.Text.Blank
import SymbolIndex.Tree.TypeText

/-!
# The text of a type keeps its tokens

A type is shown as its tokens side by side. Its layout, annotations and comments are gone, and a blank is
put only behind a word or a wildcard, and only when a word comes next. Nothing else tells where a token
ends. The tokens can be read back all the same: `readTokens` takes a word as far as there are word
characters, passes over blanks, and takes any other character by itself.

`readTokens_setTokens` is the one law under this, by induction on the tokens and for any character in front
of them. The reading does not retrace how the blanks were chosen. It needs two facts only: in front of a
token stands one blank at most (`gap_eq`), and what is set behind a word character never begins with
another one (`head?_setTokens`), so that a word ends where its token does.

**The law** (`typeText_eq_iff`): two types have the same text if and only if they have the same tokens, be
they of one source or of two. The tokens are those of the leaves outside annotations and comments, which
`tokens` collects from a list of trees still to be seen (`tokens_eq_leaves`).

A token is taken to be a word or a single mark. Of others the law is false: `->` and the two marks `-` and
`>` have the same text.
-/

namespace SymbolIndex.Tree

/-! ## Leaves -/

mutual

/-- The leaves of a tree outside its annotations and comments, in document order. -/
def Node.leaves : Node → List Node
  | ⟨label, broken, children⟩ =>
    if isTrivia label.kind then []
    else if children.isEmpty then [⟨label, broken, children⟩]
    else Node.leavesIn children

/-- The leaves of a list of trees outside their annotations and comments. -/
def Node.leavesIn : List Node → List Node
  | [] => []
  | node :: nodes => Node.leaves node ++ Node.leavesIn nodes

end

theorem Node.leavesIn_append (first second : List Node) :
    leavesIn (first ++ second) = leavesIn first ++ leavesIn second := by
  induction first with
  | nil => rfl
  | cons node nodes ih => rw [List.cons_append, leavesIn, leavesIn, ih, List.append_assoc]

/-- The leaves of a node are those of its children, or the node itself; what is left out of types has
none. -/
theorem Node.leaves_eq (node : Node) :
    node.leaves =
      if isTrivia node.kind then []
      else if node.children.isEmpty then [node] else leavesIn node.children := by
  cases node
  rw [leaves]
  rfl

/-- The leaves of the trees still to be seen come on top of those found. -/
theorem tokensOnto_eq (found nodes : List Node) :
    tokensOnto found nodes = (Node.leavesIn nodes).reverse ++ found := by
  fun_induction tokensOnto found nodes with
  | case1 found => rfl
  | case2 found node rest trivia ih =>
    rw [ih, Node.leavesIn, Node.leaves_eq, if_pos trivia, List.nil_append]
  | case3 found node rest kept leaf ih =>
    rw [ih, Node.leavesIn, Node.leaves_eq, if_neg kept, if_pos leaf]
    simp
  | case4 found node rest kept inside ih =>
    rw [ih, Node.leavesIn, Node.leaves_eq, if_neg kept, if_neg inside, Node.leavesIn_append]

/-- **The tokens of a type** are the leaves of its tree. -/
theorem tokens_eq_leaves (node : Node) : tokens node = node.leaves := by
  rw [tokens, tokensOnto_eq, List.append_nil, List.reverse_reverse, Node.leavesIn, Node.leavesIn,
    List.append_nil]

/-- The texts of the tokens of a type. -/
def tokenTexts (source : Source) (node : Node) : List String :=
  node.leaves.map fun leaf => source.slice leaf.start leaf.stop

/-! ## Reading tokens -/

/-- The characters of one token: a word, or a mark by itself. -/
inductive Lexeme : List Char → Prop
  | word {text : List Char} (filled : text ≠ []) (all : ∀ c ∈ text, Text.isWord c) : Lexeme text
  | mark {c : Char} (apart : ¬ Text.isWord c) (shown : ¬ Text.isBlank c) : Lexeme [c]

-- `List.all` in place of `∀`, which would be decided by trying every character there is
instance (text : List Char) : Decidable (Lexeme text) :=
  decidable_of_iff
    ((text ≠ [] ∧ text.all Text.isWord) ∨
      text.length = 1 ∧ text.all fun c => !Text.isWord c && !Text.isBlank c) <| by
    constructor
    · rintro (⟨filled, all⟩ | ⟨single, all⟩)
      · exact .word filled (List.all_eq_true.mp all)
      · obtain ⟨c, rfl⟩ := List.length_eq_one_iff.mp single
        obtain ⟨apart, shown⟩ : Text.isWord c = false ∧ Text.isBlank c = false := by simpa using all
        exact .mark (by simp [apart]) (by simp [shown])
    · intro lexeme
      cases lexeme with
      | word filled all => exact .inl ⟨filled, List.all_eq_true.mpr all⟩
      | mark apart shown => exact .inr ⟨rfl, by simp [apart, shown]⟩

/-- The tokens of a text: a word goes as far as there are word characters, and any other character that is
not blank is a token by itself. -/
def readTokens : List Char → List (List Char)
  | [] => []
  | c :: rest =>
    if Text.isWord c then
      (c :: rest.takeWhile Text.isWord) :: readTokens (rest.dropWhile Text.isWord)
    else if Text.isBlank c then readTokens rest
    else [c] :: readTokens rest
termination_by text => text.length
decreasing_by
  · exact Nat.lt_succ_of_le (List.dropWhile_sublist _).length_le
  · exact Nat.lt_succ_self _
  · exact Nat.lt_succ_self _

section Reading

variable {c : Char} {word behind : List Char}

/-- A blank belongs to no word. -/
theorem not_isWord_blank : ¬ Text.isWord ' ' := by decide +kernel

/-- A blank in front of tokens is passed over. -/
theorem readTokens_blank (text : List Char) : readTokens (' ' :: text) = readTokens text := by
  rw [readTokens, if_neg not_isWord_blank, if_pos (by decide)]

/-- A mark is a token by itself. -/
theorem readTokens_mark (apart : ¬ Text.isWord c) (shown : ¬ Text.isBlank c) :
    readTokens (c :: behind) = [c] :: readTokens behind := by
  rw [readTokens, if_neg apart, if_neg shown]

/-- A word is read up to where the word characters end. -/
theorem readTokens_word (filled : word ≠ []) (all : ∀ c ∈ word, Text.isWord c)
    (ends : ∀ c ∈ behind.head?, ¬ Text.isWord c) :
    readTokens (word ++ behind) = word :: readTokens behind := by
  obtain ⟨first, others, rfl⟩ := List.exists_cons_of_ne_nil filled
  obtain ⟨isWord, all⟩ := List.forall_mem_cons.mp all
  have stops : behind.takeWhile Text.isWord = [] ∧ behind.dropWhile Text.isWord = behind := by
    cases behind with
    | nil => exact ⟨rfl, rfl⟩
    | cons next rest => simp [ends next rfl]
  rw [List.cons_append, readTokens, if_pos isWord, List.takeWhile_append_of_pos all,
    List.dropWhile_append_of_pos all, stops.1, stops.2, List.append_nil]

end Reading

/-! ## Setting tokens -/

/-- What is put in front of a token, behind the given character. -/
def gap (last : Option Char) (token : List Char) : List Char :=
  match last, token.head? with
  | some last, some next => if needsBlank last next then [' '] else []
  | _, _ => []

section Setting

variable {last : Char} {tokens : List (List Char)}

theorem setTokens_nil (last : Option Char) : setTokens last [] = [] := rfl

theorem setTokens_cons (last : Option Char) (token : List Char) (rest : List (List Char)) :
    setTokens last (token :: rest) =
      gap last token ++ token ++ setTokens (token.getLast?.or last) rest :=
  rfl

/-- One blank at most is put in front of a token. -/
theorem gap_eq (last : Option Char) (token : List Char) : gap last token = [] ∨ gap last token = [' '] := by
  unfold gap
  split
  · split
    · exact .inr rfl
    · exact .inl rfl
  · exact .inl rfl

/-- Behind a word character, a token that begins with another one has a blank in front of it. -/
theorem gap_word {next : Char} {rest : List Char} (isWord : Text.isWord last) (runsOn : Text.isWord next) :
    gap (some last) (next :: rest) = [' '] := by
  have needed : needsBlank last next := by rw [needsBlank, isWord, runsOn, Bool.true_or, Bool.true_and]
  exact if_pos needed

/-- What is set behind a word character does not begin with another one. -/
theorem head?_setTokens (isWord : Text.isWord last) (tokens : List (List Char)) :
    ∀ c ∈ (setTokens (some last) tokens).head?, ¬ Text.isWord c := by
  induction tokens with
  | nil =>
    intro c first
    cases first
  | cons token rest ih =>
    rw [setTokens_cons]
    cases token with
    | nil => exact ih
    | cons next others =>
      intro c first
      by_cases runsOn : Text.isWord next
      · rw [gap_word isWord runsOn] at first
        cases first
        exact not_isWord_blank
      · rcases gap_eq (some last) (next :: others) with bare | blank
        · rw [bare] at first
          cases first
          exact runsOn
        · rw [blank] at first
          cases first
          exact not_isWord_blank

/-- **A gap adds no token**: it is empty or a blank. -/
theorem readTokens_gap (last : Option Char) (token text : List Char) :
    readTokens (gap last token ++ text) = readTokens text := by
  rcases gap_eq last token with bare | blank
  · rw [bare, List.nil_append]
  · rw [blank, List.singleton_append, readTokens_blank]

/-- **Tokens are read back as they were set**, whatever character stands in front of them. -/
theorem readTokens_setTokens (last : Option Char) (lexemes : ∀ token ∈ tokens, Lexeme token) :
    readTokens (setTokens last tokens) = tokens := by
  induction tokens generalizing last with
  | nil => rw [setTokens_nil, readTokens]
  | cons token rest ih =>
    obtain ⟨lexeme, others⟩ := List.forall_mem_cons.mp lexemes
    have later := ih (token.getLast?.or last) others
    rw [setTokens_cons, List.append_assoc, readTokens_gap]
    cases lexeme with
    | word filled all =>
      have ends : ∀ c ∈ (setTokens (token.getLast?.or last) rest).head?, ¬ Text.isWord c := by
        rw [List.getLast?_eq_some_getLast filled, Option.some_or]
        exact head?_setTokens (all _ (List.getLast_mem filled)) rest
      rw [readTokens_word filled all ends, later]
    | mark apart shown => rw [List.singleton_append, readTokens_mark apart shown, later]

end Setting

example : readTokens "Map<String,? extends Foo>".toList =
    ["Map", "<", "String", ",", "?", "extends", "Foo", ">"].map String.toList := by
  decide +kernel

/-! ## Types -/

section Types

variable {source source' : Source} {node node' : Node}

/-- The text of a type is its tokens with the gaps that they need. -/
theorem typeText_eq (source : Source) (node : Node) :
    typeText source node = String.ofList (setTokens none ((tokenTexts source node).map String.toList)) := by
  rw [typeText, tokens_eq_leaves, tokenTexts, List.map_map]
  rfl

/-- The tokens of a type are read back from its text. -/
theorem readTokens_typeText (lexemes : ∀ token ∈ tokenTexts source node, Lexeme token.toList) :
    readTokens (typeText source node).toList = (tokenTexts source node).map String.toList := by
  rw [typeText_eq, String.toList_ofList]
  exact readTokens_setTokens none (List.forall_mem_map.mpr lexemes)

/-- **The text of a type keeps its tokens.** When the tokens of two types are words and single marks that are
not blank, the types have the same text if and only if they have the same tokens in the same order. -/
theorem typeText_eq_iff (lexemes : ∀ token ∈ tokenTexts source node, Lexeme token.toList)
    (lexemes' : ∀ token ∈ tokenTexts source' node', Lexeme token.toList) :
    typeText source node = typeText source' node' ↔ tokenTexts source node = tokenTexts source' node' := by
  constructor
  · intro same
    have letters : (tokenTexts source node).map String.toList = (tokenTexts source' node').map String.toList := by
      rw [← readTokens_typeText lexemes, ← readTokens_typeText lexemes', same]
    exact List.map_inj_right (fun _ _ => String.toList_inj.mp) |>.mp letters
  · intro same
    rw [typeText_eq, typeText_eq, same]

end Types

/-- The type `List<? extends B>`, or one with another bound. -/
def wildcardType (bound : Node) : Node :=
  .word "generic_type" none 0 (bound.stop + 3) [
    .word "type_identifier" none 0 4 [],
    .word "type_arguments" none 4 (bound.stop + 3) [
      .token "<" 4 5,
      .word "wildcard" none 5 (bound.stop + 2) [
        .token "?" 5 6,
        bound,
        .word "type_identifier" none (bound.stop + 1) (bound.stop + 2) []],
      .token ">" (bound.stop + 2) (bound.stop + 3)]]

/-- The type `List< @A ? /*c*/ extends B>`. -/
def spacedWildcardType : Node :=
  .word "generic_type" none 0 27 [
    .word "type_identifier" none 0 4 [],
    .word "type_arguments" none 4 27 [
      .token "<" 4 5,
      .word "wildcard" none 6 26 [
        .word "marker_annotation" none 6 8 [
          .token "@" 6 7,
          .word "identifier" (some "name") 7 8 []],
        .token "?" 9 10,
        .word "block_comment" none 11 16 [],
        .token "extends" 17 24,
        .word "type_identifier" none 25 26 []],
      .token ">" 26 27]]

theorem typeText_eq_iff_wildcard :
    typeText (.ofText "List< @A ? /*c*/ extends B>") spacedWildcardType =
        typeText (.ofText "List<? extends B>") (wildcardType (.token "extends" 7 14)) ∧
      typeText (.ofText "List< @A ? /*c*/ extends B>") spacedWildcardType ≠
        typeText (.ofText "List<? super B>") (wildcardType (.word "super" none 7 12 [])) := by
  have lexemes : ∀ token ∈ tokenTexts (.ofText "List< @A ? /*c*/ extends B>") spacedWildcardType,
      Lexeme token.toList := by
    decide +kernel
  constructor
  · apply (typeText_eq_iff lexemes (by decide +kernel)).mpr
    decide +kernel
  · intro same
    have sameTokens := (typeText_eq_iff lexemes (by decide +kernel)).mp same
    exact absurd sameTokens (by decide +kernel)

end SymbolIndex.Tree
