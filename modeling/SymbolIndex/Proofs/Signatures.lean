import Mathlib.Data.List.Infix
import SymbolIndex.Proofs.Run.Walker

/-!
# Signatures tell overloads apart

A method is known by its signature: its name, and in parentheses the erased types of its parameters with
commas between them. The types are written in the source, so nothing but their spelling keeps two
signatures apart. Type arguments have commas of their own, and the brackets of an array or the dots of a
variable parameter are set behind a type before it is erased.

`eraseChars_append` is the one law under all of this. Behind a part of a text in which no bracket is closed
that has not been opened, the erasure goes on with as many brackets open as the part has left open. So with
balanced brackets it goes on as if it began anew, and a character is kept just where no bracket is open
(`mem_eraseChars`). A type whose commas are all inside its brackets has none left when it is erased, and so
the list of erased types can be read back from the signature.

**The law** (`overloads_told_apart`): what two declarations of methods or constructors are filed with has
the same signature if and only if their names and their lists of erased types are the same.

A type that erases to nothing is left out of the law: `m()` is the signature of a method without parameters,
and would be that of a method with a single parameter of such a type.
-/

namespace SymbolIndex

open SymbolIndex.Tree (Node Cursor)

/-! ## Brackets -/

namespace Tree

/-- How many angle brackets are open behind a text. -/
def openBehind (text : List Char) : Int :=
  text.count '<' - text.count '>'

/-- Angle brackets that are balanced: none is closed that is not open, and in the end none is open. -/
structure Balanced (text : List Char) : Prop where
  opened : ∀ before, before <+: text → 0 ≤ openBehind before
  closed : openBehind text = 0

/-- The text of a type: its brackets are balanced, its commas inside of them, and something is left when
it is erased. -/
structure Spelled (text : String) : Prop where
  balanced : Balanced text.toList
  sheltered : ∀ before, before ++ [','] <+: text.toList → 0 < openBehind before
  shown : erase text ≠ ""

instance (text : String) : Decidable (Spelled text) :=
  decidable_of_iff
    (((∀ before ∈ text.toList.inits, 0 ≤ openBehind before) ∧ openBehind text.toList = 0) ∧
      (∀ before ∈ text.toList.inits, before ++ [','] <+: text.toList → 0 < openBehind before) ∧
      erase text ≠ "") <| by
    simp only [List.mem_inits]
    constructor
    · intro ⟨⟨opened, closed⟩, sheltered, shown⟩
      refine ⟨⟨opened, closed⟩, fun before leads => ?_, shown⟩
      exact sheltered before ((List.prefix_append before [',']).trans leads) leads
    · intro ⟨⟨opened, closed⟩, sheltered, shown⟩
      exact ⟨⟨opened, closed⟩, fun before _ => sheltered before, shown⟩

section Brackets

variable {depth : Nat} {c : Char} {text rest : List Char}

/-- An opening bracket in front counts one more. -/
theorem openBehind_open (text : List Char) : openBehind ('<' :: text) = openBehind text + 1 := by
  have more : ('<' :: text).count '<' = text.count '<' + 1 := List.count_cons_self
  have same : ('<' :: text).count '>' = text.count '>' := List.count_cons_of_ne (by decide)
  rw [openBehind, openBehind, more, same]
  omega

/-- A closing bracket in front counts one less. -/
theorem openBehind_close (text : List Char) : openBehind ('>' :: text) = openBehind text - 1 := by
  have same : ('>' :: text).count '<' = text.count '<' := List.count_cons_of_ne (by decide)
  have more : ('>' :: text).count '>' = text.count '>' + 1 := List.count_cons_self
  rw [openBehind, openBehind, more, same]
  omega

theorem openBehind_plain (noOpen : c ≠ '<') (noClose : c ≠ '>') (text : List Char) :
    openBehind (c :: text) = openBehind text := by
  rw [openBehind, openBehind, List.count_cons_of_ne noOpen, List.count_cons_of_ne noClose]

/-- With some brackets open in front of a text, none is closed in it that is not open there. -/
def Opened (depth : Nat) (text : List Char) : Prop :=
  ∀ before, before <+: text → 0 ≤ depth + openBehind before

namespace Opened

/-- Behind an opening bracket one more is open. -/
theorem opening (opened : Opened depth ('<' :: rest)) : Opened (depth + 1) rest := by
  intro before leads
  have within := opened ('<' :: before) (List.cons_prefix_cons.mpr ⟨rfl, leads⟩)
  rw [openBehind_open] at within
  omega

/-- A closing bracket closes one that is open. -/
theorem closing (opened : Opened depth ('>' :: rest)) : 0 < depth ∧ Opened (depth - 1) rest := by
  have within (before : List Char) (leads : before <+: rest) : 0 ≤ depth + (openBehind before - 1) := by
    rw [← openBehind_close]
    exact opened ('>' :: before) (List.cons_prefix_cons.mpr ⟨rfl, leads⟩)
  have isOpen : 0 ≤ (depth : Int) + (0 - 1) := within [] List.nil_prefix
  refine ⟨by omega, fun before leads => ?_⟩
  have kept := within before leads
  omega

theorem plain (opened : Opened depth (c :: rest)) (noOpen : c ≠ '<') (noClose : c ≠ '>') :
    Opened depth rest := by
  intro before leads
  rw [← openBehind_plain noOpen noClose before]
  exact opened (c :: before) (List.cons_prefix_cons.mpr ⟨rfl, leads⟩)

end Opened

/-- Balanced text closes only what it opens. -/
theorem Balanced.fromStart (balanced : Balanced text) : Opened 0 text := by
  intro before leads
  have within := balanced.opened before leads
  omega

/-! ## Erasure -/

/-- Induction on a text as it is erased: by what its first character is, and with a number of open brackets. -/
@[elab_as_elim]
theorem eraseChars_induct {motive : Nat → List Char → Prop} (depth : Nat) (text : List Char)
    (nil : ∀ depth, motive depth [])
    (opening : ∀ depth rest, motive (depth + 1) rest → motive depth ('<' :: rest))
    (closing : ∀ depth rest, motive (depth - 1) rest → motive depth ('>' :: rest))
    (plain : ∀ depth c rest, c ≠ '<' → c ≠ '>' → motive depth rest → motive depth (c :: rest)) :
    motive depth text := by
  induction text generalizing depth with
  | nil => exact nil depth
  | cons c rest ih =>
    by_cases isOpen : c = '<'
    · exact isOpen ▸ opening depth rest (ih (depth + 1))
    · by_cases isClose : c = '>'
      · exact isClose ▸ closing depth rest (ih (depth - 1))
      · exact plain depth c rest isOpen isClose (ih depth)

/-- A character that is no bracket is kept outside of all brackets. -/
theorem eraseChars_plain (noOpen : c ≠ '<') (noClose : c ≠ '>') :
    eraseChars depth (c :: rest) = (if depth = 0 then [c] else []) ++ eraseChars depth rest := by
  rw [eraseChars]
  · split <;> rfl
  · exact noOpen
  · exact noClose

theorem mem_eraseChars_plain (noOpen : c ≠ '<') (noClose : c ≠ '>') {kept : Char}
    (member : kept ∈ eraseChars depth (c :: rest)) :
    kept = c ∧ depth = 0 ∨ kept ∈ eraseChars depth rest := by
  rw [eraseChars_plain noOpen noClose] at member
  rcases List.mem_append.mp member with here | later
  · split at here
    · next outside => exact .inl ⟨List.mem_singleton.mp here, outside⟩
    · cases here
  · exact .inr later

/-- **Erasure goes on behind a part of a text** with as many brackets open as are left open by it. By
induction on the erasure, with any number of brackets open in front of the text. -/
theorem eraseChars_append (opened : Opened depth text) (tail : List Char) :
    eraseChars depth (text ++ tail) =
      eraseChars depth text ++ eraseChars (depth + openBehind text).toNat tail := by
  induction depth, text using eraseChars_induct with
  | nil => simp [eraseChars, openBehind]
  | opening depth rest ih =>
    rw [List.cons_append, eraseChars, eraseChars, ih opened.opening, openBehind_open]
    congr 3
    omega
  | closing depth rest ih =>
    obtain ⟨positive, kept⟩ := opened.closing
    rw [List.cons_append, eraseChars, eraseChars, ih kept, openBehind_close]
    congr 3
    omega
  | plain depth c rest noOpen noClose ih =>
    rw [List.cons_append, eraseChars_plain noOpen noClose, eraseChars_plain noOpen noClose,
      ih (opened.plain noOpen noClose), openBehind_plain noOpen noClose, List.append_assoc]

/-- A character that is left stands where no bracket is open. -/
theorem mem_eraseChars (opened : Opened depth text) {kept : Char} (member : kept ∈ eraseChars depth text) :
    ∃ before, before ++ [kept] <+: text ∧ depth + openBehind before = 0 := by
  induction depth, text using eraseChars_induct with
  | nil => cases member
  | opening depth rest ih =>
    obtain ⟨before, leads, none⟩ := ih opened.opening member
    refine ⟨'<' :: before, List.cons_prefix_cons.mpr ⟨rfl, leads⟩, ?_⟩
    rw [openBehind_open]
    omega
  | closing depth rest ih =>
    obtain ⟨positive, rests⟩ := opened.closing
    obtain ⟨before, leads, none⟩ := ih rests member
    refine ⟨'>' :: before, List.cons_prefix_cons.mpr ⟨rfl, leads⟩, ?_⟩
    rw [openBehind_close]
    omega
  | plain depth c rest noOpen noClose ih =>
    rcases mem_eraseChars_plain noOpen noClose member with ⟨rfl, outside⟩ | later
    · refine ⟨[], ⟨rest, rfl⟩, ?_⟩
      simp [openBehind, outside]
    · obtain ⟨before, leads, none⟩ := ih (opened.plain noOpen noClose) later
      refine ⟨c :: before, List.cons_prefix_cons.mpr ⟨rfl, leads⟩, ?_⟩
      rw [openBehind_plain noOpen noClose, none]

/-- No bracket is left, whether balanced or not. -/
theorem not_bracket_of_mem_eraseChars {kept : Char} (member : kept ∈ eraseChars depth text) :
    kept ≠ '<' ∧ kept ≠ '>' := by
  induction depth, text using eraseChars_induct with
  | nil => cases member
  | opening depth rest ih => exact ih member
  | closing depth rest ih => exact ih member
  | plain depth c rest noOpen noClose ih =>
    rcases mem_eraseChars_plain noOpen noClose member with ⟨rfl, -⟩ | later
    · exact ⟨noOpen, noClose⟩
    · exact ih later

/-- A text without brackets stays as it is. -/
theorem eraseChars_of_plain (plain : ∀ c ∈ text, c ≠ '<' ∧ c ≠ '>') : eraseChars 0 text = text := by
  induction text with
  | nil => rfl
  | cons c rest ih =>
    obtain ⟨isOpen, isClose⟩ := plain c List.mem_cons_self
    rw [eraseChars_plain isOpen isClose, ih fun other member => plain other (List.mem_cons_of_mem c member)]
    rfl

end Brackets

/-- **What is erased once is erased for good.** -/
theorem erase_erase (text : String) : erase (erase text) = erase text := by
  have plain : ∀ c ∈ (erase text).toList, c ≠ '<' ∧ c ≠ '>' := by
    intro c member
    rw [erase, String.toList_ofList] at member
    exact not_bracket_of_mem_eraseChars member
  rw [erase, eraseChars_of_plain plain, String.ofList_toList]

/-- **No bracket is left.** -/
theorem brackets_not_mem_erase (text : String) :
    '<' ∉ (erase text).toList ∧ '>' ∉ (erase text).toList := by
  rw [erase, String.toList_ofList]
  exact ⟨fun member => (not_bracket_of_mem_eraseChars member).1 rfl,
    fun member => (not_bracket_of_mem_eraseChars member).2 rfl⟩

/-- **A balanced text is erased apart from what stands behind it.** -/
theorem erase_append {text : String} (balanced : Balanced text.toList) (tail : String) :
    erase (text ++ tail) = erase text ++ erase tail := by
  rw [erase, String.toList_append, eraseChars_append balanced.fromStart, balanced.closed, String.ofList_append]
  rfl

/-- What has no angle brackets is set behind the erasure of a balanced text as it is. -/
theorem erase_append_plain {base tail : String} (balanced : Balanced base.toList)
    (plain : ∀ c ∈ tail.toList, c ≠ '<' ∧ c ≠ '>') : erase (base ++ tail) = erase base ++ tail := by
  have same : erase tail = tail := by
    rw [erase, eraseChars_of_plain plain, String.ofList_toList]
  rw [erase_append balanced, same]

/-- Array brackets come through the erasure of the type that they are set behind. -/
theorem erase_withDimensions {base : String} (balanced : Balanced base.toList) (count : Nat) :
    erase (withDimensions base count) = withDimensions (erase base) count := by
  refine erase_append_plain balanced fun c member => ?_
  have isBracket : count ≠ 0 ∧ (c = '[' ∨ c = ']') := by
    simpa [List.mem_flatten, List.mem_replicate] using member
  rcases isBracket.2 with rfl | rfl <;> decide

/-- And so do the dots of a variable parameter. -/
theorem erase_spread {base : String} (balanced : Balanced base.toList) :
    erase (base ++ "...") = erase base ++ "..." :=
  erase_append_plain balanced (by simp)

/-- No comma is left in the erased text of a type, so commas divide a signature. -/
theorem Spelled.comma_not_mem {text : String} (spelled : Spelled text) : ',' ∉ (erase text).toList := by
  intro member
  rw [erase, String.toList_ofList] at member
  obtain ⟨before, leads, none⟩ := mem_eraseChars spelled.balanced.fromStart member
  have inside := spelled.sheltered before leads
  omega

end Tree

namespace Walk

/-! ## Signatures -/

/-- Texts that are not empty and have no commas can be read back from what is written with commas between
them. -/
theorem intercalate_inj {texts texts' : List String}
    (clean : ∀ text ∈ texts, text ≠ "" ∧ ',' ∉ text.toList)
    (clean' : ∀ text ∈ texts', text ≠ "" ∧ ',' ∉ text.toList) :
    String.intercalate "," texts = String.intercalate "," texts' ↔ texts = texts' := by
  -- Nothing written is read as a single empty text, so the lists without texts stand apart.
  have read (texts : List String) (clean : ∀ text ∈ texts, text ≠ "" ∧ ',' ∉ text.toList) :
      texts = (Text.pieces ',' (String.intercalate "," texts)).filter (· ≠ "") := by
    by_cases none : texts = []
    · subst none
      decide
    · have pieces : Text.pieces ',' (String.intercalate "," texts) = texts :=
        Text.pieces_intercalate (fun text member => (clean text member).2) none
      have kept : texts.filter (· ≠ "") = texts :=
        List.filter_eq_self.mpr fun text member => decide_eq_true (clean text member).1
      rw [pieces, kept]
  constructor
  · intro same
    rw [read texts clean, read texts' clean', same]
  · exact congrArg _

/-- **A signature can be read back**, from names without a parenthesis and types that are spelled as types. -/
theorem signature_inj {name name' : String} {parameters parameters' : List Parameter}
    (plain : '(' ∉ name.toList) (plain' : '(' ∉ name'.toList)
    (spelled : ∀ parameter ∈ parameters, Tree.Spelled parameter.typeName)
    (spelled' : ∀ parameter ∈ parameters', Tree.Spelled parameter.typeName) :
    signature name parameters = signature name' parameters' ↔
      name = name' ∧ parameters.map (·.erased) = parameters'.map (·.erased) := by
  have clean (parameters : List Parameter)
      (spelled : ∀ parameter ∈ parameters, Tree.Spelled parameter.typeName) :
      ∀ text ∈ parameters.map (·.erased), text ≠ "" ∧ ',' ∉ text.toList := by
    intro text member
    obtain ⟨parameter, listed, rfl⟩ := List.mem_map.mp member
    exact ⟨(spelled parameter listed).shown, (spelled parameter listed).comma_not_mem⟩
  have letters (name : String) (parameters : List Parameter) : (signature name parameters).toList =
      name.toList ++ '(' :: ((String.intercalate "," (parameters.map (·.erased))).toList ++ [')']) := by
    simp [signature, String.toList_append]
  have nameOf {name : String} (plain : '(' ∉ name.toList) (parameters : List Parameter) :
      (signature name parameters).toList.takeWhile (· ≠ '(') = name.toList := by
    have passed : ∀ c ∈ name.toList, decide (c ≠ '(') = true :=
      fun c member => decide_eq_true fun isParenthesis => plain (isParenthesis ▸ member)
    rw [letters, List.takeWhile_append_of_pos passed]
    simp
  rw [← intercalate_inj (clean parameters spelled) (clean parameters' spelled')]
  constructor
  · intro same
    have sameName : name.toList = name'.toList := by
      rw [← nameOf plain parameters, ← nameOf plain' parameters', same]
    obtain rfl := String.toList_inj.mp sameName
    have sameLetters := congrArg String.toList same
    rw [letters, letters] at sameLetters
    have behind := (List.cons.inj (List.append_cancel_left sameLetters)).2
    exact ⟨rfl, String.toList_inj.mp (List.append_cancel_right behind)⟩
  · rintro ⟨rfl, sameTypes⟩
    rw [signature, signature, sameTypes]

/-! ## What is filed for a declaration -/

/-- Filings only come on top of those that are there. -/
theorem Run.grows {env : Env} {sited : Prop} {mode : Mode} {place : List Node} {marks : List Mark}
    {first last : State} (run : Run env sited mode place marks first last) :
    first.filings <:+ last.filings := by
  induction run with
  | trans _ _ ih ih' => exact ih.trans ih'
  | descend _ _ _ ih => exact ih
  | declaration => exact List.suffix_cons _ _
  | reference =>
    unfold State.fileReference
    split
    · exact List.suffix_rfl
    · exact List.suffix_cons _ _
  | inBlock _ ih | inMethod _ _ ih | inType _ _ _ ih => exact ih
  | limit | spent =>
    unfold State.giveUpAt
    split <;> exact List.suffix_rfl
  | _ => exact List.suffix_rfl

theorem visit?_grows (env : Env) (levels : Nat) (cursor : Option Cursor) (state : State) :
    state.filings <:+ ((walker env levels).visit? cursor state).filings := by
  cases cursor with
  | none => exact List.suffix_rfl
  | some cursor => exact ((walker_runs env False levels).visit cursor state False.elim).grows

/-- Declaring parameters only adds filings. -/
theorem declareParameters_grows (env : Env) (method owner : String) (parameters : List Parameter)
    (state : State) : state.filings <:+ (declareParameters env method owner parameters state).filings := by
  induction parameters generalizing state with
  | nil => exact List.suffix_rfl
  | cons parameter parameters ih =>
    have later := ih ((state.file (env.text parameter.name) (.parameter (env.text parameter.name)
      parameter.typeName method owner (Span.ofNode env.source parameter.name))).declare env parameter.name
        parameter.type)
    exact (List.suffix_cons _ _).trans later

theorem declareComponents_filings (env : Env) (components : List Parameter) (state : State) :
    (declareComponents env components state).filings = state.filings := by
  induction components generalizing state with
  | nil => rfl
  | cons component components ih => exact ih _

/-- A method or a constructor that a walk comes to while it has levels left. -/
structure MethodVisit where
  env : Env
  levels : Nat
  cursor : Cursor
  state : State
  name : Node
  isMethod : cursor.kind ∈ methodKinds
  named : cursor.node.child? "name" = some name
  alive : state.tooDeep = none

namespace MethodVisit

/-- The name that is declared. -/
def key (visit : MethodVisit) : String :=
  visit.env.text visit.name

/-- The parameters that are declared. A compact constructor has the components of its record. -/
def parameters (visit : MethodVisit) : List Parameter :=
  if visit.cursor.kind = "compact_constructor_declaration" then
    componentsOf visit.env visit.state.scope visit.cursor.grandparent?
  else Walk.parameters visit.env visit.state.scope (visit.cursor.node.child? "parameters")

/-- The erased types of the parameters. -/
def types (visit : MethodVisit) : List String :=
  visit.parameters.map (·.erased)

/-- The type that is returned, as written. Constructors return none. -/
def returnType (visit : MethodVisit) : Option String :=
  if visit.cursor.kind = "method_declaration" then
    typeText? visit.env (visit.cursor.node.child? "type")
  else none

/-- The record of the declaration, with the given signature. -/
def filing (visit : MethodVisit) (method : String) : Filing where
  key := visit.key
  occurrence := .method visit.key method visit.types visit.returnType visit.state.owner
    (Span.ofNode visit.env.source visit.name)
  scope := visit.state.scope

/-- The state behind the declaration. -/
def last (visit : MethodVisit) : State :=
  (walker visit.env (visit.levels + 1)).visit visit.cursor visit.state

/-- The declaration is filed with the given signature: its record is the first that comes on top of those
that are there. -/
def Files (visit : MethodVisit) (method : String) : Prop :=
  visit.filing method :: visit.state.filings <:+ visit.last.filings

/-- A method is visited with one level less for its body. -/
theorem last_eq (visit : MethodVisit) :
    visit.last = visitNode visit.env (walker visit.env visit.levels) visit.cursor visit.state := by
  simp only [last, walker, atLevel_eq, visit.alive]

/-- **A declaration is filed with its signature**: the record is on top when the walk comes to the
parameters and the body, and these file on top of it. -/
theorem files_signature (visit : MethodVisit) : visit.Files (signature visit.key visit.parameters) := by
  unfold Files
  rw [last_eq, visitNode]
  obtain ⟨env, levels, cursor, state, name, isMethod, named, alive⟩ := visit
  simp only [methodKinds, List.mem_cons, List.not_mem_nil, or_false] at isMethod
  rcases isMethod with kind | kind | kind
  · simp only [visitMethod, named, filing, key, types, parameters, returnType, kind, String.reduceEq,
      String.reduceBEq, Bool.false_eq_true, if_true, if_false]
    refine List.IsSuffix.trans ?_ (visit?_grows ..)
    refine List.IsSuffix.trans ?_ (declareParameters_grows ..)
    exact List.suffix_rfl
  · simp only [visitMethod, named, filing, key, types, parameters, returnType, kind, String.reduceEq,
      String.reduceBEq, if_true, if_false]
    refine List.IsSuffix.trans ?_ (visit?_grows ..)
    refine List.IsSuffix.trans ?_ (declareParameters_grows ..)
    exact List.suffix_rfl
  · simp only [visitCompactConstructor, named, filing, key, types, parameters, returnType, kind,
      String.reduceEq, if_true, if_false]
    refine List.IsSuffix.trans ?_ (visit?_grows ..)
    rw [declareComponents_filings]
    exact List.suffix_rfl

/-- A declaration is filed with one signature only. -/
theorem eq_of_files {visit : MethodVisit} {method method' : String} (files : visit.Files method)
    (files' : visit.Files method') : method = method' := by
  have within := List.suffix_of_suffix_length_le files files' (Nat.le_refl _)
  have same := List.cons.inj (within.eq_of_length rfl)
  have occurrences := congrArg Filing.occurrence same.1
  exact (Occurrence.method.inj occurrences).2.1

end MethodVisit

/-- **Signatures tell overloads apart.** Of any two declarations of methods or constructors that walks come
to, each is filed with a signature. If their names have no parenthesis and the types of their parameters are
spelled as types are, then the signatures are the same if and only if the names and the lists of erased types
are. What has been erased stays the same when it is erased again and has no brackets, and a text with balanced
brackets is erased apart from what stands behind it. -/
theorem overloads_told_apart (visit visit' : MethodVisit) (plain : '(' ∉ visit.key.toList)
    (plain' : '(' ∉ visit'.key.toList)
    (spelled : ∀ parameter ∈ visit.parameters, Tree.Spelled parameter.typeName)
    (spelled' : ∀ parameter ∈ visit'.parameters, Tree.Spelled parameter.typeName) :
    ((∃ method, visit.Files method) ∧ (∃ method', visit'.Files method') ∧
      ∀ method method', visit.Files method → visit'.Files method' →
        (method = method' ↔ visit.key = visit'.key ∧ visit.types = visit'.types)) ∧
      (∀ text, Tree.erase (Tree.erase text) = Tree.erase text) ∧
      (∀ text, '<' ∉ (Tree.erase text).toList ∧ '>' ∉ (Tree.erase text).toList) ∧
      ∀ text tail : String, Tree.Balanced text.toList →
        Tree.erase (text ++ tail) = Tree.erase text ++ Tree.erase tail := by
  refine ⟨⟨⟨_, visit.files_signature⟩, ⟨_, visit'.files_signature⟩, ?_⟩, Tree.erase_erase,
    Tree.brackets_not_mem_erase, fun text tail balanced => Tree.erase_append balanced tail⟩
  intro method method' files files'
  rw [MethodVisit.eq_of_files files visit.files_signature,
    MethodVisit.eq_of_files files' visit'.files_signature]
  exact signature_inj plain plain' spelled spelled'

/-- The constructor `A(Map<K,V> a)`. -/
def mapConstructor : Node :=
  .word "constructor_declaration" none 0 13 [
    .word "identifier" (some "name") 0 1 [],
    .word "formal_parameters" (some "parameters") 1 13 [
      .word "formal_parameter" none 2 12 [
        .word "generic_type" (some "type") 2 10 [
          .word "type_identifier" none 2 5 [],
          .word "type_arguments" none 5 10 [
            .token "<" 5 6,
            .word "type_identifier" none 6 7 [],
            .token "," 7 8,
            .word "type_identifier" none 8 9 [],
            .token ">" 9 10]],
        .word "identifier" (some "name") 11 12 []]]]

/-- The constructor `A(Map a, V... b)`. -/
def spreadConstructor : Node :=
  .word "constructor_declaration" none 0 16 [
    .word "identifier" (some "name") 0 1 [],
    .word "formal_parameters" (some "parameters") 1 16 [
      .word "formal_parameter" none 2 7 [
        .word "type_identifier" (some "type") 2 5 [],
        .word "identifier" (some "name") 6 7 []],
      .word "spread_parameter" none 9 15 [
        .word "type_identifier" none 9 10 [],
        .token "..." 10 13,
        .word "variable_declarator" none 14 15 [
          .word "identifier" (some "name") 14 15 []]]]]

/-- A walk that starts at a constructor. -/
def constructorVisit (text : String) (node : Node) (isConstructor : node.kind = "constructor_declaration")
    (name : Node) (named : node.child? "name" = some name) : MethodVisit where
  env := .ofTree (.ofText text) node .empty
  levels := 0
  cursor := .root node
  state := {}
  name := name
  isMethod := by
    show node.kind ∈ methodKinds
    rw [isConstructor]
    decide
  named := named
  alive := rfl

def mapVisit : MethodVisit :=
  constructorVisit "A(Map<K,V> a)" mapConstructor rfl (.word "identifier" (some "name") 0 1 []) rfl

def spreadVisit : MethodVisit :=
  constructorVisit "A(Map a, V... b)" spreadConstructor rfl (.word "identifier" (some "name") 0 1 []) rfl

theorem overloads_told_apart_spread :
    mapVisit.Files "A(Map)" ∧ spreadVisit.Files "A(Map,V...)" ∧ mapVisit.types ≠ spreadVisit.types := by
  have sameKey : mapVisit.key = spreadVisit.key := by decide +kernel
  have files : mapVisit.Files "A(Map)" := by
    have written : signature mapVisit.key mapVisit.parameters = "A(Map)" := by decide +kernel
    exact written ▸ mapVisit.files_signature
  have files' : spreadVisit.Files "A(Map,V...)" := by
    have written : signature spreadVisit.key spreadVisit.parameters = "A(Map,V...)" := by decide +kernel
    exact written ▸ spreadVisit.files_signature
  obtain ⟨⟨-, -, apart⟩, -⟩ := overloads_told_apart mapVisit spreadVisit (by decide +kernel)
    (by decide +kernel) (by decide +kernel) (by decide +kernel)
  refine ⟨files, files', fun sameTypes => ?_⟩
  have same := (apart _ _ files files').mpr ⟨sameKey, sameTypes⟩
  exact absurd same (by decide)

end Walk

end SymbolIndex
