import SymbolIndex.Json.Decode
import SymbolIndex.Occurrence.Table

/-!
# Occurrences in JSON

An occurrence is an object that starts with its kind. Reading takes the fields by name; what an
occurrence does not have is passed over, and a type that may be missing may also be null.
-/

namespace SymbolIndex

namespace Span

/-- A span as an object. -/
def toJson (span : Span) : Json :=
  .object [("start_byte", .nat span.startByte), ("end_byte", .nat span.endByte),
    ("line", .nat span.line), ("column", .nat span.column), ("end_line", .nat span.endLine),
    ("end_column", .nat span.endColumn)]

/-- Reads a span. Offsets have 64 bits, lines and columns 32. -/
def ofJson? (value : Json) : Option Span := do
  let names := ["start_byte", "end_byte", "line", "column", "end_line", "end_column"]
  match ← value.record? names (· == names.length) with
  | [some startByte, some endByte, some line, some column, some endLine, some endColumn] =>
    return {
      startByte := ← startByte.asNat? 64
      endByte := ← endByte.asNat? 64
      line := ← line.asNat? 32
      column := ← column.asNat? 32
      endLine := ← endLine.asNat? 32
      endColumn := ← endColumn.asNat? 32 }
  | _ => none

end Span

/-- Reads the kind of a member: its word, alone or as the only key of an object, with null or an
empty object under it. -/
def MemberKind.ofJson? : Json → Option MemberKind
  | .string word => [MemberKind.field, .method].find? (·.name == word)
  | .object [(word, .null)] => [MemberKind.field, .method].find? (·.name == word)
  | .object [(word, .object [])] => [MemberKind.field, .method].find? (·.name == word)
  | _ => none

namespace Occurrence

/-- An occurrence as an object. -/
def toJson (occurrence : Occurrence) : Json :=
  .object (("kind", .string occurrence.kind.name) ::
    match occurrence with
    | .field name typeName owner span =>
      [("name", .string name), ("type_name", .string typeName), ("owner", .string owner),
       ("span", span.toJson)]
    | .method name signature parameterTypes returnType owner span =>
      [("name", .string name), ("signature", .string signature),
       ("parameter_types", Json.texts parameterTypes), ("return_type", Json.text? returnType),
       ("owner", .string owner), ("span", span.toJson)]
    | .parameter name typeName signature owner span =>
      [("name", .string name), ("type_name", .string typeName), ("method", .string signature),
       ("owner", .string owner), ("span", span.toJson)]
    | .localVariable name typeName signature owner span =>
      [("name", .string name), ("type_name", Json.text? typeName),
       ("method", .string signature), ("owner", .string owner), ("span", span.toJson)]
    | .reference name memberKind ownerType owner span =>
      [("member", .string name), ("member_kind", .string memberKind.name),
       ("owner_type", .string ownerType), ("owner", .string owner), ("span", span.toJson)])

/-- The names of the fields behind the kind. -/
def fieldNames : OccurrenceKind → List String
  | .field => ["name", "type_name", "owner", "span"]
  | .method => ["name", "signature", "parameter_types", "return_type", "owner", "span"]
  | .parameter => ["name", "type_name", "method", "owner", "span"]
  | .localVariable => ["name", "type_name", "method", "owner", "span"]
  | .reference => ["member", "member_kind", "owner_type", "owner", "span"]

/-- Reads a text that may be missing or null. -/
def optionalText? : Option Json → Option (Option String)
  | none => some none
  | some value => value.asOption? Json.asString?

/-- Reads the fields of an occurrence of a known kind. -/
def ofFields? : OccurrenceKind → List (Option Json) → Option Occurrence
  | .field, [some name, some typeName, some owner, some span] => do
    return .field (← name.asString?) (← typeName.asString?) (← owner.asString?)
      (← Span.ofJson? span)
  | .method, [some name, some signature, some parameterTypes, returnType, some owner,
      some span] => do
    return .method (← name.asString?) (← signature.asString?) (← parameterTypes.asStrings?)
      (← optionalText? returnType) (← owner.asString?) (← Span.ofJson? span)
  | .parameter, [some name, some typeName, some signature, some owner, some span] => do
    return .parameter (← name.asString?) (← typeName.asString?) (← signature.asString?)
      (← owner.asString?) (← Span.ofJson? span)
  | .localVariable, [some name, typeName, some signature, some owner, some span] => do
    return .localVariable (← name.asString?) (← optionalText? typeName) (← signature.asString?)
      (← owner.asString?) (← Span.ofJson? span)
  | .reference, [some name, some memberKind, some ownerType, some owner, some span] => do
    return .reference (← name.asString?) (← MemberKind.ofJson? memberKind)
      (← ownerType.asString?) (← owner.asString?) (← Span.ofJson? span)
  | _, _ => none

/-- Reads an occurrence: an object with its kind among the fields, or an array that starts with
it. -/
def ofJson? (value : Json) : Option Occurrence := do
  let (word, fields) ←
    match value with
    | .array (word :: fields) => some (word, .array fields)
    | value => (value.get? "kind").map (·, value)
  let word ← word.asString?
  let kind ← OccurrenceKind.all.find? (·.name == word)
  let names := fieldNames kind
  ofFields? kind (← fields.record? names (· == names.length))

end Occurrence

/-- A summary as an object. -/
def Summary.toJson (summary : Summary) : Json :=
  .object [("class_references", .nat summary.references), ("fields", .nat summary.fields),
    ("local_variables", .nat summary.localVariables), ("methods", .nat summary.methods),
    ("parameters", .nat summary.parameters), ("unresolved", .nat summary.unresolved)]

end SymbolIndex
