import SymbolIndex.Text.Pieces

/-!
# Class names

A class that was decompiled is named by the path of its class file with the decompiler behind a
hyphen: `com/acme/Foo.class-CFR`. A hyphen only marks a decompiler in the last part of the path.
-/

namespace SymbolIndex.ClassName

/-- The name without the decompiler, and the decompiler. -/
def split (name : String) : String × String :=
  let file := Text.lastPiece (· == '/') name
  match Text.cutLast '-' file with
  | some (_, tag) => (String.ofList (name.toList.take (name.length - tag.length - 1)), tag)
  | none => (name, "")

/-- `CFR` for `com/acme/Foo.class-CFR`; empty without a mark. -/
def decompiler (name : String) : String :=
  (split name).2

/-- `Foo` for `com/acme/Foo.class-CFR`. -/
def simpleName (name : String) : String :=
  let file := Text.lastPiece (· == '/') (split name).1
  match Text.cutLast '.' file with
  | some (stem, _) => stem
  | none => file

/-- A name with the decompiler behind it; an empty tag leaves no mark. -/
def withDecompiler (name : String) : Option String → String
  | none => name
  | some tag => if tag.isEmpty then name else name ++ "-" ++ tag

end SymbolIndex.ClassName
