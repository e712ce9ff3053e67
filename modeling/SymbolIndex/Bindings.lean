/-!
# Bindings

Names with what they stand for. A name has at most one meaning: a later binding replaces an
earlier one.
-/

namespace SymbolIndex

/-- Names with their meanings, newest first. -/
structure Bindings (α : Type) where
  entries : List (String × α)

namespace Bindings

variable {α : Type}

/-- No name is bound. -/
def empty : Bindings α := ⟨[]⟩

instance : Inhabited (Bindings α) := ⟨empty⟩

/-- What a name stands for. -/
def find? (bindings : Bindings α) (name : String) : Option α :=
  (bindings.entries.find? (·.1 == name)).map (·.2)

/-- Binds a name, whatever it stood for before. -/
def insert (bindings : Bindings α) (name : String) (value : α) : Bindings α :=
  ⟨(name, value) :: bindings.entries.filter (·.1 != name)⟩

/-- A name that is bound stands for the new value, and the others for what they did. -/
theorem find?_insert (bindings : Bindings α) (name other : String) (value : α) :
    (bindings.insert name value).find? other =
      if name = other then some value else bindings.find? other := by
  by_cases same : name = other
  · simp [find?, insert, same]
  · have differs : (name == other) = false := beq_false_of_ne same
    simp only [find?, insert, List.find?_cons, differs, if_neg same, List.find?_filter]
    congr 2
    funext entry
    by_cases named : entry.1 = other
    · simp [named, Ne.symm same]
    · simp [named]

/-- Binds a name that is not bound yet. -/
def insertNew (bindings : Bindings α) (name : String) (value : α) : Bindings α :=
  match bindings.find? name with
  | some _ => bindings
  | none => bindings.insert name value

/-- The bindings of a list of pairs; of two with one name the later counts. -/
def ofList (pairs : List (String × α)) : Bindings α :=
  pairs.foldl (fun bindings (name, value) => bindings.insert name value) empty

end Bindings

end SymbolIndex
