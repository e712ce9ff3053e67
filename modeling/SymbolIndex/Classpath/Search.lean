import SymbolIndex.Classpath.Basic

/-!
# Searching a hierarchy for a member

The declaring type is looked for level by level: a type before its supertypes, the super class
before the interfaces. Links may form cycles or lead to unknown types, so each path is looked at
once, and the search ends because the links of a known path are followed at most once.

A hierarchy has a *gap* where it leaves the known types or where a declaration is incomplete. A
member that no declaration shows is then still attributed to the type that was asked.
-/

namespace SymbolIndex.Classpath

/-- How a search ends. -/
inductive SearchResult where
  | found (attribution : Attribution)
  | gap
  | absent
  deriving DecidableEq, Repr

/-- The known paths that have not been seen. -/
def unseen (classpath : Classpath) (seen : List String) : List String :=
  classpath.paths.filter fun path => !seen.contains path

/-- A path that is seen is unseen no more. -/
theorem unseen_cons (classpath : Classpath) (seen : List String) (path : String) :
    classpath.unseen (path :: seen) = (classpath.unseen seen).filter (· != path) := by
  rw [unseen, unseen, List.filter_filter]
  congr 1
  funext other
  rw [List.contains_cons, Bool.not_or, bne]

/-- The supertypes of a path, as far as it is known. -/
def supertypes (classpath : Classpath) (path : String) : List String :=
  ((classpath.type? path).map (·.supertypes)).getD []

/-- The number of links from known paths that have not been seen. -/
def unseenLinks (classpath : Classpath) (seen : List String) : Nat :=
  ((classpath.unseen seen).flatMap classpath.supertypes).length

theorem length_flatMap_filter_ne_le (paths : List String) (path : String)
    (links : String → List String) :
    ((paths.filter (· != path)).flatMap links).length ≤ (paths.flatMap links).length := by
  induction paths with
  | nil => exact Nat.le_refl _
  | cons first others ih =>
    rw [List.filter_cons]
    split <;> simp only [List.flatMap_cons, List.length_append] <;> omega

/-- A path that is left out takes its own links with it. -/
theorem length_flatMap_filter_ne_add_le {paths : List String} {path : String}
    (links : String → List String) (member : path ∈ paths) :
    ((paths.filter (· != path)).flatMap links).length + (links path).length ≤
      (paths.flatMap links).length := by
  induction paths with
  | nil => cases member
  | cons first others ih =>
    rw [List.filter_cons]
    by_cases same : first = path
    · subst same
      have := length_flatMap_filter_ne_le others first links
      simp only [bne_self_eq_false, Bool.false_eq_true, if_false, List.flatMap_cons,
        List.length_append]
      omega
    · have later : path ∈ others := by
        cases member with
        | head => exact absurd rfl same
        | tail _ later => exact later
      have := ih later
      rw [if_pos (by simpa using same)]
      simp only [List.flatMap_cons, List.length_append]
      omega

/-- A known path that is seen for the first time takes its links along. -/
theorem unseenLinks_cons_add_le {classpath : Classpath} {seen : List String} {path : String}
    {decl : TypeDecl} (known : classpath.type? path = some decl) (fresh : ¬seen.contains path) :
    classpath.unseenLinks (path :: seen) + decl.supertypes.length ≤ classpath.unseenLinks seen := by
  have links : decl.supertypes.length = (classpath.supertypes path).length := by
    rw [supertypes, known]
    rfl
  rw [unseenLinks, unseenLinks, unseen_cons, links]
  exact length_flatMap_filter_ne_add_le _
    (List.mem_filter.2 ⟨mem_paths_of_type? known, by simpa using fresh⟩)

/-- Seeing a path leaves no more links to follow. -/
theorem unseenLinks_cons_le (classpath : Classpath) (seen : List String) (path : String) :
    classpath.unseenLinks (path :: seen) ≤ classpath.unseenLinks seen := by
  rw [unseenLinks, unseenLinks, unseen_cons]
  exact length_flatMap_filter_ne_le ..

/-- Searches the pending paths in order, adding the supertypes of each behind them. `gaps` tells
whether a gap was met. -/
def searchFrom (classpath : Classpath) (name : String) (kind : MemberKind)
    (seen : List String) (gaps : Bool) (pending : List String) : SearchResult :=
  match pending with
  | [] => if gaps then .gap else .absent
  | path :: pending =>
    if _fresh : seen.contains path then
      classpath.searchFrom name kind seen gaps pending
    else
      match _known : classpath.type? path with
      | none => classpath.searchFrom name kind (path :: seen) true pending
      | some decl =>
        match decl.member? name kind with
        | some member => .found ⟨decl.path, some member.type⟩
        | none =>
          classpath.searchFrom name kind (path :: seen) (gaps || !decl.complete)
            (pending ++ decl.supertypes)
termination_by classpath.unseenLinks seen + pending.length
decreasing_by
  · simp
  · have := classpath.unseenLinks_cons_le seen path
    simp only [List.length_cons]
    omega
  · have := unseenLinks_cons_add_le _known _fresh
    simp only [List.length_append, List.length_cons]
    omega

/-- The type that declares a member of `owner`, itself included. -/
def findMember (classpath : Classpath) (owner name : String) (kind : MemberKind) :
    Except Unresolved Attribution :=
  if classpath.knows owner then
    match classpath.searchFrom name kind [] false [owner] with
    | .found attribution => .ok attribution
    | .gap => .ok ⟨owner, none⟩
    | .absent => .error (.member owner name)
  else .error (.type owner)

end SymbolIndex.Classpath
