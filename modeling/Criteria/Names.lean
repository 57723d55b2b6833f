/-!
# Sets of names

Lists of distinct names in increasing order. Main statement: a name is in the set after an
insertion exactly when it was there before or is the inserted one.
-/
namespace Criteria

/-- Distinct names in the order of their code points. -/
abbrev Names := List String

namespace Names

def insert : Names → String → Names
  | [], name => [name]
  | k :: rest, name =>
    if k = name then k :: rest
    else if name < k then name :: k :: rest
    else k :: insert rest name

def insertAll (names : Names) (added : List String) : Names :=
  added.foldl insert names

def ofList (names : List String) : Names :=
  insertAll [] names

@[simp] theorem mem_insert {names : Names} {name other : String} :
    other ∈ names.insert name ↔ other ∈ names ∨ other = name := by
  induction names with
  | nil => simp [insert]
  | cons k rest ih =>
    simp only [insert]
    split
    · next h => subst h; simp only [List.mem_cons]; grind
    · split <;> simp only [List.mem_cons, ih] <;> grind

theorem mem_insertAll {names : Names} {added : List String} {other : String} :
    other ∈ names.insertAll added ↔ other ∈ names ∨ other ∈ added := by
  induction added generalizing names with
  | nil => simp [insertAll]
  | cons k rest ih =>
    have : names.insertAll (k :: rest) = (names.insert k).insertAll rest := rfl
    rw [this, ih, mem_insert, List.mem_cons]
    grind

@[simp] theorem mem_ofList {names : List String} {name : String} :
    name ∈ ofList names ↔ name ∈ names := by
  rw [ofList, mem_insertAll]
  simp

end Names
end Criteria
