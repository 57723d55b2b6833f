import Criteria.Settings.Setting
/-!
# Tables under construction

While a configuration is read, a table remembers how it came to be: a header opens each table once,
keys with points may extend only what such keys have made, and a value in braces is closed.
-/
namespace Criteria.Toml

/-- How a table came to be: under its own header, on the way to another header, or on the way of a
key with points. -/
inductive Making
  | header
  | passing
  | dotted
deriving DecidableEq, Repr

/-- A closed setting, an open table, or the tables of a repeated header. -/
inductive Node
  | closed (s : Setting)
  | table (making : Making) (entries : List (String × Node))
  | repeated (tables : List (List (String × Node)))
deriving Inhabited

namespace Node

mutual

def setting : Node → Setting
  | closed s => s
  | table _ es => .table (settingsOf es)
  | repeated ts => .list (listOf ts)

def settingsOf : List (String × Node) → List (String × Setting)
  | [] => []
  | (k, n) :: rest => (k, n.setting) :: settingsOf rest

def listOf : List (List (String × Node)) → List Setting
  | [] => []
  | es :: rest => .table (settingsOf es) :: listOf rest

end

/-- An edit of the entries of a table that came to be in a given way. -/
abbrev Edit := Making → Table Node → Option (Table Node)

/-- Edit the table at the end of a path. What is missing on the way is made as `made`. A path leads
to the last table of a repeated header, and into no closed setting; one that is made of a key with
points leads into no table that has a header. -/
def editAt (made : Making) (edit : Edit) : (path : List String) → Edit
  | [], making, es => edit making es
  | key :: path, _, es =>
    match es.find? key with
    | none => (editAt made edit path made []).map fun inner => es.insert key (table made inner)
    | some (closed _) => none
    | some (table making inner) =>
      if made = .dotted ∧ making = .header then none
      else
        (editAt made edit path making inner).map fun inner => es.insert key (table making inner)
    | some (repeated ts) =>
      match ts.getLast? with
      | none => none
      | some last =>
        (editAt made edit path .header last).map fun last =>
          es.insert key (repeated (ts.dropLast ++ [last]))

/-- Add an entry under a new key. A key with points ends in a table that such keys have made, and a
plain key in one that they have not. -/
def add (plain : Bool) (key : String) (n : Node) : Edit := fun making es =>
  if (making = .dotted) = plain ∨ (es.find? key).isSome then none
  else some (es.insert key n)

/-- Add an entry under the parts of a key with points. -/
def addAt (keys : List String) (n : Node) : Edit := fun making es =>
  match keys.getLast? with
  | none => none
  | some key =>
    let path := keys.dropLast
    editAt .dotted (add path.isEmpty key n) path making es

/-- Open the table of a header: a new one, or one that was only passed so far. -/
def openTable (key : String) : Edit := fun _ es =>
  match es.find? key with
  | none => some (es.insert key (table .header []))
  | some (table .passing inner) => some (es.insert key (table .header inner))
  | some _ => none

/-- Open one more table of a repeated header. -/
def openRepeated (key : String) : Edit := fun _ es =>
  match es.find? key with
  | none => some (es.insert key (repeated [[]]))
  | some (repeated ts) => some (es.insert key (repeated (ts ++ [[]])))
  | some _ => none

end Node
end Criteria.Toml
