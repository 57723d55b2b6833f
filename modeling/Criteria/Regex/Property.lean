import Criteria.Regex.CharSet
import Criteria.Unicode.Script
/-!
# Classes by property

The names in a class by property: a general category, a script or a binary property alone, or the
value of one of the properties that have values.
-/
namespace Criteria.Regex

open Text

/-- Case, blanks, hyphens, underscores and a leading `is` do not matter in a name. -/
def looseName (cs : List Char) : String :=
  let lower (cs : List Char) : List Char :=
    (cs.filter fun c => c.toNat < 0x80 && c != ' ' && c != '_' && c != '-').map Char.toLower
  match cs with
  | a :: b :: rest =>
    if a.toLower = 'i' ∧ b.toLower = 's' then
      if lower rest = ['c'] then "isc" else String.ofList (lower rest)
    else String.ofList (lower cs)
  | _ => String.ofList (lower cs)

structure PropertyQuery where
  negated : Bool
  property : Option String
  value : String
deriving DecidableEq, Repr

namespace PropertyQuery

def splitUnequal : List Char → Option (List Char × List Char)
  | '!' :: '=' :: cs => some ([], cs)
  | c :: cs => (splitUnequal cs).map fun (front, back) => (c :: front, back)
  | [] => none

/-- A name alone, or a property and its value with `!=`, a colon or `=` between them. -/
def ofText (cs : List Char) : PropertyQuery :=
  match splitUnequal cs with
  | some (p, v) => ⟨true, some (looseName p), looseName v⟩
  | none =>
    match (splitOnce ':' cs).or (splitOnce '=' cs) with
    | some (p, v) => ⟨false, some (looseName p), looseName v⟩
    | none => ⟨false, none, looseName cs⟩

/-- A general category, or one of three sets that are no categories. -/
def category? (name : String) : Option CharSet :=
  match name with
  | "any" => some (.complement .empty)
  | "ascii" => some (.range '\x00' '\x7f')
  | "assigned" => (Unicode.category? "cn").map fun rs => .complement (.ranges rs)
  | _ => (Unicode.category? name).map .ranges

def set? (q : PropertyQuery) : Option CharSet :=
  match q.property with
  | none =>
    (((Unicode.property? q.value).map CharSet.ranges).or (category? q.value)).or
      ((Unicode.script? q.value).map .ranges)
  | some p =>
    if p = "gc" ∨ p = "generalcategory" then category? q.value
    else if p = "sc" ∨ p = "script" then (Unicode.script? q.value).map .ranges
    else if p = "scx" ∨ p = "scriptextensions" then (Unicode.sharedScript? q.value).map .ranges
    else none

end PropertyQuery
end Criteria.Regex
