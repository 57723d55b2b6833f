import Criteria.Binary64.Numeral
import Criteria.Calendar
import Criteria.EmailPattern
import Criteria.IpPattern
import Criteria.Operator
import Criteria.Regex
import Criteria.Value
/-!
# Comparison

How a live value compares with a threshold, for each family of types: as texts, numbers, truth
values, days, times, sets of texts, tags and addresses. A value that a family cannot read, and an
operator that it does not know, compare false.
-/
namespace Criteria

def TextRelation.holds (r : TextRelation) (text pattern : String) : Bool :=
  match r with
  | .exact => text == pattern
  | .starts => pattern.toList.isPrefixOf text.toList
  | .ends => pattern.toList.isSuffixOf text.toList
  | .contains => Text.occursIn pattern.toList text.toList

namespace Value

/-- The finite number of a number, or of a text that is one apart from blanks. -/
def finite? : Value → Option Binary64
  | number n => n.toBinary64?
  | text s => Binary64.readFinite? (Text.stripBlanks s.toList)
  | _ => none

def date? (v : Value) : Option Date :=
  v.text?.bind Date.parse?

def time? (v : Value) : Option TimeOfDay :=
  v.text?.bind TimeOfDay.parse?

/-- The texts of a value as a set: none for null, one for a scalar, those of the items for a list of
scalars. -/
def textSet? : Value → Option (List String)
  | null => some []
  | list items => items.mapM scalarText?
  | v => v.scalarText?.map fun s => [s]

/-- The patterns of a threshold: a text is one, a list has those of its items that are texts. -/
def patterns : Value → List String
  | text s => [s]
  | list items => items.filterMap text?
  | _ => []

end Value

namespace Comparison

def text (op : Operator) (live threshold : Value) : Bool :=
  match op with
  | .empty => !live.truthy
  | .notEmpty => live.truthy
  | _ =>
    match live.scalarText?, threshold.scalarText? with
    | some s, some t =>
      match op with
      | .equal => TextRelation.exact.holds s t
      | .notEqual => !TextRelation.exact.holds s t
      | .contains => TextRelation.contains.holds s t
      | .notContains => !TextRelation.contains.holds s t
      | .startsWith => TextRelation.starts.holds s t
      | .endsWith => TextRelation.ends.holds s t
      | .regex => Regex.search t s
      | _ => false
    | _, _ => false

/-- Numbers; equality allows for the last bit. -/
def number (op : Operator) (live threshold : Value) : Bool :=
  match live.finite?, threshold.finite? with
  | some x, some y =>
    match op with
    | .equal => x.agrees y
    | .notEqual => !x.agrees y
    | _ => op.ordered (compare x.amount y.amount)
  | _, _ => false

/-- Truth values; there is no threshold. -/
def boolean (op : Operator) (live : Value) : Bool :=
  match op with
  | .yes => live.truthy
  | .no => !live.truthy
  | _ => false

def date (op : Operator) (live threshold : Value) : Bool :=
  match live.date?, threshold.date? with
  | some a, some b => op.ordered (a.compare b)
  | _, _ => false

def time (op : Operator) (live threshold : Value) : Bool :=
  match live.time?, threshold.time? with
  | some a, some b => op.ordered (a.compare b)
  | _, _ => false

def select (op : Operator) (live threshold : Value) : Bool :=
  match live.scalarText?, threshold.scalarText? with
  | some s, some t =>
    match op with
    | .equal => s == t
    | .notEqual => s != t
    | _ => false
  | _, _ => false

/-- Sets of choices; an empty threshold compares false. -/
def set (op : Operator) (live threshold : Value) : Bool :=
  match live.textSet?, threshold.textSet? with
  | some ss, some ts =>
    if ts.isEmpty then false
    else
      match op with
      | .anyOf => ts.any ss.contains
      | .noneOf => !ts.any ss.contains
      | .allOf => ts.all ss.contains
      | _ => false
  | _, _ => false

/-- A text against patterns that are not empty, of which some has to match or none may. -/
def tags (op : Operator) (live threshold : Value) : Bool :=
  match op.tagParts?, live.scalarText? with
  | some (any, relation), some s =>
    let patterns := threshold.patterns.filter fun p => !p.isEmpty
    if patterns.isEmpty then false else patterns.any (relation.holds s) == any
  | _, _ => false

/-- Whether a live text fits one of the patterns; those that cannot be checked do not count, and
without any other the answer is open. -/
def fitsAny? (check? : String → String → Option Bool) (live threshold : Value) : Option Bool := do
  let s ← live.text?
  let results := threshold.patterns.filterMap (check? s)
  if results.isEmpty then none else some (results.any id)

def ip (op : Operator) (live threshold : Value) : Bool :=
  match op with
  | .ipMatch => fitsAny? IpPattern.check? live threshold == some true
  | .ipNotMatch => fitsAny? IpPattern.check? live threshold == some false
  | _ => false

def email (op : Operator) (live threshold : Value) : Bool :=
  match op with
  | .emailMatch => fitsAny? EmailPattern.check? live threshold == some true
  | .emailNotMatch => fitsAny? EmailPattern.check? live threshold == some false
  | _ => false

end Comparison
end Criteria
