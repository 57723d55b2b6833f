import Criteria.Operator
import Criteria.Value
/-!
# Value types

The fourteen types of a condition, their written names, the operators that each can compare with,
and the value that stands for an absent argument.
-/
namespace Criteria

inductive ValueType
  | text
  | number
  | numberWithUnit
  | textWithUnit
  | singleSelect
  | multiSelect
  | boolean
  | date
  | time
  | ipPattern
  | emailPattern
  | tagSet
  | referentialSingle
  | referentialMulti
deriving DecidableEq, Repr

namespace ValueType

def all : List ValueType :=
  [text, number, numberWithUnit, textWithUnit, singleSelect, multiSelect, boolean, date, time,
    ipPattern, emailPattern, tagSet, referentialSingle, referentialMulti]

def name : ValueType → String
  | text => "text"
  | number => "number"
  | numberWithUnit => "number-with-unit"
  | textWithUnit => "text-with-unit"
  | singleSelect => "single-select"
  | multiSelect => "multi-select"
  | boolean => "boolean"
  | date => "date"
  | time => "time"
  | ipPattern => "ip-pattern"
  | emailPattern => "email-pattern"
  | tagSet => "tag-set"
  | referentialSingle => "referential-single"
  | referentialMulti => "referential-multi"

def ofName? (s : String) : Option ValueType :=
  all.find? fun t => t.name == s

/-- Underscores count as hyphens in a type name. -/
def hyphenated (c : Char) : Char :=
  if c = '_' then '-' else c

/-- Read a type name: blanks around it, ASCII case, and underscores for hyphens do not matter. -/
def parse? (s : String) : Option ValueType :=
  ofName? (String.ofList ((Text.stripBlanks s.toList).map fun c => hyphenated c.toLower))

def unknownMessage (text : String) : String :=
  s!"未知的值类型: {text}"

/-- The operators that a type can compare with, which are also those it allows by default. -/
def operators : ValueType → List Operator
  | text | textWithUnit =>
    [.equal, .notEqual, .contains, .notContains, .startsWith, .endsWith, .empty, .notEmpty, .regex]
  | number | numberWithUnit | date => [.equal, .notEqual, .greater, .less, .atLeast, .atMost]
  | time => [.equal, .notEqual, .greater, .less]
  | singleSelect | referentialSingle => [.equal, .notEqual]
  | multiSelect | referentialMulti => [.anyOf, .noneOf, .allOf]
  | boolean => [.yes, .no]
  | ipPattern => [.ipMatch, .ipNotMatch]
  | emailPattern => [.emailMatch, .emailNotMatch]
  | tagSet =>
    [.anyEnds, .anyStarts, .anyContains, .anyExact, .noneEnds, .noneStarts, .noneContains,
      .noneExact]

def supports (t : ValueType) (op : Operator) : Bool :=
  t.operators.contains op

/-- The member of an authored object that is compared, for the types whose thresholds carry a
unit. -/
def measure? : ValueType → Option String
  | numberWithUnit => some "number"
  | textWithUnit => some "text"
  | _ => none

def isUnitQualified (t : ValueType) : Bool :=
  t.measure?.isSome

def zero : ValueType → Value
  | number | numberWithUnit => .nat 0
  | boolean => .bool false
  | multiSelect | referentialMulti => .list []
  | _ => .text ""

end ValueType
end Criteria
