import Criteria.Text.Blank
/-!
# Operators

The thirty comparison operators, their written names, and how a tag operator splits into a polarity
and a way of matching.
-/
namespace Criteria

inductive TextRelation
  | exact
  | starts
  | ends
  | contains
deriving DecidableEq, Repr

inductive Operator
  | equal
  | notEqual
  | greater
  | less
  | atLeast
  | atMost
  | contains
  | notContains
  | startsWith
  | endsWith
  | regex
  | empty
  | notEmpty
  | yes
  | no
  | anyOf
  | noneOf
  | allOf
  | anyEnds
  | anyStarts
  | anyContains
  | anyExact
  | noneEnds
  | noneStarts
  | noneContains
  | noneExact
  | ipMatch
  | ipNotMatch
  | emailMatch
  | emailNotMatch
deriving DecidableEq, Repr

namespace Operator

def all : List Operator :=
  [equal, notEqual, greater, less, atLeast, atMost, contains, notContains, startsWith, endsWith,
    regex, empty, notEmpty, yes, no, anyOf, noneOf, allOf, anyEnds, anyStarts, anyContains,
    anyExact, noneEnds, noneStarts, noneContains, noneExact, ipMatch, ipNotMatch, emailMatch,
    emailNotMatch]

def name : Operator → String
  | equal => "=="
  | notEqual => "!="
  | greater => ">"
  | less => "<"
  | atLeast => ">="
  | atMost => "<="
  | contains => "contains"
  | notContains => "not_contains"
  | startsWith => "starts_with"
  | endsWith => "ends_with"
  | regex => "regex"
  | empty => "empty"
  | notEmpty => "not_empty"
  | yes => "yes"
  | no => "no"
  | anyOf => "any"
  | noneOf => "none"
  | allOf => "all"
  | anyEnds => "any_ends"
  | anyStarts => "any_starts"
  | anyContains => "any_contains"
  | anyExact => "any_exact"
  | noneEnds => "none_ends"
  | noneStarts => "none_starts"
  | noneContains => "none_contains"
  | noneExact => "none_exact"
  | ipMatch => "ip_match"
  | ipNotMatch => "ip_not_match"
  | emailMatch => "email_match"
  | emailNotMatch => "email_not_match"

def ofName? (s : String) : Option Operator :=
  all.find? fun op => op.name == s

def parse? (s : String) : Option Operator :=
  ofName? (Text.trim s)

def unknownMessage (text : String) : String :=
  s!"未知的操作符: {text}"

/-- These operators look at the live value alone. -/
def ignoresThreshold : Operator → Bool
  | empty | notEmpty | yes | no => true
  | _ => false

/-- A tag operator: whether some pattern has to match or none may, and how a pattern matches. -/
def tagParts? : Operator → Option (Bool × TextRelation)
  | anyEnds => some (true, .ends)
  | anyStarts => some (true, .starts)
  | anyContains => some (true, .contains)
  | anyExact => some (true, .exact)
  | noneEnds => some (false, .ends)
  | noneStarts => some (false, .starts)
  | noneContains => some (false, .contains)
  | noneExact => some (false, .exact)
  | _ => none

/-- The six operators on an ordered kind; all others compare false. -/
def ordered (op : Operator) (o : Ordering) : Bool :=
  match op with
  | equal => o == .eq
  | notEqual => o != .eq
  | greater => o == .gt
  | less => o == .lt
  | atLeast => o != .lt
  | atMost => o != .gt
  | _ => false

end Operator
end Criteria
