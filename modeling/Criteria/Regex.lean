import Criteria.Regex.Reader
/-!
# Regular expressions

A text is searched for a part that fits a pattern.
-/
namespace Criteria.Regex

def isPattern (pattern : String) : Bool :=
  (read? pattern.toList).isSome

/-- Whether some part of a text fits a pattern; nothing fits a text that is no pattern. -/
def search (pattern text : String) : Bool :=
  match read? pattern.toList with
  | some e => e.matchesIn text.toList
  | none => false

end Criteria.Regex
