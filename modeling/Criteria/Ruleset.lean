import Criteria.Json.Decoder
import Criteria.Operator
/-!
# Rulesets

A rule compares one condition with an authored value, a group holds when all of its rules do, and a
ruleset matches when one of its groups holds. Rulesets are read from documents and written back.
-/
namespace Criteria

/-- The operator is kept as it was written; a name that is no operator spoils this rule alone. -/
structure Rule where
  id : String
  condition : String
  operator : String
  value : Value
deriving Inhabited

namespace Rule

def operator? (r : Rule) : Option Operator :=
  Operator.parse? r.operator

def document (r : Rule) : Value :=
  .object [("id", .text r.id), ("condition", .text r.condition), ("operator", .text r.operator),
    ("value", r.value)]

structure Draft where
  id : Option String := none
  condition : Option String := none
  operator : Option String := none
  value : Option Value := none

def Draft.rule (d : Draft) : Rule where
  id := d.id.getD ""
  condition := d.condition.getD ""
  operator := d.operator.getD ""
  value := d.value.getD .null

/-- The fields of a rule; the identifier and the value may be left out. -/
def fields : List (Json.Field Draft) :=
  [.of "id" false Draft.id (fun d s => { d with id := some s }) Json.Decoder.text,
    .of "condition" true Draft.condition (fun d s => { d with condition := some s })
      Json.Decoder.text,
    .of "operator" true Draft.operator (fun d s => { d with operator := some s })
      Json.Decoder.text,
    .of "value" false Draft.value (fun d v => { d with value := some v }) Json.Decoder.value]

def decoder : Json.Decoder Rule :=
  (Json.Decoder.record "struct Rule" fields {}).map Draft.rule

end Rule

/-- Rules that have to hold together. -/
abbrev Group := List Rule

/-- The groups are alternatives. -/
structure Ruleset where
  id : String
  title : String
  enabled : Bool
  groups : List Group
  metadata : Table Value
deriving Inhabited

namespace Ruleset

def ruleCount (r : Ruleset) : Nat :=
  r.groups.flatten.length

def document (r : Ruleset) : Value :=
  .object [("id", .text r.id), ("title", .text r.title), ("enabled", .bool r.enabled),
    ("groups", .list (r.groups.map fun g => .list (g.map Rule.document))),
    ("meta", .object r.metadata)]

structure Draft where
  id : Option String := none
  title : Option String := none
  enabled : Option Bool := none
  groups : Option (List Group) := none
  metadata : Option (Table Value) := none

/-- The finished ruleset; one that says nothing else is enabled. -/
def Draft.ruleset (d : Draft) : Ruleset where
  id := d.id.getD ""
  title := d.title.getD ""
  enabled := d.enabled.getD true
  groups := d.groups.getD []
  metadata := d.metadata.getD []

/-- The fields of a ruleset, of which only the identifier is required. -/
def fields : List (Json.Field Draft) :=
  [.of "id" true Draft.id (fun d s => { d with id := some s }) Json.Decoder.text,
    .of "title" false Draft.title (fun d s => { d with title := some s }) Json.Decoder.text,
    .of "enabled" false Draft.enabled (fun d b => { d with enabled := some b })
      Json.Decoder.bool,
    .of "groups" false Draft.groups (fun d gs => { d with groups := some gs })
      (.list (.list Rule.decoder)),
    .of "meta" false Draft.metadata (fun d t => { d with metadata := some t })
      (.table Json.Decoder.value)]

def decoder : Json.Decoder Ruleset :=
  (Json.Decoder.record "struct Ruleset" fields {}).map Draft.ruleset

def ofText (s : String) : Except Json.Failure Ruleset :=
  Json.decode decoder s

end Ruleset
end Criteria
