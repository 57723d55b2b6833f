import Criteria.Condition
import Criteria.Json.Decoder
/-!
# Declarations

Conditions as a document declares them. A declared condition reads one context key, which is its
name when no other is given.
-/
namespace Criteria

/-- Type and operators are kept as they were written. -/
structure Declaration where
  name : String
  label : Option String
  group : Option String
  type : String
  operators : Option (List String)
  argument : Option String
  required : List String
deriving Inhabited

namespace Declaration

/-- The fields of a declaration that have been read so far. A field that was read as null is there
and empty. -/
structure Draft where
  name : Option String := none
  label : Option (Option String) := none
  group : Option (Option String) := none
  type : Option String := none
  operators : Option (Option (List String)) := none
  argument : Option (Option String) := none
  required : Option (List String) := none

def Draft.declaration (d : Draft) : Declaration where
  name := d.name.getD ""
  label := d.label.join
  group := d.group.join
  type := d.type.getD ""
  operators := d.operators.join
  argument := d.argument.join
  required := d.required.getD []

/-- The fields of a declaration, of which the name and the type are required. -/
def fields : List (Json.Field Draft) :=
  [.of "name" true Draft.name (fun d s => { d with name := some s }) Json.Decoder.text,
    .of "label" false Draft.label (fun d s => { d with label := some s })
      (.optional Json.Decoder.text),
    .of "group" false Draft.group (fun d s => { d with group := some s })
      (.optional Json.Decoder.text),
    .of "type" true Draft.type (fun d s => { d with type := some s }) Json.Decoder.text,
    .of "operators" false Draft.operators (fun d ss => { d with operators := some ss })
      (.optional (.list Json.Decoder.text)),
    .of "argument" false Draft.argument (fun d s => { d with argument := some s })
      (.optional Json.Decoder.text),
    .of "required" false Draft.required (fun d ss => { d with required := some ss })
      (.list Json.Decoder.text)]

def decoder : Json.Decoder Declaration :=
  (Json.Decoder.record "struct ConditionSpec" fields {}).map Draft.declaration

def ofText (s : String) : Except Json.Failure Declaration :=
  Json.decode decoder s

end Declaration
end Criteria
