import Criteria.Value
import Criteria.Text.Quoted
/-!
# Failures of reading

A document can be malformed, end too early, or be well formed and of the wrong shape. The first
failure in reading order decides.
-/
namespace Criteria.Json

inductive Found
  | null
  | bool (b : Bool)
  | number (n : Number)
  | text (s : String)
  | list
  | object
deriving DecidableEq, Repr

namespace Found

def description : Found → String
  | null => "null"
  | bool b => s!"boolean `{Value.flagText b}`"
  | number (.integer n) => s!"integer `{n}`"
  | number (.real x) => s!"floating point `{String.ofList x.documentText}`"
  | text s => s!"string {Text.quotation s}"
  | list => "sequence"
  | object => "map"

end Found

inductive Mismatch
  | wrongKind (found : Found) (expected : String)
  | missingField (name : String)
  | duplicateField (name : String)
  | tooShort (length : Nat) (record : String) (fields : Nat)
deriving DecidableEq, Repr

namespace Mismatch

def message : Mismatch → String
  | wrongKind found expected => s!"invalid type: {found.description}, expected {expected}"
  | missingField name => s!"missing field `{name}`"
  | duplicateField name => s!"duplicate field `{name}`"
  | tooShort length record fields =>
    s!"invalid length {length}, expected {record} with {fields} elements"

end Mismatch

inductive Failure
  | malformed
  | truncated
  | mismatch (m : Mismatch)
deriving DecidableEq, Repr

def Failure.message : Failure → String
  | malformed => "malformed document"
  | truncated => "the document ends early"
  | mismatch m => m.message

end Criteria.Json
