import Criteria.Binary64.Shortest
import Criteria.Table
/-!
# Values

The dynamic values that contexts, rules and metadata hold, and the two ways of reading a scalar:
as a text and as a number.
-/
namespace Criteria

/-- An integer in the range from -2^63 below 2^64, or a binary64 number. The two never agree. -/
inductive Number
  | integer (n : Int)
  | real (x : Binary64)
deriving DecidableEq, Repr

namespace Number

def text : Number → List Char
  | integer n => (toString n).toList
  | real x => x.documentText

/-- The number as binary64, rounded when it is a large integer. -/
def toBinary64? : Number → Option Binary64
  | integer n => Binary64.ofInt? n
  | real x => some x

/-- Integers agree when they are equal, reals when their values are equal, so that both zeros do. -/
def agrees : Number → Number → Bool
  | integer m, integer n => m == n
  | real x, real y => x.amount == y.amount
  | _, _ => false

end Number

/-- A document value. The members of an object that was read stand under distinct names in increasing
order; those of a record that is written stand in the order of its fields. -/
inductive Value
  | null
  | bool (b : Bool)
  | number (n : Number)
  | text (s : String)
  | list (items : List Value)
  | object (members : List (String × Value))
deriving Repr, Inhabited

namespace Value

def nat (n : Nat) : Value :=
  number (.integer n)

def texts (ss : List String) : Value :=
  list (ss.map text)

def member? : Value → String → Option Value
  | object members, name => Table.find? members name
  | _, _ => none

mutual

/-- Equality up to the sign of zero. -/
def agrees : Value → Value → Bool
  | null, null => true
  | bool a, bool b => a == b
  | number m, number n => m.agrees n
  | text s, text t => s == t
  | list xs, list ys => agreesList xs ys
  | object xs, object ys => agreesMembers xs ys
  | _, _ => false

def agreesList : List Value → List Value → Bool
  | [], [] => true
  | x :: xs, y :: ys => agrees x y && agreesList xs ys
  | _, _ => false

def agreesMembers : List (String × Value) → List (String × Value) → Bool
  | [], [] => true
  | (k, x) :: xs, (l, y) :: ys => k == l && agrees x y && agreesMembers xs ys
  | _, _ => false

end

instance : BEq Value := ⟨agrees⟩

def flagText (b : Bool) : String :=
  if b then "true" else "false"

def scalarText? : Value → Option String
  | text s => some s
  | number n => some (String.ofList n.text)
  | bool b => some (flagText b)
  | _ => none

/-- Null, false, zero and everything empty are false; all other values are true. -/
def truthy : Value → Bool
  | null => false
  | bool b => b
  | number (.integer n) => n != 0
  | number (.real x) => !x.isZero
  | text s => !s.isEmpty
  | list items => !items.isEmpty
  | object members => !members.isEmpty

def text? : Value → Option String
  | text s => some s
  | _ => none

end Value
end Criteria
