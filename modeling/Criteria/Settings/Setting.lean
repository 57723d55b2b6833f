import Criteria.Binary64.Numeral
import Criteria.Binary64.Shortest
import Criteria.Table
import Criteria.Value
/-!
# Settings as data

The values that a configuration holds, how a later layer is laid over an earlier one, the paths that
name a place in them, and how a scalar is read as a text or as a flag.
-/
namespace Criteria

inductive Setting
  | absent
  | flag (b : Bool)
  | integer (n : Int)
  | real (r : Binary64.Reading)
  | text (s : String)
  | list (items : List Setting)
  | table (entries : List (String × Setting))
deriving Inhabited

namespace Setting

/-- The entries of a table; any other setting has none. -/
def entries : Setting → Table Setting
  | table es => es
  | _ => []

/-- The items of a list; any other setting has none. -/
def items : Setting → List Setting
  | list xs => xs
  | _ => []

def entry (s : Setting) (name : String) : Setting :=
  (s.entries.find? name).getD absent

/-- Whether an integer is in range: from -2^63 below 2^63. -/
def isInteger (n : Int) : Bool :=
  -0x8000000000000000 ≤ n && n < 0x8000000000000000

mutual

/-- Lay a setting over another one. Tables are joined entry by entry, all else is replaced. -/
def laidOver (below : Setting) : Setting → Setting
  | table es => table (entriesOver below.entries es)
  | above => above

def entriesOver (below : Table Setting) : List (String × Setting) → Table Setting
  | [] => below
  | (k, v) :: rest =>
    entriesOver (below.insert k (laidOver ((below.find? k).getD absent) v)) rest

end

/-! ### Paths -/

/-- A step of a path: to the entry of a name, or to an item, counted from the end when negative. -/
inductive Step
  | name (s : String)
  | position (i : Int)
deriving DecidableEq, Repr

/-- The items with room for a position, and that position as a natural number. -/
def roomAt (i : Int) (xs : List Setting) : List Setting × Nat :=
  if 0 ≤ i then (xs ++ List.replicate (i.toNat + 1 - xs.length) absent, i.toNat)
  else if i.natAbs ≤ xs.length then (xs, xs.length - i.natAbs)
  else (List.replicate (i.natAbs - xs.length) absent ++ xs, 0)

/-- Lay a setting over the place that a path leads to; what is missing on the way is made. -/
def put (v : Setting) : List Step → Setting → Setting
  | [], below => laidOver below v
  | .name k :: path, below => table (below.entries.insert k (put v path (below.entry k)))
  | .position i :: path, below =>
    let (xs, n) := roomAt i below.items
    list (xs.modify n (put v path))

def isNameChar (c : Char) : Bool :=
  c.isAlphanum || c == '_' || c == '-'

def spanName? (cs : List Char) : Option (String × List Char) :=
  let name := cs.takeWhile isNameChar
  if name.isEmpty then none else some (String.ofList name, cs.drop name.length)

/-- A position and its closing bracket at the front; spaces may stand around the position. -/
def spanPosition? (cs : List Char) : Option (Int × List Char) :=
  let isSpace (c : Char) : Bool := c == ' ' || c == '\t'
  let cs := cs.dropWhile isSpace
  let (negative, body) := match cs with
    | '-' :: rest => (true, rest)
    | _ => (false, cs)
  let (ds, rest) := Text.spanDigits body
  let n : Int := Text.digitsValue ds
  let i := if negative then -n else n
  match rest.dropWhile isSpace with
  | ']' :: rest =>
    if ds.isEmpty || !isInteger i then none else some (i, rest)
  | _ => none

def stepsFrom? : (fuel : Nat) → List Char → Option (List Step)
  | _, [] => some []
  | 0, _ => none
  | fuel + 1, '.' :: cs => do
    let (name, cs) ← spanName? cs
    return .name name :: (← stepsFrom? fuel cs)
  | fuel + 1, '[' :: cs => do
    let (i, cs) ← spanPosition? cs
    return .position i :: (← stepsFrom? fuel cs)
  | _, _ => none

/-- The path that a key spells; a key that spells none is a name as a whole. -/
def pathOf (key : String) : List Step :=
  let path? : Option (List Step) := do
    let (name, cs) ← spanName? key.toList
    return .name name :: (← stepsFrom? cs.length cs)
  path?.getD [.name key]

/-- Lay the entries of a source over a setting, each at the place that its key spells. -/
def withSource (below : Setting) (source : Table Setting) : Setting :=
  source.foldl (fun s (key, v) => put v (pathOf key) s) below

/-! ### Scalars -/

/-- The text of a number, which may be infinite or none. -/
def realText : Binary64.Reading → String
  | .finite x => String.ofList x.plainText
  | .infinite negative => if negative then "-inf" else "inf"
  | .notANumber => "NaN"

def asText? : Setting → Option String
  | text s => some s
  | flag b => some (Value.flagText b)
  | integer n => some (toString n)
  | real r => some (realText r)
  | _ => none

/-- The flag that a word stands for, in any case. -/
def wordFlag? (s : String) : Option Bool :=
  let word := String.ofList (s.toList.map Char.toLower)
  if ["1", "true", "on", "yes"].contains word then some true
  else if ["0", "false", "off", "no"].contains word then some false
  else none

/-- A scalar as a flag; a number is true unless it is zero. -/
def asFlag? : Setting → Option Bool
  | flag b => some b
  | integer n => some (n != 0)
  | real (.finite x) => some (!x.isZero)
  | real _ => some true
  | text s => wordFlag? s
  | _ => none

/-- The integer of a text: digits after an optional sign, in the range of 64 bits. -/
def wordInteger? (cs : List Char) : Option Int :=
  let (negative, ds) := Binary64.spanSign cs
  let n : Int := Text.digitsValue ds
  let i := if negative then -n else n
  if ds.isEmpty || !ds.all Char.isDigit || !isInteger i then none else some i

/-- The setting that a bare text stands for: a flag, an integer, a number, or the text itself. -/
def ofBareText (s : String) : Setting :=
  let word := String.ofList (s.toList.map Char.toLower)
  if word = "true" then flag true
  else if word = "false" then flag false
  else
    match wordInteger? s.toList, Binary64.read? s.toList with
    | some n, _ => integer n
    | none, some r => real r
    | none, none => text s

end Setting
end Criteria
