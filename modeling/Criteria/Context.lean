import Criteria.Json.Decoder
import Criteria.Text.Pieces
/-!
# Contexts

The facts that a caller provides: named values, which a key reaches either as a whole or as a path
of names and positions with points between them.
-/
namespace Criteria

/-- The position that a path segment denotes: digits after an optional plus sign. -/
def position? (cs : List Char) : Option Nat :=
  let ds := match cs with
    | '+' :: rest => rest
    | _ => cs
  if ds.isEmpty || !ds.all Char.isDigit then none else some (Text.digitsValue ds)

def Value.part? : Value → List Char → Option Value
  | .object members, name => Table.find? members (String.ofList name)
  | .list items, name => (position? name).bind (items[·]?)
  | _, _ => none

structure Context where
  data : Table Value
deriving Inhabited

namespace Context

def empty : Context := ⟨[]⟩

def ofText (s : String) : Except Json.Failure Context :=
  (Json.decode (Json.Decoder.table Json.Decoder.value) s).map fun t => ⟨t⟩

def follow? (c : Context) : List (List Char) → Option Value
  | [] => none
  | name :: path =>
    (c.data.find? (String.ofList name)).bind fun v =>
      path.foldlM (fun v segment => v.part? segment) v

/-- The value of a key: the entry of that very name, or else the end of the path that it spells. -/
def get? (c : Context) (key : String) : Option Value :=
  match c.data.find? key with
  | some v => some v
  | none => if key.toList.contains '.' then c.follow? (Text.splitOn '.' key.toList) else none

/-- Whether a key has a value, which may be null. -/
def has (c : Context) (key : String) : Bool :=
  (c.get? key).isSome

def insert (c : Context) (key : String) (v : Value) : Context :=
  ⟨c.data.insert key v⟩

def overlay (c : Context) (above : Table Value) : Context :=
  ⟨c.data.overlay above⟩

end Context
end Criteria
