import Criteria.Json.Reader
/-!
# Typed reading

A decoder reads a text straight into a type of its own and reports the first place where the
document is malformed, ends, or has another shape. A record is read from an object, whose unknown
members are skipped, or from a list of its fields in order.
-/
namespace Criteria.Json

/-- A scanner of a type, which may open as many more lists and objects as its first argument says. -/
abbrev Decoder (α : Type) := (depth : Nat) → List Char → Except Failure (α × List Char)

/-- Lists and objects may stand inside one another 127 times. -/
def maxDepth : Nat := 127

/-- The failure for a value that is not of the expected kind; a scalar is read first. -/
def unexpected (expected : String) (cs : List Char) : Failure :=
  let found (r : Except Failure Found) : Failure :=
    match r with
    | .ok f => .mismatch (.wrongKind f expected)
    | .error e => e
  match cs with
  | [] => .truncated
  | 'n' :: rest => found ((expectLetters "ull".toList rest).map fun _ => .null)
  | 't' :: rest => found ((expectLetters "rue".toList rest).map fun _ => .bool true)
  | 'f' :: rest => found ((expectLetters "alse".toList rest).map fun _ => .bool false)
  | '"' :: rest => found ((readText [] rest).map fun (s, _) => .text s)
  | '[' :: _ => found (.ok .list)
  | '{' :: _ => found (.ok .object)
  | c :: rest =>
    if c = '-' ∨ c.isDigit then found ((readNumber (c :: rest)).map fun (n, _) => .number n)
    else .malformed

namespace Decoder

def map {α β : Type} (f : α → β) (item : Decoder α) : Decoder β := fun depth cs =>
  (item depth cs).map fun (x, rest) => (f x, rest)

def value : Decoder Value :=
  readValue

def text : Decoder String := fun _ cs =>
  match skipSpace cs with
  | '"' :: rest => readText [] rest
  | cs => .error (unexpected "a string" cs)

def bool : Decoder Bool := fun _ cs =>
  match skipSpace cs with
  | 't' :: rest => (expectLetters "rue".toList rest).map fun rest => (true, rest)
  | 'f' :: rest => (expectLetters "alse".toList rest).map fun rest => (false, rest)
  | cs => .error (unexpected "a boolean" cs)

def optional {α : Type} (item : Decoder α) : Decoder (Option α) := fun depth cs =>
  match skipSpace cs with
  | 'n' :: rest => (expectLetters "ull".toList rest).map fun rest => (none, rest)
  | cs => (item depth cs).map fun (x, rest) => (some x, rest)

def list {α : Type} (item : Decoder α) : Decoder (List α) := fun depth cs =>
  match skipSpace cs, depth with
  | '[' :: _, 0 => .error .malformed
  | '[' :: rest, depth + 1 => readList (item depth) rest
  | cs, _ => .error (unexpected "a sequence" cs)

def table {α : Type} (item : Decoder α) : Decoder (Table α) := fun depth cs =>
  match skipSpace cs, depth with
  | '{' :: _, 0 => .error .malformed
  | '{' :: rest, depth + 1 => readObject (readEntry (item depth)) [] rest
  | cs, _ => .error (unexpected "a map" cs)

end Decoder

/-- A field of a record that is being read into `σ`. -/
structure Field (σ : Type) where
  name : String
  required : Bool
  isRead : σ → Bool
  read : (depth : Nat) → σ → List Char → Except Failure (σ × List Char)

namespace Field

/-- A field with a decoder for its value, kept in an optional place of the draft. -/
def of {σ α : Type} (name : String) (required : Bool) (get : σ → Option α) (set : σ → α → σ)
    (item : Decoder α) : Field σ where
  name := name
  required := required
  isRead s := (get s).isSome
  read depth s cs := (item depth cs).map fun (x, rest) => (set s x, rest)

def requireAll {σ : Type} (fields : List (Field σ)) (s : σ) : Except Failure Unit :=
  match fields.find? fun f => f.required && !f.isRead s with
  | some f => .error (.mismatch (.missingField f.name))
  | none => .ok ()

/-- One member of an object that is read as a record. -/
def readMember {σ : Type} (fields : List (Field σ)) (depth : Nat) (s : σ) (name : String)
    (cs : List Char) : Except Failure (σ × List Char) :=
  match fields.find? fun f => f.name == name with
  | none => do
    let rest ← expectColon cs
    let rest ← skipValue rest
    return (s, rest)
  | some f =>
    if f.isRead s then .error (.mismatch (.duplicateField name))
    else do
      let rest ← expectColon cs
      f.read depth s rest

/-- The fields of a record that is written as a list, up to the first that is left out. `position`
counts the fields before, and `first` says that no item stands in front. -/
def readItems {σ : Type} (record : String) (total depth : Nat) :
    (fields : List (Field σ)) → (position : Nat) → σ → List Char → Except Failure (σ × List Char)
  | [], _, s, cs =>
    match skipSpace cs with
    | [] => .error .truncated
    | ']' :: rest => .ok (s, rest)
    | _ => .error .malformed
  | f :: fields, position, s, cs =>
    match skipSpace cs with
    | [] => .error .truncated
    | ']' :: rest =>
      match (f :: fields).findIdx? (·.required) with
      | some i => .error (.mismatch (.tooShort (position + i) record total))
      | none => .ok (s, rest)
    | c :: rest =>
      if position = 0 then do
        let (s, rest) ← f.read depth s (c :: rest)
        readItems record total depth fields 1 s rest
      else if c = ',' then
        match skipSpace rest with
        | [] => .error .truncated
        | ']' :: _ => .error .malformed
        | rest => do
          let (s, rest) ← f.read depth s rest
          readItems record total depth fields (position + 1) s rest
      else .error .malformed

end Field

/-- A record with the given fields, read into a draft that starts out empty. -/
def Decoder.record {σ : Type} (record : String) (fields : List (Field σ)) (empty : σ) :
    Decoder σ := fun depth cs =>
  match skipSpace cs, depth with
  | '{' :: _, 0 => .error .malformed
  | '[' :: _, 0 => .error .malformed
  | '{' :: rest, depth + 1 => do
    let (s, rest) ← readObject (Field.readMember fields depth) empty rest
    Field.requireAll fields s
    return (s, rest)
  | '[' :: rest, depth + 1 => Field.readItems record fields.length depth fields 0 empty rest
  | cs, _ => .error (unexpected record cs)

/-- Read a whole text; only blanks may follow. -/
def decode {α : Type} (item : Decoder α) (s : String) : Except Failure α := do
  let (x, rest) ← item maxDepth s.toList
  match skipSpace rest with
  | [] => return x
  | _ => .error .malformed

end Criteria.Json
