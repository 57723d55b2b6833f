import Criteria.Json.Failure
import Criteria.Binary64.Numeral
/-!
# Reading documents

Scanners from the front of a text: each returns what it read and what is left. Lists and objects
may stand inside one another up to a given depth; a skipped value has no such limit.
-/
namespace Criteria.Json

/-- The four blanks that may stand between the parts of a document. -/
def isSpace (c : Char) : Bool :=
  c == ' ' || c == '\n' || c == '\t' || c == '\r'

def skipSpace (cs : List Char) : List Char :=
  cs.dropWhile isSpace

def expectLetters : List Char → List Char → Except Failure (List Char)
  | [], cs => .ok cs
  | _ :: _, [] => .error .truncated
  | l :: ls, c :: cs => if l = c then expectLetters ls cs else .error .malformed

/-! ### Texts -/

def codeUnit? (a b c d : Char) : Option Nat :=
  Text.hexValue? [a, b, c, d]

/-- Fewer than four characters follow an escape: with four bytes the digits are wrong, with fewer
the text ends early. -/
def shortEscape (cs : List Char) : Failure :=
  if (String.ofList cs).utf8ByteSize < 4 then .truncated else .malformed

def escapedChar? : Char → Option Char
  | '"' => some '"'
  | '\\' => some '\\'
  | '/' => some '/'
  | 'b' => some '\x08'
  | 'f' => some '\x0c'
  | 'n' => some '\n'
  | 'r' => some '\r'
  | 't' => some '\t'
  | _ => none

/-- Code units from 0xd800 stand for half of a character, the first half below 0xdc00. -/
def isHighHalf (n : Nat) : Bool :=
  0xd800 ≤ n && n < 0xdc00

def isLowHalf (n : Nat) : Bool :=
  0xdc00 ≤ n && n < 0xe000

def joinHalves (high low : Nat) : Char :=
  Char.ofNat (0x10000 + (high - 0xd800) * 0x400 + (low - 0xdc00))

/-- The rest of a text whose opening quote has been read; `acc` holds its characters so far, the
last one first. -/
def readText (acc : List Char) : List Char → Except Failure (String × List Char)
  | [] => .error .truncated
  | '"' :: rest => .ok (String.ofList acc.reverse, rest)
  | '\\' :: rest =>
    match rest with
    | [] => .error .truncated
    | 'u' :: a :: b :: c :: d :: rest =>
      match codeUnit? a b c d with
      | none => .error .malformed
      | some high =>
        if isLowHalf high then .error .malformed
        else if isHighHalf high then
          match rest with
          | [] => .error .truncated
          | ['\\'] => .error .truncated
          | '\\' :: 'u' :: a :: b :: c :: d :: rest =>
            match codeUnit? a b c d with
            | none => .error .malformed
            | some low =>
              if isLowHalf low then readText (joinHalves high low :: acc) rest
              else .error .malformed
          | '\\' :: 'u' :: rest => .error (shortEscape rest)
          | _ => .error .malformed
        else readText (Char.ofNat high :: acc) rest
    | 'u' :: rest => .error (shortEscape rest)
    | c :: rest =>
      match escapedChar? c with
      | some e => readText (e :: acc) rest
      | none => .error .malformed
  | c :: rest => if c.toNat < 0x20 then .error .malformed else readText (c :: acc) rest

/-- The text after a skipped text, whose opening quote has been read. Halves of characters need not
be paired here. -/
def skipText : List Char → Except Failure (List Char)
  | [] => .error .truncated
  | '"' :: rest => .ok rest
  | '\\' :: rest =>
    match rest with
    | [] => .error .truncated
    | 'u' :: a :: b :: c :: d :: rest =>
      if (codeUnit? a b c d).isSome then skipText rest else .error .malformed
    | 'u' :: rest => .error (shortEscape rest)
    | c :: rest => if (escapedChar? c).isSome then skipText rest else .error .malformed
  | c :: rest => if c.toNat < 0x20 then .error .malformed else skipText rest

/-! ### Numbers -/

/-- At least one digit; `early` is the failure at the end of the text. -/
def readDigits (early : Failure) (cs : List Char) : Except Failure (List Char × List Char) :=
  match Text.spanDigits cs with
  | ([], []) => .error early
  | ([], _) => .error .malformed
  | (ds, rest) => .ok (ds, rest)

/-- The digits before a point or exponent: one zero, or digits that begin with no zero. -/
def readWhole (early : Failure) (cs : List Char) : Except Failure (List Char × List Char) := do
  let (ds, rest) ← readDigits early cs
  match ds with
  | '0' :: _ :: _ => .error .malformed
  | _ => return (ds, rest)

def readFraction (early : Failure) : List Char → Except Failure (Option (List Char) × List Char)
  | '.' :: cs => do
    let (ds, rest) ← readDigits early cs
    return (some ds, rest)
  | cs => .ok (none, cs)

def readExponent (early : Failure) (cs : List Char) : Except Failure (Option Int × List Char) :=
  match cs with
  | [] => .ok (none, cs)
  | e :: rest =>
    if e = 'e' ∨ e = 'E' then do
      let (negative, rest) := Binary64.spanSign rest
      let (ds, rest) ← readDigits early rest
      let n : Int := Text.digitsValue ds
      return (some (if negative then -n else n), rest)
    else .ok (none, cs)

/-- The number that a numeral denotes; without a fraction and an exponent it is an integer as long
as it is in range and is not a negative zero. -/
def numeralValue? (negative : Bool) (whole : List Char) (fraction : Option (List Char))
    (exponent : Option Int) : Option Number :=
  let decimal (ds : List Char) (e : Int) : Option Number :=
    (Binary64.ofDecimal? negative (Text.digitsValue ds) e).map .real
  match fraction, exponent with
  | none, none =>
    let n := Text.digitsValue whole
    if negative then if 0 < n ∧ n ≤ 0x8000000000000000 then some (.integer (-n)) else decimal whole 0
    else if n < 0x10000000000000000 then some (.integer n)
    else decimal whole 0
  | _, _ =>
    let ds := fraction.getD []
    decimal (whole ++ ds) (exponent.getD 0 - ds.length)

/-- A number, whose first character is a minus or a digit. -/
def readNumber (cs : List Char) : Except Failure (Number × List Char) := do
  let (negative, cs) := match cs with
    | '-' :: rest => (true, rest)
    | _ => (false, cs)
  let (whole, cs) ← readWhole .truncated cs
  let (fraction, cs) ← readFraction .truncated cs
  let (exponent, cs) ← readExponent .truncated cs
  match numeralValue? negative whole fraction exponent with
  | some n => return (n, cs)
  | none => .error .malformed

/-- The text after a skipped number, which may be out of range. -/
def skipNumber (cs : List Char) : Except Failure (List Char) := do
  let cs := match cs with
    | '-' :: rest => rest
    | _ => cs
  let (_, cs) ← readWhole .malformed cs
  let (_, cs) ← readFraction .malformed cs
  let (_, cs) ← readExponent .malformed cs
  return cs

/-! ### Lists and objects -/

/-- The items of a list from the first one on, and its closing bracket; `fuel` bounds their number. -/
def readItems {α : Type} (item : List Char → Except Failure (α × List Char)) :
    (fuel : Nat) → List α → List Char → Except Failure (List α × List Char)
  | 0, _, _ => .error .malformed
  | fuel + 1, acc, cs => do
    let (x, rest) ← item cs
    match skipSpace rest with
    | [] => .error .truncated
    | ']' :: rest => return ((x :: acc).reverse, rest)
    | ',' :: rest =>
      match skipSpace rest with
      | [] => .error .truncated
      | ']' :: _ => .error .malformed
      | rest => readItems item fuel (x :: acc) rest
    | _ => .error .malformed

def readList {α : Type} (item : List Char → Except Failure (α × List Char)) (cs : List Char) :
    Except Failure (List α × List Char) :=
  match skipSpace cs with
  | [] => .error .truncated
  | ']' :: rest => .ok ([], rest)
  | rest => readItems item rest.length [] rest

/-- The members of an object from the first one on, and its closing brace. `member` takes what was
read so far and the name of the member, and reads from behind the name. -/
def readMembers {σ : Type} (member : σ → String → List Char → Except Failure (σ × List Char)) :
    (fuel : Nat) → σ → List Char → Except Failure (σ × List Char)
  | 0, _, _ => .error .malformed
  | fuel + 1, s, cs =>
    match cs with
    | '"' :: rest => do
      let (name, rest) ← readText [] rest
      let (s, rest) ← member s name rest
      match skipSpace rest with
      | [] => .error .truncated
      | '}' :: rest => return (s, rest)
      | ',' :: rest =>
        match skipSpace rest with
        | [] => .error .truncated
        | rest => readMembers member fuel s rest
      | _ => .error .malformed
    | _ => .error .malformed

def readObject {σ : Type} (member : σ → String → List Char → Except Failure (σ × List Char))
    (s : σ) (cs : List Char) :
    Except Failure (σ × List Char) :=
  match skipSpace cs with
  | [] => .error .truncated
  | '}' :: rest => .ok (s, rest)
  | rest => readMembers member rest.length s rest

def expectColon (cs : List Char) : Except Failure (List Char) :=
  match skipSpace cs with
  | [] => .error .truncated
  | ':' :: rest => .ok rest
  | _ => .error .malformed

/-- A member of a table: a later member replaces an earlier one of the same name. -/
def readEntry {α : Type} (value : List Char → Except Failure (α × List Char)) (t : Table α)
    (name : String) (cs : List Char) : Except Failure (Table α × List Char) := do
  let rest ← expectColon cs
  let (v, rest) ← value rest
  return (t.insert name v, rest)

/-! ### Values -/

/-- A value in which lists and objects stand inside one another at most `depth` times. -/
def readValue : (depth : Nat) → List Char → Except Failure (Value × List Char)
  | depth, cs =>
    match skipSpace cs with
    | [] => .error .truncated
    | 'n' :: rest => (expectLetters "ull".toList rest).map fun rest => (.null, rest)
    | 't' :: rest => (expectLetters "rue".toList rest).map fun rest => (.bool true, rest)
    | 'f' :: rest => (expectLetters "alse".toList rest).map fun rest => (.bool false, rest)
    | '"' :: rest => (readText [] rest).map fun (s, rest) => (.text s, rest)
    | '[' :: rest =>
      match depth with
      | 0 => .error .malformed
      | depth + 1 => (readList (readValue depth) rest).map fun (items, rest) => (.list items, rest)
    | '{' :: rest =>
      match depth with
      | 0 => .error .malformed
      | depth + 1 =>
        (readObject (readEntry (readValue depth)) [] rest).map
          fun (members, rest) => (.object members, rest)
    | c :: rest =>
      if c = '-' ∨ c.isDigit then (readNumber (c :: rest)).map fun (n, rest) => (.number n, rest)
      else .error .malformed

/-- An open bracket or brace around a skipped value. -/
inductive Enclosure
  | list
  | object
deriving DecidableEq, Repr

def skipName (cs : List Char) : Except Failure (List Char) :=
  match skipSpace cs with
  | [] => .error .truncated
  | '"' :: rest => do
    let rest ← skipText rest
    expectColon rest
  | _ => .error .malformed

/-- What follows a complete value inside open brackets: closing ones, then a comma. Returns the
brackets that are still open and the text at the next value, or the end when none is open. -/
def skipClosings : (fuel : Nat) → List Enclosure → List Char →
    Except Failure (List Enclosure × List Char)
  | 0, _, _ => .error .malformed
  | _ + 1, [], cs => .ok ([], cs)
  | fuel + 1, e :: es, cs =>
    match skipSpace cs, e with
    | [], _ => .error .truncated
    | ',' :: rest, .list => .ok (.list :: es, rest)
    | ',' :: rest, .object => (skipName rest).map fun rest => (.object :: es, rest)
    | ']' :: rest, .list => skipClosings fuel es rest
    | '}' :: rest, .object => skipClosings fuel es rest
    | _, _ => .error .malformed

/-- Skip one value of any depth inside the open brackets `es`; `fuel` bounds the number of values. -/
def skipValues : (fuel : Nat) → List Enclosure → List Char → Except Failure (List Char)
  | 0, _, _ => .error .malformed
  | fuel + 1, es, cs => do
    let cs := skipSpace cs
    let after (rest : List Char) : Except Failure (List Char) := do
      match ← skipClosings (cs.length + 1) es rest with
      | ([], rest) => return rest
      | (es, rest) => skipValues fuel es rest
    match cs with
    | [] => .error .truncated
    | 'n' :: rest => after (← expectLetters "ull".toList rest)
    | 't' :: rest => after (← expectLetters "rue".toList rest)
    | 'f' :: rest => after (← expectLetters "alse".toList rest)
    | '"' :: rest => after (← skipText rest)
    | '[' :: rest =>
      match skipSpace rest with
      | [] => .error .truncated
      | ']' :: rest => after rest
      | rest => skipValues fuel (.list :: es) rest
    | '{' :: rest =>
      match skipSpace rest with
      | [] => .error .truncated
      | '}' :: rest => after rest
      | rest => skipValues fuel (.object :: es) (← skipName rest)
    | c :: rest =>
      if c = '-' ∨ c.isDigit then after (← skipNumber (c :: rest)) else .error .malformed

/-- The text after a value that is not looked at. -/
def skipValue (cs : List Char) : Except Failure (List Char) :=
  skipValues (cs.length + 1) [] cs

end Criteria.Json
