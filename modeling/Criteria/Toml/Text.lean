import Criteria.Text.Digits
/-!
# Quoted texts of a configuration

Texts between one or three quotes. Between double quotes a backslash escapes, between single quotes
nothing does; three quotes make a text of several lines.
-/
namespace Criteria.Toml

/-- The characters that may stand as they are: all but control characters, and the tab. -/
def isPlain (c : Char) : Bool :=
  c == '\t' || (0x20 ≤ c.toNat && c.toNat != 0x7f)

def isSpace (c : Char) : Bool :=
  c == ' ' || c == '\t'

def escapedChar? : Char → Option Char
  | 'b' => some '\x08'
  | 't' => some '\t'
  | 'n' => some '\n'
  | 'f' => some '\x0c'
  | 'r' => some '\r'
  | 'e' => some '\x1b'
  | '"' => some '"'
  | '\\' => some '\\'
  | _ => none

def codePoint? (ds : List Char) : Option Char :=
  (Text.hexValue? ds).bind fun n => if n.isValidChar then some (Char.ofNat n) else none

/-- The character of an escape whose backslash has been read, and what follows it. -/
def readEscape? : List Char → Option (Char × List Char)
  | 'x' :: rest => (codePoint? (rest.take 2)).bind fun c =>
    if 2 ≤ rest.length then some (c, rest.drop 2) else none
  | 'u' :: rest => (codePoint? (rest.take 4)).bind fun c =>
    if 4 ≤ rest.length then some (c, rest.drop 4) else none
  | 'U' :: rest => (codePoint? (rest.take 8)).bind fun c =>
    if 8 ≤ rest.length then some (c, rest.drop 8) else none
  | c :: rest => (escapedChar? c).map fun e => (e, rest)
  | [] => none

/-- The rest of a text between double quotes; `acc` holds its characters so far, the last one first,
and `fuel` bounds what is left. -/
def readBasic : (fuel : Nat) → List Char → List Char → Option (String × List Char)
  | 0, _, _ => none
  | _, _, [] => none
  | _, acc, '"' :: rest => some (String.ofList acc.reverse, rest)
  | fuel + 1, acc, '\\' :: rest => do
    let (c, rest) ← readEscape? rest
    readBasic fuel (c :: acc) rest
  | fuel + 1, acc, c :: rest => if isPlain c then readBasic fuel (c :: acc) rest else none

/-- The rest of a text between single quotes. -/
def readLiteral (acc : List Char) : List Char → Option (String × List Char)
  | [] => none
  | '\'' :: rest => some (String.ofList acc.reverse, rest)
  | c :: rest => if isPlain c then readLiteral (c :: acc) rest else none

/-- The blanks and line ends at the front are dropped after a backslash at the end of a line. -/
def dropLines (cs : List Char) : List Char :=
  cs.dropWhile fun c => isSpace c || c == '\n' || c == '\r'

/-- Whether a line ends here, after blanks. -/
def endsLine (cs : List Char) : Bool :=
  match cs.dropWhile isSpace with
  | '\n' :: _ => true
  | '\r' :: '\n' :: _ => true
  | _ => false

/-- The end of a text of several lines, at its first quote: two more quotes close it, and up to two
quotes in front of those belong to it. -/
def closeLong? (q : Char) (acc : List Char) (cs : List Char) : Option (String × List Char) :=
  let n := (cs.takeWhile (· == q)).length
  if n < 3 || 5 < n then none
  else some (String.ofList (acc.reverse ++ List.replicate (n - 3) q), cs.drop n)

/-- The rest of a text of several lines between double quotes. -/
def readLongBasic : (fuel : Nat) → List Char → List Char → Option (String × List Char)
  | 0, _, _ => none
  | _, _, [] => none
  | fuel + 1, acc, '"' :: rest =>
    match rest with
    | '"' :: '"' :: _ => closeLong? '"' acc ('"' :: rest)
    | _ => readLongBasic fuel ('"' :: acc) rest
  | fuel + 1, acc, '\\' :: rest =>
    if endsLine rest then readLongBasic fuel acc (dropLines rest)
    else do
      let (c, rest) ← readEscape? rest
      readLongBasic fuel (c :: acc) rest
  | fuel + 1, acc, '\n' :: rest => readLongBasic fuel ('\n' :: acc) rest
  | fuel + 1, acc, '\r' :: '\n' :: rest => readLongBasic fuel ('\n' :: acc) rest
  | fuel + 1, acc, c :: rest => if isPlain c then readLongBasic fuel (c :: acc) rest else none

/-- The rest of a text of several lines between single quotes. -/
def readLongLiteral (acc : List Char) : List Char → Option (String × List Char)
  | [] => none
  | '\'' :: rest =>
    match rest with
    | '\'' :: '\'' :: _ => closeLong? '\'' acc ('\'' :: rest)
    | _ => readLongLiteral ('\'' :: acc) rest
  | '\n' :: rest => readLongLiteral ('\n' :: acc) rest
  | '\r' :: '\n' :: rest => readLongLiteral ('\n' :: acc) rest
  | c :: rest => if isPlain c then readLongLiteral (c :: acc) rest else none

/-- A line end right behind the opening quotes does not belong to the text. -/
def dropLineEnd : List Char → List Char
  | '\n' :: rest => rest
  | '\r' :: '\n' :: rest => rest
  | cs => cs

def readQuoted? : List Char → Option (String × List Char)
  | '"' :: rest => readBasic (rest.length + 1) [] rest
  | '\'' :: rest => readLiteral [] rest
  | _ => none

def readText? : List Char → Option (String × List Char)
  | '"' :: '"' :: '"' :: rest => readLongBasic (rest.length + 1) [] (dropLineEnd rest)
  | '\'' :: '\'' :: '\'' :: rest => readLongLiteral [] (dropLineEnd rest)
  | cs => readQuoted? cs

end Criteria.Toml
