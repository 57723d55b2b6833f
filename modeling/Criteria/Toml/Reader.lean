import Criteria.Toml.Node
import Criteria.Toml.Scalar
import Criteria.Toml.Text
/-!
# Reading configurations

Configurations in the format TOML 1.1: lines with a key and a value, headers that open tables, and
values that may stand in brackets and braces over several lines.
-/
namespace Criteria.Toml

/-- What follows a line end, after blanks and a comment; `inside` says that the comment has begun.
The end of the text ends a line, too. -/
def endLine? (inside : Bool) : List Char → Option (List Char)
  | [] => some []
  | '\n' :: rest => some rest
  | '\r' :: '\n' :: rest => some rest
  | c :: rest =>
    if inside then if isPlain c then endLine? true rest else none
    else if isSpace c then endLine? false rest
    else if c = '#' then endLine? true rest
    else none

/-- What follows blanks, comments and line ends. -/
def skipLines? (inside : Bool) : List Char → Option (List Char)
  | [] => some []
  | '\n' :: rest => skipLines? false rest
  | '\r' :: '\n' :: rest => skipLines? false rest
  | c :: rest =>
    if inside then if isPlain c then skipLines? true rest else none
    else if isSpace c then skipLines? false rest
    else if c = '#' then skipLines? true rest
    else some (c :: rest)

def skipSpaces (cs : List Char) : List Char :=
  cs.dropWhile isSpace

/-! ### Keys -/

/-- One part of a key: a plain name or a quoted text of one line. -/
def readKeyPart? (cs : List Char) : Option (String × List Char) :=
  (readQuoted? cs).or (Setting.spanName? cs)

/-- The parts of a key with points between them; `fuel` bounds their number. -/
def readKey? : (fuel : Nat) → List Char → Option (List String × List Char)
  | 0, _ => none
  | fuel + 1, cs => do
    let (part, rest) ← readKeyPart? (skipSpaces cs)
    match skipSpaces rest with
    | '.' :: rest => do
      let (parts, rest) ← readKey? fuel rest
      return (part :: parts, rest)
    | rest => return ([part], rest)

/-! ### Values -/

def readItems? (value : List Char → Option (Setting × List Char)) :
    (fuel : Nat) → List Setting → List Char → Option (List Setting × List Char)
  | 0, _, _ => none
  | fuel + 1, acc, cs => do
    match ← skipLines? false cs with
    | ']' :: rest => return (acc.reverse, rest)
    | cs => do
      let (v, rest) ← value cs
      match ← skipLines? false rest with
      | ',' :: rest => readItems? value fuel (v :: acc) rest
      | ']' :: rest => return ((v :: acc).reverse, rest)
      | _ => none

def readPair? (value : List Char → Option (Setting × List Char)) (cs : List Char) :
    Option (List String × Setting × List Char) := do
  let (keys, rest) ← readKey? (cs.length + 1) cs
  match rest with
  | '=' :: rest => do
    let (v, rest) ← value (skipSpaces rest)
    return (keys, v, rest)
  | _ => none

def readEntries? (value : List Char → Option (Setting × List Char)) :
    (fuel : Nat) → Table Node → List Char → Option (Table Node × List Char)
  | 0, _, _ => none
  | fuel + 1, es, cs => do
    match ← skipLines? false cs with
    | '}' :: rest => return (es, rest)
    | cs => do
      let (keys, v, rest) ← readPair? value cs
      let es ← Node.addAt keys (.closed v) .header es
      match ← skipLines? false rest with
      | ',' :: rest => readEntries? value fuel es rest
      | '}' :: rest => return (es, rest)
      | _ => none

/-- A value in which brackets and braces stand inside one another at most `depth` times. -/
def readValue? : (depth : Nat) → List Char → Option (Setting × List Char)
  | depth, cs =>
    match cs with
    | '"' :: _ | '\'' :: _ => (readText? cs).map fun (s, rest) => (.text s, rest)
    | '[' :: rest =>
      match depth with
      | 0 => none
      | depth + 1 => do
        let (items, rest) ← readItems? (readValue? depth) (rest.length + 1) [] rest
        return (.list items, rest)
    | '{' :: rest =>
      match depth with
      | 0 => none
      | depth + 1 => do
        let (es, rest) ← readEntries? (readValue? depth) (rest.length + 1) [] rest
        return (.table (Node.settingsOf es), rest)
    | _ =>
      let (word, rest) := spanScalar cs
      (scalar? word).map fun s => (s, rest)

/-- Brackets and braces may stand inside one another 80 times. -/
def maxDepth : Nat := 80

/-! ### Lines -/

/-- What has been read so far: all tables, and the path to the one that is open. -/
structure Draft where
  root : Table Node
  path : List String

namespace Draft

def editOpen (d : Draft) (edit : Node.Edit) : Option Draft :=
  (Node.editAt .passing edit d.path .header d.root).map fun root => { d with root := root }

def openAt (d : Draft) (keys : List String) (edit : String → Node.Edit) : Option Draft :=
  match keys.getLast? with
  | none => none
  | some key =>
    (Node.editAt .passing (edit key) keys.dropLast .header d.root).map fun root => ⟨root, keys⟩

/-- Read a header behind its brackets, and the brackets that close it. -/
def readHeader? (d : Draft) (closing : List Char) (edit : String → Node.Edit) (cs : List Char) :
    Option (Draft × List Char) := do
  let (keys, rest) ← readKey? (cs.length + 1) cs
  if closing.isPrefixOf rest then do
    let d ← d.openAt keys edit
    return (d, rest.drop closing.length)
  else none

def readLine? (d : Draft) (cs : List Char) : Option (Draft × List Char) :=
  match cs with
  | '[' :: '[' :: rest => d.readHeader? [']', ']'] Node.openRepeated rest
  | '[' :: rest => d.readHeader? [']'] Node.openTable rest
  | _ => do
    let (keys, v, rest) ← readPair? (readValue? maxDepth) cs
    let d ← d.editOpen (Node.addAt keys (.closed v))
    return (d, rest)

/-- Read lines up to the end of the text; `fuel` bounds their number. -/
def readLines? : (fuel : Nat) → Draft → List Char → Option Draft
  | 0, _, _ => none
  | fuel + 1, d, cs => do
    match ← skipLines? false cs with
    | [] => return d
    | cs => do
      let (d, rest) ← d.readLine? cs
      let rest ← endLine? false rest
      readLines? fuel d rest

end Draft

/-- Read the text of a configuration. A byte order mark may stand in front. -/
def read? (s : String) : Option (Table Setting) :=
  let cs := match s.toList with
    | '\ufeff' :: rest => rest
    | cs => cs
  (Draft.readLines? (cs.length + 1) ⟨[], []⟩ cs).map fun d => Node.settingsOf d.root

end Criteria.Toml
