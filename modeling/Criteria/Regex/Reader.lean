import Criteria.Regex.Expression
import Criteria.Regex.Property
import Criteria.Text.Digits
import Criteria.Text.Pieces
import Criteria.Unicode.Letters
/-!
# Reading patterns

Pattern texts: literals and escapes, classes with their set operations, repetitions, groups, flags
and assertions. A text that is no pattern reads as `none`.
-/
namespace Criteria.Regex

open Text

/-- The flags that change what a pattern means. -/
structure Flags where
  caseless : Bool
  multiLine : Bool
  dotAll : Bool
  ascii : Bool
  returns : Bool
  spaced : Bool
deriving DecidableEq, Repr

namespace Flags

/-- At the start no flag is set and all characters count. -/
def initial : Flags :=
  ⟨false, false, false, false, false, false⟩

/-- Set or clear the flag of a letter; a swapped greed does not change which texts match. -/
def set? (f : Flags) (letter : Char) (on : Bool) : Option Flags :=
  match letter with
  | 'i' => some { f with caseless := on }
  | 'm' => some { f with multiLine := on }
  | 's' => some { f with dotAll := on }
  | 'U' => some f
  | 'u' => some { f with ascii := !on }
  | 'R' => some { f with returns := on }
  | 'x' => some { f with spaced := on }
  | _ => none

end Flags

/-- A pattern that is being read: the text ahead, the flags in force, and the names of groups. -/
structure Cursor where
  ahead : List Char
  flags : Flags
  names : List String

namespace Cursor

def drop (c : Cursor) (n : Nat) : Cursor :=
  { c with ahead := c.ahead.drop n }

def moveTo (c : Cursor) (ahead : List Char) : Cursor :=
  { c with ahead := ahead }

/-- The text without blanks and comments in front; a comment ends with its line. -/
def skipComments (inComment : Bool) : List Char → List Char
  | [] => []
  | c :: cs =>
    if inComment then skipComments (c != '\n') cs
    else if isBlank c then skipComments false cs
    else if c = '#' then skipComments true cs
    else c :: cs

/-- Skip blanks and comments where a flag allows them. -/
def skipSpace (c : Cursor) : Cursor :=
  if c.flags.spaced then c.moveTo (skipComments false c.ahead) else c

/-- Go on behind the next character and behind what may be skipped. -/
def step (c : Cursor) : Cursor :=
  (c.drop 1).skipSpace

/-- The character behind the next one, behind blanks and number signs where a flag allows them. -/
def second? (c : Cursor) : Option Char :=
  let rest := c.ahead.drop 1
  if c.flags.spaced then
    match rest.dropWhile isBlank with
    | '#' :: rest' => (rest'.dropWhile isBlank).head?
    | rest' => rest'.head?
  else rest.head?

end Cursor

/-! ### Escapes -/

/-- What an escape or a single character can stand for. -/
inductive Primitive
  | literal (c : Char) (isByte : Bool)
  | dot
  | look (l : Look)
  | set (s : CharSet)

def metaChars : List Char :=
  "\\.+*?()|[]\x7b\x7d^$#&-~".toList

/-- Whether a backslash in front of a character gives the character itself: meta characters, and the
ASCII characters that are neither letters nor digits nor angle brackets. -/
def isEscapable (c : Char) : Bool :=
  metaChars.contains c || (c.toNat < 0x80 && !c.isAlphanum && c != '<' && c != '>')

def charOf? (n : Nat) : Option Char :=
  if h : n.isValidChar then some (Char.ofNatAux n h) else none

def readHexDigits? : (count : Nat) → List Char → Cursor → Option (List Char × Cursor)
  | 0, ds, c => some (ds.reverse, c)
  | n + 1, ds, c =>
    match c.ahead with
    | [] => none
    | d :: _ => if (hexDigit? d).isSome then readHexDigits? n (d :: ds) c.step else none

/-- Hexadecimal digits up to a closing brace, which is consumed; `fuel` bounds their number. -/
def readHexBrace? : (fuel : Nat) → List Char → Cursor → Option (List Char × Cursor)
  | 0, _, _ => none
  | fuel + 1, ds, c =>
    match c.ahead with
    | [] => none
    | '\x7d' :: _ => some (ds.reverse, c.step)
    | d :: _ => if (hexDigit? d).isSome then readHexBrace? fuel (d :: ds) c.step else none

/-- A character by its number; the cursor stands at the letter of the escape, which asks for `count`
digits unless a brace follows. -/
def readHex? (count : Nat) (c : Cursor) : Option (Primitive × Cursor) := do
  let c := c.step
  match c.ahead with
  | [] => none
  | '\x7b' :: _ =>
    let c := c.step
    let (ds, c) ← readHexBrace? (c.ahead.length + 1) [] c
    if ds.isEmpty then none
    else
      let char ← (hexValue? ds).bind charOf?
      return (.literal char false, c)
  | _ =>
    let (ds, c) ← readHexDigits? count [] c
    let char ← (hexValue? ds).bind charOf?
    return (.literal char (count == 2), c)

/-- The characters up to a closing brace, which is consumed without what may be skipped behind it. -/
def readBraced? : (fuel : Nat) → List Char → Cursor → Option (List Char × Cursor)
  | 0, _, _ => none
  | fuel + 1, cs, c =>
    match c.ahead with
    | [] => none
    | '\x7d' :: _ => some (cs.reverse, c.drop 1)
    | d :: _ => readBraced? fuel (d :: cs) c.step

/-- Case variants join a set where a flag asks for them, then the set is complemented. -/
def closeSet (flags : Flags) (negated : Bool) (s : CharSet) : CharSet :=
  let s := if flags.caseless then .caseless flags.ascii s else s
  if negated then .complement s else s

/-- A class by property; the cursor stands at the letter of the escape. -/
def readProperty? (c : Cursor) : Option (Primitive × Cursor) := do
  let negated := c.ahead.head? == some 'P'
  let c := c.step
  let (query, c) ← (match c.ahead with
    | [] => none
    | '\x7b' :: _ =>
      (readBraced? c.ahead.length [] c.step).map fun (name, c) => (PropertyQuery.ofText name, c)
    | '\\' :: _ => none
    | d :: _ => some (PropertyQuery.ofText [d], c.step) : Option (PropertyQuery × Cursor))
  if c.flags.ascii then none
  else
    let s ← query.set?
    return (.set (closeSet c.flags (negated != query.negated) s), c)

def charKind? : Char → Option (CharKind × Bool)
  | 'd' => some (.digit, false)
  | 's' => some (.space, false)
  | 'w' => some (.word, false)
  | 'D' => some (.digit, true)
  | 'S' => some (.space, true)
  | 'W' => some (.word, true)
  | _ => none

/-- The words in braces that make a word edge one-sided. -/
def wordLook? (ascii : Bool) (word : List Char) : Option Look :=
  match String.ofList word with
  | "start" => some (.wordStart ascii)
  | "end" => some (.wordEnd ascii)
  | "start-half" => some (.noWordBefore ascii)
  | "end-half" => some (.noWordAfter ascii)
  | _ => none

def readWord : (fuel : Nat) → List Char → Cursor → List Char × Cursor
  | 0, cs, c => (cs.reverse, c)
  | fuel + 1, cs, c =>
    match c.ahead with
    | d :: _ =>
      if d.isAlpha || d == '-' then readWord fuel (d :: cs) c.step else (cs.reverse, c)
    | [] => (cs.reverse, c)

/-- What follows the letter of a word edge: a word in braces makes it one-sided, anything else
belongs to the rest of the pattern. -/
def readWordEdge? (c : Cursor) : Option (Primitive × Cursor) :=
  let plain := (Primitive.look (.wordEdge c.flags.ascii), c)
  match c.ahead with
  | '\x7b' :: _ =>
    let inside := c.step
    match inside.ahead with
    | [] => none
    | d :: _ =>
      if d.isAlpha || d == '-' then
        match readWord inside.ahead.length [] inside with
        | (word, end_) =>
          match end_.ahead with
          | '\x7d' :: _ =>
            (wordLook? c.flags.ascii word).map fun l => (.look l, end_.drop 1)
          | _ => none
      else some plain
  | _ => some plain

def controlChar? : Char → Option Char
  | 'a' => some '\x07'
  | 'f' => some '\x0c'
  | 't' => some '\t'
  | 'n' => some '\n'
  | 'r' => some '\r'
  | 'v' => some '\x0b'
  | _ => none

def lookChar? (ascii : Bool) : Char → Option Look
  | 'A' => some .textStart
  | 'z' => some .textEnd
  | 'B' => some (.noWordEdge ascii)
  | '<' => some (.wordStart ascii)
  | '>' => some (.wordEnd ascii)
  | _ => none

def readEscape? (c : Cursor) : Option (Primitive × Cursor) :=
  match c.ahead with
  | [] => none
  | e :: _ =>
    if e = 'x' then readHex? 2 c
    else if e = 'u' then readHex? 4 c
    else if e = 'U' then readHex? 8 c
    else if e = 'p' ∨ e = 'P' then readProperty? c
    else if e = 'b' then readWordEdge? (c.drop 1)
    else if isEscapable e then some (.literal e false, c.drop 1)
    else
      match charKind? e with
      | some (k, negated) =>
        if negated && c.flags.ascii then none
        else
          let s := CharSet.kind k c.flags.ascii
          some (.set (if negated then .complement s else s), c.drop 1)
      | none =>
        match controlChar? e with
        | some d => some (.literal d false, c.drop 1)
        | none => (lookChar? c.flags.ascii e).map fun l => (.look l, c.drop 1)

def readPrimitive? (c : Cursor) : Option (Primitive × Cursor) :=
  match c.ahead with
  | [] => none
  | '\\' :: rest => readEscape? (c.moveTo rest)
  | '.' :: rest => some (.dot, c.moveTo rest)
  | '^' :: rest =>
    let l := if !c.flags.multiLine then .textStart
      else if c.flags.returns then .returnLineStart else .lineStart
    some (.look l, c.moveTo rest)
  | '$' :: rest =>
    let l := if !c.flags.multiLine then .textEnd
      else if c.flags.returns then .returnLineEnd else .lineEnd
    some (.look l, c.moveTo rest)
  | d :: rest => some (.literal d false, c.moveTo rest)

/-! ### Classes -/

/-- A set with the height of the tree that describes it. -/
structure ClassItem where
  set : CharSet
  height : Nat

def asciiClass? (name : String) : Option CharSet :=
  let between (pairs : List (Char × Char)) : CharSet :=
    .unions (pairs.map fun (low, high) => .range low high)
  match name with
  | "alnum" => some (between [('0', '9'), ('A', 'Z'), ('a', 'z')])
  | "alpha" => some (between [('A', 'Z'), ('a', 'z')])
  | "ascii" => some (between [('\x00', '\x7f')])
  | "blank" => some (between [('\t', '\t'), (' ', ' ')])
  | "cntrl" => some (between [('\x00', '\x1f'), ('\x7f', '\x7f')])
  | "digit" => some (between [('0', '9')])
  | "graph" => some (between [('!', '~')])
  | "lower" => some (between [('a', 'z')])
  | "print" => some (between [(' ', '~')])
  | "punct" => some (between [('!', '/'), (':', '@'), ('[', '\x60'), ('\x7b', '~')])
  | "space" => some (between [('\t', '\r'), (' ', ' ')])
  | "upper" => some (between [('A', 'Z')])
  | "word" => some (between [('0', '9'), ('A', 'Z'), ('_', '_'), ('a', 'z')])
  | "xdigit" => some (between [('0', '9'), ('A', 'F'), ('a', 'f')])
  | _ => none

/-- A named set `[:name:]`, with a circumflex in front of the name for its complement. -/
def readAsciiClass? (c : Cursor) : Option (Bool × CharSet × Cursor) :=
  match c.ahead with
  | '[' :: ':' :: rest =>
    let (negated, rest) := match rest with
      | '^' :: rest => (true, rest)
      | _ => (false, rest)
    match splitOnce ':' rest with
    | some (name, ']' :: rest) =>
      (asciiClass? (String.ofList name)).map fun s => (negated, s, c.moveTo rest)
    | _ => none
  | _ => none

/-- One end of a range, or an item by itself. -/
def readClassPrimitive? (c : Cursor) : Option (Primitive × Cursor) :=
  match c.ahead with
  | [] => none
  | '\\' :: rest => readEscape? (c.moveTo rest)
  | d :: rest => some (.literal d false, c.moveTo rest)

/-- The character of a literal; where only ASCII counts no other may stand in a class. -/
def classLiteral? (flags : Flags) : Primitive → Option Char
  | .literal d _ => if flags.ascii && 0x80 ≤ d.toNat then none else some d
  | _ => none

/-- A range, or a single item. A hyphen in front of a closing bracket or of another hyphen makes no
range. -/
def readClassItem? (c : Cursor) : Option (CharSet × Cursor) := do
  let (first, c) ← readClassPrimitive? c
  let c := c.skipSpace
  let alone : Option CharSet :=
    match first with
    | .set s => some s
    | p => (classLiteral? c.flags p).map .single
  match c.ahead with
  | [] => none
  | '-' :: _ =>
    if c.second? == some ']' || c.second? == some '-' then return (← alone, c)
    else
      let c := c.step
      let (last, c) ← readClassPrimitive? c
      let low ← classLiteral? c.flags first
      let high ← classLiteral? c.flags last
      if low ≤ high then return (.range low high, c) else none
  | _ => return (← alone, c)

/-- The set operations, which all bind weaker than joining. -/
inductive SetOperation
  | intersection
  | difference
  | symmetricDifference
deriving DecidableEq, Repr

def joinItems (items : List ClassItem) : ClassItem :=
  match items with
  | [] => ⟨.empty, 0⟩
  | [item] => item
  | _ => ⟨.unions (items.reverse.map (·.set)), (items.map (·.height)).foldl max 0 + 1⟩

def applyPending (flags : Flags) (pending : Option (SetOperation × ClassItem)) (right : ClassItem) :
    ClassItem :=
  match pending with
  | none => right
  | some (op, left) =>
    let close (s : CharSet) : CharSet := closeSet flags false s
    let s := match op with
      | .intersection => CharSet.intersection (close left.set) (close right.set)
      | .difference => .difference (close left.set) (close right.set)
      | .symmetricDifference => .symmetricDifference (close left.set) (close right.set)
    ⟨s, max left.height right.height + 1⟩

/-- Hyphens at the start of a class stand for themselves. -/
def readHyphens : (fuel : Nat) → List ClassItem → Cursor → List ClassItem × Cursor
  | 0, items, c => (items, c)
  | fuel + 1, items, c =>
    match c.ahead with
    | '-' :: _ => readHyphens fuel (⟨.single '-', 0⟩ :: items) c.step
    | _ => (items, c)

mutual

def readClass? : (fuel : Nat) → Cursor → Option (ClassItem × Cursor)
  | 0, _ => none
  | fuel + 1, c =>
    let c := c.step
    let (negated, c) := match c.ahead with
      | '^' :: _ => (true, c.step)
      | _ => (false, c)
    let (items, c) := readHyphens c.ahead.length [] c
    let (items, c) := match items, c.ahead with
      | [], ']' :: _ => ([⟨.single ']', 0⟩], c.step)
      | _, _ => (items, c)
    match readClassBody? fuel none items c with
    | none => none
    | some (item, c) =>
      if negated && c.flags.ascii then none
      else some (⟨closeSet c.flags negated item.set, item.height + 1⟩, c)

def readClassBody? : (fuel : Nat) → Option (SetOperation × ClassItem) → List ClassItem → Cursor →
    Option (ClassItem × Cursor)
  | 0, _, _, _ => none
  | fuel + 1, pending, items, c =>
    let c := c.skipSpace
    let operation (op : SetOperation) : Option (ClassItem × Cursor) :=
      let left := applyPending c.flags pending (joinItems items)
      readClassBody? fuel (some (op, left)) [] (c.drop 2)
    match c.ahead with
    | [] => none
    | ']' :: rest => some (applyPending c.flags pending (joinItems items), c.moveTo rest)
    | '&' :: '&' :: _ => operation .intersection
    | '-' :: '-' :: _ => operation .difference
    | '~' :: '~' :: _ => operation .symmetricDifference
    | '[' :: _ =>
      match readAsciiClass? c with
      | some (negated, s, c) =>
        if negated && c.flags.ascii then none
        else readClassBody? fuel pending (⟨closeSet c.flags negated s, 0⟩ :: items) c
      | none =>
        match readClass? fuel c with
        | none => none
        | some (item, c) => readClassBody? fuel pending (item :: items) c
    | _ =>
      match readClassItem? c with
      | none => none
      | some (s, c) => readClassBody? fuel pending (⟨s, 0⟩ :: items) c

end

/-! ### Repetitions -/

def readDecimalDigits : (fuel : Nat) → List Char → Cursor → List Char × Cursor
  | 0, ds, c => (ds.reverse, c)
  | fuel + 1, ds, c =>
    match c.ahead with
    | d :: _ => if d.isDigit then readDecimalDigits fuel (d :: ds) c.step else (ds.reverse, c)
    | [] => (ds.reverse, c)

/-- A count with blanks around it, below 2^32. -/
def readCount? (c : Cursor) : Option (Nat × Cursor) :=
  let c := c.moveTo (c.ahead.dropWhile isBlank)
  let (ds, c) := readDecimalDigits c.ahead.length [] c
  let c := (c.moveTo (c.ahead.dropWhile isBlank)).skipSpace
  if ds.isEmpty || 0x100000000 ≤ digitsValue ds then none else some (digitsValue ds, c)

/-- The bounds of a repetition in braces, with the mark of a lazy one behind them. -/
def readBounds? (c : Cursor) : Option ((Nat × Option Nat) × Cursor) := do
  let (least, c) ← readCount? c.step
  let (most, c) ← match c.ahead with
    | ',' :: _ =>
      let c := c.step
      match c.ahead with
      | '\x7d' :: _ => some (none, c)
      | _ => (readCount? c).map fun (most, c) => (some most, c)
    | _ => some (some least, c)
  match c.ahead with
  | '\x7d' :: _ =>
    let c := c.step
    let c := if c.ahead.head? == some '?' then c.drop 1 else c
    if most.any (· < least) then none else some ((least, most), c)
  | _ => none

/-! ### Groups and alternatives -/

/-- An expression with the height of the tree that describes it. -/
structure Node where
  expression : Expression Step
  height : Nat

/-- The expression of a primitive. Where only ASCII counts, neither a dot nor a byte above ASCII can
keep to whole characters. -/
def primitiveNode? (flags : Flags) : Primitive → Option Node
  | .literal d isByte =>
    if flags.ascii && isByte && 0x80 ≤ d.toNat then none
    else some ⟨.step (.char (closeSet flags false (.single d))), 0⟩
  | .dot =>
    if flags.ascii then none
    else
      let excluded := if flags.dotAll then CharSet.empty
        else if flags.returns then .unions [.single '\r', .single '\n'] else .single '\n'
      some ⟨.step (.char (.complement excluded)), 0⟩
  | .look l => some ⟨.step (.look l), 0⟩
  | .set s => some ⟨.step (.char s), 0⟩

/-- The items of a sequence, the last one first; an item that only sets flags has no node. -/
def sequenceNode (items : List (Option Node)) : Node :=
  match items with
  | [] => ⟨.empty, 0⟩
  | [some node] => node
  | [none] => ⟨.empty, 0⟩
  | _ =>
    let nodes := items.reverse.filterMap id
    ⟨nodes.foldr (fun n e => .sequence n.expression e) .empty,
      (nodes.map (·.height)).foldl max 0 + 1⟩

/-- Whether a character may stand in the name of a group, in the first place or in a later one. -/
def isNameChar (first : Bool) (c : Char) : Bool :=
  c == '_' ||
    if first then Unicode.isAlphabetic c
    else c == '.' || c == '[' || c == ']' || Unicode.isAlphanumeric c

/-- The name of a group up to its closing angle bracket; names differ from each other. -/
def readGroupName? (c : Cursor) : Option Cursor := do
  let (name, rest) ← splitOnce '>' c.ahead
  match name with
  | [] => none
  | first :: others =>
    let text := String.ofList name
    if isNameChar true first && others.all (isNameChar false) && !c.names.contains text then
      some { c with ahead := rest, names := text :: c.names }
    else none

/-- The flags of a group, which end with a colon or a closing parenthesis. A letter, and the minus in
front of the flags to clear, may stand there once. Returns the final character too. -/
def readFlags? (seen : List Char) (flags : Flags) : List Char → Option (Flags × Char × List Char)
  | [] => none
  | c :: cs =>
    if c = ':' ∨ c = ')' then
      if seen.head? == some '-' then none else some (flags, c, cs)
    else if seen.contains c then none
    else if c = '-' then readFlags? (c :: seen) flags cs
    else
      match flags.set? c (!seen.contains '-') with
      | none => none
      | some flags => readFlags? (c :: seen) flags cs

/-- What an opening parenthesis begins: a group that captures or not, or flags for what follows. -/
inductive Opening
  | group (c : Cursor) (captures : Bool)
  | directive (c : Cursor)

/-- Read behind an opening parenthesis. Looking around is not possible. -/
def readOpening? (c : Cursor) : Option Opening :=
  match c.ahead with
  | '?' :: '=' :: _ | '?' :: '!' :: _ => none
  | '?' :: '<' :: '=' :: _ | '?' :: '<' :: '!' :: _ => none
  | '?' :: 'P' :: '<' :: rest => (readGroupName? (c.moveTo rest)).map fun c => .group c true
  | '?' :: '<' :: rest => (readGroupName? (c.moveTo rest)).map fun c => .group c true
  | '?' :: rest =>
    match readFlags? [] c.flags rest with
    | none => none
    | some (flags, ':', rest) => some (.group { c with ahead := rest, flags := flags } false)
    | some (flags, _, rest') =>
      if rest.head? == some ')' then none
      else some (.directive { c with ahead := rest', flags := flags })
  | _ => some (.group c true)

mutual

/-- Alternatives up to a closing parenthesis or the end of the pattern. -/
def readChoice? : (fuel : Nat) → Cursor → Option (Node × Bool × Cursor)
  | 0, _ => none
  | fuel + 1, c =>
    match readSequence? fuel [] c with
    | none => none
    | some (node, c) =>
      match c.ahead with
      | '|' :: rest =>
        match readChoice? fuel (c.moveTo rest) with
        | none => none
        | some (others, isChoice, c) =>
          let height := if isChoice then max (node.height + 1) others.height
            else max node.height others.height + 1
          some (⟨.choice node.expression others.expression, height⟩, true, c)
      | _ => some (node, false, c)

/-- Items up to a bar, a closing parenthesis or the end of the pattern. -/
def readSequence? : (fuel : Nat) → List (Option Node) → Cursor → Option (Node × Cursor)
  | 0, _, _ => none
  | fuel + 1, items, c =>
    let c := c.skipSpace
    let repeatLast (least : Nat) (most : Option Nat) (c : Cursor) : Option (Node × Cursor) :=
      match items with
      | some node :: items =>
        let node : Node := ⟨.repeated node.expression least most, node.height + 1⟩
        readSequence? fuel (some node :: items) c
      | _ => none
    let uncounted (least : Nat) (most : Option Nat) : Option (Node × Cursor) :=
      let c := c.drop 1
      repeatLast least most (if c.ahead.head? == some '?' then c.drop 1 else c)
    match c.ahead with
    | [] => some (sequenceNode items, c)
    | ')' :: _ => some (sequenceNode items, c)
    | '|' :: _ => some (sequenceNode items, c)
    | '?' :: _ => uncounted 0 (some 1)
    | '*' :: _ => uncounted 0 none
    | '+' :: _ => uncounted 1 none
    | '\x7b' :: _ =>
      match readBounds? c with
      | none => none
      | some ((least, most), c) => repeatLast least most c
    | '[' :: _ =>
      match readClass? fuel c with
      | none => none
      | some (item, c) =>
        readSequence? fuel (some ⟨.step (.char item.set), item.height⟩ :: items) c
    | '(' :: _ =>
      match readOpening? c.step with
      | none => none
      | some (.directive c) => readSequence? fuel (none :: items) c
      | some (.group inner captures) =>
        match readChoice? fuel inner with
        | none => none
        | some (node, _, after) =>
          match after.ahead with
          | ')' :: rest =>
            let e := if captures then .group node.expression else node.expression
            readSequence? fuel (some ⟨e, node.height + 1⟩ :: items)
              { after with ahead := rest, flags := c.flags }
          | _ => none
    | _ =>
      match readPrimitive? c with
      | none => none
      | some (p, c) =>
        match primitiveNode? c.flags p with
        | none => none
        | some node => readSequence? fuel (some node :: items) c

end

def maxHeight : Nat := 250

def read? (pattern : List Char) : Option (Expression Step) :=
  match readChoice? (2 * pattern.length + 4) ⟨pattern, .initial, []⟩ with
  | some (node, _, c) =>
    if c.ahead.isEmpty && node.height ≤ maxHeight && node.expression.isSmall then
      some node.expression
    else none
  | none => none

end Criteria.Regex
