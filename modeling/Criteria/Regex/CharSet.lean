import Criteria.Text.Blank
import Criteria.Unicode.Category
import Criteria.Unicode.Property
import Criteria.Unicode.Folding
/-!
# Character sets

Sets of characters as pattern classes describe them: ranges, the classes of digits, blanks and word
characters, and their combinations. Membership is decided for one character at a time.
-/
namespace Criteria.Regex

inductive CharKind
  | digit
  | space
  | word
deriving DecidableEq, Repr

namespace CharKind

def digitRanges : Unicode.Ranges :=
  (Unicode.category? "nd").getD []

/-- Letters, marks, decimal digits, connectors and joiners. -/
def wordRanges : Unicode.Ranges :=
  Unicode.alphabeticRanges ++ (Unicode.category? "m").getD [] ++ digitRanges ++
    (Unicode.category? "pc").getD [] ++ (Unicode.property? "joincontrol").getD []

def hasAscii (k : CharKind) (c : Char) : Bool :=
  match k with
  | digit => c.isDigit
  | space => c.toNat < 0x80 && Text.isBlank c
  | word => c.isAlphanum || c == '_'

def hasAny (k : CharKind) (c : Char) : Bool :=
  if c.toNat < 0x80 then k.hasAscii c
  else
    match k with
    | digit => digitRanges.has c.toNat
    | space => Text.isBlank c
    | word => wordRanges.has c.toNat

/-- Members of a class, of all characters or of ASCII alone. -/
def has (k : CharKind) (ascii : Bool) (c : Char) : Bool :=
  if ascii then k.hasAscii c else k.hasAny c

end CharKind

/-- A set of characters. `caseless` adds all characters that differ from a member in case alone. -/
inductive CharSet
  | empty
  | range (low high : Char)
  | ranges (rs : Unicode.Ranges)
  | kind (k : CharKind) (ascii : Bool)
  | caseless (ascii : Bool) (s : CharSet)
  | complement (s : CharSet)
  | union (s t : CharSet)
  | intersection (s t : CharSet)
  | difference (s t : CharSet)
  | symmetricDifference (s t : CharSet)

namespace CharSet

/-- The characters that equal a character up to case, of all characters or of ASCII alone. -/
def variants (ascii : Bool) (c : Char) : List Char :=
  if ascii then [c, c.toLower, c.toUpper] else c :: Unicode.caseVariants c

def has : CharSet → Char → Bool
  | empty, _ => false
  | range low high, c => low ≤ c && c ≤ high
  | ranges rs, c => rs.has c.toNat
  | kind k ascii, c => k.has ascii c
  | caseless ascii s, c => (variants ascii c).any s.has
  | complement s, c => !s.has c
  | union s t, c => s.has c || t.has c
  | intersection s t, c => s.has c && t.has c
  | difference s t, c => s.has c && !t.has c
  | symmetricDifference s t, c => s.has c != t.has c

def single (c : Char) : CharSet :=
  range c c

def unions (ss : List CharSet) : CharSet :=
  ss.foldr union empty

/-- An estimate of the bytes that an automaton needs for a set: one step for ASCII, a step for each
stretch of longer encodings. -/
def weight : CharSet → Nat
  | empty => 32
  | range low high => if high.toNat < 0x80 then 32 else if low = high then 32 * low.utf8Size else 72
  | ranges rs => 32 + (rs.map fun (_, high) => if high < 0x80 then 8 else 72).sum
  | kind _ true => 56
  | kind .word false => 56000
  | kind .digit false => 5000
  | kind .space false => 400
  | caseless _ s => s.weight + 16
  | complement s => s.weight + 400
  | union s t => s.weight + t.weight
  | intersection s t => max s.weight t.weight
  | difference s t => s.weight + t.weight
  | symmetricDifference s t => s.weight + t.weight

end CharSet
end Criteria.Regex
