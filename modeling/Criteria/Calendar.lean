import Criteria.Text.Blank
import Criteria.Text.Digits
/-!
# Dates and times of day

Days of the Gregorian calendar, extended to all years, and times of day with leap seconds, with
their order and the forms in which they are read: `year-month-day`, a timestamp whose day is taken,
`hour:minute:second` and `hour:minute`.
-/
namespace Criteria

structure Date where
  year : Int
  month : Nat
  day : Nat
deriving DecidableEq, Repr

namespace Date

def isLeap (year : Int) : Bool :=
  year % 4 == 0 && (year % 100 != 0 || year % 400 == 0)

/-- The number of days of a month; none for a month that does not exist. -/
def daysInMonth (year : Int) : Nat → Nat
  | 1 | 3 | 5 | 7 | 8 | 10 | 12 => 31
  | 4 | 6 | 9 | 11 => 30
  | 2 => if isLeap year then 29 else 28
  | _ => 0

/-- The years from -262143 to 262142 are in range. -/
def isValid (d : Date) : Bool :=
  -262143 ≤ d.year && d.year ≤ 262142 && 1 ≤ d.day && d.day ≤ daysInMonth d.year d.month

/-- Earlier days have smaller numbers. -/
def rank (d : Date) : Int :=
  (d.year * 100 + d.month) * 100 + d.day

def compare (a b : Date) : Ordering :=
  Ord.compare a.rank b.rank

end Date

/-- A time of day; the second 60 is a leap second. -/
structure TimeOfDay where
  hour : Nat
  minute : Nat
  second : Nat
deriving DecidableEq, Repr

namespace TimeOfDay

def isValid (t : TimeOfDay) : Bool :=
  t.hour < 24 && t.minute < 60 && t.second ≤ 60

/-- Earlier times have smaller numbers; a leap second lies between its neighbours. -/
def rank (t : TimeOfDay) : Nat :=
  (t.hour * 100 + t.minute) * 100 + t.second

def compare (a b : TimeOfDay) : Ordering :=
  Ord.compare a.rank b.rank

end TimeOfDay

namespace Calendar

open Text

/-- A number of one to `most` digits at the front. -/
def upTo? (most : Nat) (cs : List Char) : Option (Nat × List Char) :=
  let ds := (cs.take most).takeWhile Char.isDigit
  if ds.isEmpty then none else some (digitsValue ds, cs.drop ds.length)

/-- A number of exactly `count` digits at the front. -/
def exactly? (count : Nat) (cs : List Char) : Option (Nat × List Char) :=
  let ds := cs.take count
  if ds.length = count ∧ ds.all Char.isDigit then some (digitsValue ds, cs.drop count) else none

def skip? (c : Char) : List Char → Option (List Char)
  | d :: rest => if d = c then some rest else none
  | [] => none

def skipBlanks (cs : List Char) : List Char :=
  cs.dropWhile isBlank

/-- A number of one or two digits, with blanks in front. -/
def field? (cs : List Char) : Option (Nat × List Char) :=
  upTo? 2 (skipBlanks cs)

/-- A year with blanks in front: up to four digits, or any number of digits after a sign. -/
def year? (cs : List Char) : Option (Int × List Char) :=
  match skipBlanks cs with
  | '-' :: rest => (upTo? rest.length rest).map fun (n, rest) => (-(n : Int), rest)
  | '+' :: rest => (upTo? rest.length rest).map fun (n, rest) => ((n : Int), rest)
  | cs => (upTo? 4 cs).map fun (n, rest) => ((n : Int), rest)

/-- A whole text of the form `year-month-day`. -/
def date? (cs : List Char) : Option Date := do
  let (year, cs) ← year? cs
  let cs ← skip? '-' cs
  let (month, cs) ← field? cs
  let cs ← skip? '-' cs
  let (day, cs) ← field? cs
  let d : Date := ⟨year, month, day⟩
  if cs.isEmpty && d.isValid then some d else none

def skipFraction? : List Char → Option (List Char)
  | '.' :: cs =>
    let (ds, rest) := spanDigits cs
    if ds.isEmpty then none else some rest
  | cs => some cs

/-- Whether a whole text is an offset from universal time: `Z`, or a sign with hours and minutes
below a day. The sign may be the mathematical minus. -/
def isOffset : List Char → Bool
  | ['Z'] | ['z'] => true
  | sign :: a :: b :: ':' :: c :: d :: [] =>
    (sign == '+' || sign == '-' || sign == '\u2212') && [a, b, c, d].all Char.isDigit &&
      digitsValue [a, b] < 24 && digitsValue [c, d] < 60
  | _ => false

/-- The local day of a whole text that is a timestamp. -/
def timestampDate? (cs : List Char) : Option Date := do
  let (year, cs) ← exactly? 4 cs
  let cs ← skip? '-' cs
  let (month, cs) ← exactly? 2 cs
  let cs ← skip? '-' cs
  let (day, cs) ← exactly? 2 cs
  let cs ← match cs with
    | 'T' :: rest | 't' :: rest | ' ' :: rest => some rest
    | _ => none
  let (hour, cs) ← exactly? 2 cs
  let cs ← skip? ':' cs
  let (minute, cs) ← exactly? 2 cs
  let cs ← skip? ':' cs
  let (second, cs) ← exactly? 2 cs
  let cs ← skipFraction? cs
  let d : Date := ⟨year, month, day⟩
  if isOffset cs && d.isValid && (TimeOfDay.mk hour minute second).isValid then some d else none

/-- A whole text of the form `hour:minute:second`. -/
def longTime? (cs : List Char) : Option TimeOfDay := do
  let (hour, cs) ← field? cs
  let cs ← skip? ':' cs
  let (minute, cs) ← field? cs
  let cs ← skip? ':' cs
  let (second, cs) ← field? cs
  let t : TimeOfDay := ⟨hour, minute, second⟩
  if cs.isEmpty && t.isValid then some t else none

/-- A whole text of the form `hour:minute`. -/
def shortTime? (cs : List Char) : Option TimeOfDay := do
  let (hour, cs) ← field? cs
  let cs ← skip? ':' cs
  let (minute, cs) ← field? cs
  let t : TimeOfDay := ⟨hour, minute, 0⟩
  if cs.isEmpty && t.isValid then some t else none

end Calendar

/-- Read a date, or the day of a timestamp, with blanks around it. -/
def Date.parse? (s : String) : Option Date :=
  let cs := Text.stripBlanks s.toList
  (Calendar.date? cs).or (Calendar.timestampDate? cs)

/-- Read a time of day with or without seconds, with blanks around it. -/
def TimeOfDay.parse? (s : String) : Option TimeOfDay :=
  let cs := Text.stripBlanks s.toList
  (Calendar.longTime? cs).or (Calendar.shortTime? cs)

end Criteria
