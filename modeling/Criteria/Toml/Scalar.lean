import Criteria.Calendar
import Criteria.Settings.Setting
import Criteria.Text.Pieces
/-!
# Bare scalars of a configuration

Flags, integers in four bases, numbers, and dates and times, which are kept as texts of one form.
-/
namespace Criteria.Toml

open Text

/-- Digits of a base; an underscore may stand between two digits. -/
def digitsOf? (isDigit : Char → Bool) (cs : List Char) : Option (List Char) :=
  let runs := splitOn '_' cs
  if runs.all fun ds => !ds.isEmpty && ds.all isDigit then some runs.flatten else none

/-- Decimal digits that begin with no zero, or a single zero. -/
def wholeDigits? (cs : List Char) : Option (List Char) :=
  if 1 < cs.length && cs.head? == some '0' then none else digitsOf? Char.isDigit cs

def valueIn (base : Nat) (ds : List Char) : Nat :=
  ds.foldl (fun n c => n * base + (hexDigit? c).getD 0) 0

/-- An unsigned integer of another base, behind its mark. -/
def basedInteger? : List Char → Option Nat
  | '0' :: 'x' :: cs => (digitsOf? (fun c => (hexDigit? c).isSome) cs).map (valueIn 16)
  | '0' :: 'o' :: cs => (digitsOf? (fun c => '0' ≤ c && c ≤ '7') cs).map (valueIn 8)
  | '0' :: 'b' :: cs => (digitsOf? (fun c => c == '0' || c == '1') cs).map (valueIn 2)
  | _ => none

def integer? (cs : List Char) : Option Int :=
  match basedInteger? cs with
  | some n => some n
  | none =>
    let (negative, body) := Binary64.spanSign cs
    (wholeDigits? body).map fun ds =>
      let n : Int := digitsValue ds
      if negative then -n else n

def splitExponent (cs : List Char) : List Char × Option (List Char) :=
  let isMark (c : Char) : Bool := c == 'e' || c == 'E'
  match cs.dropWhile fun c => !isMark c with
  | _ :: e => (cs.takeWhile fun c => !isMark c, some e)
  | [] => (cs, none)

/-- A number with a fraction, an exponent, or both, in the range of binary64. -/
def decimal? (negative : Bool) (body : List Char) : Option Binary64 := do
  let (mantissa, exponent) := splitExponent body
  let (whole, fraction) := match splitOnce '.' mantissa with
    | some (w, f) => (w, some f)
    | none => (mantissa, none)
  if fraction.isNone && exponent.isNone then none
  else do
    let ws ← wholeDigits? whole
    let fs ← match fraction with
      | some f => digitsOf? Char.isDigit f
      | none => some []
    let e ← match exponent with
      | some e =>
        let (down, ds) := Binary64.spanSign e
        (digitsOf? Char.isDigit ds).map fun ds =>
          let n : Int := digitsValue ds
          if down then -n else n
      | none => some 0
    Binary64.ofDecimal? negative (digitsValue (ws ++ fs)) (e - fs.length)

/-- A number, which may be infinite or none. -/
def real? (cs : List Char) : Option Binary64.Reading :=
  let (negative, body) := Binary64.spanSign cs
  if body = "inf".toList then some (.infinite negative)
  else if body = "nan".toList then some .notANumber
  else (decimal? negative body).map .finite

/-! ### Dates and times -/

def padded (width n : Nat) : List Char :=
  let ds := digits n
  List.replicate (width - ds.length) '0' ++ ds

def spanDate? (cs : List Char) : Option (List Char × List Char) := do
  let (year, cs) ← Calendar.exactly? 4 cs
  let cs ← Calendar.skip? '-' cs
  let (month, cs) ← Calendar.exactly? 2 cs
  let cs ← Calendar.skip? '-' cs
  let (day, cs) ← Calendar.exactly? 2 cs
  if (Date.mk year month day).isValid then
    some (padded 4 year ++ '-' :: padded 2 month ++ '-' :: padded 2 day, cs)
  else none

/-- An optional fraction of a second: nine digits count, and zeros at the end are left out. -/
def spanFraction? (cs : List Char) : Option (List Char × List Char) :=
  match cs with
  | '.' :: rest =>
    let (ds, rest) := spanDigits rest
    let kept := ((ds.take 9).reverse.dropWhile (· == '0')).reverse
    if ds.isEmpty then none
    else some ('.' :: (if kept.isEmpty then ['0'] else kept), rest)
  | _ => some ([], cs)

def spanTime? (cs : List Char) : Option (List Char × List Char) := do
  let (hour, cs) ← Calendar.exactly? 2 cs
  let cs ← Calendar.skip? ':' cs
  let (minute, cs) ← Calendar.exactly? 2 cs
  let clock := padded 2 hour ++ ':' :: padded 2 minute
  if !(TimeOfDay.mk hour minute 0).isValid then none
  else
    match cs with
    | ':' :: rest => do
      let (second, rest) ← Calendar.exactly? 2 rest
      let (fraction, rest) ← spanFraction? rest
      if 60 < second then none
      else some (clock ++ ':' :: padded 2 second ++ fraction, rest)
    | _ => some (clock, cs)

/-- The written form of an offset that ends a timestamp; no offset at all is one, too. -/
def offset? (cs : List Char) : Option (List Char) :=
  match cs with
  | [] => some []
  | ['Z'] | ['z'] => some ['Z']
  | sign :: a :: b :: ':' :: c :: d :: [] =>
    let hour := digitsValue [a, b]
    let minute := digitsValue [c, d]
    if (sign == '+' || sign == '-') && [a, b, c, d].all Char.isDigit && hour < 24 && minute < 60
    then some ((if hour = 0 ∧ minute = 0 then '+' else sign) :: [a, b, ':', c, d])
    else none
  | _ => none

/-- A whole text that is a date, a time, or both. -/
def moment? (cs : List Char) : Option (List Char) :=
  match spanDate? cs with
  | some (date, []) => some date
  | some (date, sep :: rest) =>
    if sep = 'T' ∨ sep = 't' ∨ sep = ' ' then do
      let (time, rest) ← spanTime? rest
      let offset ← offset? rest
      return date ++ 'T' :: time ++ offset
    else none
  | none =>
    match spanTime? cs with
    | some (time, []) => some time
    | _ => none

/-! ### Scalars -/

def isScalarChar (c : Char) : Bool :=
  c.isAlphanum || c == '+' || c == '-' || c == '_' || c == '.' || c == ':'

/-- A bare scalar at the front. A date may be followed by a single blank and a time. -/
def spanScalar (cs : List Char) : List Char × List Char :=
  let word := cs.takeWhile isScalarChar
  let rest := cs.drop word.length
  match spanDate? word, rest with
  | some (_, []), ' ' :: a :: more =>
    if a.isDigit then
      let time := (a :: more).takeWhile isScalarChar
      (word ++ ' ' :: time, (a :: more).drop time.length)
    else (word, rest)
  | _, _ => (word, rest)

def scalar? (cs : List Char) : Option Setting :=
  if cs = "true".toList then some (.flag true)
  else if cs = "false".toList then some (.flag false)
  else
    match integer? cs with
    | some n => if Setting.isInteger n then some (.integer n) else none
    | none =>
      match real? cs with
      | some r => some (.real r)
      | none => (moment? cs).map fun m => .text (String.ofList m)

end Criteria.Toml
