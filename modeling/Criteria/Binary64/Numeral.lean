import Criteria.Binary64
import Criteria.Text.Digits
/-!
# Reading numerals

The number nearest to a decimal, and the grammar of a numeral that stands alone as a text: a sign,
digits with an optional point, an optional exponent, or one of the words for infinity and for no
number.
-/
namespace Criteria.Binary64

open Text

/-- The number nearest to `digits * 10 ^ exponent`; `none` beyond the largest one. Far outside the
range the answer is known from the count of digits alone. -/
def ofDecimal? (negative : Bool) (digits : Nat) (exponent : Int) : Option Binary64 :=
  if digits = 0 then some (zero negative)
  else
    let magnitude := exponent + (Nat.toDigits 10 digits).length
    if magnitude < -400 then some (zero negative)
    else if 400 < magnitude then none
    else if 0 ≤ exponent then ofQuotient? negative (digits * Nat.pow 10 exponent.toNat) 1
    else ofQuotient? negative digits (Nat.pow 10 (-exponent).toNat)

inductive Reading
  | finite (x : Binary64)
  | infinite (negative : Bool)
  | notANumber
deriving DecidableEq, Repr

/-- An optional sign at the front: whether it is a minus, and what follows. -/
def spanSign : List Char → Bool × List Char
  | '-' :: cs => (true, cs)
  | '+' :: cs => (false, cs)
  | cs => (false, cs)

/-- The exponent that ends a numeral: nothing at all, or `e`, a sign and at least one digit. -/
def exponent? : List Char → Option Int
  | [] => some 0
  | e :: cs =>
    if e = 'e' ∨ e = 'E' then
      let (negative, ds) := spanSign cs
      if ds.isEmpty || !ds.all Char.isDigit then none
      else some (if negative then -(digitsValue ds : Int) else digitsValue ds)
    else none

/-- The digits before and after an optional point, and what follows them. -/
def spanDecimal (cs : List Char) : List Char × List Char × List Char :=
  let (whole, rest) := spanDigits cs
  match rest with
  | '.' :: rest' =>
    let (fraction, rest'') := spanDigits rest'
    (whole, fraction, rest'')
  | _ => (whole, [], rest)

def read? (cs : List Char) : Option Reading :=
  let (negative, body) := spanSign cs
  let word := String.ofList (body.map Char.toLower)
  if word = "inf" ∨ word = "infinity" then some (.infinite negative)
  else if word = "nan" then some .notANumber
  else
    let (whole, fraction, rest) := spanDecimal body
    if whole.isEmpty && fraction.isEmpty then none
    else do
      let e ← exponent? rest
      match ofDecimal? negative (digitsValue (whole ++ fraction)) (e - fraction.length) with
      | some x => return .finite x
      | none => return .infinite negative

def readFinite? (cs : List Char) : Option Binary64 :=
  match read? cs with
  | some (.finite x) => some x
  | _ => none

end Criteria.Binary64
