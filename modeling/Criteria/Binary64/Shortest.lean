import Criteria.Binary64
import Criteria.Text.Digits
/-!
# Shortest digits

The fewest decimal digits that read back to a number of the format. On the grids of one, two, and
up to seventeen digits the two neighbours of the number are compared with the interval of all
values that round to it. The first grid with a hit gives the digits; of two hits the nearer one is
taken, and the even one of two that are equally near.
-/
namespace Criteria

/-- A positive decimal: `0.d₁d₂…` times ten to the power `point`. -/
structure Decimal where
  digits : List Char
  point : Int
deriving DecidableEq, Repr

namespace Binary64

def leadingExponent (units : Nat) : Int :=
  (Nat.toDigits 10 (units * Nat.pow 10 400 / unit)).length - 401

def powerOfTen (e : Int) : Nat × Nat :=
  if 0 ≤ e then (Nat.pow 10 e.toNat, 1) else (1, Nat.pow 10 (-e).toNat)

/-- Whether `k` times ten to the power `e` rounds to a magnitude in units. The interval reaches
half a gap to either side, half of that below a power of two, and includes its ends when the
significand is even. -/
def roundsTo (units k : Nat) (e : Int) : Bool :=
  let (num, den) := powerOfTen e
  let step := gap units
  let below := if units = Nat.pow 2 units.log2 ∧ 1 < step then step / 2 else step
  let twice := 2 * k * num * unit
  let low := (2 * units - below) * den
  let high := (2 * units + step) * den
  if units / step % 2 = 0 then low ≤ twice && twice ≤ high else low < twice && twice < high

/-- The nearest of `k` and `k + 1` on the grid of ten to the power `e`, of those that round to the
magnitude. -/
def onGrid? (units : Nat) (e : Int) : Option Nat :=
  let (num, den) := powerOfTen e
  let k := units * den / (num * unit)
  let rest := 2 * (units * den % (num * unit))
  let down := roundsTo units k e
  let up := roundsTo units (k + 1) e
  if down && up then
    some (if rest < num * unit then k else if num * unit < rest then k + 1 else k + k % 2)
  else if down then some k
  else if up then some (k + 1)
  else none

/-- The first grid with a hit, from the coarsest one on; `fuel` bounds the number of grids. -/
def firstGrid (units : Nat) : Nat → Int → Nat × Int
  | 0, e => (units, e)
  | fuel + 1, e =>
    match onGrid? units e with
    | some k => (k, e)
    | none => firstGrid units fuel (e - 1)

/-- The shortest decimal of a positive magnitude in units. -/
def shortest (units : Nat) : Decimal :=
  let (k, e) := firstGrid units 18 (leadingExponent units)
  let ds := Text.digits k
  ⟨(ds.reverse.dropWhile (· == '0')).reverse, e + ds.length⟩

end Binary64

namespace Decimal

/-- All digits written out, with a point where a fraction needs one. -/
def positional (d : Decimal) : List Char :=
  let n := d.digits.length
  if d.point ≤ 0 then '0' :: '.' :: List.replicate (-d.point).toNat '0' ++ d.digits
  else if n ≤ d.point.toNat then d.digits ++ List.replicate (d.point.toNat - n) '0'
  else d.digits.take d.point.toNat ++ '.' :: d.digits.drop d.point.toNat

/-- One digit before the point, and a signed exponent of ten. -/
def scientific (d : Decimal) : List Char :=
  let e := d.point - 1
  let tail := d.digits.drop 1
  d.digits.take 1 ++ (if tail.isEmpty then [] else '.' :: tail) ++
    'e' :: (if e < 0 then '-' else '+') :: Text.digits e.natAbs

end Decimal

namespace Binary64

def signed (x : Binary64) (magnitude : List Char) : List Char :=
  if x.negative then '-' :: magnitude else magnitude

/-- The text of a number in a document: shortest digits, always with a point or an exponent;
positional from 10^-5 up to 10^16, scientific outside. -/
def documentText (x : Binary64) : List Char :=
  signed x <|
    if x.units = 0 then ['0', '.', '0']
    else
      let d := shortest x.units
      if -5 < d.point ∧ d.point ≤ 16 then
        if d.digits.length ≤ d.point then d.positional ++ ['.', '0'] else d.positional
      else d.scientific

/-- The text of a number in a setting: shortest digits, always positional. -/
def plainText (x : Binary64) : List Char :=
  signed x (if x.units = 0 then ['0'] else (shortest x.units).positional)

end Binary64
end Criteria
