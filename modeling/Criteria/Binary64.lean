/-!
# Binary64 numbers

The finite numbers of the binary64 format. Every one of them is a whole number of units of
2^-1074, so order, equality and exact differences are those of the integers; only a result that
needs more than 53 bits is rounded, to the nearest number of the format and to the even one of two.
-/
namespace Criteria

/-- A numerator over a denominator, rounded to the nearest whole number, a half to the even one. -/
def roundDiv (num den : Nat) : Nat :=
  let q := num / den
  let r := num % den
  if 2 * r < den then q else if den < 2 * r then q + 1 else q + q % 2

namespace Binary64

def unit : Nat := Nat.pow 2 1074

/-- The distance between the numbers of the format around a magnitude in units. -/
def gap (units : Nat) : Nat :=
  Nat.pow 2 (units.log2 - 52)

/-- A magnitude of the format has at most 53 significant bits and lies below 2^1024. -/
def representable (units : Nat) : Bool :=
  units % gap units == 0 && units.log2 < 2098

/-- The quotient of two naturals, as a magnitude in units rounded to 53 significant bits. -/
def roundUnits (num den : Nat) : Nat :=
  let step := gap (num / den)
  roundDiv num (den * step) * step

end Binary64

/-- A finite binary64 number: its sign and its magnitude in units of 2^-1074. Zero has both signs. -/
structure Binary64 where
  negative : Bool
  units : Nat
  units_representable : Binary64.representable units = true
deriving DecidableEq, Repr

namespace Binary64

def ofUnits? (negative : Bool) (units : Nat) : Option Binary64 :=
  if h : representable units = true then some ⟨negative, units, h⟩ else none

def zero (negative : Bool) : Binary64 :=
  ⟨negative, 0, by decide⟩

/-- The number nearest to a quotient of naturals; `none` beyond the largest one. -/
def ofQuotient? (negative : Bool) (num den : Nat) : Option Binary64 :=
  ofUnits? negative (roundUnits (num * unit) den)

def ofInt? (n : Int) : Option Binary64 :=
  ofQuotient? (n < 0) n.natAbs 1

/-- The value as a signed count of units. -/
def amount (x : Binary64) : Int :=
  if x.negative then -(x.units : Int) else x.units

def isZero (x : Binary64) : Bool :=
  x.units == 0

/-- The magnitude of the rounded difference; `none` when it lies beyond the largest number. -/
def distance? (x y : Binary64) : Option Nat :=
  let d := roundUnits (x.amount - y.amount).natAbs 1
  if representable d then some d else none

/-- Two numbers agree when they are equal, or when their rounded distance is at most 2^-52 of the
larger magnitude. -/
def agrees (x y : Binary64) : Bool :=
  x.amount == y.amount ||
    match x.distance? y with
    | none => false
    | some d => d ≤ roundUnits (max x.units y.units) (Nat.pow 2 52)

/-- The rounded quotient; `none` for a zero divisor and beyond the largest number. -/
def div? (x y : Binary64) : Option Binary64 :=
  if y.units = 0 then none
  else ofQuotient? (x.negative != y.negative) x.units y.units

end Binary64
end Criteria
