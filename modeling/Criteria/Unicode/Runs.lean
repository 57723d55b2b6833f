import Criteria.Text.Digits
import Criteria.Text.Pieces
/-!
# Runs of code points

A set of code points is a list of disjoint ranges in increasing order. A table of the Unicode
standard is written as a text of numbers: the gap before each run and the length of the run.
-/
namespace Criteria.Unicode

/-- Ranges of code points, both ends included. -/
abbrev Ranges := List (Nat × Nat)

/-- The ranges of alternating gaps and lengths, from a first free code point on. -/
def rangesFrom (start : Nat) : List Nat → Ranges
  | gap :: length :: rest =>
    (start + gap, start + gap + length - 1) :: rangesFrom (start + gap + length) rest
  | _ => []

def readRuns (table : String) : Ranges :=
  rangesFrom 0 ((Text.words table.toList).map Text.digitsValue)

def Ranges.has (ranges : Ranges) (n : Nat) : Bool :=
  ranges.any fun (low, high) => low ≤ n && n ≤ high

end Criteria.Unicode
