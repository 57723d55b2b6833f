import Criteria.IpAddress
import Criteria.Text.Pieces
/-!
# Address patterns

A pattern is an exact address, a network with the number of its leading bits, or an address with
stars in place of some octets or segments. The first reading that a text allows counts.
-/
namespace Criteria

inductive IpPattern
  | exact (address : IpAddress)
  | network (address : IpAddress) (bits : Nat)
  | wildcard (isV6 : Bool) (segments : List (Option Nat))
deriving DecidableEq, Repr

namespace IpPattern

open Text

/-- A number of leading bits: decimal digits up to 255, after an optional plus sign. -/
def readBits? (cs : List Char) : Option Nat :=
  let ds := match cs with
    | '+' :: rest => rest
    | _ => cs
  if ds.isEmpty || !ds.all Char.isDigit || 255 < digitsValue ds then none
  else some (digitsValue ds)

/-- A network: an address and a number of its leading bits behind the first slash. -/
def readNetwork? (cs : List Char) : Option IpPattern := do
  let (front, back) ← splitOnce '/' cs
  let address ← IpAddress.read? (stripBlanks front)
  let bits ← readBits? (stripBlanks back)
  if bits ≤ address.width then some (.network address bits) else none

/-- An octet of a wildcard: up to three digits, no more than 255, no zero in front of another. -/
def readOctet? (cs : List Char) : Option Nat :=
  if cs.isEmpty || 3 < cs.length || !cs.all Char.isDigit ||
      (1 < cs.length && cs.head? == some '0') || 255 < digitsValue cs then none
  else some (digitsValue cs)

/-- A segment of a wildcard: one to four hexadecimal digits. -/
def readSegment? (cs : List Char) : Option Nat :=
  if cs.isEmpty || 4 < cs.length then none else hexValue? cs

def readPlace? (number : List Char → Option Nat) (cs : List Char) : Option (Option Nat) :=
  if cs = ['*'] then some none else (number cs).map some

/-- A wildcard: at least one star among four octets, or among eight segments when there is a colon. -/
def readWildcard? (cs : List Char) : Option IpPattern :=
  if !cs.contains '*' then none
  else if cs.contains ':' then do
    let segments ← (splitOn ':' cs).mapM (readPlace? readSegment?)
    if segments.length = 8 then some (.wildcard true segments) else none
  else do
    let segments ← (splitOn '.' cs).mapM (readPlace? readOctet?)
    if segments.length = 4 then some (.wildcard false segments) else none

/-- Read a pattern with blanks around it. -/
def parse? (s : String) : Option IpPattern :=
  let cs := stripBlanks s.toList
  match IpAddress.read? cs with
  | some address => some (.exact address.canonical)
  | none => (readNetwork? cs).or (readWildcard? cs)

/-- Whether the places of a wildcard are all free or filled by the given numbers. -/
def fills (segments : List (Option Nat)) (numbers : List Nat) : Bool :=
  (segments.zip numbers).all fun (place, n) =>
    match place with
    | none => true
    | some m => m == n

/-- Whether an address, in its canonical form, fits a pattern. -/
def fits (p : IpPattern) (address : IpAddress) : Bool :=
  match p, address.canonical with
  | exact expected, a => expected == a
  | network net bits, a => a.sameLeadingBits bits net
  | wildcard false segments, .v4 bits => fills segments (IpAddress.octets bits)
  | wildcard true segments, .v6 bits => fills segments (IpAddress.segments bits)
  | wildcard _ _, _ => false

/-- Whether a live address fits the pattern of a threshold; `none` when one of the two cannot be
read. -/
def check? (live threshold : String) : Option Bool := do
  let p ← parse? threshold
  let address ← IpAddress.read? (stripBlanks live.toList)
  return p.fits address

end IpPattern
end Criteria
