import Criteria.Text.Blank
import Criteria.Text.Digits
/-!
# Internet addresses

Addresses of both families as words of 32 and 128 bits, their octets and segments, and their text
forms: four decimal octets, or eight hexadecimal segments of which one run of zeros may be left
out and the last two may be written as octets.
-/
namespace Criteria

inductive IpAddress
  | v4 (bits : BitVec 32)
  | v6 (bits : BitVec 128)
deriving DecidableEq, Repr

namespace IpAddress

/-- The address of four octets, the first one in the highest place. -/
def ofOctets (a b c d : Nat) : IpAddress :=
  .v4 (BitVec.ofNat 32 (((a * 256 + b) * 256 + c) * 256 + d))

/-- The address of segments of sixteen bits, the first one in the highest place. -/
def ofSegments (segments : List Nat) : IpAddress :=
  .v6 (BitVec.ofNat 128 (segments.foldl (fun n s => n * 65536 + s) 0))

def octets (bits : BitVec 32) : List Nat :=
  [24, 16, 8, 0].map fun shift => (bits >>> shift).toNat % 256

def segments (bits : BitVec 128) : List Nat :=
  [112, 96, 80, 64, 48, 32, 16, 0].map fun shift => (bits >>> shift).toNat % 65536

def width : IpAddress → Nat
  | v4 _ => 32
  | v6 _ => 128

/-- An address of the second family whose high 96 bits are those of the mapped range stands for one
of the first. -/
def canonical : IpAddress → IpAddress
  | v4 bits => v4 bits
  | v6 bits => if bits >>> 32 = 0xffff#128 then v4 (bits.setWidth 32) else v6 bits

/-- The word whose first bits are set, as many as are counted. A shift by the whole width is left
out. -/
def leadingMask (width count : Nat) : BitVec width :=
  if count = 0 then 0 else BitVec.allOnes width <<< (width - count)

/-- Whether two addresses are of one family and agree on their first bits. -/
def sameLeadingBits (count : Nat) : IpAddress → IpAddress → Bool
  | v4 a, v4 b => a &&& leadingMask 32 count == b &&& leadingMask 32 count
  | v6 a, v6 b => a &&& leadingMask 128 count == b &&& leadingMask 128 count
  | _, _ => false

/-! ### Text forms -/

open Text

/-- An octet at the front: at most three digits, no more than 255, and no zero in front of another
digit. -/
def readOctet? (cs : List Char) : Option (Nat × List Char) :=
  let (ds, rest) := spanDigits cs
  let n := digitsValue ds
  if ds.isEmpty || 3 < ds.length || 255 < n || (1 < ds.length && ds.head? == some '0') then none
  else some (n, rest)

def readNextOctet? : List Char → Option (Nat × List Char)
  | '.' :: cs => readOctet? cs
  | _ => none

def readOctets? (cs : List Char) : Option ((Nat × Nat × Nat × Nat) × List Char) := do
  let (a, cs) ← readOctet? cs
  let (b, cs) ← readNextOctet? cs
  let (c, cs) ← readNextOctet? cs
  let (d, cs) ← readNextOctet? cs
  return ((a, b, c, d), cs)

/-- A segment at the front: one to four hexadecimal digits. -/
def readSegment? (cs : List Char) : Option (Nat × List Char) :=
  let ds := cs.takeWhile fun c => (hexDigit? c).isSome
  if ds.isEmpty || 4 < ds.length then none
  else (hexValue? ds).map fun n => (n, cs.drop ds.length)

/-- A part behind a colon, or the first part without one. -/
def behindColon? {α : Type} (first : Bool) (part : List Char → Option (α × List Char))
    (cs : List Char) : Option (α × List Char) :=
  if first then part cs
  else
    match cs with
    | ':' :: rest => part rest
    | _ => none

/-- As many segments as possible, at most `room` of them; four octets count as the last two. Returns
the segments, whether octets ended them, and what follows. -/
def readSegments (first : Bool) : (room : Nat) → List Char → List Nat × Bool × List Char
  | 0, cs => ([], false, cs)
  | room + 1, cs =>
    match (if 0 < room then behindColon? first readOctets? cs else none) with
    | some ((a, b, c, d), rest) => ([a * 256 + b, c * 256 + d], true, rest)
    | none =>
      match behindColon? first readSegment? cs with
      | some (n, rest) =>
        let (ns, mixed, rest) := readSegments false room rest
        (n :: ns, mixed, rest)
      | none => ([], false, cs)

def readV6? (cs : List Char) : Option IpAddress :=
  match readSegments true 8 cs with
  | (front, mixed, rest) =>
    if front.length = 8 then if rest.isEmpty then some (ofSegments front) else none
    else if mixed then none
    else
      match rest with
      | ':' :: ':' :: rest =>
        let (back, _, rest) := readSegments true (7 - front.length) rest
        if rest.isEmpty then
          some (ofSegments (front ++ List.replicate (8 - front.length - back.length) 0 ++ back))
        else none
      | _ => none

def read? (cs : List Char) : Option IpAddress :=
  match readOctets? cs with
  | some ((a, b, c, d), rest) => if rest.isEmpty then some (ofOctets a b c d) else none
  | none => readV6? cs

end IpAddress
end Criteria
