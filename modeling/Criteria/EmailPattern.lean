import Criteria.Text.Blank
import Criteria.Text.Pieces
import Criteria.Unicode.Letters
/-!
# Mail address patterns

A pattern is a full address, a domain with all its subdomains, or an ending of one or more labels
that has at least one label in front. Domains are compared in ASCII lower case, local parts as they
are.
-/
namespace Criteria

inductive EmailPattern
  | address (localPart domain : String)
  | domain (name : String)
  | ending (name : String)
deriving DecidableEq, Repr

namespace EmailPattern

open Text

def isLabelChar (c : Char) : Bool :=
  Unicode.isAlphanumeric c || c == '-' || c == '_'

/-- Labels separated by points, none of them empty. -/
def isDomain (cs : List Char) : Bool :=
  (splitOn '.' cs).all fun label => !label.isEmpty && label.all isLabelChar

def readDomain? (cs : List Char) : Option String :=
  if isDomain cs then some (String.ofList (cs.map Char.toLower)) else none

/-- The local part and the domain on the two sides of the first at sign. -/
def readAddress? (cs : List Char) : Option (String × String) := do
  let (front, back) ← splitOnce '@' cs
  if front.isEmpty then none
  else do
    let domain ← readDomain? back
    return (String.ofList front, domain)

/-- Read a pattern with blanks around it and none inside: an at sign inside makes it an address, one
in front a domain, a point in front an ending. -/
def parse? (s : String) : Option EmailPattern :=
  let cs := stripBlanks s.toList
  if cs.any isBlank then none
  else
    match cs with
    | [] => none
    | '@' :: rest => (readDomain? rest).map .domain
    | c :: rest =>
      if cs.contains '@' then (readAddress? cs).map fun (l, d) => .address l d
      else if c = '.' then (readDomain? rest).map .ending
      else (readDomain? cs).map .domain

def front? (cs ending : List Char) : Option (List Char) :=
  if ending.isSuffixOf cs then some (cs.take (cs.length - ending.length)) else none

/-- Whether a local part and a domain in lower case fit a pattern. -/
def fits (p : EmailPattern) (localPart domain : String) : Bool :=
  match p with
  | .address expectedLocal expectedDomain =>
    expectedLocal == localPart && expectedDomain == domain
  | .domain name =>
    domain == name ||
      match front? domain.toList name.toList with
      | some front => front.getLast? == some '.'
      | none => false
  | .ending name =>
    match front? domain.toList name.toList with
    | some front => 1 < front.length && front.getLast? == some '.'
    | none => false

/-- Whether a live address fits the pattern of a threshold; `none` when one of the two cannot be
read. -/
def check? (live threshold : String) : Option Bool := do
  let p ← parse? threshold
  let (localPart, name) ← readAddress? (stripBlanks live.toList)
  return p.fits localPart name

end EmailPattern
end Criteria
