import Criteria.Regex.Look
/-!
# Expressions

Regular expressions over single steps, and the positions of a text that a match can reach. A set of
positions is a natural number whose bit `i` stands for position `i`.
-/
namespace Criteria.Regex

/-- A single step: one character of a set, or an assertion about a position. -/
inductive Step
  | char (s : CharSet)
  | look (l : Look)

inductive Expression (α : Type)
  | empty
  | step (a : α)
  | sequence (e f : Expression α)
  | choice (e f : Expression α)
  | repeated (e : Expression α) (least : Nat) (most : Option Nat)
  | group (e : Expression α)

namespace Expression

def map {α β : Type} (f : α → β) : Expression α → Expression β
  | empty => empty
  | step a => step (f a)
  | sequence d e => sequence (d.map f) (e.map f)
  | choice d e => choice (d.map f) (e.map f)
  | repeated e least most => repeated (e.map f) least most
  | group e => group (e.map f)

end Expression

/-- A step on a given text: the positions where it is possible, and whether it moves on by one. -/
structure Move where
  places : Nat
  moves : Bool

namespace Move

/-- The positions after a step from some of the given positions. -/
def apply (m : Move) (positions : Nat) : Nat :=
  let here := positions &&& m.places
  if m.moves then here <<< 1 else here

end Move

def iterate {α : Type} (f : α → α) : Nat → α → α
  | 0, x => x
  | n + 1, x => iterate f n (f x)

/-- Add what a step from the newest positions reaches, a number of times or until nothing is new. -/
def accumulate (f : Nat → Nat) : Nat → Nat → Nat → Nat
  | 0, all, _ => all
  | n + 1, all, newest =>
    let reached := f newest
    let joined := all ||| reached
    if joined = all then all else accumulate f n joined reached

/-- The positions that a match can end at, when it begins at one of the given positions of a text of
`length` characters. After `length + 1` rounds of a repetition another round changes nothing. -/
def reach (length : Nat) : Expression Move → Nat → Nat
  | .empty, positions => positions
  | .step m, positions => m.apply positions
  | .sequence e f, positions => reach length f (reach length e positions)
  | .choice e f, positions => reach length e positions ||| reach length f positions
  | .repeated e least most, positions =>
    let start := iterate (reach length e) (min least (length + 1)) positions
    let rounds := match most with
      | none => length + 1
      | some most => min (most - least) (length + 1)
    accumulate (reach length e) rounds start start
  | .group e, positions => reach length e positions

/-- The positions of a text at which a condition on the two sides holds. -/
def placesWhere (holds : Option Char → Option Char → Bool) :
    (before : Option Char) → List Char → Nat
  | before, [] => if holds before none then 1 else 0
  | before, c :: cs =>
    (if holds before (some c) then 1 else 0) + 2 * placesWhere holds (some c) cs

def Step.onText (cs : List Char) : Step → Move
  | .char s => ⟨placesWhere (fun _ after => after.any s.has) none cs, true⟩
  | .look l => ⟨placesWhere l.holds none cs, false⟩

def Expression.matchesIn (e : Expression Step) (cs : List Char) : Bool :=
  reach cs.length (e.map (Step.onText cs)) (Nat.pow 2 (cs.length + 1) - 1) != 0

namespace Expression

def isWidthless : Expression Step → Bool
  | empty => true
  | step (.char _) => false
  | step (.look _) => true
  | sequence e f => e.isWidthless && f.isWidthless
  | choice e f => e.isWidthless && f.isWidthless
  | repeated e _ most => e.isWidthless || most == some 0
  | group e => e.isWidthless

/-- An estimate of the bytes that an automaton needs for an expression: repetitions are written out. -/
def weight : Expression Step → Nat
  | empty => 32
  | step (.char s) => s.weight
  | step (.look _) => 32
  | sequence e f => e.weight + f.weight
  | choice e f => e.weight + f.weight + 40
  | repeated e least most =>
    if most = some 0 then 32
    else
      let (least, most) :=
        if e.isWidthless then (min least 1, some (min (most.getD 1) 1)) else (least, most)
      match most with
      | none => max least 1 * e.weight + 40
      | some most => least * e.weight + (most - least) * (e.weight + 40)
  | group e => e.weight + 64

/-- Expressions may not need more than ten mebibytes. -/
def isSmall (e : Expression Step) : Bool :=
  e.weight ≤ 0xa00000

end Expression
end Criteria.Regex
