import Criteria.Catalogue
import Criteria.Json.Writer
import Criteria.Resolution
import Criteria.Ruleset
import Criteria.Threshold
/-!
# Evaluation

A rule holds, fails or is skipped. A group holds when it is not empty and no rule of it fails, and a
ruleset matches at the first group that holds. What stands behind a failing rule of a group, and
behind the first group that holds, is not evaluated.
-/
namespace Criteria

inductive Outcome
  | skipped
  | holds
  | fails
deriving DecidableEq, Repr

def Outcome.text : Outcome → String
  | skipped => "SKIPPED"
  | holds => "TRUE"
  | fails => "FALSE"

def Outcome.ofBool (b : Bool) : Outcome :=
  if b then holds else fails

inductive TraceLine
  | emptyGroup (group : Nat)
  | rule (group index : Nat) (rule : Rule) (outcome : Outcome)
  | rulesLeft (group : Nat)
  | groupsLeft (group count : Nat)
  | noMatch (ruleset : String)

def TraceLine.text : TraceLine → String
  | emptyGroup g => s!"g{g}: 空组，不匹配"
  | rule g i r outcome =>
    s!"g{g}.r{i}: {r.condition} {r.operator} {r.value.compactText} => {outcome.text}"
  | rulesLeft g => s!"g{g}: AND 短路"
  | groupsLeft g n => s!"g{g}: 匹配，短路跳过剩余 {n} 个组"
  | noMatch id => s!"{id}: 无匹配组"

/-- A result with the record of how it came about and the resolver calls that it took. -/
structure Evaluation (α : Type) where
  result : α
  trace : List TraceLine
  calls : List Call

def Evaluation.after {α : Type} (e : Evaluation α) (trace : List TraceLine) (calls : List Call) :
    Evaluation α :=
  { e with trace := trace ++ e.trace, calls := calls ++ e.calls }

/-- How rulesets are evaluated: with which conditions, on which facts, with or without a record. -/
structure Evaluator where
  catalogue : Catalogue
  context : Context
  traced : Bool

namespace Evaluator

def record (e : Evaluator) (lines : List TraceLine) : List TraceLine :=
  if e.traced then lines else []

/-- The condition and the operator of a rule that is compared: the condition is registered, none of
its required arguments is missing, and it allows the operator. Any other rule has its outcome. -/
def comparison (e : Evaluator) (r : Rule) : Except Outcome (Condition × Operator) :=
  match e.catalogue.get? r.condition with
  | none => .error .fails
  | some c =>
    if (c.missingArgument? e.context).isSome then .error .skipped
    else
      match r.operator? with
      | some op => if c.allows op then .ok (c, op) else .error .fails
      | none => .error .fails

/-- The outcome of a rule, and the resolver calls that it took. A rule whose operands cannot be
resolved fails. -/
def judge (e : Evaluator) (r : Rule) : Outcome × List Call :=
  match e.comparison r with
  | .error o => (o, [])
  | .ok (c, op) =>
    match c.resolve r.value e.context with
    | (.error _, calls) => (.fails, calls)
    | (.ok operands, calls) =>
      (.ofBool (c.type.compare op operands.live operands.threshold), calls)

def outcome (e : Evaluator) (r : Rule) : Outcome :=
  (e.judge r).1

/-- Evaluate the rules of group `g` from position `i` on, up to the first that fails. -/
def rules (e : Evaluator) (g : Nat) : (i : Nat) → List Rule → Evaluation Bool
  | _, [] => ⟨true, [], []⟩
  | i, r :: rest =>
    let (o, calls) := e.judge r
    let line := TraceLine.rule g i r o
    if o = .fails then
      ⟨false, e.record (line :: if rest.isEmpty then [] else [.rulesLeft g]), calls⟩
    else (rules e g (i + 1) rest).after (e.record [line]) calls

def group (e : Evaluator) (g : Nat) (rs : Group) : Evaluation Bool :=
  if rs.isEmpty then ⟨false, e.record [.emptyGroup g], []⟩ else e.rules g 0 rs

/-- Evaluate the groups from position `g` on, up to the first that holds. -/
def groups (e : Evaluator) (id : String) : (g : Nat) → List Group → Evaluation (Option Nat)
  | _, [] => ⟨none, e.record [.noMatch id], []⟩
  | g, rs :: rest =>
    let first := e.group g rs
    if first.result then
      ⟨some g, first.trace ++
        e.record (if rest.isEmpty then [] else [.groupsLeft g rest.length]), first.calls⟩
    else (groups e id (g + 1) rest).after first.trace first.calls

/-- Evaluate a ruleset; the result is the first group that holds. -/
def ruleset (e : Evaluator) (r : Ruleset) : Evaluation (Option Nat) :=
  e.groups r.id 0 r.groups

end Evaluator
end Criteria
