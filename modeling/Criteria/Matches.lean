import Criteria.Evaluation
/-!
# Matches

What an evaluation over a source reports: the first ruleset that matches, or all that do.
-/
namespace Criteria

/-- The member that holds a record, which is left out when there is none. -/
def traceMember (lines : List TraceLine) : List (String × Value) :=
  if lines.isEmpty then [] else [("trace", .texts (lines.map TraceLine.text))]

/-- A ruleset that matches, at its first group that holds. -/
structure Match where
  ruleset : Ruleset
  group : Nat
  trace : List TraceLine

namespace Match

def document (m : Match) : Value :=
  .object ([("ruleset", m.ruleset.document), ("matched_group_index", .nat m.group)] ++
    traceMember m.trace)

end Match

/-- The first ruleset that matches, with its group, how many rulesets were evaluated, and the record
of all of them. -/
structure FirstMatch where
  hit : Option (Ruleset × Nat)
  evaluated : Nat
  trace : List TraceLine

namespace FirstMatch

def after (m : FirstMatch) (trace : List TraceLine) : FirstMatch :=
  { m with evaluated := m.evaluated + 1, trace := trace ++ m.trace }

def document (m : FirstMatch) : Value :=
  .object ([("matched", .bool m.hit.isSome),
    ("ruleset", (m.hit.map fun (r, _) => r.document).getD .null),
    ("matched_group_index", (m.hit.map fun (_, g) => .nat g).getD .null),
    ("evaluated_rulesets", .nat m.evaluated)] ++ traceMember m.trace)

end FirstMatch

namespace Evaluator

/-- Evaluate rulesets up to the first that matches. -/
def first (e : Evaluator) : List Ruleset → FirstMatch × List Call
  | [] => (⟨none, 0, []⟩, [])
  | r :: rest =>
    let evaluation := e.ruleset r
    match evaluation.result with
    | some g => (⟨some (r, g), 1, evaluation.trace⟩, evaluation.calls)
    | none =>
      let (m, calls) := first e rest
      (m.after evaluation.trace, evaluation.calls ++ calls)

/-- Evaluate all rulesets and keep those that match. -/
def all (e : Evaluator) : List Ruleset → List Match × List Call
  | [] => ([], [])
  | r :: rest =>
    let evaluation := e.ruleset r
    let (ms, calls) := all e rest
    match evaluation.result with
    | some g => (⟨r, g, evaluation.trace⟩ :: ms, evaluation.calls ++ calls)
    | none => (ms, evaluation.calls ++ calls)

end Evaluator
end Criteria
